import CrossRate.Feed.ReferenceRates
import CrossRate.Proofs.Table.Bridging
import CrossRate.Proofs.Table.Direct

/-!
# Quotes of the reference rates

The table of a document is that of the quotes that its tags add, one after the other
(`quotesFrom`, `read_eq_ok_iff`). Each is a quote from the euro on the day at hand, so the
table is sound, and none of its days is without quotes.
-/

namespace CrossRate.ReferenceRates

variable {reader : FeedReader}

/-- The quote of a tag on a day, if the tag has a currency and a rate. -/
def Cube.quoteOn? (reader : FeedReader) (day : Date) (cube : Cube) : Option RateRecord := do
  quote? reader day (← cube.currency) (← cube.rate)

/-- The quote that a tag adds when it is read with a day at hand, and that day. -/
def Cube.taken? (reader : FeedReader) (day : Option Date) (cube : Cube) :
    Option (Date × RateRecord) :=
  day.bind (fun date => (cube.quoteOn? reader date).map (date, ·))

/-- The quotes that tags add, the first of them read after a day at hand. -/
def quotesFrom (reader : FeedReader) (day : Option Date) : List Cube → List (Date × RateRecord)
  | [] => []
  | cube :: rest =>
    (cube.taken? reader (dayAfter day cube)).toList
      ++ quotesFrom reader (dayAfter day cube) rest

/-- A tag changes the day at hand, and adds its quote on that day. -/
theorem readCube_eq (progress : Progress) (cube : Cube) :
  readCube reader progress cube
    = ⟨dayAfter progress.day cube,
        progress.table.insertAll (cube.taken? reader (dayAfter progress.day cube)).toList⟩
  := by
  simp only [readCube, Cube.taken?, Cube.quoteOn?]
  cases dayAfter progress.day cube with
  | none => rfl
  | some date =>
    cases cube.currency with
    | none => rfl
    | some currency =>
      cases cube.rate with
      | none => rfl
      | some rate => cases h : quote? reader date currency rate <;> simp [h]

/-- Reading tags adds their quotes. -/
theorem table_foldl_readCube (cubes : List Cube) (day : Option Date) (table : DirectTable) :
  (cubes.foldl (readCube reader) ⟨day, table⟩).table
    = table.insertAll (quotesFrom reader day cubes)
  := by
  induction cubes generalizing day table with
  | nil => rfl
  | cons cube rest ih =>
    rw [List.foldl_cons, readCube_eq, ih, quotesFrom, DirectTable.insertAll_append]

/-- The quotes that a document adds to a table. -/
def quotesOf (reader : FeedReader) (pieces : List Markup.Piece) : List (Date × RateRecord) :=
  quotesFrom reader none (pieces.filterMap Cube.ofPiece?)

/-- A document that is well formed is read if it adds a quote. -/
theorem read_of_pieces {document : Bytes} {pieces : List Markup.Piece}
    (h : Markup.read? document = some pieces) :
  read reader document
    = if quotesOf reader pieces = [] then .error .noQuotes
      else .ok ((DirectTable.empty .euro).insertAll (quotesOf reader pieces))
  := by
  have isEmpty : ((DirectTable.empty .euro).insertAll (quotesOf reader pieces)).days.isEmpty
      = (quotesOf reader pieces).isEmpty := by
    rw [DirectTable.isEmpty_days_insertAll, DirectTable.isEmpty_days_empty, Bool.true_and]
  rw [read, h]
  simp only [table_foldl_readCube]
  rw [← quotesOf, isEmpty]
  simp only [List.isEmpty_iff]

/-- A document is read if it is well formed and adds a quote. -/
theorem read_eq_ok_iff {document : Bytes} {table : DirectTable} :
  read reader document = .ok table
    ↔ ∃ pieces, Markup.read? document = some pieces ∧ quotesOf reader pieces ≠ []
        ∧ table = (DirectTable.empty .euro).insertAll (quotesOf reader pieces)
  := by
  cases h : Markup.read? document with
  | none => simp [read, h]
  | some pieces =>
    rw [read_of_pieces h]
    split
    · rename_i no_quotes
      simp [no_quotes]
    · rename_i quotes
      simp only [Except.ok.injEq, Option.some.injEq, exists_eq_left', ne_eq, quotes,
        not_false_eq_true, true_and]
      apply eq_comm

/-- A quote that a tag adds is one from the euro on the day at hand. -/
theorem isQuote_taken? {day : Option Date} {cube : Cube} {date : Date} {r : RateRecord}
    (h : cube.taken? reader day = some (date, r)) :
  day = some date ∧ r.IsQuote reader date ⟨.euro, r.term⟩
  := by
  obtain ⟨date', rfl, h⟩ := Option.bind_eq_some_iff.1 h
  obtain ⟨r', h, ⟨⟩⟩ := Option.map_eq_some_iff.1 h
  simp only [Cube.quoteOn?, quote?, Option.bind_eq_bind, Option.bind_eq_some_iff] at h
  obtain ⟨currency, -, rate, -, term, -, factor, -, h⟩ := h
  obtain rfl : r.term = term := congrArg CurrencyPair.term (FeedReader.isQuote_quote? h).pair
  exact ⟨rfl, FeedReader.isQuote_quote? h⟩

theorem isQuote_of_mem_quotesFrom {cubes : List Cube} {day : Option Date} {date : Date}
    {r : RateRecord} (h : (date, r) ∈ quotesFrom reader day cubes) :
  r.IsQuote reader date ⟨.euro, r.term⟩
  := by
  induction cubes generalizing day with
  | nil => simp [quotesFrom] at h
  | cons cube rest ih =>
    rw [quotesFrom, List.mem_append, Option.mem_toList] at h
    obtain h | h := h
    · apply (isQuote_taken? h).2
    · apply ih h

/-- The quote of a day and a currency is the last one that the document adds for them. -/
theorem leaf_insertAll_quotesOf (pieces : List Markup.Piece) (day : Date) (currency : Currency) :
  ((DirectTable.empty .euro).insertAll (quotesOf reader pieces)).leaf day currency
    = ((quotesOf reader pieces).reverse.find?
        (fun e => e.1 = day ∧ e.2.term = currency)).map (·.2)
  := by rw [DirectTable.leaf_insertAll, DirectTable.leaf_empty, Option.or_none]

/-- The table of a document is against the euro. -/
theorem pivot_of_read {document : Bytes} {table : DirectTable}
    (h : read reader document = .ok table) :
  table.pivot = .euro
  := by
  obtain ⟨pieces, -, -, rfl⟩ := read_eq_ok_iff.1 h
  apply DirectTable.pivot_insertAll

/-- The table of a document holds quotes only. -/
theorem isSound_of_read {document : Bytes} {table : DirectTable}
    (h : read reader document = .ok table) :
  table.IsSound reader
  := by
  intro day currency r leaf
  rw [pivot_of_read h]
  obtain ⟨pieces, -, -, rfl⟩ := read_eq_ok_iff.1 h
  rw [leaf_insertAll_quotesOf] at leaf
  obtain ⟨⟨day', r'⟩, found, rfl⟩ := Option.map_eq_some_iff.1 leaf
  obtain ⟨rfl, rfl⟩ : day' = day ∧ r'.term = currency := by simpa using List.find?_some found
  apply isQuote_of_mem_quotesFrom
  apply List.mem_reverse.1 (List.mem_of_find?_eq_some found)

/-- No day of the table of a document is without quotes. -/
theorem inhabited_of_read {document : Bytes} {table : DirectTable}
    (h : read reader document = .ok table) :
  table.Inhabited
  := by
  obtain ⟨pieces, -, -, rfl⟩ := read_eq_ok_iff.1 h
  apply (DirectTable.inhabited_empty _).insertAll

/-! ### Readers -/

/-- Whether a tag adds a quote does not depend on the reader. -/
theorem isSome_taken? (reader reader' : FeedReader) (day : Option Date) (cube : Cube) :
  (cube.taken? reader day).isSome = (cube.taken? reader' day).isSome
  := by
  have quote (date : Date) (pair : CurrencyPair) (factor : Decimal) :
      (reader.quote? date pair factor).isSome = (reader'.quote? date pair factor).isSome := by
    rw [FeedReader.quote?_eq_ite, FeedReader.quote?_eq_ite]
    split <;> rfl
  simp only [Cube.taken?, Cube.quoteOn?, quote?, Option.bind_eq_bind, Option.isSome_bind,
    Option.isSome_map, quote]

/-- Whether a document is read does not depend on the reader. -/
theorem exists_read {document : Bytes} {table : DirectTable}
    (h : read reader document = .ok table) (reader' : FeedReader) :
  ∃ table', read reader' document = .ok table'
  := by
  have quotes (day : Option Date) (cubes : List Cube)
      (none : quotesFrom reader' day cubes = []) : quotesFrom reader day cubes = [] := by
    induction cubes generalizing day with
    | nil => rfl
    | cons cube rest ih =>
      rw [quotesFrom, List.append_eq_nil_iff, Option.toList_eq_nil_iff] at none ⊢
      constructor
      · rw [← Option.isNone_iff_eq_none, ← Option.not_isSome, isSome_taken? reader reader']
        simp [none.1]
      · apply ih _ none.2
  obtain ⟨pieces, parsed, some, -⟩ := read_eq_ok_iff.1 h
  exact ⟨_, read_eq_ok_iff.2 ⟨pieces, parsed, fun none => some (quotes _ _ none), rfl⟩⟩

end CrossRate.ReferenceRates
