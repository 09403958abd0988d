import CrossRate.Proofs.Rate.Quote

/-!
# Answers from a table

What a table answers when all it holds are quotes against its pivot. `RateRecord.Answers` says
what an answer looks like in each of the four cases of bridging, and
`PivotQuotes.IsSound.bridge` that every answer looks like that, whatever the layout. On the day of
the query an answer depends only if no day is asked for and the table lags (`RateTable.lags`).
-/

namespace CrossRate

/-- A record that answers a query on a day, as a reader of a feed against a pivot gives it: a
unit rate between the pivot and itself, a quote if one side of the query is the pivot, and
else the product of a quote to the pivot and one from it. -/
structure RateRecord.Answers (r : RateRecord) (query : RateQuery) (reader : FeedReader)
    (pivot : Currency) (day : Date) : Prop where
  base : r.base = query.base
  term : r.term = query.term
  provider : r.provider = reader.provider
  positive : r.factor.isPositive
  asOf : r.asOf = some day
  /-- The rate of the pivot to itself is one. -/
  unit : query.base = pivot → query.term = pivot →
    r.factor = .one ∧ r.kind = .historic ∧ r.chain = []
  /-- A rate to the pivot is a quote, which may have been inverted. -/
  toPivot : query.base ≠ pivot → query.term = pivot →
    r.kind = (if day = reader.today then .deferred else .historic) ∧ r.chain = []
  /-- A rate from the pivot is a quote. -/
  fromPivot : query.base = pivot → query.term ≠ pivot →
    r.kind = (if day = reader.today then .deferred else .historic) ∧ r.chain = []
  /-- Any other rate is bridged by two quotes of its day. -/
  bridged : query.base ≠ pivot → query.term ≠ pivot →
    r.kind = .historic ∧ chainProduct r.chain = .ok r.factor ∧
      ∃ first second, r.chain = [first, second]
        ∧ first.IsQuote reader day ⟨query.base, pivot⟩
        ∧ second.IsQuote reader day ⟨pivot, query.term⟩

namespace PivotQuotes

/-- All that a table gives to and from its pivot are quotes of the day and the currency that
it is asked for. -/
structure IsSound (quotes : PivotQuotes) (reader : FeedReader) : Prop where
  toPivot {currency : Currency} {day : Date} {r : RateRecord} :
    quotes.toPivot currency day = .ok (some r) → r.IsQuote reader day ⟨currency, quotes.pivot⟩
  fromPivot {currency : Currency} {day : Date} {r : RateRecord} :
    quotes.fromPivot currency day = some r → r.IsQuote reader day ⟨quotes.pivot, currency⟩

/-- All that a table gives to and from its pivot for a day are quotes of that day and the
currency that it is asked for. -/
structure IsSoundOn (quotes : PivotQuotes) (reader : FeedReader) (day : Date) : Prop where
  toPivot {currency : Currency} {r : RateRecord} :
    quotes.toPivot currency day = .ok (some r) → r.IsQuote reader day ⟨currency, quotes.pivot⟩
  fromPivot {currency : Currency} {r : RateRecord} :
    quotes.fromPivot currency day = some r → r.IsQuote reader day ⟨quotes.pivot, currency⟩

theorem orUnavailable_eq_ok_iff {query : RateQuery} {provider : String}
    {answer : Option RateRecord} {r : RateRecord} :
  orUnavailable query provider answer = .ok r ↔ answer = some r
  := by cases answer <;> simp [orUnavailable]

variable {quotes : PivotQuotes} {reader : FeedReader} {query : RateQuery} {day : Date}
  {r : RateRecord}

theorem IsSound.on (sound : quotes.IsSound reader) (day : Date) : quotes.IsSoundOn reader day
  := ⟨sound.toPivot, sound.fromPivot⟩

/-- The rate of the pivot to itself. -/
theorem answers_of_unit (base : query.base = quotes.pivot) (term : query.term = quotes.pivot)
    (h : quotes.answerOn reader.provider query day = .ok r) :
  r.Answers query reader quotes.pivot day
  := by
  rw [answerOn, if_pos ⟨base, term⟩, mapError_eq_ok_iff, RateDraft.build_eq_ok_iff] at h
  obtain ⟨draft, positive, -⟩ := h
  obtain ⟨context, base', term', factor, chain, asOf⟩ := r
  simp only [derived, RateDraft.ofRecord, RateDraft.mk.injEq, Option.some.injEq] at draft
  obtain ⟨rfl, rfl, rfl, rfl, rfl, rfl⟩ := draft
  constructor
  case base => rfl
  case term => rfl
  case provider => rfl
  case positive => apply positive
  case asOf => rfl
  case unit => exact fun _ _ => ⟨rfl, rfl, rfl⟩
  case toPivot => exact fun other => absurd base other
  case fromPivot => exact fun _ other => absurd term other
  case bridged => exact fun other => absurd base other

/-- A quote to the pivot, or from it, answers the query for its pair. -/
theorem answers_of_isQuote
    (sides : ¬ (query.base = quotes.pivot ↔ query.term = quotes.pivot))
    (hq : r.IsQuote reader day query.pair) :
  r.Answers query reader quotes.pivot day
  := by
  obtain ⟨pair, provider, kind, positive, chain, asOf⟩ := hq
  rw [RateRecord.pair, RateQuery.pair, CurrencyPair.mk.injEq] at pair
  constructor
  case base => apply pair.1
  case term => apply pair.2
  case provider => apply provider
  case positive => apply positive
  case asOf => apply asOf
  case unit => exact fun base term => absurd (iff_of_true base term) sides
  case toPivot => exact fun _ _ => ⟨kind, chain⟩
  case fromPivot => exact fun _ _ => ⟨kind, chain⟩
  case bridged => exact fun base term => absurd (iff_of_false base term) sides

/-- The product of a quote to the pivot and one from it. -/
theorem answers_of_bridge (sound : quotes.IsSoundOn reader day) (base : query.base ≠ quotes.pivot)
    (term : query.term ≠ quotes.pivot)
    (h : quotes.answerOn reader.provider query day = .ok r) :
  r.Answers query reader quotes.pivot day
  := by
  rw [answerOn, if_neg (fun sides => base sides.1), if_neg term, if_neg base] at h
  simp only [bind_eq_ok_iff, mapError_eq_ok_iff, orUnavailable_eq_ok_iff] at h
  obtain ⟨_, toPivot, first, rfl, second, fromPivot, factor, product, build⟩ := h
  obtain ⟨draft, positive, -⟩ := RateDraft.build_eq_ok_iff.1 build
  obtain ⟨context, base', term', factor', chain, asOf⟩ := r
  simp only [derived, RateDraft.ofRecord, RateDraft.mk.injEq, Option.some.injEq] at draft
  obtain ⟨rfl, rfl, rfl, rfl, rfl, rfl⟩ := draft
  constructor
  case base => rfl
  case term => rfl
  case provider => rfl
  case positive => apply positive
  case asOf => rfl
  case unit => exact fun same => absurd same base
  case toPivot => exact fun _ same => absurd same term
  case fromPivot => exact fun same => absurd same base
  case bridged =>
    exact fun _ _ => ⟨rfl, product, first, second, rfl, sound.toPivot toPivot,
      sound.fromPivot fromPivot⟩

/-- An answer on a day for which a table is sound is an answer for that day. -/
theorem IsSoundOn.answerOn (sound : quotes.IsSoundOn reader day)
    (h : quotes.answerOn reader.provider query day = .ok r) :
  r.Answers query reader quotes.pivot day
  := by
  by_cases base : query.base = quotes.pivot
  · by_cases term : query.term = quotes.pivot
    · apply answers_of_unit base term h
    · rw [PivotQuotes.answerOn, if_neg (fun sides => term sides.2), if_neg term, if_pos base,
        orUnavailable_eq_ok_iff] at h
      apply answers_of_isQuote (fun sides => term (sides.1 base))
      have := sound.fromPivot h
      rwa [← base] at this
  · by_cases term : query.term = quotes.pivot
    · rw [PivotQuotes.answerOn, if_neg (fun sides => base sides.1), if_pos term] at h
      simp only [bind_eq_ok_iff, mapError_eq_ok_iff, orUnavailable_eq_ok_iff] at h
      obtain ⟨_, toPivot, rfl⟩ := h
      apply answers_of_isQuote (fun sides => base (sides.2 term))
      have := sound.toPivot toPivot
      rwa [← term] at this
    · apply answers_of_bridge sound base term h

/-- Every answer of a sound table is an answer for the first day that covers the query. -/
theorem IsSound.bridge (sound : quotes.IsSound reader)
    (h : quotes.bridge reader.provider query = .ok r) :
  ∃ day, r.Answers query reader quotes.pivot day
  := by
  unfold PivotQuotes.bridge at h
  split at h
  · rename_i day _
    use day
    apply (sound.on day).answerOn h
  · simp at h

end PivotQuotes

/-! ### The two layouts -/

/-- All that a direct table holds are quotes from its pivot, for the day and the currency that
they stand under. -/
def DirectTable.IsSound (t : DirectTable) (reader : FeedReader) : Prop :=
  ∀ {day : Date} {currency : Currency} {r : RateRecord},
    t.leaf day currency = some r → r.IsQuote reader day ⟨t.pivot, currency⟩

/-- All that a dual table gives are quotes between its unit and a currency, for the day and
the currency that it is asked for. -/
structure DualTable.IsSound (t : DualTable) (reader : FeedReader) : Prop where
  toUnit {day : Date} {currency : Currency} {r : RateRecord} :
    t.toUnit? currency day = some r → r.IsQuote reader day ⟨currency, t.unit⟩
  fromUnit {day : Date} {currency : Currency} {r : RateRecord} :
    t.fromUnit? currency day = some r → r.IsQuote reader day ⟨t.unit, currency⟩

/-- A rate of a direct table to its pivot is the opposite of a quote. -/
theorem DirectTable.toPivot_eq_some_iff {t : DirectTable} {currency : Currency} {day : Date}
    {r : RateRecord} :
  t.pivotQuotes.toPivot currency day = .ok (some r)
    ↔ ∃ quote, t.leaf day currency = some quote ∧ invert quote = .ok r
  := by
  simp only [pivotQuotes]
  cases t.leaf day currency with
  | none => simp
  | some quote => cases inverse : invert quote <;> simp [inverse, Except.map]

/-- A direct table has no rate to its pivot for a currency without a quote. -/
theorem DirectTable.toPivot_eq_none_iff {t : DirectTable} {currency : Currency} {day : Date} :
  t.pivotQuotes.toPivot currency day = .ok none ↔ t.leaf day currency = none
  := by
  simp only [pivotQuotes]
  cases t.leaf day currency with
  | none => simp
  | some quote => cases inverse : invert quote <;> simp [inverse, Except.map]

theorem DirectTable.IsSound.pivotQuotes {t : DirectTable} {reader : FeedReader}
    (sound : t.IsSound reader) :
  t.pivotQuotes.IsSound reader
  := by
  constructor
  case toPivot =>
    intro currency day r h
    obtain ⟨quote, leaf, inverse⟩ := toPivot_eq_some_iff.1 h
    apply (sound leaf).invert inverse
  case fromPivot =>
    intro currency day r h
    apply sound h

theorem DualTable.IsSound.pivotQuotes {t : DualTable} {reader : FeedReader}
    (sound : t.IsSound reader) (today : Date) :
  (t.pivotQuotes today).IsSound reader
  := by
  constructor
  case toPivot =>
    intro currency day r h
    apply sound.toUnit
    simpa [DualTable.pivotQuotes] using h
  case fromPivot =>
    intro currency day r h
    apply sound.fromUnit h

/-- A table of either layout against a pivot is sound if all that it holds are quotes. -/
def RateTable.IsSound (table : RateTable) (reader : FeedReader) (pivot : Currency) : Prop :=
  match table with
  | .empty => True
  | .direct t => t.pivot = pivot ∧ t.IsSound reader
  | .dual t => t.unit = pivot ∧ t.IsSound reader

/-- Whatever a sound table resolves a query to is an answer to it. -/
theorem RateTable.IsSound.resolve {table : RateTable} {reader : FeedReader} {pivot : Currency}
    {query : RateQuery} {today : Date} {r : RateRecord} (sound : table.IsSound reader pivot)
    (h : table.resolve reader.provider query today = .ok r) :
  ∃ day, r.Answers query reader pivot day
  := by
  cases table with
  | empty => simp [RateTable.resolve] at h
  | direct t =>
    obtain ⟨rfl, sound⟩ := sound
    apply sound.pivotQuotes.bridge h
  | dual t =>
    obtain ⟨rfl, sound⟩ := sound
    apply (sound.pivotQuotes today).bridge h

/-! ### The day of a query -/

namespace RateTable

/-- Whether a table answers a query for no day by the days before today. -/
def lags : RateTable → Bool
  | dual _ => true
  | _ => false

/-- What is answered depends on today only for queries for no day, and only if the table lags. -/
theorem resolve_eq_of_lags {table : RateTable} {query : RateQuery}
    (dayless : query.asOf = none → table.lags = false) (provider : String) (today later : Date) :
  table.resolve provider query later = table.resolve provider query today
  := by
  cases table with
  | empty => rfl
  | direct t => rfl
  | dual t =>
    cases asOf : query.asOf with
    | none => cases dayless asOf
    | some day =>
      -- Only the candidates of a dual table depend on today, and a day that is asked for fixes them.
      have candidates : (t.pivotQuotes later).candidates query.asOf
          = (t.pivotQuotes today).candidates query.asOf := by rw [asOf]; rfl
      rw [resolve, resolve, PivotQuotes.bridge, PivotQuotes.bridge, candidates]
      rfl

end RateTable

end CrossRate
