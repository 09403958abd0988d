import CrossRate.Proofs.Feed.ReferenceRates

/-!
# The day that a quote is listed under

In a document a quote is listed under the day that the innermost element around it names, its
own tag included. What is read keeps one day at hand instead, which outlives the element that
named it and is not changed by a tag whose attributes cannot be read. `placesOf` gives both
days of every tag of a document. `DirectTable.KeepsDays` says of a table that it has no quote
of another day, and `keepsDays_iff` for which documents that is so.
-/

namespace CrossRate.ReferenceRates

/-- The day that a tag names for the quotes in it, which need not be readable. -/
def Cube.namedDay? (cube : Cube) : Option (Option Date) :=
  cube.time.map (fun time => Date.parseTight? (Text.trimChars time.toList))

/-- The day that an element names. If its attributes cannot be read it names no readable
day. -/
def namedDayOf? (tag : Markup.Tag) : Option (Option Date) :=
  if Markup.localName tag.name == Text.encode "Cube" then
    match tag.attributes with
    | some _ => (Cube.ofTag? tag).bind Cube.namedDay?
    | none => some none
  else none

/-- The days that the open elements name after a tag, innermost first, given those before
it. -/
def openedAfter (opened : List (Option (Option Date))) :
    Markup.Piece → List (Option (Option Date))
  | .start tag => namedDayOf? tag :: opened
  | .empty _ => opened
  | .close _ => opened.tail

/-- A tag at its place in a document. -/
structure Place where
  cube : Cube
  /-- The day at hand when the tag is read. -/
  atHand : Option Date
  /-- The readable day that the innermost element names which names any. -/
  listed : Option Date

/-- The places of tags that are read after a day at hand, in open elements. -/
def placesFrom (day : Option Date) (opened : List (Option (Option Date))) :
    List Markup.Piece → List Place
  | [] => []
  | piece :: rest =>
    match Cube.ofPiece? piece with
    | some cube =>
      ⟨cube, dayAfter day cube, (cube.namedDay?.or (opened.findSome? id)).join⟩
        :: placesFrom (dayAfter day cube) (openedAfter opened piece) rest
    | none => placesFrom day (openedAfter opened piece) rest

/-- The places of the tags of a document. -/
def placesOf (document : Bytes) : List Place :=
  ((Markup.read? document).map (placesFrom none [])).getD []

/-- All quotes of a table are listed in a document under the day that they stand under. -/
def KeepsDays (reader : FeedReader) (document : Bytes) (table : DirectTable) : Prop :=
  ∀ {day : Date} {currency : Currency} {r : RateRecord}, table.leaf day currency = some r →
    ∃ place ∈ placesOf document, place.listed = some day ∧ place.cube.quoteOn? reader day = some r

variable {reader : FeedReader}

namespace Place

/-- The quote that is added at a place, and the day at hand. -/
def taken? (reader : FeedReader) (place : Place) : Option (Date × RateRecord) :=
  place.cube.taken? reader place.atHand

/-- Whether a quote for a day and a currency is added at a place. -/
def takes (reader : FeedReader) (day : Date) (currency : Currency) (place : Place) : Bool :=
  (place.taken? reader).any (fun e => e.1 = day ∧ e.2.term = currency)

theorem taken?_eq_some_iff {place : Place} {day : Date} {r : RateRecord} :
  place.taken? reader = some (day, r)
    ↔ place.atHand = some day ∧ place.cube.quoteOn? reader day = some r
  := by
  rw [taken?, Cube.taken?, Option.bind_eq_some_iff]
  constructor
  · rintro ⟨date, atHand, h⟩
    obtain ⟨r', quote, ⟨⟩⟩ := Option.map_eq_some_iff.1 h
    exact ⟨atHand, quote⟩
  · rintro ⟨atHand, quote⟩
    use day, atHand
    rw [quote, Option.map_some]

end Place

/-- The quotes that tags add are those of their places, whatever elements are open. -/
theorem quotesFrom_eq_filterMap_placesFrom (pieces : List Markup.Piece) (day : Option Date)
    (opened : List (Option (Option Date))) :
  quotesFrom reader day (pieces.filterMap Cube.ofPiece?)
    = (placesFrom day opened pieces).filterMap (Place.taken? reader)
  := by
  induction pieces generalizing day opened with
  | nil => rfl
  | cons piece rest ih =>
    cases h : Cube.ofPiece? piece with
    | none => rw [List.filterMap_cons_none h, placesFrom, h, ih]
    | some cube =>
      rw [List.filterMap_cons_some h, placesFrom, h, quotesFrom, ih, List.filterMap_cons,
        Place.taken?]
      cases cube.taken? reader (dayAfter day cube) <;> rfl

/-- The quote of a day and a currency is the last one that is added for them. -/
theorem leaf_eq_some_iff {document : Bytes} {table : DirectTable}
    (h : read reader document = .ok table) {day : Date} {currency : Currency} {r : RateRecord} :
  table.leaf day currency = some r
    ↔ r.term = currency ∧ ∃ earlier place later, placesOf document = earlier ++ place :: later
        ∧ place.taken? reader = some (day, r)
        ∧ ∀ p ∈ later, p.takes reader day currency = false
  := by
  obtain ⟨pieces, parsed, -, rfl⟩ := read_eq_ok_iff.1 h
  have places : quotesOf reader pieces = (placesOf document).filterMap (Place.taken? reader) := by
    rw [placesOf, parsed]
    apply quotesFrom_eq_filterMap_placesFrom
  rw [leaf_insertAll_quotesOf, places]
  constructor
  · intro quote
    obtain ⟨⟨date, r'⟩, found, rfl⟩ := Option.map_eq_some_iff.1 quote
    obtain ⟨here, earlier, place, later, split, taken, lacking⟩ :=
      find?_reverse_filterMap_eq_some_iff.1 found
    obtain ⟨rfl, rfl⟩ : date = day ∧ r'.term = currency := by simpa using here
    exact ⟨rfl, earlier, place, later, split, taken, lacking⟩
  · rintro ⟨rfl, earlier, place, later, split, taken, lacking⟩
    rw [find?_reverse_filterMap_eq_some_iff.2
      ⟨by simp, earlier, place, later, split, taken, lacking⟩]
    rfl

/-- A table has no quote of another day just if every quote that is added with another day at
hand than it is listed under gives way to a later one or is listed under the day at hand as
well. -/
theorem keepsDays_iff {document : Bytes} {table : DirectTable}
    (h : read reader document = .ok table) :
  KeepsDays reader document table
    ↔ ∀ {earlier later : List Place} {place : Place} {day : Date} {r : RateRecord},
        placesOf document = earlier ++ place :: later → place.taken? reader = some (day, r) →
          place.listed ≠ some day →
            (∃ p ∈ later, p.takes reader day r.term)
              ∨ ∃ p ∈ placesOf document, p.listed = some day
                  ∧ p.cube.quoteOn? reader day = some r
  := by
  constructor
  · intro keeps earlier later place day r split taken _
    by_cases replaced : ∃ p ∈ later, p.takes reader day r.term
    · apply Or.inl replaced
    · right
      have leaf : table.leaf day r.term = some r := by
        rw [leaf_eq_some_iff h]
        use rfl, earlier, place, later, split, taken
        intro p hp
        rw [Bool.eq_false_iff]
        exact fun takes => replaced ⟨p, hp, takes⟩
      apply keeps leaf
  · intro condition day currency r leaf
    obtain ⟨rfl, earlier, place, later, split, taken, lacking⟩ := (leaf_eq_some_iff h).1 leaf
    by_cases listed : place.listed = some day
    · use place
      rw [split]
      use by simp, listed, (Place.taken?_eq_some_iff.1 taken).2
    · obtain ⟨p, hp, takes⟩ | found := condition split taken listed
      · simp [lacking p hp] at takes
      · apply found

/-- A document that closes a day before it opens the next one keeps its days. -/
theorem keepsDays_iff_two_days :
  ∃ (reader : FeedReader) (document : Bytes) (table : DirectTable),
    document = Text.encode
        ("<Cube><Cube time=\"2024-01-03\"><Cube currency=\"USD\" rate=\"1.1\"/></Cube>"
          ++ "<Cube time=\"2024-01-02\"><Cube currency=\"USD\" rate=\"1.2\"/></Cube></Cube>")
      ∧ read reader document = .ok table ∧ KeepsDays reader document table
  := by
  let reader : FeedReader := ⟨"ECB", ⟨739194, by decide, by decide⟩⟩
  let document := Text.encode
    ("<Cube><Cube time=\"2024-01-03\"><Cube currency=\"USD\" rate=\"1.1\"/></Cube>"
      ++ "<Cube time=\"2024-01-02\"><Cube currency=\"USD\" rate=\"1.2\"/></Cube></Cube>")
  have accepted : (read reader document).toOption.isSome = true := by decide +kernel
  have listed : (placesOf document).all (fun p => p.listed = p.atHand) = true := by decide +kernel
  obtain ⟨table, h⟩ := Option.isSome_iff_exists.1 accepted
  rw [toOption_eq_some_iff] at h
  use reader, document, table, rfl, h
  rw [keepsDays_iff h]
  intro earlier later place day r split taken other
  have same : place.listed = place.atHand := by
    simpa using List.all_eq_true.1 listed place (by simp [split])
  rw [same, (Place.taken?_eq_some_iff.1 taken).1] at other
  exact absurd rfl other

/-- The quotes in an element whose attributes cannot be read are added to the day before,
where one of them replaces a quote that is listed under it and the other one is not listed. -/
theorem not_keepsDays_of_unreadable_attributes :
  ∃ (reader : FeedReader) (document : Bytes) (table : DirectTable),
    document = Text.encode
        ("<Cube><Cube time=\"2024-01-03\"><Cube currency=\"USD\" rate=\"1.1\"/></Cube>"
          ++ "<Cube time=\"2024-01-02\" bad><Cube currency=\"USD\" rate=\"9.9\"/>"
          ++ "<Cube currency=\"JPY\" rate=\"150\"/></Cube></Cube>")
      ∧ read reader document = .ok table ∧ ¬ KeepsDays reader document table
  := by
  let reader : FeedReader := ⟨"ECB", ⟨739194, by decide, by decide⟩⟩
  let day : Date := ⟨739193, by decide, by decide⟩
  let document := Text.encode
    ("<Cube><Cube time=\"2024-01-03\"><Cube currency=\"USD\" rate=\"1.1\"/></Cube>"
      ++ "<Cube time=\"2024-01-02\" bad><Cube currency=\"USD\" rate=\"9.9\"/>"
      ++ "<Cube currency=\"JPY\" rate=\"150\"/></Cube></Cube>")
  have stored : (read reader document).toOption.any (fun table =>
      (table.leaf day (.ofCode "JPY")).any (fun r => r.term = .ofCode "JPY")) = true := by
    decide +kernel
  have unlisted : (placesOf document).all (fun p => p.listed = some day →
      (p.cube.quoteOn? reader day).all (fun r => r.term ≠ .ofCode "JPY")) = true := by
    decide +kernel
  obtain ⟨table, h, leaf⟩ := (Option.any_eq_true _ _).1 stored
  obtain ⟨r, leaf, term⟩ := (Option.any_eq_true _ _).1 leaf
  rw [toOption_eq_some_iff] at h
  use reader, document, table, rfl, h
  intro keeps
  obtain ⟨place, hp, under, quote⟩ := keeps leaf
  have other : r.term ≠ .ofCode "JPY" := by
    simpa [under, quote] using List.all_eq_true.1 unlisted place hp
  apply other
  apply of_decide_eq_true term

end CrossRate.ReferenceRates
