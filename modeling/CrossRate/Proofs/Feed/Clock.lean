import CrossRate.Proofs.Table.Kinds

/-!
# Reading a feed on different days

Whoever reads a feed on some day marks the quotes for that day as deferred. This is all that the day
of reading matters for: on any two days a payload gives the same fault or tables that differ in the
kinds of the rates for these two days at most (`FeedFormat.readsAlike`).
-/

namespace CrossRate

variable {days : List Date} {reader reader' : FeedReader}

/-- The same provider reads on two of some days. -/
structure FeedReader.AreColleagues (days : List Date) (reader reader' : FeedReader) : Prop where
  provider : reader.provider = reader'.provider
  today : reader.today ∈ days
  today' : reader'.today ∈ days

namespace FeedReader.AreColleagues

variable (same : AreColleagues days reader reader')

include same

theorem blurred_record (day : Date) (pair : CurrencyPair) (factor : Decimal) :
  (reader.record day pair factor).blurred days = (reader'.record day pair factor).blurred days
  := by
  rw [FeedReader.blurred_record same.today, FeedReader.blurred_record same.today', same.provider]

/-- Both quote the same up to kinds. -/
theorem quote? (day : Date) (pair : CurrencyPair) (factor : Decimal) :
  (reader.quote? day pair factor).map (·.blurred days)
    = (reader'.quote? day pair factor).map (·.blurred days)
  := by
  rw [quote?_eq_ite, quote?_eq_ite]
  split
  · rw [Option.map_some, Option.map_some, same.blurred_record]
  · rfl

end FeedReader.AreColleagues

/-! ### Reference rates -/

namespace ReferenceRates

variable (same : FeedReader.AreColleagues days reader reader')

include same

theorem quote?_blurred (date : Date) (currency rate : String) :
  (quote? reader date currency rate).map (·.blurred days)
    = (quote? reader' date currency rate).map (·.blurred days)
  := by
  simp only [quote?, Option.bind_eq_bind]
  cases (Currency.parse currency).toOption with
  | none => simp only [Option.bind_none]
  | some term =>
    cases Decimal.parse? (Text.trim rate) with
    | none => simp only [Option.bind_some, Option.bind_none]
    | some factor =>
      simp only [Option.bind_some]
      apply same.quote?

/-- A tag has the same quote up to kinds. -/
theorem quoteOn?_blurred (date : Date) (cube : Cube) :
  (cube.quoteOn? reader date).map (·.blurred days)
    = (cube.quoteOn? reader' date).map (·.blurred days)
  := by
  simp only [Cube.quoteOn?, Option.bind_eq_bind]
  cases cube.currency with
  | none => simp only [Option.bind_none]
  | some currency =>
    cases cube.rate with
    | none => simp only [Option.bind_some, Option.bind_none]
    | some rate =>
      simp only [Option.bind_some]
      apply quote?_blurred same

theorem taken?_blurred (day : Option Date) (cube : Cube) :
  (cube.taken? reader day).map (fun e => (e.1, e.2.blurred days))
    = (cube.taken? reader' day).map (fun e => (e.1, e.2.blurred days))
  := by
  cases day with
  | none => rw [Cube.taken?, Option.bind_none, Cube.taken?, Option.bind_none]
  | some date =>
    have taken (reader : FeedReader) :
        (cube.taken? reader (some date)).map (fun e => (e.1, e.2.blurred days))
          = ((cube.quoteOn? reader date).map (·.blurred days)).map (date, ·) := by
      rw [Cube.taken?, Option.bind_some, Option.map_map, Option.map_map]
      rfl
    rw [taken, quoteOn?_blurred same, taken]

/-- The tags of a document add the same quotes up to kinds. -/
theorem quotesFrom_blurred (day : Option Date) (cubes : List Cube) :
  (quotesFrom reader day cubes).map (fun e => (e.1, e.2.blurred days))
    = (quotesFrom reader' day cubes).map (fun e => (e.1, e.2.blurred days))
  := by
  induction cubes generalizing day with
  | nil => rfl
  | cons cube rest ih =>
    rw [quotesFrom, List.map_append, ← Option.toList_map, taken?_blurred same, ih, quotesFrom,
      List.map_append, ← Option.toList_map]

/-- A document gives the same fault, or the same table up to kinds. -/
theorem read_blurred (document : Bytes) :
  mapBoth id (·.blurred days) (read reader document)
    = mapBoth id (·.blurred days) (read reader' document)
  := by
  cases parsed : Markup.read? document with
  | none => rw [read, parsed, read, parsed]
  | some pieces =>
    have quotes : (quotesOf reader pieces).map (fun e => (e.1, e.2.blurred days))
        = (quotesOf reader' pieces).map (fun e => (e.1, e.2.blurred days)) :=
      quotesFrom_blurred same none (pieces.filterMap Cube.ofPiece?)
    -- So both readers find no quotes, or both find some.
    have none : quotesOf reader pieces = [] ↔ quotesOf reader' pieces = [] := by
      rw [← List.map_eq_nil_iff, quotes, List.map_eq_nil_iff]
    rw [read_of_pieces parsed, read_of_pieces parsed]
    by_cases empty : quotesOf reader pieces = []
    · rw [if_pos empty, if_pos (none.1 empty)]
    · rw [if_neg empty, if_neg (mt none.2 empty), mapBoth, DirectTable.blurred_insertAll, quotes,
        ← DirectTable.blurred_insertAll, mapBoth]

end ReferenceRates

/-! ### Special drawing rights -/

namespace SdrTable

/-- A grid gives the same fault, or the same table up to kinds. -/
theorem read_blurred (same : FeedReader.AreColleagues days reader reader') (names : CurrencyNames)
    (grid : Bytes) :
  mapBoth id (·.blurred days) (read names reader grid)
    = mapBoth id (·.blurred days) (read names reader' grid)
  := by
  have rates (readings : List Reading) :
      (readings.map (Reading.rate reader)).map (fun e => (e.1, e.2.blurred days))
        = (readings.map (Reading.rate reader')).map (fun e => (e.1, e.2.blurred days)) := by
    rw [List.map_map, List.map_map]
    apply List.map_congr_left
    intro q _
    simp only [Function.comp_apply, Reading.rate, same.blurred_record]
  rw [read_eq_ite, read_eq_ite]
  split
  · rfl
  · split
    · rfl
    · split
      · rfl
      · rw [mapBoth, DualTable.blurred_finish, DualTable.blurred_pushAll, rates,
          ← DualTable.blurred_pushAll, ← DualTable.blurred_finish, mapBoth]

end SdrTable

/-! ### Feeds -/

namespace FeedFormat

/-- What comes of a payload that is read on two days: the same fault, or tables that differ in the
kinds of the rates for these days at most. -/
inductive ReadsAlike (format : FeedFormat) (provider : String) (payload : Bytes)
    (first second : Date) : Prop
  | fails (fault : FeedFault) :
    format.read ⟨provider, first⟩ payload = .error fault →
    format.read ⟨provider, second⟩ payload = .error fault →
      ReadsAlike format provider payload first second
  | succeeds (s t : RateTable) :
    format.read ⟨provider, first⟩ payload = .ok s →
    format.read ⟨provider, second⟩ payload = .ok t →
    RateTable.DifferInKinds [first, second] s t →
      ReadsAlike format provider payload first second

/-- Payloads give the same fault, or the same tables up to kinds. -/
theorem read_blurred (same : FeedReader.AreColleagues days reader reader') (format : FeedFormat)
    (payload : Bytes) :
  mapBoth id (·.blurred days) (format.read reader payload)
    = mapBoth id (·.blurred days) (format.read reader' payload)
  := by
  have wrapped {α : Type} {f : α → α} {wrap : α → RateTable} {x y : Except FeedFault α}
      (wraps : ∀ a, (wrap a).blurred days = wrap (f a)) (alike : mapBoth id f x = mapBoth id f y) :
      mapBoth id (·.blurred days) (x.map wrap) = mapBoth id (·.blurred days) (y.map wrap) := by
    have inside (x : Except FeedFault α) :
        mapBoth id (·.blurred days) (x.map wrap) = (mapBoth id f x).map wrap := by
      cases x with
      | error fault => rfl
      | ok a => exact congrArg Except.ok (wraps a)
    rw [inside, alike, inside]
  cases format with
  | referenceRates => exact wrapped (fun _ => rfl) (ReferenceRates.read_blurred same payload)
  | sdrTable names => exact wrapped (fun _ => rfl) (SdrTable.read_blurred same names payload)

/-- It does not matter on which day a payload is read but for the kinds of the rates for that day. -/
theorem readsAlike (format : FeedFormat) (provider : String) (payload : Bytes)
    (first second : Date) :
  format.ReadsAlike provider payload first second
  := by
  have same : FeedReader.AreColleagues [first, second] ⟨provider, first⟩ ⟨provider, second⟩ :=
    ⟨rfl, by simp, by simp⟩
  have blurred := format.read_blurred same payload
  cases read : format.read ⟨provider, first⟩ payload with
  | error fault =>
    cases read' : format.read ⟨provider, second⟩ payload with
    | error fault' =>
      rw [read, read'] at blurred
      obtain rfl : fault = fault' := Except.error.inj blurred
      exact .fails fault read read'
    | ok t =>
      rw [read, read'] at blurred
      cases blurred
  | ok s =>
    cases read' : format.read ⟨provider, second⟩ payload with
    | error fault' =>
      rw [read, read'] at blurred
      cases blurred
    | ok t =>
      rw [read, read'] at blurred
      have loaded : t.IsLoaded := .read read'
      exact .succeeds s t read read'
        (RateTable.differInKinds_of_blurred_eq (Except.ok.inj blurred) loaded.isMade loaded.isKeyed)

end FeedFormat

end CrossRate
