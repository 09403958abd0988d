import CrossRate.Proofs.Rate.Kinds
import CrossRate.Proofs.Table.Stability

/-!
# Tables up to the kinds for some days

A table whose records have their kinds for some days forgotten (`RateTable.blurred`) answers as the
table itself does, with these kinds forgotten (`RateTable.resolve_blurred`). So tables that differ in
the kinds for some days at most have the same resolution days, and give answers that differ in these
kinds at most.
-/

namespace CrossRate

/-- Why there is no answer, with the kinds for some days forgotten. -/
def RateError.blurred (days : List Date) : RateError → RateError
  | .invalidRate fault => .invalidRate (fault.blurred days)
  | e => e

/-- An answer with the kinds for some days forgotten. -/
def blurredAnswer (days : List Date) (answer : Except RateError RateRecord) :
    Except RateError RateRecord :=
  mapBoth (·.blurred days) (·.blurred days) answer

variable {days : List Date} {provider : String} {query : RateQuery} {day today : Date}

/-! ### Bridging -/

namespace PivotQuotes

/-- The rates of a table with the kinds for some days forgotten. -/
def blurred (days : List Date) (quotes : PivotQuotes) : PivotQuotes :=
  { quotes with
    toPivot := fun currency day =>
      mapBoth (·.blurred days) (·.map (·.blurred days)) (quotes.toPivot currency day)
    fromPivot := fun currency day => (quotes.fromPivot currency day).map (·.blurred days) }

@[simp]
theorem pivot_blurred (quotes : PivotQuotes) : (quotes.blurred days).pivot = quotes.pivot
  := rfl

@[simp]
theorem toPivot_blurred (quotes : PivotQuotes) (currency : Currency) :
  (quotes.blurred days).toPivot currency day
    = mapBoth (·.blurred days) (·.map (·.blurred days)) (quotes.toPivot currency day)
  := rfl

@[simp]
theorem fromPivot_blurred (quotes : PivotQuotes) (currency : Currency) :
  (quotes.blurred days).fromPivot currency day
    = (quotes.fromPivot currency day).map (·.blurred days)
  := rfl

/-- What is derived counts as history anyway, so only its chain has kinds to forget. -/
theorem blurredAnswer_build_derived (factor : Decimal) (chain : List RateRecord) :
  blurredAnswer days (({ derived query provider day with
      factor := some factor, chain := chain }.build).mapError .invalidRate)
    = ({ derived query provider day with
      factor := some factor, chain := chain.map (RateRecord.blurred days) }.build).mapError .invalidRate
  := by
  have history (asOf : Option Date) :
      RateContext.blurred days asOf ⟨provider, .historic⟩ = ⟨provider, .historic⟩ := by
    rw [RateContext.blurred, ite_self]
  have draft : RateDraft.blurred days { derived query provider day with
        factor := some factor, chain := chain }
      = { derived query provider day with
        factor := some factor, chain := chain.map (RateRecord.blurred days) } := by
    rw [RateDraft.blurred]
    simp only [derived, Option.map_some, history]
  rw [← draft, RateDraft.build_blurred]
  cases RateDraft.build _ <;> rfl

/-- On a given day kinds may be forgotten before or after. -/
theorem answerOn_blurred (quotes : PivotQuotes) :
  (quotes.blurred days).answerOn provider query day
    = blurredAnswer days (quotes.answerOn provider query day)
  := by
  by_cases base : query.base = quotes.pivot
  · by_cases term : query.term = quotes.pivot
    · rw [answerOn, if_pos ⟨base, term⟩, answerOn, if_pos ⟨base, term⟩]
      exact (blurredAnswer_build_derived .one []).symm
    · rw [answerOn, pivot_blurred, if_neg (fun sides => term sides.2), if_neg term, if_pos base,
        answerOn, if_neg (fun sides => term sides.2), if_neg term, if_pos base, fromPivot_blurred]
      cases quotes.fromPivot query.term day <;> rfl
  · by_cases term : query.term = quotes.pivot
    · rw [answerOn, pivot_blurred, if_neg (fun sides => base sides.1), if_pos term, answerOn,
        if_neg (fun sides => base sides.1), if_pos term, toPivot_blurred]
      cases quotes.toPivot query.base day with
      | error fault => rfl
      | ok first => cases first <;> rfl
    · rw [answerOn, pivot_blurred, if_neg (fun sides => base sides.1), if_neg term, if_neg base,
        answerOn, if_neg (fun sides => base sides.1), if_neg term, if_neg base, toPivot_blurred,
        fromPivot_blurred]
      cases quotes.toPivot query.base day with
      | error fault => rfl
      | ok first =>
        cases first with
        | none => rfl
        | some first =>
          cases quotes.fromPivot query.term day with
          | none => rfl
          | some second =>
            -- The legs keep their factors, so the product is the same, and so is its overflow.
            have product : chainProduct [first.blurred days, second.blurred days]
                = chainProduct [first, second] := chainProduct_map_blurred days [first, second]
            simp only [mapBoth, Option.map_some, Except.mapError, orUnavailable, bind, Except.bind,
              product]
            cases multiplied : chainProduct [first, second] with
            | error fault =>
              obtain rfl := eq_of_chainProduct_eq_error multiplied
              rfl
            | ok factor => exact (blurredAnswer_build_derived factor [first, second]).symm

theorem bridge_blurred (quotes : PivotQuotes) :
  (quotes.blurred days).bridge provider query = blurredAnswer days (quotes.bridge provider query)
  := by
  have day : ((quotes.blurred days).candidates query.asOf).find?
        ((quotes.blurred days).covers · query.base query.term)
      = (quotes.candidates query.asOf).find? (quotes.covers · query.base query.term) := rfl
  rw [bridge, day, bridge]
  cases (quotes.candidates query.asOf).find? (quotes.covers · query.base query.term) with
  | none => rfl
  | some day => apply answerOn_blurred

end PivotQuotes

/-! ### Tables -/

namespace DirectTable

/-- A direct table with the kinds for some days forgotten. -/
def blurred (days : List Date) (t : DirectTable) : DirectTable :=
  { t with days := t.days.mapValues (·.mapValues (·.blurred days)) }

variable {t : DirectTable}

@[simp]
theorem leaf_blurred (currency : Currency) :
  (t.blurred days).leaf day currency = (t.leaf day currency).map (·.blurred days)
  := by
  rw [leaf, blurred, OrderedMap.get?_mapValues, leaf]
  cases t.days.get? day with
  | none => rfl
  | some quotes => apply OrderedMap.get?_mapValues

theorem pivotQuotes_blurred (days : List Date) (t : DirectTable) :
  (t.blurred days).pivotQuotes = t.pivotQuotes.blurred days
  := by
  rw [pivotQuotes, PivotQuotes.blurred, PivotQuotes.mk.injEq]
  refine ⟨rfl, ?_, ?_, ?_, ?_⟩
  · funext asOf
    cases asOf with
    | none => exact congrArg Option.toList (OrderedMap.greatestKey?_mapValues ..)
    | some day => rfl
  · funext day _ _
    apply OrderedMap.contains_mapValues
  · funext currency day
    simp only [leaf_blurred, pivotQuotes]
    cases t.leaf day currency with
    | none => rfl
    | some quote =>
      simp only [Option.map_some, invert_blurred]
      cases invert quote <;> rfl
  · funext currency day
    apply leaf_blurred

theorem isQuotedOn_blurred_iff : (t.blurred days).IsQuotedOn day ↔ t.IsQuotedOn day
  := by simp [IsQuotedOn]

/-- Forgetting kinds and adding a quote commute. -/
theorem blurred_insert (quote : RateRecord) :
  (t.insert day quote).blurred days = (t.blurred days).insert day (quote.blurred days)
  := by
  rw [insert, blurred, insert, blurred, OrderedMap.alter, OrderedMap.mapValues_insert,
    OrderedMap.mapValues_insert, OrderedMap.alter, OrderedMap.get?_mapValues,
    RateRecord.term_blurred]
  cases t.days.get? day <;> rfl

theorem blurred_insertAll (quotes : List (Date × RateRecord)) :
  (t.insertAll quotes).blurred days
    = (t.blurred days).insertAll (quotes.map (fun e => (e.1, e.2.blurred days)))
  := by
  induction quotes generalizing t with
  | nil => rfl
  | cons e quotes ih => rw [insertAll_cons, ih, blurred_insert, List.map_cons, insertAll_cons]

end DirectTable

namespace DualTable

/-- A dual table with the kinds for some days forgotten. -/
def blurred (days : List Date) (t : DualTable) : DualTable :=
  { t with
    toUnit := t.toUnit.mapValues (·.map (·.blurred days))
    fromUnit := t.fromUnit.mapValues (·.map (·.blurred days)) }

variable {t : DualTable}

theorem lookup_map_blurred (series : Option (List RateRecord)) :
  lookup (series.map (·.map (·.blurred days))) day = (lookup series day).map (·.blurred days)
  := by
  cases series with
  | none => rfl
  | some records =>
    rw [lookup, Option.map_some, Option.getD_some, List.find?_map, lookup, Option.getD_some]
    simp only [Function.comp_def, RateRecord.asOf_blurred]

@[simp]
theorem toUnit?_blurred (currency : Currency) :
  (t.blurred days).toUnit? currency day = (t.toUnit? currency day).map (·.blurred days)
  := by rw [toUnit?, blurred, OrderedMap.get?_mapValues, lookup_map_blurred, toUnit?]

@[simp]
theorem fromUnit?_blurred (currency : Currency) :
  (t.blurred days).fromUnit? currency day = (t.fromUnit? currency day).map (·.blurred days)
  := by rw [fromUnit?, blurred, OrderedMap.get?_mapValues, lookup_map_blurred, fromUnit?]

theorem pivotQuotes_blurred (days : List Date) (t : DualTable) (today : Date) :
  (t.blurred days).pivotQuotes today = (t.pivotQuotes today).blurred days
  := by
  rw [pivotQuotes, PivotQuotes.blurred, PivotQuotes.mk.injEq]
  refine ⟨rfl, ?_, ?_, ?_, ?_⟩
  · rfl
  · funext day base term
    simp only [toUnit?_blurred, fromUnit?_blurred, Option.isSome_map]
    rfl
  · funext currency day
    simp only [toUnit?_blurred]
    rfl
  · funext currency day
    apply fromUnit?_blurred

theorem isRatedOn_blurred_iff : (t.blurred days).IsRatedOn day ↔ t.IsRatedOn day
  := by
  have rate (currency : Currency) (direction : SdrTable.Direction) :
      (t.blurred days).rate? currency day direction
        = (t.rate? currency day direction).map (·.blurred days) := by
    cases direction
    · apply toUnit?_blurred
    · apply fromUnit?_blurred
  simp [IsRatedOn, rate]

theorem mapValues_addTo (series : OrderedMap Currency (List RateRecord)) (currency : Currency)
    (r : RateRecord) :
  (addTo series currency r).mapValues (·.map (·.blurred days))
    = addTo (series.mapValues (·.map (·.blurred days))) currency (r.blurred days)
  := by
  rw [addTo, OrderedMap.alter, OrderedMap.mapValues_insert, addTo, OrderedMap.alter,
    OrderedMap.get?_mapValues, List.map_append]
  cases series.get? currency <;> rfl

theorem addDay_blurred (held : OrderedMap Date Unit) (r : RateRecord) :
  addDay held (r.blurred days) = addDay held r
  := by rw [addDay, RateRecord.asOf_blurred, addDay]

/-- Forgetting kinds and pushing a rate commute. -/
theorem blurred_push (r : RateRecord) (direction : SdrTable.Direction) :
  (SdrTable.push t r direction).blurred days
    = SdrTable.push (t.blurred days) (r.blurred days) direction
  := by
  cases direction with
  | toUnit =>
    rw [SdrTable.push, pushToUnit, blurred, mapValues_addTo, SdrTable.push, pushToUnit, blurred,
      addDay_blurred, RateRecord.base_blurred]
  | fromUnit =>
    rw [SdrTable.push, pushFromUnit, blurred, mapValues_addTo, SdrTable.push, pushFromUnit, blurred,
      addDay_blurred, RateRecord.term_blurred]

theorem blurred_pushAll (rates : List (SdrTable.Direction × RateRecord)) :
  (t.pushAll rates).blurred days
    = (t.blurred days).pushAll (rates.map (fun e => (e.1, e.2.blurred days)))
  := by
  induction rates generalizing t with
  | nil => rfl
  | cons e rates ih =>
    rw [pushAll, List.foldl_cons, ← pushAll, ih, blurred_push, List.map_cons, pushAll, pushAll,
      List.foldl_cons]

theorem keepLast_map_blurred (series : List RateRecord) :
  keepLast (series.map (·.blurred days)) = (keepLast series).map (·.blurred days)
  := by
  fun_induction keepLast series with
  | case1 => rfl
  | case2 r => rfl
  | case3 r s rest same ih =>
    rw [List.map_cons, List.map_cons, keepLast, RateRecord.asOf_blurred, RateRecord.asOf_blurred,
      if_pos same, ← List.map_cons, ih]
  | case4 r s rest differ ih =>
    rw [List.map_cons, List.map_cons, keepLast, RateRecord.asOf_blurred, RateRecord.asOf_blurred,
      if_neg differ, ← List.map_cons, ih, List.map_cons]

/-- Forgetting kinds and putting a series in order commute. -/
theorem inOrder_map_blurred (series : List RateRecord) :
  inOrder (series.map (·.blurred days)) = (inOrder series).map (·.blurred days)
  := by
  rw [inOrder, ← List.map_mergeSort (r := fun r s => notAfter r.asOf s.asOf), keepLast_map_blurred,
    inOrder]
  intro r _ s _
  rw [RateRecord.asOf_blurred, RateRecord.asOf_blurred]

theorem blurred_finish : t.finish.blurred days = (t.blurred days).finish
  := by
  have commute (series : OrderedMap Currency (List RateRecord)) :
      (series.mapValues inOrder).mapValues (·.map (·.blurred days))
        = (series.mapValues (·.map (·.blurred days))).mapValues inOrder := by
    rw [OrderedMap.mapValues_mapValues, OrderedMap.mapValues_mapValues]
    congr 1
    funext records
    apply (inOrder_map_blurred records).symm
  rw [finish, blurred, commute, commute, blurred, finish]

end DualTable

namespace RateTable

/-- A table with the kinds for some days forgotten. -/
def blurred (days : List Date) : RateTable → RateTable
  | empty => empty
  | direct t => direct (t.blurred days)
  | dual t => dual (t.blurred days)

/-- Queries are answered alike whether kinds are forgotten before or after. -/
theorem resolve_blurred (days : List Date) (table : RateTable) (provider : String)
    (query : RateQuery) (today : Date) :
  (table.blurred days).resolve provider query today
    = blurredAnswer days (table.resolve provider query today)
  := by
  cases table with
  | empty => rfl
  | direct t =>
    rw [blurred, resolve, resolve, DirectTable.pivotQuotes_blurred]
    apply PivotQuotes.bridge_blurred
  | dual t =>
    rw [blurred, resolve, resolve, DualTable.pivotQuotes_blurred]
    apply PivotQuotes.bridge_blurred

variable {table s t : RateTable} {now : Date}

theorem isCandidate_blurred_iff {asOf : Option Date} :
  (table.blurred days).IsCandidate asOf today day ↔ table.IsCandidate asOf today day
  := by
  cases asOf with
  | some asked => rfl
  | none =>
    cases table with
    | empty => rfl
    | direct t => simp only [blurred, IsCandidate, DirectTable.isQuotedOn_blurred_iff]
    | dual t => rfl

theorem serves_blurred_iff {pair : CurrencyPair} :
  (table.blurred days).Serves day pair ↔ table.Serves day pair
  := by
  cases table with
  | empty => rfl
  | direct t => apply DirectTable.isQuotedOn_blurred_iff
  | dual t =>
    simp only [blurred, Serves, DualTable.isRatedOn_blurred_iff, DualTable.toUnit?_blurred,
      DualTable.fromUnit?_blurred, Option.isSome_map]
    rfl

/-- The day that a query is answered on has nothing to do with kinds. -/
theorem isResolutionDay_blurred_iff (days : List Date) :
  (table.blurred days).IsResolutionDay query today day ↔ table.IsResolutionDay query today day
  := by
  constructor <;> rintro ⟨candidate, serves, latest⟩
  · simp only [isCandidate_blurred_iff, serves_blurred_iff] at candidate serves latest
    exact ⟨candidate, serves, latest⟩
  · constructor <;> simp only [isCandidate_blurred_iff, serves_blurred_iff]
    · exact candidate
    · exact serves
    · exact latest

/-! ### The clock -/

/-- A table is asked a query for a given day, or is a direct one: what today is does not matter. -/
def IsAskedTimelessly (table : RateTable) (query : RateQuery) : Prop :=
  query.asOf.isSome ∨ ∃ t, table = .direct t

theorem IsAskedTimelessly.isCandidate_iff (timeless : table.IsAskedTimelessly query) :
  table.IsCandidate query.asOf today day ↔ table.IsCandidate query.asOf now day
  := by
  obtain dated | ⟨t, rfl⟩ := timeless
  · obtain ⟨asked, dated⟩ := Option.isSome_iff_exists.1 dated
    rw [dated]
    rfl
  · cases query.asOf <;> rfl

theorem IsAskedTimelessly.isResolutionDay_iff (timeless : table.IsAskedTimelessly query)
    (today now : Date) :
  table.IsResolutionDay query today day ↔ table.IsResolutionDay query now day
  := by
  constructor <;> rintro ⟨candidate, serves, latest⟩
  · exact ⟨timeless.isCandidate_iff.1 candidate, serves,
      fun later possible => latest later (timeless.isCandidate_iff.1 possible)⟩
  · exact ⟨timeless.isCandidate_iff.1 candidate, serves,
      fun later possible => latest later (timeless.isCandidate_iff.1 possible)⟩

/-- A table that is not empty can be seen from its pivot, whatever is asked. -/
theorem exists_areOfTable (made : table.IsMade) (keyed : table.IsKeyed) (query : RateQuery)
    (today : Date) :
  table = .empty ∨ ∃ quotes : PivotQuotes, quotes.AreOfTable table query today
  := by
  cases table with
  | empty => exact .inl rfl
  | direct t => exact .inr ⟨_, t.areOfTable made keyed⟩
  | dual t =>
    obtain ⟨s, made, rfl⟩ := made
    exact .inr ⟨_, s.finish.areOfTable made.finish keyed⟩

/-- There is no rate without a resolution day. -/
theorem resolve_of_no_resolutionDay (made : table.IsMade) (keyed : table.IsKeyed)
    (none : ∀ day, ¬ table.IsResolutionDay query today day) :
  table.resolve provider query today = .error (.unavailable query.pair provider)
  := by
  obtain rfl | ⟨quotes, view⟩ := exists_areOfTable made keyed query today
  · rfl
  · apply view.resolve_of_none none

/-- A rate is for the resolution day. -/
theorem exists_isResolutionDay_of_resolve {r : RateRecord} (made : table.IsMade)
    (keyed : table.IsKeyed) (answer : table.resolve provider query today = .ok r) :
  ∃ day, table.IsResolutionDay query today day ∧ r.asOf = some day
  := by
  obtain rfl | ⟨quotes, view⟩ := exists_areOfTable made keyed query today
  · cases answer
  · obtain ⟨day, resolution, asOf, -⟩ := view.answer answer
    exact ⟨day, resolution, asOf⟩

/-- Today matters for the resolution day only. -/
theorem resolve_congr_today (made : table.IsMade) (keyed : table.IsKeyed)
    (same : ∀ day, table.IsResolutionDay query today day ↔ table.IsResolutionDay query now day) :
  table.resolve provider query today = table.resolve provider query now
  := by
  by_cases none : ∀ day, ¬ table.IsResolutionDay query today day
  · rw [resolve_of_no_resolutionDay made keyed none, resolve_of_no_resolutionDay made keyed]
    intro day resolution
    apply none day ((same day).2 resolution)
  · obtain ⟨day, resolution⟩ := not_forall_not.1 none
    exact resolve_eq_of_resolutionDay made keyed ((same day).1 resolution) resolution rfl

/-- Two tables as they are seen on two days differ in the kinds of the rates for some days at most,
and so do their answers unless the clock changes the resolution day. -/
structure DifferInKinds (days : List Date) (s t : RateTable) : Prop where
  /-- The tables have the same rates up to kinds. -/
  tables : s.blurred days = t.blurred days
  /-- A query for a given day, or one to a direct table, has the same answer up to kinds. -/
  answers {query : RateQuery} : s.IsAskedTimelessly query → ∀ (provider : String) (today now : Date),
    blurredAnswer days (s.resolve provider query today)
      = blurredAnswer days (t.resolve provider query now)
  /-- Whatever is answered is answered for the resolution day. -/
  asOf {query : RateQuery} {provider : String} {now : Date} {r : RateRecord} :
    t.resolve provider query now = .ok r →
      ∃ day, t.IsResolutionDay query now day ∧ r.asOf = some day
  /-- The resolution day of a query for a given day, or of one to a direct table, is the same. -/
  resolutionDay {query : RateQuery} : s.IsAskedTimelessly query → ∀ today now day : Date,
    (s.IsResolutionDay query today day ↔ t.IsResolutionDay query now day)
  /-- Any other query has the same answer up to kinds if its resolution day is the same. -/
  onSameDay {query : RateQuery} {today now : Date} :
    (∀ day, s.IsResolutionDay query today day ↔ t.IsResolutionDay query now day) →
      ∀ provider, blurredAnswer days (s.resolve provider query today)
        = blurredAnswer days (t.resolve provider query now)
  /-- Its resolution day does not stay the same for long. -/
  moves {query : RateQuery} {d : DualTable} {today now day : Date} : s = .dual d →
    query.asOf = none → s.IsResolutionDay query today day → day.dayNumber + 3 < now.dayNumber →
      ¬ t.IsResolutionDay query now day

/-- Tables that are the same up to kinds answer alike. -/
theorem differInKinds_of_blurred_eq (tables : s.blurred days = t.blurred days) (made : t.IsMade)
    (keyed : t.IsKeyed) :
  DifferInKinds days s t
  := by
  have resolution {query : RateQuery} {today day : Date} :
      s.IsResolutionDay query today day ↔ t.IsResolutionDay query today day := by
    rw [← isResolutionDay_blurred_iff days, tables, isResolutionDay_blurred_iff]
  have onSameDay {query : RateQuery} {today now : Date}
      (same : ∀ day, s.IsResolutionDay query today day ↔ t.IsResolutionDay query now day)
      (provider : String) : blurredAnswer days (s.resolve provider query today)
        = blurredAnswer days (t.resolve provider query now) := by
    rw [← resolve_blurred, tables, resolve_blurred]
    congr 1
    apply resolve_congr_today made keyed
    intro day
    rw [← resolution, same]
  have sameDay {query : RateQuery} (timeless : s.IsAskedTimelessly query) (today now day : Date) :
      s.IsResolutionDay query today day ↔ t.IsResolutionDay query now day := by
    rw [timeless.isResolutionDay_iff today now, resolution]
  constructor
  case tables => exact tables
  case answers =>
    intro query timeless provider today now
    apply onSameDay (sameDay timeless today now)
  case asOf => exact fun answer => exists_isResolutionDay_of_resolve made keyed answer
  case resolutionDay => exact sameDay
  case onSameDay => exact onSameDay
  case moves =>
    rintro query d today now day rfl undated - late again
    have again := (resolution.2 again).candidate
    rw [undated] at again
    exact absurd again.2 (not_le.2 late)

end RateTable

end CrossRate
