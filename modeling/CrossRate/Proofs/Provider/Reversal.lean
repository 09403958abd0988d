import CrossRate.Proofs.Provider.Lifecycle

/-!
# Reversing a rate

A provider that is asked for the opposite of a record looks it up on the day of the record, like
any other query for a day: if the opposite direction is not quoted on that day, one of the days
before it may answer. The two directions of a direct table are quoted on the same days, but not
those of a dual table (`FeedProvider.reversesOnDay_iff`).
-/

namespace CrossRate

/-! ### Quoted pairs -/

/-- The rate of a pair is quoted on a day: each side of the pair that is not the pivot has a
quote there, in the direction in which the rate needs it if the table tells directions apart.
The pivot has a rate to itself on every day of the table. -/
def RateTable.Quotes (table : RateTable) (day : Date) (pair : CurrencyPair) : Prop :=
  match table with
  | .empty => False
  | .direct t => t.hasDay day = true
    ∧ (pair.base ≠ t.pivot → (t.leaf day pair.base).isSome)
    ∧ (pair.term ≠ t.pivot → (t.leaf day pair.term).isSome)
  | .dual t => (pair.base = t.unit → pair.term = t.unit → t.hasDay day = true)
    ∧ (pair.base ≠ t.unit → (t.toUnit? pair.base day).isSome)
    ∧ (pair.term ≠ t.unit → (t.fromUnit? pair.term day).isSome)

/-- A day that answers a query has all quotes that it needs. -/
theorem PivotQuotes.not_lacks_of_answerOn {quotes : PivotQuotes} {provider : String}
    {query : RateQuery} {day : Date} {r : RateRecord}
    (h : quotes.answerOn provider query day = .ok r) :
  ¬ quotes.Lacks day query.pair
  := by
  intro lacks
  have lacks : query.base ≠ quotes.pivot ∧ quotes.toPivot query.base day = .ok none
      ∨ query.term ≠ quotes.pivot ∧ quotes.fromPivot query.term day = none := lacks
  unfold answerOn at h
  obtain ⟨base, none⟩ | ⟨term, none⟩ := lacks
  · rw [if_neg (fun sides => base sides.1), if_neg base, none] at h
    split at h <;> simp [bind_eq_ok_iff, mapError_eq_ok_iff, orUnavailable_eq_ok_iff] at h
  · rw [if_neg (fun sides => term sides.2), if_neg term, none] at h
    split at h <;> simp [bind_eq_ok_iff, mapError_eq_ok_iff, orUnavailable_eq_ok_iff] at h

namespace DirectTable

theorem quotes_iff {t : DirectTable} {day : Date} {pair : CurrencyPair} :
  (RateTable.direct t).Quotes day pair
    ↔ t.hasDay day = true ∧ ¬ t.pivotQuotes.Lacks day pair
  := by
  simp only [RateTable.Quotes, PivotQuotes.Lacks, toPivot_eq_none_iff, not_or, not_and,
    ← Option.isSome_iff_ne_none]
  rfl

/-- The two directions are quoted on the same days. -/
theorem quotes_inverse_iff {t : DirectTable} {day : Date} {pair : CurrencyPair} :
  (RateTable.direct t).Quotes day pair.inverse ↔ (RateTable.direct t).Quotes day pair
  := by
  simp only [RateTable.Quotes, CurrencyPair.inverse]
  constructor <;> exact fun ⟨has, base, term⟩ => ⟨has, term, base⟩

end DirectTable

namespace DualTable

theorem covers_iff {t : DualTable} {today day : Date} {base term : Currency} :
  (t.pivotQuotes today).covers day base term = true
    ↔ (RateTable.dual t).Quotes day ⟨base, term⟩
  := by
  simp only [pivotQuotes, RateTable.Quotes]
  split
  · rename_i sides
    simp [sides]
  · rename_i sides
    by_cases hb : base = t.unit <;> by_cases ht : term = t.unit <;> simp_all

theorem not_lacks_of_quotes {t : DualTable} {today day : Date} {pair : CurrencyPair}
    (h : (RateTable.dual t).Quotes day pair) :
  ¬ (t.pivotQuotes today).Lacks day pair
  := by
  obtain ⟨-, toUnit, fromUnit⟩ := h
  rintro (⟨base, none⟩ | ⟨term, none⟩)
  · have some := toUnit base
    simp_all [pivotQuotes]
  · have some := fromUnit term
    simp_all [pivotQuotes]

end DualTable

/-! ### Queries for a day -/

/-- A window of days starts with the day that is asked for. -/
theorem Date.exists_probeWindow_eq (day : Date) : ∃ before, day.probeWindow = day :: before
  := by
  have same : day.back? 0 = some day := by
    simp [back?, ofDayNumber?, day.first_le, day.le_last]
  exact ⟨_, List.filterMap_cons_some same⟩

theorem Date.mem_probeWindow (day : Date) : day ∈ day.probeWindow
  := by
  obtain ⟨before, window⟩ := day.exists_probeWindow_eq
  rw [window]
  apply List.mem_cons_self

/-- If the day that is asked for covers the query, it is the day of the answer. -/
theorem PivotQuotes.bridge_of_covers {quotes : PivotQuotes} {provider : String}
    {query : RateQuery} {day : Date} (window : quotes.candidates query.asOf = day.probeWindow)
    (covers : quotes.covers day query.base query.term = true) :
  quotes.bridge provider query = quotes.answerOn provider query day
  := by
  obtain ⟨before, first⟩ := day.exists_probeWindow_eq
  rw [bridge, window, first, List.find?_cons, covers]

namespace RateTable

variable {table : RateTable} {provider : String} {query : RateQuery} {today day : Date}
  {r : RateRecord}

/-- An answer is for a day on which the pair is quoted, and which is in the window of the day
that was asked for. -/
theorem IsOf.exists_quotes (all : table.IsOf provider)
    (h : table.resolve provider query today = .ok r) :
  ∃ day, r.IsFrom provider day query.pair ∧ table.Quotes day query.pair
    ∧ ∀ asked, query.asOf = some asked → day ∈ asked.probeWindow
  := by
  cases table with
  | empty => simp [RateTable.resolve] at h
  | direct t =>
    obtain ⟨day, found, answer⟩ := PivotQuotes.bridge_eq_ok_iff.1 h
    use day, (DirectTable.IsOf.pivotQuotes all).answerOn answer
    constructor
    · have covers : t.pivotQuotes.covers day query.base query.term = true := by
        simpa using List.find?_some found
      exact DirectTable.quotes_iff.2 ⟨covers, PivotQuotes.not_lacks_of_answerOn answer⟩
    · intro asked dated
      rw [dated] at found
      apply List.mem_of_find?_eq_some found
  | dual t =>
    obtain ⟨day, found, answer⟩ := PivotQuotes.bridge_eq_ok_iff.1 h
    use day, (DualTable.IsOf.pivotQuotes all today).answerOn answer
    constructor
    · have covers : (t.pivotQuotes today).covers day query.base query.term = true := by
        simpa using List.find?_some found
      apply DualTable.covers_iff.1 covers
    · intro asked dated
      rw [dated] at found
      apply List.mem_of_find?_eq_some found

/-- If the pair is quoted on the day that is asked for, that is the day of every answer. -/
theorem IsOf.isFrom_of_quotes (all : table.IsOf provider) (dated : query.asOf = some day)
    (quoted : table.Quotes day query.pair) (h : table.resolve provider query today = .ok r) :
  r.IsFrom provider day query.pair
  := by
  cases table with
  | empty => exact quoted.elim
  | direct t =>
    have covers : t.pivotQuotes.covers day query.base query.term = true := quoted.1
    rw [RateTable.resolve, PivotQuotes.bridge_of_covers (by rw [dated]; rfl) covers] at h
    apply (DirectTable.IsOf.pivotQuotes all).answerOn h
  | dual t =>
    have covers : (t.pivotQuotes today).covers day query.base query.term = true :=
      DualTable.covers_iff.2 quoted
    rw [RateTable.resolve, PivotQuotes.bridge_of_covers (by rw [dated]; rfl) covers] at h
    apply (DualTable.IsOf.pivotQuotes all today).answerOn h

/-- A pair that is quoted on no day of the window has no rate. -/
theorem resolve_of_not_quotes {t : DualTable} (dated : query.asOf = some day)
    (unquoted : ∀ d ∈ day.probeWindow, ¬ (dual t).Quotes d query.pair) :
  (dual t).resolve provider query today = .error (.unavailable query.pair provider)
  := by
  have none : ((t.pivotQuotes today).candidates query.asOf).find?
      ((t.pivotQuotes today).covers · query.base query.term) = none := by
    rw [dated]
    apply List.find?_eq_none.2
    intro d hd covers
    apply unquoted d hd (DualTable.covers_iff.1 covers)
  rw [resolve, PivotQuotes.bridge, none]

/-- A pair that is quoted on some day of the window has a rate, unless that is out of range. -/
theorem resolve_ne_unavailable {t : DualTable} {pair : CurrencyPair} {name : String} {d : Date}
    (dated : query.asOf = some day) (hd : d ∈ day.probeWindow)
    (quoted : (dual t).Quotes d query.pair) :
  (dual t).resolve provider query today ≠ .error (.unavailable pair name)
  := by
  rw [resolve, PivotQuotes.bridge]
  cases found : ((t.pivotQuotes today).candidates query.asOf).find?
      ((t.pivotQuotes today).covers · query.base query.term) with
  | none =>
    rw [dated] at found
    apply absurd (DualTable.covers_iff.2 quoted)
    apply List.find?_eq_none.1 found d hd
  | some first =>
    have covers : (t.pivotQuotes today).covers first query.base query.term = true := by
      simpa using List.find?_some found
    apply PivotQuotes.answerOn_ne_unavailable
    apply DualTable.not_lacks_of_quotes (DualTable.covers_iff.1 covers)

end RateTable

/-! ### Reversals -/

namespace FeedProvider

variable {p : FeedProvider} {now : Date} {r : RateRecord}

/-- What a provider answers for the opposite of a record. -/
def opposite (p : FeedProvider) (now : Date) (r : RateRecord) : Except RateError RateRecord :=
  (p.rate now (p.reversal r)).1

/-- What is answered for the opposite of a record is a record of the opposite direction, of the
same provider and for the same day; and if the opposite direction is not quoted on that day, the
plain answer is that there is no such rate. -/
structure ReversesOnDay (p : FeedProvider) (now : Date) (r : RateRecord) : Prop where
  answer {r' : RateRecord} : p.opposite now r = .ok r' →
    r'.pair = r.pair.inverse ∧ r'.provider = r.provider ∧ r'.asOf = r.asOf
  unquoted {day : Date} : r.asOf = some day → ¬ p.table.Quotes day r.pair.inverse →
    p.opposite now r = .error (.unavailable r.pair.inverse p.name)

theorem opposite_eq_resolve (released : p.gate ≠ .pending) :
  p.opposite now r = p.table.resolve p.name (p.reversal r) now
  := by
  apply rate_eq_resolve _ released
  simp [RateQuery.accepts, reversal, Text.sameIgnoringCase]

/-- An opposite that is quoted on the day of its record is given on that day. -/
theorem reversesOnDay_of_quotes {day : Date} (own : p.table.IsOf p.name)
    (released : p.gate ≠ .pending) (made : r.IsFrom p.name day r.pair)
    (quoted : p.table.Quotes day r.pair.inverse) :
  p.ReversesOnDay now r
  where
  answer := by
    intro r' h
    rw [opposite_eq_resolve released] at h
    have dated : (p.reversal r).asOf = some day := made.asOf
    have opposite := own.isFrom_of_quotes dated quoted h
    exact ⟨opposite.pair, opposite.provider.trans made.provider.symm,
      opposite.asOf.trans made.asOf.symm⟩
  unquoted := by
    intro day' same other
    obtain rfl : day = day' := Option.some.inj (made.asOf.symm.trans same)
    exact absurd quoted other

/-- The opposite of a record is given on its day exactly if it is quoted on that day, or on no
day that is looked at. -/
theorem reversesOnDay_iff_quotes {day : Date} (own : p.table.IsOf p.name)
    (released : p.gate ≠ .pending) (made : r.IsFrom p.name day r.pair)
    (quoted : p.table.Quotes day r.pair) :
  p.ReversesOnDay now r
    ↔ p.table.Quotes day r.pair.inverse
      ∨ ∀ d ∈ day.probeWindow, ¬ p.table.Quotes d r.pair.inverse
  := by
  have dated : (p.reversal r).asOf = some day := made.asOf
  constructor
  · intro reverses
    by_cases inverse : p.table.Quotes day r.pair.inverse
    · exact .inl inverse
    · right
      intro d hd other
      have none := reverses.unquoted made.asOf inverse
      rw [opposite_eq_resolve released] at none
      cases table : p.table with
      | empty =>
        rw [table] at quoted
        exact quoted
      | direct t =>
        rw [table] at quoted inverse
        exact inverse (DirectTable.quotes_inverse_iff.2 quoted)
      | dual t =>
        rw [table] at none other
        exact RateTable.resolve_ne_unavailable dated hd other none
  · rintro (inverse | unquoted)
    · apply reversesOnDay_of_quotes own released made inverse
    · have none : p.opposite now r = .error (.unavailable r.pair.inverse p.name) := by
        rw [opposite_eq_resolve released]
        cases table : p.table with
        | empty => rfl
        | direct t =>
          rw [table] at quoted unquoted
          exact absurd (DirectTable.quotes_inverse_iff.2 quoted)
            (unquoted day day.mem_probeWindow)
        | dual t =>
          rw [table] at unquoted
          exact RateTable.resolve_of_not_quotes dated unquoted
      constructor
      case answer =>
        intro r' h
        simp [none] at h
      case unquoted => exact fun _ _ => none

/-- The provider of a record may be asked for its opposite later, while the table is the same.
That is answered on the day of the record exactly if the opposite direction is quoted on that
day, as it is in a direct table, or on none of the days that are looked at. In any case an answer
is for one of these days, and the opposite direction is quoted on it. -/
theorem reversesOnDay_iff (settings : ProviderSettings) (format : FeedFormat)
    (earlier later : List (Date × ProviderEvent)) (today now : Date) (query : RateQuery)
    {p q : FeedProvider} {r : RateRecord}
    (begun : p = (fresh settings format).live earlier) (continued : q = p.live later)
    (kept : q.table = p.table) (answered : (p.rate today query).1 = .ok r) :
  ∃ day, r.asOf = some day
    ∧ (q.ReversesOnDay now r ↔ q.table.Quotes day r.pair.inverse
        ∨ ∀ d ∈ day.probeWindow, ¬ q.table.Quotes d r.pair.inverse)
    ∧ (settings.shape.layout = .direct → q.table.Quotes day r.pair.inverse)
    ∧ ∀ r', q.opposite now r = .ok r' →
        ∃ d ∈ day.probeWindow, r'.IsFrom q.name d r.pair.inverse
          ∧ q.table.Quotes d r.pair.inverse
  := by
  have consistent : p.IsConsistent := by
    rw [begun]
    apply (isConsistent_fresh settings format).live
  have still : q.IsConsistent := by
    rw [continued]
    apply consistent.live
  have name : q.name = p.name := by
    rw [continued, FeedProvider.name, (sameFeed_live later).1]
    rfl
  have expected : q.settings = settings := by
    rw [continued, (sameFeed_live later).1, begun, (sameFeed_live earlier).1]
    rfl
  have released : q.gate ≠ .pending := by
    rw [continued, (precedes_live later).gate (gate_ne_pending_of_rate answered)]
    apply gate_ne_pending_of_rate answered
  obtain ⟨day, made, quoted, -⟩ := consistent.isOf.exists_quotes (answer_of_rate answered)
  rw [← kept, ← made.pair] at quoted
  rw [← name] at made
  have same : r.IsFrom q.name day r.pair := ⟨rfl, made.provider, made.asOf⟩
  use day, made.asOf
  refine ⟨reversesOnDay_iff_quotes still.isOf released same quoted, ?_, ?_⟩
  · intro direct
    cases table : q.table with
    | empty =>
      rw [table] at quoted
      exact quoted.elim
    | direct t =>
      rw [table] at quoted
      exact DirectTable.quotes_inverse_iff.2 quoted
    | dual t =>
      have shape := still.shape (by simp [table])
      rw [table, RateTable.shape?, Option.some.injEq, expected] at shape
      rw [← shape] at direct
      exact Layout.noConfusion direct
  · intro r' h
    rw [opposite_eq_resolve released] at h
    obtain ⟨d, made', quoted', window⟩ := still.isOf.exists_quotes h
    exact ⟨d, window day made.asOf, made', quoted'⟩

/-- In a direct table the opposite of a rate is quoted on the day of the rate, two days before
the one that was asked for. -/
theorem reversesOnDay_iff_direct :
  ∃ (p q : FeedProvider) (today asked day now : Date) (r : RateRecord),
    p = (fresh ⟨"ECB", "ecb", ⟨.euro, .direct⟩, .background, 30⟩ .referenceRates).live
        [(today, .connected), (today, .payload (Text.encode
          ("<Cube><Cube time=\"2024-01-03\"><Cube currency=\"USD\" rate=\"1.25\"/>"
            ++ "<Cube currency=\"JPY\" rate=\"150\"/></Cube></Cube>")))]
      ∧ q = p.live [(now, .failed "refused"), (now, .payload (Text.encode "<html></html>"))]
      ∧ (p.rate today ⟨.ofCode "USD", .ofCode "JPY", some asked, []⟩).1 = .ok r
      ∧ r.asOf = some day ∧ q.ReversesOnDay now r
  := by
  let today : Date := ⟨739195, by decide, by decide⟩
  let now : Date := ⟨739197, by decide, by decide⟩
  let p := (fresh ⟨"ECB", "ecb", ⟨.euro, .direct⟩, .background, 30⟩ .referenceRates).live
    [(today, .connected), (today, .payload (Text.encode
      ("<Cube><Cube time=\"2024-01-03\"><Cube currency=\"USD\" rate=\"1.25\"/>"
        ++ "<Cube currency=\"JPY\" rate=\"150\"/></Cube></Cube>")))]
  let events : List (Date × ProviderEvent) :=
    [(now, .failed "refused"), (now, .payload (Text.encode "<html></html>"))]
  have answered :
      (p.rate today ⟨.ofCode "USD", .ofCode "JPY", some today, []⟩).1.toOption.isSome
        = true := by
    decide +kernel
  have successes : (p.live events).successes = p.successes := by decide +kernel
  obtain ⟨r, hr⟩ := Option.isSome_iff_exists.1 answered
  rw [toOption_eq_some_iff] at hr
  obtain ⟨day, asOf, iff, direct, -⟩ := reversesOnDay_iff _ _ _ events today now _ rfl rfl
    ((precedes_live events).table successes) hr
  use p, p.live events, today, today, day, now, r, rfl, rfl, hr, asOf
  apply iff.2 (.inl (direct rfl))

/-- The two directions of a dual table may be quoted on different days. The opposite of a rate is
then the one of the day before. -/
theorem not_reversesOnDay_of_lagging_quote :
  ∃ (names : CurrencyNames) (p : FeedProvider) (today day before : Date) (r r' : RateRecord),
    p = (fresh ⟨"IMF", "IMF", ⟨.specialDrawingRight, .dual⟩, .background, 30⟩
          (.sdrTable names)).live
        [(today, .payload (Text.encode ("SDRs per Currency unit\n"
          ++ "Currency\tJanuary 03, 2024\nEuro\t0.82\nCurrency units per SDR\n"
          ++ "Currency\tJanuary 02, 2024\nEuro\t1.21\n")))]
      ∧ (p.rate today ⟨.euro, .specialDrawingRight, some day, []⟩).1 = .ok r
      ∧ p.opposite today r = .ok r'
      ∧ r.asOf = some day ∧ r'.asOf = some before ∧ day ≠ before
      ∧ ¬ p.ReversesOnDay today r
  := by
  let names := CurrencyNames.empty.insert "Euro" .euro
  let today : Date := ⟨739195, by decide, by decide⟩
  let day : Date := ⟨739193, by decide, by decide⟩
  let before : Date := ⟨739192, by decide, by decide⟩
  let start := fresh ⟨"IMF", "IMF", ⟨.specialDrawingRight, .dual⟩, .background, 30⟩
    (.sdrTable names)
  let grid := Text.encode ("SDRs per Currency unit\n"
    ++ "Currency\tJanuary 03, 2024\nEuro\t0.82\nCurrency units per SDR\n"
    ++ "Currency\tJanuary 02, 2024\nEuro\t1.21\n")
  let p := start.live [(today, .payload grid)]
  have accepted : (SdrTable.read names ⟨"IMF", today⟩ grid).toOption.isSome = true := by
    decide +kernel
  obtain ⟨t, ht⟩ := Option.isSome_iff_exists.1 accepted
  rw [toOption_eq_some_iff] at ht
  have unit := SdrTable.unit_of_read ht
  have loaded : p = start.install (.dual t) := by
    have read : start.read today grid = .ok (.dual t) :=
      read_of_format rfl (FeedFormat.read_sdrTable_eq_ok_iff.2 ⟨t, ht, rfl⟩)
    simp only [p, live_cons, live_nil, after, apply_of_read_eq_ok read]
  have table : p.table = .dual t := by
    rw [loaded]
    rfl
  have released : p.gate ≠ .pending := by
    rw [loaded]
    exact Gate.noConfusion
  have rates (direction : SdrTable.Direction) (d : Date) :
      (t.rate? .euro d direction).isSome
        = ((SdrTable.readings names (SdrTable.texts (Grid.records grid)).1).reverse.find?
            (fun q => q.direction = direction ∧ q.currency = .euro ∧ q.day = d)).isSome := by
    rw [SdrTable.rate?_of_read ht, Option.isSome_map]
  obtain ⟨r, hr⟩ : ∃ r, t.toUnit? .euro day = some r := by
    apply Option.isSome_iff_exists.1
    apply (rates .toUnit day).trans
    decide +kernel
  obtain ⟨r', hr'⟩ : ∃ r', t.fromUnit? .euro before = some r' := by
    apply Option.isSome_iff_exists.1
    apply (rates .fromUnit before).trans
    decide +kernel
  have none : (t.fromUnit? .euro day).isSome = false := by
    apply (rates .fromUnit day).trans
    decide +kernel
  have sound := SdrTable.isSound_of_read ht
  have quote := sound.toUnit hr
  have quote' := sound.fromUnit hr'
  rw [unit] at quote quote'
  have other : Currency.euro ≠ .specialDrawingRight := by decide
  have rate : (p.rate today ⟨.euro, .specialDrawingRight, some day, []⟩).1 = .ok r := by
    rw [rate_eq_resolve rfl released, table, RateTable.resolve]
    have covers : (t.pivotQuotes today).covers day .euro .specialDrawingRight = true := by
      simp [DualTable.pivotQuotes, unit, hr, other]
    rw [PivotQuotes.bridge_of_covers rfl covers]
    simp [PivotQuotes.answerOn, DualTable.pivotQuotes, unit, hr, other, PivotQuotes.orUnavailable,
      Except.mapError, bind, Except.bind]
  have opposite : p.opposite today r = .ok r' := by
    have base : r.base = .euro := congrArg CurrencyPair.base quote.pair
    have term : r.term = .specialDrawingRight := congrArg CurrencyPair.term quote.pair
    obtain ⟨more, window⟩ : ∃ more, day.probeWindow = day :: before :: more := ⟨_, rfl⟩
    rw [opposite_eq_resolve released, table, RateTable.resolve, PivotQuotes.bridge]
    simp [DualTable.pivotQuotes, reversal, quote.asOf, window, base, term, unit, other, none, hr',
      PivotQuotes.answerOn, PivotQuotes.orUnavailable]
  have differ : day ≠ before := by decide
  use names, p, today, day, before, r, r', rfl, rate, opposite, quote.asOf, quote'.asOf, differ
  intro reverses
  have same := (reverses.answer opposite).2.2
  rw [quote.asOf, quote'.asOf, Option.some.injEq] at same
  exact differ same.symm

end FeedProvider

end CrossRate
