import CrossRate.Proofs.Provider.History
import CrossRate.Proofs.Table.Selection

/-!
# What a payload leaves alone

What a direct table answers to a query depends on its pivot, on the days that it looks at for the
query, and on its quotes for these days (`DirectTable.bridge_of_days`). A payload changes the quotes
of its own days only, so it leaves all other answers of a provider as they were, errors included
(`FeedProvider.sparesAnswers_of_apply`).
-/

namespace CrossRate

/-! ### What a direct table looks at -/

namespace DirectTable

variable {s t older newer : DirectTable} {provider : String} {query : RateQuery}
  {day asked last : Date}

/-- On a day only the pivot and the quotes for that day count. -/
theorem answerOn_of_days (pivot : s.pivot = t.pivot)
    (same : s.days.get? day = t.days.get? day) :
  s.pivotQuotes.answerOn provider query day = t.pivotQuotes.answerOn provider query day
  := by
  have side : s.pivotQuotes.pivot = t.pivotQuotes.pivot := pivot
  have quote (currency : Currency) : s.leaf day currency = t.leaf day currency :=
    congrArg (·.bind (·.get? currency)) same
  have fromPivot (currency : Currency) :
      s.pivotQuotes.fromPivot currency day = t.pivotQuotes.fromPivot currency day := quote currency
  have toPivot (currency : Currency) :
      s.pivotQuotes.toPivot currency day = t.pivotQuotes.toPivot currency day := by
    simp only [pivotQuotes, quote]
  simp only [PivotQuotes.answerOn, side, fromPivot, toPivot]

/-- Tables against one pivot answer a query alike if they look at the same days for it and have the
same quotes there. -/
theorem bridge_of_days (pivot : s.pivot = t.pivot)
    (candidates : s.pivotQuotes.candidates query.asOf = t.pivotQuotes.candidates query.asOf)
    (same : ∀ day ∈ t.pivotQuotes.candidates query.asOf,
      s.days.get? day = t.days.get? day) :
  s.pivotQuotes.bridge provider query = t.pivotQuotes.bridge provider query
  := by
  have first : (t.pivotQuotes.candidates query.asOf).find?
        (s.pivotQuotes.covers · query.base query.term)
      = (t.pivotQuotes.candidates query.asOf).find?
        (t.pivotQuotes.covers · query.base query.term) := by
    apply List.find?_congr
    intro day mem
    exact congrArg Option.isSome (same day mem)
  rw [PivotQuotes.bridge, PivotQuotes.bridge, candidates, first]
  cases found : (t.pivotQuotes.candidates query.asOf).find?
      (t.pivotQuotes.covers · query.base query.term) with
  | none => rfl
  | some day => exact answerOn_of_days pivot (same day (List.mem_of_find?_eq_some found))

/-! ### What a newer table leaves alone -/

/-- A table has none of the days that are looked at for a day: neither the day itself nor one of
the three before it. -/
def Spares (t : DirectTable) (asked : Date) : Prop :=
  ∀ day : Date, day.dayNumber ≤ asked.dayNumber → asked.dayNumber ≤ day.dayNumber + 3 →
    t.hasDay day = false

/-- A day that the newer table does not have keeps its quotes. -/
theorem get?_days_overlay_of_hasDay_eq_false (none : newer.hasDay day = false) :
  (older.overlay newer).days.get? day = older.days.get? day
  := by
  rw [hasDay, OrderedMap.contains, Option.isSome_eq_false_iff, Option.isNone_iff_eq_none] at none
  rw [get?_days_overlay, none, Option.none_or]

/-- The latest day stays the latest one if the newer table has only days before it. -/
theorem latest?_overlay (latest : older.latest? = some last)
    (before : ∀ day, newer.hasDay day = true → day < last) :
  (older.overlay newer).latest? = some last
  := by
  rw [latest?, OrderedMap.greatestKey?_eq_some_iff] at latest ⊢
  have kept {day : Date} (notBefore : ¬ day < last) :
      (older.overlay newer).days.contains day = older.days.contains day :=
    congrArg Option.isSome (get?_days_overlay_of_hasDay_eq_false
      (Bool.eq_false_iff.2 fun has => notBefore (before day has)))
  constructor
  · rw [kept (KeyOrder.irrefl last)]
    exact latest.1
  · intro later after
    rw [kept fun lt => KeyOrder.irrefl last (KeyOrder.trans after lt)]
    exact latest.2 later after

/-- A table that has none of the days that are looked at has no rate. -/
theorem bridge_of_spares (dated : query.asOf = some asked) (spares : t.Spares asked) :
  t.pivotQuotes.bridge provider query = .error (.unavailable query.pair provider)
  := by
  have none : (t.pivotQuotes.candidates query.asOf).find?
      (t.pivotQuotes.covers · query.base query.term) = none := by
    rw [List.find?_eq_none, dated]
    intro day mem
    obtain ⟨le, near⟩ := Date.mem_probeWindow_iff.1 mem
    exact Bool.eq_false_iff.1 (spares day le near)
  rw [PivotQuotes.bridge, none]

/-- A newer table with none of the days that are looked at leaves the answer alone. -/
theorem bridge_overlay_of_spares (pivot : newer.pivot = older.pivot)
    (dated : query.asOf = some asked) (spares : newer.Spares asked) :
  (older.overlay newer).pivotQuotes.bridge provider query
    = older.pivotQuotes.bridge provider query
  := by
  refine bridge_of_days pivot ?_ ?_
  · rw [dated]
    rfl
  · intro day mem
    rw [dated] at mem
    obtain ⟨le, near⟩ := Date.mem_probeWindow_iff.1 mem
    exact get?_days_overlay_of_hasDay_eq_false (spares day le near)

/-- A newer table with days before the latest one only leaves the answer of that day alone. -/
theorem bridge_overlay_of_before (pivot : newer.pivot = older.pivot)
    (undated : query.asOf = none) (latest : older.latest? = some last)
    (before : ∀ day, newer.hasDay day = true → day < last) :
  (older.overlay newer).pivotQuotes.bridge provider query
    = older.pivotQuotes.bridge provider query
  := by
  refine bridge_of_days pivot ?_ ?_
  · simp only [pivotQuotes, undated, latest, latest?_overlay latest before]
  · intro day mem
    simp only [pivotQuotes, undated, latest, Option.toList_some, List.mem_singleton] at mem
    subst mem
    apply get?_days_overlay_of_hasDay_eq_false
    exact Bool.eq_false_iff.2 fun has => KeyOrder.irrefl day (before day has)

end DirectTable

namespace RateTable

variable {table : RateTable} {t : DirectTable} {provider : String} {query : RateQuery}
  {now later asked last : Date}

/-- A direct table that is installed leaves the answers alone that look at none of its days. -/
theorem resolve_installed_of_spares
    (shape : table ≠ .empty → table.shape? = (RateTable.direct t).shape?)
    (dated : query.asOf = some asked) (spares : t.Spares asked) :
  (table.installed (.direct t)).resolve provider query later = table.resolve provider query now
  := by
  cases table with
  | empty => exact DirectTable.bridge_of_spares dated spares
  | dual s => simp [shape?] at shape
  | direct s =>
    have pivot : t.pivot = s.pivot := by simpa [shape?, eq_comm] using shape
    exact DirectTable.bridge_overlay_of_spares pivot dated spares

/-- A direct table that is installed leaves the answers of the latest day alone if it has days
before that only. -/
theorem resolve_installed_of_before
    (shape : table ≠ .empty → table.shape? = (RateTable.direct t).shape?)
    (undated : query.asOf = none) (latest : table.summary.latest = some last)
    (before : ∀ day, t.hasDay day = true → day < last) :
  (table.installed (.direct t)).resolve provider query later = table.resolve provider query now
  := by
  cases table with
  | empty => cases latest
  | dual s => simp [shape?] at shape
  | direct s =>
    have pivot : t.pivot = s.pivot := by simpa [shape?, eq_comm] using shape
    exact DirectTable.bridge_overlay_of_before pivot undated latest before

end RateTable

/-! ### Providers -/

namespace FeedProvider

/-- A provider before and after it has read a table, which leaves the answers alone that do not
look at its days. Answers are compared with their errors, whatever today is. -/
structure SparesAnswers (p q : FeedProvider) (t : DirectTable) : Prop where
  /-- Queries for a day, if the table has neither that day nor one of the three before it. -/
  dated {query : RateQuery} {asked now later : Date} : query.asOf = some asked → t.Spares asked →
    (q.rate later query).1 = (p.rate now query).1
  /-- Queries for no day, if all days of the table are before the latest one so far. -/
  undated {query : RateQuery} {last now later : Date} : query.asOf = none →
    p.table.summary.latest = some last → (∀ day, t.hasDay day = true → day < last) →
      (q.rate later query).1 = (p.rate now query).1

/-- A provider with a direct table that is not pending and takes a payload answers the queries
that look at no day of the payload as before. -/
theorem sparesAnswers_of_apply (settings : ProviderSettings) (format : FeedFormat)
    (direct : settings.shape.layout = .direct) (earlier : List (Date × ProviderEvent))
    (p : FeedProvider) (life : p = (fresh settings format).live earlier)
    (released : p.gate ≠ .pending) (today : Date) (payload : Bytes) (summary : TableSummary)
    (applied : (p.apply today payload).1 = .ok summary) :
  ∃ t, p.read today payload = .ok (.direct t)
    ∧ p.SparesAnswers (p.apply today payload).2 t
  := by
  have consistent : p.IsConsistent := life ▸ (isConsistent_fresh settings format).live earlier
  have same : p.settings = settings := life ▸ (sameFeed_live earlier).1
  cases read : p.read today payload with
  | error e => simp [apply_of_read_eq_error read] at applied
  | ok table =>
    have loaded : p.loaded? today (.payload payload) = some table := by
      rw [loaded?, read]
      rfl
    have shape : table.shape? = some p.settings.shape := shape?_of_loaded? loaded
    obtain ⟨t, rfl⟩ := RateTable.exists_direct_of_shape? shape (same ▸ direct)
    have kept : p.table ≠ .empty → p.table.shape? = (RateTable.direct t).shape? :=
      fun some => (consistent.shape some).trans shape.symm
    have step : p.Precedes (p.apply today payload).2 := (step_after (.payload payload)).precedes
    have released' : (p.apply today payload).2.gate ≠ .pending := by
      rwa [step.gate released]
    have installed : (p.apply today payload).2.table = p.table.installed (.direct t) := by
      rw [apply_of_read_eq_ok read]
      rfl
    use t, rfl
    constructor
    case dated =>
      intro query asked now later dated spares
      apply step.sameFeed.rate_fst_of_resolve released released'
      rw [installed]
      exact RateTable.resolve_installed_of_spares kept dated spares
    case undated =>
      intro query last now later undated latest before
      apply step.sameFeed.rate_fst_of_resolve released released'
      rw [installed]
      exact RateTable.resolve_installed_of_before kept undated latest before

/-- A day that is delivered late, after newer ones, leaves the rates of the newer days alone. -/
theorem sparesAnswers_of_apply_late_day :
  ∃ (today late asked : Date) (p q : FeedProvider) (payload : Bytes) (t : DirectTable)
      (dated undated : RateQuery),
    p = (fresh ⟨"ECB", "ecb", ⟨.euro, .direct⟩, .background, 30⟩ .referenceRates).live
        [(today, .payload (Text.encode
          ("<Cube><Cube time=\"2024-01-03\"><Cube currency=\"USD\" rate=\"1.25\"/>"
            ++ "<Cube currency=\"JPY\" rate=\"150.3\"/></Cube></Cube>")))]
      ∧ p.gate ≠ .pending
      ∧ payload = Text.encode "<Cube time=\"2023-12-01\" currency=\"USD\" rate=\"1.5\"/>"
      ∧ p.read today payload = .ok (.direct t) ∧ t.days.keys = [late]
      ∧ q = (p.apply today payload).2 ∧ p.SparesAnswers q t
      ∧ dated = ⟨.ofCode "USD", .ofCode "JPY", some asked, []⟩
      ∧ undated = ⟨.ofCode "USD", .ofCode "JPY", none, []⟩
      ∧ (q.rate today dated).1 = (p.rate today dated).1
      ∧ (q.rate today undated).1 = (p.rate today undated).1
  := by
  let today : Date := ⟨739198, by decide, by decide⟩
  let late : Date := ⟨739160, by decide, by decide⟩
  let latest : Date := ⟨739193, by decide, by decide⟩
  let asked : Date := ⟨739194, by decide, by decide⟩
  let p := (fresh ⟨"ECB", "ecb", ⟨.euro, .direct⟩, .background, 30⟩ .referenceRates).live
    [(today, .payload (Text.encode
      ("<Cube><Cube time=\"2024-01-03\"><Cube currency=\"USD\" rate=\"1.25\"/>"
        ++ "<Cube currency=\"JPY\" rate=\"150.3\"/></Cube></Cube>")))]
  let payload := Text.encode "<Cube time=\"2023-12-01\" currency=\"USD\" rate=\"1.5\"/>"
  have released : p.gate ≠ .pending := by decide +kernel
  have latest? : p.table.summary.latest = some latest := by decide +kernel
  have taken : (p.apply today payload).1.toOption.isSome = true := by decide +kernel
  have days : ((p.read today payload).toOption.bind RateTable.direct?).map (·.days.keys)
      = some [late] := by decide +kernel
  obtain ⟨summary, applied⟩ := Option.isSome_iff_exists.1 taken
  obtain ⟨t, read, spares⟩ := sparesAnswers_of_apply _ _ rfl _ p rfl released today payload summary
    (toOption_eq_some_iff.1 applied)
  have keys : t.days.keys = [late] := by
    rw [read] at days
    exact Option.some.inj days
  have only {day : Date} (has : t.hasDay day = true) : day = late := by
    rw [DirectTable.hasDay, OrderedMap.contains_iff_mem_keys, keys] at has
    exact List.mem_singleton.1 has
  use today, late, asked, p, (p.apply today payload).2, payload, t,
    ⟨.ofCode "USD", .ofCode "JPY", some asked, []⟩, ⟨.ofCode "USD", .ofCode "JPY", none, []⟩,
    rfl, released, rfl, read, keys, rfl, spares, rfl, rfl
  constructor
  · apply spares.dated rfl
    intro day le near
    rw [Bool.eq_false_iff]
    intro has
    obtain rfl := only has
    exact absurd near (by decide)
  · apply spares.undated rfl latest?
    intro day has
    rw [only has]
    decide

end FeedProvider

end CrossRate
