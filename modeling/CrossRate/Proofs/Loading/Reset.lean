import CrossRate.Proofs.Loading.Readiness
import CrossRate.Proofs.Provider.History
import CrossRate.Proofs.Provider.Lifecycle

/-!
# Restored backups

A provider is fed from a resource, and the backup of the resource is restored. The provider
then has the table of the backup if no day of an earlier payload is missing in it, and only then
(`Desk.isReset_of_restored`): a dual table takes the place of the one before, but a direct table
is laid over it, and the days that the backup lacks stay.
-/

namespace CrossRate

namespace RateTable

/-- A direct table that is installed stands alone if it has all days of the table before. -/
theorem installed_direct_eq_iff {current : RateTable} {fresh : DirectTable} :
  current.installed (.direct fresh) = .direct fresh
    ↔ ∀ day, (current.day? day).isSome = true → fresh.hasDay day = true
  := by
  cases current with
  | empty => simp [installed, day?, direct?]
  | dual t => simp [installed, day?, direct?]
  | direct t =>
    constructor
    · intro same day present
      have days := day?_installed (.direct t) fresh day
      rw [same] at days
      rw [DirectTable.hasDay, OrderedMap.contains]
      change fresh.days.get? day = (fresh.days.get? day).or _ at days
      rw [days, Option.isSome_or, present, Bool.or_true]
    · intro covers
      rw [installed]
      congr
      apply DirectTable.ext_get?
      · rfl
      · intro day
        rw [DirectTable.get?_days_overlay]
        cases found : t.days.get? day with
        | none => apply Option.or_none
        | some quotes =>
          have present := covers day (by rw [day?, direct?, Option.bind_some, found, Option.isSome])
          obtain ⟨quotes', found'⟩ := DirectTable.hasDay_iff.1 present
          rw [found', Option.some_or]

/-- Installing direct tables one after the other gathers their days. -/
theorem isSome_day?_foldl_installed {tables : List RateTable}
    (direct : ∀ t ∈ tables, ∃ s, t = .direct s) (table : RateTable) (day : Date) :
  ((tables.foldl installed table).day? day).isSome = true
    ↔ (table.day? day).isSome = true ∨ ∃ t ∈ tables, (t.day? day).isSome = true
  := by
  induction tables generalizing table with
  | nil => simp
  | cons t tables ih =>
    obtain ⟨⟨s, rfl⟩, later⟩ := List.forall_mem_cons.1 direct
    rw [List.foldl_cons, ih later, day?_installed, Option.isSome_or, Bool.or_eq_true]
    simp only [List.mem_cons, exists_eq_or_imp, ← or_assoc]
    apply or_congr_left or_comm

end RateTable

namespace FeedProvider

variable {p : FeedProvider} {today : Date} {backup : Bytes} {fresh : RateTable}

/-- A provider that had no table, was fed with payloads one after the other, and then with a
backup that it can read. -/
structure IsReset (p q : FeedProvider) (today : Date) (before : List Bytes) (backup : Bytes)
    (fresh : RateTable) : Prop where
  read : p.read today backup = .ok fresh
  /-- A direct table is laid over the one before, any other takes its place. -/
  table : q.table = (p.run today (before.map .payload)).table.installed fresh
  /-- It is the table of the backup if the backup has all days of the payloads before. -/
  table_iff : q.table = fresh
    ↔ ∀ payload ∈ before, ∀ t, p.read today payload = .ok t →
        ∀ day, (t.day? day).isSome = true → (fresh.day? day).isSome = true
  /-- Then every query is answered as if there had been the backup alone. -/
  answers : q.table = fresh → ∀ query,
    (q.rate today query).1 = ((p.run today [.payload backup]).rate today query).1

/-- The tables that a provider has read from payloads have the layout that it expects. -/
theorem shape?_of_read {payload : Bytes} {t : RateTable} (h : p.read today payload = .ok t) :
  t.shape? = some p.settings.shape
  := by
  have loaded : p.loaded? today (.payload payload) = some t := by rw [loaded?, h]; rfl
  apply shape?_of_loaded? loaded

theorem shape?_eq_of_read (read : p.read today backup = .ok fresh) {payload : Bytes} {t : RateTable}
    (read' : p.read today payload = .ok t) :
  t.shape? = fresh.shape?
  := by rw [shape?_of_read read, shape?_of_read read']

/-- The tables of payloads, as far as a provider can read them. -/
theorem filterMap_loaded?_payload (before : List Bytes) :
  (before.map .payload).filterMap (p.loaded? today)
    = before.filterMap (fun payload => (p.read today payload).toOption)
  := by
  rw [List.filterMap_map]
  rfl

/-- The table after a backup that the provider can read. -/
theorem table_run_append (read : p.read today backup = .ok fresh) (before : List Bytes) :
  (p.run today ((before ++ [backup]).map .payload)).table
    = (p.run today (before.map .payload)).table.installed fresh
  := by
  rw [table_run, table_run, filterMap_loaded?_payload, filterMap_loaded?_payload,
    List.filterMap_append, List.foldl_append, List.filterMap_cons, read]
  rfl

/-- The table is that of the backup if the backup has all days of the payloads before. -/
theorem table_eq_iff (new : p.table = .empty) (read : p.read today backup = .ok fresh)
    (before : List Bytes) :
  (p.run today ((before ++ [backup]).map .payload)).table = fresh
    ↔ ∀ payload ∈ before, ∀ t, p.read today payload = .ok t →
        ∀ day, (t.day? day).isSome = true → (fresh.day? day).isSome = true
  := by
  rw [table_run_append read]
  cases fresh with
  | empty => cases shape?_of_read read
  | dual s =>
    constructor
    · intro _ payload _ t read' day present
      cases t with
      | direct t =>
        obtain ⟨t', dual⟩ := RateTable.exists_direct_of_shape? (shape?_eq_of_read read' read) rfl
        cases dual
      | _ => cases present
    · intro _
      cases (p.run today (before.map .payload)).table <;> rfl
  | direct s =>
    -- All tables that the provider has read are direct, so their days are gathered.
    have direct : ∀ t ∈ before.filterMap (fun payload => (p.read today payload).toOption),
        ∃ s, t = .direct s := by
      intro t mem
      obtain ⟨payload, -, read'⟩ := List.mem_filterMap.1 mem
      exact RateTable.exists_direct_of_shape?
        (shape?_eq_of_read read (toOption_eq_some_iff.1 read')) rfl
    rw [RateTable.installed_direct_eq_iff, table_run, new, filterMap_loaded?_payload]
    simp only [RateTable.isSome_day?_foldl_installed direct]
    constructor
    · intro covers payload mem t read' day present
      apply covers day (.inr ⟨t, ?_, present⟩)
      exact List.mem_filterMap.2 ⟨payload, mem, toOption_eq_some_iff.2 read'⟩
    · rintro covers day (⟨⟨⟩⟩ | ⟨t, mem, present⟩)
      obtain ⟨payload, mem, read'⟩ := List.mem_filterMap.1 mem
      apply covers payload mem t (toOption_eq_some_iff.1 read') day present

/-- A provider that was fed with a backup that it can read is not pending. -/
theorem gate_run_append_ne_pending (read : p.read today backup = .ok fresh)
    (before : List Bytes) :
  (p.run today ((before ++ [backup]).map .payload)).gate ≠ .pending
  := by
  have same : (p.run today (before.map .payload)).SameFeed p := sameFeed_run _
  have loaded : (p.run today (before.map .payload)).loaded? today (.payload backup)
      = p.loaded? today (.payload backup) := same.loaded? _
  simp only [loaded?, read, Except.toOption] at loaded
  rw [List.map_append, run_append, List.map_singleton, run_cons, run_nil, after,
    apply_of_read_eq_ok (toOption_eq_some_iff.1 loaded)]
  apply gate_install_ne_pending

/-- Two providers of one feed with the same table answer alike if neither is pending. -/
theorem SameFeed.rate_fst {q q' : FeedProvider} (h : q.SameFeed q') (table : q.table = q'.table)
    (released : q.gate ≠ .pending) (released' : q'.gate ≠ .pending) (query : RateQuery) :
  (q.rate today query).1 = (q'.rate today query).1
  := h.rate_fst_of_resolve released' released (by rw [table])

theorem isReset_run (new : p.table = .empty) (read : p.read today backup = .ok fresh)
    (before : List Bytes) :
  p.IsReset (p.run today ((before ++ [backup]).map .payload)) today before backup fresh
  where
  read := read
  table := table_run_append read before
  table_iff := table_eq_iff new read before
  answers := by
    intro same query
    have alone : (p.run today (([] ++ [backup]).map .payload)).table = fresh := by
      rw [table_run_append read, List.map_nil, run_nil, new]
      rfl
    have feed : (p.run today ((before ++ [backup]).map .payload)).SameFeed
        (p.run today [.payload backup]) := by
      have alone : (p.run today [.payload backup]).SameFeed p := sameFeed_run _
      rw [SameFeed, alone.1, alone.2]
      apply sameFeed_run
    apply feed.rate_fst (same.trans alone.symm) (gate_run_append_ne_pending read before)
      (gate_run_append_ne_pending read [])

end FeedProvider

namespace Desk

variable {d : Desk} {r : Resource} {number : Nat} {p : FeedProvider}
variable {answer : Question → Except LoadError Bytes}

/-- To restore a backup that answers hands its payload on. -/
theorem exists_good_of_restored (keyed : d.loader.IsKeyed)
    (registered : d.loader.find r.id = .ok r) {layer : Layer}
    (restored : (d.loadOf ⟨r.id, .restore, answer⟩).result = .ok layer) :
  ∃ location good, r.backup = some location ∧ answer (.restore location) = .ok good
    ∧ (d.courseOf ⟨r.id, .restore, answer⟩).ending.payload? = some good
  := by
  have course : d.courseOf ⟨r.id, .restore, answer⟩ = .restoring answer r := by
    rw [courseOf_eq registered]
    rfl
  rw [(follows_after keyed _).1, course, Course.restoring] at restored
  rw [course, Course.restoring]
  cases backup : r.backup with
  | none =>
    rw [backup] at restored
    cases restored
  | some location =>
    rw [backup] at restored
    cases answers : answer (.restore location) with
    | error e =>
      simp only [answers] at restored
      cases restored
    | ok good => exact ⟨location, good, rfl, answers, by simp [answers, LoadEnding.payload?]⟩

/-- After the backup of a resource was restored, a provider that is fed from it has the table of
the backup laid over that of the loads before, and none but the table of the backup if it has
all their days. -/
theorem isReset_of_restored (keyed : d.loader.IsKeyed) (feeds : d.Feeds r number p)
    (new : p.table = .empty)
    (readable : ∀ location good, r.backup = some location →
      answer (.restore location) = .ok good → p.Reads d.today good)
    (calls : List LoadCall) {layer : Layer}
    (restored : ((d.run calls).loadOf ⟨r.id, .restore, answer⟩).result = .ok layer) :
  ∃ location good fresh q, r.backup = some location ∧ answer (.restore location) = .ok good
    ∧ (d.run (calls ++ [⟨r.id, .restore, answer⟩])).providers[number]? = some q
    ∧ p.IsReset q d.today ((d.loads calls).filterMap (d.fedTo? number)) good fresh
  := by
  have same := sameSetUp_run keyed calls
  have registered : (d.run calls).loader.find r.id = .ok r := by rw [same.find, feeds.registered]
  obtain ⟨location, good, backup, answers, payload⟩ :=
    exists_good_of_restored (same.isKeyed keyed) registered restored
  obtain ⟨fresh, read⟩ := readable location good backup answers
  have fed : d.fedTo? number ((d.run calls).loadOf ⟨r.id, .restore, answer⟩) = some good := by
    rw [← payload]
    apply if_pos feeds.bound
  refine ⟨location, good, fresh, _, backup, answers, ?_, FeedProvider.isReset_run new read _⟩
  rw [getElem?_providers_run keyed, feeds.provider, Option.map_some, loads_concat,
    List.filterMap_append, List.filterMap_cons, fed, List.filterMap_nil]

/-! ### A later document -/

/-- A call to restore the backup, which answers. -/
def callRestored : LoadCall := ⟨oneRemote.id, .restore, fun _ => .ok fewRates⟩

theorem reads_callRestored (location : Location) (good : Bytes)
    (answers : callRestored.answer (.restore location) = .ok good) :
  waiting.Reads oneFeed.today good
  := by
  cases answers
  apply reads_fewRates

/-- The backup is restored after a page that the provider cannot read. -/
theorem isReset_of_restored_after_page :
  oneFeed.loader.IsKeyed
    ∧ oneFeed.Feeds oneRemote 0 waiting
    ∧ waiting.table = .empty
    ∧ (∀ location good, oneRemote.backup = some location →
        callRestored.answer (.restore location) = .ok good → waiting.Reads oneFeed.today good)
    ∧ ((oneFeed.run [callAnswered (some "<html>maintenance</html>")]).loadOf callRestored).result
        = .ok .backup
    ∧ ∃ fresh q, (oneFeed.run [callAnswered (some "<html>maintenance</html>"),
          callRestored]).providers[0]? = some q
        ∧ waiting.IsReset q oneFeed.today [Text.encode "<html>maintenance</html>"] fewRates fresh
  := by
  have restored : ((oneFeed.run [callAnswered (some "<html>maintenance</html>")]).loadOf
      callRestored).result = .ok .backup := by
    rw [← toOption_eq_some_iff]
    decide +kernel
  have fed : (oneFeed.loads [callAnswered (some "<html>maintenance</html>")]).filterMap
      (oneFeed.fedTo? 0) = [Text.encode "<html>maintenance</html>"] := by
    decide +kernel
  obtain ⟨location, good, fresh, q, -, answers, provider, reset⟩ :=
    isReset_of_restored isKeyed_oneFeed feeds_oneFeed rfl (fun l g _ => reads_callRestored l g)
      [callAnswered (some "<html>maintenance</html>")] restored
  cases answers
  rw [fed] at reset
  exact ⟨isKeyed_oneFeed, feeds_oneFeed, rfl, fun l g _ => reads_callRestored l g, restored,
    fresh, q, provider, reset⟩

/-- A later document stays when the backup is restored: the rate of its day is still answered,
which the backup alone would answer by that of the day before. -/
theorem answer_of_later_document :
  ∃ (call : LoadCall) (fresh : RateTable) (q : FeedProvider) (later : Date) (query : RateQuery),
    oneFeed.loader.IsKeyed
      ∧ oneFeed.Feeds oneRemote 0 waiting
      ∧ waiting.table = .empty
      ∧ waiting.read oneFeed.today fewRates = .ok fresh
      ∧ ((oneFeed.run [call]).loadOf callRestored).result = .ok .backup
      ∧ (oneFeed.run [call, callRestored]).providers[0]? = some q
      ∧ (q.table.day? later).isSome = true ∧ fresh.day? later = none
      ∧ (q.rate oneFeed.today query).1.toOption.bind (·.asOf) = some later
      ∧ ((waiting.run oneFeed.today [.payload fewRates]).rate oneFeed.today
          query).1.toOption.bind (·.asOf) ≠ some later
  := by
  let call := callAnswered (some "<Cube time=\"2024-01-03\" currency=\"USD\" rate=\"1.1\"/>")
  let later : Date := ⟨739193, by decide, by decide⟩
  let query : RateQuery := ⟨.euro, .ofCode "USD", some later, []⟩
  have restored : ((oneFeed.run [call]).loadOf callRestored).result = .ok .backup := by
    rw [← toOption_eq_some_iff]
    decide +kernel
  have kept : (oneFeed.run [call, callRestored]).providers[0]?.any (fun q =>
      (q.table.day? later).isSome
        && (q.rate oneFeed.today query).1.toOption.bind (·.asOf) = some later) = true := by
    decide +kernel
  have lacking : (waiting.read oneFeed.today fewRates).toOption.all
      (fun fresh => (fresh.day? later).isNone) = true := by
    decide +kernel
  have alone : ((waiting.run oneFeed.today [.payload fewRates]).rate oneFeed.today
      query).1.toOption.bind (·.asOf) ≠ some later := by
    decide +kernel
  obtain ⟨fresh, read⟩ := reads_fewRates
  obtain ⟨q, provider, kept⟩ := (Option.any_eq_true _ _).1 kept
  rw [Bool.and_eq_true, decide_eq_true_iff] at kept
  rw [read] at lacking
  exact ⟨call, fresh, q, later, query, isKeyed_oneFeed, feeds_oneFeed, rfl, read, restored,
    provider, kept.1, Option.isNone_iff_eq_none.1 lacking, kept.2, alone⟩

end Desk

end CrossRate
