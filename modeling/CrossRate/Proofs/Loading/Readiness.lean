import CrossRate.Proofs.Loading.Run

/-!
# When a provider gets ready

A provider is fed from a resource whose backup it can read. When all remote locations of the
resource fail a load goes on to the store, and to the backup only if there is nothing in the
store. A payload that passed the checks of the loader is in the store even if no provider can
read it; then the backup is not reached (`isReady_run_fallsBack_iff`).
-/

namespace CrossRate

namespace Course

variable {answer : Question → Except LoadError Bytes} {r : Resource}

/-- A load over the network goes on to the store if all remote locations fail. -/
theorem exists_ending_full {σ : Type} {l : Loader σ}
    (refused : ∀ location ∈ r.remotes, Loader.IsRefused l.settings answer location) :
  ∃ reasons, (of answer r l .full).ending = (fromStore answer r l.storage reasons).ending
  := by
  cases offline : l.settings.offline with
  | false =>
    obtain ⟨questions, why, -, -, course⟩ :=
      fromRemotes_append (r := r) (s := l.storage) refused [] []
    rw [List.append_nil, List.nil_append, fromRemotes] at course
    use why
    rw [of_full offline, course]
  | true =>
    use []
    simp [of, Loader.wayOf, offline]

end Course

namespace Desk

/-- A provider has a table. -/
def IsReady (d : Desk) (number : Nat) : Prop :=
  ∃ p, d.providers[number]? = some p ∧ p.stage = .ready

/-- A provider is fed from a registered resource. -/
structure Feeds (d : Desk) (r : Resource) (number : Nat) (p : FeedProvider) : Prop where
  registered : d.loader.find r.id = .ok r
  provider : d.providers[number]? = some p
  bound : .provider number ∈ d.loader.subscriptions.recipients r.id

/-- All remote locations of a resource fail, and its backup answers with a payload. -/
structure FallsBack (d : Desk) (r : Resource) (answer : Question → Except LoadError Bytes)
    (good : Bytes) : Prop where
  refused : ∀ location ∈ r.remotes, Loader.IsRefused d.loader.settings answer location
  backup : ∃ location, r.backup = some location
    ∧ ∀ reasons, answer (.backup location reasons) = .ok good

variable {d : Desk} {r : Resource} {number : Nat} {p : FeedProvider} {good : Bytes}
variable {answer : Question → Except LoadError Bytes}

/-- A provider is ready after a run if it was before, or was fed with something it can read. -/
theorem isReady_run_iff (keyed : d.loader.IsKeyed) (provider : d.providers[number]? = some p)
    (calls : List LoadCall) :
  (d.run calls).IsReady number
    ↔ p.stage = .ready
      ∨ ∃ payload ∈ (d.loads calls).filterMap (d.fedTo? number), p.Reads d.today payload
  := by
  rw [IsReady, getElem?_providers_run keyed, provider, Option.map_some]
  simp only [Option.some.injEq, exists_eq_left', FeedProvider.stage_run_eq_ready_iff,
    List.mem_map, exists_exists_and_eq_and, FeedProvider.isSome_loaded?_payload]

/-- A load whose remote locations fail hands on what can be read from the store. -/
theorem FallsBack.payload?_of_read (falls : d.FallsBack r answer good)
    (registered : d.loader.find r.id = .ok r) {payload : Bytes}
    (read : d.loader.storage.read r.id = .ok (some payload)) (filled : payload ≠ []) :
  (d.courseOf ⟨r.id, .full, answer⟩).ending.payload? = some payload
  := by
  obtain ⟨reasons, ending⟩ := Course.exists_ending_full falls.refused
  rw [courseOf_eq registered, ending, Course.fromStore_of_read read filled]
  rfl

/-- A load whose remote locations fail hands on the backup if nothing can be read from the
store. -/
theorem FallsBack.payload?_of_isBare (falls : d.FallsBack r answer good)
    (registered : d.loader.find r.id = .ok r) (bare : d.loader.storage.IsBare r.id) :
  (d.courseOf ⟨r.id, .full, answer⟩).ending.payload? = some good
  := by
  obtain ⟨reasons, ending⟩ := Course.exists_ending_full falls.refused
  obtain ⟨location, backup, answers⟩ := falls.backup
  rw [courseOf_eq registered, ending, Course.fromStore_of_isBare bare,
    Course.fromBackup_of_ok backup (answers _)]
  rfl

/-- What a load hands on whose remote locations fail can be read unless the store has something
that cannot. -/
theorem FallsBack.exists_reads_iff (falls : d.FallsBack r answer good)
    (registered : d.loader.find r.id = .ok r) {today : Date} (readable : p.Reads today good) :
  (∃ payload, (d.courseOf ⟨r.id, .full, answer⟩).ending.payload? = some payload
      ∧ p.Reads today payload)
    ↔ ∀ payload, d.loader.storage.read r.id = .ok (some payload) → payload ≠ [] →
        p.Reads today payload
  := by
  obtain bare | ⟨payload, read, filled⟩ := d.loader.storage.isBare_or_filled r.id
  · rw [falls.payload?_of_isBare registered bare]
    constructor
    · intro _ payload read filled
      exact absurd (bare payload read) filled
    · intro _
      exact ⟨good, rfl, readable⟩
  · rw [falls.payload?_of_read registered read filled, read]
    constructor
    · rintro ⟨_, ⟨⟩, reads⟩ _ ⟨⟩ -
      apply reads
    · intro h
      exact ⟨payload, rfl, h payload rfl filled⟩

/-- Runs do not change whether a load falls back. -/
theorem FallsBack.run (falls : d.FallsBack r answer good) (keyed : d.loader.IsKeyed)
    (calls : List LoadCall) :
  (d.run calls).FallsBack r answer good
  where
  refused := by
    rw [(sameSetUp_run keyed calls).settings]
    apply falls.refused
  backup := falls.backup

/-! ### A feed with one remote location -/

/-- A document of reference rates. -/
def fewRates : Bytes :=
  Text.encode ("<Cube><Cube time=\"2024-01-02\"><Cube currency=\"USD\" rate=\"1.09\"/></Cube>"
    ++ "</Cube>")

/-- A resource with one remote location, and a document as its backup. -/
def oneRemote : Resource :=
  { id := "rates", remotes := [.file "rates.xml"], backup := some (.embedded "rates" fewRates) }

/-- A provider that waits for its first load. -/
def waiting : FeedProvider :=
  (FeedProvider.fresh ⟨"ECB", oneRemote.id, ⟨.euro, .direct⟩, .background, 3⟩
    .referenceRates).connected

/-- A desk with that provider, fed from that resource. -/
def oneFeed : Desk :=
  { loader :=
      { resources := OrderedMap.empty.insert oneRemote.id oneRemote
        subscriptions := Subscriptions.empty.add (.provider 0) [oneRemote.id] }
    today := ⟨739194, by decide, by decide⟩
    providers := [waiting] }

/-- A call for a load. The remote location answers with a page or not at all. -/
def callAnswered (page : Option String) : LoadCall :=
  ⟨oneRemote.id, .full, fun question =>
    if question.isRemote then
      match page with
      | some page => .ok (Text.encode page)
      | none => .error (.fetchFailed "file://rates.xml" "connection refused")
    else .ok fewRates⟩

theorem isKeyed_oneFeed : oneFeed.loader.IsKeyed
  := Loader.IsKeyed.register (l := { oneFeed.loader with resources := .empty }) (r := oneRemote)
    (Loader.isKeyed_empty rfl) rfl

theorem feeds_oneFeed : oneFeed.Feeds oneRemote 0 waiting
  := ⟨rfl, rfl, by decide +kernel⟩

theorem fallsBack_oneFeed : oneFeed.FallsBack oneRemote (callAnswered none).answer fewRates
  where
  refused := by rintro location - others reasons payload ⟨⟩
  backup := ⟨_, rfl, fun _ => rfl⟩

theorem reads_fewRates : waiting.Reads oneFeed.today fewRates
  := by
  have accepted : (waiting.read oneFeed.today fewRates).toOption.isSome = true := by
    decide +kernel
  obtain ⟨table, read⟩ := Option.isSome_iff_exists.1 accepted
  exact ⟨table, toOption_eq_some_iff.1 read⟩

/-! ### After the remote locations have failed -/

/-- After a load whose remote locations fail a provider is ready if it was before, or an earlier
load fed it with something it can read, or the store has nothing for the resource that it cannot
read; and only then. -/
theorem isReady_run_fallsBack_iff (keyed : d.loader.IsKeyed) (feeds : d.Feeds r number p)
    (falls : d.FallsBack r answer good) (readable : p.Reads d.today good)
    (calls : List LoadCall) :
  (d.run (calls ++ [⟨r.id, .full, answer⟩])).IsReady number
    ↔ p.stage = .ready
      ∨ (∃ payload ∈ (d.loads calls).filterMap (d.fedTo? number), p.Reads d.today payload)
      ∨ ∀ payload, (d.run calls).loader.storage.read r.id = .ok (some payload) → payload ≠ [] →
          p.Reads d.today payload
  := by
  have same := sameSetUp_run keyed calls
  have last : d.fedTo? number ((d.run calls).loadOf ⟨r.id, .full, answer⟩)
      = ((d.run calls).courseOf ⟨r.id, .full, answer⟩).ending.payload? := if_pos feeds.bound
  have registered : (d.run calls).loader.find r.id = .ok r := by rw [same.find, feeds.registered]
  rw [isReady_run_iff keyed feeds.provider, loads_concat, List.filterMap_append,
    ← (falls.run keyed calls).exists_reads_iff registered readable, ← last]
  simp [or_and_right, exists_or]

/-- A page for rejected requests is not kept, so the provider gets ready by the backup. -/
theorem isReady_run_fallsBack_rejected_page :
  oneFeed.loader.IsKeyed
    ∧ oneFeed.Feeds oneRemote 0 waiting
    ∧ oneFeed.FallsBack oneRemote (callAnswered none).answer fewRates
    ∧ waiting.Reads oneFeed.today fewRates
    ∧ (oneFeed.run [callAnswered (some "Request Rejected"), callAnswered none]).IsReady 0
  := by
  have bare : (oneFeed.run [callAnswered (some "Request Rejected")]).loader.storage.read
      oneRemote.id = .ok none := by
    rw [← toOption_eq_some_iff]
    decide +kernel
  refine ⟨isKeyed_oneFeed, feeds_oneFeed, fallsBack_oneFeed, reads_fewRates, ?_⟩
  apply (isReady_run_fallsBack_iff isKeyed_oneFeed feeds_oneFeed fallsBack_oneFeed reads_fewRates
    [callAnswered (some "Request Rejected")]).2
  right
  right
  intro payload read
  rw [bare] at read
  cases read

/-- Another page passes the checks of the loader and is kept. It is handed on again when the
remote location fails, and the provider has no table although it can read the backup. -/
theorem not_isReady_of_kept_page :
  oneFeed.loader.IsKeyed
    ∧ oneFeed.Feeds oneRemote 0 waiting
    ∧ oneFeed.FallsBack oneRemote (callAnswered none).answer fewRates
    ∧ waiting.Reads oneFeed.today fewRates
    ∧ ¬ (oneFeed.run
        [callAnswered (some "<html>maintenance</html>"), callAnswered none]).IsReady 0
  := by
  have loading : (oneFeed.run [callAnswered (some "<html>maintenance</html>"),
      callAnswered none]).providers[0]?.map (·.stage) = some .loading := by
    decide +kernel
  refine ⟨isKeyed_oneFeed, feeds_oneFeed, fallsBack_oneFeed, reads_fewRates, ?_⟩
  rintro ⟨p, provider, ready⟩
  rw [provider, Option.map_some, ready] at loading
  cases loading

end Desk

end CrossRate
