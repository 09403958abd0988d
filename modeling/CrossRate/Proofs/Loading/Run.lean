import CrossRate.Proofs.Loading.Course
import CrossRate.Proofs.Loading.Pieces
import CrossRate.Proofs.Provider.Run
import Mathlib.Data.List.Induction

/-!
# Runs of loads

A desk does one load after the other, each with answers of its own (`Desk.run`), and
`Desk.loads` records them. What a store in memory keeps (`Desk.get?_run`), what the observers
hear (`Desk.heard_run`) and what the providers are fed with (`Desk.getElem?_providers_run`) can be
read off the records. Where the payload of a load is from is said by `Course.isSourced_of`.
-/

namespace CrossRate

/-! ### Where a payload comes from -/

namespace Course

/-- A payload of a remote location of a resource, of use. -/
def BringsRemote (answer : Question → Except LoadError Bytes) (r : Resource)
    (settings : LoaderSettings) (course : Course) (payload : Bytes) : Prop :=
  ∃ question ∈ course.asked, question.isRemote = true ∧ question.location ∈ r.remotes
    ∧ answer question = .ok payload ∧ Loader.IsUsable settings payload

/-- A payload of the backup of a resource. -/
def BringsBackup (answer : Question → Except LoadError Bytes) (r : Resource) (course : Course)
    (payload : Bytes) : Prop :=
  ∃ question ∈ course.asked, question.isRemote = false ∧ r.backup = some question.location
    ∧ answer question = .ok payload

/-- The layer that serves a load has the payload. -/
def IsSourced (answer : Question → Except LoadError Bytes) (r : Resource)
    (settings : LoaderSettings) (s : Storage) (course : Course) : Prop :=
  ∀ layer payload, course.ending = .served layer payload →
    match layer with
    | .remote => course.BringsRemote answer r settings payload
    | .store => s.read r.id = .ok (some payload)
    | .backup => course.BringsBackup answer r payload

variable {answer : Question → Except LoadError Bytes} {r : Resource} {settings : LoaderSettings}
variable {s : Storage}

theorem isSourced_failed (asked : List Question) (e : LoadError) :
  IsSourced answer r settings s ⟨asked, .failed e⟩
  := fun _ _ served => LoadEnding.noConfusion served

/-- Whatever is asked before does not change where the payload is from. -/
theorem IsSourced.cons {course : Course} (h : IsSourced answer r settings s course)
    (question : Question) :
  IsSourced answer r settings s ⟨question :: course.asked, course.ending⟩
  := by
  intro layer payload served
  have source := h layer payload served
  cases layer with
  | remote =>
    obtain ⟨question', asked, found⟩ := source
    exact ⟨question', .tail _ asked, found⟩
  | store => apply source
  | backup =>
    obtain ⟨question', asked, found⟩ := source
    exact ⟨question', .tail _ asked, found⟩

/-- A load that ends with the answer of the backup. -/
theorem isSourced_backup {question : Question} (isBackup : question.isRemote = false)
    (backup : r.backup = some question.location) (failure : LoadError → LoadError) :
  IsSourced answer r settings s
    ⟨[question], match answer question with
      | .ok payload => .served .backup payload
      | .error e => .failed (failure e)⟩
  := by
  cases answered : answer question with
  | error e => apply isSourced_failed
  | ok payload =>
    intro layer payload' served
    obtain ⟨rfl, rfl⟩ := LoadEnding.served.inj served
    exact ⟨question, List.mem_singleton_self _, isBackup, backup, answered⟩

theorem isSourced_fromBackup (reasons : List String) :
  IsSourced answer r settings s (fromBackup answer r reasons)
  := by
  rw [fromBackup]
  cases backup : r.backup with
  | none => apply isSourced_failed
  | some location =>
    apply isSourced_backup rfl backup
      (fun e => .unavailable r.id (reasons ++ [e.message]))

theorem isSourced_restoring : IsSourced answer r settings s (restoring answer r)
  := by
  rw [restoring]
  cases backup : r.backup with
  | none => apply isSourced_failed
  | some location => apply isSourced_backup rfl backup id

theorem isSourced_fromStore (reasons : List String) :
  IsSourced answer r settings s (fromStore answer r s reasons)
  := by
  obtain bare | ⟨payload, read, filled⟩ := s.isBare_or_filled r.id
  · rw [fromStore_of_isBare bare]
    apply isSourced_fromBackup
  · rw [fromStore_of_read read filled]
    intro layer payload' served
    obtain ⟨rfl, rfl⟩ := LoadEnding.served.inj served
    apply read

theorem isSourced_fromRemotes {locations : List Location} (remotes : locations ⊆ r.remotes)
    (reasons : List String) :
  IsSourced answer r settings s (fromRemotes answer r settings s reasons locations)
  := by
  induction locations generalizing reasons with
  | nil => apply isSourced_fromStore
  | cons location others ih =>
    obtain ⟨mem, others⟩ := List.cons_subset.1 remotes
    rw [fromRemotes]
    split
    · rename_i payload checked
      obtain ⟨answered, usable⟩ := Loader.bind_checkPayload_eq_ok_iff.1 checked
      intro layer payload' served
      obtain ⟨rfl, rfl⟩ := LoadEnding.served.inj served
      exact ⟨_, List.mem_singleton_self _, rfl, mem, answered, usable⟩
    · apply (ih others _).cons

/-- Whatever serves a load of a resource has the payload from where it should. -/
theorem isSourced_of {σ : Type} (l : Loader σ) (way : LoadWay) :
  IsSourced answer r l.settings l.storage (of answer r l way)
  := by
  rw [of]
  split
  · apply isSourced_fromRemotes (List.Subset.refl _)
  · apply isSourced_fromStore
  · apply isSourced_restoring

end Course

/-! ### Loads one after the other -/

/-- A call for a load, and what its questions are answered. -/
structure LoadCall where
  id : String
  way : LoadWay
  answer : Question → Except LoadError Bytes

/-- A load that was done for a call: what it returned, and its course. -/
structure LoadRecord where
  call : LoadCall
  result : Except LoadError Layer
  course : Course

namespace Loader

/-- Every resource is registered under its own identifier. -/
def IsKeyed {σ : Type} (l : Loader σ) : Prop := ∀ id r, l.find id = .ok r → r.id = id

theorem find_eq_ok_iff {σ : Type} {l : Loader σ} {id : String} {r : Resource} :
  l.find id = .ok r ↔ l.resources.get? id = some r
  := by
  rw [find]
  split <;> simp [*]

theorem isRegistered_of_find_eq_ok {σ : Type} {l : Loader σ} {id : String} {r : Resource}
    (found : l.find id = .ok r) :
  l.isRegistered id = true
  := by rw [isRegistered, OrderedMap.contains, find_eq_ok_iff.1 found, Option.isSome]

theorem isRegistered_of_find_eq_error {σ : Type} {l : Loader σ} {id : String} {e : LoadError}
    (found : l.find id = .error e) :
  l.isRegistered id = false
  := by
  rw [isRegistered, OrderedMap.contains]
  cases known : l.resources.get? id with
  | none => rfl
  | some r =>
    rw [find_eq_ok_iff.2 known] at found
    cases found

theorem isKeyed_empty {σ : Type} {l : Loader σ} (h : l.resources = .empty) : l.IsKeyed
  := by
  intro id r found
  rw [find_eq_ok_iff, h] at found
  cases found

/-- Registration puts every resource under its own identifier. -/
theorem IsKeyed.register {σ : Type} {l l' : Loader σ} (h : l.IsKeyed) {r : Resource}
    (registered : l.register r = .ok l') :
  l'.IsKeyed
  := by
  obtain ⟨-, -, registered⟩ := bind_eq_ok_iff.1 registered
  split at registered
  · cases registered
  · cases registered
    intro id r' found
    rw [find_eq_ok_iff, OrderedMap.get?_insert] at found
    split at found
    · rename_i same
      rw [same, Option.some.inj found]
    · apply h id r' (find_eq_ok_iff.2 found)

end Loader

namespace Desk

/-- What is asked in the load of a call, and how it ends. -/
def courseOf (d : Desk) (call : LoadCall) : Course :=
  match d.loader.find call.id with
  | .error e => ⟨[], .failed e⟩
  | .ok r =>
    let counted := d.modifyLoader (·.counting call.way)
    let (done, ending) := counted.complete call.answer r (counted.loader.firstStage r call.way)
    ⟨done.asked.drop d.asked.length, ending⟩

/-- The desk after a call. -/
def after (d : Desk) (call : LoadCall) : Desk := (d.perform call.answer call.id call.way).2

/-- The record of the load of a call. -/
def loadOf (d : Desk) (call : LoadCall) : LoadRecord :=
  ⟨call, (d.perform call.answer call.id call.way).1, d.courseOf call⟩

/-- The desk after calls, one after the other. -/
def run (d : Desk) (calls : List LoadCall) : Desk := calls.foldl after d

/-- The records of the loads of calls, one after the other. -/
def loads (d : Desk) : List LoadCall → List LoadRecord
  | [] => []
  | call :: calls => d.loadOf call :: (d.after call).loads calls

theorem run_concat (d : Desk) (calls : List LoadCall) (call : LoadCall) :
  d.run (calls ++ [call]) = (d.run calls).after call
  := by rw [run, List.foldl_append]; rfl

theorem loads_concat (d : Desk) (calls : List LoadCall) (call : LoadCall) :
  d.loads (calls ++ [call]) = d.loads calls ++ [(d.run calls).loadOf call]
  := by
  induction calls generalizing d with
  | nil => rfl
  | cons first calls ih =>
    rw [List.cons_append, loads, ih]
    rfl

variable {d : Desk} {call : LoadCall}

/-- The course of a call for a registered resource. -/
theorem courseOf_eq {r : Resource} (registered : d.loader.find call.id = .ok r) :
  d.courseOf call = .of call.answer r d.loader call.way
  := by
  obtain ⟨counts, course⟩ :=
    takes_firstStage call.answer r (d.modifyLoader (·.counting call.way)) call.way
  rw [of_counting, following_counting] at course
  simp only [courseOf, registered, course, asked, following, List.reverse_append,
    List.reverse_reverse, List.drop_left]

/-- A call follows its course, and returns how that ends. -/
theorem follows_after (keyed : d.loader.IsKeyed) (call : LoadCall) :
  (d.loadOf call).result = (d.courseOf call).ending.outcome
    ∧ d.Follows (d.after call) call.id (d.courseOf call)
  := by
  cases found : d.loader.find call.id with
  | error e =>
    have course : d.courseOf call = ⟨[], .failed e⟩ := by rw [courseOf, found]
    rw [loadOf, after, perform_of_find_eq_error found, course]
    exact ⟨rfl, follows_failed d call.id e⟩
  | ok r =>
    obtain ⟨id, way, answer⟩ := call
    obtain rfl := keyed _ _ found
    rw [courseOf_eq found]
    apply perform_eq answer found way

/-- The payload that a call hands on is from where it should. -/
theorem exists_isSourced {payload : Bytes}
    (served : (d.courseOf call).ending.payload? = some payload) :
  ∃ r, d.loader.find call.id = .ok r
    ∧ (d.courseOf call).IsSourced call.answer r d.loader.settings d.loader.storage
  := by
  cases found : d.loader.find call.id with
  | error e =>
    rw [courseOf, found] at served
    cases served
  | ok r =>
    rw [courseOf_eq found]
    exact ⟨r, rfl, Course.isSourced_of _ _⟩

/-! ### What runs leave alone -/

theorem SameSetUp.refl (d : Desk) : d.SameSetUp d
  := ⟨rfl, rfl, rfl, rfl⟩

theorem SameSetUp.trans {d' d'' : Desk} (h : d.SameSetUp d') (h' : d'.SameSetUp d'') :
  d.SameSetUp d''
  := ⟨h'.settings.trans h.settings, h'.resources.trans h.resources,
    h'.subscriptions.trans h.subscriptions, h'.today.trans h.today⟩

theorem SameSetUp.find {d' : Desk} (h : d.SameSetUp d') (id : String) :
  d'.loader.find id = d.loader.find id
  := by rw [Loader.find, Loader.find, h.resources]

theorem SameSetUp.isKeyed {d' : Desk} (h : d.SameSetUp d') (keyed : d.loader.IsKeyed) :
  d'.loader.IsKeyed
  := by
  intro id r found
  rw [h.find] at found
  apply keyed id r found

theorem sameSetUp_answered (d : Desk) (r : Resource) (answer : Except LoadError Bytes)
    (question : Question) :
  d.SameSetUp (d.answered r answer question).1
  := by
  cases question with
  | remote location others reasons =>
    simp only [answered, Loader.answered]
    split
    · apply SameSetUp.refl
    · rename_i e failed
      obtain ⟨counts, failure⟩ := withRemoteFailure_eq d.loader e
      rw [failure]
      exact ⟨rfl, rfl, rfl, rfl⟩
  | backup location reasons => cases answer <;> exact ⟨rfl, rfl, rfl, rfl⟩
  | restore location => cases answer <;> exact ⟨rfl, rfl, rfl, rfl⟩

theorem sameSetUp_tryBackup (d : Desk) (r : Resource) (reasons : List String) :
  d.SameSetUp { d with loader := (d.loader.tryBackup r reasons).1 }
  := by
  rw [Loader.tryBackup]
  split <;> exact ⟨rfl, rfl, rfl, rfl⟩

theorem sameSetUp_stored (d : Desk) (r : Resource) (use : StoreUse) :
  d.SameSetUp (d.stored r use).1
  := by
  cases use with
  | look reasons =>
    simp only [stored, Loader.stored, Loader.tryStore]
    split
    · exact ⟨rfl, rfl, rfl, rfl⟩
    · apply sameSetUp_tryBackup
    · apply sameSetUp_tryBackup
  | keep payload => exact ⟨rfl, rfl, rfl, rfl⟩

/-- Nothing is registered or subscribed to by a load. -/
theorem admitsLoads_sameSetUp : AdmitsLoads SameSetUp
  where
  refl := .refl
  trans := .trans
  counting := fun _ way => by cases way <;> exact ⟨rfl, rfl, rfl, rfl⟩
  noting := fun _ _ => ⟨rfl, rfl, rfl, rfl⟩
  answered := sameSetUp_answered
  stored := sameSetUp_stored
  handOn := by
    intro d id ending
    rw [handOn]
    split
    · rw [deliver, deliverTo_fst]
      exact ⟨rfl, rfl, rfl, rfl⟩
    · apply SameSetUp.refl
  account := fun _ _ => ⟨rfl, rfl, rfl, rfl⟩
  noteFirstLoad := fun _ _ outcome => by cases outcome <;> exact ⟨rfl, rfl, rfl, rfl⟩

/-- Nothing is registered or subscribed to in a run. -/
theorem sameSetUp_run (keyed : d.loader.IsKeyed) (calls : List LoadCall) :
  d.SameSetUp (d.run calls)
  := by
  induction calls using List.reverseRecOn with
  | nil => exact ⟨rfl, rfl, rfl, rfl⟩
  | append_singleton calls call ih =>
    rw [run_concat]
    apply ih.trans (follows_after (ih.isKeyed keyed) call).2.toSameSetUp

/-- The step of a run. -/
theorem follows_run (keyed : d.loader.IsKeyed) (calls : List LoadCall) (call : LoadCall) :
  ((d.run calls).loadOf call).result = ((d.run calls).courseOf call).ending.outcome
    ∧ (d.run calls).Follows (d.run (calls ++ [call])) call.id ((d.run calls).courseOf call)
  := by
  rw [run_concat]
  apply follows_after ((sameSetUp_run keyed calls).isKeyed keyed)

/-- Every load of a run was done after the loads before it. -/
theorem exists_of_mem_loads {calls : List LoadCall} {l : LoadRecord} (mem : l ∈ d.loads calls) :
  ∃ earlier call, l = (d.run earlier).loadOf call
  := by
  induction calls using List.reverseRecOn with
  | nil => cases mem
  | append_singleton calls call ih =>
    rw [loads_concat, List.mem_append, List.mem_singleton] at mem
    obtain mem | rfl := mem
    · apply ih mem
    · use calls, call

/-- What a load in a run returns is how its course ends. -/
theorem result_of_mem_loads (keyed : d.loader.IsKeyed) {calls : List LoadCall} {l : LoadRecord}
    (mem : l ∈ d.loads calls) :
  l.result = l.course.ending.outcome
  := by
  obtain ⟨earlier, call, rfl⟩ := exists_of_mem_loads mem
  apply (follows_run keyed earlier call).1

/-- What a load in a run hands on is from where it should. -/
theorem isSourced_of_mem_loads (keyed : d.loader.IsKeyed) {calls : List LoadCall} {l : LoadRecord}
    (mem : l ∈ d.loads calls) {payload : Bytes} (served : l.course.ending.payload? = some payload) :
  ∃ r s, d.loader.find l.call.id = .ok r
    ∧ l.course.IsSourced l.call.answer r d.loader.settings s
  := by
  obtain ⟨earlier, call, rfl⟩ := exists_of_mem_loads mem
  have same := sameSetUp_run keyed earlier
  obtain ⟨r, found, sourced⟩ := exists_isSourced served
  rw [same.find] at found
  rw [same.settings] at sourced
  exact ⟨r, _, found, sourced⟩

end Desk

/-! ### What the store keeps -/

namespace LoadEnding

/-- The payload of a remote location that served a load. -/
def fresh? : LoadEnding → Option Bytes
  | served .remote payload => some payload
  | _ => none

theorem fresh?_eq_some_iff {ending : LoadEnding} {payload : Bytes} :
  ending.fresh? = some payload ↔ ending.outcome = .ok .remote ∧ ending.payload? = some payload
  := by rcases ending with ⟨_ | _ | _, _⟩ | _ <;> simp [fresh?, outcome, payload?]

theorem fresh?_eq_none_iff {ending : LoadEnding} :
  ending.fresh? = none ↔ ending.outcome ≠ .ok .remote
  := by rcases ending with ⟨_ | _ | _, _⟩ | _ <;> simp [fresh?, outcome]

/-- A store in memory that can be written keeps what a remote location has served. -/
theorem get?_keptIn {s : Storage} {readable : Bool} (memory : s.place = .memory readable true)
    (id id' : String) (ending : LoadEnding) :
  (ending.keptIn s id').place = .memory readable true
    ∧ (ending.keptIn s id').kept.get? id
      = (if id' = id then ending.fresh? else none).or (s.kept.get? id)
  := by
  rcases ending with ⟨_ | _ | _, payload⟩ | e
  · simp only [keptIn, Storage.keeping, Storage.write, memory, fresh?, if_true,
      OrderedMap.get?_insert]
    refine ⟨trivial, ?_⟩
    by_cases same : id' = id
    · simp [same]
    · simp [same, Ne.symm same]
  all_goals simp [keptIn, fresh?, memory]

end LoadEnding

/-- What a load keeps in the store for a resource. -/
def LoadRecord.kept? (id : String) (l : LoadRecord) : Option Bytes :=
  if l.call.id = id then l.course.ending.fresh? else none

namespace Desk

variable {d : Desk}

/-- After a run a store in memory keeps for each resource what the last of the loads brought
that kept anything, or else what it kept before. -/
theorem get?_run (keyed : d.loader.IsKeyed) {readable : Bool}
    (memory : d.loader.storage.place = .memory readable true) (calls : List LoadCall)
    (id : String) :
  (d.run calls).loader.storage.place = .memory readable true
    ∧ (d.run calls).loader.storage.kept.get? id
      = ((d.loads calls).reverse.findSome? (LoadRecord.kept? id)).or
          (d.loader.storage.kept.get? id)
  := by
  induction calls using List.reverseRecOn with
  | nil => exact ⟨memory, rfl⟩
  | append_singleton calls call ih =>
    -- The last load is the first that is asked what it kept.
    obtain ⟨place, kept⟩ := ih
    have step := (follows_run keyed calls call).2.storage
    obtain ⟨place', kept'⟩ := LoadEnding.get?_keptIn place id call.id
      ((d.run calls).courseOf call).ending
    have last : LoadRecord.kept? id ((d.run calls).loadOf call)
        = if call.id = id then ((d.run calls).courseOf call).ending.fresh? else none := rfl
    rw [step, kept', kept, ← last, loads_concat, List.reverse_append, List.reverse_singleton,
      List.singleton_append, List.findSome?_cons]
    refine ⟨place', ?_⟩
    cases LoadRecord.kept? id ((d.run calls).loadOf call) <;> rfl

/-! ### What is handed on -/

/-- What the observers note of a load. -/
def noted (d : Desk) (l : LoadRecord) : List Delivery :=
  l.course.ending.noted l.call.id (d.loader.subscriptions.recipients l.call.id)

/-- What a provider is fed with by a load. -/
def fedTo? (d : Desk) (number : Nat) (l : LoadRecord) : Option Bytes :=
  if .provider number ∈ d.loader.subscriptions.recipients l.call.id then l.course.ending.payload?
  else none

/-- In a run the observers hear what they note of each load. -/
theorem heard_run (keyed : d.loader.IsKeyed) (calls : List LoadCall) :
  (d.run calls).heard = d.heard ++ (d.loads calls).flatMap d.noted
  := by
  induction calls using List.reverseRecOn with
  | nil => rw [loads, List.flatMap_nil, List.append_nil]; rfl
  | append_singleton calls call ih =>
    rw [(follows_run keyed calls call).2.heard, ih, (sameSetUp_run keyed calls).subscriptions,
      loads_concat, List.flatMap_append, List.flatMap_singleton, List.append_assoc]
    rfl

/-- A provider after a load was handed to the recipients. -/
theorem getElem?_fed (today : Date) {recipients : List Subscriber} (distinct : recipients.Nodup)
    (providers : List FeedProvider) (ending : LoadEnding) (number : Nat) :
  (ending.fed today recipients providers)[number]?
    = providers[number]?.map (·.run today (((if .provider number ∈ recipients
        then ending.payload? else none).toList).map .payload))
  := by
  rw [LoadEnding.fed]
  cases ending.payload? with
  | none => simp
  | some payload =>
    rw [getElem?_foldl_fed distinct]
    split
    · rfl
    · simp

/-- In a run a provider goes through what it is fed with. -/
theorem getElem?_providers_run (keyed : d.loader.IsKeyed) (calls : List LoadCall) (number : Nat) :
  (d.run calls).providers[number]?
    = d.providers[number]?.map
        (·.run d.today (((d.loads calls).filterMap (d.fedTo? number)).map .payload))
  := by
  induction calls using List.reverseRecOn with
  | nil => simp [run, loads]
  | append_singleton calls call ih =>
    have same := sameSetUp_run keyed calls
    rw [(follows_run keyed calls call).2.providers,
      getElem?_fed _ (Subscriptions.nodup_recipients _ _), ih, same.subscriptions, same.today,
      loads_concat, List.filterMap_append, Option.map_map]
    congr 1
    funext p
    rw [Function.comp, ← FeedProvider.run_append, ← List.map_append]
    rfl

end Desk

end CrossRate
