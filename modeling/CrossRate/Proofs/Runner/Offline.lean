import CrossRate.Proofs.Runner.Orderly
import CrossRate.Proofs.Runner.Web

/-!
# Loads without the network

The settings of a loader may forbid the network, and a load may be asked for that does without.
Then no remote location of a resource is asked, but a backup is asked wherever it is. So replies
and office do not depend on the web just if no backup there is asked for
(`Office.staysOffWeb_serve`). Two runs are compared, one in which the web never answers and one in
which it always does (`Desk.InStep`): they ask the same, and a load fails in the first but not in
the second for each time that the web is asked.
-/

namespace CrossRate

/-! ### Courses -/

/-- The first of two answers fails for every location on the web, where the second does not, and
off the web they are the same. -/
structure Opposed (answer answer' : Question → Except LoadError Bytes) : Prop where
  offWeb {question : Question} : question.location.isRemote = false →
    answer question = answer' question
  fails {question : Question} : question.location.isRemote = true →
    ∃ e, answer question = .error e
  serves {question : Question} : question.location.isRemote = true →
    ∃ payload, answer' question = .ok payload

namespace Course

variable {answer answer' : Question → Except LoadError Bytes} {r : Resource}

/-- How often locations on the web are asked. -/
def webAsked (course : Course) : Nat := course.asked.countP (·.location.isRemote)

/-- How often a load ends without a payload: once or not at all. -/
def failures (course : Course) : Nat := if course.ending.outcome.toOption = none then 1 else 0

/-- A load ends with what a question is answered. -/
def endingWith (question : Question) (failure : LoadError → LoadError)
    (answer : Question → Except LoadError Bytes) : Course :=
  ⟨[question], match answer question with
    | .ok payload => .served .backup payload
    | .error e => .failed (failure e)⟩

/-- A course, which the answers to questions determine, asks nothing and keeps nothing, or asks the
backup of a resource and nothing else. -/
def AsksBackup (r : Resource) (course : (Question → Except LoadError Bytes) → Course) : Prop :=
  (∃ ending : LoadEnding, (∀ s id, ending.keptIn s id = s) ∧ ∀ answer, course answer = ⟨[], ending⟩)
    ∨ ∃ question failure, question.isRemote = false ∧ r.backup = some question.location
      ∧ ∀ answer, course answer = endingWith question failure answer

theorem asksBackup_fromBackup (r : Resource) (reasons : List String) :
  AsksBackup r (fromBackup · r reasons)
  := by
  simp only [AsksBackup, fromBackup]
  cases backup : r.backup with
  | none => exact .inl ⟨_, fun _ _ => rfl, fun _ => rfl⟩
  | some location =>
    right
    use .backup location reasons, fun e => .unavailable r.id (reasons ++ [e.message]), rfl, rfl
    intro answer
    rfl

theorem asksBackup_restoring (r : Resource) : AsksBackup r (restoring · r)
  := by
  simp only [AsksBackup, restoring]
  cases backup : r.backup with
  | none => exact .inl ⟨_, fun _ _ => rfl, fun _ => rfl⟩
  | some location =>
    right
    use .restore location, id, rfl, rfl
    intro answer
    rfl

theorem asksBackup_fromStore (r : Resource) (s : Storage) (reasons : List String) :
  AsksBackup r (fromStore · r s reasons)
  := by
  obtain bare | ⟨payload, read, filled⟩ := s.isBare_or_filled r.id
  · simp only [fromStore_of_isBare bare]
    apply asksBackup_fromBackup
  · simp only [fromStore_of_read read filled]
    exact .inl ⟨_, fun _ _ => rfl, fun _ => rfl⟩

/-- A load without the network asks the backup or nothing. -/
theorem asksBackup_of {σ : Type} {l : Loader σ} {way : LoadWay} (offWeb : l.wayOf way ≠ .full)
    (r : Resource) :
  AsksBackup r (of · r l way)
  := by
  simp only [of]
  cases taken : l.wayOf way with
  | full => exact absurd taken offWeb
  | atHand => apply asksBackup_fromStore
  | restore => apply asksBackup_restoring

variable {course : (Question → Except LoadError Bytes) → Course}

theorem AsksBackup.keptIn (h : AsksBackup r course) (answer : Question → Except LoadError Bytes)
    (s : Storage) (id : String) :
  (course answer).ending.keptIn s id = s
  := by
  obtain ⟨ending, kept, silent⟩ | ⟨question, failure, -, -, asks⟩ := h
  · rw [silent]
    apply kept
  · rw [asks, endingWith]
    cases answer question <;> rfl

theorem AsksBackup.backup (h : AsksBackup r course) {answer : Question → Except LoadError Bytes}
    {question : Question} (mem : question ∈ (course answer).asked) :
  question.isRemote = false ∧ r.backup = some question.location
  := by
  obtain ⟨ending, kept, silent⟩ | ⟨question, failure, isBackup, backup, asks⟩ := h
  · rw [silent] at mem
    cases mem
  · rw [asks] at mem
    obtain rfl := List.mem_singleton.1 mem
    use isBackup

/-- With opposed answers the same is asked, and a load fails with the first ones but not with the
second ones just if it asks the web. -/
theorem AsksBackup.opposed (h : AsksBackup r course) (opposed : Opposed answer answer') :
  (course answer').asked = (course answer).asked
    ∧ (course answer).failures = (course answer').failures + (course answer).webAsked
  := by
  obtain ⟨ending, -, silent⟩ | ⟨question, failure, -, -, asks⟩ := h
  · rw [silent, silent]
    exact ⟨rfl, rfl⟩
  · rw [asks, asks]
    refine ⟨rfl, ?_⟩
    cases web : question.location.isRemote with
    | false =>
      simp only [failures, webAsked, endingWith, opposed.offWeb web, List.countP_singleton, web]
      rfl
    | true =>
      obtain ⟨e, fails⟩ := opposed.fails web
      obtain ⟨payload, serves⟩ := opposed.serves web
      simp only [failures, webAsked, endingWith, fails, serves, List.countP_singleton, web]
      rfl

end Course

/-- Courses do not depend on more than the settings and the store of a loader. -/
theorem Course.of_congr {σ : Type} {l l' : Loader σ} (settings : l'.settings = l.settings)
    (storage : l'.storage = l.storage) (answer : Question → Except LoadError Bytes) (r : Resource)
    (way : LoadWay) :
  of answer r l' way = of answer r l way
  := by simp only [of, Loader.wayOf, settings, storage]

namespace Desk

/-- A desk after a load that has taken a course without the network. -/
structure LoadsOffWeb (d d' : Desk) (way : LoadWay) (course : Course) : Prop
    extends d.SameSetUp d' where
  storage : d'.loader.storage = d.loader.storage
  asked : d'.asked = d.asked ++ course.asked
  /-- It counts as a failure if it ends as one, unless it is to restore the backup. -/
  failed : d'.loader.counts.failed
    = d.loader.counts.failed + if way = .restore then 0 else course.failures

theorem LoadsOffWeb.webAsked {d d' : Desk} {way : LoadWay} {course : Course}
    (h : d.LoadsOffWeb d' way course) :
  d'.webAsked = d.webAsked + course.webAsked
  := by rw [Desk.webAsked, h.asked, List.countP_append, Desk.webAsked, Course.webAsked]

theorem loadsOffWeb_perform {d : Desk} (keyed : d.loader.IsKeyed) {id : String} {r : Resource}
    (registered : d.loader.find id = .ok r) {way : LoadWay} (offWeb : d.loader.wayOf way ≠ .full)
    (answer : Question → Except LoadError Bytes) :
  (d.perform answer id way).1 = (Course.of answer r d.loader way).ending.outcome
    ∧ d.LoadsOffWeb (d.perform answer id way).2 way (.of answer r d.loader way)
  := by
  obtain rfl := keyed _ _ registered
  obtain ⟨result, follows⟩ := perform_eq answer registered way
  have kept := follows.storage
  rw [(Course.asksBackup_of offWeb r).keptIn] at kept
  refine ⟨result, follows.toSameSetUp, kept, follows.asked, ?_⟩
  have counted := congrArg LoadCounts.failed (counts_after d ⟨r.id, way, answer⟩)
  rw [LoadCounts.add_eq] at counted
  apply Eq.trans counted
  dsimp only [tally]
  rw [endings, begins, Loader.isRegistered_of_find_eq_ok registered, loadOf, result, Course.failures]
  cases way <;> simp

end Desk

/-! ### Requests -/

namespace Office

/-- Whether the settings of a loader have a request done without the network. -/
def Request.isOffWeb (s : LoaderSettings) : Request → Bool
  | .load _ way => s.offline || way ≠ .full
  | _ => s.offline

/-- The resources that a request names. -/
def Request.resources : Request → List Resource
  | .register r => [r]
  | .reconfigure rs => rs
  | .load .. => []

/-- What two desks, where two fetchers answer, have in common goes on to be so while loads are
done without the network and some resources registered. -/
structure GoesOn (fetch fetch' : Fetcher) (s : LoaderSettings) (known : Resource → Prop)
    (common : Desk → Desk → Prop) : Prop where
  settings {d d' : Desk} : common d d' → d.loader.settings = s ∧ d'.loader.settings = s
  resources {d d' : Desk} : common d d' → d'.loader.resources = d.loader.resources
  loads {d d' : Desk} {id : String} {way : LoadWay} : common d d' → d.loader.wayOf way ≠ .full →
    (way = .restore → (d.perform (fun question => fetch d.asked question.location) id way).1
      = (d'.perform (fun question => fetch' d'.asked question.location) id way).1) →
    common (d.perform (fun question => fetch d.asked question.location) id way).2
      (d'.perform (fun question => fetch' d'.asked question.location) id way).2
  registers {d d' : Desk} {r : Resource} : common d d' → known r →
    common (d.modifyLoader (·.adding r)) (d'.modifyLoader (·.adding r))

namespace GoesOn

variable {fetch fetch' : Fetcher} {s : LoaderSettings} {known : Resource → Prop}
variable {common : Desk → Desk → Prop} (h : GoesOn fetch fetch' s known common) {o o' : Office}

include h

theorem follow (offline : s.offline = true) (now : common o.desk o'.desk) (r : Resource) :
  common ((fetching fetch).follow r o).2.desk ((fetching fetch').follow r o').2.desk
  := by
  obtain ⟨settings, settings'⟩ := h.settings now
  have same : o'.desk.loader.policyFor r = o.desk.loader.policyFor r := by
    rw [Loader.policyFor, Loader.policyFor, settings, settings']
  rw [Runner.follow, Runner.follow, loader_fetching, loader_fetching, same]
  obtain never | onDemand := Loader.policyFor_of_offline r (settings ▸ offline)
  · rw [never]
    apply h.loads now
    · simp [Loader.wayOf]
    · intro restores
      cases restores
  · rw [onDemand]
    apply now

theorem register (offline : s.offline = true) (now : common o.desk o'.desk) {r : Resource}
    (new : known r) :
  (∃ e, (fetching fetch).register r o = (.error e, o)
      ∧ (fetching fetch').register r o' = (.error e, o'))
    ∨ ∃ done done' p p', (fetching fetch).register r o = (.ok done, p)
      ∧ (fetching fetch').register r o' = (.ok done', p') ∧ common p.desk p'.desk
  := by
  have same : o'.desk.loader.admits r = o.desk.loader.admits r := by
    rw [Loader.admits, Loader.admits, h.resources now]
  rw [Runner.register, Runner.register, loader_fetching, loader_fetching, Loader.register_eq,
    Loader.register_eq, same]
  cases o.desk.loader.admits r with
  | error e => exact .inl ⟨e, rfl, rfl⟩
  | ok _ =>
    right
    let p : Office := { o with desk := o.desk.modifyLoader (·.adding r) }
    let p' : Office := { o' with desk := o'.desk.modifyLoader (·.adding r) }
    have added : common p.desk p'.desk := h.registers now new
    exact ⟨_, _, _, _, rfl, rfl, h.follow offline added r⟩

theorem registerAll (offline : s.offline = true) (now : common o.desk o'.desk)
    {rs : List Resource} (new : ∀ r ∈ rs, known r) :
  common ((fetching fetch).registerAll rs o).2.desk ((fetching fetch').registerAll rs o').2.desk
  := by
  induction rs generalizing o o' with
  | nil => apply now
  | cons r rs ih =>
    obtain ⟨new, later⟩ := List.forall_mem_cons.1 new
    have same : o'.desk.loader.isRegistered r.id = o.desk.loader.isRegistered r.id := by
      rw [Loader.isRegistered, Loader.isRegistered, h.resources now]
    rw [Runner.registerAll, Runner.registerAll, loader_fetching, loader_fetching, same]
    split
    · -- Whether it is refreshed or not, the desks stay as they are.
      split
      · split
        · exact @ih { o with schedule := _ } { o' with schedule := _ } now later
        · exact @ih { o with schedule := _ } o' now later
      · split
        · exact @ih o { o' with schedule := _ } now later
        · exact ih now later
    · obtain ⟨e, first, first'⟩ | ⟨done, done', p, p', first, first', next⟩ :=
        h.register offline now new
      · rw [first, first']
        apply now
      · rw [first, first']
        apply ih next later

/-- A request goes on so; one to restore a backup is replied alike. -/
theorem handle (now : common o.desk o'.desk) {request : Request}
    (offWeb : request.isOffWeb s = true) (new : ∀ r ∈ request.resources, known r)
    (same : (o.handle fetch request).1 = (o'.handle fetch' request).1) :
  common (o.handle fetch request).2.desk (o'.handle fetch' request).2.desk
  := by
  cases request with
  | register r =>
    obtain ⟨e, first, first'⟩ | ⟨done, done', p, p', first, first', next⟩ :=
      h.register offWeb now (new r (List.mem_singleton_self r))
    · rw [Office.handle, Office.handle, first, first']
      apply now
    · rw [Office.handle, Office.handle, first, first']
      apply next
  | reconfigure rs =>
    let p : Office := { o with schedule := o.schedule.stop }
    let p' : Office := { o' with schedule := o'.schedule.stop }
    have stopped : common p.desk p'.desk := now
    exact h.registerAll offWeb stopped new
  | load id way =>
    apply h.loads now
    · rw [Loader.wayOf, (h.settings now).1]
      cases way <;> simp_all [Request.isOffWeb]
    · intro _
      exact Reply.loaded.inj same

/-- So do requests, one after the other. -/
theorem serve (now : common o.desk o'.desk) {requests : List Request}
    (offWeb : ∀ request ∈ requests, request.isOffWeb s = true)
    (new : ∀ request ∈ requests, ∀ r ∈ request.resources, known r)
    (same : (o.serve fetch requests).1 = (o'.serve fetch' requests).1) :
  common (o.serve fetch requests).2.desk (o'.serve fetch' requests).2.desk
  := by
  induction requests generalizing o o' with
  | nil => apply now
  | cons request requests ih =>
    obtain ⟨offWeb, offWebLater⟩ := List.forall_mem_cons.1 offWeb
    obtain ⟨new, newLater⟩ := List.forall_mem_cons.1 new
    rw [serve_cons, serve_cons] at same ⊢
    obtain ⟨same, sameLater⟩ := List.cons.inj same
    apply ih (h.handle now offWeb new same) offWebLater newLater sameLater

end GoesOn

end Office

/-! ### Two runs -/

namespace Fetcher

variable (fetch : Fetcher)

/-- The fetcher that fails for every location on the web. -/
def failing : Fetcher := fun asked location =>
  if location.isRemote then .error (.fetchFailed location.print "offline") else fetch asked location

/-- The fetcher that has an empty payload for every location on the web. -/
def serving : Fetcher := fun asked location =>
  if location.isRemote then .ok [] else fetch asked location

theorem agreesOffWeb_failing : fetch.AgreesOffWeb fetch.failing
  := by
  intro asked location offWeb
  rw [failing, offWeb]
  rfl

theorem agreesOffWeb_serving : fetch.AgreesOffWeb fetch.serving
  := by
  intro asked location offWeb
  rw [serving, offWeb]
  rfl

theorem opposed (asked : List Question) :
  Opposed (fun question => fetch.failing asked question.location)
    (fun question => fetch.serving asked question.location)
  where
  offWeb off := by
    rw [← fetch.agreesOffWeb_failing asked _ off]
    apply fetch.agreesOffWeb_serving asked _ off
  fails on := ⟨_, if_pos on⟩
  serves on := ⟨_, if_pos on⟩

end Fetcher

/-- Another resource goes under its own identifier, too. -/
theorem Loader.IsKeyed.adding {σ : Type} {l : Loader σ} (h : l.IsKeyed) (r : Resource) :
  (l.adding r).IsKeyed
  := by
  intro id r' found
  rw [find_eq_ok_iff, Loader.adding, OrderedMap.get?_insert] at found
  split at found
  · rename_i same
    rw [same, Option.some.inj found]
  · apply h id r' (find_eq_ok_iff.2 found)

namespace Desk

/-- Two desks that were the same when locations on the web had been asked a number of times, and
where opposed answers have been given since. -/
structure InStep (s : LoaderSettings) (before : Nat) (d d' : Desk) : Prop where
  keyed : d.loader.IsKeyed
  settings : d.loader.settings = s ∧ d'.loader.settings = s
  resources : d'.loader.resources = d.loader.resources
  storage : d'.loader.storage = d.loader.storage
  asked : d'.asked = d.asked
  /-- At the first one a load has failed for each time that the web was asked. -/
  failed : d.loader.counts.failed + before = d'.loader.counts.failed + d.webAsked

variable {s : LoaderSettings} {d d' : Desk} {before : Nat}
variable {answer answer' : Question → Except LoadError Bytes}

theorem InStep.find (h : InStep s before d d') (id : String) :
  d'.loader.find id = d.loader.find id
  := by rw [Loader.find, Loader.find, h.resources]

/-- A load without the network takes its course at both desks. -/
theorem InStep.perform (h : InStep s before d d') {id : String} {way : LoadWay}
    (offWeb : d.loader.wayOf way ≠ .full) (opposed : Opposed answer answer')
    (restored : way = .restore →
      (d.perform answer id way).1 = (d'.perform answer' id way).1) :
  InStep s before (d.perform answer id way).2 (d'.perform answer' id way).2
  := by
  have settings : d'.loader.settings = d.loader.settings := h.settings.2.trans h.settings.1.symm
  have keyed' : d'.loader.IsKeyed := by
    intro id r found
    rw [h.find] at found
    apply h.keyed id r found
  cases found : d.loader.find id with
  | error e =>
    rwa [perform_of_find_eq_error found, perform_of_find_eq_error ((h.find id).trans found)]
  | ok r =>
    have found' := (h.find id).trans found
    have offWeb' : d'.loader.wayOf way ≠ .full := by rwa [Loader.wayOf, settings]
    obtain ⟨result, loads⟩ := loadsOffWeb_perform h.keyed found offWeb answer
    obtain ⟨result', loads'⟩ := loadsOffWeb_perform keyed' found' offWeb' answer'
    rw [Course.of_congr settings h.storage] at result' loads'
    obtain ⟨sameAsked, failures⟩ := (Course.asksBackup_of offWeb r).opposed opposed
    exact {
      keyed := loads.toSameSetUp.isKeyed h.keyed
      settings := ⟨loads.settings.trans h.settings.1, loads'.settings.trans h.settings.2⟩
      resources := loads'.resources.trans (h.resources.trans loads.resources.symm)
      storage := loads'.storage.trans (h.storage.trans loads.storage.symm)
      asked := by rw [loads'.asked, loads.asked, h.asked, sameAsked]
      failed := by
        have failed := h.failed
        rw [loads.failed, loads'.failed, loads.webAsked]
        split
        · rename_i restores
          have same := restored restores
          rw [result, result'] at same
          rw [Course.failures, Course.failures, same] at failures
          omega
        · omega }

/-- Opposed fetchers keep two desks in step. -/
theorem goesOn_inStep (fetch : Fetcher) (s : LoaderSettings) (before : Nat) :
  Office.GoesOn fetch.failing fetch.serving s (fun _ => True) (InStep s before)
  where
  settings h := h.settings
  resources h := h.resources
  loads {d d' id way} h offWeb restored := by
    rw [h.asked] at restored ⊢
    apply h.perform offWeb (fetch.opposed d.asked) restored
  registers {d d' r} h _ :=
    { keyed := h.keyed.adding r
      settings := h.settings
      resources := congrArg (·.insert r.id r) h.resources
      storage := h.storage
      asked := h.asked
      failed := h.failed }

/-! ### Backups -/

/-- The questions that have been asked since are for the backups of known resources. -/
structure AsksBackups (s : LoaderSettings) (known : Resource → Prop) (before : List Question)
    (d : Desk) : Prop where
  keyed : d.loader.IsKeyed
  settings : d.loader.settings = s
  found {id : String} {r : Resource} : d.loader.find id = .ok r → known r
  asked : ∃ asked, d.asked = before ++ asked ∧ ∀ question ∈ asked,
    question.isRemote = false ∧ ∃ r, known r ∧ r.backup = some question.location

variable {known : Resource → Prop} {asked : List Question}

theorem AsksBackups.perform (h : AsksBackups s known asked d) {id : String} {way : LoadWay}
    (offWeb : d.loader.wayOf way ≠ .full) :
  AsksBackups s known asked (d.perform answer id way).2
  := by
  cases found : d.loader.find id with
  | error e => rwa [perform_of_find_eq_error found]
  | ok r =>
    obtain ⟨-, loads⟩ := loadsOffWeb_perform h.keyed found offWeb answer
    obtain ⟨before, all, backups⟩ := h.asked
    refine ⟨loads.toSameSetUp.isKeyed h.keyed, loads.settings.trans h.settings, ?_, ?_⟩
    · intro id' r' found'
      rw [loads.toSameSetUp.find] at found'
      apply h.found found'
    · refine ⟨before ++ (Course.of answer r d.loader way).asked, ?_, ?_⟩
      · rw [loads.asked, all, List.append_assoc]
      · intro question mem
        obtain mem | mem := List.mem_append.1 mem
        · apply backups question mem
        · obtain ⟨isBackup, backup⟩ := (Course.asksBackup_of offWeb r).backup mem
          exact ⟨isBackup, r, h.found found, backup⟩

theorem goesOn_asksBackups (fetch : Fetcher) (s : LoaderSettings) (known : Resource → Prop)
    (asked : List Question) :
  Office.GoesOn fetch fetch s known (fun d d' => d' = d ∧ AsksBackups s known asked d)
  where
  settings h := ⟨h.2.settings, h.1 ▸ h.2.settings⟩
  resources h := by rw [h.1]
  loads h offWeb _ := by
    rw [h.1]
    exact ⟨rfl, h.2.perform offWeb⟩
  registers {d d' r} h new := by
    rw [h.1]
    refine ⟨rfl, h.2.keyed.adding r, h.2.settings, ?_, h.2.asked⟩
    intro id r' found
    rw [Loader.find_eq_ok_iff] at found
    simp only [modifyLoader, Loader.adding, OrderedMap.get?_insert] at found
    split at found
    · rwa [← Option.some.inj found]
    · apply h.2.found (Loader.find_eq_ok_iff.2 found)

end Desk

/-! ### Off the web -/

namespace Office

/-- A resource that an office knows or comes to know by requests. -/
def Knows (o : Office) (requests : List Request) (r : Resource) : Prop :=
  (∃ id, o.desk.loader.find id = .ok r) ∨ ∃ request ∈ requests, r ∈ request.resources

/-- What is asked of locations while requests are done. -/
structure StaysOffWeb (o : Office) (fetch : Fetcher) (requests : List Request) : Prop where
  /-- Only backups are asked for. -/
  backups : ∃ asked, (o.serve fetch requests).2.desk.asked = o.desk.asked ++ asked
    ∧ ∀ question ∈ asked, question.isRemote = false
        ∧ ∃ r, o.Knows requests r ∧ r.backup = some question.location
  /-- Replies and office do not depend on the web just if no location there is asked. -/
  independent_iff : (∀ fetch', fetch.AgreesOffWeb fetch' →
      o.serve fetch' requests = o.serve fetch requests)
    ↔ (o.serve fetch requests).2.desk.webAsked = o.desk.webAsked
  /-- None is asked if no backup is there. -/
  quiet : (∀ r, o.Knows requests r → ∀ location, r.backup = some location →
      location.isRemote = false) →
    (o.serve fetch requests).2.desk.webAsked = o.desk.webAsked

variable {o : Office} {requests : List Request}

/-- Requests that are done without the network ask for the backups of known resources alone. -/
theorem backups_serve (keyed : o.desk.loader.IsKeyed)
    (offWeb : ∀ request ∈ requests, request.isOffWeb o.desk.loader.settings = true)
    (fetch : Fetcher) :
  ∃ asked, (o.serve fetch requests).2.desk.asked = o.desk.asked ++ asked
    ∧ ∀ question ∈ asked, question.isRemote = false
        ∧ ∃ r, o.Knows requests r ∧ r.backup = some question.location
  := by
  have start : Desk.AsksBackups o.desk.loader.settings (o.Knows requests) o.desk.asked o.desk :=
    ⟨keyed, rfl, fun {id} {r} found => .inl ⟨id, found⟩, [], (List.append_nil _).symm, by simp⟩
  have goesOn := Desk.goesOn_asksBackups fetch o.desk.loader.settings (o.Knows requests)
    o.desk.asked
  apply (goesOn.serve ⟨rfl, start⟩ offWeb ?_ rfl).2.asked
  intro request mem r named
  exact .inr ⟨request, mem, named⟩

/-- If the web makes no difference to replies and office, it has not been asked: otherwise a load
would fail more often when the web never answers than when it always does. -/
theorem webAsked_serve_eq_of_independent (keyed : o.desk.loader.IsKeyed)
    (offWeb : ∀ request ∈ requests, request.isOffWeb o.desk.loader.settings = true)
    {fetch : Fetcher} (independent : ∀ fetch', fetch.AgreesOffWeb fetch' →
      o.serve fetch' requests = o.serve fetch requests) :
  (o.serve fetch requests).2.desk.webAsked = o.desk.webAsked
  := by
  have failing := independent _ fetch.agreesOffWeb_failing
  have serving := independent _ fetch.agreesOffWeb_serving
  have start : Desk.InStep o.desk.loader.settings o.desk.webAsked o.desk o.desk :=
    ⟨keyed, ⟨rfl, rfl⟩, rfl, rfl, rfl, rfl⟩
  have goesOn := Desk.goesOn_inStep fetch o.desk.loader.settings o.desk.webAsked
  have inStep := goesOn.serve start offWeb (fun _ _ _ _ => trivial) (by rw [failing, serving])
  have failed := inStep.failed
  rw [failing, serving] at failed
  omega

/-- Requests that the settings have done without the network ask for backups alone, and depend on
the web just if a backup there is asked for. -/
theorem staysOffWeb_serve (keyed : o.desk.loader.IsKeyed)
    (offWeb : ∀ request ∈ requests, request.isOffWeb o.desk.loader.settings = true)
    (fetch : Fetcher) :
  o.StaysOffWeb fetch requests
  := by
  have backups := backups_serve keyed offWeb fetch
  refine ⟨backups, ⟨webAsked_serve_eq_of_independent keyed offWeb, ?_⟩, ?_⟩
  · intro quiet fetch' agree
    apply (undisturbed_serve agree o requests).same quiet
  · intro offWeb
    obtain ⟨asked, all, backups⟩ := backups
    rw [Desk.webAsked, all, List.countP_append, Desk.webAsked, Nat.add_eq_left,
      List.countP_eq_zero]
    intro question mem
    obtain ⟨-, r, known, backup⟩ := backups question mem
    rw [offWeb r known _ backup]
    exact Bool.false_ne_true

/-- A page on the web. -/
def page : Location := .web ⟨true, "", .name "rates.example", none, ["rates.xml"], none, none⟩

/-- An office whose loader must not use the network. -/
def offline : Office :=
  { desk :=
      { loader := { settings := { offline := true } }
        today := ⟨739198, by decide, by decide⟩ } }

/-- A fetcher that finds nothing. -/
def nothingFound : Fetcher := fun _ location => .error (.fetchFailed location.print "not found")

theorem isKeyed_offline : offline.desk.loader.IsKeyed := Loader.isKeyed_empty rfl

/-- A resource on the web that has its backup within the program. -/
theorem staysOffWeb_serve_embedded_backup :
  ∃ requests : List Request,
    requests = [.register ⟨"ECB", .onStartup, [page], some (.embedded "ecb" [49]), .empty⟩,
        .load "ECB" .full, .load "ECB" .restore]
      ∧ offline.desk.loader.IsKeyed
      ∧ (∀ request ∈ requests, request.isOffWeb offline.desk.loader.settings = true)
      ∧ offline.StaysOffWeb nothingFound requests
      ∧ (offline.serve nothingFound requests).2.desk.asked.length = 3
  := by
  let requests : List Request :=
    [.register ⟨"ECB", .onStartup, [page], some (.embedded "ecb" [49]), .empty⟩,
      .load "ECB" .full, .load "ECB" .restore]
  have offWeb : ∀ request ∈ requests, request.isOffWeb offline.desk.loader.settings = true := by
    decide +kernel
  exact ⟨requests, rfl, isKeyed_offline, offWeb, staysOffWeb_serve isKeyed_offline offWeb _,
    by decide +kernel⟩

/-- A resource that has its backup on the web: a loader that must not use the network asks there
all the same, and whether the load fails depends on the answer. -/
theorem serve_depends_on_web_backup :
  ∃ (requests : List Request) (fetch fetch' : Fetcher),
    requests = [.register ⟨"ECB", .onStartup, [], some page, .empty⟩]
      ∧ offline.desk.loader.settings.offline = true
      ∧ fetch.AgreesOffWeb fetch'
      ∧ (offline.serve fetch requests).2.desk.asked.map Question.location = [page]
      ∧ (offline.serve fetch requests).2.desk.loader.counts.failed = 1
      ∧ (offline.serve fetch' requests).2.desk.loader.counts.failed = 0
  := ⟨[.register ⟨"ECB", .onStartup, [], some page, .empty⟩], nothingFound,
    nothingFound.serving, rfl, rfl, nothingFound.agreesOffWeb_serving, by decide +kernel,
    by decide +kernel, by decide +kernel⟩

end Office

end CrossRate
