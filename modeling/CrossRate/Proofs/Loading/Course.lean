import CrossRate.Proofs.Loading.Delivery

/-!
# The course of a load

The `Course` of a load is what is asked in it and how it ends, given what each question is
answered and what is in the store. It follows the layers: the remote locations one after the
other, then the store, then the backup. A load takes its course (`takes_firstStage`), and
`Desk.Follows` says what has become of the desk once its payload was handed on.
-/

namespace CrossRate

namespace Loader

/-- A payload of a remote location is of use: it is not blank, and no sentinel stands in its
first line. -/
def IsUsable (s : LoaderSettings) (payload : Bytes) : Prop :=
  (∃ b ∈ payload, Text.isAsciiBlank b = false)
    ∧ ∀ sentinel ∈ s.sentinels, ¬ sentinel.toList <:+: (firstLine payload).toList

theorem isUsable_iff {s : LoaderSettings} {payload : Bytes} :
  IsUsable s payload ↔ ¬ payload.all Text.isAsciiBlank
    ∧ ¬ s.sentinels.any (fun t => Text.occursIn t.toList (firstLine payload).toList)
  := by simp [IsUsable, Text.occursIn_iff]

/-- The payloads of use are those that pass the check. -/
theorem bind_checkPayload_eq_ok_iff {s : LoaderSettings} {location : Location}
    {answer : Except LoadError Bytes} {payload : Bytes} :
  answer.bind (checkPayload s location) = .ok payload ↔ answer = .ok payload ∧ IsUsable s payload
  := by
  cases answer with
  | error e => simp [Except.bind]
  | ok found =>
    rw [Except.bind, checkPayload, isUsable_iff, Except.ok.injEq]
    split
    · rename_i blank
      constructor
      · simp
      · rintro ⟨rfl, filled, -⟩
        apply absurd blank filled
    · rename_i filled
      split
      · rename_i rejected
        constructor
        · simp
        · rintro ⟨rfl, -, accepted⟩
          apply absurd rejected accepted
      · rename_i accepted
        constructor
        · rintro ⟨⟩
          exact ⟨rfl, filled, accepted⟩
        · rintro ⟨rfl, -⟩
          rfl

/-- A location has nothing of use, whenever it is asked. -/
def IsRefused (s : LoaderSettings) (answer : Question → Except LoadError Bytes)
    (location : Location) : Prop :=
  ∀ others reasons payload, answer (.remote location others reasons) = .ok payload →
    ¬ IsUsable s payload

/-- A location is asked and fails for a reason. -/
def Fails (s : LoaderSettings) (answer : Question → Except LoadError Bytes) (location : Location)
    (reason : String) : Prop :=
  ∃ others reasons e, (answer (.remote location others reasons)).bind (checkPayload s location)
    = .error e ∧ e.message = reason

/-- Why the store does not serve a load, by what is read from it. -/
def storeReason : Except StorageFault (Option Bytes) → String
  | .ok _ => "no cached data"
  | .error fault => (LoadError.storeFailed fault).message

end Loader

namespace Storage

/-- Nothing can be read from a store for a resource. -/
def IsBare (s : Storage) (id : String) : Prop :=
  ∀ payload, s.read id = .ok (some payload) → payload = []

theorem isBare_or_filled (s : Storage) (id : String) :
  s.IsBare id ∨ ∃ payload, s.read id = .ok (some payload) ∧ payload ≠ []
  := by
  by_cases filled : ∃ payload, s.read id = .ok (some payload) ∧ payload ≠ []
  · apply Or.inr filled
  · left
    intro payload read
    by_contra nonempty
    apply filled ⟨payload, read, nonempty⟩

end Storage

/-- What is asked in a load, and how it ends. -/
structure Course where
  asked : List Question
  ending : LoadEnding

namespace Course

variable (answer : Question → Except LoadError Bytes) (r : Resource)

/-- The course from the backup on. -/
def fromBackup (reasons : List String) : Course :=
  match r.backup with
  | none => ⟨[], .failed (.unavailable r.id (reasons ++ ["no backup location"]))⟩
  | some location =>
    ⟨[.backup location reasons],
      match answer (.backup location reasons) with
      | .ok payload => .served .backup payload
      | .error e => .failed (.unavailable r.id (reasons ++ [e.message]))⟩

/-- The course from the store on. -/
def fromStore (s : Storage) (reasons : List String) : Course :=
  match s.read r.id with
  | .ok (some (b :: bs)) => ⟨[], .served .store (b :: bs)⟩
  | found => fromBackup answer r (reasons ++ [Loader.storeReason found])

/-- The course from the remote locations that are left on. -/
def fromRemotes (settings : LoaderSettings) (s : Storage) (reasons : List String) :
    List Location → Course
  | [] => fromStore answer r s reasons
  | location :: others =>
    let question := .remote location others reasons
    match (answer question).bind (Loader.checkPayload settings location) with
    | .ok payload => ⟨[question], .served .remote payload⟩
    | .error e =>
      let later := fromRemotes settings s (reasons ++ [e.message]) others
      ⟨question :: later.asked, later.ending⟩

/-- The course of restoring the backup. -/
def restoring : Course :=
  match r.backup with
  | none => ⟨[], .failed (.unavailable r.id ["no backup location"])⟩
  | some location =>
    ⟨[.restore location],
      match answer (.restore location) with
      | .ok payload => .served .backup payload
      | .error e => .failed e⟩

/-- The course of a load by a loader. -/
def of {σ : Type} (l : Loader σ) (way : LoadWay) : Course :=
  match l.wayOf way with
  | .full => fromRemotes answer r l.settings l.storage [] r.remotes
  | .atHand => fromStore answer r l.storage []
  | .restore => restoring answer r

variable {answer r}

theorem of_full {σ : Type} {l : Loader σ} (online : l.settings.offline = false) :
  of answer r l .full = fromRemotes answer r l.settings l.storage [] r.remotes
  := by simp [of, Loader.wayOf, online]

/-- The course of a load passes over the locations that have nothing of use. -/
theorem fromRemotes_append {settings : LoaderSettings} {s : Storage} {earlier : List Location}
    (refused : ∀ location ∈ earlier, Loader.IsRefused settings answer location)
    (reasons : List String) (others : List Location) :
  ∃ questions why, questions.map Question.location = earlier
    ∧ List.Forall₂ (Loader.Fails settings answer) earlier why
    ∧ fromRemotes answer r settings s reasons (earlier ++ others)
      = ⟨questions ++ (fromRemotes answer r settings s (reasons ++ why) others).asked,
          (fromRemotes answer r settings s (reasons ++ why) others).ending⟩
  := by
  induction earlier generalizing reasons with
  | nil =>
    use [], [], rfl, .nil
    simp
  | cons location earlier ih =>
    obtain ⟨refused, later⟩ := List.forall_mem_cons.1 refused
    rw [List.cons_append, fromRemotes]
    cases checked : (answer (.remote location (earlier ++ others) reasons)).bind
        (Loader.checkPayload settings location) with
    | ok payload =>
      obtain ⟨answered, usable⟩ := Loader.bind_checkPayload_eq_ok_iff.1 checked
      exact absurd usable (refused _ _ _ answered)
    | error e =>
      obtain ⟨questions, why, locations, fails, course⟩ := ih later (reasons ++ [e.message])
      use .remote location (earlier ++ others) reasons :: questions, e.message :: why
      simp only [course]
      exact ⟨by rw [List.map_cons, locations]; rfl, .cons ⟨_, _, e, checked, rfl⟩ fails, by simp⟩

/-- The course of a load ends with the store if there is something in it. -/
theorem fromStore_of_read {s : Storage} {payload : Bytes}
    (read : s.read r.id = .ok (some payload)) (filled : payload ≠ []) (reasons : List String) :
  fromStore answer r s reasons = ⟨[], .served .store payload⟩
  := by
  obtain ⟨b, bs, rfl⟩ := List.exists_cons_of_ne_nil filled
  rw [fromStore, read]

/-- The course of a load passes over a store that has nothing. -/
theorem fromStore_of_isBare {s : Storage} (bare : s.IsBare r.id) (reasons : List String) :
  fromStore answer r s reasons
    = fromBackup answer r (reasons ++ [Loader.storeReason (s.read r.id)])
  := by
  rw [fromStore]
  rcases read : s.read r.id with fault | (_ | (_ | ⟨b, bs⟩))
  · rfl
  · rfl
  · rfl
  · simpa using bare _ read

/-- The course of a load ends with the backup if that answers. -/
theorem fromBackup_of_ok {location : Location} {reasons : List String} {payload : Bytes}
    (backup : r.backup = some location)
    (answers : answer (.backup location reasons) = .ok payload) :
  fromBackup answer r reasons = ⟨[.backup location reasons], .served .backup payload⟩
  := by simp only [fromBackup, backup, answers]

end Course

namespace LoadEnding

/-- The store after a load: it keeps the payload of a remote location. -/
def keptIn (s : Storage) (id : String) : LoadEnding → Storage
  | served .remote payload => s.keeping id payload
  | _ => s

/-- What recipients note of the payload of a load, if it has one. -/
def noted (id : String) (recipients : List Subscriber) (ending : LoadEnding) : List Delivery :=
  match ending.payload? with
  | some payload => recipients.filterMap (·.delivery? id payload)
  | none => []

/-- The providers after recipients were handed the payload of a load, if it has one. -/
def fed (today : Date) (recipients : List Subscriber) (providers : List FeedProvider)
    (ending : LoadEnding) : List FeedProvider :=
  match ending.payload? with
  | some payload => recipients.foldl (Subscriber.fed today payload) providers
  | none => providers

end LoadEnding

namespace Desk

variable {answer : Question → Except LoadError Bytes} {r : Resource} {d : Desk}

/-- A desk after a load has taken a course and before its payload is handed on. -/
def following (d : Desk) (r : Resource) (course : Course) (counts : LoadCounts) : Desk :=
  { d with
    loader := { d.loader with
      storage := course.ending.keptIn d.loader.storage r.id
      counts := counts }
    questions := course.asked.reverse ++ d.questions }

/-- A load at some stage takes a course. -/
def Takes (answer : Question → Except LoadError Bytes) (d : Desk) (r : Resource)
    (stage : LoadStage) (course : Course) : Prop :=
  ∃ counts, d.complete answer r stage = (d.following r course counts, course.ending)

theorem complete_ended (d : Desk) (ending : LoadEnding) :
  d.complete answer r (.ended ending) = (d, ending)
  := by rw [complete]

theorem complete_asking (d : Desk) (question : Question) :
  d.complete answer r (.asking question)
    = complete answer ((d.noting question).answered r (answer question) question).1 r
        ((d.noting question).answered r (answer question) question).2
  := by rw [complete]

theorem complete_storing (d : Desk) (use : StoreUse) :
  d.complete answer r (.storing use) = complete answer (d.stored r use).1 r (d.stored r use).2
  := by rw [complete]

/-- A load that goes on to the backup takes the course from there. -/
theorem takes_tryBackup (d : Desk) (reasons : List String) :
  ∃ counts, complete answer { d with loader := (d.loader.tryBackup r reasons).1 } r
      (d.loader.tryBackup r reasons).2
    = (d.following r (.fromBackup answer r reasons) counts,
        (Course.fromBackup answer r reasons).ending)
  := by
  rw [Loader.tryBackup, Course.fromBackup]
  cases r.backup with
  | none =>
    dsimp only [Loader.giveUp]
    rw [complete_ended]
    exact ⟨_, rfl⟩
  | some location =>
    dsimp only
    rw [complete_asking]
    simp only [answered, Loader.answered]
    cases answer (.backup location reasons) with
    | ok payload =>
      dsimp only
      rw [complete_ended]
      exact ⟨_, rfl⟩
    | error e =>
      dsimp only [Loader.giveUp]
      rw [complete_ended]
      exact ⟨_, rfl⟩

/-- A load that goes on to the store takes the course from there. -/
theorem takes_look (d : Desk) (reasons : List String) :
  Takes answer d r (.storing (.look reasons)) (.fromStore answer r d.loader.storage reasons)
  := by
  rw [Takes, complete_storing, Course.fromStore]
  simp only [stored, Loader.stored, Loader.tryStore]
  rcases d.loader.storage.read r.id with fault | (_ | (_ | ⟨b, bs⟩))
  · apply takes_tryBackup
  · apply takes_tryBackup
  · apply takes_tryBackup
  · dsimp only
    rw [complete_ended]
    exact ⟨_, rfl⟩

/-- A remote location that fails changes the counts only. -/
theorem withRemoteFailure_eq {σ : Type} (l : Loader σ) (e : LoadError) :
  ∃ counts, l.withRemoteFailure e = { l with counts := counts }
  := by cases e <;> exact ⟨_, rfl⟩

/-- A load that goes on to the remote locations that are left takes the course from there. -/
theorem takes_tryRemotes (d : Desk) (reasons : List String) (locations : List Location) :
  Takes answer d r (Loader.tryRemotes reasons locations)
    (.fromRemotes answer r d.loader.settings d.loader.storage reasons locations)
  := by
  induction locations generalizing d reasons with
  | nil => apply takes_look
  | cons location others ih =>
    rw [Takes, Loader.tryRemotes, complete_asking, Course.fromRemotes]
    simp only [answered, Loader.answered, noting]
    cases (answer (.remote location others reasons)).bind
        (Loader.checkPayload d.loader.settings location) with
    | ok payload =>
      dsimp only
      rw [complete_storing]
      simp only [stored, Loader.stored]
      rw [complete_ended]
      exact ⟨_, rfl⟩
    | error e =>
      -- The next question is asked at a desk with other counts, which no course depends on.
      obtain ⟨failed, failure⟩ := withRemoteFailure_eq d.loader e
      dsimp only
      rw [failure]
      obtain ⟨counts, course⟩ := ih
        { d with
          loader := { d.loader with counts := failed }
          questions := .remote location others reasons :: d.questions }
        (reasons ++ [e.message])
      use counts
      rw [course]
      simp [following]

/-- A load takes its course. -/
theorem takes_firstStage (answer : Question → Except LoadError Bytes) (r : Resource) (d : Desk)
    (way : LoadWay) :
  Takes answer d r (d.loader.firstStage r way) (.of answer r d.loader way)
  := by
  rw [Loader.firstStage, Course.of]
  cases d.loader.wayOf way with
  | full => apply takes_tryRemotes
  | atHand => apply takes_look
  | restore =>
    rw [Course.restoring]
    cases r.backup with
    | none =>
      rw [Takes, complete_ended]
      exact ⟨_, rfl⟩
    | some location =>
      rw [Takes, complete_asking]
      simp only [answered, Loader.answered]
      cases answer (.restore location) <;> dsimp only <;> rw [complete_ended] <;> exact ⟨_, rfl⟩

/-- Two desks that differ only in what loads may change. -/
structure SameSetUp (d d' : Desk) : Prop where
  settings : d'.loader.settings = d.loader.settings
  resources : d'.loader.resources = d.loader.resources
  subscriptions : d'.loader.subscriptions = d.loader.subscriptions
  today : d'.today = d.today

/-- A desk before and after a load that took a course. -/
structure Follows (d d' : Desk) (id : String) (course : Course) : Prop extends SameSetUp d d' where
  storage : d'.loader.storage = course.ending.keptIn d.loader.storage id
  asked : d'.asked = d.asked ++ course.asked
  heard : d'.heard
    = d.heard ++ course.ending.noted id (d.loader.subscriptions.recipients id)
  providers : d'.providers
    = course.ending.fed d.today (d.loader.subscriptions.recipients id) d.providers

/-- To count a load changes nothing of its course. -/
theorem following_counting (d : Desk) (r : Resource) (way : LoadWay) (course : Course)
    (counts : LoadCounts) :
  (d.modifyLoader (·.counting way)).following r course counts = d.following r course counts
  := by cases way <;> rfl

theorem of_counting (d : Desk) (way : LoadWay) :
  Course.of answer r (d.modifyLoader (·.counting way)).loader way = .of answer r d.loader way
  := by cases way <;> rfl

/-- The payload of a load that took a course is handed on. -/
theorem follows_handOn (d : Desk) (course : Course) (counts : LoadCounts) :
  d.Follows ((d.following r course counts).handOn r.id course.ending).1 r.id course
  := by
  have asked : (d.following r course counts).asked = d.asked ++ course.asked := by
    simp [following, Desk.asked]
  cases payload : course.ending.payload? with
  | none =>
    simp only [handOn, payload]
    exact ⟨⟨rfl, rfl, rfl, rfl⟩, rfl, asked,
      by simp [LoadEnding.noted, payload, heard, following],
      by simp [LoadEnding.fed, payload, following]⟩
  | some payload' =>
    simp only [handOn, payload, deliver, deliverTo_fst]
    exact ⟨⟨rfl, rfl, rfl, rfl⟩, rfl, asked,
      by simp [LoadEnding.noted, payload, heard, following],
      by simp [LoadEnding.fed, payload, following]⟩

/-- The account of a delivery changes the counts only. -/
theorem Follows.accounted {d' : Desk} {id : String} {course : Course} (h : d.Follows d' id course)
    (report : DeliveryReport) :
  d.Follows (d'.account report) id course
  := ⟨⟨h.settings, h.resources, h.subscriptions, h.today⟩, h.storage, h.asked, h.heard, h.providers⟩

/-- A load of a registered resource takes its course. -/
theorem perform_eq (answer : Question → Except LoadError Bytes)
    (registered : d.loader.find r.id = .ok r) (way : LoadWay) :
  (d.perform answer r.id way).1 = (Course.of answer r d.loader way).ending.outcome
    ∧ d.Follows (d.perform answer r.id way).2 r.id (.of answer r d.loader way)
  := by
  obtain ⟨counts, course⟩ := takes_firstStage answer r (d.modifyLoader (·.counting way)) way
  rw [of_counting, following_counting] at course
  simp only [perform, registered, course]
  exact ⟨trivial, (d.follows_handOn _ counts).accounted _⟩

/-- To fail at once changes nothing. -/
theorem follows_failed (d : Desk) (id : String) (e : LoadError) :
  d.Follows d id ⟨[], .failed e⟩
  := ⟨⟨rfl, rfl, rfl, rfl⟩, rfl, (List.append_nil _).symm, (List.append_nil _).symm, rfl⟩

/-- A load of a resource that is not registered fails and changes nothing. -/
theorem perform_of_find_eq_error {id : String} {e : LoadError}
    (unknown : d.loader.find id = .error e) (way : LoadWay) :
  d.perform answer id way = (.error e, d)
  := by rw [perform, unknown]

end Desk

end CrossRate
