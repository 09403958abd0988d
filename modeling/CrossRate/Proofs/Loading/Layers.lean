import CrossRate.Proofs.Loading.Course
import CrossRate.Proofs.Loading.Storage
import Mathlib.Data.List.Forall2

/-!
# Loads layer by layer

Each location gives one answer, however often it is asked. Then a load over the network is
served by the first remote location with a payload of use, or else it ends as a load without
the network does, except that the reasons for failing begin with those of the remote locations
(`perform_byLayers`).
-/

namespace CrossRate

/-- The answers to questions, when each location gives one. -/
def byLocation (ask : Location → Except LoadError Bytes) (question : Question) :
    Except LoadError Bytes :=
  ask question.location

/-- The locations that were asked, in order. -/
def Desk.askedLocations (d : Desk) : List Location := d.asked.map Question.location

namespace Loader

/-- A location answers with a payload of use. -/
def Offers (s : LoaderSettings) (ask : Location → Except LoadError Bytes) (location : Location)
    (payload : Bytes) : Prop :=
  ask location = .ok payload ∧ IsUsable s payload

/-- A location does not answer with a payload of use, for a reason. -/
def Refuses (s : LoaderSettings) (ask : Location → Except LoadError Bytes) (location : Location)
    (reason : String) : Prop :=
  ∃ e, (ask location).bind (checkPayload s location) = .error e ∧ e.message = reason

/-- Why the backup does not serve a load. -/
def backupReason (ask : Location → Except LoadError Bytes) : Option Location → String
  | none => "no backup location"
  | some location =>
    match ask location with
    | .ok _ => ""
    | .error e => e.message

end Loader

/-- A failure for more reasons. -/
def LoadError.behind (reasons : List String) : LoadError → LoadError
  | unavailable resource rest => unavailable resource (reasons ++ rest)
  | e => e

namespace LoadEnding

/-- An ending for more reasons. -/
def behind (reasons : List String) : LoadEnding → LoadEnding
  | served layer payload => served layer payload
  | failed e => failed (e.behind reasons)

variable (reasons : List String) (ending : LoadEnding)

theorem outcome_behind :
  (ending.behind reasons).outcome = ending.outcome.mapError (LoadError.behind reasons)
  := by cases ending <;> rfl

theorem payload?_behind : (ending.behind reasons).payload? = ending.payload?
  := by cases ending <;> rfl

theorem keptIn_behind (s : Storage) (id : String) :
  (ending.behind reasons).keptIn s id = ending.keptIn s id
  := by cases ending <;> rfl

end LoadEnding

namespace Course

variable {ask : Location → Except LoadError Bytes} {r : Resource} {settings : LoaderSettings}
variable {s : Storage}

/-- The course of a load passes over the locations that offer nothing. -/
theorem fromRemotes_of_not_offers {earlier : List Location}
    (refused : ∀ location ∈ earlier, ∀ payload, ¬ Loader.Offers settings ask location payload)
    (others : List Location) :
  ∃ questions why, questions.map Question.location = earlier
    ∧ List.Forall₂ (Loader.Refuses settings ask) earlier why
    ∧ fromRemotes (byLocation ask) r settings s [] (earlier ++ others)
      = ⟨questions ++ (fromRemotes (byLocation ask) r settings s why others).asked,
          (fromRemotes (byLocation ask) r settings s why others).ending⟩
  := by
  have refused' : ∀ location ∈ earlier, Loader.IsRefused settings (byLocation ask) location :=
    fun location mem _ _ payload answered usable =>
      refused location mem payload ⟨answered, usable⟩
  obtain ⟨questions, why, locations, fails, course⟩ :=
    fromRemotes_append (s := s) (r := r) refused' [] others
  rw [List.nil_append] at course
  use questions, why, locations, fails.imp fun _ _ ⟨_, _, refuses⟩ => refuses

/-- The course of a load ends with the location that has a payload of use. -/
theorem fromRemotes_of_offers {location : Location} {payload : Bytes}
    (offers : Loader.Offers settings ask location payload) (reasons : List String)
    (others : List Location) :
  fromRemotes (byLocation ask) r settings s reasons (location :: others)
    = ⟨[.remote location others reasons], .served .remote payload⟩
  := by
  simp only [fromRemotes, byLocation, Question.location,
    Loader.bind_checkPayload_eq_ok_iff.2 offers]

/-- The course of a load ends without a payload if the backup does not answer. -/
theorem fromBackup_of_ne (nothing : ∀ location payload, r.backup = some location →
    ask location ≠ .ok payload) (reasons : List String) :
  fromBackup (byLocation ask) r reasons
    = ⟨r.backup.toList.map (.backup · reasons),
        .failed (.unavailable r.id (reasons ++ [Loader.backupReason ask r.backup]))⟩
  := by
  rw [fromBackup]
  cases backup : r.backup with
  | none => rfl
  | some location =>
    simp only [byLocation, Question.location]
    cases answers : ask location with
    | ok payload => exact absurd answers (nothing location payload backup)
    | error e => simp [Loader.backupReason, answers]

/-- What went before the store only adds reasons. -/
theorem ending_fromStore (reasons : List String) :
  (fromStore (byLocation ask) r s reasons).ending
    = (fromStore (byLocation ask) r s []).ending.behind reasons
  := by
  obtain bare | ⟨payload, read, filled⟩ := s.isBare_or_filled r.id
  · rw [fromStore_of_isBare bare, fromStore_of_isBare bare]
    by_cases answers : ∃ location payload, r.backup = some location ∧ ask location = .ok payload
    · obtain ⟨location, payload, backup, answer⟩ := answers
      rw [fromBackup_of_ok backup answer, fromBackup_of_ok backup answer]
      rfl
    · have silent : ∀ location payload, r.backup = some location → ask location ≠ .ok payload := by
        grind
      rw [fromBackup_of_ne silent, fromBackup_of_ne silent]
      simp [LoadEnding.behind, LoadError.behind]
  · rw [fromStore_of_read read filled, fromStore_of_read read filled]
    rfl

end Course

namespace Desk

/-- A desk before and after a payload was handed once to each of those who want it, and to
nobody else. -/
def HandsOnce (d d' : Desk) (id : String) (payload : Bytes) : Prop :=
  ∃ recipients, d.HandsOn d' id payload recipients

/-- No remote location of a resource has a payload of use. -/
def RemotesRefuse (d : Desk) (ask : Location → Except LoadError Bytes) (r : Resource) : Prop :=
  ∀ location ∈ r.remotes, ∀ payload, ¬ Loader.Offers d.loader.settings ask location payload

/-- A resource has no backup that answers. -/
def BackupRefuses (ask : Location → Except LoadError Bytes) (r : Resource) : Prop :=
  ∀ location payload, r.backup = some location → ask location ≠ .ok payload

/-- A load over the network of a resource at a desk, beside one without the network. -/
structure LoadsByLayers (ask : Location → Except LoadError Bytes) (d : Desk) (r : Resource)
    (full atHand : Except LoadError Layer × Desk) : Prop where
  /-- The first remote location with a payload of use serves the load. No later one is asked,
  and the payload is kept if it can be. -/
  remote : ∀ {earlier location later payload}, r.remotes = earlier ++ location :: later →
    (∀ l ∈ earlier, ∀ p, ¬ Loader.Offers d.loader.settings ask l p) →
    Loader.Offers d.loader.settings ask location payload →
      full.1 = .ok .remote
      ∧ full.2.askedLocations = d.askedLocations ++ earlier ++ [location]
      ∧ full.2.loader.storage = d.loader.storage.keeping r.id payload
      ∧ ((d.loader.storage.write r.id payload).1 = .ok () →
          full.2.loader.storage.held? r.id = some payload)
      ∧ d.HandsOnce full.2 r.id payload
  /-- If there is none, something in the store serves it. -/
  store : ∀ {payload}, d.RemotesRefuse ask r →
    d.loader.storage.read r.id = .ok (some payload) → payload ≠ [] →
      full.1 = .ok .store
      ∧ full.2.askedLocations = d.askedLocations ++ r.remotes
      ∧ full.2.loader.storage = d.loader.storage
      ∧ d.HandsOnce full.2 r.id payload
  /-- If there is nothing in the store either, a backup that answers serves it. -/
  backup : ∀ {location payload}, d.RemotesRefuse ask r → d.loader.storage.IsBare r.id →
    r.backup = some location → ask location = .ok payload →
      full.1 = .ok .backup
      ∧ full.2.askedLocations = d.askedLocations ++ r.remotes ++ [location]
      ∧ full.2.loader.storage = d.loader.storage
      ∧ d.HandsOnce full.2 r.id payload
  /-- Else it fails, for one reason for each layer in order, and nobody is handed anything. -/
  failed : d.RemotesRefuse ask r → d.loader.storage.IsBare r.id → BackupRefuses ask r →
      (∃ reasons, List.Forall₂ (Loader.Refuses d.loader.settings ask) r.remotes reasons
        ∧ full.1 = .error (.unavailable r.id (reasons
            ++ [Loader.storeReason (d.loader.storage.read r.id),
              Loader.backupReason ask r.backup])))
      ∧ full.2.askedLocations = d.askedLocations ++ r.remotes ++ r.backup.toList
      ∧ full.2.loader.storage = d.loader.storage
      ∧ full.2.heard = d.heard
      ∧ full.2.providers = d.providers
  /-- If no remote location has a payload of use the load does what it does without the network,
  but for the reasons of the remote locations. -/
  atHand : d.RemotesRefuse ask r →
      (∃ reasons, List.Forall₂ (Loader.Refuses d.loader.settings ask) r.remotes reasons
        ∧ full.1 = atHand.1.mapError (.behind reasons))
      ∧ full.2.loader.storage = atHand.2.loader.storage
      ∧ full.2.heard = atHand.2.heard
      ∧ full.2.providers = atHand.2.providers

variable {d d' : Desk} {r : Resource} {course : Course}

theorem Follows.askedLocations (h : d.Follows d' r.id course) :
  d'.askedLocations = d.askedLocations ++ course.asked.map Question.location
  := by simp [Desk.askedLocations, h.asked]

/-- The payload of a load is handed once to each of those who want it. -/
theorem Follows.handsOnce (h : d.Follows d' r.id course) {payload : Bytes}
    (served : course.ending.payload? = some payload) :
  d.HandsOnce d' r.id payload
  := by
  use d.loader.subscriptions.recipients r.id
  have once := d.loader.subscriptions.nodup_recipients r.id
  refine ⟨once, fun _ => Subscriptions.mem_recipients_iff, ?_, fun number => ?_⟩
  · rw [h.heard, LoadEnding.noted, served]
  · rw [h.providers, LoadEnding.fed, served, getElem?_foldl_fed once]

variable {ask : Location → Except LoadError Bytes}

/-- A load over the network goes on to the store if no remote location has a payload of use. -/
theorem perform_of_remotesRefuse (registered : d.loader.find r.id = .ok r)
    (online : d.loader.settings.offline = false) (refuse : d.RemotesRefuse ask r) :
  ∃ questions reasons, questions.map Question.location = r.remotes
    ∧ List.Forall₂ (Loader.Refuses d.loader.settings ask) r.remotes reasons
    ∧ (d.perform (byLocation ask) r.id .full).1
      = (Course.fromStore (byLocation ask) r d.loader.storage reasons).ending.outcome
    ∧ d.Follows (d.perform (byLocation ask) r.id .full).2 r.id
        ⟨questions ++ (Course.fromStore (byLocation ask) r d.loader.storage reasons).asked,
          (Course.fromStore (byLocation ask) r d.loader.storage reasons).ending⟩
  := by
  obtain ⟨questions, reasons, locations, refuses, course⟩ :=
    Course.fromRemotes_of_not_offers (r := r) (s := d.loader.storage) refuse []
  have whole := perform_eq (byLocation ask) registered .full
  rw [List.append_nil, Course.fromRemotes] at course
  rw [Course.of_full online, course] at whole
  exact ⟨questions, reasons, locations, refuses, whole⟩

/-- A load without the network starts at the store. -/
theorem perform_atHand (ask : Location → Except LoadError Bytes)
    (registered : d.loader.find r.id = .ok r) :
  (d.perform (byLocation ask) r.id .atHand).1
      = (Course.fromStore (byLocation ask) r d.loader.storage []).ending.outcome
    ∧ d.Follows (d.perform (byLocation ask) r.id .atHand).2 r.id
        (Course.fromStore (byLocation ask) r d.loader.storage [])
  := perform_eq (byLocation ask) registered .atHand

/-- A load of a registered resource over the network goes layer by layer. -/
theorem perform_byLayers (registered : d.loader.find r.id = .ok r)
    (online : d.loader.settings.offline = false) (ask : Location → Except LoadError Bytes) :
  d.LoadsByLayers ask r (d.perform (byLocation ask) r.id .full)
    (d.perform (byLocation ask) r.id .atHand)
  where
  remote := by
    intro earlier location later payload remotes refused offers
    obtain ⟨questions, reasons, locations, -, course⟩ :=
      Course.fromRemotes_of_not_offers (r := r) (s := d.loader.storage) refused (location :: later)
    rw [Course.fromRemotes_of_offers offers, ← remotes] at course
    obtain ⟨outcome, follows⟩ := perform_eq (byLocation ask) registered .full
    rw [Course.of_full online, course] at outcome follows
    refine ⟨outcome, ?_, follows.storage, fun written => ?_, follows.handsOnce rfl⟩
    · rw [follows.askedLocations, List.map_append, locations, ← List.append_assoc]
      rfl
    · rw [follows.storage]
      apply Storage.held?_keeping written
  store := by
    intro payload refuse read filled
    obtain ⟨questions, reasons, locations, -, outcome, follows⟩ :=
      perform_of_remotesRefuse registered online refuse
    rw [Course.fromStore_of_read read filled] at outcome follows
    refine ⟨outcome, ?_, follows.storage, follows.handsOnce rfl⟩
    rw [follows.askedLocations, List.append_nil, locations]
  backup := by
    intro location payload refuse bare backup answers
    obtain ⟨questions, reasons, locations, -, outcome, follows⟩ :=
      perform_of_remotesRefuse registered online refuse
    rw [Course.fromStore_of_isBare bare, Course.fromBackup_of_ok backup answers] at outcome follows
    refine ⟨outcome, ?_, follows.storage, follows.handsOnce rfl⟩
    rw [follows.askedLocations, List.map_append, locations, ← List.append_assoc]
    rfl
  failed := by
    intro refuse bare silent
    obtain ⟨questions, reasons, locations, refuses, outcome, follows⟩ :=
      perform_of_remotesRefuse registered online refuse
    rw [Course.fromStore_of_isBare bare, Course.fromBackup_of_ne silent] at outcome follows
    refine ⟨⟨reasons, refuses, ?_⟩, ?_, follows.storage, ?_, follows.providers⟩
    · rw [outcome]
      simp [LoadEnding.outcome]
    · rw [follows.askedLocations, List.map_append, locations, ← List.append_assoc]
      cases r.backup <;> rfl
    · rw [follows.heard, LoadEnding.noted, LoadEnding.payload?, List.append_nil]
  atHand := by
    intro refuse
    obtain ⟨questions, reasons, -, refuses, outcome, follows⟩ :=
      perform_of_remotesRefuse registered online refuse
    obtain ⟨outcome', follows'⟩ := perform_atHand ask registered
    rw [Course.ending_fromStore] at outcome follows
    refine ⟨⟨reasons, refuses, ?_⟩, ?_, ?_, ?_⟩
    · rw [outcome, outcome', LoadEnding.outcome_behind]
    · rw [follows.storage, follows'.storage, LoadEnding.keptIn_behind]
    · rw [follows.heard, follows'.heard, LoadEnding.noted, LoadEnding.noted,
        LoadEnding.payload?_behind]
    · rw [follows.providers, follows'.providers, LoadEnding.fed, LoadEnding.fed,
        LoadEnding.payload?_behind]

/-- A page for rejected requests is passed over; the payload of the next location is kept and
handed on. -/
theorem perform_byLayers_rejected_page :
  ∃ (d : Desk) (r : Resource) (ask : Location → Except LoadError Bytes) (first second : Location)
      (payload : Bytes),
    d.loader.find r.id = .ok r
      ∧ d.loader.settings.offline = false
      ∧ r.remotes = [first, second]
      ∧ ask first = .ok (Text.encode "Access denied")
      ∧ (d.perform (byLocation ask) r.id .full).1 = .ok .remote
      ∧ (d.perform (byLocation ask) r.id .full).2.askedLocations = [first, second]
      ∧ (d.perform (byLocation ask) r.id .full).2.loader.storage.held? r.id = some payload
      ∧ d.HandsOnce (d.perform (byLocation ask) r.id .full).2 r.id payload
      ∧ .observer "log" false ∈ d.loader.subscriptions.boundTo r.id
  := by
  let first : Location := .file "first"
  let second : Location := .file "second"
  let payload := Text.encode "1.25"
  let r : Resource := { id := "rates", remotes := [first, second] }
  let d : Desk :=
    { loader :=
        { settings := { sentinels := ["denied"] }
          resources := OrderedMap.empty.insert r.id r
          subscriptions := Subscriptions.empty.add (.observer "log" false) [r.id] }
      today := ⟨739193, by decide, by decide⟩ }
  let ask (location : Location) : Except LoadError Bytes :=
    if location = first then .ok (Text.encode "Access denied") else .ok payload
  have registered : d.loader.find r.id = .ok r := rfl
  have refused : ∀ l ∈ [first], ∀ p, ¬ Loader.Offers d.loader.settings ask l p := by
    intro l hl p ⟨answer, usable⟩
    obtain rfl := List.mem_singleton.1 hl
    obtain rfl := Except.ok.inj answer
    apply (Loader.isUsable_iff.1 usable).2
    decide +kernel
  have offers : Loader.Offers d.loader.settings ask second payload :=
    ⟨rfl, Loader.isUsable_iff.2 (by decide +kernel)⟩
  have layers := perform_byLayers registered rfl ask
  obtain ⟨outcome, asked, -, kept, handed⟩ := layers.remote rfl refused offers
  use d, r, ask, first, second, payload, registered, rfl, rfl, rfl, outcome, asked, kept rfl, handed
  decide +kernel

end Desk

end CrossRate
