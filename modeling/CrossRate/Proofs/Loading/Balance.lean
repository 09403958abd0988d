import CrossRate.Proofs.Loading.Tally
import Mathlib.Algebra.Ring.Nat

/-!
# The balance of loads

Over every history of a desk the counts of its loader balance (`Desk.countsLoads_steps`): each
load that was begun is counted once more by how it has ended, and each remote location that was
asked by what has come of it. The tally of each call balances by itself (`Desk.balances_tally`),
and so does their sum.
-/

namespace CrossRate

namespace LoadCounts

/-- Counts that balance, where so many remote locations were asked. -/
structure Balances (c : LoadCounts) (attempts : Nat) : Prop where
  begun : c.begun = c.fromRemote + c.fromStore + c.fromBackup + c.failed
  attempts : attempts = c.fromRemote + c.unfetched + c.rejected

theorem Balances.add {c c' : LoadCounts} {attempts attempts' : Nat} (h : c.Balances attempts)
    (h' : c'.Balances attempts') :
  (c + c').Balances (attempts + attempts')
  where
  begun := by
    change c.begun + c'.begun = c.fromRemote + c'.fromRemote + (c.fromStore + c'.fromStore)
      + (c.fromBackup + c'.fromBackup) + (c.failed + c'.failed)
    rw [h.begun, h'.begun]
    omega
  attempts := by
    change attempts + attempts' = c.fromRemote + c'.fromRemote + (c.unfetched + c'.unfetched)
      + (c.rejected + c'.rejected)
    rw [h.attempts, h'.attempts]
    omega

variable {α : Type} {f : α → LoadCounts}

theorem balances_sum {attempts : α → Nat} (balances : ∀ a, (f a).Balances (attempts a))
    (l : List α) :
  (l.map f).sum.Balances (l.map attempts).sum
  := by
  induction l with
  | nil => exact ⟨rfl, rfl⟩
  | cons a l ih =>
    rw [List.map_cons, List.map_cons, List.sum_cons, List.sum_cons]
    apply (balances a).add ih

theorem undelivered_sum (l : List α) :
  (l.map f).sum.undelivered = (l.map (fun a => (f a).undelivered)).sum
  := by
  induction l with
  | nil => rfl
  | cons a l ih => rw [List.map_cons, List.map_cons, List.sum_cons, List.sum_cons, ← ih]; rfl

end LoadCounts

/-! ### The balance of a call -/

namespace Course

variable {answer : Question → Except LoadError Bytes} {r : Resource} {settings : LoaderSettings}
variable {s : Storage}

/-- Of the remote locations that are asked all fail but one that serves the load. -/
def IsAccounted (settings : LoaderSettings) (answer : Question → Except LoadError Bytes)
    (course : Course) : Prop :=
  course.asked.countP Question.isRemote
    = course.asked.countP (fun question => (question.failure? settings answer).isSome)
      + if course.ending.outcome.toOption = some .remote then 1 else 0

theorem isAccounted_fromBackup (reasons : List String) :
  IsAccounted settings answer (fromBackup answer r reasons)
  := by
  rw [fromBackup]
  cases r.backup with
  | none => rfl
  | some location =>
    cases answered : answer (.backup location reasons) <;>
      simp [IsAccounted, answered, Question.isRemote, Question.failure?, LoadEnding.outcome,
        Except.toOption]

theorem isAccounted_fromStore (reasons : List String) :
  IsAccounted settings answer (fromStore answer r s reasons)
  := by
  obtain bare | ⟨payload, read, filled⟩ := s.isBare_or_filled r.id
  · rw [fromStore_of_isBare bare]
    apply isAccounted_fromBackup
  · rw [fromStore_of_read read filled]
    rfl

theorem isAccounted_fromRemotes (reasons : List String) (locations : List Location) :
  IsAccounted settings answer (fromRemotes answer r settings s reasons locations)
  := by
  induction locations generalizing reasons with
  | nil => apply isAccounted_fromStore
  | cons location others ih =>
    rw [fromRemotes]
    cases checked : (answer (.remote location others reasons)).bind
        (Loader.checkPayload settings location) with
    | ok payload =>
      simp [IsAccounted, checked, Question.isRemote, Question.failure?, LoadEnding.outcome,
        Except.toOption]
    | error e =>
      have later := ih (reasons ++ [e.message])
      simp only [IsAccounted] at later ⊢
      simp only [List.countP_cons, later, Question.isRemote, Question.failure?, checked]
      simp
      omega

theorem isAccounted_of {σ : Type} (l : Loader σ) {way : LoadWay} (h : way ≠ .restore) :
  IsAccounted l.settings answer (of answer r l way)
  := by
  rw [of]
  cases way with
  | full =>
    rw [Loader.wayOf]
    cases l.settings.offline with
    | false => apply isAccounted_fromRemotes
    | true => apply isAccounted_fromStore
  | atHand => apply isAccounted_fromStore
  | restore => exact absurd rfl h

/-- To restore the backup asks no remote location. -/
theorem countP_restoring (test : Question → Bool)
    (remote : ∀ question, test question = true → question.isRemote = true) :
  (restoring answer r).asked.countP test = 0
  := by
  rw [restoring, List.countP_eq_zero]
  cases r.backup with
  | none => simp
  | some location =>
    simp only [List.mem_singleton, forall_eq]
    intro passes
    cases remote _ passes

end Course

theorem Question.isRemote_of_any_failure? {settings : LoaderSettings}
    {answer : Question → Except LoadError Bytes} {question : Question} {test : LoadError → Bool}
    (h : (question.failure? settings answer).any test = true) :
  question.isRemote = true
  := by
  cases question with
  | remote location others reasons => rfl
  | _ => cases h

namespace Desk

/-- How many remote locations are asked in the load of a call. -/
def attempts (d : Desk) (call : LoadCall) : Nat :=
  (d.courseOf call).asked.countP Question.isRemote

/-- The remote locations that fail do so by a page for rejected requests or in another way. -/
theorem countP_failure? (settings : LoaderSettings) (answer : Question → Except LoadError Bytes)
    (asked : List Question) :
  asked.countP (fun question => (question.failure? settings answer).isSome)
    = asked.countP (fun question => (question.failure? settings answer).any (!·.isRejection))
      + asked.countP (fun question => (question.failure? settings answer).any (·.isRejection))
  := by
  induction asked with
  | nil => rfl
  | cons question asked ih =>
    simp only [List.countP_cons, ih]
    cases question.failure? settings answer with
    | none => rfl
    | some e =>
      cases rejection : e.isRejection <;> simp [rejection] <;> omega

/-- A call that begins no load asks no remote location. -/
theorem countP_of_not_begins {d : Desk} {call : LoadCall} (idle : d.begins call = false)
    (test : Question → Bool)
    (remote : ∀ question, test question = true → question.isRemote = true) :
  (d.courseOf call).asked.countP test = 0
  := by
  cases found : d.loader.find call.id with
  | error e => rw [courseOf, found, List.countP_nil]
  | ok r =>
    have restores : call.way = .restore := by
      simpa [begins, Loader.isRegistered_of_find_eq_ok found] using idle
    have course : Course.of call.answer r d.loader .restore = .restoring call.answer r := rfl
    rw [courseOf_eq found, restores, course, Course.countP_restoring test remote]

/-- A call that begins no load adds only the deliveries that fail. -/
theorem tally_of_not_begins {d : Desk} {call : LoadCall} (idle : d.begins call = false) :
  d.tally call = { undelivered := d.refusals call }
  := by
  have failures (test : LoadError → Bool) : d.failures call test = 0 :=
    countP_of_not_begins idle _ (fun _ => Question.isRemote_of_any_failure?)
  simp [tally, endings, idle, failures]

/-- The tally of a call balances. -/
theorem balances_tally (d : Desk) (call : LoadCall) :
  (d.tally call).Balances (d.attempts call)
  := by
  cases idle : d.begins call with
  | false =>
    rw [tally_of_not_begins idle, attempts, countP_of_not_begins idle _ (fun _ h => h)]
    exact ⟨rfl, rfl⟩
  | true =>
    obtain ⟨restores, known⟩ : call.way ≠ .restore ∧ d.loader.isRegistered call.id = true := by
      simpa [begins] using idle
    cases found : d.loader.find call.id with
    | error e =>
      rw [Loader.isRegistered_of_find_eq_error found] at known
      cases known
    | ok r =>
      obtain ⟨-, result, -⟩ := after_of_find_eq_ok found
      have accounted : (Course.of call.answer r d.loader call.way).IsAccounted d.loader.settings
          call.answer := Course.isAccounted_of d.loader restores
      rw [← courseOf_eq found, Course.IsAccounted, ← result, countP_failure?] at accounted
      constructor
      · simp only [tally, endings, idle]
        rcases (d.loadOf call).result.toOption with _ | (_ | _ | _) <;> rfl
      · simp [tally, failures, attempts, endings, idle, accounted]
        omega

end Desk

/-! ### Histories -/

/-- What may happen at a desk. -/
inductive DeskEvent where
  /-- A resource is registered. -/
  | register (r : Resource)
  /-- There is a call for a load. -/
  | load (call : LoadCall)
  /-- Meanwhile the store, the subscriptions, the providers and the day have become others. -/
  | turn (storage : Storage) (subscriptions : Subscriptions Subscriber)
      (providers : List FeedProvider) (today : Date)

/-- The call of an event, if there is one. -/
def DeskEvent.call? : DeskEvent → Option LoadCall
  | load call => some call
  | _ => none

namespace Desk

/-- The desk after an event. -/
def step (d : Desk) : DeskEvent → Desk
  | .register r =>
    match d.loader.register r with
    | .ok loader => { d with loader := loader }
    | .error _ => d
  | .load call => d.after call
  | .turn storage subscriptions providers today =>
    { d with
      loader := { d.loader with storage := storage, subscriptions := subscriptions }
      providers := providers
      today := today }

/-- The desk after events, one after the other. -/
def steps (d : Desk) (events : List DeskEvent) : Desk := events.foldl step d

/-- The calls among events, each with the desk that does it. -/
def callsIn (d : Desk) : List DeskEvent → List (Desk × LoadCall)
  | [] => []
  | event :: events => (event.call?.map (d, ·)).toList ++ (d.step event).callsIn events

/-- Registration changes no counts and asks nothing. -/
theorem step_register (d : Desk) (r : Resource) :
  (d.step (.register r)).loader.counts = d.loader.counts
    ∧ (d.step (.register r)).asked = d.asked
  := by
  rw [step]
  cases registered : d.loader.register r with
  | error e => exact ⟨rfl, rfl⟩
  | ok l =>
    obtain ⟨-, -, registered⟩ := bind_eq_ok_iff.1 registered
    split at registered
    · cases registered
    · cases registered
      exact ⟨rfl, rfl⟩

/-- Over a history the calls add their tallies to the counts, and what they ask. -/
theorem counts_steps (d : Desk) (events : List DeskEvent) :
  (d.steps events).loader.counts
      = d.loader.counts + ((d.callsIn events).map (fun c => c.1.tally c.2)).sum
    ∧ (d.steps events).asked.countP Question.isRemote
      = d.asked.countP Question.isRemote
        + ((d.callsIn events).map (fun c => c.1.attempts c.2)).sum
  := by
  induction events generalizing d with
  | nil => exact ⟨rfl, rfl⟩
  | cons event events ih =>
    obtain ⟨counts, asked⟩ := ih (d.step event)
    rw [steps, List.foldl_cons, ← steps, counts, asked, callsIn]
    cases event with
    | register r =>
      obtain ⟨counts, asked⟩ := d.step_register r
      rw [counts, asked]
      exact ⟨rfl, rfl⟩
    | load call =>
      have following : (d.after call).asked.countP Question.isRemote
          = d.asked.countP Question.isRemote + d.attempts call := by
        cases found : d.loader.find call.id with
        | error e => simp [after, perform_of_find_eq_error found, attempts, courseOf, found]
        | ok r => rw [(after_of_find_eq_ok found).1, List.countP_append, attempts]
      simp only [step, counts_after, following, add_assoc, DeskEvent.call?, Option.map_some,
        Option.toList_some, List.cons_append, List.nil_append, List.map_cons, List.sum_cons]
      exact ⟨trivial, trivial⟩
    | turn storage subscriptions providers today => exact ⟨rfl, rfl⟩

/-- What the counts of a loader are after a history of its desk. -/
structure CountsLoads (d : Desk) (events : List DeskEvent) : Prop where
  /-- The calls for loads have been counted, and nothing else. -/
  counts : (d.steps events).loader.counts
    = ((d.callsIn events).map (fun c => c.1.tally c.2)).sum
  /-- Every load that was begun has ended in one way. -/
  loads : (d.steps events).loader.counts.begun
    = (d.steps events).loader.counts.fromRemote + (d.steps events).loader.counts.fromStore
      + (d.steps events).loader.counts.fromBackup + (d.steps events).loader.counts.failed
  /-- Every remote location that was asked has served its load or failed in one way. -/
  attempts : (d.steps events).asked.countP Question.isRemote
    = (d.steps events).loader.counts.fromRemote + (d.steps events).loader.counts.unfetched
      + (d.steps events).loader.counts.rejected
  /-- The deliveries that failed are those to subscribers that refused the payload. -/
  undelivered : (d.steps events).loader.counts.undelivered
    = ((d.callsIn events).map (fun c => c.1.refusals c.2)).sum
  /-- A call that begins no load, such as one to restore the backup, changes the count of
  deliveries only. -/
  restored : ∀ call, (d.steps events).begins call = false →
    ((d.steps events).after call).loader.counts
      = { (d.steps events).loader.counts with
          undelivered := (d.steps events).loader.counts.undelivered
            + (d.steps events).refusals call }
  /-- A call for a resource that is not registered changes none. -/
  unknown : ∀ call, (d.steps events).loader.isRegistered call.id = false →
    ((d.steps events).after call).loader.counts = (d.steps events).loader.counts
  /-- Registration changes none. -/
  registered : ∀ r, ((d.steps events).step (.register r)).loader.counts
    = (d.steps events).loader.counts

/-- The counts balance after every history. -/
theorem balances_steps {d : Desk} (fresh : d.loader.counts = {}) (unasked : d.questions = [])
    (events : List DeskEvent) :
  (d.steps events).loader.counts.Balances ((d.steps events).asked.countP Question.isRemote)
  := by
  obtain ⟨counts, asked⟩ := counts_steps d events
  have none : d.asked.countP Question.isRemote = 0 := by rw [Desk.asked, unasked]; rfl
  have zero : d.loader.counts = 0 := fresh
  rw [counts, asked, none, zero, zero_add, zero_add]
  apply LoadCounts.balances_sum (fun c : Desk × LoadCall => balances_tally c.1 c.2)

/-- From the start the counts of a loader are what they should be. -/
theorem countsLoads_steps {d : Desk} (fresh : d.loader.counts = {}) (unasked : d.questions = [])
    (events : List DeskEvent) :
  d.CountsLoads events
  where
  counts := by
    rw [(counts_steps d events).1, fresh]
    apply zero_add
  loads := (balances_steps fresh unasked events).begun
  attempts := (balances_steps fresh unasked events).attempts
  undelivered := by
    have zero : d.loader.counts = 0 := fresh
    rw [(counts_steps d events).1, zero, zero_add, LoadCounts.undelivered_sum]
    rfl
  restored := by
    intro call idle
    rw [counts_after, tally_of_not_begins idle]
    rfl
  unknown := by
    intro call unknown
    cases found : (d.steps events).loader.find call.id with
    | error e => rw [after, perform_of_find_eq_error found]
    | ok r =>
      rw [Loader.isRegistered_of_find_eq_ok found] at unknown
      cases unknown
  registered := fun r => (step_register _ r).1

/-- A page for rejected requests, a payload of use, an unknown resource and the backup, all for
somebody who refuses everything. -/
theorem countsLoads_steps_refused :
  ∃ (d : Desk) (events : List DeskEvent),
    d.loader.counts = {}
      ∧ d.questions = []
      ∧ (d.steps events).loader.counts
        = { begun := 2, fromRemote := 1, fromBackup := 1, rejected := 1, undelivered := 3 }
      ∧ (d.steps events).asked.countP Question.isRemote = 2
      ∧ d.CountsLoads events
  := by
  let r : Resource :=
    { id := "rates", remotes := [.file "rates.xml"]
      backup := some (.embedded "rates" (Text.encode "0.5")) }
  let d : Desk :=
    { loader :=
        { settings := { sentinels := ["denied"] }
          subscriptions := Subscriptions.empty.add (.observer "log" true) [] }
      today := ⟨739193, by decide, by decide⟩ }
  let gives (remote : String) (question : Question) : Except LoadError Bytes :=
    .ok (Text.encode (if question.isRemote then remote else "0.5"))
  let events : List DeskEvent :=
    [.register r, .load ⟨r.id, .full, gives "Access denied"⟩, .load ⟨r.id, .full, gives "1.25"⟩,
      .load ⟨"others", .atHand, gives "1.25"⟩, .load ⟨r.id, .restore, gives "1.25"⟩, .register r]
  have counts := countsLoads_steps (d := d) rfl rfl events
  exact ⟨d, events, rfl, rfl, by decide +kernel, by decide +kernel, counts⟩

end Desk

end CrossRate
