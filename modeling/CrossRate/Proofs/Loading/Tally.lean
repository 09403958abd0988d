import CrossRate.Proofs.Loading.Run
import Mathlib.Algebra.BigOperators.Group.List.Basic

/-!
# What is counted of a load

Each call for a load adds its `Desk.tally` to the counts of the loader (`Desk.counts_after`):
whether it has begun a load and how that has ended, which remote locations have failed in it and
how, and how many subscribers have refused its payload. While a load goes on, each stage still
has some of its end to count (`LoadStage.tally`), which is what carries the induction.
-/

namespace CrossRate

attribute [ext] LoadCounts

namespace LoadCounts

instance : Zero LoadCounts := ⟨{}⟩

/-- The counts of loads that were done one after the other. -/
instance : Add LoadCounts where
  add c c' :=
    { begun := c.begun + c'.begun
      fromRemote := c.fromRemote + c'.fromRemote
      fromStore := c.fromStore + c'.fromStore
      fromBackup := c.fromBackup + c'.fromBackup
      rejected := c.rejected + c'.rejected
      unfetched := c.unfetched + c'.unfetched
      failed := c.failed + c'.failed
      undelivered := c.undelivered + c'.undelivered }

instance : AddCommMonoid LoadCounts where
  add_assoc c₁ c₂ c₃ := by ext <;> apply Nat.add_assoc
  zero_add c := by ext <;> apply Nat.zero_add
  add_zero c := rfl
  add_comm c₁ c₂ := by ext <;> apply Nat.add_comm
  nsmul := nsmulRec

theorem zero_eq : (0 : LoadCounts) = {}
  := rfl

theorem add_eq (c c' : LoadCounts) :
  c + c' = ⟨c.begun + c'.begun, c.fromRemote + c'.fromRemote, c.fromStore + c'.fromStore,
    c.fromBackup + c'.fromBackup, c.rejected + c'.rejected, c.unfetched + c'.unfetched,
    c.failed + c'.failed, c.undelivered + c'.undelivered⟩
  := rfl

end LoadCounts

/-! ### The tally of a load -/

/-- Whether a location has answered with a page for rejected requests. -/
def LoadError.isRejection : LoadError → Bool
  | rejected _ => true
  | _ => false

/-- What is counted of a remote location that fails. -/
def LoadError.tally (e : LoadError) : LoadCounts :=
  if e.isRejection then { rejected := 1 } else { unfetched := 1 }

namespace Question

/-- How the remote location of a question fails, if it does. -/
def failure? (settings : LoaderSettings) (answer : Question → Except LoadError Bytes)
    (question : Question) : Option LoadError :=
  match question with
  | remote location .. =>
    match (answer question).bind (Loader.checkPayload settings location) with
    | .ok _ => none
    | .error e => some e
  | _ => none

/-- What is counted of a question that is answered. -/
def tally (settings : LoaderSettings) (answer : Question → Except LoadError Bytes)
    (question : Question) : LoadCounts :=
  ((question.failure? settings answer).map LoadError.tally).getD 0

end Question

/-- What is counted of the end of a load. -/
def LoadEnding.tally : LoadEnding → LoadCounts
  | served .remote _ => { fromRemote := 1 }
  | served .store _ => { fromStore := 1 }
  | served .backup _ => { fromBackup := 1 }
  | failed _ => { failed := 1 }

/-- What is still to be counted of the end of a load at some stage. -/
def LoadStage.tally (ending : LoadEnding) : LoadStage → LoadCounts
  | ended _ | asking (.restore _) => 0
  | _ => ending.tally

/-- What is counted of a load that takes a course. -/
def Course.tally (course : Course) (settings : LoaderSettings) (call : LoadCall) : LoadCounts :=
  (if call.way = .restore then 0 else { begun := 1 } + course.ending.tally)
    + (course.asked.map (·.tally settings call.answer)).sum

namespace Loader

variable {σ : Type} (l : Loader σ) (r : Resource)

theorem counts_withRemoteFailure (e : LoadError) :
  (l.withRemoteFailure e).counts = l.counts + e.tally
  := by cases e <;> rfl

theorem counts_tryBackup (reasons : List String) (ending : LoadEnding)
    (reached : ∀ e, (l.tryBackup r reasons).2 = .ended e → ending = e) :
  (l.tryBackup r reasons).1.counts + (l.tryBackup r reasons).2.tally ending
    = l.counts + ending.tally
  := by
  rw [tryBackup] at reached ⊢
  cases backup : r.backup with
  | none =>
    rw [backup] at reached
    rw [reached _ rfl]
    rfl
  | some location => rfl

theorem tally_tryRemotes (reasons : List String) (locations : List Location)
    (ending : LoadEnding) :
  (tryRemotes reasons locations).tally ending = ending.tally
  := by cases locations <;> rfl

/-- What is counted when a load is begun. -/
theorem counts_counting (way : LoadWay) :
  (l.counting way).counts = l.counts + if way = .restore then 0 else { begun := 1 }
  := by cases way <;> rfl

theorem settings_counting (way : LoadWay) : (l.counting way).settings = l.settings
  := by cases way <;> rfl

/-- Nothing is counted of the end of a load that restores the backup. -/
theorem tally_firstStage (way : LoadWay) (ending : LoadEnding) :
  (l.firstStage r way).tally ending = if way = .restore then 0 else ending.tally
  := by
  cases way with
  | full =>
    rw [firstStage, wayOf]
    cases l.settings.offline with
    | false => apply tally_tryRemotes
    | true => rfl
  | atHand => rfl
  | restore =>
    rw [firstStage]
    cases r.backup <;> simp [wayOf, LoadStage.tally]

/-- What is counted when a question is answered. -/
theorem counts_answered (answer : Question → Except LoadError Bytes) (question : Question)
    (ending : LoadEnding)
    (reached : ∀ e, (l.answered r (answer question) question).2 = .ended e → ending = e) :
  (l.answered r (answer question) question).1.counts
      + (l.answered r (answer question) question).2.tally ending
    = l.counts + (question.tally l.settings answer + (LoadStage.asking question).tally ending)
  := by
  cases question with
  | remote location others reasons =>
    simp only [answered, Question.tally, Question.failure?]
    cases (answer (.remote location others reasons)).bind (checkPayload l.settings location) with
    | ok payload =>
      change _ = l.counts + (0 + _)
      rw [zero_add]
      rfl
    | error e =>
      dsimp only
      rw [counts_withRemoteFailure, tally_tryRemotes, add_assoc]
      rfl
  | backup location reasons =>
    simp only [answered] at reached ⊢
    cases answers : answer (.backup location reasons) with
    | ok payload =>
      rw [answers] at reached
      rw [reached _ rfl]
      rfl
    | error e =>
      rw [answers] at reached
      rw [reached _ rfl]
      rfl
  | restore location =>
    simp only [answered]
    cases answer (.restore location) <;> rfl

/-- What is counted when the store is used. -/
theorem counts_stored (use : StoreUse) (ending : LoadEnding)
    (reached : ∀ e, (l.stored r use).2 = .ended e → ending = e) :
  (l.stored r use).1.counts + (l.stored r use).2.tally ending = l.counts + ending.tally
  := by
  cases use with
  | look reasons =>
    simp only [stored, tryStore] at reached ⊢
    split at reached
    · rename_i read
      rw [reached _ rfl]
      rfl
    · apply counts_tryBackup l r _ ending reached
    · apply counts_tryBackup l r _ ending reached
  | keep payload =>
    rw [reached _ rfl]
    rfl

end Loader

namespace Desk

/-- An ending that a load has reached is the one it ends with. -/
theorem complete_snd_of_ended (answer : Question → Except LoadError Bytes) (d : Desk)
    (r : Resource) {stage : LoadStage} (e : LoadEnding) (reached : stage = .ended e) :
  (d.complete answer r stage).2 = e
  := by rw [reached, complete_ended]

/-- What is asked in a load from some stage on, and what is counted of it. -/
theorem counts_complete (answer : Question → Except LoadError Bytes) (d : Desk) (r : Resource)
    (stage : LoadStage) :
  ∃ asked, (d.complete answer r stage).1.asked = d.asked ++ asked
    ∧ (d.complete answer r stage).1.loader.counts
      = d.loader.counts
        + ((asked.map (·.tally d.loader.settings answer)).sum
          + stage.tally (d.complete answer r stage).2)
  := by
  fun_induction complete answer d r stage with
  | case1 d ending => exact ⟨[], (List.append_nil _).symm, rfl⟩
  | case2 d question ih =>
    obtain ⟨later, asked, counts⟩ := ih
    have settings : (d.loader.answered r (answer question) question).1.settings
        = d.loader.settings := (sameSetUp_answered d r (answer question) question).settings
    have step := Loader.counts_answered d.loader r answer question _
      (complete_snd_of_ended answer ((d.noting question).answered r (answer question) question).1 r)
    use question :: later
    constructor
    · rw [asked]
      simp [answered, Desk.asked, noting]
    · rw [counts, List.map_cons, List.sum_cons]
      simp only [answered, noting] at step ⊢
      rw [settings, add_left_comm, step]
      ac_rfl
  | case3 d use ih =>
    obtain ⟨later, asked, counts⟩ := ih
    have settings : (d.loader.stored r use).1.settings = d.loader.settings :=
      (sameSetUp_stored d r use).settings
    have step := Loader.counts_stored d.loader r use _
      (complete_snd_of_ended answer (d.stored r use).1 r)
    use later, asked
    rw [counts, add_left_comm]
    simp only [stored] at step ⊢
    rw [settings, step, add_left_comm]
    rfl

/-- A load takes its course and is counted. -/
theorem complete_counting (d : Desk) (call : LoadCall) (r : Resource) :
  complete call.answer (d.modifyLoader (·.counting call.way)) r
      ((d.modifyLoader (·.counting call.way)).loader.firstStage r call.way)
    = (d.following r (.of call.answer r d.loader call.way)
        (d.loader.counts
          + (Course.of call.answer r d.loader call.way).tally d.loader.settings call),
      (Course.of call.answer r d.loader call.way).ending)
  := by
  obtain ⟨counts, course⟩ :=
    takes_firstStage call.answer r (d.modifyLoader (·.counting call.way)) call.way
  rw [of_counting, following_counting] at course
  obtain ⟨asked, all, counted⟩ := counts_complete call.answer
    (d.modifyLoader (·.counting call.way)) r
    ((d.modifyLoader (·.counting call.way)).loader.firstStage r call.way)
  rw [course] at all counted
  obtain rfl : (Course.of call.answer r d.loader call.way).asked = asked := by
    simpa [following, Desk.asked, modifyLoader] using all
  rw [course]
  congr 2
  apply Eq.trans counted
  simp only [modifyLoader, Loader.counts_counting, Loader.settings_counting,
    Loader.tally_firstStage, Course.tally]
  split
  · rw [add_zero, add_zero, zero_add]
  · ac_rfl

/-! ### Failures of a delivery -/

/-- Whether a subscriber fails to take a payload. -/
def refuses (d : Desk) (payload : Bytes) : Subscriber → Bool
  | .observer _ fails => fails
  | .provider number =>
    d.providers[number]?.all (fun p => (p.apply d.today payload).1.toOption.isNone)

theorem hand_snd (id : String) (payload : Bytes) (d : Desk) (s : Subscriber) :
  (hand id payload d s).2 = !d.refuses payload s
  := by
  cases s with
  | observer name fails => rfl
  | provider number =>
    simp only [hand, refuses]
    cases d.providers[number]? with
    | none => rfl
    | some p =>
      cases applied : p.apply d.today payload with
      | mk result p' => cases result <;> simp [applied, Except.toOption]

/-- Whether a subscriber fails does not depend on what another was handed. -/
theorem refuses_hand (id : String) (payload : Bytes) (d : Desk) {s s' : Subscriber} (h : s' ≠ s) :
  (hand id payload d s).1.refuses payload s' = d.refuses payload s'
  := by
  rw [hand_fst]
  cases s' with
  | observer name fails => rfl
  | provider number =>
    cases s with
    | observer name fails => rfl
    | provider other =>
      have : other ≠ number := by
        rintro rfl
        apply h rfl
      simp [refuses, Subscriber.fed, this]

/-- Of the recipients of a payload those fail that refuse it. -/
theorem failed_deliverTo (id : String) (payload : Bytes) (d : Desk) {recipients : List Subscriber}
    (distinct : recipients.Nodup) :
  (Subscriptions.deliverTo (hand id payload) d recipients).2.failed
    = recipients.countP (d.refuses payload)
  := by
  induction recipients generalizing d with
  | nil => rfl
  | cons s recipients ih =>
    obtain ⟨fresh, distinct⟩ := List.nodup_cons.1 distinct
    have later : recipients.countP ((hand id payload d s).1.refuses payload)
        = recipients.countP (d.refuses payload) := by
      apply List.countP_congr
      intro s' mem
      rw [refuses_hand]
      rintro rfl
      apply fresh mem
    rw [Subscriptions.deliverTo_cons_snd, ih _ distinct, later, hand_snd, List.countP_cons]
    cases d.refuses payload s <;> rfl

/-- How many subscribers fail to take the payload of a load. -/
def refusals (d : Desk) (call : LoadCall) : Nat :=
  match (d.courseOf call).ending.payload? with
  | some payload => (d.loader.subscriptions.recipients call.id).countP (d.refuses payload)
  | none => 0

theorem handOn_snd (d : Desk) (id : String) (ending : LoadEnding) :
  (d.handOn id ending).2.failed
    = match ending.payload? with
      | some payload => (d.loader.subscriptions.recipients id).countP (d.refuses payload)
      | none => 0
  := by
  rw [handOn]
  cases ending.payload? with
  | none => rfl
  | some payload => apply failed_deliverTo id payload d (Subscriptions.nodup_recipients _ id)

theorem counts_handOn (d : Desk) (id : String) (ending : LoadEnding) :
  (d.handOn id ending).1.loader.counts = d.loader.counts
  := by
  rw [handOn]
  cases ending.payload? with
  | none => rfl
  | some payload =>
    dsimp only
    rw [deliver, deliverTo_fst]

theorem asked_handOn (d : Desk) (id : String) (ending : LoadEnding) :
  (d.handOn id ending).1.asked = d.asked
  := by
  rw [handOn]
  cases ending.payload? with
  | none => rfl
  | some payload =>
    dsimp only
    rw [deliver, deliverTo_fst]
    rfl

/-- What a load of a registered resource asks, returns and adds to the counts. -/
theorem after_of_find_eq_ok {d : Desk} {call : LoadCall} {r : Resource}
    (registered : d.loader.find call.id = .ok r) :
  (d.after call).asked = d.asked ++ (d.courseOf call).asked
    ∧ (d.loadOf call).result = (d.courseOf call).ending.outcome
    ∧ (d.after call).loader.counts
      = d.loader.counts + (d.courseOf call).tally d.loader.settings call
        + { undelivered := d.refusals call }
  := by
  rw [refusals, courseOf_eq registered]
  simp only [after, loadOf, perform, registered, complete_counting]
  refine ⟨?_, trivial, ?_⟩
  · apply Eq.trans (asked_handOn _ _ _)
    simp [following, asked]
  · simp only [account, modifyLoader, counts_handOn, handOn_snd]
    rfl

/-- Whether a call begins a load. To restore the backup is none. -/
def begins (d : Desk) (call : LoadCall) : Bool :=
  call.way ≠ .restore && d.loader.isRegistered call.id

/-- How often a call begins a load that ends with a result: once or not at all. -/
def endings (d : Desk) (call : LoadCall) (result : Option Layer) : Nat :=
  if d.begins call && (d.loadOf call).result.toOption = result then 1 else 0

/-- How many remote locations fail in the load of a call in a way that passes a test. -/
def failures (d : Desk) (call : LoadCall) (test : LoadError → Bool) : Nat :=
  (d.courseOf call).asked.countP
    (fun question => (question.failure? d.loader.settings call.answer).any test)

/-- What a call adds to the counts. -/
def tally (d : Desk) (call : LoadCall) : LoadCounts where
  begun := if d.begins call then 1 else 0
  fromRemote := d.endings call (some .remote)
  fromStore := d.endings call (some .store)
  fromBackup := d.endings call (some .backup)
  rejected := d.failures call (·.isRejection)
  unfetched := d.failures call (!·.isRejection)
  failed := d.endings call none
  undelivered := d.refusals call

theorem sum_tally (settings : LoaderSettings) (answer : Question → Except LoadError Bytes)
    (asked : List Question) :
  (asked.map (·.tally settings answer)).sum
    = { rejected := asked.countP (fun question =>
          (question.failure? settings answer).any (·.isRejection))
        unfetched := asked.countP (fun question =>
          (question.failure? settings answer).any (!·.isRejection)) }
  := by
  induction asked with
  | nil => rfl
  | cons question asked ih =>
    rw [List.map_cons, List.sum_cons, ih, Question.tally, List.countP_cons, List.countP_cons]
    cases question.failure? settings answer with
    | none => simp [LoadCounts.add_eq, LoadCounts.zero_eq]
    | some e =>
      cases rejection : e.isRejection <;>
        simp [LoadCounts.add_eq, LoadError.tally, rejection, Nat.add_comm]

/-- A call adds its tally to the counts. -/
theorem counts_after (d : Desk) (call : LoadCall) :
  (d.after call).loader.counts = d.loader.counts + d.tally call
  := by
  cases found : d.loader.find call.id with
  | error e =>
    have course : d.courseOf call = ⟨[], .failed e⟩ := by rw [courseOf, found]
    rw [after, perform_of_find_eq_error found]
    simp only [tally, endings, begins, failures, refusals, course,
      Loader.isRegistered_of_find_eq_error found]
    simp [LoadCounts.add_eq, LoadEnding.payload?]
  | ok r =>
    obtain ⟨-, result, counts⟩ := after_of_find_eq_ok found
    rw [counts, add_assoc, Course.tally, sum_tally, tally]
    simp only [endings, begins, result, Loader.isRegistered_of_find_eq_ok found]
    congr 1
    cases call.way <;> rcases (d.courseOf call).ending with ⟨_ | _ | _, _⟩ | _ <;>
      simp [LoadCounts.add_eq, LoadCounts.zero_eq, failures, LoadEnding.tally, LoadEnding.outcome,
        Except.toOption]

end Desk

end CrossRate
