import CrossRate.Proofs.Loading.Pieces
import CrossRate.Session.Runner
import Mathlib.Logic.Relation

/-!
# The course of a session

Whatever happens in a session, its desks become what pieces of loads make of them: an event leads
to what the steps of a load do, to a delivery or to a note of how a load has ended, and to wait is
to let events happen. So a relation that admits loads holds between each desk and what it becomes
while loads are done, started or waited for, and no ticker is started or stopped meanwhile
(`Session.Becomes`).
-/

namespace CrossRate.Session

variable {R : Desk → Desk → Prop} {s s' s'' : Session}

/-- What a session becomes while its desks change along a relation and its schedules do not. -/
structure Becomes (R : Desk → Desk → Prop) (s s' : Session) : Prop where
  others : s'.others.length = s.others.length
  schedules : s'.schedules = s.schedules
  desk (number : Nat) : R (s.desk number) (s'.desk number)

/-! ### What happens while somebody waits -/

/-- One of the things that happen in a session while somebody waits. -/
inductive Step : Session → Session → Prop where
  /-- What is due happens. -/
  | event {s s' : Session} {event : Event} :
    s.nextDue? = some (event, s') → Step s (s'.handle event)
  /-- The errands are done. -/
  | errands (s : Session) : Step s s.doErrands
  /-- Time passes. -/
  | time (s : Session) (now : Nat) : Step s { s with now := now }

/-- What a session becomes, step by step, while somebody waits. -/
def Runs : Session → Session → Prop := Relation.ReflTransGen Step

theorem runs_runFor (atOnce : Bool) (done : Session → Bool) (deadline : Option Nat) (fuel : Nat)
    (s : Session) :
  s.Runs (runFor atOnce done deadline fuel s)
  := by
  induction fuel generalizing s with
  | zero => exact .refl
  | succ fuel ih =>
    rw [runFor]
    split
    · exact .refl
    · split
      · rename_i event s' due
        apply Relation.ReflTransGen.head (.event due) (ih _)
      · split
        · exact .refl
        · split
          · apply Relation.ReflTransGen.head (.errands s) (ih _)
          · split
            · rename_i due _
              apply Relation.ReflTransGen.head (.time s due) (ih _)
            · apply Relation.ReflTransGen.single (.time s _)

theorem runs_runUntil (s : Session) (atOnce : Bool) (done : Session → Bool)
    (deadline : Option Nat) :
  s.Runs (s.runUntil atOnce done deadline)
  := by
  rw [runUntil]
  split
  · exact .refl
  · apply runs_runFor

/-! ### Desks -/

variable (admits : Desk.AdmitsLoads R)

include admits

theorem Becomes.refl (s : Session) : s.Becomes R s
  := ⟨rfl, rfl, fun _ => admits.refl _⟩

theorem Becomes.trans (h : s.Becomes R s') (h' : s'.Becomes R s'') : s.Becomes R s''
  := ⟨h'.others.trans h.others, h'.schedules.trans h.schedules,
    fun number => admits.trans (h.desk number) (h'.desk number)⟩

/-- Much of what happens does not concern the desks. -/
theorem becomes_of_same_desks (first : s'.first = s.first) (others : s'.others = s.others)
    (schedules : s'.schedules = s.schedules) :
  s.Becomes R s'
  where
  others := by rw [others]
  schedules := schedules
  desk := by
    intro number
    have same : s'.desk number = s.desk number := by
      cases number with
      | zero => apply first
      | succ i => rw [desk, desk, first, others]
    rw [same]
    apply admits.refl

/-- One desk may be put in place of another. -/
theorem becomes_setDesk {number : Nat} {d : Desk} (h : R (s.desk number) d) :
  s.Becomes R (s.setDesk d number)
  where
  others := by cases number <;> simp [setDesk]
  schedules := by cases number <;> rfl
  desk := by
    intro other
    cases number with
    | zero =>
      cases other with
      | zero => apply h
      | succ j =>
        -- A number without a desk stands for the first desk.
        simp only [desk, setDesk, List.getD_eq_getElem?_getD]
        cases s.others[j]? with
        | none => apply h
        | some d' => apply admits.refl
    | succ i =>
      cases other with
      | zero => apply admits.refl
      | succ j =>
        simp only [desk, setDesk, List.getD_eq_getElem?_getD, List.getElem?_set] at h ⊢
        by_cases same : i = j
        · subst same
          by_cases bound : i < s.others.length
          · simpa [bound] using h
          · simp [bound, admits.refl]
        · simp [same, admits.refl]

theorem becomes_modifyDesk (number : Nat) {f : Desk → Desk}
    (h : R (s.desk number) (f (s.desk number))) :
  s.Becomes R (s.modifyDesk number f)
  := becomes_setDesk admits h

/-! ### The course of a load -/

theorem becomes_conclude (s : Session) (t : Task) (outcome : Except LoadError Layer) :
  s.Becomes R (s.conclude t outcome)
  := by
  have told (watches : List Watch) (s : Session) : s.Becomes R
      (watches.foldl (fun s w => s.modifyDesk w.desk (·.noteFirstLoad w.provider outcome)) s) := by
    induction watches generalizing s with
    | nil => apply Becomes.refl admits
    | cons w watches ih =>
      apply Becomes.trans admits _ (ih _)
      apply becomes_modifyDesk admits w.desk (admits.noteFirstLoad _ _ _)
  rw [conclude]
  split
  · apply Becomes.refl admits
  · apply Becomes.trans admits _ (told _ _)
    exact becomes_of_same_desks admits rfl rfl rfl

theorem becomes_release (s : Session) (t : Task) : s.Becomes R (s.release t)
  := by
  rw [release]
  split
  · split <;> exact becomes_of_same_desks admits rfl rfl rfl
  · exact becomes_of_same_desks admits rfl rfl rfl

theorem becomes_finish (s : Session) (t : Task) (outcome : Except LoadError Layer)
    (report : DeliveryReport) :
  s.Becomes R (s.finish t outcome report)
  := by
  have accounted : s.Becomes R (s.modifyDesk t.desk (·.account report)) :=
    becomes_modifyDesk admits t.desk (admits.account _ report)
  apply (accounted.trans admits (becomes_release admits _ t)).trans admits
  apply becomes_conclude admits

theorem becomes_close (s : Session) (t : Task) (ending : LoadEnding) :
  s.Becomes R (s.close t ending)
  := by
  rw [close]
  split
  · apply becomes_finish admits
  · exact becomes_of_same_desks admits rfl rfl rfl

theorem becomes_planReturn (s : Session) (t : Task) (event : Event) :
  s.Becomes R (s.planReturn t event)
  := by
  rw [planReturn]
  split <;> exact becomes_of_same_desks admits rfl rfl rfl

theorem becomes_doErrand (s : Session) (errand : Task × Errand) :
  s.Becomes R (s.doErrand errand)
  := by
  obtain ⟨t, next | ending⟩ := errand
  · apply becomes_planReturn admits
  · have delivered : s.Becomes R (s.setDesk ((s.desk t.desk).handOn t.id ending).1 t.desk) :=
      becomes_setDesk admits (admits.handOn _ _ _)
    apply delivered.trans admits (becomes_planReturn admits _ _ _)

theorem becomes_doErrands (s : Session) : s.Becomes R s.doErrands
  := by
  have done (errands : List (Task × Errand)) (s : Session) :
      s.Becomes R (errands.foldl doErrand s) := by
    induction errands generalizing s with
    | nil => apply Becomes.refl admits
    | cons errand errands ih => apply (becomes_doErrand admits s errand).trans admits (ih _)
  apply Becomes.trans admits _ (done s.errands _)
  exact becomes_of_same_desks admits rfl rfl rfl

theorem becomes_planReply (s : Session) (t : Task) (delay : Nat) (event : Event) :
  s.Becomes R (s.planReply t delay event)
  := by
  rw [planReply]
  split <;> exact becomes_of_same_desks admits rfl rfl rfl

/-- The steps of a load are questions and uses of the store. -/
theorem becomes_proceed (s : Session) (t : Task) (r : Resource) (stage : LoadStage) :
  s.Becomes R (s.proceed t r stage)
  := by
  fun_induction proceed s t r stage with
  | case1 s ending => apply becomes_close admits
  | case2 s question d answer delay answers reads =>
    have noted : s.Becomes R (s.setDesk d t.desk) :=
      becomes_setDesk admits (admits.noting _ question)
    apply noted.trans admits
    exact becomes_of_same_desks admits rfl rfl rfl
  | case3 s question d answer reads answers ih =>
    have noted := admits.noting (s.desk t.desk) question
    apply (becomes_setDesk admits (admits.trans noted (admits.answered d r answer question))).trans
      admits ih
  | case4 s question d answer delay answers reads late =>
    have noted : s.Becomes R (s.setDesk d t.desk) :=
      becomes_setDesk admits (admits.noting _ question)
    apply noted.trans admits (becomes_planReply admits _ _ _ _)
  | case5 s use d times ih =>
    apply (becomes_setDesk admits (admits.stored _ r use)).trans admits ih
  | case6 s use d i times => exact becomes_of_same_desks admits rfl rfl rfl

theorem becomes_resume (s : Session) (t : Task) (r : Resource) (question : Question)
    (answer : Except LoadError Bytes) :
  s.Becomes R (s.resume t r question answer)
  := by
  have answered := becomes_setDesk admits (admits.answered (s.desk t.desk) r answer question)
  apply answered.trans admits
  apply becomes_proceed admits

theorem becomes_resumeStore (s : Session) (t : Task) (r : Resource) (use : StoreUse)
    (times : Nat) :
  s.Becomes R (s.resumeStore t r use times)
  := by
  cases times with
  | zero =>
    have stored := becomes_setDesk admits (admits.stored (s.desk t.desk) r use)
    apply stored.trans admits
    apply becomes_proceed admits
  | succ times => exact becomes_of_same_desks admits rfl rfl rfl

theorem becomes_begin (s : Session) (t : Task) : s.Becomes R (s.begin t)
  := by
  rw [begin]
  split
  · apply becomes_conclude admits
  · rename_i r found
    have counted : s.Becomes R (s.modifyDesk t.desk (·.modifyLoader (·.counting t.way))) :=
      becomes_modifyDesk admits t.desk (admits.counting _ t.way)
    apply counted.trans admits
    dsimp only
    split
    · exact becomes_of_same_desks admits rfl rfl rfl
    · apply Becomes.trans admits _ (becomes_proceed admits _ t r _)
      exact becomes_of_same_desks admits rfl rfl rfl

/-! ### The course of time -/

theorem becomes_handle (s : Session) (event : Event) : s.Becomes R (s.handle event)
  := by
  cases event with
  | begin t => apply becomes_begin admits
  | turn t r => apply becomes_proceed admits
  | reply t r question answer => apply becomes_resume admits
  | store t r use times => apply becomes_resumeStore admits
  | finish t outcome report => apply becomes_finish admits
  | wind seat id ticker =>
    rw [handle]
    split
    · split
      · exact becomes_of_same_desks admits rfl rfl rfl
      · apply Becomes.refl admits
    · apply Becomes.refl admits
  | tick seat id ticker =>
    rw [handle]
    split
    · exact becomes_of_same_desks admits rfl rfl rfl
    · apply Becomes.refl admits

theorem becomes_nextDue? {event : Event} (h : s.nextDue? = some (event, s')) :
  s.Becomes R s'
  := by
  have returned (h : s.nextReturned? = some (event, s')) : s.Becomes R s' := by
    rw [nextReturned?] at h
    split at h
    · simp at h
    · obtain ⟨-, rfl⟩ := Prod.mk.inj (Option.some.inj h)
      exact becomes_of_same_desks admits rfl rfl rfl
  rw [nextDue?] at h
  split at h
  · split at h
    · obtain ⟨-, rfl⟩ := Prod.mk.inj (Option.some.inj h)
      exact becomes_of_same_desks admits rfl rfl rfl
    · apply returned h
  · apply returned h

/-- Whatever happens while somebody waits is a step. -/
theorem becomes_of_runs (h : s.Runs s') : s.Becomes R s'
  := by
  induction h with
  | refl => apply Becomes.refl admits
  | tail _ step ih =>
    apply ih.trans admits
    cases step with
    | @event _ event due =>
      apply (becomes_nextDue? admits due).trans admits (becomes_handle admits _ event)
    | errands => apply becomes_doErrands admits
    | time => exact becomes_of_same_desks admits rfl rfl rfl

theorem becomes_runUntil (s : Session) (atOnce : Bool) (done : Session → Bool)
    (deadline : Option Nat) :
  s.Becomes R (s.runUntil atOnce done deadline)
  := becomes_of_runs admits (runs_runUntil s atOnce done deadline)

/-! ### Runners -/

theorem becomes_awaitTurn (s : Session) (t : Task) : s.Becomes R (awaitTurn t s)
  := by
  rw [awaitTurn]
  split
  · rename_i r found
    apply (becomes_runUntil admits s _ _ _).trans admits
    apply becomes_proceed admits
  · apply Becomes.refl admits

theorem becomes_load (s : Session) (number : Nat) (id : String) (way : LoadWay) :
  s.Becomes R (load number id way s).2
  := by
  let t := (s.newTask number id way .done).1
  let called := (s.newTask number id way .done).2
  have calling : s.Becomes R called := becomes_of_same_desks admits rfl rfl rfl
  have begun := (becomes_begin admits called t).trans admits (becomes_awaitTurn admits _ t)
  exact (calling.trans admits begun).trans admits
    (becomes_runUntil admits _ true (·.outcomes.contains t.number) none)

theorem becomes_start (s : Session) (number : Nat) (id : String) (occasion : Occasion) :
  s.Becomes R (s.start number id occasion).2
  := becomes_of_same_desks admits rfl rfl rfl

theorem becomes_await (s : Session) (load : Nat) : s.Becomes R (await load s).2
  := becomes_runUntil admits s false (·.outcomes.contains load) none

theorem becomes_watch (s : Session) (number load provider : Nat) :
  s.Becomes R (watch number load provider s)
  := by
  rw [watch]
  split
  · apply becomes_modifyDesk admits number (admits.noteFirstLoad _ _ _)
  · exact becomes_of_same_desks admits rfl rfl rfl

theorem becomes_wind (s : Session) (seat : Seat) (id : String) (ticker : Ticker) :
  s.Becomes R (s.soon (.wind seat id ticker))
  := becomes_of_same_desks admits rfl rfl rfl

theorem becomes_awaitGate (s : Session) (number provider : Nat) :
  s.Becomes R (awaitGate number provider s)
  := by
  rw [awaitGate]
  split
  · apply becomes_runUntil admits
  · apply Becomes.refl admits

end CrossRate.Session
