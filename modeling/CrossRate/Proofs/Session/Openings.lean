import CrossRate.Proofs.Session.Underway

/-!
# What loads leave alone

Loads that are to begin and tickers are openings of a session: something new comes of them. The
other events and the errands carry on with loads that have begun. While loads go on, no time passes
and no opening comes or goes (`Session.GoesOn`), so what is due when can be told from the openings.
-/

namespace CrossRate

/-- Whether an event opens something: a load begins, or a ticker starts or ticks. -/
def Event.opens : Event → Bool
  | .begin _ => true
  | .wind .. => true
  | .tick .. => true
  | _ => false

/-- Whether an errand leads to an event that opens something. -/
def Errand.opens : Errand → Bool
  | .useFile next => next.opens
  | .deliver _ => false

namespace Session

variable {s s' s'' : Session} {t : Task} {r : Resource} {event : Event}

/-- The events to come that open something, and when they are due. -/
def openings (s : Session) : List (Nat × Event) := s.agenda.entries.filter (·.2.opens)

/-- Nothing is overdue, and what opens something is on the agenda. -/
structure IsTimely (s : Session) : Prop where
  ascending : s.agenda.Ascending
  due : ∀ e ∈ s.agenda.entries, s.now ≤ e.1
  returned : ∀ e ∈ s.returned, e.opens = false
  errands : ∀ e ∈ s.errands, e.2.opens = false

/-- What a session becomes while loads go on. -/
structure GoesOn (s s' : Session) : Prop where
  now : s'.now = s.now
  schedules : s'.schedules = s.schedules
  openings : s'.openings = s.openings
  timely : s.IsTimely → s'.IsTimely

theorem GoesOn.refl (s : Session) : s.GoesOn s
  := ⟨rfl, rfl, rfl, id⟩

theorem GoesOn.trans (h : s.GoesOn s') (h' : s'.GoesOn s'') : s.GoesOn s''
  := ⟨h'.now.trans h.now, h'.schedules.trans h.schedules, h'.openings.trans h.openings,
    h'.timely ∘ h.timely⟩

/-! ### Agendas -/

/-- An event that is noted for no time that has passed is not overdue. -/
theorem IsTimely.insert (h : s.IsTimely) {agenda : Agenda Event} (ascending : agenda.Ascending)
    {due : Nat} (later : s.now ≤ due)
    (perm : agenda.entries.Perm ((due, event) :: s.agenda.entries)) :
  IsTimely { s with agenda := agenda }
  where
  ascending := ascending
  due := by
    intro e mem
    obtain rfl | old := List.mem_cons.1 (perm.mem_iff.1 mem)
    · apply later
    · apply h.due e old
  returned := h.returned
  errands := h.errands

theorem IsTimely.plan (h : s.IsTimely) {due : Nat} (later : s.now ≤ due) (event : Event) :
  (s.plan due event).IsTimely
  := h.insert (Agenda.ascending_add h.ascending due event) later (perm_insertAfter _ _ _)

theorem IsTimely.planUrgent (h : s.IsTimely) {due : Nat} (later : s.now ≤ due) (event : Event) :
  (s.planUrgent due event).IsTimely
  := h.insert (Agenda.ascending_addUrgent h.ascending due event) later (perm_insertAfter _ _ _)

theorem filter_insertAfter {ε : Type} {p : Nat × ε → Bool} {entry : Nat × ε}
    (other : p entry = false) (test : Nat × ε → Bool) (l : List (Nat × ε)) :
  (Agenda.insertAfter test entry l).filter p = l.filter p
  := by
  rw [Agenda.insertAfter, List.filter_append, List.filter_cons_of_neg (by simp [other]),
    ← List.filter_append, List.takeWhile_append_dropWhile]

theorem openings_plan (s : Session) (due : Nat) (opens : event.opens = true) :
  (s.plan due event).openings.Perm ((due, event) :: s.openings)
  := by
  have perm := (perm_insertAfter (fun e => e.1 ≤ due) (due, event) s.agenda.entries).filter
    (·.2.opens)
  rw [List.filter_cons_of_pos (by simpa using opens)] at perm
  apply perm

/-! ### The course of a load -/

/-- Much of what happens does not concern the agenda. -/
theorem IsTimely.of_same (h : s.IsTimely) (now : s'.now = s.now) (agenda : s'.agenda = s.agenda)
    (returned : s'.returned = s.returned) (errands : s'.errands = s.errands) :
  s'.IsTimely
  where
  ascending := by
    rw [agenda]
    apply h.ascending
  due := by
    rw [agenda, now]
    apply h.due
  returned := by
    rw [returned]
    apply h.returned
  errands := by
    rw [errands]
    apply h.errands

theorem goesOn_of_same (now : s'.now = s.now) (agenda : s'.agenda = s.agenda)
    (schedules : s'.schedules = s.schedules) (returned : s'.returned = s.returned)
    (errands : s'.errands = s.errands) :
  s.GoesOn s'
  where
  now := now
  schedules := schedules
  openings := by rw [openings, agenda, openings]
  timely := fun h => h.of_same now agenda returned errands

theorem goesOn_setDesk (s : Session) (d : Desk) (number : Nat) : s.GoesOn (s.setDesk d number)
  := by cases number <;> exact goesOn_of_same rfl rfl rfl rfl rfl

theorem goesOn_plan {due : Nat} (later : s.now ≤ due) (closed : event.opens = false) :
  s.GoesOn (s.plan due event)
  := ⟨rfl, rfl, filter_insertAfter closed _ _, fun h => h.plan later event⟩

theorem goesOn_planUrgent {due : Nat} (later : s.now ≤ due) (closed : event.opens = false) :
  s.GoesOn (s.planUrgent due event)
  := ⟨rfl, rfl, filter_insertAfter closed _ _, fun h => h.planUrgent later event⟩

theorem goesOn_planReply (s : Session) (t : Task) (delay : Nat) (closed : event.opens = false) :
  s.GoesOn (s.planReply t delay event)
  := by
  rw [planReply]
  split
  · apply goesOn_planUrgent (Nat.le_add_right _ _) closed
  · apply goesOn_plan (Nat.le_add_right _ _) closed

theorem goesOn_planReturn (s : Session) (t : Task) (closed : event.opens = false) :
  s.GoesOn (s.planReturn t event)
  := by
  rw [planReturn]
  split
  · apply goesOn_planUrgent (Nat.le_refl _) closed
  · refine ⟨rfl, rfl, rfl, fun h => ⟨h.ascending, h.due, ?_, h.errands⟩⟩
    intro e mem
    obtain old | new := List.mem_append.1 mem
    · apply h.returned e old
    · obtain rfl := List.mem_singleton.1 new
      apply closed

theorem goesOn_send (s : Session) (t : Task) {errand : Errand} (closed : errand.opens = false) :
  s.GoesOn (s.send t errand)
  := by
  refine ⟨rfl, rfl, rfl, fun h => ⟨h.ascending, h.due, h.returned, ?_⟩⟩
  intro e mem
  obtain old | new := List.mem_append.1 mem
  · apply h.errands e old
  · obtain rfl := List.mem_singleton.1 new
    apply closed

theorem goesOn_conclude (s : Session) (t : Task) (outcome : Except LoadError Layer) :
  s.GoesOn (s.conclude t outcome)
  := by
  have told (watches : List Watch) (s : Session) : s.GoesOn
      (watches.foldl (fun s w => s.modifyDesk w.desk (·.noteFirstLoad w.provider outcome)) s) := by
    induction watches generalizing s with
    | nil => apply GoesOn.refl
    | cons w watches ih => apply (goesOn_setDesk s _ w.desk).trans (ih _)
  rw [conclude]
  split
  · apply GoesOn.refl
  · apply GoesOn.trans _ (told _ _)
    exact goesOn_of_same rfl rfl rfl rfl rfl

theorem goesOn_release (s : Session) (t : Task) : s.GoesOn (s.release t)
  := by
  rw [release]
  split
  · rename_i next r found
    have taken : s.GoesOn { s with queue := s.queue.eraseP (competes t) } :=
      goesOn_of_same rfl rfl rfl rfl rfl
    apply taken.trans
    dsimp only
    split
    · exact goesOn_of_same rfl rfl rfl rfl rfl
    · apply goesOn_plan (Nat.le_refl _) rfl
  · exact goesOn_of_same rfl rfl rfl rfl rfl

theorem goesOn_finish (s : Session) (t : Task) (outcome : Except LoadError Layer)
    (report : DeliveryReport) :
  s.GoesOn (s.finish t outcome report)
  := ((goesOn_setDesk s _ t.desk).trans (goesOn_release _ t)).trans (goesOn_conclude _ t outcome)

theorem goesOn_close (s : Session) (t : Task) (ending : LoadEnding) : s.GoesOn (s.close t ending)
  := by
  rw [close]
  split
  · apply goesOn_finish
  · apply goesOn_send s t rfl

/-- The steps of a load open nothing. -/
theorem goesOn_proceed (s : Session) (t : Task) (r : Resource) (stage : LoadStage) :
  s.GoesOn (s.proceed t r stage)
  := by
  fun_induction proceed s t r stage with
  | case1 s ending => apply goesOn_close
  | case2 s question d answer delay answers reads =>
    apply (goesOn_setDesk s d t.desk).trans (goesOn_send _ t rfl)
  | case3 s question d answer reads answers ih => apply (goesOn_setDesk s _ t.desk).trans ih
  | case4 s question d answer delay answers reads late =>
    apply (goesOn_setDesk s d t.desk).trans (goesOn_planReply _ t delay rfl)
  | case5 s use d times ih => apply (goesOn_setDesk s _ t.desk).trans ih
  | case6 s use d i times => apply goesOn_send s t rfl

theorem goesOn_enter (s : Session) (t : Task) (r : Resource) : s.GoesOn (s.enter t r)
  := goesOn_proceed s t r _

theorem goesOn_begin (s : Session) (t : Task) : s.GoesOn (s.begin t)
  := by
  rw [begin]
  split
  · apply goesOn_conclude
  · apply (goesOn_setDesk s _ t.desk).trans
    dsimp only
    split
    · exact goesOn_of_same rfl rfl rfl rfl rfl
    · apply GoesOn.trans _ (goesOn_enter _ t _)
      exact goesOn_of_same rfl rfl rfl rfl rfl

/-- What is due for a load that has begun opens nothing. -/
theorem goesOn_handle (s : Session) (closed : event.opens = false) : s.GoesOn (s.handle event)
  := by
  cases event with
  | turn t r => apply goesOn_enter
  | reply t r question answer =>
    apply (goesOn_setDesk s _ t.desk).trans (goesOn_proceed _ t r _)
  | store t r use times =>
    cases times with
    | zero => apply (goesOn_setDesk s _ t.desk).trans (goesOn_proceed _ t r _)
    | succ times => apply goesOn_send s t rfl
  | finish t outcome report => apply goesOn_finish
  | _ => cases closed

theorem goesOn_doErrands (h : s.IsTimely) : s.GoesOn s.doErrands
  := by
  have done (errands : List (Task × Errand)) (closed : ∀ e ∈ errands, e.2.opens = false)
      (s : Session) :
      s.GoesOn (errands.foldl doErrand s) := by
    induction errands generalizing s with
    | nil => apply GoesOn.refl
    | cons errand errands ih =>
      obtain ⟨first, others⟩ := List.forall_mem_cons.1 closed
      apply GoesOn.trans _ (ih others _)
      obtain ⟨t, next | ending⟩ := errand
      · apply goesOn_planReturn s t first
      · apply (goesOn_setDesk s _ t.desk).trans (goesOn_planReturn _ t rfl)
  apply GoesOn.trans _ (done s.errands h.errands _)
  refine ⟨rfl, rfl, rfl, fun h => ⟨h.ascending, h.due, h.returned, ?_⟩⟩
  intro e none
  cases none

/-! ### What is due -/

/-- What is due opens something and is the first opening, or it opens nothing. -/
theorem IsTimely.nextDue? (h : s.IsTimely) (due : s.nextDue? = some (event, s')) :
  event.opens = false ∧ s.GoesOn s'
    ∨ event.opens = true ∧ s.openings = (s.now, event) :: s'.openings
      ∧ s'.now = s.now ∧ s'.schedules = s.schedules ∧ s'.loads = s.loads ∧ s'.IsTimely
  := by
  have returned (due : s.nextReturned? = some (event, s')) :
      event.opens = false ∧ s.GoesOn s' := by
    rw [nextReturned?] at due
    split at due
    · cases due
    · rename_i returned
      obtain ⟨rfl, rfl⟩ := Prod.mk.inj (Option.some.inj due)
      have closed := h.returned
      rw [returned, List.forall_mem_cons] at closed
      use closed.1
      exact ⟨rfl, rfl, rfl, fun h => ⟨h.ascending, h.due, closed.2, h.errands⟩⟩
  rw [Session.nextDue?, Agenda.next?] at due
  split at due
  · rename_i found
    split at found
    · cases found
    · rename_i time next rest entries
      obtain ⟨rfl, rfl, rfl⟩ : time = _ ∧ next = _ ∧ Agenda.mk rest = _ := by
        simpa using found
      split at due
      · rename_i past
        obtain ⟨rfl, rfl⟩ := Prod.mk.inj (Option.some.inj due)
        have timely := h.due
        have ascending := h.ascending
        rw [entries, List.forall_mem_cons] at timely
        rw [Agenda.Ascending, entries, List.pairwise_cons] at ascending
        obtain rfl : time = s.now := Nat.le_antisymm past timely.1
        have kept : IsTimely { s with agenda := ⟨rest⟩ } :=
          ⟨ascending.2, timely.2, h.returned, h.errands⟩
        cases opens : next.opens with
        | false =>
          left
          refine ⟨rfl, rfl, rfl, ?_, fun _ => kept⟩
          rw [openings, openings, entries, List.filter_cons_of_neg (by simp [opens])]
        | true =>
          right
          refine ⟨rfl, ?_, rfl, rfl, rfl, kept⟩
          rw [openings, openings, entries, List.filter_cons_of_pos (by simp [opens])]
      · apply Or.inl (returned due)
  · apply Or.inl (returned due)

/-- What is due next is not overdue. -/
theorem IsTimely.le_of_nextTime? (h : s.IsTimely) {due : Nat} (next : s.nextTime? = some due) :
  s.now ≤ due
  := by
  rw [nextTime?, Agenda.next?] at next
  cases entries : s.agenda.entries with
  | nil => simp [entries] at next
  | cons first rest =>
    rw [entries] at next
    obtain rfl : first.1 = due := Option.some.inj next
    apply h.due first
    rw [entries]
    apply List.mem_cons_self

/-- All that is on the agenda is due when what is next is, or later. -/
theorem IsTimely.exists_nextTime? (h : s.IsTimely) {e : Nat × Event}
    (mem : e ∈ s.agenda.entries) :
  ∃ due ∈ s.nextTime?, due ≤ e.1
  := by
  have ascending := h.ascending
  rw [nextTime?, Agenda.next?]
  cases entries : s.agenda.entries with
  | nil => simp [entries] at mem
  | cons first rest =>
    rw [entries] at mem
    rw [Agenda.Ascending, entries, List.pairwise_cons] at ascending
    refine ⟨first.1, rfl, ?_⟩
    obtain rfl | other := List.mem_cons.1 mem
    · apply Nat.le_refl
    · apply ascending.1 e other

/-- When nothing is due, all that is on the agenda is due later. -/
theorem IsTimely.lt_of_nextDue? (h : s.IsTimely) (idle : s.nextDue? = none) {e : Nat × Event}
    (mem : e ∈ s.agenda.entries) :
  s.now < e.1
  := by
  obtain ⟨due, next, le⟩ := h.exists_nextTime? mem
  apply Nat.lt_of_lt_of_le _ le
  obtain ⟨⟨_, event, agenda⟩, first, rfl⟩ := Option.map_eq_some_iff.1 next
  rw [Session.nextDue?, first] at idle
  apply Nat.lt_of_not_le
  intro past
  simp [past] at idle

end Session

end CrossRate
