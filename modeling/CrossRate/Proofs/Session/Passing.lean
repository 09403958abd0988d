import CrossRate.Proofs.Runner.Scheduling
import CrossRate.Proofs.Session.Openings

/-!
# How time passes

Whatever happens in a session or is done to it comes down to a few things (`Session.Happens`): what
is due is handled, errands are done, time passes when nothing is due, loads and tickers are started,
and schedules are added or stopped. All of them together, with a log of what was handled and when,
are how the session lasts (`Session.Lasts`). A wait is of this kind (`Session.passes_runUntil`), and
so is the registration of a resource (`Session.passes_register`).
-/

namespace CrossRate.Session

variable {s s' s'' : Session} {log handled : List (Nat × Event)} {seat : Seat}

/-! ### What may happen -/

/-- One of the things that happen in a session or are done to it, and the events that are handled
then, with the time. -/
inductive Happens : Session → List (Nat × Event) → Session → Prop where
  /-- What is due is handled. -/
  | event {s s' : Session} {event : Event} :
    s.nextDue? = some (event, s') → Happens s [(s.now, event)] (s'.handle event)
  /-- The errands are done. -/
  | errands (s : Session) : Happens s [] s.doErrands
  /-- Time passes, but not beyond what is due next. -/
  | time {s : Session} {now : Nat} :
    s.nextDue? = none → s.now ≤ now → (∀ due ∈ s.nextTime?, now ≤ due) →
      Happens s [] { s with now := now }
  /-- A load begins that is waited for. -/
  | load (s : Session) (t : Task) : Happens s [] (s.begin t)
  /-- A load gets its turn that is waited for. -/
  | turn (s : Session) (t : Task) (r : Resource) : Happens s [] (s.enter t r)
  /-- A load is started in the background. -/
  | start (s : Session) (desk : Nat) (id : String) (occasion : Occasion) :
    Happens s [] (s.start desk id occasion).2
  /-- A ticker is started. -/
  | refresh {s : Session} {seat : Seat} (r : Resource) :
    HasPlaces seat s → Happens s [] ((runner seat).refresh r s)
  /-- The tickers of a schedule are stopped. -/
  | shutdown (s : Session) (seat : Seat) : Happens s [] ((runner seat).shutdown s)
  /-- A schedule is added. -/
  | schedule (s : Session) : Happens s [] s.addSchedule.2
  /-- Something else changes, such as a desk. -/
  | change {s s' : Session} :
    s'.now = s.now → s'.agenda = s.agenda → s'.schedules = s.schedules →
      s'.returned = s.returned → s'.errands = s.errands → Happens s [] s'

/-- What becomes of a session, and the log of the events that have been handled meanwhile. -/
inductive Lasts (s : Session) : List (Nat × Event) → Session → Prop where
  | refl : Lasts s [] s
  | step {log handled : List (Nat × Event)} {s' s'' : Session} :
    Lasts s log s' → Happens s' handled s'' → Lasts s (log ++ handled) s''

theorem Lasts.trans {log' : List (Nat × Event)} (h : s.Lasts log s') (h' : s'.Lasts log' s'') :
  s.Lasts (log ++ log') s''
  := by
  induction h' with
  | refl =>
    rw [List.append_nil]
    apply h
  | step _ happens ih =>
    rw [← List.append_assoc]
    apply ih.step happens

/-! ### Openings -/

/-- What is to be opened once an event has been handled. -/
def sequel (s : Session) : Event → List (Nat × Event)
  | .wind seat id ticker =>
    if s.isCurrent seat id ticker then
      ((ticker.firstTick? s.now).map (·, .tick seat id ticker)).toList
    else []
  | .tick seat id ticker =>
    if s.isCurrent seat id ticker then
      [(s.now + ticker.interval, .tick seat id ticker),
        (s.now, .begin ⟨s.loads, seat.desk, id, .full, .ticked⟩)]
    else []
  | _ => []

/-- What opens something, when it is handled, leads to its sequel. -/
theorem openings_handle {event : Event} (opens : event.opens = true) :
  (s.handle event).now = s.now ∧ (s.handle event).schedules = s.schedules
    ∧ (s.handle event).openings.Perm (s.sequel event ++ s.openings)
    ∧ (s.IsTimely → (s.handle event).IsTimely)
  := by
  have kept : s.now = s.now ∧ s.schedules = s.schedules
      ∧ s.openings.Perm ([] ++ s.openings) ∧ (s.IsTimely → s.IsTimely) := ⟨rfl, rfl, .refl _, id⟩
  cases event with
  | begin t =>
    obtain ⟨now, schedules, openings, timely⟩ := goesOn_begin s t
    refine ⟨now, schedules, ?_, timely⟩
    rw [handle, openings]
    apply List.Perm.refl
  | wind seat id ticker =>
    rw [handle, sequel]
    by_cases current : s.isCurrent seat id ticker = true
    · rw [if_pos current]
      cases first : ticker.firstTick? s.now with
      | none => exact kept
      | some due =>
        have later : s.now ≤ due := by
          rw [Ticker.firstTick?] at first
          split at first
          · obtain rfl := Option.some.inj first
            omega
          · cases first
        dsimp only
        rw [if_pos current]
        exact ⟨rfl, rfl, openings_plan s due rfl, fun h => h.plan later _⟩
    · rw [if_neg current]
      cases ticker.firstTick? s.now with
      | none => exact kept
      | some due =>
        dsimp only
        rw [if_neg current]
        exact kept
  | tick seat id ticker =>
    rw [handle, sequel]
    split
    · let t : Task := ⟨s.loads, seat.desk, id, .full, .ticked⟩
      let numbered : Session := { s with loads := s.loads + 1 }
      have begun : (numbered.plan s.now (.begin t)).openings.Perm ((s.now, .begin t) :: s.openings)
        := openings_plan numbered s.now rfl
      refine ⟨rfl, rfl, ?_, ?_⟩
      · apply (openings_plan _ (s.now + ticker.interval) rfl).trans (begun.cons _)
      · intro h
        have h : numbered.IsTimely := h.of_same rfl rfl rfl rfl
        apply (h.plan (Nat.le_refl _) (.begin t)).plan (Nat.le_add_right _ _)
    · apply kept
  | _ => cases opens

/-- What happens in a session, as far as its openings and its schedules are concerned. -/
inductive Progresses : Session → List (Nat × Event) → Session → Prop where
  /-- An event that is due leads to its sequel. -/
  | event {s s' : Session} (event : Event) (others : List (Nat × Event)) :
    s'.now = s.now → s'.schedules = s.schedules →
      s.openings = (if event.opens then [(s.now, event)] else []) ++ others →
      s'.openings.Perm (s.sequel event ++ others) → Progresses s [(s.now, event)] s'
  /-- Loads go on, and some are started. -/
  | loads {s s' : Session} (started : List Task) :
    s'.now = s.now → s'.schedules = s.schedules →
      s'.openings.Perm (started.map (s.now, .begin ·) ++ s.openings) → Progresses s [] s'
  /-- Time passes when nothing is due. -/
  | time {s s' : Session} :
    s.now ≤ s'.now → s'.schedules = s.schedules → s'.openings = s.openings →
      (∀ e ∈ s.openings, s.now < e.1) → Progresses s [] s'
  /-- A ticker is started. -/
  | refresh {s s' : Session} (seat : Seat) (settings : LoaderSettings) (r : Resource) :
    seat.schedule < s.schedules.length → s'.now = s.now →
      s'.schedules
        = s.schedules.set seat.schedule ((s.schedule seat.schedule).start settings r) →
      s'.openings.Perm
        ((s.now, .wind seat r.id ((s.schedule seat.schedule).tickerFor settings r))
          :: s.openings) → Progresses s [] s'
  /-- The schedules become more, or they have fewer tickers. -/
  | schedules {s s' : Session} :
    s'.now = s.now → s'.openings = s.openings → s.schedules.length ≤ s'.schedules.length →
      (∀ n, (s'.schedule n).started = (s.schedule n).started) →
      (∀ n id t, (s'.schedule n).tickers.get? id = some t →
        (s.schedule n).tickers.get? id = some t) → Progresses s [] s'

theorem GoesOn.progresses (h : s.GoesOn s') : s.Progresses [] s'
  := .loads [] h.now h.schedules (.of_eq h.openings)

theorem sequel_congr (now : s'.now = s.now) (schedules : s'.schedules = s.schedules)
    (loads : s'.loads = s.loads) (event : Event) :
  s'.sequel event = s.sequel event
  := by
  have current (seat : Seat) (id : String) (ticker : Ticker) :
      s'.isCurrent seat id ticker = s.isCurrent seat id ticker := by
    rw [isCurrent, isCurrent, schedule, schedule, schedules]
  cases event <;> simp only [sequel, current, now, loads]

theorem sequel_of_closed {event : Event} (closed : event.opens = false) : s.sequel event = []
  := by
  cases event with
  | wind => cases closed
  | tick => cases closed
  | _ => rfl

/-- One schedule may be put in place of another. -/
theorem schedule_of_set {place : Nat} {schedule : Schedule}
    (set : s'.schedules = s.schedules.set place schedule) (n : Nat) :
  s'.schedule n = if place = n ∧ place < s.schedules.length then schedule else s.schedule n
  := by
  simp only [Session.schedule, set, List.getD_eq_getElem?_getD, List.getElem?_set]
  by_cases here : place = n
  · subst here
    by_cases bound : place < s.schedules.length <;> simp [bound]
  · simp [here]

theorem schedule_shutdown (s : Session) (seat : Seat) (n : Nat) :
  ((runner seat).shutdown s).schedule n = s.schedule n
    ∨ ((runner seat).shutdown s).schedule n = (s.schedule n).stop
  := by
  rw [schedule_of_set rfl]
  split
  · rename_i here
    obtain ⟨rfl, -⟩ := here
    exact .inr rfl
  · exact .inl rfl

/-- A schedule that is added has no tickers, as one that there is not. -/
theorem schedule_addSchedule (s : Session) (n : Nat) : s.addSchedule.2.schedule n = s.schedule n
  := by
  simp only [Session.schedule, addSchedule, List.getD_eq_getElem?_getD, List.getElem?_append]
  split
  · rfl
  · rename_i beyond
    rw [List.getElem?_eq_none (Nat.le_of_not_lt beyond)]
    cases n - s.schedules.length <;> rfl

/-- Nothing gets overdue, whatever happens, and openings come and go as told. -/
theorem Happens.progresses (h : s.Happens handled s') (timely : s.IsTimely) :
  s'.IsTimely ∧ s.Progresses handled s'
  := by
  cases h with
  | @event s' event due =>
    obtain ⟨closed, goesOn⟩ | ⟨opens, openings, now, schedules, loads, timely'⟩ :=
      timely.nextDue? due
    · have goesOn := goesOn.trans (goesOn_handle s' closed)
      use goesOn.timely timely
      apply Progresses.event event s.openings goesOn.now goesOn.schedules
      · simp [closed]
      · rw [goesOn.openings, sequel_of_closed closed]
        apply List.Perm.refl
    · obtain ⟨now', schedules', openings', timely''⟩ := openings_handle opens (s := s')
      use timely'' timely'
      apply Progresses.event event s'.openings (now'.trans now) (schedules'.trans schedules)
      · simp [opens, openings]
      · rw [← sequel_congr now schedules loads]
        apply openings'
  | errands =>
    have goesOn := goesOn_doErrands timely
    exact ⟨goesOn.timely timely, goesOn.progresses⟩
  | @time now idle later early =>
    constructor
    · refine ⟨timely.ascending, ?_, timely.returned, timely.errands⟩
      intro e mem
      rw [nextTime?, Agenda.next?] at early
      obtain ⟨due, next, le⟩ := timely.exists_nextTime? mem
      apply Nat.le_trans (early due next) le
    · refine .time later rfl rfl ?_
      intro e mem
      apply timely.lt_of_nextDue? idle (List.mem_filter.1 mem).1
  | load t =>
    have goesOn := goesOn_begin s t
    exact ⟨goesOn.timely timely, goesOn.progresses⟩
  | turn t r =>
    have goesOn := goesOn_enter s t r
    exact ⟨goesOn.timely timely, goesOn.progresses⟩
  | start desk id occasion =>
    let t : Task := ⟨s.loads, desk, id, .full, occasion⟩
    let numbered : Session := { s with loads := s.loads + 1 }
    have numbering : numbered.IsTimely := timely.of_same rfl rfl rfl rfl
    constructor
    · apply numbering.plan (Nat.le_refl _) (.begin t)
    · exact .loads [t] rfl rfl (openings_plan numbered s.now rfl)
  | @refresh seat r places =>
    constructor
    · have wound : IsTimely (s.setSchedule
          ((s.schedule seat.schedule).start ((runner seat).loader s).settings r)
          seat.schedule) := timely.of_same rfl rfl rfl rfl
      apply wound.plan (Nat.le_refl _)
    · refine .refresh seat ((runner seat).loader s).settings r places.2 rfl rfl ?_
      apply openings_plan _ s.now rfl
  | shutdown seat =>
    constructor
    · exact timely.of_same rfl rfl rfl rfl
    · refine .schedules rfl rfl ?_ ?_ ?_
      · simp [runner, Runner.shutdown, setSchedule]
      · intro n
        obtain same | stopped := schedule_shutdown s seat n
        · rw [same]
        · rw [stopped]
          rfl
      · intro n id t found
        obtain same | stopped := schedule_shutdown s seat n
        · rw [← same]
          apply found
        · rw [stopped] at found
          cases found
  | schedule =>
    constructor
    · exact timely.of_same rfl rfl rfl rfl
    · refine .schedules rfl rfl ?_ ?_ ?_
      · simp [addSchedule]
      · intro n
        rw [schedule_addSchedule]
      · intro n id t found
        rw [schedule_addSchedule] at found
        apply found
  | change now agenda schedules returned errands =>
    have goesOn := goesOn_of_same now agenda schedules returned errands
    exact ⟨goesOn.timely timely, goesOn.progresses⟩

theorem Lasts.isTimely (h : s.Lasts log s') (timely : s.IsTimely) : s'.IsTimely
  := by
  induction h with
  | refl => apply timely
  | step _ happens ih => apply (happens.progresses ih).1

/-! ### Waiting -/

/-- What a session becomes, whatever is handled meanwhile. -/
def Passes (s s' : Session) : Prop := ∃ log, s.Lasts log s'

theorem Passes.refl (s : Session) : s.Passes s := ⟨[], .refl⟩

theorem Passes.trans (h : s.Passes s') (h' : s'.Passes s'') : s.Passes s''
  := by
  obtain ⟨log, lasts⟩ := h
  obtain ⟨log', lasts'⟩ := h'
  exact ⟨log ++ log', lasts.trans lasts'⟩

theorem Passes.isTimely (h : s.Passes s') (timely : s.IsTimely) : s'.IsTimely
  := by
  obtain ⟨log, lasts⟩ := h
  apply lasts.isTimely timely

theorem Happens.passes (h : s.Happens handled s') : s.Passes s' := ⟨[] ++ handled, .step .refl h⟩

/-- A desk changes. -/
theorem happens_setDesk (s : Session) (d : Desk) (number : Nat) :
  s.Happens [] (s.setDesk d number)
  := by cases number <;> exact .change rfl rfl rfl rfl rfl

/-- While somebody waits, what is due happens, and time does not pass beyond the deadline. -/
theorem passes_runFor (timely : s.IsTimely) (atOnce : Bool) (done : Session → Bool)
    {deadline : Option Nat} (before : ∀ d ∈ deadline, s.now ≤ d) (fuel : Nat) :
  s.Passes (runFor atOnce done deadline fuel s)
  := by
  induction fuel generalizing s with
  | zero => apply Passes.refl
  | succ fuel ih =>
    rw [runFor]
    split
    · apply Passes.refl
    · split
      · rename_i event s' due
        have happens : s.Happens [(s.now, event)] (s'.handle event) := .event due
        obtain ⟨timely', progresses⟩ := happens.progresses timely
        have now : (s'.handle event).now = s.now := by
          cases progresses
          assumption
        apply happens.passes.trans (ih timely' (by rwa [now]))
      · rename_i idle
        split
        · apply Passes.refl
        · split
          · have goesOn := goesOn_doErrands timely
            apply (Happens.errands s).passes.trans
            apply ih (goesOn.timely timely)
            rwa [goesOn.now]
          · split
            · rename_i due next
              obtain ⟨next, early⟩ := Option.filter_eq_some_iff.1 next
              have happens : s.Happens [] { s with now := due } := by
                apply Happens.time idle (timely.le_of_nextTime? next)
                rintro _ next'
                rw [Option.mem_def, next] at next'
                apply Nat.le_of_eq (Option.some.inj next')
              apply happens.passes.trans
              apply ih (happens.progresses timely).1
              intro d last
              rw [Option.all_eq_true] at early
              apply Nat.le_of_lt (of_decide_eq_true (early d last))
            · rename_i none
              rw [Option.filter_eq_none_iff] at none
              apply Happens.passes
              cases deadline with
              | none =>
                apply Happens.time idle (Nat.le_refl _)
                intro due next
                exact absurd rfl (none due next)
              | some d =>
                apply Happens.time idle (before d rfl)
                intro due next
                have late := none due next
                simpa using late

theorem passes_runUntil (timely : s.IsTimely) (atOnce : Bool) (done : Session → Bool)
    (deadline : Option Nat) :
  s.Passes (s.runUntil atOnce done deadline)
  := by
  rw [runUntil]
  split
  · apply Passes.refl
  · rename_i waits
    apply passes_runFor timely
    rw [Bool.or_eq_true, not_or] at waits
    intro d last
    apply Nat.le_of_not_ge
    intro past
    apply waits.2
    rw [Option.mem_def.1 last, Option.any_some]
    apply decide_eq_true past

/-! ### Runners -/

/-- A load that is waited for begins, gets its turn and goes on until it has ended. -/
theorem passes_load (timely : s.IsTimely) (number : Nat) (id : String) (way : LoadWay) :
  s.Passes (load number id way s).2
  := by
  let t := (s.newTask number id way .done).1
  let called := (s.newTask number id way .done).2
  have calling : s.Passes called := by
    apply Happens.passes
    exact .change rfl rfl rfl rfl rfl
  have begun : s.Passes (called.begin t) := calling.trans (Happens.load called t).passes
  have entered : s.Passes (awaitTurn t (called.begin t)) := by
    rw [awaitTurn]
    split
    · rename_i r found
      have waited := passes_runUntil (begun.isTimely timely) false (·.called = some t.number) none
      apply (begun.trans waited).trans (Happens.turn _ t r).passes
    · apply begun
  exact entered.trans
    (passes_runUntil (entered.isTimely timely) true (·.outcomes.contains t.number) none)

theorem hasPlaces_refresh (places : HasPlaces seat s) (r : Resource) :
  HasPlaces seat ((runner seat).refresh r s)
  := by
  constructor
  · apply places.1
  · simpa [runner, Runner.refresh, setSchedule, soon, plan] using places.2

/-- What is done for a resource that is registered is a load, a ticker or both. -/
theorem passes_register (timely : s.IsTimely) (places : HasPlaces seat s) (r : Resource) :
  s.Passes ((runner seat).register r s).2
  := by
  rw [Runner.register_eq]
  cases ((runner seat).loader s).admits r with
  | error e => apply Passes.refl
  | ok _ =>
    let added := (runner seat).adding r s
    have adding : s.Passes added := (happens_setDesk s _ seat.desk).passes
    have fits : HasPlaces seat added := (isOrderly_runner seat).fits_setDesk _ places
    apply adding.trans
    dsimp only
    rw [Runner.follow]
    split
    · apply passes_load (adding.isTimely timely)
    · apply (Happens.start added seat.desk r.id .started).passes
    · let begun := (added.start seat.desk r.id .started).2
      have starting : added.Passes begun := (Happens.start added seat.desk r.id .started).passes
      have refreshing : begun.Happens [] ((runner seat).refresh r begun) := .refresh r fits
      apply starting.trans refreshing.passes
    · apply Passes.refl

end CrossRate.Session
