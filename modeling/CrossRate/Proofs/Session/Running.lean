import CrossRate.Proofs.Session.Marking

/-!
# Tickers that run

Of the tickers that have been wound up in a session those run that are still the ones of their
resources, and they are just those whose ticks start loads (`Session.mem_running_iff`). A ticker
that has been replaced or stopped does nothing any more, whatever becomes of the session
(`Session.handle_of_not_running`).
-/

namespace CrossRate.Session

variable {s s' : Session} {log : List (Nat × Event)} {seat : Seat} {id : String} {ticker : Ticker}

/-! ### Sessions with a seat -/

/-- A session has places for a seat, and nothing is overdue. -/
structure IsSeated (seat : Seat) (s : Session) : Prop where
  places : HasPlaces seat s
  timely : s.IsTimely

theorem standsBy_isSeated (standsBy : (runner seat).StandsBy (HasPlaces seat) s s')
    (timely : s'.IsTimely) :
  (runner seat).StandsBy (IsSeated seat) s s'
  where
  fits := ⟨standsBy.fits, timely⟩
  settings := standsBy.settings
  resources := standsBy.resources
  schedule := standsBy.schedule

/-- The runner at a seat lets nothing get overdue. -/
theorem isOrderly_isSeated (seat : Seat) : (runner seat).IsOrderly (IsSeated seat)
  where
  desk_setDesk := fun d seated => (isOrderly_runner seat).desk_setDesk d seated.places
  schedule_setDesk := fun d seated => (isOrderly_runner seat).schedule_setDesk d seated.places
  fits_setDesk := by
    intro s d seated
    constructor
    · apply (isOrderly_runner seat).fits_setDesk d seated.places
    · apply (goesOn_setDesk s d seat.desk).timely seated.timely
  desk_setSchedule := fun schedule seated =>
    (isOrderly_runner seat).desk_setSchedule schedule seated.places
  schedule_setSchedule := fun schedule seated =>
    (isOrderly_runner seat).schedule_setSchedule schedule seated.places
  fits_setSchedule := by
    intro s schedule seated
    constructor
    · apply (isOrderly_runner seat).fits_setSchedule schedule seated.places
    · exact seated.timely.of_same rfl rfl rfl rfl
  load := by
    intro s id way seated
    apply standsBy_isSeated ((isOrderly_runner seat).load id way seated.places)
    apply (passes_load seated.timely seat.desk id way).isTimely seated.timely
  start := by
    intro s id seated
    apply standsBy_isSeated ((isOrderly_runner seat).start id seated.places)
    apply (Happens.start s seat.desk id .started).passes.isTimely seated.timely
  wind := by
    intro s id ticker seated
    apply standsBy_isSeated ((isOrderly_runner seat).wind id ticker seated.places)
    apply seated.timely.plan (Nat.le_refl s.now)

/-! ### Ticks -/

/-- A load starts when a ticker ticks that is the one of its resource. -/
theorem loads_handle_tick (s : Session) (seat : Seat) (id : String) (ticker : Ticker) :
  (s.handle (.tick seat id ticker)).loads = s.loads + (s.isCurrent seat id ticker).toNat
  := by
  rw [handle]
  split
  · rename_i current
    rw [current]
    rfl
  · rename_i replaced
    rw [Bool.eq_false_iff.2 replaced]
    rfl

/-- Nothing comes of what is about a ticker that is not the one of its resource. -/
theorem handle_of_not_isCurrent (replaced : s.isCurrent seat id ticker = false) {event : Event}
    (about : event.ticker? = some (seat, id, ticker)) :
  s.handle event = s
  := by
  cases event with
  | wind =>
    cases about
    rw [handle]
    split
    · rw [if_neg (by simp [replaced])]
    · rfl
  | tick =>
    cases about
    rw [handle, if_neg (by simp [replaced])]
  | _ => cases about

/-- A ticker that has been replaced or stopped is never again the one of its resource. -/
theorem Lasts.isCurrent_eq_false (lasts : s.Lasts log s') (timely : s.IsTimely)
    (started : ticker.mark < (s.schedule seat.schedule).started)
    (replaced : s.isCurrent seat id ticker = false) :
  ticker.mark < (s'.schedule seat.schedule).started ∧ s'.isCurrent seat id ticker = false
  := by
  induction lasts with
  | refl => exact ⟨started, replaced⟩
  | step lasts happens ih =>
    obtain ⟨started, replaced⟩ := ih
    have progresses := (happens.progresses (lasts.isTimely timely)).2
    constructor
    · apply Nat.lt_of_lt_of_le started (progresses.started_le.2 _)
    · apply Bool.eq_false_iff.2
      intro current
      obtain old | ⟨new, -⟩ := progresses.get?_tickers (of_decide_eq_true current)
      · rw [isCurrent, old] at replaced
        simp at replaced
      · omega

/-! ### Tickers that have been wound up -/

variable {p : Runner.Recorded Session}

theorem mem_running_iff_isCurrent (wound : (id, ticker) ∈ p.wound) :
  (id, ticker) ∈ (runner seat).running p id ↔ p.world.isCurrent seat id ticker = true
  := by
  rw [Runner.running, List.mem_filter, isCurrent]
  simp [wound, runner]

/-- A ticker that has been wound up runs just if its ticks start loads. -/
theorem mem_running_iff (wound : (id, ticker) ∈ p.wound) :
  (id, ticker) ∈ (runner seat).running p id
    ↔ (p.world.handle (.tick seat id ticker)).loads = p.world.loads + 1
  := by
  rw [mem_running_iff_isCurrent wound, loads_handle_tick]
  cases p.world.isCurrent seat id ticker <;> simp

/-- A ticker that has been wound up and does not run does nothing any more, whatever becomes of the
session. -/
theorem handle_of_not_running {start : Session} (seated : IsSeated seat start)
    (idle : ∀ id, (start.schedule seat.schedule).contains id = false)
    {calls : List (Session × SchedulerCall)}
    (reached : (runner seat).Reaches (IsSeated seat) start calls p)
    (wound : (id, ticker) ∈ p.wound) (stopped : (id, ticker) ∉ (runner seat).running p id)
    (lasts : p.world.Lasts log s) {event : Event}
    (about : event.ticker? = some (seat, id, ticker)) :
  s.handle event = s
  := by
  have inOrder := Runner.isInOrder_of_reaches (isOrderly_isSeated seat) seated idle reached
  rw [mem_running_iff_isCurrent wound, Bool.not_eq_true] at stopped
  have replaced := lasts.isCurrent_eq_false inOrder.fits.timely (inOrder.marked _ wound) stopped
  apply handle_of_not_isCurrent replaced.2 about

end CrossRate.Session
