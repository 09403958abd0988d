import CrossRate.Proofs.Runner.Lawful
import CrossRate.Proofs.Runner.Orderly
import CrossRate.Proofs.Session.Course

/-!
# Sessions are lawful and orderly

At each of the desks of a session the providers live on, whatever happens (`Session.Continues`).
So the runner at each seat of a session is lawful (`Session.isLawful_runner`), in the sessions
that have a desk for the seat, and in those that have a schedule for it too it is orderly
(`Session.isOrderly_runner`).
-/

namespace CrossRate.Session

variable {s s' : Session}

/-- What a session becomes on one day while the providers at its desks live on. -/
structure Continues (s s' : Session) : Prop where
  others : s'.others.length = s.others.length
  desk (number : Nat) : (s.desk number).Continues (s'.desk number)

theorem Becomes.continues (h : s.Becomes Desk.Continues s') : s.Continues s'
  := ⟨h.others, h.desk⟩

/-- A session has a desk for a seat. -/
def Seats (seat : Seat) (s : Session) : Prop := seat.desk ≤ s.others.length

theorem Continues.atSeat {seat : Seat} (h : s.Continues s') (seats : Seats seat s) :
  (runner seat).Continues (Seats seat) s s'
  where
  fits := by
    rw [Seats, h.others]
    apply seats
  desk := h.desk seat.desk

theorem desk_setDesk {number : Nat} (d : Desk) (bound : number ≤ s.others.length) :
  (s.setDesk d number).desk number = d
  := by
  cases number with
  | zero => rfl
  | succ i =>
    have bound : i < s.others.length := bound
    simp [setDesk, desk, bound]

theorem setDesk_desk (s : Session) (number : Nat) : s.setDesk (s.desk number) number = s
  := by
  cases number with
  | zero => rfl
  | succ i =>
    have same : s.others.set i (s.desk (i + 1)) = s.others := by
      by_cases bound : i < s.others.length
      · simp [desk, bound]
      · apply List.set_eq_of_length_le (Nat.le_of_not_lt bound)
    rw [setDesk, same]

theorem length_others_setDesk (s : Session) (d : Desk) (number : Nat) :
  (s.setDesk d number).others.length = s.others.length
  := by cases number <;> simp [setDesk]

theorem desk_setSchedule (s : Session) (schedule : Schedule) (place number : Nat) :
  (s.setSchedule schedule place).desk number = s.desk number
  := by cases number <;> rfl

/-- The runner at a seat is lawful in the sessions that have a desk for it. -/
theorem isLawful_runner (seat : Seat) : (runner seat).IsLawful (Seats seat)
  where
  desk_setDesk := fun d seats => desk_setDesk d seats
  setDesk_desk := fun s => setDesk_desk s seat.desk
  fits_setDesk := by
    intro s d seats
    simpa [Seats, runner, length_others_setDesk] using seats
  setSchedule := by
    intro s schedule seats
    have kept : s.Continues (s.setSchedule schedule seat.schedule) := by
      use rfl
      intro number
      rw [desk_setSchedule]
      apply Desk.Continues.refl
    exact kept.atSeat seats
  load := fun id way seats =>
    (becomes_load Desk.admitsLoads_continues _ _ id way).continues.atSeat seats
  start := fun id seats =>
    (becomes_start Desk.admitsLoads_continues _ _ id .started).continues.atSeat seats
  await := fun load seats =>
    (becomes_await Desk.admitsLoads_continues _ load).continues.atSeat seats
  watch := fun load number seats =>
    (becomes_watch Desk.admitsLoads_continues _ _ load number).continues.atSeat seats
  wind := fun id ticker seats =>
    (becomes_wind Desk.admitsLoads_continues _ seat id ticker).continues.atSeat seats
  awaitGate := fun number seats =>
    (becomes_awaitGate Desk.admitsLoads_continues _ _ number).continues.atSeat seats

/-- A session has a desk and a schedule for a seat. -/
def HasPlaces (seat : Seat) (s : Session) : Prop :=
  Seats seat s ∧ seat.schedule < s.schedules.length

/-- Whatever loads make of a session, at each seat it stands by. -/
theorem Becomes.standsBy {seat : Seat} (h : s.Becomes Desk.SameSetUp s')
    (places : HasPlaces seat s) :
  (runner seat).StandsBy (HasPlaces seat) s s'
  where
  fits := by
    rw [HasPlaces, Seats, h.others, h.schedules]
    apply places
  settings := (h.desk seat.desk).settings
  resources := (h.desk seat.desk).resources
  schedule := congrArg (·.getD seat.schedule {}) h.schedules

/-- The runner at a seat is orderly in the sessions that have a desk and a schedule for it. -/
theorem isOrderly_runner (seat : Seat) : (runner seat).IsOrderly (HasPlaces seat)
  where
  desk_setDesk := fun d places => desk_setDesk d places.1
  schedule_setDesk := by
    intro s d places
    show (s.setDesk d seat.desk).schedule seat.schedule = s.schedule seat.schedule
    cases seat.desk <;> rfl
  fits_setDesk := by
    intro s d places
    have schedules : (s.setDesk d seat.desk).schedules = s.schedules := by
      cases seat.desk <;> rfl
    simpa [HasPlaces, Seats, runner, length_others_setDesk, schedules] using places
  desk_setSchedule := fun schedule _ => desk_setSchedule _ schedule seat.schedule seat.desk
  schedule_setSchedule := by
    intro s schedule places
    simp [runner, setSchedule, Session.schedule, places.2]
  fits_setSchedule := by
    intro s schedule places
    simpa [HasPlaces, Seats, runner, setSchedule] using places
  load := fun id way places =>
    (becomes_load Desk.admitsLoads_sameSetUp _ _ id way).standsBy places
  start := fun id places =>
    (becomes_start Desk.admitsLoads_sameSetUp _ _ id .started).standsBy places
  wind := fun id ticker places =>
    (becomes_wind Desk.admitsLoads_sameSetUp _ seat id ticker).standsBy places

end CrossRate.Session
