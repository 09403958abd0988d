import CrossRate.Engine
import CrossRate.Session.Basic

/-!
# Runners in a session

At each `Seat` of a session loads are run by its desk and schedule. To wait for one of them, or
for a gate, lets time pass for all others too.
-/

namespace CrossRate.Session

/-- How a load has ended. -/
def outcomeOf (s : Session) (number : Nat) : Except LoadError Layer :=
  (s.outcomes.get? number).getD (.error (.unavailable "" []))

/-- Wait for the end of a load. -/
def await (number : Nat) (s : Session) : Except LoadError Layer × Session :=
  let s := s.runUntil false (·.outcomes.contains number) none
  (s.outcomeOf number, s)

/-- Wait for the turn of a load if it is in the queue. -/
def awaitTurn (t : Task) (s : Session) : Session :=
  match s.queue.find? (·.1.number = t.number) with
  | some (_, r) => (s.runUntil false (·.called = some t.number) none).enter t r
  | none => s

/-- Do a load, and go on at once when it has ended. -/
def load (desk : Nat) (id : String) (way : LoadWay) (s : Session) :
    Except LoadError Layer × Session :=
  let (t, s) := s.newTask desk id way .done
  let s := (awaitTurn t (s.begin t)).runUntil true (·.outcomes.contains t.number) none
  (s.outcomeOf t.number, s)

/-- Have a provider note how a load ends. -/
def watch (desk load provider : Nat) (s : Session) : Session :=
  match s.outcomes.get? load with
  | some outcome => s.modifyDesk desk (·.noteFirstLoad provider outcome)
  | none => { s with watches := s.watches ++ [⟨load, desk, provider⟩] }

/-- The longest time in seconds for which somebody waits. -/
def longestWait : Nat := 86400 * 365 * 30

/-- The seconds that a query waits which may wait for a time. A time that the clock cannot tell
is cut. -/
def waitOf (seconds : Nat) : Nat := if seconds ≤ Ticker.lastSecond then seconds else longestWait

/-- Wait until the gate of a provider is released, or for as long as its settings say. A query
goes on at once when the gate is released. -/
def awaitGate (desk provider : Nat) (s : Session) : Session :=
  match (s.desk desk).providers[provider]? with
  | some p =>
    s.runUntil true (fun s => (s.desk desk).providers[provider]?.any (·.gate.isOpen))
      (some (s.now + 1000 * waitOf p.settings.loadTimeout))
  | none => s

/-- The runner at a seat. -/
def runner (seat : Seat) : Runner Session Nat where
  desk s := s.desk seat.desk
  setDesk d s := s.setDesk d seat.desk
  schedule s := s.schedule seat.schedule
  setSchedule schedule s := s.setSchedule schedule seat.schedule
  load := load seat.desk
  start id s := s.start seat.desk id .started
  await := await
  watch := watch seat.desk
  wind id ticker s := s.soon (.wind seat id ticker)
  awaitGate := awaitGate seat.desk

/-- The seat that a session has from the start. -/
def mainSeat : Seat := ⟨0, 0⟩

/-- Set an engine up at a desk, with a schedule of its own, which ends if that fails. -/
def assemble (settings : EngineSettings) (desk : Nat) (s : Session) :
    Except RateError (Engine × Seat) × Session :=
  let (schedule, s) := s.addSchedule
  match Engine.assemble (runner ⟨desk, schedule⟩) settings s with
  | (.ok e, s) => (.ok (e, ⟨desk, schedule⟩), s)
  | (.error x, s) => (.error x, (runner ⟨desk, schedule⟩).shutdown s)

end CrossRate.Session
