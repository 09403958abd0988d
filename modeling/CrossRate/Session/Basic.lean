import CrossRate.Desk
import CrossRate.Schedule
import CrossRate.Session.Agenda

/-!
# Sessions

In a `Session` loads take their time. Its clock counts milliseconds, and its agenda says what
goes on in the background; that happens only while somebody waits (`runUntil`). The loads of
one resource take turns: one that comes while another is under way waits in a queue. Errands,
such as the use of a file or the delivery of a payload, are done when nothing else is due, and
before time passes.
-/

namespace CrossRate

/-- Why there is a load. -/
inductive Occasion where
  /-- Somebody does it and waits for its end. -/
  | done
  /-- Somebody has started it and may ask how it has ended. -/
  | started
  /-- A ticker has started it, and nobody asks how it has ended. -/
  | ticked
deriving DecidableEq

/-- A load, and what it is called. -/
structure Task where
  number : Nat
  /-- The number of the desk that does it. -/
  desk : Nat
  /-- The identifier of the resource. -/
  id : String
  way : LoadWay
  occasion : Occasion

/-- Whether a load goes before others since it is waited for. -/
def Task.isUrgent (t : Task) : Bool := t.occasion = .done

/-- The place of a runner in a session: the numbers of a desk and of a schedule. -/
structure Seat where
  desk : Nat
  schedule : Nat

/-- What may happen in a session. -/
inductive Event where
  /-- A load begins. -/
  | begin (task : Task)
  /-- A load gets its turn. -/
  | turn (task : Task) (resource : Resource)
  /-- The location of a question answers. -/
  | reply (task : Task) (resource : Resource) (question : Question)
    (answer : Except LoadError Bytes)
  /-- The files of the machine have been used for the store; that is to happen some more
  times. -/
  | store (task : Task) (resource : Resource) (use : StoreUse) (times : Nat)
  /-- A payload has been delivered. -/
  | finish (task : Task) (outcome : Except LoadError Layer) (report : DeliveryReport)
  /-- A ticker starts. -/
  | wind (seat : Seat) (id : String) (ticker : Ticker)
  /-- A ticker ticks. -/
  | tick (seat : Seat) (id : String) (ticker : Ticker)

/-- What is done for a load while other things go on. -/
inductive Errand where
  /-- A file is used, after which the load goes on. -/
  | useFile (next : Event)
  /-- The payload is handed to all who want it. -/
  | deliver (ending : LoadEnding)

/-- A provider that is told how a load ends. -/
structure Watch where
  load : Nat
  desk : Nat
  provider : Nat

/-- A world in which loads take their time. -/
structure Session where
  /-- The time in milliseconds. -/
  now : Nat := 0
  agenda : Agenda Event := {}
  /-- The desk with the number 0. -/
  first : Desk
  /-- The other desks. -/
  others : List Desk := []
  schedules : List Schedule := [{}]
  /-- The resources that are being loaded, and their desks. -/
  busy : List (Nat × String) := []
  /-- The loads that wait for their turn. -/
  queue : List (Task × Resource) := []
  /-- The number of the load whose turn has come and that is waited for. -/
  called : Option Nat := none
  /-- What is to be done when nothing else is due, and for which load. -/
  errands : List (Task × Errand) := []
  /-- What follows the errands that have been done, which gives way to what is due. -/
  returned : List Event := []
  /-- How many loads there have been. -/
  loads : Nat := 0
  /-- How loads have ended, by their numbers. -/
  outcomes : OrderedMap Nat (Except LoadError Layer) := .empty
  watches : List Watch := []

namespace Session

/-! ### Desks and schedules -/

/-- The desk with a number. -/
def desk (s : Session) : Nat → Desk
  | 0 => s.first
  | i + 1 => s.others.getD i s.first

/-- The session with another desk under a number. -/
def setDesk (s : Session) (d : Desk) : Nat → Session
  | 0 => { s with first := d }
  | i + 1 => { s with others := s.others.set i d }

/-- Change the desk with a number. -/
def modifyDesk (s : Session) (number : Nat) (f : Desk → Desk) : Session :=
  s.setDesk (f (s.desk number)) number

/-- The schedule with a number. -/
def schedule (s : Session) (number : Nat) : Schedule := s.schedules.getD number {}

/-- The session with another schedule under a number. -/
def setSchedule (s : Session) (schedule : Schedule) (number : Nat) : Session :=
  { s with schedules := s.schedules.set number schedule }

/-- Add a desk. -/
def addDesk (s : Session) (d : Desk) : Nat × Session :=
  (s.others.length + 1, { s with others := s.others ++ [d] })

/-- Add a schedule without tickers. -/
def addSchedule (s : Session) : Nat × Session :=
  (s.schedules.length, { s with schedules := s.schedules ++ [{}] })

/-- Whether a ticker still is the one of its resource. -/
def isCurrent (s : Session) (seat : Seat) (id : String) (ticker : Ticker) : Bool :=
  (s.schedule seat.schedule).tickers.get? id = some ticker

/-! ### What is due -/

/-- Note an event for a time. -/
def plan (s : Session) (due : Nat) (event : Event) : Session :=
  { s with agenda := s.agenda.add due event }

/-- Note an event for now. -/
def soon (s : Session) (event : Event) : Session := s.plan s.now event

/-- Note an event before all others of a time. -/
def planUrgent (s : Session) (due : Nat) (event : Event) : Session :=
  { s with agenda := s.agenda.addUrgent due event }

/-- Note the answer of a location, which is urgent if its load is. -/
def planReply (s : Session) (t : Task) (delay : Nat) (event : Event) : Session :=
  if t.isUrgent then s.planUrgent (s.now + delay) event else s.plan (s.now + delay) event

/-- Note what follows an errand that has been done, which is urgent if its load is. -/
def planReturn (s : Session) (t : Task) (event : Event) : Session :=
  if t.isUrgent then s.planUrgent s.now event else { s with returned := s.returned ++ [event] }

/-- Have an errand done for a load. -/
def send (s : Session) (t : Task) (errand : Errand) : Session :=
  { s with errands := s.errands ++ [(t, errand)] }

/-- What follows an errand that has been done. -/
def nextReturned? (s : Session) : Option (Event × Session) :=
  match s.returned with
  | [] => none
  | event :: returned => some (event, { s with returned })

/-- The event that is next by now, if there is one. -/
def nextDue? (s : Session) : Option (Event × Session) :=
  match s.agenda.next? with
  | some (due, event, agenda) =>
    if due ≤ s.now then some (event, { s with agenda }) else s.nextReturned?
  | none => s.nextReturned?

/-- The time at which the next event is due. -/
def nextTime? (s : Session) : Option Nat := s.agenda.next?.map Prod.fst

/-- The task of a load with a number of its own. -/
def newTask (s : Session) (desk : Nat) (id : String) (way : LoadWay) (occasion : Occasion) :
    Task × Session :=
  (⟨s.loads, desk, id, way, occasion⟩, { s with loads := s.loads + 1 })

/-! ### The course of a load -/

/-- Note how a load has ended, if anybody asks, and tell those who watch it. -/
def conclude (s : Session) (t : Task) (outcome : Except LoadError Layer) : Session :=
  if t.occasion = .ticked then s
  else
    (s.watches.filter (·.load = t.number)).foldl
      (fun s w => s.modifyDesk w.desk (·.noteFirstLoad w.provider outcome))
      { s with outcomes := s.outcomes.insert t.number outcome }

/-- Whether two loads are of one resource. -/
def competes (t : Task) (waiting : Task × Resource) : Bool :=
  waiting.1.desk = t.desk && waiting.1.id = t.id

/-- Give the turn of a load to the next load of its resource. -/
def release (s : Session) (t : Task) : Session :=
  match s.queue.find? (competes t) with
  | some (next, r) =>
    let s := { s with queue := s.queue.eraseP (competes t) }
    if next.isUrgent then { s with called := some next.number } else s.soon (.turn next r)
  | none => { s with busy := s.busy.filter (· ≠ (t.desk, t.id)) }

/-- End a load whose payload has been delivered, if there is one. -/
def finish (s : Session) (t : Task) (outcome : Except LoadError Layer)
    (report : DeliveryReport) : Session :=
  ((s.modifyDesk t.desk (·.account report)).release t).conclude t outcome

/-- End a load, or have its payload delivered first. -/
def close (s : Session) (t : Task) (ending : LoadEnding) : Session :=
  match ending.payload? with
  | none => s.finish t ending.outcome ⟨0, 0⟩
  | some _ => s.send t (.deliver ending)

/-- Do an errand, after which its load goes on. -/
def doErrand (s : Session) : Task × Errand → Session
  | (t, .useFile next) => s.planReturn t next
  | (t, .deliver ending) =>
    let (d, report) := (s.desk t.desk).handOn t.id ending
    (s.setDesk d t.desk).planReturn t (.finish t ending.outcome report)

/-- Do all errands that there are. -/
def doErrands (s : Session) : Session := s.errands.foldl doErrand { s with errands := [] }

/-- Go on with a load until it ends, a location takes its time or a file is used. -/
def proceed (s : Session) (t : Task) (r : Resource) : LoadStage → Session
  | .ended ending => s.close t ending
  | .asking question =>
    let d := (s.desk t.desk).noting question
    let (answer, delay) := d.answerOf question.location
    if d.readsFile question.location then
      (s.setDesk d t.desk).send t (.useFile (.reply t r question answer))
    else if delay = 0 then
      (s.setDesk (d.answered r answer question).1 t.desk).proceed t r
        (d.answered r answer question).2
    else (s.setDesk d t.desk).planReply t delay (.reply t r question answer)
  | .storing use =>
    let d := s.desk t.desk
    match use.fileUses d.loader.storage with
    | 0 => (s.setDesk (d.stored r use).1 t.desk).proceed t r (d.stored r use).2
    | times + 1 => s.send t (.useFile (.store t r use times))
termination_by stage => stage.stepsLeft
decreasing_by
  · exact Loader.stepsLeft_answered _ _ _ _
  · exact Loader.stepsLeft_stored _ _ _

/-- Go on with a load once a location has answered. -/
def resume (s : Session) (t : Task) (r : Resource) (question : Question)
    (answer : Except LoadError Bytes) : Session :=
  let (d, stage) := (s.desk t.desk).answered r answer question
  (s.setDesk d t.desk).proceed t r stage

/-- Go on with a load once files have been used for the store, which is to happen some more
times. -/
def resumeStore (s : Session) (t : Task) (r : Resource) (use : StoreUse) : Nat → Session
  | 0 =>
    let (d, stage) := (s.desk t.desk).stored r use
    (s.setDesk d t.desk).proceed t r stage
  | times + 1 => s.send t (.useFile (.store t r use times))

/-- Give a load its turn. -/
def enter (s : Session) (t : Task) (r : Resource) : Session :=
  s.proceed t r ((s.desk t.desk).loader.firstStage r t.way)

/-- Begin a load, which may have to wait for its turn. -/
def begin (s : Session) (t : Task) : Session :=
  match (s.desk t.desk).loader.find t.id with
  | .error e => s.conclude t (.error e)
  | .ok r =>
    let s := s.modifyDesk t.desk (·.modifyLoader (·.counting t.way))
    if s.busy.contains (t.desk, t.id) then { s with queue := s.queue ++ [(t, r)] }
    else { s with busy := (t.desk, t.id) :: s.busy }.enter t r

/-- Begin a load in the background. -/
def start (s : Session) (desk : Nat) (id : String) (occasion : Occasion) : Nat × Session :=
  let (t, s) := s.newTask desk id .full occasion
  (t.number, s.soon (.begin t))

/-! ### The course of time -/

/-- What comes of an event. -/
def handle (s : Session) : Event → Session
  | .begin t => s.begin t
  | .turn t r => s.enter t r
  | .reply t r question answer => s.resume t r question answer
  | .store t r use times => s.resumeStore t r use times
  | .finish t outcome report => s.finish t outcome report
  | .wind seat id ticker =>
    match ticker.firstTick? s.now with
    | some due => if s.isCurrent seat id ticker then s.plan due (.tick seat id ticker) else s
    | none => s
  | .tick seat id ticker =>
    if s.isCurrent seat id ticker then
      (s.start seat.desk id .ticked).2.plan (s.now + ticker.interval) (.tick seat id ticker)
    else s

/-- How many events may happen while somebody waits. -/
def patience : Nat := Nat.pow 2 62

/-- Let what is due happen until something has come about or a deadline is reached, for at most
a number of events. What is due at the deadline does not happen any more; what is due when the
thing comes about does, unless whoever waits goes on at once. -/
def runFor (atOnce : Bool) (done : Session → Bool) (deadline : Option Nat) :
    Nat → Session → Session
  | 0, s => s
  | fuel + 1, s =>
    if atOnce && done s then s
    else
      match s.nextDue? with
      | some (event, s) => runFor atOnce done deadline fuel (s.handle event)
      | none =>
        if done s then s
        else if !s.errands.isEmpty then runFor atOnce done deadline fuel s.doErrands
        else
          match s.nextTime?.filter (fun due => deadline.all (due < ·)) with
          | some due => runFor atOnce done deadline fuel { s with now := due }
          | none => { s with now := deadline.getD s.now }

/-- Wait until something has come about or a deadline is reached. -/
def runUntil (s : Session) (atOnce : Bool) (done : Session → Bool) (deadline : Option Nat) :
    Session :=
  if done s || deadline.any (· ≤ s.now) then s else runFor atOnce done deadline patience s

/-- Let what is due by now happen, at most a number of events. -/
def settle : Nat → Session → Session
  | 0, s => s
  | fuel + 1, s =>
    match s.nextDue? with
    | some (event, s) => settle fuel (s.handle event)
    | none => s

/-- Wait until files have been used a number of times, which takes no time but leaves some for
all else that is due. -/
def useFiles : Nat → Session → Session
  | 0, s => s
  | times + 1, s => useFiles times (settle patience s).doErrands

/-- Use the store of a desk, after the files that are needed for that. -/
def useStorage {ρ : Type} (s : Session) (desk : Nat) (uses : Storage → Nat)
    (f : Storage → ρ × Storage) : ρ × Session :=
  let s := s.useFiles (uses (s.desk desk).loader.storage)
  let (result, storage) := f (s.desk desk).loader.storage
  (result, s.modifyDesk desk (·.modifyLoader ({ · with storage := storage })))

/-- Let a number of seconds pass, and what is due at the last moment happen. -/
def advance (s : Session) (seconds : Nat) : Session :=
  s.runUntil false (fun _ => false) (some (s.now + 1000 * seconds + 1))

end Session

end CrossRate
