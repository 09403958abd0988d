import CrossRate.Loading.Loader
import CrossRate.Provider.Feed

/-!
# Desks

A `Desk` is a loader together with those whom it serves: observers, which note what they are
handed, and providers, which read it. `perform` does a load whose questions are answered at
once: stage by stage, then the delivery of the payload, then its account.
-/

namespace CrossRate

/-- Who is served by a desk. -/
inductive Subscriber where
  /-- Somebody who notes each payload, and may then say that it is of no use. -/
  | observer (name : String) (fails : Bool)
  /-- The provider with a number. -/
  | provider (number : Nat)
deriving DecidableEq

/-- A payload that was handed to an observer. -/
structure Delivery where
  observer : String
  resource : String
  payload : Bytes

/-- What a location has been set to answer. -/
structure SetAnswer where
  /-- The payload, or why there is none. -/
  answer : Except String Bytes
  /-- The milliseconds that the answer takes. -/
  delay : Nat := 0

/-- Where payloads come from that are not embedded. -/
inductive Supply where
  /-- From answers that are set for the texts of locations. -/
  | set (answers : OrderedMap String SetAnswer)
  /-- From the files of the machine. -/
  | files

/-- A loader with those whom it serves. -/
structure Desk where
  loader : Loader Subscriber := {}
  supply : Supply := .files
  today : Date
  providers : List FeedProvider := []
  /-- The questions that were asked, last one first. -/
  questions : List Question := []
  /-- What the observers were handed, last payload first. -/
  handed : List Delivery := []

namespace Desk

/-- A desk with the store that the settings of its loader ask for. -/
def opened (settings : LoaderSettings) (files : FileTree) (today : Date) :
    Except LoadError Desk :=
  ((Storage.opened settings.storeDirectory files).mapError .storeFailed).map fun storage =>
    { loader := { settings := settings, storage := storage }, today := today }

/-- The questions that were asked, in order. -/
def asked (d : Desk) : List Question := d.questions.reverse

/-- What the observers were handed, in order. -/
def heard (d : Desk) : List Delivery := d.handed.reverse

/-! ### Locations -/

/-- What a location answers, and how long that takes. -/
def answerOf (d : Desk) (location : Location) : Except LoadError Bytes × Nat :=
  match location, d.supply with
  | .embedded _ payload, _ => (.ok payload, 0)
  | location, .set answers =>
    match answers.get? location.print with
    | some set => (set.answer.mapError (.fetchFailed location.print), set.delay)
    | none => (.error (.fetchFailed location.print "connection refused"), 0)
  | .file path, .files =>
    ((d.loader.storage.files.read path).mapError
      (fun fault => .fetchFailed location.print fault.message), 0)
  | .web _, .files => (.error (.fetchFailed location.print "connection refused"), 0)

/-- Whether the answer of a location is read from a file of the machine. -/
def readsFile (d : Desk) (location : Location) : Bool :=
  match location, d.supply with
  | .file _, .files => true
  | _, _ => false

/-- What a location answers, however long that takes. -/
def ask (d : Desk) (location : Location) : Except LoadError Bytes := (d.answerOf location).1

/-- Set what a location answers. -/
def setAnswer (d : Desk) (location : String) (set : SetAnswer) : Desk :=
  match d.supply with
  | .set answers => { d with supply := .set (answers.insert location set) }
  | .files => d

/-! ### Providers -/

/-- Change the provider with a number. -/
def modifyProvider (d : Desk) (number : Nat) (f : FeedProvider → FeedProvider) : Desk :=
  { d with providers := d.providers.modify number f }

/-- Add a provider, whose number is that of the providers before it. -/
def addProvider (d : Desk) (p : FeedProvider) : Desk := { d with providers := d.providers ++ [p] }

/-- Change the loader. -/
def modifyLoader (d : Desk) (f : Loader Subscriber → Loader Subscriber) : Desk :=
  { d with loader := f d.loader }

def subscribe (d : Desk) (subscriber : Subscriber) (ids : List String) : Desk :=
  d.modifyLoader fun l => { l with subscriptions := l.subscriptions.add subscriber ids }

def unsubscribe (d : Desk) (subscriber : Subscriber) (ids : List String) : Desk :=
  d.modifyLoader fun l => { l with subscriptions := l.subscriptions.remove subscriber ids }

/-- Feed a provider from its resource, which need not be registered yet. -/
def attach (d : Desk) (number : Nat) : Desk :=
  match d.providers[number]? with
  | some p =>
    (d.subscribe (.provider number) [p.settings.resource]).modifyProvider number (·.connected)
  | none => d

/-- Have a provider note how its first load ended, if it failed. -/
def noteFirstLoad (d : Desk) (number : Nat) : Except LoadError Layer → Desk
  | .ok _ => d
  | .error e => d.modifyProvider number (·.withFailure e.message)

/-- Whether to connect a provider means to wait for its first load. -/
def waitsFor (d : Desk) (number : Nat) : Bool :=
  d.providers[number]?.any (·.settings.firstLoad = .blocking)

/-- Whether a query has to wait for the gate of a provider. -/
def mustWait (d : Desk) (number : Nat) (query : RateQuery) : Bool :=
  d.providers[number]?.any fun p => query.accepts p.name && !p.gate.isOpen

/-- Answer a query by a provider, which is not waited for. -/
def rate (d : Desk) (number : Nat) (query : RateQuery) : Except RateError RateRecord × Desk :=
  match d.providers[number]? with
  | some p =>
    let (answer, p) := p.rate d.today query
    (answer, d.modifyProvider number (fun _ => p))
  | none => (.error (.unavailable query.pair ""), d)

/-! ### Deliveries -/

/-- Hand a payload to a subscriber, who says whether it was of use. -/
def hand (id : String) (payload : Bytes) (d : Desk) : Subscriber → Desk × Bool
  | .observer name fails => ({ d with handed := ⟨name, id, payload⟩ :: d.handed }, !fails)
  | .provider number =>
    match d.providers[number]? with
    | some p =>
      match p.apply d.today payload with
      | (.ok _, p) => (d.modifyProvider number (fun _ => p), true)
      | (.error _, p) => (d.modifyProvider number (fun _ => p), false)
    | none => (d, false)

/-- Hand a payload to all who want it. -/
def deliver (d : Desk) (id : String) (payload : Bytes) : Desk × DeliveryReport :=
  Subscriptions.deliverTo (hand id payload) d (d.loader.subscriptions.recipients id)

/-- Take the failures of a delivery into account. -/
def account (d : Desk) (report : DeliveryReport) : Desk :=
  d.modifyLoader fun l => { l with counts.undelivered := l.counts.undelivered + report.failed }

/-- Hand on what a load has ended with. -/
def handOn (d : Desk) (id : String) (ending : LoadEnding) : Desk × DeliveryReport :=
  match ending.payload? with
  | some payload => d.deliver id payload
  | none => (d, ⟨0, 0⟩)

/-! ### Loads -/

/-- Note that a question is asked. -/
def noting (d : Desk) (question : Question) : Desk :=
  { d with questions := question :: d.questions }

@[simp] theorem asked_noting (d : Desk) (question : Question) :
  (d.noting question).asked = d.asked ++ [question]
  := List.reverse_cons

/-- Go on with a load once the location of a question has answered. -/
def answered (d : Desk) (r : Resource) (answer : Except LoadError Bytes) (question : Question) :
    Desk × LoadStage :=
  let (loader, stage) := d.loader.answered r answer question
  ({ d with loader := loader }, stage)

/-- Go on with a load by a use of the store. -/
def stored (d : Desk) (r : Resource) (use : StoreUse) : Desk × LoadStage :=
  let (loader, stage) := d.loader.stored r use
  ({ d with loader := loader }, stage)

/-- Go on with a load until it ends. -/
def complete (answer : Question → Except LoadError Bytes) (d : Desk) (r : Resource) :
    LoadStage → Desk × LoadEnding
  | .ended ending => (d, ending)
  | .asking question =>
    complete answer ((d.noting question).answered r (answer question) question).1 r
      ((d.noting question).answered r (answer question) question).2
  | .storing use => complete answer (d.stored r use).1 r (d.stored r use).2
termination_by stage => stage.stepsLeft
decreasing_by
  · exact Loader.stepsLeft_answered _ _ _ _
  · exact Loader.stepsLeft_stored _ _ _

/-- Do a load whose questions are answered at once. A location that is asked twice need not
answer the same. -/
def perform (answer : Question → Except LoadError Bytes) (d : Desk) (id : String)
    (way : LoadWay) : Except LoadError Layer × Desk :=
  match d.loader.find id with
  | .error e => (.error e, d)
  | .ok r =>
    let d := d.modifyLoader (·.counting way)
    let (d, ending) := d.complete answer r (d.loader.firstStage r way)
    let (d, report) := d.handOn id ending
    (ending.outcome, d.account report)

end Desk

end CrossRate
