import CrossRate.Loading.Counts
import CrossRate.Loading.Resource
import CrossRate.Loading.Storage
import CrossRate.Loading.Subscriptions
import CrossRate.Settings.Loader

/-!
# Loaders

A `Loader` loads resources layer by layer: each remote location in order, then the store,
then the backup. A load goes from one `Question` to a location and one `StoreUse` to the next
until it has an ending: `firstStage` begins it, and `answered` and `stored` give the stage
after the answer to a question and after a use of the store. How long these take is not its
concern.
-/

namespace CrossRate

/-- What may serve a load. -/
inductive Layer where
  | remote
  | store
  | backup
deriving DecidableEq

namespace Layer

def print : Layer → String
  | remote => "remote"
  | store => "cache"
  | backup => "backup"

/-- Whether the payload was fetched just now. -/
def isFresh (layer : Layer) : Bool := layer = .remote

end Layer

/-- What is asked of a loader. -/
inductive LoadWay where
  /-- The payload of the first layer that has one. -/
  | full
  /-- The same without the network. -/
  | atHand
  /-- The payload of the backup. -/
  | restore
deriving DecidableEq

/-- How a load has ended. -/
inductive LoadEnding where
  /-- A layer has served it. -/
  | served (layer : Layer) (payload : Bytes)
  | failed (error : LoadError)

namespace LoadEnding

/-- The payload that is handed on. -/
def payload? : LoadEnding → Option Bytes
  | served _ payload => some payload
  | failed _ => none

/-- The layer that served, or why none did. -/
def outcome : LoadEnding → Except LoadError Layer
  | served layer _ => .ok layer
  | failed e => .error e

end LoadEnding

/-- What a load asks for. The reasons are those of the layers that failed before. -/
inductive Question where
  /-- A remote location is asked; others are left. -/
  | remote (location : Location) (others : List Location) (reasons : List String)
  /-- The backup is asked. -/
  | backup (location : Location) (reasons : List String)
  /-- The backup is asked, and nothing else would do. -/
  | restore (location : Location)

namespace Question

/-- The location that is asked. -/
def location : Question → Location
  | remote location .. | backup location _ | restore location => location

/-- Whether one of the remote locations of a resource is asked. -/
def isRemote : Question → Bool
  | remote .. => true
  | _ => false

/-- How many steps a load may still take, this question being one. -/
def stepsLeft : Question → Nat
  | remote _ others _ => others.length + 3
  | backup .. | restore _ => 1

end Question

/-- What a load does with the store. -/
inductive StoreUse where
  /-- Look for a payload. The reasons are those of the layers that failed before. -/
  | look (reasons : List String)
  /-- Keep the payload of a remote location. -/
  | keep (payload : Bytes)

namespace StoreUse

/-- How many steps a load may still take, this use being one. -/
def stepsLeft : StoreUse → Nat
  | look _ => 2
  | keep _ => 1

/-- How often this uses the files of a machine, if those are the store. -/
def fileUses : StoreUse → Storage → Nat
  | look _, s => s.usesToRead
  | keep _, s => s.usesToWrite

end StoreUse

/-- How far a load has come. -/
inductive LoadStage where
  | asking (question : Question)
  | storing (use : StoreUse)
  | ended (ending : LoadEnding)

namespace LoadStage

/-- How many steps a load may still take. -/
def stepsLeft : LoadStage → Nat
  | asking question => question.stepsLeft
  | storing use => use.stepsLeft
  | ended _ => 0

end LoadStage

/-- A loader of resources for subscribers. -/
structure Loader (σ : Type) where
  settings : LoaderSettings := {}
  /-- The resources by their identifiers. -/
  resources : OrderedMap String Resource := .empty
  subscriptions : Subscriptions σ := .empty
  storage : Storage := {}
  counts : LoadCounts := {}

namespace Loader

variable {σ : Type}

/-! ### Resources -/

/-- Register a resource under an identifier that is still free. -/
def register (l : Loader σ) (r : Resource) : Except LoadError (Loader σ) := do
  r.validate
  if l.resources.contains r.id then throw (.alreadyRegistered r.id)
  return { l with resources := l.resources.insert r.id r }

def isRegistered (l : Loader σ) (id : String) : Bool := l.resources.contains id

/-- The resource of an identifier. -/
def find (l : Loader σ) (id : String) : Except LoadError Resource :=
  match l.resources.get? id with
  | some r => .ok r
  | none => .error (.unknownResource id)

/-- When a resource is refreshed by this loader: without the network only on demand. -/
def policyFor (l : Loader σ) (r : Resource) : RefreshPolicy :=
  match r.policy with
  | .onDemand => .onDemand
  | policy => if l.settings.offline then .never else policy

/-! ### Payloads -/

/-- The first line of a payload, as text. -/
def firstLine (payload : Bytes) : String :=
  Text.decodeLossy (payload.takeWhile (· ≠ Text.byte '\n'))

/-- Check that the payload of a location is neither blank nor a page for rejected
requests. -/
def checkPayload (s : LoaderSettings) (location : Location) (payload : Bytes) :
    Except LoadError Bytes :=
  if payload.all Text.isAsciiBlank then
    .error (.fetchFailed location.print "empty payload")
  else if s.sentinels.any (fun t => Text.occursIn t.toList (firstLine payload).toList) then
    .error (.rejected location.print)
  else .ok payload

/-! ### Stages -/

/-- The loader after a load that was served by the store. -/
def withStoreHit (l : Loader σ) : Loader σ :=
  { l with counts.fromStore := l.counts.fromStore + 1 }

/-- The loader after a load that nothing served. -/
def withFailedLoad (l : Loader σ) : Loader σ :=
  { l with counts.failed := l.counts.failed + 1 }

/-- End a load that no layer has served. -/
def giveUp (l : Loader σ) (r : Resource) (reasons : List String) : Loader σ × LoadStage :=
  (l.withFailedLoad, .ended (.failed (.unavailable r.id reasons)))

/-- Go on to the backup. -/
def tryBackup (l : Loader σ) (r : Resource) (reasons : List String) : Loader σ × LoadStage :=
  match r.backup with
  | some location => (l, .asking (.backup location reasons))
  | none => l.giveUp r (reasons ++ ["no backup location"])

/-- Look for a payload in the store, or else go on. -/
def tryStore (l : Loader σ) (r : Resource) (reasons : List String) : Loader σ × LoadStage :=
  match l.storage.read r.id with
  | .ok (some (b :: bs)) => (l.withStoreHit, .ended (.served .store (b :: bs)))
  | .ok _ => l.tryBackup r (reasons ++ ["no cached data"])
  | .error fault => l.tryBackup r (reasons ++ [(LoadError.storeFailed fault).message])

/-- Go on to the remote locations that are left, or else to the store. -/
def tryRemotes (reasons : List String) : List Location → LoadStage
  | location :: others => .asking (.remote location others reasons)
  | [] => .storing (.look reasons)

/-- The way in which this loader does what is asked: without the network it loads locally. -/
def wayOf (l : Loader σ) (way : LoadWay) : LoadWay :=
  if way = .full && l.settings.offline then .atHand else way

/-- Count a load that is begun; to restore the backup is none. -/
def counting (l : Loader σ) (way : LoadWay) : Loader σ :=
  match way with
  | .restore => l
  | _ => { l with counts.begun := l.counts.begun + 1 }

/-- The first stage of a load. -/
def firstStage (l : Loader σ) (r : Resource) (way : LoadWay) : LoadStage :=
  match l.wayOf way with
  | .full => tryRemotes [] r.remotes
  | .atHand => .storing (.look [])
  | .restore =>
    match r.backup with
    | some location => .asking (.restore location)
    | none => .ended (.failed (.unavailable r.id ["no backup location"]))

/-- The loader after a remote location has failed. -/
def withRemoteFailure (l : Loader σ) : LoadError → Loader σ
  | .rejected _ => { l with counts.rejected := l.counts.rejected + 1 }
  | _ => { l with counts.unfetched := l.counts.unfetched + 1 }

/-- The loader after a remote location has served a resource: its payload is kept. -/
def withRemoteHit (l : Loader σ) (r : Resource) (payload : Bytes) : Loader σ :=
  { l with
    storage := l.storage.keeping r.id payload
    counts.fromRemote := l.counts.fromRemote + 1 }

/-- The stage after the location of a question has answered. -/
def answered (l : Loader σ) (r : Resource) (answer : Except LoadError Bytes) :
    Question → Loader σ × LoadStage
  | .remote location others reasons =>
    match answer.bind (checkPayload l.settings location) with
    | .ok payload => (l, .storing (.keep payload))
    | .error e => (l.withRemoteFailure e, tryRemotes (reasons ++ [e.message]) others)
  | .backup _ reasons =>
    match answer with
    | .ok payload =>
      ({ l with counts.fromBackup := l.counts.fromBackup + 1 }, .ended (.served .backup payload))
    | .error e => l.giveUp r (reasons ++ [e.message])
  | .restore _ =>
    match answer with
    | .ok payload => (l, .ended (.served .backup payload))
    | .error e => (l, .ended (.failed e))

/-- The stage after a use of the store. -/
def stored (l : Loader σ) (r : Resource) : StoreUse → Loader σ × LoadStage
  | .look reasons => l.tryStore r reasons
  | .keep payload => (l.withRemoteHit r payload, .ended (.served .remote payload))

/-! ### Each step leaves fewer to take -/

theorem stepsLeft_tryBackup (l : Loader σ) (r : Resource) (reasons : List String) :
  (l.tryBackup r reasons).2.stepsLeft ≤ 1
  := by
  unfold tryBackup
  split <;> simp [LoadStage.stepsLeft, Question.stepsLeft, giveUp]

theorem stepsLeft_tryRemotes (reasons : List String) (locations : List Location) :
  (tryRemotes reasons locations).stepsLeft ≤ locations.length + 2
  := by
  cases locations <;> simp [tryRemotes, LoadStage.stepsLeft, Question.stepsLeft, StoreUse.stepsLeft]

/-- After an answer fewer steps are left. -/
theorem stepsLeft_answered (l : Loader σ) (r : Resource) (answer : Except LoadError Bytes)
    (question : Question) :
  (l.answered r answer question).2.stepsLeft < question.stepsLeft
  := by
  cases question with
  | remote location others reasons =>
    simp only [answered]
    split
    · simp [LoadStage.stepsLeft, Question.stepsLeft, StoreUse.stepsLeft]
    · rename_i e _
      have := stepsLeft_tryRemotes (reasons ++ [e.message]) others
      simp only [Question.stepsLeft]
      omega
  | backup location reasons =>
    simp only [answered]
    split <;> simp [LoadStage.stepsLeft, Question.stepsLeft, giveUp]
  | restore location =>
    simp only [answered]
    split <;> simp [LoadStage.stepsLeft, Question.stepsLeft]

/-- After a use of the store fewer steps are left. -/
theorem stepsLeft_stored (l : Loader σ) (r : Resource) (use : StoreUse) :
  (l.stored r use).2.stepsLeft < use.stepsLeft
  := by
  cases use with
  | look reasons =>
    simp only [stored, tryStore]
    split
    · simp [LoadStage.stepsLeft, StoreUse.stepsLeft]
    · exact Nat.lt_succ_of_le (stepsLeft_tryBackup l r _)
    · exact Nat.lt_succ_of_le (stepsLeft_tryBackup l r _)
  | keep payload => simp [stored, LoadStage.stepsLeft, StoreUse.stepsLeft]

end Loader

end CrossRate
