import CrossRate.Desk
import CrossRate.Schedule

/-!
# Runners

A `Runner` says how the loads of a desk are run in a world: which of them is waited for, and
what goes on meanwhile. Whatever the runner, registering a resource does what the policy of the
resource asks for (`register`), and a provider learns how its first load has ended (`connect`,
`follow`).
-/

namespace CrossRate

/-- How the loads of a desk with a schedule are run in a world. -/
structure Runner (ω η : Type) where
  desk : ω → Desk
  setDesk : Desk → ω → ω
  schedule : ω → Schedule
  setSchedule : Schedule → ω → ω
  /-- Do a load and wait for its end. -/
  load : String → LoadWay → ω → Except LoadError Layer × ω
  /-- Begin a full load in the background. -/
  start : String → ω → η × ω
  /-- Wait for the end of a load in the background. -/
  await : η → ω → Except LoadError Layer × ω
  /-- Have a provider note how a load in the background ends. -/
  watch : η → Nat → ω → ω
  /-- Have the ticker of a resource tick. -/
  wind : String → Ticker → ω → ω
  /-- Wait until the gate of a provider is released or the provider need not be waited for any
  longer. -/
  awaitGate : Nat → ω → ω

/-- What has come of registering a resource. -/
inductive Registration (η : Type) where
  /-- It was loaded at once. -/
  | loaded (outcome : Except LoadError Layer)
  /-- It is loaded in the background. -/
  | started (load : η)
  /-- It is not loaded yet. -/
  | deferred

namespace Runner

variable {ω η : Type} (h : Runner ω η)

/-- Change the desk. -/
def modifyDesk (f : Desk → Desk) (w : ω) : ω := h.setDesk (f (h.desk w)) w

/-- The loader of the desk. -/
def loader (w : ω) : Loader Subscriber := (h.desk w).loader

/-! ### Resources -/

/-- Refresh a resource periodically from now on. -/
def refresh (r : Resource) (w : ω) : ω :=
  let schedule := h.schedule w
  let settings := (h.loader w).settings
  h.wind r.id (schedule.tickerFor settings r) (h.setSchedule (schedule.start settings r) w)

/-- Stop refreshing resources. -/
def shutdown (w : ω) : ω := h.setSchedule (h.schedule w).stop w

/-- Do what the policy of a registered resource asks for. -/
def follow (r : Resource) (w : ω) : Registration η × ω :=
  match (h.loader w).policyFor r with
  | .never =>
    let (outcome, w) := h.load r.id .atHand w
    (.loaded outcome, w)
  | .onStartup =>
    let (load, w) := h.start r.id w
    (.started load, w)
  | .scheduled =>
    let (load, w) := h.start r.id w
    (.started load, h.refresh r w)
  | .onDemand => (.deferred, w)

/-- Register a resource and do what its policy asks for. -/
def register (r : Resource) (w : ω) : Except LoadError (Registration η) × ω :=
  match (h.loader w).register r with
  | .error e => (.error e, w)
  | .ok loader =>
    let (registration, w) := h.follow r (h.modifyDesk (fun d => { d with loader := loader }) w)
    (.ok registration, w)

/-- Register the resources that are new, and refresh the others if their policy asks for
it. -/
def registerAll : List Resource → ω → Except LoadError Unit × ω
  | [], w => (.ok (), w)
  | r :: rest, w =>
    if (h.loader w).isRegistered r.id then
      registerAll rest (if (h.loader w).policyFor r = .scheduled then h.refresh r w else w)
    else
      match h.register r w with
      | (.error e, w) => (.error e, w)
      | (.ok _, w) => registerAll rest w

/-- Put a new schedule in place of the one there is. -/
def reconfigure (resources : List Resource) (w : ω) : Except LoadError Unit × ω :=
  h.registerAll resources (h.shutdown w)

end Runner

end CrossRate
