import CrossRate.Provider.Chain
import CrossRate.Runner.Basic

/-!
# Providers in a world

A provider takes part in the loads of a desk: it is connected to its resource (`connect`), or
adopts the first load of a resource that was registered for it (`adopt`). A query to a provider
waits for that load first (`rate`).
-/

namespace CrossRate.Runner

variable {ω η : Type} (h : Runner ω η)

/-- Have a provider note how its first load ends, and wait for that if its settings say so. -/
def track (number : Nat) (load : η) (w : ω) : ω :=
  if (h.desk w).waitsFor number then
    let (outcome, w) := h.await load w
    h.modifyDesk (·.noteFirstLoad number outcome) w
  else h.watch load number w

/-- Load the resource of a provider for the first time. -/
def loadFirst (number : Nat) (w : ω) : ω :=
  match (h.desk w).providers[number]? with
  | some p =>
    let (load, w) := h.start p.settings.resource w
    h.track number load w
  | none => w

/-- Feed a provider from its resource, which has to be registered, and load that. -/
def connect (number : Nat) (w : ω) : Except RateError Unit × ω :=
  match (h.desk w).providers[number]? with
  | some p =>
    if (h.loader w).isRegistered p.settings.resource then
      (.ok (), h.loadFirst number (h.modifyDesk (·.attach number) w))
    else (.error (.loading (.unknownResource p.settings.resource)), w)
  | none => (.ok (), w)

/-- Take what has come of registering its resource for the first load of a provider. A resource
that is not loaded yet is loaded now. -/
def adopt (number : Nat) (registration : Registration η) (w : ω) : ω :=
  match registration with
  | .loaded outcome => h.modifyDesk (·.noteFirstLoad number outcome) w
  | .started load => h.track number load w
  | .deferred => h.loadFirst number w

/-- The answer of a provider to a query, which waits if there is something to wait for. -/
def rate (number : Nat) (query : RateQuery) (w : ω) : Except RateError RateRecord × ω :=
  let w := if (h.desk w).mustWait number query then h.awaitGate number w else w
  let (answer, desk) := (h.desk w).rate number query
  (answer, h.setDesk desk w)

/-- The answer of a provider for the opposite of a record. -/
def reversed (number : Nat) (r : RateRecord) (w : ω) : Except RateError RateRecord × ω :=
  match (h.desk w).providers[number]? with
  | some p => h.rate number (p.reversal r) w
  | none => (.error (.unavailable r.reversal.pair ""), w)

end CrossRate.Runner
