import CrossRate.Calendar.Period
import CrossRate.Loading.Error
import CrossRate.OrderedMap

/-!
# Resources

A `Resource` is data that is loaded under an identifier: where it is to be found, and when
it is to be refreshed. `validate` checks the periods among its properties.
-/

namespace CrossRate

/-- When a resource is refreshed. -/
inductive RefreshPolicy where
  /-- Never over the network; it is loaded once from what is at hand. -/
  | never
  /-- Once, when it is registered. -/
  | onStartup
  /-- When it is registered, and then periodically. -/
  | scheduled
  /-- Not before somebody asks for it. -/
  | onDemand
deriving DecidableEq

namespace RefreshPolicy

/-- The name of a policy in settings. -/
def name : RefreshPolicy → String
  | never => "NEVER"
  | onStartup => "ON_STARTUP"
  | scheduled => "SCHEDULED"
  | onDemand => "LAZY"

def print : RefreshPolicy → String
  | onStartup => "ONSTARTUP"
  | policy => policy.name

/-- The policy of a name. -/
def ofName? (name : String) : Option RefreshPolicy :=
  [never, onStartup, scheduled, onDemand].find? (·.name == name)

end RefreshPolicy

/-- Data that is loaded under an identifier. -/
structure Resource where
  id : String
  policy : RefreshPolicy := .onStartup
  /-- Where it is looked for first, in this order. -/
  remotes : List Location := []
  /-- What stands in for it when nothing else is at hand. -/
  backup : Option Location := none
  properties : OrderedMap String String := .empty

namespace Resource

/-- The property for the time between two refreshes. -/
def periodKey : String := "period"

/-- The property for the time before the refreshes start. -/
def delayKey : String := "delay"

/-- The seconds that a property gives, if it is a period. -/
def seconds? (r : Resource) (key : String) : Option Nat :=
  (r.properties.get? key).bind Period.parse?

/-- The seconds between two refreshes. -/
def period? (r : Resource) : Option Nat := r.seconds? periodKey

/-- The seconds before the refreshes start. -/
def delay? (r : Resource) : Option Nat := r.seconds? delayKey

/-- Check that a property is a period, if it is there. -/
def checkPeriod (r : Resource) (key : String) : Except LoadError Unit :=
  match r.properties.get? key with
  | none => .ok ()
  | some value =>
    if (Period.parse? value).isSome then .ok ()
    else .error (.invalidSettings (.malformedPeriod r.id key value))

/-- Check the properties that are periods. -/
def validate (r : Resource) : Except LoadError Unit := do
  r.checkPeriod periodKey
  r.checkPeriod delayKey

end Resource

end CrossRate
