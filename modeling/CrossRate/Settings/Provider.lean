import CrossRate.Json.Basic
import CrossRate.Rate.Error
import CrossRate.Rate.Query

/-!
# Settings of providers

A provider has a name, a resource that it is fed from and a shape that it expects of its
feed. Its first load either is waited for or goes on in the background.
-/

namespace CrossRate

/-- How a provider does its first load. -/
inductive FirstLoad where
  /-- Connecting waits for it. -/
  | blocking
  /-- Queries wait for it. -/
  | background
deriving DecidableEq

namespace FirstLoad

def print : FirstLoad → String
  | blocking => "blocking"
  | background => "background"

/-- The way of a name. -/
def ofName? (name : String) : Option FirstLoad :=
  [blocking, background].find? (·.print == name)

end FirstLoad

/-- The settings of a provider. -/
structure ProviderSettings where
  name : String
  /-- The resource that feeds the provider. -/
  resource : String
  /-- What the feed quotes against, and how. -/
  shape : FeedShape
  firstLoad : FirstLoad
  /-- The seconds that a query waits for the first load. -/
  loadTimeout : Nat

namespace ProviderSettings

/-- Read settings from JSON. -/
def ofJson? (json : Json) : Option ProviderSettings := do
  match ← json.record? ["name", "resource_id", "pivot", "strategy", "initial_load",
      "load_timeout_secs"] with
  | [name, resource, pivot, layout, firstLoad, timeout] =>
    return {
      name := ← (← name).asString?
      resource := ← (← resource).asString?
      shape := ⟨← RateQuery.currency? (← pivot), ← Layout.ofName? (← (← layout).variant?)⟩
      firstLoad := ← FirstLoad.ofName? (← (← firstLoad).variant?)
      loadTimeout := ← (← timeout).natural64? }
  | _ => none

/-- Write settings as JSON. -/
def toJson (s : ProviderSettings) : Json :=
  .object [("name", .string s.name), ("resource_id", .string s.resource),
    ("pivot", .string s.shape.pivot.code), ("strategy", .string s.shape.layout.print),
    ("initial_load", .string s.firstLoad.print), ("load_timeout_secs", .ofNat s.loadTimeout)]

/-- Check the settings. -/
def validate (s : ProviderSettings) : Except SettingsFault Unit :=
  if (Text.trim s.name).isEmpty then .error .unnamedProvider
  else if (Text.trim s.resource).isEmpty then .error (.unboundProvider s.name)
  else if s.loadTimeout = 0 then .error (.zeroProviderTimeout s.name)
  else .ok ()

end ProviderSettings

end CrossRate
