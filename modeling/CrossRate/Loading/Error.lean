import CrossRate.FileTree
import CrossRate.Location.Basic

/-!
# Failures of loading

A `LoadError` says why a resource was not registered or not loaded. Some of the failures
are transient: another attempt may succeed.
-/

namespace CrossRate

/-- Why a store of payloads failed. -/
inductive StorageFault where
  | unreadable
  | full
  | files (fault : FileFault)

namespace StorageFault

def message : StorageFault → String
  | unreadable => "unreadable"
  | full => "disk full"
  | files fault => fault.message

end StorageFault

/-- Why a resource was not registered or loaded. -/
inductive LoadError where
  /-- Every layer failed; the reasons stand in the order of the attempts. -/
  | unavailable (resource : String) (reasons : List String)
  | unknownResource (resource : String)
  | alreadyRegistered (resource : String)
  /-- A location could not be fetched. -/
  | fetchFailed (location : String) (reason : String)
  /-- The server answered with its page for rejected requests. -/
  | rejected (location : String)
  /-- The store of payloads failed. -/
  | storeFailed (fault : StorageFault)
  | invalidSettings (fault : SettingsFault)

namespace LoadError

def message : LoadError → String
  | unavailable resource reasons =>
    "Resource unavailable: " ++ resource ++ " (" ++ "; ".intercalate reasons ++ ")"
  | unknownResource resource => "Unknown resource: " ++ resource
  | alreadyRegistered resource => "Resource already registered: " ++ resource
  | fetchFailed location reason => "Fetch failed for " ++ location ++ ": " ++ reason
  | rejected location => "Request rejected by " ++ location
  | storeFailed fault => "Resource cache error: " ++ fault.message
  | invalidSettings fault => "Invalid configuration: " ++ fault.message

/-- Whether a later attempt may succeed. -/
def isTransient : LoadError → Bool
  | unavailable .. | fetchFailed .. | rejected .. | storeFailed .. => true
  | unknownResource .. | alreadyRegistered .. | invalidSettings .. => false

end LoadError

end CrossRate
