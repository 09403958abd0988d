import CrossRate.Location.Url

/-!
# Faults of settings

A `SettingsFault` says what is wrong with the settings of a loader, a provider or an engine,
with the description of a resource, or with the text of a location.
-/

namespace CrossRate

/-- What is wrong with a setting. -/
inductive SettingsFault where
  /-- The text of a location is blank. -/
  | blankLocation
  /-- The text of a location is a malformed web address. -/
  | malformedLocation (text : String) (fault : UrlFault)
  /-- A property of a resource is not a period. -/
  | malformedPeriod (resource key value : String)
  | zeroRequestTimeout
  | zeroRefreshPeriod
  | blankSentinel
  | noProvider
  | unknownProvider (name : String)
  | zeroLoadTimeout
  | zeroCacheCapacity
  | unnamedProvider
  /-- A provider has no resource to load from. -/
  | unboundProvider (name : String)
  | zeroProviderTimeout (name : String)

namespace SettingsFault

def message : SettingsFault → String
  | blankLocation => "empty resource location"
  | malformedLocation text fault => text ++ ": " ++ fault.message
  | malformedPeriod resource key value =>
    resource ++ ": invalid " ++ key ++ " " ++ Text.quoted value
  | zeroRequestTimeout => "Request timeout cannot be 0"
  | zeroRefreshPeriod => "Default refresh period cannot be 0"
  | blankSentinel => "Rejection sentinels cannot be blank"
  | noProvider => "At least one provider must be enabled"
  | unknownProvider name => "Unknown provider: " ++ name
  | zeroLoadTimeout => "Load timeout cannot be 0"
  | zeroCacheCapacity => "Cache max entries cannot be 0 when caching is enabled"
  | unnamedProvider => "Provider name cannot be empty"
  | unboundProvider name => "Provider " ++ name ++ " has no resource id"
  | zeroProviderTimeout name => "Provider " ++ name ++ " load timeout cannot be 0"

end SettingsFault

end CrossRate
