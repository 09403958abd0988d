import CrossRate.Json.Basic
import CrossRate.Settings.Environment
import CrossRate.Settings.Fault
import CrossRate.Text.Blank

/-!
# Settings of loaders

Where a loader keeps what it has fetched, how long it waits, and what it takes for a
rejection. `ofJson?` reads settings that are written down, `withEnvironment` changes them by
the environment, and `validate` checks them.
-/

namespace CrossRate

/-- The settings of a loader. -/
structure LoaderSettings where
  /-- The directory of the store of payloads, which is kept in memory if there is none. -/
  storeDirectory : Option String := some "/tmp/pivotfx-cache"
  /-- The seconds after which a request is given up. -/
  requestTimeout : Nat := 30
  /-- The seconds between refreshes of a scheduled resource that does not say. -/
  defaultPeriod : Nat := 10800
  /-- What the first line of a page for rejected requests contains. -/
  sentinels : List String := ["Request Rejected"]
  /-- Whether the network must not be used. -/
  offline : Bool := false
deriving DecidableEq

namespace LoaderSettings

/-- Read a directory from JSON, null standing for none. -/
def directory? : Json → Option (Option String)
  | .null => some none
  | .string path => some (some path)
  | _ => none

/-- Read settings from JSON. -/
def ofJson? (json : Json) : Option LoaderSettings := do
  let standard : LoaderSettings := {}
  match ← json.record? ["cache_dir", "request_timeout_secs", "default_period_secs",
      "rejection_sentinels", "offline"] with
  | [directory, timeout, period, sentinels, offline] =>
    return {
      storeDirectory := ← Json.orDefault standard.storeDirectory directory? directory
      requestTimeout := ← Json.orDefault standard.requestTimeout Json.natural64? timeout
      defaultPeriod := ← Json.orDefault standard.defaultPeriod Json.natural64? period
      sentinels := ← Json.orDefault standard.sentinels Json.asStrings? sentinels
      offline := ← Json.orDefault standard.offline Json.asBool? offline }
  | _ => none

/-- Write settings as JSON. -/
def toJson (s : LoaderSettings) : Json :=
  .object [("cache_dir", .ofOption .string s.storeDirectory),
    ("request_timeout_secs", .ofNat s.requestTimeout),
    ("default_period_secs", .ofNat s.defaultPeriod),
    ("rejection_sentinels", .ofList .string s.sentinels), ("offline", .bool s.offline)]

/-- Whether the value of a variable says yes. -/
def saysYes (text : String) : Bool := ["1", "true", "yes"].contains (Text.lowerAscii text)

/-- The settings with those that the environment gives. -/
def withEnvironment (s : LoaderSettings) (env : Environment) : LoaderSettings :=
  { s with
    storeDirectory := match env.get? "CACHE_DIR" with
      | some path => if path.isEmpty then none else some path
      | none => s.storeDirectory
    requestTimeout := (env.natural? "REQUEST_TIMEOUT_SECS").getD s.requestTimeout
    offline := ((env.get? "OFFLINE").map saysYes).getD s.offline }

/-- Check the settings. -/
def validate (s : LoaderSettings) : Except SettingsFault Unit :=
  if s.requestTimeout = 0 then .error .zeroRequestTimeout
  else if s.defaultPeriod = 0 then .error .zeroRefreshPeriod
  else if s.sentinels.any (fun t => (Text.trim t).isEmpty) then .error .blankSentinel
  else .ok ()

end LoaderSettings

end CrossRate
