import CrossRate.Catalog.Basic
import CrossRate.Settings.Loader
import CrossRate.Text.Search

/-!
# Settings of engines

Which providers an engine asks, how long it waits for their data, and what it remembers of
their answers.
-/

namespace CrossRate

/-- The settings of an engine. -/
structure EngineSettings where
  /-- The names of the providers in the order in which they are asked. -/
  providers : List String := Catalog.defaultChain
  /-- The seconds that the first query to a provider waits for its data. -/
  loadTimeout : Nat := 30
  /-- Whether answers are remembered. -/
  remembers : Bool := true
  /-- The milliseconds for which an answer is remembered. -/
  lifetime : Nat := 60000
  /-- The number of answers that are remembered. -/
  capacity : Nat := 10000
  loader : LoaderSettings := {}

namespace EngineSettings

/-- Read settings from JSON. -/
def ofJson? (json : Json) : Option EngineSettings := do
  let standard : EngineSettings := {}
  match ← json.record? ["providers", "load_timeout_secs", "use_cache", "cache_ttl_ms",
      "cache_max_entries", "loader"] with
  | [providers, timeout, remembers, lifetime, capacity, loader] =>
    return {
      providers := ← Json.orDefault standard.providers Json.asStrings? providers
      loadTimeout := ← Json.orDefault standard.loadTimeout Json.natural64? timeout
      remembers := ← Json.orDefault standard.remembers Json.asBool? remembers
      lifetime := ← Json.orDefault standard.lifetime Json.natural64? lifetime
      capacity := ← Json.orDefault standard.capacity Json.natural64? capacity
      loader := ← Json.orDefault standard.loader LoaderSettings.ofJson? loader }
  | _ => none

/-- Write settings as JSON. -/
def toJson (s : EngineSettings) : Json :=
  .object [("providers", .ofList .string s.providers),
    ("load_timeout_secs", .ofNat s.loadTimeout), ("use_cache", .bool s.remembers),
    ("cache_ttl_ms", .ofNat s.lifetime), ("cache_max_entries", .ofNat s.capacity),
    ("loader", s.loader.toJson)]

/-- The names in a list between commas, in upper case. -/
def namesIn (text : String) : List String :=
  ((Text.splitAt ',' text).map (fun name => Text.upper (Text.trim name))).filter (!·.isEmpty)

/-- The settings with those that the environment gives. -/
def withEnvironment (s : EngineSettings) (env : Environment) : EngineSettings :=
  let names := ((env.get? "PROVIDERS").map namesIn).getD []
  { s with
    loader := s.loader.withEnvironment env
    providers := if names.isEmpty then s.providers else names
    loadTimeout := (env.natural? "LOAD_TIMEOUT_SECS").getD s.loadTimeout }

/-- Check the settings. -/
def validate (s : EngineSettings) : Except SettingsFault Unit := do
  s.loader.validate
  if s.providers.isEmpty then throw .noProvider
  match s.providers.find? (!Catalog.isKnown ·) with
  | some name => throw (.unknownProvider name)
  | none => pure ()
  if s.loadTimeout = 0 then throw .zeroLoadTimeout
  if s.remembers && s.capacity = 0 then throw .zeroCacheCapacity

end EngineSettings

end CrossRate
