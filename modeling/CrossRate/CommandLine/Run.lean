import CrossRate.CommandLine.Arguments
import CrossRate.Engine
import CrossRate.Json.Printer
import CrossRate.Json.Reader
import CrossRate.Runner.AtOnce

/-!
# The command line

`CommandLine.run` looks up one rate and reports it. Its result depends only on the arguments,
the environment, the files of the machine and the day.
-/

namespace CrossRate.CommandLine

/-- What a command leaves behind. -/
structure Result where
  exitCode : UInt8
  /-- What it writes to standard output. -/
  output : String := ""
  /-- What it writes to standard error. -/
  errors : String := ""

/-! ### Failures -/

/-- Why no rate is reported. -/
inductive Failure where
  | unreadableSettings (path reason : String)
  | malformedSettings (path : String)
  | invalidSettings (fault : SettingsFault)
  | invalidBase (e : InvalidCurrencyCode)
  | invalidTerm (e : InvalidCurrencyCode)
  /-- The engine could not be set up. -/
  | noEngine (e : RateError)
  | noRate (query : RateQuery) (e : RateError)
  | noReverse (e : RateError)

/-- The messages of what lies behind a failed load. -/
def loadCauses : LoadError → List String
  | .storeFailed fault => [fault.message]
  | _ => []

/-- The messages of what lies behind a failed query. -/
def rateCauses : RateError → List String
  | .loading e => e.message :: loadCauses e
  | _ => []

namespace Failure

def message : Failure → String
  | unreadableSettings path _ => "reading " ++ path
  | malformedSettings path => "parsing " ++ path
  | invalidSettings fault => "Configuration error: " ++ fault.message
  | invalidBase _ => "base currency"
  | invalidTerm _ => "term currency"
  | noEngine e => e.message
  | noRate query _ => "no rate for " ++ query.print
  | noReverse _ => "reverse rate"

/-- The messages of what lies behind a failure, nearest first. -/
def causes : Failure → List String
  | unreadableSettings _ reason => [reason]
  | malformedSettings _ => ["malformed settings"]
  | invalidSettings _ => []
  | invalidBase e | invalidTerm e => [e.message]
  | noEngine e => rateCauses e
  | noRate _ e | noReverse e => e.message :: rateCauses e

/-- The lines of causes, which are numbered if there are several. -/
def causeLines (causes : List String) : List String :=
  match causes with
  | [cause] => ["    " ++ cause]
  | causes => causes.zipIdx.map fun (cause, i) => "    " ++ toString i ++ ": " ++ cause

/-- The report of a failure. -/
def report (f : Failure) : String :=
  "Error: " ++ f.message ++ "\n"
    ++ (if f.causes.isEmpty then ""
      else "\nCaused by:\n" ++ String.join ((causeLines f.causes).map (· ++ "\n")))

def result (f : Failure) : Result := { exitCode := 1, errors := f.report }

end Failure

/-! ### Help -/

/-- How the command is used. -/
def usage : String := "Usage: fxrate [OPTIONS] <BASE> <TERM>\n"

/-- What the command does and which arguments it takes. -/
def help : String :=
  "Resolve exchange rates from ECB and IMF reference data\n\n" ++ usage ++ "
Arguments:
  <BASE>  Currency to convert from
  <TERM>  Currency to convert to

Options:
  -d, --date <DATE>           Day the rate must be valid for (YYYY-MM-DD); latest if omitted
  -p, --provider <PROVIDERS>  Restrict to a provider (repeatable)
      --offline               Use cached or bundled data only
  -c, --config <CONFIG>       JSON engine configuration file
      --json                  Print the result as JSON
      --reverse               Also look up the rate in the opposite direction
      --stats                 Include provider and loader statistics
      --log-json              Emit logs as JSON
  -h, --help                  Print help
"

/-- The result for arguments that are not a request. -/
def refused : Refusal → Result
  | .help => { exitCode := 0, output := help }
  | .misuse => { exitCode := 2, errors := usage }

/-! ### The report -/

/-- What is reported of a rate. -/
structure Report where
  rate : RateRecord
  reversed : Option RateRecord
  providers : Option (List ProviderStats)

namespace Report

/-- A text with spaces after it, up to a width. -/
def padded (width : Nat) (text : String) : String :=
  text ++ String.ofList (List.replicate (width - text.length) ' ')

/-- The line of a provider. -/
def statsLine (s : ProviderStats) : String :=
  padded 12 s.name ++ " " ++ padded 14 s.stage.print ++ " days="
    ++ padded 5 (toString s.table.days) ++ " latest="
    ++ (s.table.latest.map Date.print).getD "-" ++ " loads=" ++ toString s.successes
    ++ " failures=" ++ toString s.failures

/-- The lines of a report. -/
def lines (r : Report) : List String :=
  r.rate.print :: r.rate.chain.map (fun link => "  via " ++ link.print)
    ++ r.reversed.toList.map RateRecord.print
    ++ (r.providers.getD []).map statsLine

/-- Write a report as JSON. -/
def toJson (r : Report) : Json :=
  .object ([("rate", r.rate.toJson)]
    ++ r.reversed.toList.map (fun reversed => ("reversed", reversed.toJson))
    ++ r.providers.toList.map (fun stats => ("providers", .ofList ProviderStats.toJson stats)))

/-- The text of a report, in lines or as JSON. -/
def print (asJson : Bool) (r : Report) : String :=
  if asJson then r.toJson.pretty ++ "\n" else String.join (r.lines.map (· ++ "\n"))

end Report

/-! ### The command -/

/-- The settings in a file. -/
def settingsIn (files : FileTree) (path : String) : Except Failure EngineSettings :=
  match files.read path with
  | .error fault => .error (.unreadableSettings path fault.message)
  | .ok content =>
    match Text.decode? content with
    | none => .error (.unreadableSettings path "stream did not contain valid UTF-8")
    | some text =>
      match (Json.parse? text).bind EngineSettings.ofJson? with
      | some settings => .ok settings
      | none => .error (.malformedSettings path)

/-- The settings of a request: those of its file, changed by the environment and by its
options. -/
def settingsOf (r : Request) (env : Environment) (files : FileTree) :
    Except Failure EngineSettings := do
  let given ← match r.config with
    | some path => settingsIn files path
    | none => pure {}
  let changed := given.withEnvironment env
  let settings :=
    if r.has .offline then { changed with loader.offline := true } else changed
  settings.validate.mapError .invalidSettings
  return settings

/-- The query of a request. -/
def queryOf (r : Request) (base term : String) : Except Failure RateQuery := do
  let base ← (Currency.parse base).mapError .invalidBase
  let term ← (Currency.parse term).mapError .invalidTerm
  return { base := base, term := term, asOf := r.date, providers := r.providers }

/-- The runner of the command. -/
def runner : Runner Office (Except LoadError Layer) := Office.runner Desk.ask

/-- An engine with a desk of its own. -/
def setUp (settings : EngineSettings) (files : FileTree) (today : Date) :
    Except Failure (Engine × Office) := do
  let desk ← (Desk.opened settings.loader files today).mapError (.noEngine ∘ .loading)
  match Engine.assemble runner settings { desk := desk } with
  | (.ok engine, office) => return (engine, office)
  | (.error e, _) => throw (.noEngine e)

/-- Look the rate of a request up. -/
def lookUp (r : Request) (base term : String) (env : Environment) (files : FileTree)
    (today : Date) : Except Failure Report := do
  let settings ← settingsOf r env files
  let query ← queryOf r base term
  let (engine, office) ← setUp settings files today
  let (answer, engine, office) := engine.rate runner 0 query office
  let rate ← answer.mapError (.noRate query)
  let (reversed, office) ← do
    if r.has .reverse then
      let (answer, office) := engine.reversed runner rate office
      let reversed ← answer.mapError .noReverse
      pure (some reversed, office)
    else pure (none, office)
  return ⟨rate, reversed, if r.has .stats then some (engine.stats runner office) else none⟩

/-- Do what the arguments ask for. -/
def run (args : List String) (env : Environment) (files : FileTree) (today : Date) : Result :=
  match Request.parse args with
  | .error refusal => refused refusal
  | .ok r =>
    match r.positionals with
    | [base, term] =>
      match lookUp r base term env files today with
      | .ok report => { exitCode := 0, output := report.print (r.has .json) }
      | .error failure => failure.result
    | _ => refused .misuse

end CrossRate.CommandLine
