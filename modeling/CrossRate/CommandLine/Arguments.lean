import CrossRate.Calendar.Written

/-!
# Arguments of the command line

`Request.parse` reads the arguments from left to right: an option by its long name or by its
letter, with its value attached or following it, and what is no option by its position. The
first argument that asks for help or is of no use settles the matter.
-/

namespace CrossRate

/-- An option without a value. -/
inductive Switch where
  | offline
  | json
  | reverse
  | stats
  | logJson
deriving DecidableEq

namespace Switch

/-- The long name of an option. -/
def name : Switch → String
  | offline => "offline"
  | json => "json"
  | reverse => "reverse"
  | stats => "stats"
  | logJson => "log-json"

def all : List Switch := [offline, json, reverse, stats, logJson]

end Switch

/-- An option with a value. -/
inductive Setting where
  | date
  | provider
  | config
deriving DecidableEq

namespace Setting

/-- The long name of an option. -/
def name : Setting → String
  | date => "date"
  | provider => "provider"
  | config => "config"

/-- The letter of an option. -/
def letter : Setting → Char
  | date => 'd'
  | provider => 'p'
  | config => 'c'

def all : List Setting := [date, provider, config]

end Setting

/-- Why arguments are not a request. -/
inductive Refusal where
  /-- They ask for help. -/
  | help
  /-- They cannot be understood. -/
  | misuse
deriving DecidableEq

/-- What a single argument is. -/
inductive Argument where
  /-- What follows is taken by position. -/
  | separator
  | help
  | switch (s : Switch)
  /-- An option, and its value if that is attached. -/
  | setting (s : Setting) (value : Option String)
  | positional (text : String)
  | unknown

namespace Argument

/-- An option by its long name, with or without an attached value. -/
def ofName (name : String) (value : Option String) : Argument :=
  match Switch.all.find? (·.name = name), Setting.all.find? (·.name = name), value with
  | some s, _, none => .switch s
  | none, some s, value => .setting s value
  | none, none, none => if name = "help" then .help else .unknown
  | _, _, _ => .unknown

/-- An option by its letter, with what is attached to it. -/
def ofLetter (letter : Char) (attached : List Char) : Argument :=
  match Setting.all.find? (·.letter = letter), attached with
  | some s, [] => .setting s none
  | some s, '=' :: value => .setting s (some (String.ofList value))
  | some s, value => .setting s (some (String.ofList value))
  | none, _ => if letter = 'h' then .help else .unknown

/-- Read an argument. -/
def ofText (text : String) : Argument :=
  match text.toList with
  | ['-', '-'] => .separator
  | '-' :: '-' :: rest =>
    match rest.dropWhile (· ≠ '=') with
    | '=' :: value =>
      ofName (String.ofList (rest.takeWhile (· ≠ '='))) (some (String.ofList value))
    | _ => ofName (String.ofList rest) none
  | '-' :: letter :: attached => ofLetter letter attached
  | _ => .positional text

end Argument

/-- What is asked on the command line. -/
structure Request where
  /-- The arguments by position, in order. -/
  positionals : List String := []
  switches : List Switch := []
  date : Option Date := none
  providers : List String := []
  config : Option String := none

namespace Request

def has (r : Request) (s : Switch) : Bool := r.switches.contains s

/-- Take an argument by position: there are at most two. -/
def addPositional (r : Request) (text : String) : Except Refusal Request :=
  if r.positionals.length < 2 then .ok { r with positionals := r.positionals ++ [text] }
  else .error .misuse

/-- Take an option that may be given once. -/
def addSwitch (r : Request) (s : Switch) : Except Refusal Request :=
  if r.has s then .error .misuse else .ok { r with switches := s :: r.switches }

/-- Take an option with its value. Only providers may be given several times. -/
def addSetting (r : Request) (value : String) : Setting → Except Refusal Request
  | .date =>
    match r.date, Date.parse? value with
    | none, some day => .ok { r with date := some day }
    | _, _ => .error .misuse
  | .provider => .ok { r with providers := r.providers ++ [value] }
  | .config =>
    if r.config.isSome ∨ value = "" then .error .misuse
    else .ok { r with config := some value }

/-- Take arguments from left to right. -/
def addAll (r : Request) : List String → Except Refusal Request
  | [] => .ok r
  | text :: rest =>
    match Argument.ofText text with
    | .separator => rest.foldlM addPositional r
    | .help => .error .help
    | .unknown => .error .misuse
    | .positional text => (r.addPositional text).bind (addAll · rest)
    | .switch s => (r.addSwitch s).bind (addAll · rest)
    | .setting s (some value) => (r.addSetting value s).bind (addAll · rest)
    | .setting s none =>
      match rest with
      | value :: rest =>
        match Argument.ofText value with
        | .positional value => (r.addSetting value s).bind (addAll · rest)
        | _ => .error .misuse
      | [] => .error .misuse

/-- Read the arguments of a command line. -/
def parse (args : List String) : Except Refusal Request := addAll {} args

end Request

end CrossRate
