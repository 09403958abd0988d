/-!
# JSON values

The type `Json`, with numbers kept as they are written, and what the readers of
configurations ask of a value: `record?` for the fields of a structure, `variant?` for the
name of an enumerated value, `natural64?` for a count.
-/

namespace CrossRate

/-- A JSON value. -/
inductive Json where
  | null
  | bool (value : Bool)
  /-- A number, as it is written. -/
  | number (text : String)
  | string (text : String)
  | array (items : List Json)
  | object (fields : List (String × Json))
  /-- A string, or an object with a name, in which half of a pair of surrogates stands on
  its own. It is well written but holds no text, so nothing can be read from it. -/
  | unreadable
deriving Inhabited

namespace Json

/-- A natural number. -/
def ofNat (n : Nat) : Json := .number (toString n)

/-- A value, or `null` in its absence. -/
def ofOption {α : Type} (f : α → Json) (a : Option α) : Json := (a.map f).getD .null

/-- The array of the images of a list. -/
def ofList {α : Type} (f : α → Json) (as : List α) : Json := .array (as.map f)

/-- The value of a field of an object, the last one if it is repeated. -/
def field? (name : String) : Json → Option Json
  | .object fields => fields.reverse.lookup name
  | _ => none

/-- The value of a field of an object, `null` counting as absent. -/
def given? (name : String) (json : Json) : Option Json :=
  match json.field? name with
  | some .null => none
  | field => field

def asString? : Json → Option String
  | .string s => some s
  | _ => none

def asBool? : Json → Option Bool
  | .bool b => some b
  | _ => none

def asArray? : Json → Option (List Json)
  | .array items => some items
  | _ => none

/-- The texts of an array of strings. -/
def asStrings? (json : Json) : Option (List String) :=
  json.asArray?.bind (·.mapM asString?)

/-- A number of 64 bits, written without sign, fraction and exponent. -/
def natural64? : Json → Option Nat
  | .number text =>
    if text.toList.all Char.isDigit then text.toNat?.filter (· < Nat.pow 2 64) else none
  | _ => none

/-- The values that a structure with the given field names has in a value: those of an
object, whose other fields count for nothing, or those of an array by position. A field
given twice, or a position too many, is an error. -/
def record? (names : List String) : Json → Option (List (Option Json))
  | .object fields =>
    if names.all (fun name => (fields.filter (·.1 == name)).length ≤ 1) then
      some (names.map (fun name => fields.lookup name))
    else none
  | .array items =>
    if items.length ≤ names.length then
      some (items.map some ++ List.replicate (names.length - items.length) none)
    else none
  | _ => none

/-- The value of a field that has a default. -/
def orDefault {α : Type} (default : α) (read : Json → Option α) : Option Json → Option α
  | some json => read json
  | none => some default

/-- The name of an enumerated value: a string, or an object of one field that is null. -/
def variant? : Json → Option String
  | .string name => some name
  | .object [(name, .null)] => some name
  | _ => none

end Json

end CrossRate
