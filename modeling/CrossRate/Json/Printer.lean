import CrossRate.Json.Basic
import CrossRate.Text.Quoted

/-!
# Printing JSON

`compact` prints a value without blanks and `pretty` prints it over several lines,
indented by two spaces a level.
-/

namespace CrossRate.Json

/-- One character inside a string. -/
def escaped (c : Char) : String :=
  if c = '"' then "\\\""
  else if c = '\\' then "\\\\"
  else if c = '\n' then "\\n"
  else if c = '\r' then "\\r"
  else if c = '\t' then "\\t"
  else if c = '\x08' then "\\b"
  else if c = '\x0c' then "\\f"
  else if c.toNat < 0x10 then "\\u000" ++ Text.hex c.toNat
  else if c.toNat < 0x20 then "\\u00" ++ Text.hex c.toNat
  else c.toString

/-- A string in its quotes. -/
def quotedString (s : String) : String :=
  "\"" ++ String.join (s.toList.map escaped) ++ "\""

/-- A string that holds half of a pair of surrogates. -/
def loneSurrogate : String := "\"\\ud800\""

mutual

/-- A value without blanks. -/
def compact : Json → String
  | .null => "null"
  | .bool b => if b then "true" else "false"
  | .number text => text
  | .string s => quotedString s
  | .array items => "[" ++ ",".intercalate (compactItems items) ++ "]"
  | .object fields => "\x7b" ++ ",".intercalate (compactFields fields) ++ "\x7d"
  | .unreadable => loneSurrogate

/-- The items of an array. -/
def compactItems : List Json → List String
  | [] => []
  | item :: rest => compact item :: compactItems rest

/-- The fields of an object. -/
def compactFields : List (String × Json) → List String
  | [] => []
  | (name, item) :: rest => (quotedString name ++ ":" ++ compact item) :: compactFields rest

end

/-- The line break before an item that stands at a depth. -/
def lineAt (depth : Nat) : String := "\n" ++ String.ofList (List.replicate (2 * depth) ' ')

/-- Lines between two brackets, the inner ones one level deeper than `depth`. -/
def bracketed (opening closing : String) (depth : Nat) (items : List String) : String :=
  if items.isEmpty then opening ++ closing
  else
    opening ++ lineAt (depth + 1) ++ ("," ++ lineAt (depth + 1)).intercalate items
      ++ lineAt depth ++ closing

mutual

/-- A value over several lines, its first line standing at a depth. -/
def prettyAt (depth : Nat) : Json → String
  | .array items => bracketed "[" "]" depth (prettyItems (depth + 1) items)
  | .object fields => bracketed "\x7b" "\x7d" depth (prettyFields (depth + 1) fields)
  | .null => "null"
  | .bool b => if b then "true" else "false"
  | .number text => text
  | .string s => quotedString s
  | .unreadable => loneSurrogate

/-- The items of an array at a depth. -/
def prettyItems (depth : Nat) : List Json → List String
  | [] => []
  | item :: rest => prettyAt depth item :: prettyItems depth rest

/-- The fields of an object at a depth. -/
def prettyFields (depth : Nat) : List (String × Json) → List String
  | [] => []
  | (name, item) :: rest =>
    (quotedString name ++ ": " ++ prettyAt depth item) :: prettyFields depth rest

end

/-- A value over several lines. -/
def pretty (json : Json) : String := prettyAt 0 json

end CrossRate.Json
