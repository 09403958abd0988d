import CrossRate.Json.Basic

/-!
# Reading JSON

`Json.parse?` reads one value from a text that holds nothing else but blanks around it.
-/

namespace CrossRate.Json

/-- Whether a character is a blank of JSON. -/
def isSpace (c : Char) : Bool := c = ' ' || c = '\t' || c = '\n' || c = '\r'

/-- Drop the leading blanks. -/
def skipSpace (cs : List Char) : List Char := cs.dropWhile isSpace

/-- The value of a hexadecimal digit. -/
def hexDigit? (c : Char) : Option Nat :=
  if '0' ≤ c ∧ c ≤ '9' then some (c.toNat - '0'.toNat)
  else if 'a' ≤ c ∧ c ≤ 'f' then some (c.toNat - 'a'.toNat + 10)
  else if 'A' ≤ c ∧ c ≤ 'F' then some (c.toNat - 'A'.toNat + 10)
  else none

/-- The value of four hexadecimal digits. -/
def hexQuad? (a b c d : Char) : Option Nat := do
  let a ← hexDigit? a
  let b ← hexDigit? b
  let c ← hexDigit? c
  let d ← hexDigit? d
  return ((a * 16 + b) * 16 + c) * 16 + d

/-- The character that a one-letter escape stands for. -/
def escape? : Char → Option Char
  | '"' => some '"'
  | '\\' => some '\\'
  | '/' => some '/'
  | 'b' => some '\x08'
  | 'f' => some '\x0c'
  | 'n' => some '\n'
  | 'r' => some '\r'
  | 't' => some '\t'
  | _ => none

/-- The character outside the basic plane that a pair of surrogates stands for. -/
def pair? (high low : Nat) : Option Char :=
  if 0xD800 ≤ high ∧ high < 0xDC00 ∧ 0xDC00 ≤ low ∧ low < 0xE000 then
    some (Char.ofNat (0x10000 + (high - 0xD800) * 0x400 + (low - 0xDC00)))
  else none

/-- The character of the basic plane with a code point, unless that is a surrogate. -/
def unit? (n : Nat) : Option Char :=
  if 0xD800 ≤ n ∧ n < 0xE000 then none else some (Char.ofNat n)

/-- Characters, last first, with one more before them, if all of them are known. -/
def push (read : Option (List Char)) (c : Option Char) : Option (List Char) :=
  match read, c with
  | some read, some c => some (c :: read)
  | _, _ => none

/-- Read the rest of a string up to its closing quote; `read` holds its characters so far,
last first. The string has no text once half of a pair of surrogates has been read. -/
def stringTail (read : Option (List Char)) : List Char → Option (Option String × List Char)
  | '"' :: rest => some (read.map (fun cs => String.ofList cs.reverse), rest)
  | '\\' :: 'u' :: a :: b :: c :: d :: '\\' :: 'u' :: e :: f :: g :: h :: rest => do
    let n ← hexQuad? a b c d
    match (hexQuad? e f g h).bind (pair? n) with
    | some c => stringTail (push read c) rest
    | none => stringTail (push read (unit? n)) ('\\' :: 'u' :: e :: f :: g :: h :: rest)
  | '\\' :: 'u' :: a :: b :: c :: d :: rest => do
    let n ← hexQuad? a b c d
    stringTail (push read (unit? n)) rest
  | '\\' :: c :: rest => do
    let c ← escape? c
    stringTail (push read c) rest
  | c :: rest => if c.toNat < 0x20 then none else stringTail (push read c) rest
  | [] => none

/-- The digits at the start of a text and what follows them, if there is a digit. -/
def digits1? (cs : List Char) : Option (List Char × List Char) :=
  let digits := cs.takeWhile Char.isDigit
  if digits.isEmpty then none else some (digits, cs.drop digits.length)

/-- Read a number. -/
def number? (cs : List Char) : Option (Json × List Char) := do
  let (sign, cs) := match cs with
    | '-' :: rest => (['-'], rest)
    | _ => ([], cs)
  let (whole, cs) ← digits1? cs
  if whole.length > 1 ∧ whole.head? = some '0' then none
  let (fraction, cs) ← match cs with
    | '.' :: rest => (digits1? rest).map (fun (ds, rest) => ('.' :: ds, rest))
    | _ => some ([], cs)
  let (exponent, cs) ← match cs with
    | 'e' :: rest | 'E' :: rest =>
      match rest with
      | '+' :: rest => (digits1? rest).map (fun (ds, rest) => ('e' :: '+' :: ds, rest))
      | '-' :: rest => (digits1? rest).map (fun (ds, rest) => ('e' :: '-' :: ds, rest))
      | _ => (digits1? rest).map (fun (ds, rest) => ('e' :: ds, rest))
    | _ => some ([], cs)
  return (.number (String.ofList (sign ++ whole ++ fraction ++ exponent)), cs)

mutual

/-- Read a value, with at most `fuel` values inside one another or side by side. -/
def value? : Nat → List Char → Option (Json × List Char)
  | 0, _ => none
  | fuel + 1, cs =>
    match skipSpace cs with
    | 'n' :: 'u' :: 'l' :: 'l' :: rest => some (.null, rest)
    | 't' :: 'r' :: 'u' :: 'e' :: rest => some (.bool true, rest)
    | 'f' :: 'a' :: 'l' :: 's' :: 'e' :: rest => some (.bool false, rest)
    | '"' :: rest =>
      (stringTail (some []) rest).map (fun (s, rest) => ((s.map .string).getD .unreadable, rest))
    | '[' :: rest =>
      match skipSpace rest with
      | ']' :: rest => some (.array [], rest)
      | rest => (items? fuel rest).map (fun (items, rest) => (.array items, rest))
    | '\x7b' :: rest =>
      match skipSpace rest with
      | '\x7d' :: rest => some (.object [], rest)
      | rest =>
        (fields? fuel rest).map (fun (fields, rest) =>
          ((fields.map .object).getD .unreadable, rest))
    | rest => number? rest

/-- Read the items of an array and its closing bracket. -/
def items? : Nat → List Char → Option (List Json × List Char)
  | 0, _ => none
  | fuel + 1, cs => do
    let (item, cs) ← value? fuel cs
    match skipSpace cs with
    | ',' :: rest => (items? fuel rest).map (fun (items, rest) => (item :: items, rest))
    | ']' :: rest => some ([item], rest)
    | _ => none

/-- Read the fields of an object, unless one of their names has no text, and its closing
brace. -/
def fields? : Nat → List Char → Option (Option (List (String × Json)) × List Char)
  | 0, _ => none
  | fuel + 1, cs => do
    let (name, cs) ← match skipSpace cs with
      | '"' :: rest => stringTail (some []) rest
      | _ => none
    let cs ← match skipSpace cs with
      | ':' :: rest => some rest
      | _ => none
    let (item, cs) ← value? fuel cs
    let field := name.map (·, item)
    match skipSpace cs with
    | ',' :: rest =>
      (fields? fuel rest).map (fun (fields, rest) =>
        (field.bind (fun field => fields.map (field :: ·)), rest))
    | '\x7d' :: rest => some (field.map ([·]), rest)
    | _ => none

end

/-- The value that a text holds. -/
def parse? (text : String) : Option Json :=
  let cs := text.toList
  match value? (cs.length + 1) cs with
  | some (json, rest) => if (skipSpace rest).isEmpty then some json else none
  | none => none

end CrossRate.Json
