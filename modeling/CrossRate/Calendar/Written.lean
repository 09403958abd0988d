import CrossRate.Calendar.Date
import CrossRate.Text.Blank
import CrossRate.Text.Case
import CrossRate.Text.Counting

/-!
# Written dates

`print` writes a date with dashes. `parse?` reads that form with blanks allowed around each
number, `parseTight?` the same without blanks before the dashes, and `parseWorded?` the form
`January 02, 2024`.
-/

namespace CrossRate.Date

open Text (isBlank skipBlanks digit?)

/-- A number in decimal digits, at least `width` of them. -/
def padded (width n : Nat) : String :=
  let digits := Nat.toDigits 10 n
  String.ofList (List.replicate (width - digits.length) '0' ++ digits)

/-- A year: four digits, or a sign and at least four digits outside the years 0 to 9999. -/
def printYear (year : Int) : String :=
  if year < 0 then "-" ++ padded 4 year.natAbs
  else if year ≤ 9999 then padded 4 year.natAbs
  else "+" ++ padded 4 year.natAbs

/-- The written form of a date. -/
def print (d : Date) : String :=
  let c := d.civil
  printYear c.year ++ "-" ++ padded 2 c.month ++ "-" ++ padded 2 c.day

/-- Read the digits at the start, at most `width` of them, onto the number `n`. -/
def readDigits : Nat → Nat → List Char → Nat × List Char
  | 0, n, cs => (n, cs)
  | _ + 1, n, [] => (n, [])
  | width + 1, n, c :: rest =>
    match digit? c with
    | some d => readDigits width (10 * n + d) rest
    | none => (n, c :: rest)

/-- Read a number of one to `width` digits. -/
def readNumber? (width : Nat) (cs : List Char) : Option (Nat × List Char) :=
  if (cs.head?.bind digit?).isSome then some (readDigits width 0 cs) else none

/-- Read a month or a day after blanks. -/
def readPart? (cs : List Char) : Option (Nat × List Char) := readNumber? 2 (skipBlanks cs)

/-- Read a year after blanks: at most four digits, or a sign and any number of digits. -/
def readYear? (cs : List Char) : Option (Int × List Char) :=
  match skipBlanks cs with
  | '-' :: rest => (readNumber? rest.length rest).map (fun (n, rest) => (-n, rest))
  | '+' :: rest => (readNumber? rest.length rest).map (fun (n, rest) => (n, rest))
  | rest => (readNumber? 4 rest).map (fun (n, rest) => (n, rest))

/-- Read one character that must stand at the start. -/
def readMark? (mark : Char) : List Char → Option (List Char)
  | [] => none
  | c :: rest => if c = mark then some rest else none

/-- The date of a text such as `2024-01-02`, blanks allowed around each number. -/
def parse? (s : String) : Option Date := do
  let (year, cs) ← readYear? s.toList
  let cs ← readMark? '-' (skipBlanks cs)
  let (month, cs) ← readPart? cs
  let cs ← readMark? '-' (skipBlanks cs)
  let (day, cs) ← readPart? cs
  if (skipBlanks cs).isEmpty then ofCivil? ⟨year, month, day⟩ else none

/-- The date of a text such as `2024-01-02`, blanks allowed before each number only. -/
def parseTight? (cs : List Char) : Option Date := do
  let (year, cs) ← readYear? cs
  let cs ← readMark? '-' cs
  let (month, cs) ← readPart? cs
  let cs ← readMark? '-' cs
  let (day, cs) ← readPart? cs
  if cs.isEmpty then ofCivil? ⟨year, month, day⟩ else none

/-- The first three letters of each month and the letters after them. -/
def monthNames : List (String × String) :=
  [("jan", "uary"), ("feb", "ruary"), ("mar", "ch"), ("apr", "il"), ("may", ""), ("jun", "e"),
    ("jul", "y"), ("aug", "ust"), ("sep", "tember"), ("oct", "ober"), ("nov", "ember"),
    ("dec", "ember")]

/-- What follows a word at the start, its ASCII letters taken in either case. -/
def readWord? (word : String) (cs : List Char) : Option (List Char) :=
  let n := word.length
  if (cs.take n).map Char.toLower = word.toList then some (cs.drop n) else none

/-- Read the name of a month, in full or its first three letters. -/
def readMonth? (cs : List Char) : Option (Nat × List Char) :=
  monthNames.zipIdx.findSome? (fun ((start, tail), i) =>
    (readWord? start cs).map (fun rest => (i + 1, (readWord? tail rest).getD rest)))

/-- The date of a text such as `January 02, 2024`. -/
def parseWorded? (cs : List Char) : Option Date := do
  let (month, cs) ← readMonth? cs
  let (day, cs) ← readPart? cs
  let cs ← readMark? ',' cs
  let (year, cs) ← readYear? cs
  if cs.isEmpty then ofCivil? ⟨year, month, day⟩ else none

end CrossRate.Date
