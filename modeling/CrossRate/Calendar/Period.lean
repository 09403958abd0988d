import CrossRate.Text.Blank
import CrossRate.Text.Counting

/-!
# Written periods

A period is a number of seconds of 64 bits, written as such or as `HH:MM` or `HH:MM:SS`.
-/

namespace CrossRate.Period

open Text (natural? bound64 trimChars)

/-- A number of seconds, if it fits 64 bits. -/
def inRange? (n : Nat) : Option Nat := if n < bound64 then some n else none

/-- Read the parts of a clock time after the first onto the seconds so far. Each part is
below 60. -/
def readParts? (seconds : Nat) : List (List Char) → Option Nat
  | [] => some seconds
  | part :: rest => do
    let n ← natural? 60 (trimChars part)
    readParts? (← inRange? (60 * seconds + n)) rest

/-- The number of seconds in a period, if the text is one. -/
def parse? (s : String) : Option Nat :=
  match (trimChars s.toList).splitOn ':' with
  | [number] => natural? bound64 number
  | [hours, minutes] => do
    inRange? (60 * (← readParts? (← natural? bound64 (trimChars hours)) [minutes]))
  | [hours, minutes, seconds] => do
    readParts? (← natural? bound64 (trimChars hours)) [minutes, seconds]
  | _ => none

end CrossRate.Period
