/-!
# Unsigned numbers

`natural?` reads a number written in ASCII digits, with an optional plus sign, below a
bound. The bounds in use are those of 32 and 64 bits.
-/

namespace CrossRate.Text

/-- The value of an ASCII digit. -/
def digit? (c : Char) : Option Nat :=
  if '0' ≤ c ∧ c ≤ '9' then some (c.toNat - '0'.toNat) else none

/-- The number whose decimal digits are those read so far, of value `n`, and the characters. -/
def digitsFrom (n : Nat) : List Char → Option Nat
  | [] => some n
  | c :: rest => (digit? c).bind (fun d => digitsFrom (10 * n + d) rest)

/-- A number of at least one ASCII digit. -/
def digits? : List Char → Option Nat
  | [] => none
  | cs => digitsFrom 0 cs

/-- A number below `bound`, written as digits after an optional plus sign. -/
def natural? (bound : Nat) (cs : List Char) : Option Nat :=
  let unsigned := match cs with
    | '+' :: rest => rest
    | _ => cs
  (digits? unsigned).filter (· < bound)

/-- The numbers of 64 bits lie below this. -/
def bound64 : Nat := Nat.pow 2 64

/-- The numbers of 32 bits lie below this. -/
def bound32 : Nat := Nat.pow 2 32

end CrossRate.Text
