import CrossRate.Decimal.Arithmetic
import CrossRate.Text.Counting

/-!
# Reading decimal numbers

`plain?` reads digits with a point, `scientific?` a plain number with an exponent, and
`parse?` either.
-/

namespace CrossRate.Decimal

open Text (digit?)

/-- Whether only digits and underscores are left. -/
def onlyDigits (cs : List Char) : Bool := cs.all (fun c => c = '_' || (digit? c).isSome)

/-- Round a magnitude by the first digit that it has no room for: five and more round up. If
that takes it out of range, its last decimal is dropped. -/
def roundDigit (magnitude scale digit : Nat) : Option (Nat × Nat) :=
  let rounded := if 5 ≤ digit then magnitude + 1 else magnitude
  if rounded < Nat.pow 2 96 then some (rounded, scale)
  else if scale = 0 then none
  else some ((rounded + 4) / 10, scale - 1)

/-- Read digits onto a magnitude and its scale. `point` tells whether the decimal point has
been read and `seen` whether a digit has. Underscores may follow the first digit and mean
nothing. -/
def readDigits (magnitude scale : Nat) (point seen : Bool) : List Char → Option (Nat × Nat)
  | [] => if seen then some (magnitude, scale) else none
  | c :: rest =>
    match digit? c with
    | some d =>
      if point && (scale == 28 || Nat.pow 2 96 ≤ magnitude * 10 + d) then
        if onlyDigits rest then roundDigit magnitude scale d else none
      else if magnitude * 10 + d < Nat.pow 2 96 then
        readDigits (magnitude * 10 + d) (if point then scale + 1 else scale) point true rest
      else none
    | none =>
      if c = '.' && !point then readDigits magnitude scale true seen rest
      else if c = '_' && seen then readDigits magnitude scale point true rest
      else none

/-- The sign of a number and what follows it. -/
def readSign : List Char → Bool × List Char
  | '-' :: rest => (true, rest)
  | '+' :: rest => (false, rest)
  | cs => (false, cs)

/-- Read digits with at most one point, after an optional sign. -/
def plain? (cs : List Char) : Option Decimal := do
  let (negative, digits) := readSign cs
  let (magnitude, scale) ← readDigits 0 0 false false digits
  ofParts? negative magnitude scale

/-- The number with the same sign and digits and another scale. -/
def withScale? (x : Decimal) (scale : Nat) : Option Decimal :=
  if h : scale ≤ 28 then some { x with scale, scale_le := h } else none

/-- The quotient of two natural numbers, rounded to the nearest one, a half up. -/
def divHalfUp (n d : Nat) : Nat := if d ≤ 2 * (n % d) then n / d + 1 else n / d

/-- A quotient by more than one is not rounded to more than the dividend. -/
theorem divHalfUp_le (n d : Nat) (h : 1 < d) : divHalfUp n d ≤ n
  := by
  simp only [divHalfUp]
  split
  · rename_i half
    have split := Nat.div_add_mod n d
    have positive : 0 < n % d := by omega
    have wide : n / d ≤ d * (n / d) := Nat.le_mul_of_pos_left _ (by omega)
    omega
  · exact Nat.div_le_self n d

/-- The number divided by `10 ^ exponent`. What rounds to zero keeps its sign. -/
def shiftDown? (x : Decimal) (exponent : Nat) : Option Decimal :=
  if 28 < exponent then none
  else if h : 28 < x.scale + exponent then
    some
      { x with
        magnitude := divHalfUp x.magnitude (Nat.pow 10 (x.scale + exponent - 28))
        scale := 28
        fits := Nat.lt_of_le_of_lt
          (divHalfUp_le _ _ (Nat.one_lt_pow (by omega) (by decide))) x.fits
        scale_le := Nat.le_refl 28 }
  else x.withScale? (x.scale + exponent)

/-- The number multiplied by `10 ^ exponent`. -/
def shiftUp? (x : Decimal) (exponent : Nat) : Option Decimal :=
  if exponent ≤ x.scale then x.withScale? (x.scale - exponent)
  else if 28 < exponent then none
  else do
    let power ← ofParts? false (Nat.pow 10 exponent) 0
    let product ← x.mul? power
    return product.normalize

/-- Read a plain number, the letter `e` and an exponent. -/
def scientific? (cs : List Char) : Option Decimal := do
  let base := cs.takeWhile (fun c => c ≠ 'e' && c ≠ 'E')
  let x ← plain? base
  match cs.drop base.length with
  | _ :: '-' :: digits => x.shiftDown? (← Text.natural? Text.bound32 digits)
  | _ :: digits => x.shiftUp? (← Text.natural? Text.bound32 digits)
  | [] => none

/-- The number that a text holds, with an exponent or without. -/
def parse? (s : String) : Option Decimal := (plain? s.toList).or (scientific? s.toList)

end CrossRate.Decimal
