import CrossRate.Decimal.Basic

/-!
# Rounded arithmetic

Results that are not in range are rounded by dropping digits, a half going to the even
neighbour (`divHalfEven`). `mul?` drops as few digits as it can, `inverse?` keeps as many as
it can, and `roundSignificant?` keeps a given number of them.
-/

namespace CrossRate.Decimal

/-- The quotient of two natural numbers, rounded to the nearest one, a half to the even one. -/
def divHalfEven (n d : Nat) : Nat :=
  let q := n / d
  let r := n % d
  if 2 * r > d ∨ (2 * r = d ∧ q % 2 = 1) then q + 1 else q

/-- The number `n / 10 ^ scale` with as few of its digits dropped as its range asks for. -/
def fit? (negative : Bool) (n scale : Nat) : Option Decimal :=
  let least := scale - 28
  (List.range' least (scale + 1 - least)).findSome? (fun dropped =>
    ofParts? negative (divHalfEven n (Nat.pow 10 dropped)) (scale - dropped))

/-- Whether the magnitude fits 32 bits. -/
def isShort (x : Decimal) : Bool := x.magnitude < Nat.pow 2 32

/-- The product, or nothing if it is too great. A product of short numbers with more than 47
decimals vanishes. -/
def mul? (x y : Decimal) : Option Decimal :=
  if x.magnitude = 0 ∨ y.magnitude = 0 then some zero
  else if x.isShort && y.isShort && 47 < x.scale + y.scale then some zero
  else fit? (x.isNegative != y.isNegative) (x.magnitude * y.magnitude) (x.scale + y.scale)

/-- A magnitude and a scale without the zeros at the end of the decimals. -/
def stripZeros (magnitude : Nat) : Nat → Nat × Nat
  | 0 => (magnitude, 0)
  | scale + 1 =>
    if magnitude % 10 = 0 then stripZeros (magnitude / 10) scale else (magnitude, scale + 1)

/-- Stripping zeros makes neither the magnitude nor the scale greater. -/
theorem stripZeros_le (magnitude scale : Nat) :
  (stripZeros magnitude scale).1 ≤ magnitude ∧ (stripZeros magnitude scale).2 ≤ scale
  := by
  induction scale generalizing magnitude with
  | zero => simp [stripZeros]
  | succ n ih =>
    simp only [stripZeros]
    split
    · have := ih (magnitude / 10)
      omega
    · simp

/-- The same value without zeros at the end of the decimals. -/
def normalize (x : Decimal) : Decimal :=
  let stripped := stripZeros x.magnitude x.scale
  { isNegative := x.isNegative
    magnitude := stripped.1
    scale := stripped.2
    fits := Nat.lt_of_le_of_lt (stripZeros_le x.magnitude x.scale).1 x.fits
    scale_le := Nat.le_trans (stripZeros_le x.magnitude x.scale).2 x.scale_le }

/-- One divided by the number, to as many decimals as there is room for, without zeros at
their end. -/
def inverse? (x : Decimal) : Option Decimal :=
  if x.magnitude = 0 then none
  else
    ((List.range 29).reverse.findSome? (fun scale =>
      ofParts? x.isNegative (divHalfEven (Nat.pow 10 (x.scale + scale)) x.magnitude) scale)).map
        normalize

/-- The number of digits of the magnitude. -/
def digitCount (x : Decimal) : Nat := (Nat.toDigits 10 x.magnitude).length

/-- The number to `digits` significant digits: zeros are appended, as far as the scale
allows, to one that has fewer, and one that has more is rounded. -/
def roundSignificant? (digits : Nat) (x : Decimal) : Option Decimal :=
  if x.magnitude = 0 then some zero
  else if x.digitCount ≤ digits then
    let added := min (digits - x.digitCount) (28 - x.scale)
    ofParts? x.isNegative (x.magnitude * Nat.pow 10 added) (x.scale + added)
  else
    let dropped := x.digitCount - digits
    let kept := divHalfEven x.magnitude (Nat.pow 10 dropped)
    if dropped ≤ x.scale then ofParts? x.isNegative kept (x.scale - dropped)
    else ofParts? x.isNegative (kept * Nat.pow 10 (dropped - x.scale)) 0

end CrossRate.Decimal
