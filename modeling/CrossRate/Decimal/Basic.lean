/-!
# Decimal numbers

A `Decimal` is a sign and a magnitude of at most 96 bits over a power of ten, the scale, which
is at most 28. The scale is kept: `1.10` and `1.1` have one value, which `sameValue` sees,
but two written forms, which `print` gives. So is the sign of a number that was rounded to
zero; a zero that is built from its parts (`ofParts?`) has none.
-/

namespace CrossRate

/-- The number `magnitude / 10 ^ scale` with its sign. -/
structure Decimal where
  /-- Whether the number has a minus sign. -/
  isNegative : Bool
  /-- The digits of the number, without its decimal point. -/
  magnitude : Nat
  /-- The number of digits after the decimal point. -/
  scale : Nat
  /-- The magnitude fits 96 bits. -/
  fits : magnitude < Nat.pow 2 96
  /-- At most 28 digits follow the point. -/
  scale_le : scale ≤ 28
deriving DecidableEq

namespace Decimal

/-- The number with a sign, a magnitude and a scale, if the two are in range. Zero has no
sign. -/
def ofParts? (negative : Bool) (magnitude scale : Nat) : Option Decimal :=
  if h : magnitude < Nat.pow 2 96 ∧ scale ≤ 28 then
    some ⟨negative && magnitude != 0, magnitude, scale, h.1, h.2⟩
  else none

/-- Zero, without decimals. -/
def zero : Decimal := ⟨false, 0, 0, by decide, by decide⟩

/-- One, without decimals. -/
def one : Decimal := ⟨false, 1, 0, by decide, by decide⟩

instance : Inhabited Decimal := ⟨zero⟩

/-- The magnitude with its sign. -/
def mantissa (x : Decimal) : Int := if x.isNegative then -x.magnitude else x.magnitude

/-- Whether a number is greater than zero. -/
def isPositive (x : Decimal) : Bool := 0 < x.mantissa

/-- Whether two numbers are equal, whatever their scales. -/
def sameValue (x y : Decimal) : Bool :=
  x.mantissa * Nat.pow 10 y.scale == y.mantissa * Nat.pow 10 x.scale

/-- Digits, the last `scale` of them after a point, at least one before it. -/
def withPoint (digits : List Char) (scale : Nat) : List Char :=
  if scale = 0 then digits
  else
    let padded := List.replicate (scale + 1 - digits.length) '0' ++ digits
    padded.take (padded.length - scale) ++ '.' :: padded.drop (padded.length - scale)

/-- The written form, with as many digits after the point as the scale says. -/
def print (x : Decimal) : String :=
  (if x.isNegative then "-" else "")
    ++ String.ofList (withPoint (Nat.toDigits 10 x.magnitude) x.scale)

end Decimal

end CrossRate
