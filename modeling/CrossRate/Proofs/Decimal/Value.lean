import CrossRate.Decimal.Arithmetic
import Mathlib

/-!
# Decimals as rational numbers

The value of a decimal is a rational number (`Decimal.toRat`). A quotient that is rounded to a
natural number is off by at most a half (`Decimal.abs_divHalfEven_sub_le`), and taking the zeros
off the end of a decimal leaves its value alone (`Decimal.toRat_normalize`).
-/

namespace CrossRate.Decimal

/-- The value of a decimal. -/
def toRat (x : Decimal) : ℚ := x.mantissa / 10 ^ x.scale

theorem ten_pow_pos (n : ℕ) : (0 : ℚ) < 10 ^ n
  := by positivity

theorem cast_pow_ten (n : ℕ) : ((Nat.pow 10 n : ℕ) : ℚ) = 10 ^ n
  := by simp [Nat.pow_eq]

theorem toRat_of_unsigned {x : Decimal} (unsigned : x.isNegative = false) :
  x.toRat = x.magnitude / 10 ^ x.scale
  := by simp [toRat, mantissa, unsigned]

theorem isPositive_iff {x : Decimal} : x.isPositive = true ↔ 0 < x.toRat
  := by
  rw [isPositive, decide_eq_true_eq, toRat, div_pos_iff_of_pos_right (ten_pow_pos x.scale)]
  exact Int.cast_pos.symm

theorem isNegative_of_pos {x : Decimal} (positive : 0 < x.toRat) : x.isNegative = false
  := by
  have positive := isPositive_iff.2 positive
  cases sign : x.isNegative with
  | false => rfl
  | true =>
    simp only [isPositive, mantissa, sign, decide_eq_true_eq] at positive
    simp at positive
    omega

@[simp]
theorem toRat_one : one.toRat = 1
  := by simp [toRat, mantissa, one]

theorem ofParts?_eq_some_iff {magnitude scale : ℕ} {z : Decimal} :
  ofParts? false magnitude scale = some z
    ↔ z.isNegative = false ∧ z.magnitude = magnitude ∧ z.scale = scale
  := by
  rw [ofParts?]
  split
  · rename_i fits
    rw [Option.some.injEq]
    constructor
    · rintro rfl
      exact ⟨rfl, rfl, rfl⟩
    · rintro ⟨unsigned, rfl, rfl⟩
      cases z
      simp_all
  · rename_i fits
    constructor
    · intro none
      cases none
    · rintro ⟨-, rfl, rfl⟩
      exact absurd ⟨z.fits, z.scale_le⟩ fits

theorem ofParts?_eq_none_iff {magnitude scale : ℕ} :
  ofParts? false magnitude scale = none ↔ 2 ^ 96 ≤ magnitude ∨ 28 < scale
  := by
  have bits : Nat.pow 2 96 = 2 ^ 96 := rfl
  simp only [ofParts?, dite_eq_right_iff, reduceCtorEq, imp_false, bits]
  omega

/-- A rounded quotient is off by at most a half. -/
theorem abs_divHalfEven_sub_le (n : ℕ) {d : ℕ} (positive : 0 < d) :
  |(divHalfEven n d : ℚ) - n / d| ≤ 1 / 2
  := by
  have positive' : (0 : ℚ) < d := by exact_mod_cast positive
  have less : n % d < d := Nat.mod_lt n positive
  have parts : (n : ℚ) / d = (n / d : ℕ) + (n % d : ℕ) / d := by
    have parts : (n : ℚ) = d * (n / d : ℕ) + (n % d : ℕ) := by
      exact_mod_cast (Nat.div_add_mod n d).symm
    rw [div_eq_iff positive'.ne', add_mul, div_mul_cancel₀ _ positive'.ne', mul_comm]
    exact parts
  have rest : (0 : ℚ) ≤ (n % d : ℕ) / d := by positivity
  rw [divHalfEven, parts, abs_le]
  split
  · -- The rest is at least a half.
    have half : d ≤ 2 * (n % d) := by omega
    have half : (1 / 2 : ℚ) ≤ (n % d : ℕ) / d := by
      rw [div_le_div_iff₀ two_pos positive']
      exact_mod_cast (by omega)
    have whole : ((n % d : ℕ) : ℚ) / d ≤ 1 := by
      rw [div_le_one positive']
      exact_mod_cast less.le
    push_cast
    constructor <;> linarith
  · have half : 2 * (n % d) ≤ d := by omega
    have half : ((n % d : ℕ) : ℚ) / d ≤ 1 / 2 := by
      rw [div_le_div_iff₀ positive' two_pos]
      exact_mod_cast (by omega)
    constructor <;> linarith

/-! ### Zeros at the end -/

theorem stripZeros_div (magnitude scale : ℕ) :
  ((stripZeros magnitude scale).1 : ℚ) / 10 ^ (stripZeros magnitude scale).2
    = magnitude / 10 ^ scale
  := by
  induction scale generalizing magnitude with
  | zero => simp [stripZeros]
  | succ scale ih =>
    rw [stripZeros]
    split
    · rename_i zero
      obtain ⟨tenth, rfl⟩ := Nat.dvd_of_mod_eq_zero zero
      rw [ih, Nat.mul_div_cancel_left tenth (by decide), pow_succ]
      push_cast
      field_simp
    · rfl

theorem toRat_normalize (x : Decimal) : x.normalize.toRat = x.toRat
  := by
  have same := stripZeros_div x.magnitude x.scale
  cases sign : x.isNegative with
  | false => simpa [toRat, mantissa, normalize, sign] using same
  | true => simpa [toRat, mantissa, normalize, sign, neg_div] using same

/-! ### Numbers in range -/

theorem sameValue_self (x : Decimal) : x.sameValue x = true
  := by simp [sameValue]

/-- Numbers are the same if their values are. -/
theorem sameValue_iff {x y : Decimal} : x.sameValue y = true ↔ x.toRat = y.toRat
  := by
  rw [toRat, toRat, div_eq_div_iff (ten_pow_pos x.scale).ne' (ten_pow_pos y.scale).ne',
    sameValue, beq_iff_eq, Nat.pow_eq, Nat.pow_eq]
  exact_mod_cast Iff.rfl

theorem magnitude_ne_zero {x : Decimal} (positive : x.isPositive) : x.magnitude ≠ 0
  := by
  intro zero
  simp [isPositive, mantissa, zero] at positive

theorem divHalfEven_one (n : Nat) : divHalfEven n 1 = n
  := by simp [divHalfEven, Nat.mod_one]

/-- A number that is in range already is not rounded. -/
theorem fit?_of_fits (x : Decimal) (nonzero : x.magnitude ≠ 0) :
  fit? x.isNegative x.magnitude x.scale = some x
  := by
  have least : x.scale - 28 = 0 := Nat.sub_eq_zero_of_le x.scale_le
  have whole : ofParts? x.isNegative x.magnitude x.scale = some x := by
    rw [ofParts?, dif_pos ⟨x.fits, x.scale_le⟩]
    simp [bne_iff_ne.2 nonzero]
  simp [fit?, least, List.range'_succ, divHalfEven_one, whole]

/-- A factor times one is the factor itself. -/
theorem one_mul? {x : Decimal} (positive : x.isPositive) : one.mul? x = some x
  := by
  have nonzero := magnitude_ne_zero positive
  have few : ¬ 47 < one.scale + x.scale := by
    have := x.scale_le
    have : one.scale = 0 := rfl
    omega
  have same : fit? (one.isNegative != x.isNegative) (one.magnitude * x.magnitude)
      (one.scale + x.scale) = fit? x.isNegative x.magnitude x.scale := by
    simp [one]
  have unit : ¬ (one.magnitude = 0 ∨ x.magnitude = 0) := by simp [one, nonzero]
  rw [mul?, if_neg unit, if_neg (by simp [few]), same, fit?_of_fits x nonzero]

end CrossRate.Decimal
