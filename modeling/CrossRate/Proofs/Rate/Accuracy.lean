import CrossRate.Proofs.Decimal.Rounding
import CrossRate.Proofs.Rate.Factor

/-!
# How accurate factors are

The reciprocal of a factor that is in range is near the exact one
(`Decimal.exists_reciprocal?`), and the product of two factors is near the exact one, the more so
the greater it is (`Decimal.exists_product?`, `Decimal.isNear_of_abs_sub_le`).
-/

namespace CrossRate.Decimal

variable {n : ℕ} {v w : ℚ} {x y : Decimal}

/-- The error of a number is a fraction of it, which is the smaller the greater the number is. -/
theorem isNear_of_abs_sub_le (next : |w - v| ≤ (1 + v) / 10 ^ 28) (least : 1 / 10 ^ n ≤ v)
    (few : n ≤ 28) :
  IsNear (2 / 10 ^ (28 - n)) v w
  := by
  have split : (10 : ℚ) ^ 28 = 10 ^ n * 10 ^ (28 - n) := by
    rw [← pow_add, Nat.add_sub_cancel' few]
  have unit : 1 ≤ 10 ^ n * v := by
    rwa [div_le_iff₀ (by positivity), mul_comm] at least
  have less : v ≤ 10 ^ n * v := by
    have nonneg : 0 ≤ v := le_trans (by positivity) least
    apply le_mul_of_one_le_left nonneg (one_le_pow₀ (by norm_num))
  apply le_trans next
  rw [split, div_mul_eq_mul_div, div_le_div_iff₀ (by positivity) (by positivity)]
  calc (1 + v) * 10 ^ (28 - n) ≤ (10 ^ n * v + 10 ^ n * v) * 10 ^ (28 - n) := by gcongr
    _ = 2 * v * (10 ^ n * 10 ^ (28 - n)) := by ring

theorem IsWithin.mono {m : ℕ} (within : x.IsWithin n) (le : n ≤ m) : x.IsWithin m
  := by
  have power : (10 : ℚ) ^ n ≤ 10 ^ m := pow_le_pow_right₀ (by norm_num) le
  exact ⟨(one_div_le_one_div_of_le (by positivity) power).trans within.1, within.2.trans power⟩

/-- A number near one that is in range is hardly out of range. -/
theorem isWithin_of_isNear (near : IsNear (1 / 2) v x.toRat) (least : 1 / 10 ^ n ≤ v)
    (greatest : v ≤ 10 ^ n) :
  x.IsWithin (n + 1)
  := by
  have lower := near.ge
  have upper := near.le
  constructor
  · calc (1 : ℚ) / 10 ^ (n + 1) = 1 / 10 * (1 / 10 ^ n) := by rw [pow_succ]; ring
      _ ≤ 1 / 10 * v := by gcongr
      _ ≤ x.toRat := by linarith [le_trans (by positivity) least]
  · calc x.toRat ≤ 10 * v := by linarith [le_trans (by positivity) least]
      _ ≤ 10 * 10 ^ n := by gcongr
      _ = 10 ^ (n + 1) := by rw [pow_succ]; ring

/-- A factor that is in range has a reciprocal, which is near the exact one. -/
theorem exists_reciprocal? (within : x.IsWithin n) (few : n ≤ 12) :
  ∃ w, x.reciprocal? = some w ∧ IsNear (1 / 10 ^ 15) (1 / x.toRat) w.toRat
    ∧ w.IsWithin (n + 1)
  := by
  have positive := within.pos
  have exact : 0 < 1 / x.toRat := by positivity
  have least : 1 / 10 ^ n ≤ 1 / x.toRat := one_div_le_one_div_of_le positive within.2
  have greatest : 1 / x.toRat ≤ 10 ^ n := by
    rw [one_div_le positive (by positivity)]
    apply within.1
  have small : (10 : ℚ) ^ n ≤ 10 ^ 12 := pow_le_pow_right₀ (by norm_num) few
  obtain ⟨y, inverse, next⟩ :=
    exists_inverse? positive (greatest.trans (small.trans (by norm_num)))
  have near : IsNear (2 / 10 ^ (28 - 12)) (1 / x.toRat) y.toRat :=
    isNear_of_abs_sub_le next
      (one_div_le_one_div_of_le positive (within.2.trans small)) (by decide)
  generalize 1 / x.toRat = v at *
  have lower := near.ge
  have upper := near.le
  norm_num at lower upper small
  obtain ⟨w, kept, near'⟩ := exists_roundSignificant? (show 0 < inverseDigits by decide)
    (by decide) (x := y) (by linarith) (by linarith)
  have close : IsNear (1 / 10 ^ 15) v w.toRat :=
    (near.trans near' (by positivity)).mono exact.le (by norm_num [inverseDigits])
  have half : IsNear (1 / 2) v w.toRat := close.mono exact.le (by norm_num)
  have within' := isWithin_of_isNear half least greatest
  refine ⟨w, ?_, close, within'⟩
  rw [reciprocal?, inverse, Option.bind_some, kept, Option.filter_some,
    if_pos (isPositive_iff.2 within'.pos)]

/-- Two factors that are in range have a product, which is next to the exact one. -/
theorem exists_product? (hx : x.IsWithin 13) (hy : y.IsWithin 13) :
  ∃ z, x.product? y = some z
    ∧ |z.toRat - x.toRat * y.toRat| ≤ (1 + x.toRat * y.toRat) / 10 ^ 28
  := by
  obtain ⟨z, product, next⟩ := exists_mul? hx hy
  have least : 1 / 10 ^ 26 ≤ x.toRat * y.toRat := by
    calc (1 : ℚ) / 10 ^ 26 = 1 / 10 ^ 13 * (1 / 10 ^ 13) := by norm_num
      _ ≤ x.toRat * y.toRat := mul_le_mul hx.1 hy.1 (by positivity) hx.pos.le
  have positive : 0 < z.toRat := by
    apply lt_of_lt_of_le _ (isNear_of_abs_sub_le next least (by decide)).ge
    have := mul_pos hx.pos hy.pos
    norm_num
    positivity
  refine ⟨z, ?_, next⟩
  rw [product?, product, Option.filter_some, if_pos (isPositive_iff.2 positive)]

/-- The product of a reciprocal and another factor is near the quotient of the two. -/
theorem exists_quotient? (hx : x.IsWithin 6) (hy : y.IsWithin 6) :
  ∃ w z, x.reciprocal? = some w ∧ w.product? y = some z
    ∧ IsNear (4 / 10 ^ 15) (y.toRat / x.toRat) z.toRat
  := by
  obtain ⟨w, reciprocal, near, hw⟩ := exists_reciprocal? hx (by decide)
  obtain ⟨z, product, next⟩ := exists_product? (hw.mono (by decide)) (hy.mono (by decide))
  have least : 1 / 10 ^ 13 ≤ w.toRat * y.toRat := by
    calc (1 : ℚ) / 10 ^ 13 = 1 / 10 ^ (6 + 1) * (1 / 10 ^ 6) := by norm_num
      _ ≤ w.toRat * y.toRat := mul_le_mul hw.1 hy.1 (by positivity) hw.pos.le
  have near' := (near.mul_right hy.pos.le).trans
    (isNear_of_abs_sub_le next least (by decide)) (by positivity)
  rw [one_div_mul_eq_div x.toRat] at near'
  exact ⟨w, z, reciprocal, product, near'.mono (div_pos hy.pos hx.pos).le (by norm_num)⟩

end CrossRate.Decimal
