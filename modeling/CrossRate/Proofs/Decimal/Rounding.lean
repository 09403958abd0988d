import CrossRate.Proofs.Decimal.Value

/-!
# What rounding costs

An inverse or a product has as many digits as there is room for (`Decimal.IsRounded`), which puts
it next to the exact value (`Decimal.IsRounded.abs_sub_le`), and keeping some digits of a decimal
changes it by a fraction of its value (`Decimal.exists_roundSignificant?`).
-/

namespace CrossRate

/-! ### Relative errors -/

/-- A number differs from another one by at most a fraction of that. -/
def IsNear (e v w : ℚ) : Prop := |w - v| ≤ e * v

namespace IsNear

variable {e e' ε v w x : ℚ}

theorem refl (nonneg : 0 ≤ e) (pos : 0 ≤ v) : IsNear e v v
  := by
  rw [IsNear, sub_self, abs_zero]
  positivity

theorem ge (near : IsNear e v w) : (1 - e) * v ≤ w
  := by
  have := (abs_le.1 near).1
  linarith

theorem le (near : IsNear e v w) : w ≤ (1 + e) * v
  := by
  have := (abs_le.1 near).2
  linarith

theorem mono (near : IsNear e v w) (nonneg : 0 ≤ v) (h : e ≤ ε) : IsNear ε v w
  := le_trans near (mul_le_mul_of_nonneg_right h nonneg)

theorem mul_right {c : ℚ} (near : IsNear e v w) (nonneg : 0 ≤ c) : IsNear e (v * c) (w * c)
  := by
  rw [IsNear, ← sub_mul, abs_mul, abs_of_nonneg nonneg, ← mul_assoc]
  apply mul_le_mul_of_nonneg_right near nonneg

/-- Errors add up, and the second one is relative to a number with the first one. -/
theorem trans (near : IsNear e v w) (near' : IsNear e' w x) (nonneg : 0 ≤ e') :
  IsNear (e + e' + e * e') v x
  := by
  have grown : e' * w ≤ e' * ((1 + e) * v) := mul_le_mul_of_nonneg_left near.le nonneg
  calc |x - v| ≤ |x - w| + |w - v| := abs_sub_le x w v
    _ ≤ e' * ((1 + e) * v) + e * v := add_le_add (le_trans near' grown) near
    _ = (e + e' + e * e') * v := by ring

/-- The product of a number and one near its inverse is near one. -/
theorem round_trip {v' w' : ℚ} (near : IsNear e v w) (near' : IsNear e v' w') (nonneg : 0 ≤ e)
    (small : e ≤ 1) (pos : 0 ≤ v) (pos' : 0 ≤ v') (inverse : v * v' = 1) :
  IsNear (e + e + e * e) 1 (w * w')
  := by
  have least : 0 ≤ w := (mul_nonneg (sub_nonneg.2 small) pos).trans near.ge
  have first := near.mul_right pos'
  have second := near'.mul_right least
  rw [inverse] at first
  rw [mul_comm v', mul_comm w'] at second
  apply first.trans second nonneg

end IsNear

/-! ### Searching -/

/-- A number is found at the first place where there is one. -/
theorem exists_of_findSome?_range' {α : Type} {f : ℕ → Option α} {start length : ℕ} {b : α}
    (h : (List.range' start length).findSome? f = some b) :
  ∃ k, start ≤ k ∧ k < start + length ∧ f k = some b ∧ (start < k → f (k - 1) = none)
  := by
  obtain ⟨before, k, after, split, found, none⟩ := List.findSome?_eq_some_iff.1 h
  obtain ⟨n, le, rfl, rest⟩ := List.range'_eq_append_iff.1 split
  obtain ⟨rfl, pos, -⟩ := List.range'_eq_cons_iff.1 rest.symm
  rw [Nat.mul_one] at found
  refine ⟨start + n, by omega, by omega, found, ?_⟩
  intro lt
  apply none
  rw [List.mem_range'_1]
  omega

namespace Decimal

/-- A decimal has as many digits of a number as there is room for, the last of them rounded. -/
structure IsRounded (z : Decimal) (v : ℚ) : Prop where
  unsigned : z.isNegative = false
  near : |(z.magnitude : ℚ) - v * 10 ^ z.scale| ≤ 1 / 2
  full : z.toRat = v ∨ z.scale = 28 ∨ 2 ^ 96 ≤ v * 10 ^ (z.scale + 1) + 1 / 2

variable {x y z : Decimal} {v : ℚ}

/-- Rounded digits are next to the number. -/
theorem IsRounded.abs_sub_le (rounded : z.IsRounded v) (nonneg : 0 ≤ v) :
  |z.toRat - v| ≤ (1 + v) / 10 ^ 28
  := by
  have unit := ten_pow_pos z.scale
  have near : |z.toRat - v| ≤ 1 / 2 / 10 ^ z.scale := by
    have scaled : z.toRat - v = (z.magnitude - v * 10 ^ z.scale) / 10 ^ z.scale := by
      rw [toRat_of_unsigned rounded.unsigned]
      field_simp
    rw [scaled, abs_div, abs_of_pos unit]
    apply div_le_div_of_nonneg_right rounded.near unit.le
  obtain same | last | large := rounded.full
  · rw [same, sub_self, abs_zero]
    positivity
  · rw [last] at near
    apply near.trans
    linarith
  · apply near.trans
    rw [pow_succ (10 : ℚ) z.scale] at large
    rw [div_div, div_le_div_iff₀ (by positivity) (by positivity)]
    linarith

/-! ### Candidates -/

/-- There is a decimal with some digits and decimals if they are not too many. -/
theorem exists_ofParts?_of_lt {magnitude scale : ℕ} (fits : magnitude < 2 ^ 96)
    (room : scale ≤ 28) :
  ∃ z, ofParts? false magnitude scale = some z ∧ z.toRat = magnitude / 10 ^ scale
  := by
  cases found : ofParts? false magnitude scale with
  | none =>
    have := ofParts?_eq_none_iff.1 found
    omega
  | some z =>
    obtain ⟨unsigned, rfl, rfl⟩ := ofParts?_eq_some_iff.1 found
    exact ⟨z, rfl, toRat_of_unsigned unsigned⟩

/-- There are no decimals with some scale if the digits are too many. -/
theorem le_of_ofParts?_eq_none {magnitude scale : ℕ}
    (near : |(magnitude : ℚ) - v * 10 ^ scale| ≤ 1 / 2) (room : scale ≤ 28)
    (none : ofParts? false magnitude scale = none) :
  2 ^ 96 ≤ v * 10 ^ scale + 1 / 2
  := by
  have large : 2 ^ 96 ≤ magnitude := by
    have := ofParts?_eq_none_iff.1 none
    omega
  have large : (2 ^ 96 : ℚ) ≤ magnitude := by exact_mod_cast large
  have near := (abs_le.1 near).2
  linarith

/-- Of the digits of a number with fewer and fewer decimals, the first ones that there is room for
are found. The search starts with as many decimals as a decimal may have, or with all. -/
theorem exists_findSome?_isRounded {start last : ℕ} {digits : ℕ → ℕ} (room : last - start ≤ 28)
    (near : ∀ k ≤ last, |(digits k : ℚ) - v * 10 ^ (last - k)| ≤ 1 / 2) (small : v ≤ 10 ^ 28)
    (full : last - start = 28 ∨ digits start / 10 ^ (last - start) = v) (le : start ≤ last) :
  ∃ z, (List.range' start (last + 1 - start)).findSome? (fun k =>
      ofParts? false (digits k) (last - k)) = some z ∧ z.IsRounded v
  := by
  cases found : (List.range' start (last + 1 - start)).findSome? (fun k =>
      ofParts? false (digits k) (last - k)) with
  | none =>
    have none := List.findSome?_eq_none_iff.1 found last (List.mem_range'_1.2 (by omega))
    have large := le_of_ofParts?_eq_none (near last le_rfl) (by omega) none
    rw [Nat.sub_self, pow_zero, mul_one] at large
    norm_num at large small
    linarith
  | some z =>
    obtain ⟨k, first, stop, some, before⟩ := exists_of_findSome?_range' found
    obtain ⟨unsigned, magnitude, scale⟩ := ofParts?_eq_some_iff.1 some
    refine ⟨z, rfl, unsigned, ?_, ?_⟩
    · rw [magnitude, scale]
      apply near k (by omega)
    · by_cases later : start < k
      · -- There was no room for one decimal more.
        have large := le_of_ofParts?_eq_none (near (k - 1) (by omega)) (by omega) (before later)
        rw [show last - (k - 1) = z.scale + 1 by omega] at large
        exact .inr (.inr large)
      · obtain rfl : k = start := by omega
        obtain many | all := full
        · exact .inr (.inl (scale.trans many))
        · rw [toRat_of_unsigned unsigned, magnitude, scale]
          exact .inl all

/-- A number with some of its digits dropped is rounded. -/
theorem exists_fit? {n scale : ℕ} (value : v = n / 10 ^ scale) (small : v ≤ 10 ^ 28) :
  ∃ z, fit? false n scale = some z ∧ z.IsRounded v
  := by
  apply exists_findSome?_isRounded (by omega) _ small _ (Nat.sub_le _ _)
  · intro k le
    have scaled : v * 10 ^ (scale - k) = n / (Nat.pow 10 k : ℕ) := by
      rw [value, cast_pow_ten, div_mul_eq_mul_div, div_eq_div_iff (by positivity) (by positivity),
        mul_assoc, ← pow_add, Nat.sub_add_cancel le]
    rw [scaled]
    apply abs_divHalfEven_sub_le n (Nat.pow_pos (by decide))
  · by_cases few : scale ≤ 28
    · right
      rw [Nat.sub_eq_zero_of_le few, show Nat.pow 10 0 = 1 from rfl, divHalfEven_one]
      exact value.symm
    · left
      omega

/-- A number that is not too small is inverted. -/
theorem exists_inverse? (positive : 0 < x.toRat) (small : 1 / x.toRat ≤ 10 ^ 28) :
  ∃ y, x.inverse? = some y ∧ |y.toRat - 1 / x.toRat| ≤ (1 + 1 / x.toRat) / 10 ^ 28
  := by
  have unsigned := isNegative_of_pos positive
  have nonzero := magnitude_ne_zero (isPositive_iff.2 positive)
  have descending : (List.range 29).reverse = (List.range' 0 (28 + 1 - 0)).map (28 - ·) := by
    decide
  have near (k : ℕ) :
      |(divHalfEven (Nat.pow 10 (x.scale + (28 - k))) x.magnitude : ℚ)
        - 1 / x.toRat * 10 ^ (28 - k)| ≤ 1 / 2 := by
    have scaled : 1 / x.toRat * 10 ^ (28 - k)
        = (Nat.pow 10 (x.scale + (28 - k)) : ℕ) / (x.magnitude : ℚ) := by
      rw [toRat_of_unsigned unsigned, cast_pow_ten, pow_add]
      field_simp
    rw [scaled]
    apply abs_divHalfEven_sub_le _ (Nat.pos_of_ne_zero nonzero)
  obtain ⟨z, found, rounded⟩ :=
    exists_findSome?_isRounded le_rfl (fun k _ => near k) small (.inl rfl) (Nat.zero_le 28)
  refine ⟨z.normalize, ?_, ?_⟩
  · rw [inverse?, if_neg nonzero, unsigned, descending, List.findSome?_map]
    exact congrArg (Option.map normalize) found
  · rw [toRat_normalize]
    apply rounded.abs_sub_le (by positivity)

/-! ### Ranges -/

/-- A decimal is between the `n`-th negative power of ten and the `n`-th positive one. -/
def IsWithin (n : ℕ) (x : Decimal) : Prop := 1 / 10 ^ n ≤ x.toRat ∧ x.toRat ≤ 10 ^ n

theorem IsWithin.pos {n : ℕ} (within : x.IsWithin n) : 0 < x.toRat
  := lt_of_lt_of_le (by positivity) within.1

/-- Short numbers with many decimals are small. -/
theorem IsWithin.scale_le (within : x.IsWithin 13) (short : x.isShort = true) : x.scale ≤ 22
  := by
  have digits : x.magnitude < 2 ^ 32 := of_decide_eq_true short
  have digits : (x.magnitude : ℚ) < 2 ^ 32 := by exact_mod_cast digits
  have least := within.1
  rw [toRat_of_unsigned (isNegative_of_pos within.pos),
    div_le_div_iff₀ (by positivity) (by positivity), one_mul] at least
  have few : (10 : ℚ) ^ x.scale < 10 ^ 23 := by
    apply lt_of_le_of_lt least
    norm_num
    linarith
  have few := (pow_lt_pow_iff_right₀ (by norm_num)).1 few
  omega

/-- The product of two numbers that are neither too small nor too great. -/
theorem exists_mul? (hx : x.IsWithin 13) (hy : y.IsWithin 13) :
  ∃ z, x.mul? y = some z
    ∧ |z.toRat - x.toRat * y.toRat| ≤ (1 + x.toRat * y.toRat) / 10 ^ 28
  := by
  have unsigned : x.isNegative = false := isNegative_of_pos hx.pos
  have unsigned' : y.isNegative = false := isNegative_of_pos hy.pos
  have nonzero : ¬ (x.magnitude = 0 ∨ y.magnitude = 0) := by
    rintro (zero | zero)
    · exact magnitude_ne_zero (isPositive_iff.2 hx.pos) zero
    · exact magnitude_ne_zero (isPositive_iff.2 hy.pos) zero
  -- Short numbers that are not too small have few decimals, so their product does not vanish.
  have kept : ¬ (x.isShort && y.isShort && 47 < x.scale + y.scale) = true := by
    simp only [Bool.and_eq_true, decide_eq_true_eq]
    rintro ⟨⟨short, short'⟩, many⟩
    have := hx.scale_le short
    have := hy.scale_le short'
    omega
  have product : x.toRat * y.toRat
      = (x.magnitude * y.magnitude : ℕ) / 10 ^ (x.scale + y.scale) := by
    rw [toRat_of_unsigned unsigned, toRat_of_unsigned unsigned', div_mul_div_comm, pow_add]
    push_cast
    rfl
  have small : x.toRat * y.toRat ≤ 10 ^ 28 := by
    calc x.toRat * y.toRat ≤ 10 ^ 13 * 10 ^ 13 :=
          mul_le_mul hx.2 hy.2 hy.pos.le (by positivity)
      _ ≤ 10 ^ 28 := by norm_num
  obtain ⟨z, fit, rounded⟩ := exists_fit? product small
  refine ⟨z, ?_, rounded.abs_sub_le (mul_pos hx.pos hy.pos).le⟩
  rw [mul?, if_neg nonzero, if_neg kept, unsigned, unsigned']
  apply fit

/-! ### Significant digits -/

/-- A number with `n` digits is less than the `n`-th power of ten. -/
theorem magnitude_lt (x : Decimal) : x.magnitude < 10 ^ x.digitCount
  := (Nat.length_toDigits_le_iff (by decide) Nat.length_toDigits_pos).1 le_rfl

/-- A number with more than `n` digits is at least the `n`-th power of ten. -/
theorem le_magnitude {n : ℕ} (positive : 0 < n) (many : n < x.digitCount) :
  10 ^ n ≤ x.magnitude
  := by
  rw [← Nat.not_lt, ← Nat.length_toDigits_le_iff (by decide) positive]
  exact Nat.not_le.2 many

/-- The digits that are kept of a number are near the number. -/
theorem isNear_kept {digits : ℕ} (positive : 0 < digits) (many : digits < x.digitCount) :
  IsNear (1 / (2 * 10 ^ (digits - 1))) (x.magnitude / 10 ^ (x.digitCount - digits))
    (divHalfEven x.magnitude (Nat.pow 10 (x.digitCount - digits)))
  := by
  have near : |(divHalfEven x.magnitude (Nat.pow 10 (x.digitCount - digits)) : ℚ)
      - x.magnitude / (Nat.pow 10 (x.digitCount - digits) : ℕ)| ≤ 1 / 2 :=
    abs_divHalfEven_sub_le x.magnitude (Nat.pow_pos (by decide))
  have least : (10 : ℕ) ^ (digits - 1) * 10 ^ (x.digitCount - digits) ≤ x.magnitude := by
    rw [← pow_add, show digits - 1 + (x.digitCount - digits) = x.digitCount - 1 by omega]
    apply le_magnitude (by omega) (by omega)
  have least : (10 : ℚ) ^ (digits - 1) * 10 ^ (x.digitCount - digits) ≤ x.magnitude := by
    exact_mod_cast least
  rw [cast_pow_ten] at near
  apply near.trans
  rw [div_mul_div_comm, one_mul, div_le_div_iff₀ (by positivity) (by positivity)]
  linarith

/-- The digits that are kept of a number are not many more than the number has there. -/
theorem kept_le {digits : ℕ} (positive : 0 < digits) (many : digits < x.digitCount) :
  (divHalfEven x.magnitude (Nat.pow 10 (x.digitCount - digits)) : ℚ)
    ≤ 3 / 2 * (x.magnitude / 10 ^ (x.digitCount - digits))
  := by
  have half : (1 : ℚ) / (2 * 10 ^ (digits - 1)) ≤ 1 / 2 := by
    apply one_div_le_one_div_of_le two_pos
    have : (1 : ℚ) ≤ 10 ^ (digits - 1) := one_le_pow₀ (by norm_num)
    linarith
  have near := ((isNear_kept positive many).mono (by positivity) half).le
  linarith

theorem lt_of_le_three_halves {n : ℕ} (le : (n : ℚ) ≤ 3 / 2 * v) (small : v ≤ 10 ^ 28) :
  n < 2 ^ 96
  := by
  have less : (n : ℚ) < (2 ^ 96 : ℕ) := by
    calc (n : ℚ) ≤ 3 / 2 * v := le
      _ ≤ 3 / 2 * 10 ^ 28 := by gcongr
      _ < (2 ^ 96 : ℕ) := by norm_num
  exact_mod_cast less

/-- A number with few digits is padded with zeros. -/
theorem exists_roundSignificant?_of_le {digits : ℕ} (room : digits ≤ 28) (positive : 0 < x.toRat)
    (few : x.digitCount ≤ digits) :
  ∃ w, x.roundSignificant? digits = some w ∧ w.toRat = x.toRat
  := by
  have unsigned := isNegative_of_pos positive
  have scale := x.scale_le
  rw [roundSignificant?, if_neg (magnitude_ne_zero (isPositive_iff.2 positive)), unsigned,
    if_pos few]
  dsimp only
  have added : min (digits - x.digitCount) (28 - x.scale) + x.digitCount ≤ digits := by omega
  have places : x.scale + min (digits - x.digitCount) (28 - x.scale) ≤ 28 := by omega
  generalize min (digits - x.digitCount) (28 - x.scale) = zeros at *
  have fits : x.magnitude * Nat.pow 10 zeros < 2 ^ 96 := by
    calc x.magnitude * 10 ^ zeros < 10 ^ x.digitCount * 10 ^ zeros := by
          gcongr
          apply x.magnitude_lt
      _ = 10 ^ (x.digitCount + zeros) := (pow_add _ _ _).symm
      _ ≤ 10 ^ 28 := Nat.pow_le_pow_right (by decide) (by omega)
      _ ≤ 2 ^ 96 := by norm_num
  obtain ⟨w, found, value⟩ := exists_ofParts?_of_lt fits places
  refine ⟨w, found, ?_⟩
  rw [value, toRat_of_unsigned unsigned, Nat.cast_mul, cast_pow_ten, pow_add]
  apply mul_div_mul_right _ _ (ten_pow_pos zeros).ne'

/-- A number with many digits is rounded. -/
theorem exists_roundSignificant?_of_lt {digits : ℕ} (some : 0 < digits) (room : digits ≤ 28)
    (positive : 0 < x.toRat) (small : x.toRat ≤ 10 ^ 28) (many : digits < x.digitCount) :
  ∃ w, x.roundSignificant? digits = .some w
    ∧ IsNear (1 / (2 * 10 ^ (digits - 1))) x.toRat w.toRat
  := by
  have unsigned := isNegative_of_pos positive
  have near := isNear_kept some many
  have kept := kept_le some many
  have few : (x.magnitude : ℚ) / 10 ^ (x.digitCount - digits) ≤ 10 ^ 28 := by
    rw [div_le_iff₀ (by positivity), ← pow_add]
    apply le_trans (Nat.cast_le.2 x.magnitude_lt.le)
    push_cast
    exact pow_le_pow_right₀ (by norm_num) (by omega)
  rw [roundSignificant?, if_neg (magnitude_ne_zero (isPositive_iff.2 positive)), unsigned,
    if_neg (Nat.not_le.2 many)]
  dsimp only
  generalize x.digitCount - digits = dropped at *
  generalize divHalfEven x.magnitude (Nat.pow 10 dropped) = n at *
  split
  · -- All dropped digits stand after the point.
    rename_i decimals
    have fits : n < 2 ^ 96 := lt_of_le_three_halves kept few
    have room : x.scale - dropped ≤ 28 := (Nat.sub_le _ _).trans x.scale_le
    obtain ⟨w, found, value⟩ := exists_ofParts?_of_lt fits room
    refine ⟨w, found, ?_⟩
    have scaled := near.mul_right (c := 1 / 10 ^ (x.scale - dropped)) (by positivity)
    have split : (10 : ℚ) ^ x.scale = 10 ^ dropped * 10 ^ (x.scale - dropped) := by
      rw [← pow_add, Nat.add_sub_cancel' decimals]
    rwa [mul_one_div, mul_one_div, div_div, ← split, ← toRat_of_unsigned unsigned, ← value]
      at scaled
  · -- Zeros are put in the place of those before the point.
    rename_i whole
    have scaled := near.mul_right (c := 10 ^ (dropped - x.scale)) (by positivity)
    have split : (10 : ℚ) ^ dropped = 10 ^ x.scale * 10 ^ (dropped - x.scale) := by
      rw [← pow_add, Nat.add_sub_cancel' (by omega)]
    have value : x.toRat = x.magnitude / 10 ^ dropped * 10 ^ (dropped - x.scale) := by
      rw [toRat_of_unsigned unsigned, split]
      field_simp
    have fits : n * Nat.pow 10 (dropped - x.scale) < 2 ^ 96 := by
      apply lt_of_le_three_halves _ small
      rw [value, ← mul_assoc, Nat.cast_mul, cast_pow_ten]
      gcongr
    obtain ⟨w, found, value'⟩ := exists_ofParts?_of_lt fits (Nat.zero_le 28)
    refine ⟨w, found, ?_⟩
    rw [value', value, pow_zero, div_one, Nat.cast_mul, cast_pow_ten]
    apply scaled

/-- Keeping some digits of a number changes it by a fraction of its value. -/
theorem exists_roundSignificant? {digits : ℕ} (some : 0 < digits) (room : digits ≤ 28)
    (positive : 0 < x.toRat) (small : x.toRat ≤ 10 ^ 28) :
  ∃ w, x.roundSignificant? digits = .some w
    ∧ IsNear (1 / (2 * 10 ^ (digits - 1))) x.toRat w.toRat
  := by
  by_cases few : x.digitCount ≤ digits
  · obtain ⟨w, found, same⟩ := exists_roundSignificant?_of_le room positive few
    refine ⟨w, found, ?_⟩
    rw [same]
    apply IsNear.refl (by positivity) positive.le
  · apply exists_roundSignificant?_of_lt some room positive small (Nat.lt_of_not_le few)

end Decimal

end CrossRate
