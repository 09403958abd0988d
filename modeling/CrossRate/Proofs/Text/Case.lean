import CrossRate.Text.Blank
import CrossRate.Text.Case
import Mathlib.Tactic.Common

/-!
# Case of ASCII letters

The case mappings of Unicode treat ASCII letters as `Char.toUpper` and `Char.toLower` do
(`Text.upperChar_of_isAlpha`, `Text.lowerChar_toLower`). The lower case of a text does not depend on
the case of its ASCII letters, although a capital sigma looks at the letters around it
(`Text.lowerAfter_toLower`).
-/

namespace CrossRate.Text

/-! ### ASCII characters -/

/-- What holds for the first 128 code points holds of all ASCII characters. -/
theorem forall_ascii {P : Char → Prop} (all : ∀ n : Fin 128, P (Char.ofNat n)) {c : Char}
    (ascii : c.toNat < 128) :
  P c
  := by
  have holds := all ⟨c.toNat, ascii⟩
  rw [Char.ofNat_toNat] at holds
  apply holds

theorem isAlpha_of_isUpper {c : Char} (capital : c.isUpper) : c.isAlpha
  := Bool.or_eq_true_iff.2 (.inl capital)

theorem lt_of_isAlpha {c : Char} (letter : c.isAlpha) : c.toNat < 128
  := by
  have bounded {last : Char} (le : c.val ≤ last.val) (ascii : last.toNat < 128) : c.toNat < 128 :=
    Nat.lt_of_le_of_lt (UInt32.le_iff_toNat_le.1 le) ascii
  obtain capital | small := Bool.or_eq_true_iff.1 letter
  · apply bounded (of_decide_eq_true capital).2 (by decide)
  · apply bounded (of_decide_eq_true (Bool.and_eq_true_iff.1 small).2) (by decide)

theorem isBlank_of_isAlpha {c : Char} (letter : c.isAlpha) : isBlank c = false
  := by
  have ascii := lt_of_isAlpha letter
  revert letter
  apply forall_ascii (P := fun c => c.isAlpha → isBlank c = false) (by decide) ascii

/-- The only characters that `Char.toLower` changes are ASCII capitals. -/
theorem toLower_of_le {c : Char} (other : 128 ≤ c.toNat) : c.toLower = c
  := by
  apply dif_neg
  intro capital
  have ascii := lt_of_isAlpha (isAlpha_of_isUpper (decide_eq_true capital))
  omega

/-- The upper case of a letter is one capital. -/
theorem upperChar_of_isAlpha {c : Char} (letter : c.isAlpha) :
  upperChar c = [c.toUpper] ∧ c.toUpper.isUpper
  := by
  have ascii := lt_of_isAlpha letter
  revert letter
  apply forall_ascii (P := fun c => c.isAlpha → upperChar c = [c.toUpper] ∧ c.toUpper.isUpper)
    (by decide) ascii

/-- A capital is its own upper case. -/
theorem upperChar_of_isUpper {c : Char} (capital : c.isUpper) : upperChar c = [c]
  := by
  have ascii : c.toNat < 128 := lt_of_isAlpha (isAlpha_of_isUpper capital)
  revert capital
  apply forall_ascii (P := fun c => c.isUpper → upperChar c = [c]) (by decide) ascii

/-- Capitals are their own upper case. -/
theorem flatMap_upperChar {cs : List Char} (capitals : ∀ c ∈ cs, c.isUpper) :
  cs.flatMap upperChar = cs
  := by
  induction cs with
  | nil => rfl
  | cons c cs ih =>
    obtain ⟨first, others⟩ := List.forall_mem_cons.1 capitals
    rw [List.flatMap_cons, upperChar_of_isUpper first, ih others, List.singleton_append]

/-! ### Lower case -/

theorem lowerChar_toLower (c : Char) : lowerChar c.toLower = lowerChar c
  := by
  by_cases ascii : c.toNat < 128
  · apply forall_ascii (P := fun c => lowerChar c.toLower = lowerChar c) (by decide) ascii
  · rw [toLower_of_le (Nat.le_of_not_lt ascii)]

/-- The rule of the final sigma does not tell a small letter from its capital. -/
theorem inRanges_toLower (c : Char) :
  inRanges c.toLower.toNat caseIgnorableRanges = inRanges c.toNat caseIgnorableRanges
    ∧ inRanges c.toLower.toNat casedRanges = inRanges c.toNat casedRanges
  := by
  by_cases ascii : c.toNat < 128
  · apply forall_ascii (P := fun c =>
      inRanges c.toLower.toNat caseIgnorableRanges = inRanges c.toNat caseIgnorableRanges
        ∧ inRanges c.toLower.toNat casedRanges = inRanges c.toNat casedRanges) (by decide) ascii
  · rw [toLower_of_le (Nat.le_of_not_lt ascii)]
    exact ⟨rfl, rfl⟩

theorem toLower_eq_sigma_iff (c : Char) : c.toLower = 'Σ' ↔ c = 'Σ'
  := by
  by_cases ascii : c.toNat < 128
  · apply forall_ascii (P := fun c => c.toLower = 'Σ' ↔ c = 'Σ') (by decide) ascii
  · rw [toLower_of_le (Nat.le_of_not_lt ascii)]

theorem startsCased_toLower (cs : List Char) :
  startsCased (cs.map Char.toLower) = startsCased cs
  := by
  induction cs with
  | nil => rfl
  | cons c cs ih =>
    obtain ⟨ignorable, cased⟩ := inRanges_toLower c
    rw [List.map_cons, startsCased, startsCased, ignorable, cased, ih]

/-- The case of the ASCII letters of a text, and of those before it, does not matter for its lower
case. -/
theorem lowerAfter_toLower (before cs : List Char) :
  lowerAfter (before.map Char.toLower) (cs.map Char.toLower) = lowerAfter before cs
  := by
  induction cs generalizing before with
  | nil => rfl
  | cons c cs ih =>
    have rest := ih (c :: before)
    rw [List.map_cons] at rest
    rw [List.map_cons, lowerAfter, lowerAfter, rest]
    simp only [toLower_eq_sigma_iff, startsCased_toLower, lowerChar_toLower]

end CrossRate.Text
