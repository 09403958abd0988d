import CrossRate.Calendar.Written
import Mathlib.Tactic.Common

/-!
# Reading back dates

A number that is written with enough digits is read back whatever follows it
(`readNumber?_padded`), and so is a date of the years 0 to 9999 that is written with dashes
(`parseTight?_print`). Where years may have a sign every date is read back (`parse?_print`).
-/

namespace CrossRate

/-- A text without blanks is left alone. -/
theorem Text.trimChars_eq_self {cs : List Char} (h : ∀ c ∈ cs, isBlank c = false) :
  trimChars cs = cs
  := by
  have kept {ds : List Char} (hd : ∀ c ∈ ds, isBlank c = false) : skipBlanks ds = ds := by
    cases ds with
    | nil => rfl
    | cons c ds => rw [skipBlanks, List.dropWhile_cons_of_neg (by simp [hd c])]
  have reversed : ∀ c ∈ cs.reverse, isBlank c = false := fun c hc => h c (List.mem_reverse.1 hc)
  rw [trimChars, kept h, kept reversed, List.reverse_reverse]

namespace CivilDate

/-- Months and days have at most two digits. -/
theorem month_afterMarch_le {year : Int} {days : Nat} (h : days < 366) :
  (afterMarch year days).month ≤ 12 ∧ (afterMarch year days).day ≤ 31
  := by
  simp only [afterMarch]
  split <;> dsimp only <;> omega

end CivilDate

namespace Date

open Text (isBlank skipBlanks digit?)

theorem month_civil_le (d : Date) : d.civil.month ≤ 12 ∧ d.civil.day ≤ 31
  := by
  apply CivilDate.month_afterMarch_le
  omega

/-! ### Digits -/

theorem digit?_of_isDigit {c : Char} (h : c.isDigit) : digit? c = some (c.toNat - '0'.toNat)
  := by
  apply if_pos
  simpa [Char.isDigit, Char.le_def] using h

/-- A digit is neither a blank nor a sign. -/
theorem ne_of_isDigit {c : Char} (h : c.isDigit) : isBlank c = false ∧ c ≠ '-' ∧ c ≠ '+'
  := by
  have range : 48 ≤ c.toNat ∧ c.toNat ≤ 57 := by
    simpa [Char.isDigit, Char.le_def, UInt32.le_iff_toNat_le] using h
  constructor
  · simp [isBlank, Text.inRanges, Text.blankRanges]
    omega
  constructor
  · rintro rfl
    simp at range
  · rintro rfl
    simp at range

/-- Digits are read onto a number, as many as are asked for or as there are. -/
theorem readDigits_append {ds : List Char} (digits : ∀ c ∈ ds, c.isDigit) {width : Nat}
    (fits : ds.length ≤ width) {rest : List Char}
    (ends : ds.length = width ∨ ∀ c ∈ rest.head?, digit? c = none) (n : Nat) :
  readDigits width n (ds ++ rest) = (Nat.ofDigitChars 10 ds n, rest)
  := by
  induction ds generalizing width n with
  | nil =>
    cases width with
    | zero => rfl
    | succ width =>
      cases rest with
      | nil => rfl
      | cons c rest =>
        have other : digit? c = none := (ends.resolve_left (by simp)) c rfl
        rw [List.nil_append, readDigits, other]
        rfl
  | cons c ds ih =>
    cases width with
    | zero => simp at fits
    | succ width =>
      rw [List.cons_append, readDigits, digit?_of_isDigit (digits c List.mem_cons_self)]
      dsimp only
      rw [ih (fun c hc => digits c (List.mem_cons_of_mem _ hc)) (Nat.le_of_succ_le_succ fits)
        (ends.imp_left Nat.succ.inj), Nat.ofDigitChars_cons]

theorem toList_padded (width n : Nat) :
  (padded width n).toList
    = List.replicate (width - (Nat.toDigits 10 n).length) '0' ++ Nat.toDigits 10 n
  := String.toList_ofList

theorem length_padded {width n : Nat} (fits : (Nat.toDigits 10 n).length ≤ width) :
  (padded width n).toList.length = width
  := by
  rw [toList_padded, List.length_append, List.length_replicate]
  omega

theorem ofDigitChars_padded (width n : Nat) : Nat.ofDigitChars 10 (padded width n).toList 0 = n
  := by
  rw [toList_padded, Nat.ofDigitChars_append, Nat.ofDigitChars_replicate_zero, Nat.mul_zero,
    Nat.ofDigitChars_toDigits (by decide) (by decide)]

/-- A number is written in digits only. -/
theorem isDigit_of_mem_padded {width n : Nat} {c : Char} (h : c ∈ (padded width n).toList) :
  c.isDigit
  := by
  rw [toList_padded, List.mem_append] at h
  obtain h | h := h
  · obtain ⟨-, rfl⟩ := List.mem_replicate.1 h
    rfl
  · apply Nat.isDigit_of_mem_toDigits (by decide) (by decide) h

/-- A number is written in at least one digit. -/
theorem exists_cons_padded (width n : Nat) :
  ∃ c ds, (padded width n).toList = c :: ds ∧ c.isDigit
  := by
  obtain ⟨c, ds, split⟩ : ∃ c ds, (padded width n).toList = c :: ds := by
    apply List.exists_cons_of_ne_nil
    rw [toList_padded]
    simp [Nat.toDigits_ne_nil]
  have first : c ∈ (padded width n).toList := by
    rw [split]
    apply List.mem_cons_self
  use c, ds, split
  apply isDigit_of_mem_padded first

/-- No blanks precede a number. -/
theorem skipBlanks_padded (width n : Nat) (rest : List Char) :
  skipBlanks ((padded width n).toList ++ rest) = (padded width n).toList ++ rest
  := by
  obtain ⟨c, ds, split, digit⟩ := exists_cons_padded width n
  rw [split, List.cons_append, skipBlanks,
    List.dropWhile_cons_of_neg (by simp [(ne_of_isDigit digit).1])]

/-- A number is read back if no more digits are asked for or no digit follows. -/
theorem readNumber?_padded {width n length : Nat}
    (fits : (padded width n).toList.length ≤ length) {rest : List Char}
    (ends : (padded width n).toList.length = length ∨ ∀ c ∈ rest.head?, digit? c = none) :
  readNumber? length ((padded width n).toList ++ rest) = some (n, rest)
  := by
  have read := readDigits_append (fun c => isDigit_of_mem_padded) fits ends 0
  rw [ofDigitChars_padded] at read
  have first : (((padded width n).toList ++ rest).head?.bind digit?).isSome := by
    obtain ⟨c, ds, split, digit⟩ := exists_cons_padded width n
    rw [split, List.cons_append, List.head?_cons, Option.bind_some, digit?_of_isDigit digit]
    rfl
  rw [readNumber?, if_pos first, read]

/-! ### Dates -/

/-- A month or a day is read back. -/
theorem readPart?_padded {n : Nat} (h : n ≤ 99) (rest : List Char) :
  readPart? ((padded 2 n).toList ++ rest) = some (n, rest)
  := by
  have two : (padded 2 n).toList.length = 2 := by
    apply length_padded
    rw [Nat.length_toDigits_le_iff (by decide) (by decide)]
    omega
  rw [readPart?, skipBlanks_padded, readNumber?_padded (Nat.le_of_eq two) (.inl two)]

/-- A year of at most four digits is read back. -/
theorem readYear?_padded {n : Nat} (h : n ≤ 9999) (rest : List Char) :
  readYear? ((padded 4 n).toList ++ rest) = some ((n : Int), rest)
  := by
  have four : (padded 4 n).toList.length = 4 := by
    apply length_padded
    rw [Nat.length_toDigits_le_iff (by decide) (by decide)]
    omega
  have read : readNumber? 4 ((padded 4 n).toList ++ rest) = some (n, rest) :=
    readNumber?_padded (Nat.le_of_eq four) (.inl four)
  rw [readYear?, skipBlanks_padded]
  obtain ⟨c, ds, split, digit⟩ := exists_cons_padded 4 n
  obtain ⟨-, minus, plus⟩ := ne_of_isDigit digit
  rw [split, List.cons_append] at read ⊢
  split
  · rename_i h
    cases h
    contradiction
  · rename_i h
    cases h
    contradiction
  · rw [read]
    rfl

/-- A date whose year is written in four digits. -/
def HasShortYear (d : Date) : Prop := 0 ≤ d.civil.year ∧ d.civil.year ≤ 9999

instance (d : Date) : Decidable d.HasShortYear := inferInstanceAs (Decidable (_ ∧ _))

theorem toList_print (d : Date) :
  d.print.toList
    = (printYear d.civil.year).toList
        ++ '-' :: ((padded 2 d.civil.month).toList ++ '-' :: ((padded 2 d.civil.day).toList ++ []))
  := by simp [print]

/-- A date with a short year is written as three numbers with dashes between them. -/
theorem HasShortYear.toList_print {d : Date} (h : d.HasShortYear) :
  d.print.toList
    = (padded 4 d.civil.year.toNat).toList
        ++ '-' :: ((padded 2 d.civil.month).toList ++ '-' :: ((padded 2 d.civil.day).toList ++ []))
  := by
  have nat : d.civil.year.natAbs = d.civil.year.toNat := by
    obtain ⟨low, -⟩ := h
    omega
  rw [Date.toList_print, printYear, if_neg (by have := h.1; omega), if_pos h.2, nat]

/-- A date with a short year is read back. -/
theorem parseTight?_print {d : Date} (h : d.HasShortYear) : parseTight? d.print.toList = some d
  := by
  have year : ((d.civil.year.toNat : Nat) : Int) = d.civil.year := Int.toNat_of_nonneg h.1
  obtain ⟨month, day⟩ := d.month_civil_le
  have readMonth := readPart?_padded (n := d.civil.month) (by omega)
  have readDay := readPart?_padded (n := d.civil.day) (by omega)
  rw [h.toList_print, parseTight?, readYear?_padded (by have := h.2; omega), year]
  simp only [Option.bind_eq_bind, Option.bind_some, readMark?, if_true, readMonth, readDay,
    List.isEmpty_nil]
  apply ofCivil?_civil

/-- No blanks are in a written date. -/
theorem trimChars_print {d : Date} (h : d.HasShortYear) :
  Text.trimChars d.print.toList = d.print.toList
  := by
  apply Text.trimChars_eq_self
  intro c hc
  simp only [h.toList_print, List.mem_append, List.mem_cons, List.not_mem_nil, or_false] at hc
  obtain hc | rfl | hc | rfl | hc := hc
  · apply (ne_of_isDigit (isDigit_of_mem_padded hc)).1
  · rfl
  · apply (ne_of_isDigit (isDigit_of_mem_padded hc)).1
  · rfl
  · apply (ne_of_isDigit (isDigit_of_mem_padded hc)).1

/-! ### Dates of any year -/

theorem readYear?_minus (cs : List Char) :
  readYear? ('-' :: cs) = (readNumber? cs.length cs).map (fun (n, rest) => (-n, rest))
  := rfl

theorem readYear?_plus (cs : List Char) :
  readYear? ('+' :: cs) = (readNumber? cs.length cs).map (fun (n, rest) => (n, rest))
  := rfl

/-- A year is read back before a dash. -/
theorem readYear?_printYear (year : Int) (rest : List Char) :
  readYear? ((printYear year).toList ++ '-' :: rest) = some (year, '-' :: rest)
  := by
  have dash : ∀ c ∈ ('-' :: rest).head?, digit? c = none := by
    rintro _ ⟨⟩
    rfl
  have read : readNumber? ((padded 4 year.natAbs).toList ++ '-' :: rest).length
      ((padded 4 year.natAbs).toList ++ '-' :: rest) = some (year.natAbs, '-' :: rest) :=
    readNumber?_padded (by simp) (.inr dash)
  rw [printYear]
  split
  · rename_i negative
    have value : -((year.natAbs : Nat) : Int) = year := by omega
    have sign : ("-" ++ padded 4 year.natAbs).toList = '-' :: (padded 4 year.natAbs).toList := by
      simp
    rw [sign, List.cons_append, readYear?_minus, read, Option.map_some]
    dsimp only
    rw [value]
  · split
    · rename_i short
      have value : ((year.natAbs : Nat) : Int) = year := by omega
      rw [readYear?_padded (by omega), value]
    · have value : ((year.natAbs : Nat) : Int) = year := by omega
      have sign : ("+" ++ padded 4 year.natAbs).toList = '+' :: (padded 4 year.natAbs).toList := by
        simp
      rw [sign, List.cons_append, readYear?_plus, read, Option.map_some]
      dsimp only
      rw [value]

/-- Every date is read back. -/
theorem parse?_print (d : Date) : parse? d.print = some d
  := by
  have dash (rest : List Char) : skipBlanks ('-' :: rest) = '-' :: rest := rfl
  obtain ⟨month, day⟩ := d.month_civil_le
  have readMonth := readPart?_padded (n := d.civil.month) (by omega)
  have readDay := readPart?_padded (n := d.civil.day) (by omega)
  rw [parse?, toList_print, readYear?_printYear]
  simp only [Option.bind_eq_bind, Option.bind_some, dash, readMark?, if_true, readMonth, readDay]
  apply ofCivil?_civil

end Date

end CrossRate
