import CrossRate.Calendar.Period
import CrossRate.Proofs.Calendar.Written

/-!
# Reading back periods

A period is written as one number of seconds, or as hours and minutes, and perhaps seconds, with
colons between them (`Period.IsWritten`). Every such text is read if the period fits 64 bits, and no
other text is (`Period.parse?_eq_some_iff`).
-/

namespace CrossRate

/-! ### Numbers -/

namespace Text

/-- A number below a bound is written in ASCII digits, at least one of them, which a plus sign may
precede. -/
structure IsNatural (bound : Nat) (cs : List Char) (n : Nat) : Prop where
  written : ∃ digits : List Char, digits ≠ [] ∧ (∀ c ∈ digits, c.isDigit)
    ∧ (cs = digits ∨ cs = '+' :: digits) ∧ Nat.ofDigitChars 10 digits 0 = n
  lt_bound : n < bound

variable {bound n m : Nat} {cs : List Char} {c : Char}

theorem digit?_eq_some_iff : digit? c = some n ↔ c.isDigit ∧ c.toNat - '0'.toNat = n
  := by
  by_cases digit : c.isDigit
  · rw [Date.digit?_of_isDigit digit]
    simp [digit]
  · have none : digit? c = none := by
      apply if_neg
      simpa [Char.isDigit, Char.le_def] using digit
    simp [none, digit]

/-- Digits are read onto a number. -/
theorem digitsFrom_eq_some_iff :
  digitsFrom n cs = some m ↔ (∀ c ∈ cs, c.isDigit) ∧ Nat.ofDigitChars 10 cs n = m
  := by
  induction cs generalizing n with
  | nil => simp [digitsFrom, Nat.ofDigitChars]
  | cons c cs ih =>
    simp only [digitsFrom, Option.bind_eq_some_iff, digit?_eq_some_iff, ih, List.forall_mem_cons,
      Nat.ofDigitChars_cons, and_assoc, exists_and_left, exists_eq_left']

theorem digits?_eq_some_iff :
  digits? cs = some n ↔ cs ≠ [] ∧ (∀ c ∈ cs, c.isDigit) ∧ Nat.ofDigitChars 10 cs 0 = n
  := by
  cases cs with
  | nil => simp [digits?]
  | cons c cs => simp [digits?, digitsFrom_eq_some_iff]

/-- A number is read if it is written. -/
theorem natural?_eq_some_iff : natural? bound cs = some n ↔ IsNatural bound cs n
  := by
  simp only [natural?, Option.filter_eq_some_iff, decide_eq_true_eq]
  split
  · rename_i rest
    rw [digits?_eq_some_iff]
    constructor
    · rintro ⟨⟨some, digits, value⟩, lt⟩
      exact ⟨⟨rest, some, digits, .inr rfl, value⟩, lt⟩
    · rintro ⟨⟨ds, some, digits, rfl | same, value⟩, lt⟩
      · -- A plus sign is no digit.
        exact absurd (digits '+' List.mem_cons_self) (by decide)
      · obtain rfl := (List.cons.inj same).2
        exact ⟨⟨some, digits, value⟩, lt⟩
  · rename_i unsigned
    rw [digits?_eq_some_iff]
    constructor
    · rintro ⟨⟨some, digits, value⟩, lt⟩
      exact ⟨⟨cs, some, digits, .inl rfl, value⟩, lt⟩
    · rintro ⟨⟨ds, some, digits, rfl | same, value⟩, lt⟩
      · exact ⟨⟨some, digits, value⟩, lt⟩
      · exact absurd same (unsigned ds)

/-- What is not blank is not dropped. -/
theorem mem_trimChars (h : c ∈ cs) (black : isBlank c = false) : c ∈ trimChars cs
  := by
  have kept {ds : List Char} (mem : c ∈ ds) : c ∈ skipBlanks ds := by
    rw [← List.takeWhile_append_dropWhile (p := isBlank) (l := ds)] at mem
    obtain dropped | kept := List.mem_append.1 mem
    · have blank := List.all_eq_true.1 List.all_takeWhile c dropped
      simp [black] at blank
    · exact kept
  exact List.mem_reverse.2 (kept (List.mem_reverse.2 (kept h)))

/-- There is no colon in a number. -/
theorem IsNatural.colon_notMem (h : IsNatural bound cs n) : ':' ∉ cs
  := by
  intro colon
  obtain ⟨digits, -, digit, rfl | rfl, -⟩ := h.written
  · exact absurd (digit ':' colon) (by decide)
  · obtain sign | colon := List.mem_cons.1 colon
    · exact absurd sign (by decide)
    · exact absurd (digit ':' colon) (by decide)

/-- There is no colon in the blanks around a number either. -/
theorem IsNatural.colon_notMem_of_trimChars (h : IsNatural bound (trimChars cs) n) : ':' ∉ cs
  := fun colon => h.colon_notMem (mem_trimChars colon (by decide))

end Text

/-! ### Periods -/

namespace Period

open Text (IsNatural bound64 trimChars)

/-- A period is written as a number of seconds, or as hours, minutes and seconds with colons between
them, where the seconds may be left out. There may be blanks around each number. Minutes and seconds
are below 60, and the period fits 64 bits. -/
inductive IsWritten : List Char → Nat → Prop
  | seconds {text : List Char} {n : Nat} (number : IsNatural bound64 text n) : IsWritten text n
  | minutes {hours minutes : List Char} {h m : Nat}
    (hour : IsNatural bound64 (trimChars hours) h) (minute : IsNatural 60 (trimChars minutes) m)
    (fits : 3600 * h + 60 * m < bound64) :
    IsWritten (hours ++ ':' :: minutes) (3600 * h + 60 * m)
  | clock {hours minutes seconds : List Char} {h m s : Nat}
    (hour : IsNatural bound64 (trimChars hours) h) (minute : IsNatural 60 (trimChars minutes) m)
    (second : IsNatural 60 (trimChars seconds) s) (fits : 3600 * h + 60 * m + s < bound64) :
    IsWritten (hours ++ ':' :: minutes ++ ':' :: seconds) (3600 * h + 60 * m + s)

variable {n m : Nat} {part : List Char} {rest : List (List Char)}

theorem inRange?_eq_some_iff : inRange? n = some m ↔ n = m ∧ m < bound64
  := by
  rw [inRange?]
  split
  · rename_i lt
    simp only [Option.some.injEq]
    exact ⟨fun same => ⟨same, same ▸ lt⟩, And.left⟩
  · rename_i le
    simp only [reduceCtorEq, false_iff, not_and]
    rintro rfl
    exact le

/-- A part of a clock time is read onto the seconds before it, scaled to its unit. -/
theorem readParts?_cons_eq_some_iff :
  readParts? n (part :: rest) = some m
    ↔ ∃ k, IsNatural 60 (trimChars part) k ∧ 60 * n + k < bound64
        ∧ readParts? (60 * n + k) rest = some m
  := by
  simp only [readParts?, Option.bind_eq_bind, Option.bind_eq_some_iff, Text.natural?_eq_some_iff,
    inRange?_eq_some_iff, and_assoc, exists_eq_left']

theorem readParts?_nil_eq_some_iff : readParts? n [] = some m ↔ n = m
  := by simp [readParts?]

variable {hours minutes seconds : List Char} {s : String} {h k : Nat}

theorem splitOn_minutes (hour : IsNatural bound64 (trimChars hours) h)
    (minute : IsNatural 60 (trimChars minutes) m) :
  List.splitOn ':' (hours ++ ':' :: minutes) = [hours, minutes]
  := by
  rw [List.splitOn_append_cons_self, List.splitOn_eq_singleton hour.colon_notMem_of_trimChars,
    List.splitOn_eq_singleton minute.colon_notMem_of_trimChars]
  rfl

theorem splitOn_clock (hour : IsNatural bound64 (trimChars hours) h)
    (minute : IsNatural 60 (trimChars minutes) m) (second : IsNatural 60 (trimChars seconds) k) :
  List.splitOn ':' (hours ++ ':' :: minutes ++ ':' :: seconds) = [hours, minutes, seconds]
  := by
  rw [List.splitOn_append_cons_self, splitOn_minutes hour minute,
    List.splitOn_eq_singleton second.colon_notMem_of_trimChars]
  rfl

/-- What is read is written. -/
theorem isWritten_of_parse? (parsed : parse? s = some n) : IsWritten (trimChars s.toList) n
  := by
  rw [parse?] at parsed
  generalize trimChars s.toList = text at parsed ⊢
  have joined : [':'].intercalate (text.splitOn ':') = text := List.intercalate_splitOn ':'
  split at parsed
  · rename_i number split
    rw [split] at joined
    obtain rfl : number = text := by simpa using joined
    exact .seconds (Text.natural?_eq_some_iff.1 parsed)
  · rename_i hours minutes split
    rw [split] at joined
    obtain rfl : hours ++ ':' :: minutes = text := by simpa [List.intercalate] using joined
    simp only [Option.bind_eq_bind, Option.bind_eq_some_iff, Text.natural?_eq_some_iff,
      inRange?_eq_some_iff, readParts?_cons_eq_some_iff, readParts?_nil_eq_some_iff] at parsed
    obtain ⟨h, hour, _, ⟨m, minute, -, rfl⟩, rfl, fits⟩ := parsed
    have scaled : 60 * (60 * h + m) = 3600 * h + 60 * m := by omega
    rw [scaled] at fits ⊢
    exact .minutes hour minute fits
  · rename_i hours minutes seconds split
    rw [split] at joined
    obtain rfl : hours ++ ':' :: minutes ++ ':' :: seconds = text := by
      simpa [List.intercalate] using joined
    simp only [Option.bind_eq_bind, Option.bind_eq_some_iff, Text.natural?_eq_some_iff,
      readParts?_cons_eq_some_iff, readParts?_nil_eq_some_iff] at parsed
    obtain ⟨h, hour, m, minute, -, k, second, fits, rfl⟩ := parsed
    have scaled : 60 * (60 * h + m) + k = 3600 * h + 60 * m + k := by omega
    rw [scaled] at fits ⊢
    exact .clock hour minute second fits
  · cases parsed

/-- What is written is read: no number on the way is greater than the period. -/
theorem IsWritten.parse?_eq_some (written : IsWritten (trimChars s.toList) n) : parse? s = some n
  := by
  rw [parse?]
  generalize trimChars s.toList = text at written ⊢
  cases written with
  | seconds number =>
    rw [List.splitOn_eq_singleton number.colon_notMem]
    exact Text.natural?_eq_some_iff.2 number
  | @minutes hours minutes h m hour minute fits =>
    simp only [splitOn_minutes hour minute, Option.bind_eq_bind, Option.bind_eq_some_iff,
      Text.natural?_eq_some_iff, inRange?_eq_some_iff, readParts?_cons_eq_some_iff,
      readParts?_nil_eq_some_iff]
    exact ⟨h, hour, _, ⟨m, minute, by omega, rfl⟩, by omega, fits⟩
  | @clock hours minutes seconds h m k hour minute second fits =>
    simp only [splitOn_clock hour minute second, Option.bind_eq_bind, Option.bind_eq_some_iff,
      Text.natural?_eq_some_iff, readParts?_cons_eq_some_iff, readParts?_nil_eq_some_iff]
    exact ⟨h, hour, m, minute, by omega, k, second, by omega, by omega⟩

/-- A text is read as a period if it is the trimmed writing of one. -/
theorem parse?_eq_some_iff (s : String) (n : Nat) :
  parse? s = some n ↔ IsWritten (trimChars s.toList) n
  := ⟨isWritten_of_parse?, IsWritten.parse?_eq_some⟩

/-- The longest period, and one that is a second longer. -/
example : parse? "5124095576030431:00:15" = some (bound64 - 1)
    ∧ parse? "5124095576030431:00:16" = none := by decide +kernel

end Period

end CrossRate
