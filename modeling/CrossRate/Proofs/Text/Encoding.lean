import CrossRate.Text.Bytes
import Mathlib.Tactic.Common

/-!
# Reading back UTF-8

A text that is encoded is decoded to itself (`decodeChars?_encodeChars`). Bytes below 0x80
stand for themselves wherever they occur, so that a text can be divided at them before it is
decoded.
-/

namespace CrossRate.Text

/-- The bytes of characters in UTF-8. -/
def encodeChars (cs : List Char) : Bytes := cs.flatMap String.utf8EncodeChar

@[simp]
theorem encodeChars_nil : encodeChars [] = []
  := rfl

@[simp]
theorem encodeChars_cons (c : Char) (cs : List Char) :
  encodeChars (c :: cs) = String.utf8EncodeChar c ++ encodeChars cs
  := rfl

@[simp]
theorem encodeChars_append (cs ds : List Char) :
  encodeChars (cs ++ ds) = encodeChars cs ++ encodeChars ds
  := by apply List.flatMap_append

@[simp]
theorem encodeChars_eq_nil_iff {cs : List Char} : encodeChars cs = [] ↔ cs = []
  := by cases cs <;> simp [String.utf8EncodeChar_ne_nil]

theorem encode_ofList (cs : List Char) : encode (String.ofList cs) = encodeChars cs
  := by
  rw [encode, String.toByteArray_ofList, List.utf8Encode, List.toList_data_toByteArray]
  rfl

theorem encode_append (s t : String) : encode (s ++ t) = encode s ++ encode t
  := by simp [encode]

theorem encode_intercalate (s : String) (l : List String) :
  encode (s.intercalate l) = (encode s).intercalate (l.map encode)
  := by
  induction l with
  | nil => rfl
  | cons t l ih =>
    cases l with
    | nil => simp
    | cons u l =>
      rw [String.intercalate_cons_cons, encode_append, encode_append, ih]
      simp only [List.map_cons, List.intercalate_cons_cons]

/-- The number of the byte of a number, whose bound is a numeral here. -/
theorem toNat_ofNat {n : Nat} (h : n < 256) : (UInt8.ofNat n).toNat = n
  := by apply UInt8.toNat_ofNat_of_lt' h

/-- Whether the byte of a number lies between two bounds. -/
theorem within_ofNat {low high n : Nat} (h : n < 256) :
  within low high (UInt8.ofNat n) = (low ≤ n && n ≤ high)
  := by rw [within, toNat_ofNat h]

theorem lead?_of_lt {n : Nat} (h : n < 0x80) :
  lead? (UInt8.ofNat n) = some (0, 0x80, 0xBF, n)
  := by
  rw [lead?, toNat_ofNat (by omega)]
  apply if_pos h

theorem lead?_of_two {n : Nat} (low : 0xC2 ≤ n) (high : n ≤ 0xDF) :
  lead? (UInt8.ofNat n) = some (1, 0x80, 0xBF, n - 0xC0)
  := by
  rw [lead?, toNat_ofNat (by omega), if_neg (by omega), within_ofNat (by omega),
    if_pos (by simp [low, high])]

/-- The first byte of three. What it asks of the second one keeps out longer forms than
needed and the surrogates. -/
theorem lead?_of_three {n : Nat} (low : 0xE0 ≤ n) (high : n ≤ 0xEF) :
  lead? (UInt8.ofNat n)
    = some (2, if n = 0xE0 then 0xA0 else 0x80, if n = 0xED then 0x9F else 0xBF, n - 0xE0)
  := by
  simp only [lead?, toNat_ofNat (n := n) (by omega), within_ofNat (n := n) (by omega)]
  rw [if_neg (by omega), if_neg (by simp; omega)]
  by_cases first : n = 0xE0
  · simp [first]
  · by_cases surrogates : n = 0xED
    · simp [surrogates]
    · rw [if_neg first, if_neg surrogates, if_pos (by simp; omega), if_neg first,
        if_neg surrogates]

/-- The first byte of four. What it asks of the second one keeps out longer forms than
needed and numbers out of range. -/
theorem lead?_of_four {n : Nat} (low : 0xF0 ≤ n) (high : n ≤ 0xF4) :
  lead? (UInt8.ofNat n)
    = some (3, if n = 0xF0 then 0x90 else 0x80, if n = 0xF4 then 0x8F else 0xBF, n - 0xF0)
  := by
  simp only [lead?, toNat_ofNat (n := n) (by omega), within_ofNat (n := n) (by omega)]
  rw [if_neg (by omega), if_neg (by simp; omega), if_neg (by omega), if_neg (by omega),
    if_neg (by simp; omega)]
  by_cases first : n = 0xF0
  · simp [first]
  · by_cases last : n = 0xF4
    · simp [last]
    · rw [if_neg first, if_pos (by simp; omega), if_neg first, if_neg last]

/-- A continuation byte adds six bits. -/
theorem continuation_ofNat {low high n : Nat} (count acc : Nat) (rest : Bytes) (hl : low ≤ n)
    (hh : n ≤ high) (byte : n < 256) :
  continuation low high (count + 1) acc (UInt8.ofNat n :: rest)
    = continuation 0x80 0xBF count (acc * 64 + (n - 0x80)) rest
  := by
  rw [continuation, within_ofNat byte, if_pos (by simp [hl, hh]), toNat_ofNat byte]

theorem scalar_congr {m n : Nat} {rest : Bytes} (h : m = n) :
  ScalarStep.scalar (Char.ofNat m) rest = .scalar (Char.ofNat n) rest
  := by rw [h]

/-- A scalar value is read back from its bytes, whatever follows. -/
theorem nextScalar_utf8EncodeChar (c : Char) (rest : Bytes) :
  ∃ b bs, String.utf8EncodeChar c = b :: bs ∧ nextScalar b (bs ++ rest) = .scalar c rest
  := by
  have same : Char.ofNat c.val.toNat = c := c.ofNat_toNat
  have valid : c.val.toNat < 0xd800 ∨ 0xdfff < c.val.toNat ∧ c.val.toNat < 0x110000 := c.valid
  unfold String.utf8EncodeChar
  generalize c.val.toNat = v at same valid ⊢
  rw [← same]
  dsimp only
  split
  · refine ⟨_, _, rfl, ?_⟩
    rw [nextScalar, lead?_of_lt (by omega)]
    rfl
  split
  · refine ⟨_, _, rfl, ?_⟩
    rw [nextScalar, lead?_of_two (by omega) (by omega)]
    simp only [List.cons_append, List.nil_append]
    rw [continuation_ofNat _ _ _ (by omega) (by omega) (by omega), continuation]
    apply scalar_congr
    omega
  split
  · refine ⟨_, _, rfl, ?_⟩
    rw [nextScalar, lead?_of_three (by omega) (by omega)]
    simp only [List.cons_append, List.nil_append]
    rw [continuation_ofNat _ _ _ (by split <;> omega) (by split <;> omega) (by omega),
      continuation_ofNat _ _ _ (by omega) (by omega) (by omega), continuation]
    apply scalar_congr
    omega
  · refine ⟨_, _, rfl, ?_⟩
    rw [nextScalar, lead?_of_four (by omega) (by omega)]
    simp only [List.cons_append, List.nil_append]
    rw [continuation_ofNat _ _ _ (by split <;> omega) (by split <;> omega) (by omega),
      continuation_ofNat _ _ _ (by omega) (by omega) (by omega),
      continuation_ofNat _ _ _ (by omega) (by omega) (by omega), continuation]
    apply scalar_congr
    omega

/-- What has been encoded is decoded to itself. -/
theorem decodeChars?_encodeChars (cs : List Char) : decodeChars? (encodeChars cs) = some cs
  := by
  induction cs with
  | nil => rw [encodeChars_nil, decodeChars?]
  | cons c cs ih =>
    obtain ⟨b, bs, bytes, step⟩ := nextScalar_utf8EncodeChar c (encodeChars cs)
    rw [encodeChars_cons, bytes, List.cons_append, decodeChars?]
    split
    · rename_i c' rest read
      rw [step] at read
      cases read
      rw [ih, Option.map_some]
    · rename_i read
      rw [step] at read
      cases read

theorem encodeChars_injective : Function.Injective encodeChars
  := by
  intro cs ds h
  have decoded := congrArg decodeChars? h
  rw [decodeChars?_encodeChars, decodeChars?_encodeChars] at decoded
  apply Option.some.inj decoded

/-- A byte below 0x80 stands for itself only. -/
theorem eq_of_mem_utf8EncodeChar {c : Char} {b : UInt8} (h : b ∈ String.utf8EncodeChar c)
    (ascii : b.toNat < 0x80) :
  c.toNat = b.toNat
  := by
  have valid : c.val.toNat < 0xd800 ∨ 0xdfff < c.val.toNat ∧ c.val.toNat < 0x110000 := c.valid
  have same : c.toNat = c.val.toNat := rfl
  rw [same]
  unfold String.utf8EncodeChar at h
  generalize c.val.toNat = v at valid h ⊢
  have toNat (n : Nat) : (UInt8.ofNat n).toNat = n % 256 := UInt8.toNat_ofNat'
  dsimp only at h
  split at h
  · obtain rfl := List.mem_singleton.1 h
    rw [toNat]
    omega
  split at h
  · simp only [List.mem_cons, List.not_mem_nil, or_false] at h
    obtain rfl | rfl := h <;> rw [toNat] at ascii <;> omega
  split at h
  · simp only [List.mem_cons, List.not_mem_nil, or_false] at h
    obtain rfl | rfl | rfl := h <;> rw [toNat] at ascii <;> omega
  · simp only [List.mem_cons, List.not_mem_nil, or_false] at h
    obtain rfl | rfl | rfl | rfl := h <;> rw [toNat] at ascii <;> omega

/-- The byte of an ASCII character is there only if the character is. -/
theorem mem_of_byte_mem_encodeChars {cs : List Char} {m : Char} (ascii : m.toNat < 0x80)
    (h : byte m ∈ encodeChars cs) :
  m ∈ cs
  := by
  obtain ⟨c, hc, hb⟩ := List.mem_flatMap.1 h
  have number : (byte m).toNat = m.toNat := toNat_ofNat (by omega)
  have same := eq_of_mem_utf8EncodeChar hb (number ▸ ascii)
  obtain rfl : c = m := Char.toNat_inj.1 (same.trans number)
  apply hc

/-- An ASCII character is encoded as its byte. -/
theorem utf8EncodeChar_ascii {c : Char} (ascii : c.toNat < 0x80) :
  String.utf8EncodeChar c = [byte c]
  := by
  have low : c.val.toNat ≤ 0x7f := Nat.le_of_lt_succ ascii
  rw [String.utf8EncodeChar, if_pos low]
  rfl

/-- A text that does not start with a byte order mark does not start with the bytes of one. -/
theorem skipByteOrderMark_encodeChars {cs : List Char} (h : cs.head? ≠ some '\ufeff') :
  skipByteOrderMark (encodeChars cs) = encodeChars cs
  := by
  rw [skipByteOrderMark, if_neg]
  intro marked
  obtain ⟨rest, split⟩ := List.isPrefixOf_iff_prefix.1 marked
  cases cs with
  | nil => simp [byteOrderMark] at split
  | cons c cs =>
    obtain ⟨b, bs, bytes, step⟩ := nextScalar_utf8EncodeChar c (encodeChars cs)
    rw [encodeChars_cons, bytes, List.cons_append, byteOrderMark, List.cons_append] at split
    obtain ⟨rfl, following⟩ := List.cons.inj split
    rw [← following] at step
    have mark : nextScalar 0xEF ([0xBB, 0xBF] ++ rest) = .scalar '\ufeff' rest := rfl
    rw [mark] at step
    cases step
    apply h
    apply List.head?_cons

end CrossRate.Text
