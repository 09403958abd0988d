/-!
# Bytes and UTF-8

Payloads are lists of bytes. `nextScalar` reads one scalar value or the longest start of
one that the bytes allow; from it come `decode?`, which accepts well-formed text only, and
`decodeLossy`, which puts a replacement character in place of each ill-formed part.
-/

namespace CrossRate

/-- A sequence of bytes. -/
abbrev Bytes := List UInt8

namespace Text

/-- What stands at the start of a non-empty sequence of bytes. -/
inductive ScalarStep where
  /-- A scalar value, and what follows it. -/
  | scalar (c : Char) (rest : Bytes)
  /-- An ill-formed part, and what follows it. -/
  | illFormed (rest : Bytes)

/-- Whether a byte lies between two bounds. -/
def within (low high : Nat) (b : UInt8) : Bool := low ≤ b.toNat && b.toNat ≤ high

/-- The number of continuation bytes that a first byte asks for, the bounds of the first of
them, and the bits that the first byte itself holds. -/
def lead? (b : UInt8) : Option (Nat × Nat × Nat × Nat) :=
  let n := b.toNat
  if n < 0x80 then some (0, 0x80, 0xBF, n)
  else if within 0xC2 0xDF b then some (1, 0x80, 0xBF, n - 0xC0)
  else if n = 0xE0 then some (2, 0xA0, 0xBF, n - 0xE0)
  else if n = 0xED then some (2, 0x80, 0x9F, n - 0xE0)
  else if within 0xE1 0xEF b then some (2, 0x80, 0xBF, n - 0xE0)
  else if n = 0xF0 then some (3, 0x90, 0xBF, n - 0xF0)
  else if within 0xF1 0xF3 b then some (3, 0x80, 0xBF, n - 0xF0)
  else if n = 0xF4 then some (3, 0x80, 0x8F, n - 0xF0)
  else none

/-- Read `count` continuation bytes, the first of them between `low` and `high`, onto the
bits `acc`. -/
def continuation (low high : Nat) : Nat → Nat → Bytes → ScalarStep
  | 0, acc, bs => .scalar (Char.ofNat acc) bs
  | _ + 1, _, [] => .illFormed []
  | count + 1, acc, b :: rest =>
    if within low high b then continuation 0x80 0xBF count (acc * 64 + (b.toNat - 0x80)) rest
    else .illFormed (b :: rest)

/-- Read the scalar value that starts with the byte `b`, or the longest ill-formed part. -/
def nextScalar (b : UInt8) (rest : Bytes) : ScalarStep :=
  match lead? b with
  | some (count, low, high, bits) => continuation low high count bits rest
  | none => .illFormed rest

/-- The bytes after what was read. -/
def ScalarStep.rest : ScalarStep → Bytes
  | .scalar _ rest => rest
  | .illFormed rest => rest

/-- What remains after continuation bytes is no longer than what was there. -/
theorem continuation_length (low high count acc : Nat) (bs : Bytes) :
  (continuation low high count acc bs).rest.length ≤ bs.length
  := by
  induction count generalizing low high acc bs with
  | zero => simp [continuation, ScalarStep.rest]
  | succ n ih =>
    cases bs with
    | nil => simp [continuation, ScalarStep.rest]
    | cons b rest =>
      simp only [continuation]
      split
      · exact Nat.le_succ_of_le (ih _ _ _ rest)
      · simp [ScalarStep.rest]

/-- What remains after a step is no longer than what followed the first byte. -/
theorem nextScalar_length (b : UInt8) (bs : Bytes) :
  (nextScalar b bs).rest.length ≤ bs.length
  := by
  unfold nextScalar
  split
  · exact continuation_length _ _ _ _ _
  · simp [ScalarStep.rest]

/-- The characters of a text in UTF-8, if it is well formed. -/
def decodeChars? : Bytes → Option (List Char)
  | [] => some []
  | b :: bs =>
    match _read : nextScalar b bs with
    | .scalar c rest => (decodeChars? rest).map (c :: ·)
    | .illFormed _ => none
termination_by bs => bs.length
decreasing_by
  have := nextScalar_length b bs
  simp only [_read, ScalarStep.rest, List.length_cons] at this ⊢
  omega

/-- The characters of a text in UTF-8, with U+FFFD in place of each ill-formed part. -/
def decodeCharsLossy : Bytes → List Char
  | [] => []
  | b :: bs =>
    match _read : nextScalar b bs with
    | .scalar c rest => c :: decodeCharsLossy rest
    | .illFormed rest => '\ufffd' :: decodeCharsLossy rest
termination_by bs => bs.length
decreasing_by
  all_goals
    have := nextScalar_length b bs
    simp only [_read, ScalarStep.rest, List.length_cons] at this ⊢
    omega

/-- The text that bytes in UTF-8 hold, if they are well formed. -/
def decode? (bs : Bytes) : Option String := (decodeChars? bs).map String.ofList

/-- The text that bytes in UTF-8 hold, ill-formed parts replaced. -/
def decodeLossy (bs : Bytes) : String := String.ofList (decodeCharsLossy bs)

/-- The bytes of a text in UTF-8. -/
def encode (s : String) : Bytes := s.toByteArray.data.toList

/-- The byte of an ASCII character. -/
def byte (c : Char) : UInt8 := c.toNat.toUInt8

/-- The mark that may open a text in UTF-8. -/
def byteOrderMark : Bytes := [0xEF, 0xBB, 0xBF]

/-- Drop a byte order mark at the start. -/
def skipByteOrderMark (bs : Bytes) : Bytes :=
  if byteOrderMark.isPrefixOf bs then bs.drop byteOrderMark.length else bs

/-- Whether a byte is a blank of ASCII: a space, tab, form feed or line break. -/
def isAsciiBlank (b : UInt8) : Bool :=
  b == 0x20 || b == 0x09 || b == 0x0A || b == 0x0C || b == 0x0D

end Text

end CrossRate
