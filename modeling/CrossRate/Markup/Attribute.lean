import CrossRate.Text.Bytes
import CrossRate.Text.Counting

/-!
# Attributes of tags

The attributes of a tag are its keys and the texts of their quoted values. `attributes?`
reads those of a whole tag, or nothing if one of them is malformed.
-/

namespace CrossRate.Markup

open Text (byte)

/-- Whether a byte is a blank: a space, a tab or a line break. -/
def isBlank (b : UInt8) : Bool := b == 0x20 || b == 0x09 || b == 0x0A || b == 0x0D

/-- The characters that entities stand for by their names. -/
def entityNames : List (String × Char) :=
  [("lt", '<'), ("gt", '>'), ("amp", '&'), ("apos", '\''), ("quot", '"')]

/-- The value of a hexadecimal digit. -/
def hexDigit? (c : Char) : Option Nat :=
  if 'a' ≤ c ∧ c ≤ 'f' then some (c.toNat - 'a'.toNat + 10)
  else if 'A' ≤ c ∧ c ≤ 'F' then some (c.toNat - 'A'.toNat + 10)
  else Text.digit? c

/-- The number of digits in a base, at most `width` of them; none at all stand for zero. -/
def codePoint? (width base : Nat) (digit? : Char → Option Nat) (cs : List Char) : Option Nat :=
  if width < cs.length then none
  else cs.foldlM (fun n c => (digit? c).map (base * n + ·)) 0

/-- The character of a code point, which is not zero. -/
def scalar? (n : Nat) : Option Char :=
  if n = 0 then none else if n.isValidChar then some (Char.ofNat n) else none

/-- The character that an entity stands for. -/
def entity? : List Char → Option Char
  | '#' :: 'x' :: digits => (codePoint? 6 16 hexDigit? digits).bind scalar?
  | '#' :: digits => (codePoint? 7 10 Text.digit? digits).bind scalar?
  | name => entityNames.lookup (String.ofList name)

/-- Whether a character is part of what stands between an ampersand and a semicolon. -/
def inEntity (c : Char) : Bool := c ≠ '&' && c ≠ ';'

/-- Put characters in place of the entities of a text. -/
def unescape? : List Char → Option (List Char)
  | [] => some []
  | c :: rest =>
    if c = '&' then
      if (rest.dropWhile inEntity).head? = some ';' then
        match entity? (rest.takeWhile inEntity) with
        | some c => (unescape? ((rest.dropWhile inEntity).drop 1)).map (c :: ·)
        | none => none
      else none
    else (unescape? rest).map (c :: ·)
termination_by cs => cs.length
decreasing_by
  · have := (List.dropWhile_suffix (l := rest) inEntity).length_le
    simp only [List.length_drop, List.length_cons]
    omega
  · simp

/-- Whether a byte continues the key of an attribute. -/
def inKey (b : UInt8) : Bool := b ≠ byte '=' && !isBlank b

/-- Read a value in quotes. -/
def quotedValue? : Bytes → Option (Bytes × Bytes)
  | [] => none
  | quote :: rest =>
    if quote = byte '"' || quote = byte '\'' then
      match rest.dropWhile (· ≠ quote) with
      | [] => none
      | _ :: after => some (rest.takeWhile (· ≠ quote), after)
    else none

/-- Read an attribute whose key starts with the first byte: its key, its value and what
follows it. -/
def attribute? (first : UInt8) (rest : Bytes) : Option ((Bytes × Bytes) × Bytes) :=
  match (rest.dropWhile inKey).dropWhile isBlank with
  | b :: value =>
    if b = byte '=' then
      (quotedValue? (value.dropWhile isBlank)).map (fun (value, after) =>
        ((first :: rest.takeWhile inKey, value), after))
    else none
  | [] => none

theorem quotedValue?_length {bs value after : Bytes} (h : quotedValue? bs = some (value, after)) :
  after.length ≤ bs.length
  := by
  cases bs with
  | nil => simp [quotedValue?] at h
  | cons quote rest =>
    simp only [quotedValue?] at h
    split at h
    · split at h
      · simp at h
      · rename_i heq
        have := (List.dropWhile_suffix (l := rest) (· ≠ quote)).length_le
        rw [heq] at this
        simp only [Option.some.injEq, Prod.mk.injEq] at h
        simp only [← h.2, List.length_cons] at this ⊢
        omega
    · simp at h

/-- What follows an attribute is no longer than what follows its first byte. -/
theorem attribute?_length {first : UInt8} {rest after : Bytes} {entry : Bytes × Bytes}
    (h : attribute? first rest = some (entry, after)) :
  after.length ≤ rest.length
  := by
  unfold attribute? at h
  have hkey := (List.dropWhile_suffix (l := rest) inKey).length_le
  have hblank := (List.dropWhile_suffix (l := rest.dropWhile inKey) isBlank).length_le
  split at h
  · rename_i b value heq
    have hvalue := (List.dropWhile_suffix (l := value) isBlank).length_le
    rw [heq, List.length_cons] at hblank
    split at h
    · simp only [Option.map_eq_some_iff] at h
      obtain ⟨⟨v, a⟩, hquoted, heq⟩ := h
      have := quotedValue?_length hquoted
      simp only [Prod.mk.injEq] at heq
      rw [← heq.2]
      omega
    · simp at h
  · simp at h

/-- The keys and values of the attributes in the bytes after the name of a tag. -/
def rawAttributes? (bs : Bytes) : Option (List (Bytes × Bytes)) :=
  match _start : bs.dropWhile isBlank with
  | [] => some []
  | first :: rest =>
    match _read : attribute? first rest with
    | some (entry, after) => (rawAttributes? after).map (entry :: ·)
    | none => none
termination_by bs.length
decreasing_by
  have hblank := (List.dropWhile_suffix (l := bs) isBlank).length_le
  have hafter := attribute?_length _read
  rw [_start, List.length_cons] at hblank
  omega

/-- The text of a value. -/
def valueText? (value : Bytes) : Option String := do
  return String.ofList (← unescape? (← Text.decodeChars? value))

/-- The attributes in the bytes after the name of a tag: no key occurs twice and every value
is text. -/
def attributes? (bs : Bytes) : Option (List (Bytes × String)) := do
  let entries ← rawAttributes? bs
  if (entries.map (·.1)).Nodup then
    entries.mapM (fun (key, value) => do return (key, ← valueText? value))
  else none

end CrossRate.Markup
