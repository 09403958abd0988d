import CrossRate.Markup.Attribute

/-!
# Markup

A document is read into the sequence of its tags. Text, comments, instructions and the like
are passed over, but they must be complete. `read?` gives the tags of a document in which
every closing tag closes the innermost open element; elements may be left open.
-/

namespace CrossRate.Markup

open Text (byte)

/-- An opening tag. -/
structure Tag where
  /-- The whole name. -/
  name : Bytes
  /-- The attributes, unless one of them is malformed. -/
  attributes : Option (List (Bytes × String))

/-- A tag of a document. -/
inductive Piece where
  /-- The start of an element. -/
  | start (tag : Tag)
  /-- An element without content. -/
  | empty (tag : Tag)
  /-- The end of an element, given the name in the tag. -/
  | close (name : Bytes)

/-- What follows the first colon of a name, or the name if it has none. -/
def localName (name : Bytes) : Bytes :=
  match name.dropWhile (· ≠ byte ':') with
  | _ :: rest => rest
  | [] => name

/-- The number of bytes before the first closing bracket at which `accepts` holds of the
bytes before it, given last first. -/
def closing? (accepts : Bytes → Bool) (before : Bytes) : Bytes → Option Nat
  | [] => none
  | b :: rest =>
    if b = byte '>' && accepts before then some before.length
    else closing? accepts (b :: before) rest

/-- The number of bytes of a tag, up to the first closing bracket outside quotes or to the
end. -/
def tagLength (quote : Option UInt8) : Bytes → Nat
  | [] => 0
  | b :: rest =>
    match quote with
    | some q => 1 + tagLength (if b = q then none else some q) rest
    | none =>
      if b = byte '>' then 0
      else if b = byte '"' || b = byte '\'' then 1 + tagLength (some b) rest
      else 1 + tagLength none rest

/-- Whether bytes start with a word, its ASCII letters taken in either case. -/
def startsWithWord (word : String) (bs : Bytes) : Bool :=
  (bs.take word.length).map (fun b => (Char.ofNat b.toNat).toUpper) == word.toList

/-- The number of bytes of a construct that follows an exclamation mark: a section of
character data, a comment or a document type. -/
def declarationLength? (bs : Bytes) : Option Nat :=
  match bs.head? with
  | none => none
  | some b =>
    if b = byte '[' then
      if startsWithWord "[CDATA[" bs then
        closing? ([byte ']', byte ']'].isPrefixOf ·) [] bs
      else none
    else if b = byte '-' then
      if startsWithWord "--" bs then
        closing? (fun before => 4 ≤ before.length && [byte '-', byte '-'].isPrefixOf before) [] bs
      else none
    else if startsWithWord "DOCTYPE" bs then do
      let n ← closing? (fun before => before.count (byte '<') = before.count (byte '>')) [] bs
      if ((bs.take n).drop 7).all isBlank then none else some n
    else none

/-- The name in a closing tag, whose bytes follow the slash. Blanks after it do not belong to
it. -/
def closingName (bs : Bytes) : Bytes :=
  if bs.all isBlank then bs else (bs.reverse.dropWhile isBlank).reverse

/-- The tag whose bytes stand between its brackets. -/
def tagOf (bs : Bytes) : Piece :=
  let isOpen := bs.getLast? ≠ some (byte '/')
  let content := if isOpen then bs else bs.dropLast
  let name := content.takeWhile (!isBlank ·)
  let tag : Tag := ⟨name, attributes? (content.drop name.length)⟩
  if isOpen then .start tag else .empty tag

/-- The construct whose first byte follows an opening bracket: its tag, if it is one, and
the number of bytes up to its closing bracket. -/
def construct? (first : UInt8) (rest : Bytes) : Option (Option Piece × Nat) :=
  if first = byte '!' then (declarationLength? rest).map (fun n => (none, n + 1))
  else if first = byte '/' then
    let content := rest.takeWhile (· ≠ byte '>')
    some (some (.close (closingName content)), content.length + 1)
  else if first = byte '?' then
    let content := rest.takeWhile (· ≠ byte '>')
    if 2 ≤ content.length && content.getLast? = some (byte '?') then
      some (none, content.length + 1)
    else none
  else
    let n := tagLength none (first :: rest)
    some (some (tagOf ((first :: rest).take n)), n)

/-- The tags of a document, in order. -/
def pieces? (bs : Bytes) : Option (List Piece) :=
  match _start : bs.dropWhile (· ≠ byte '<') with
  | [] | [_] => some []
  | _ :: first :: rest =>
    match construct? first rest with
    | none => none
    | some (piece, n) => (pieces? ((first :: rest).drop (n + 1))).map (piece.toList ++ ·)
termination_by bs.length
decreasing_by
  have := (List.dropWhile_suffix (l := bs) (· ≠ byte '<')).length_le
  rw [_start] at this
  simp only [List.length_drop, List.length_cons] at this ⊢
  omega

/-- Whether every closing tag closes the innermost open element. -/
def isNested : List Bytes → List Piece → Bool
  | _, [] => true
  | opened, .start tag :: rest => isNested (tag.name :: opened) rest
  | opened, .empty _ :: rest => isNested opened rest
  | [], .close _ :: _ => false
  | innermost :: opened, .close name :: rest => innermost == name && isNested opened rest

/-- The tags of a document, if it is well formed. -/
def read? (document : Bytes) : Option (List Piece) :=
  (pieces? (Text.skipByteOrderMark document)).filter (isNested [])

end CrossRate.Markup
