import CrossRate.Markup.Reader
import CrossRate.Proofs.Text.Encoding
import Mathlib.Data.List.Nodup

/-!
# Writing markup

A document is written as a sequence of texts and tags (`Item.write`). Its tags are read back
as they were written (`pieces?_write`), and if they are balanced the document is well formed
(`read?_write`).
-/

namespace CrossRate.Markup

open Text (byte encodeChars)

/-- Whether a character has a meaning of its own in a tag. -/
def isSpecial (c : Char) : Bool := ['<', '>', '&', '"', '\''].contains c

/-- A text without special characters, which stands for itself in quotes. -/
structure PlainText where
  chars : List Char
  plain : chars.all (!isSpecial ·) = true

/-- A name of letters and digits, for tags and for keys of attributes. -/
structure Name where
  chars : List Char
  nonempty : chars ≠ []
  alphanumeric : chars.all Char.isAlphanum = true

/-- An attribute as it is written. -/
structure Attribute where
  key : Name
  value : PlainText

/-- What stands between the brackets of an opening tag. -/
structure Opening where
  name : Name
  attributes : List Attribute
  distinct : (attributes.map (·.key.chars)).Nodup

/-- A part of a document. -/
inductive Item where
  /-- A text between tags. -/
  | text (chars : List Char) (unbracketed : chars.contains '<' = false)
  | start (opening : Opening)
  | empty (opening : Opening)
  | close (name : Name)

namespace Attribute

def write (a : Attribute) : List Char :=
  ' ' :: (a.key.chars ++ '=' :: '"' :: (a.value.chars ++ ['"']))

/-- What is read of an attribute. -/
def entry (a : Attribute) : Bytes × String := (encodeChars a.key.chars, String.ofList a.value.chars)

end Attribute

namespace Opening

def write (o : Opening) : List Char := o.name.chars ++ o.attributes.flatMap Attribute.write

/-- What is read of an opening tag. -/
def tag (o : Opening) : Tag := ⟨encodeChars o.name.chars, some (o.attributes.map Attribute.entry)⟩

end Opening

namespace Item

def write : Item → List Char
  | text chars _ => chars
  | start opening => '<' :: (opening.write ++ ['>'])
  | empty opening => '<' :: (opening.write ++ ['/', '>'])
  | close name => '<' :: '/' :: (name.chars ++ ['>'])

/-- What is read of a part of a document. -/
def piece? : Item → Option Piece
  | text .. => none
  | start opening => some (.start opening.tag)
  | empty opening => some (.empty opening.tag)
  | close name => some (.close (encodeChars name.chars))

end Item

/-! ### Bytes -/

/-- A name has none of the ASCII characters that are neither letters nor digits. -/
theorem Name.byte_not_mem (name : Name) {m : Char} (ascii : m.toNat < 0x80)
    (other : m.isAlphanum = false) :
  byte m ∉ encodeChars name.chars
  := by
  intro h
  have alphanumeric := List.all_eq_true.1 name.alphanumeric m
    (Text.mem_of_byte_mem_encodeChars ascii h)
  rw [other] at alphanumeric
  contradiction

/-- The bytes of a name are not blank. -/
theorem Name.isBlank_of_mem (name : Name) {b : UInt8} (h : b ∈ encodeChars name.chars) :
  isBlank b = false
  := by
  have other {m : Char} (ascii : m.toNat < 0x80) (hm : m.isAlphanum = false) : b ≠ byte m := by
    rintro rfl
    apply name.byte_not_mem ascii hm h
  have space : b ≠ 0x20 := other (m := ' ') (by decide) (by decide)
  have tab : b ≠ 0x09 := other (m := '\t') (by decide) (by decide)
  have lineFeed : b ≠ 0x0A := other (m := '\n') (by decide) (by decide)
  have return_ : b ≠ 0x0D := other (m := '\r') (by decide) (by decide)
  simp [isBlank, space, tab, lineFeed, return_]

theorem Name.exists_cons (name : Name) : ∃ b bs, encodeChars name.chars = b :: bs
  := by
  apply List.exists_cons_of_ne_nil
  rw [Ne, Text.encodeChars_eq_nil_iff]
  apply name.nonempty

theorem PlainText.byte_not_mem (text : PlainText) {m : Char} (special : isSpecial m = true) :
  byte m ∉ encodeChars text.chars
  := by
  intro h
  have ascii : m.toNat < 0x80 := by
    simp only [isSpecial, List.contains_eq_mem, List.mem_cons, List.not_mem_nil, or_false,
      decide_eq_true_eq] at special
    obtain rfl | rfl | rfl | rfl | rfl := special <;> decide
  have plain := List.all_eq_true.1 text.plain m (Text.mem_of_byte_mem_encodeChars ascii h)
  rw [special] at plain
  contradiction

/-- The bytes of an attribute. -/
def Attribute.bytes (a : Attribute) : Bytes :=
  byte ' ' :: (encodeChars a.key.chars
    ++ byte '=' :: byte '"' :: (encodeChars a.value.chars ++ [byte '"']))

theorem encodeChars_write_attribute (a : Attribute) : encodeChars a.write = a.bytes
  := by
  simp only [Attribute.write, Attribute.bytes, Text.encodeChars_cons, Text.encodeChars_append,
    Text.encodeChars_nil, Text.utf8EncodeChar_ascii (c := ' ') (by decide),
    Text.utf8EncodeChar_ascii (c := '=') (by decide),
    Text.utf8EncodeChar_ascii (c := '"') (by decide)]
  simp

/-- The bytes of what stands between the brackets of an opening tag. -/
def Opening.bytes (o : Opening) : Bytes :=
  encodeChars o.name.chars ++ o.attributes.flatMap Attribute.bytes

theorem encodeChars_write_opening (o : Opening) : encodeChars o.write = o.bytes
  := by
  rw [Opening.write, Opening.bytes, Text.encodeChars_append]
  congr 1
  induction o.attributes with
  | nil => rfl
  | cons a attributes ih =>
    rw [List.flatMap_cons, List.flatMap_cons, Text.encodeChars_append,
      encodeChars_write_attribute, ih]

/-! ### Attributes -/

theorem takeWhile_append_cons {p : UInt8 → Bool} {bs rest : Bytes} {b : UInt8}
    (h : ∀ b ∈ bs, p b = true) (hb : p b = false) :
  (bs ++ b :: rest).takeWhile p = bs
  := by
  rw [List.takeWhile_append_of_pos h, List.takeWhile_cons_of_neg (by simp [hb]), List.append_nil]

theorem dropWhile_append_cons {p : UInt8 → Bool} {bs rest : Bytes} {b : UInt8}
    (h : ∀ b ∈ bs, p b = true) (hb : p b = false) :
  (bs ++ b :: rest).dropWhile p = b :: rest
  := by
  rw [List.dropWhile_append_of_pos h, List.dropWhile_cons_of_neg (by simp [hb])]

/-- A value in quotes is read up to the quote that closes it. -/
theorem quotedValue?_value (value : PlainText) (rest : Bytes) :
  quotedValue? (byte '"' :: (encodeChars value.chars ++ byte '"' :: rest))
    = some (encodeChars value.chars, rest)
  := by
  have inside : ∀ b ∈ encodeChars value.chars, decide (b ≠ byte '"') = true := by
    intro b hb
    rw [decide_eq_true_eq]
    rintro rfl
    apply value.byte_not_mem (by decide) hb
  rw [quotedValue?, if_pos (by decide), dropWhile_append_cons inside (by simp),
    takeWhile_append_cons inside (by simp)]

/-- The bytes of a name belong to a key. -/
theorem Name.inKey_of_mem (name : Name) {b : UInt8} (h : b ∈ encodeChars name.chars) :
  inKey b = true
  := by
  have other : b ≠ byte '=' := by
    rintro rfl
    apply name.byte_not_mem (by decide) (by decide) h
  simp [inKey, other, name.isBlank_of_mem h]

/-- An attribute is read up to the end of its value. -/
theorem attribute?_bytes {a : Attribute} {first : UInt8} {key : Bytes}
    (h : encodeChars a.key.chars = first :: key) (rest : Bytes) :
  attribute? first
      (key ++ byte '=' :: byte '"' :: (encodeChars a.value.chars ++ byte '"' :: rest))
    = some ((first :: key, encodeChars a.value.chars), rest)
  := by
  have inside : ∀ b ∈ key, inKey b = true := by
    intro b hb
    apply a.key.inKey_of_mem
    rw [h]
    apply List.mem_cons_of_mem _ hb
  rw [attribute?, dropWhile_append_cons inside (by decide),
    List.dropWhile_cons_of_neg (by decide)]
  dsimp only
  rw [if_pos rfl, List.dropWhile_cons_of_neg (by decide), quotedValue?_value, Option.map_some,
    takeWhile_append_cons inside (by decide)]

theorem rawAttributes?_cons (a : Attribute) (rest : Bytes) :
  rawAttributes? (a.bytes ++ rest)
    = (rawAttributes? rest).map ((encodeChars a.key.chars, encodeChars a.value.chars) :: ·)
  := by
  obtain ⟨first, key, split⟩ := a.key.exists_cons
  have start : (a.bytes ++ rest).dropWhile isBlank
      = first
          :: (key ++ byte '=' :: byte '"' :: (encodeChars a.value.chars ++ byte '"' :: rest)) := by
    have visible := a.key.isBlank_of_mem (b := first) (by simp [split])
    rw [Attribute.bytes, split, List.cons_append, List.dropWhile_cons_of_pos (by decide)]
    simp [List.dropWhile_cons_of_neg, visible]
  rw [rawAttributes?]
  split
  · rename_i none_left
    rw [start] at none_left
    cases none_left
  · rename_i read
    rw [start] at read
    cases read
    split
    · rename_i entry after read
      rw [attribute?_bytes split] at read
      cases read
      rw [split]
    · rename_i unread
      rw [attribute?_bytes split] at unread
      cases unread

theorem rawAttributes?_flatMap (attributes : List Attribute) :
  rawAttributes? (attributes.flatMap Attribute.bytes)
    = some (attributes.map (fun a => (encodeChars a.key.chars, encodeChars a.value.chars)))
  := by
  induction attributes with
  | nil =>
    rw [List.flatMap_nil, rawAttributes?]
    rfl
  | cons a attributes ih => rw [List.flatMap_cons, rawAttributes?_cons, ih]; rfl

/-- What has no ampersands has no entities. -/
theorem unescape?_eq_self {cs : List Char} (h : '&' ∉ cs) : unescape? cs = some cs
  := by
  induction cs with
  | nil => rw [unescape?]
  | cons c cs ih =>
    rw [List.mem_cons, not_or] at h
    rw [unescape?, if_neg (Ne.symm h.1), ih h.2, Option.map_some]

theorem valueText?_value (value : PlainText) :
  valueText? (encodeChars value.chars) = some (String.ofList value.chars)
  := by
  have no_entities : '&' ∉ value.chars := by
    intro h
    have := List.all_eq_true.1 value.plain '&' h
    contradiction
  rw [valueText?, Text.decodeChars?_encodeChars]
  simp only [Option.bind_eq_bind, Option.bind_some, unescape?_eq_self no_entities]
  rfl

/-- The attributes of an opening tag are read back. -/
theorem attributes?_bytes (o : Opening) :
  attributes? (o.attributes.flatMap Attribute.bytes) = some (o.attributes.map Attribute.entry)
  := by
  have distinct : ((o.attributes.map (fun a =>
      (encodeChars a.key.chars, encodeChars a.value.chars))).map (·.1)).Nodup := by
    have keys := List.Nodup.map Text.encodeChars_injective o.distinct
    simpa [Function.comp_def] using keys
  rw [attributes?, rawAttributes?_flatMap]
  simp only [Option.bind_eq_bind, Option.bind_some]
  rw [if_pos distinct]
  induction o.attributes with
  | nil => rfl
  | cons a attributes ih =>
    rw [List.map_cons, List.map_cons, List.mapM_cons, ih, valueText?_value]
    rfl

/-! ### Tags -/

theorem tagLength_plain {bs : Bytes}
    (h : ∀ b ∈ bs, b ≠ byte '>' ∧ b ≠ byte '"' ∧ b ≠ byte '\'') (rest : Bytes) :
  tagLength none (bs ++ rest) = bs.length + tagLength none rest
  := by
  induction bs with
  | nil => simp
  | cons b bs ih =>
    obtain ⟨bracket, double, single⟩ := h b List.mem_cons_self
    have later := ih (fun b hb => h b (List.mem_cons_of_mem _ hb))
    rw [List.cons_append, tagLength, if_neg bracket, if_neg (by simp [double, single]), later,
      List.length_cons]
    omega

/-- In quotes a tag does not end. -/
theorem tagLength_quoted {quote : UInt8} {bs : Bytes} (h : quote ∉ bs) (rest : Bytes) :
  tagLength (some quote) (bs ++ quote :: rest) = bs.length + 1 + tagLength none rest
  := by
  induction bs with
  | nil => simp [tagLength]
  | cons b bs ih =>
    obtain ⟨other, later⟩ := not_or.1 (mt List.mem_cons.2 h)
    rw [List.cons_append, tagLength, if_neg (Ne.symm other), ih later, List.length_cons]
    omega

/-- The bytes of a name neither end a tag nor open quotes. -/
theorem Name.ne_of_mem (name : Name) {b : UInt8} (h : b ∈ encodeChars name.chars) :
  b ≠ byte '>' ∧ b ≠ byte '"' ∧ b ≠ byte '\''
  := by
  have other {m : Char} (ascii : m.toNat < 0x80) (hm : m.isAlphanum = false) : b ≠ byte m := by
    rintro rfl
    apply name.byte_not_mem ascii hm h
  exact ⟨other (by decide) (by decide), other (by decide) (by decide),
    other (by decide) (by decide)⟩

theorem tagLength_attribute (a : Attribute) (rest : Bytes) :
  tagLength none (a.bytes ++ rest) = a.bytes.length + tagLength none rest
  := by
  have mark (m : UInt8) (hm : m ≠ byte '>' ∧ m ≠ byte '"' ∧ m ≠ byte '\'') (bs : Bytes) :
      tagLength none (m :: bs) = 1 + tagLength none bs :=
    @tagLength_plain [m] (by simpa using hm) bs
  have value := tagLength_quoted (a.value.byte_not_mem (m := '"') (by decide)) rest
  have key := tagLength_plain (fun b => a.key.ne_of_mem (b := b))
    (byte '=' :: byte '"' :: (encodeChars a.value.chars ++ byte '"' :: rest))
  rw [mark (byte '=') (by decide), tagLength, if_neg (by decide), if_pos (by decide), value] at key
  rw [Attribute.bytes, List.cons_append, mark (byte ' ') (by decide)]
  simp only [List.append_assoc, List.cons_append, List.nil_append, List.length_cons,
    List.length_append, List.length_nil]
  omega

/-- An opening tag extends beyond its attributes. -/
theorem tagLength_opening (o : Opening) (rest : Bytes) :
  tagLength none (o.bytes ++ rest) = o.bytes.length + tagLength none rest
  := by
  rw [Opening.bytes, List.append_assoc, tagLength_plain (fun b => o.name.ne_of_mem),
    List.length_append, Nat.add_assoc]
  congr 1
  induction o.attributes with
  | nil => simp
  | cons a attributes ih =>
    rw [List.flatMap_cons, List.append_assoc, tagLength_attribute, ih, List.length_append]
    omega

/-- An opening tag does not end in a slash by itself. -/
theorem getLast?_bytes_opening (o : Opening) : o.bytes.getLast? ≠ some (byte '/')
  := by
  rw [Opening.bytes]
  obtain none_left | ⟨attributes, a, split⟩ := o.attributes.eq_nil_or_concat
  · rw [none_left, List.flatMap_nil, List.append_nil]
    intro last
    apply o.name.byte_not_mem (m := '/') (by decide) (by decide) (List.mem_of_getLast? last)
  · have last : a.bytes = (byte ' ' :: (encodeChars a.key.chars
        ++ byte '=' :: byte '"' :: encodeChars a.value.chars)) ++ [byte '"'] := by
      simp [Attribute.bytes]
    rw [split, List.concat_eq_append, List.flatMap_append, List.flatMap_singleton, last,
      ← List.append_assoc, ← List.append_assoc, List.getLast?_concat]
    decide

/-- What stands between the brackets of an opening tag, and perhaps a slash, is read as its
tag. -/
theorem tagOf_opening (o : Opening) :
  tagOf o.bytes = .start o.tag ∧ tagOf (o.bytes ++ [byte '/']) = .empty o.tag
  := by
  have name : o.bytes.takeWhile (!isBlank ·) = encodeChars o.name.chars := by
    have visible : ∀ b ∈ encodeChars o.name.chars, (!isBlank b) = true := by
      intro b hb
      rw [o.name.isBlank_of_mem hb]
      rfl
    rw [Opening.bytes]
    cases o.attributes with
    | nil =>
      rw [List.flatMap_nil, List.takeWhile_append_of_pos visible, List.takeWhile_nil,
        List.append_nil]
    | cons a attributes =>
      rw [List.flatMap_cons, Attribute.bytes, List.cons_append,
        takeWhile_append_cons visible (by decide)]
  have attributes : attributes? (o.bytes.drop (encodeChars o.name.chars).length)
      = some (o.attributes.map Attribute.entry) := by
    rw [Opening.bytes, List.drop_left, attributes?_bytes]
  constructor
  · simp only [tagOf, getLast?_bytes_opening, ne_eq, not_false_eq_true, if_true, name,
      attributes]
    rfl
  · simp only [tagOf, List.getLast?_concat, ne_eq, not_true_eq_false, if_false,
      List.dropLast_concat, name, attributes]
    rfl

/-! ### Documents -/

/-- What precedes the first bracket is passed over. -/
theorem pieces?_text {bs : Bytes} (h : byte '<' ∉ bs) (rest : Bytes) :
  pieces? (bs ++ rest) = pieces? rest
  := by
  have same : (bs ++ rest).dropWhile (· ≠ byte '<') = rest.dropWhile (· ≠ byte '<') := by
    apply List.dropWhile_append_of_pos
    intro b hb
    rw [decide_eq_true_eq]
    rintro rfl
    apply h hb
  rw [pieces?, pieces?]
  split <;> rename_i start <;> rw [same] at start
  · rw [start]
  · rw [start]
  · rw [start]

/-- A construct is read after its opening bracket. -/
theorem pieces?_construct {first : UInt8} {rest : Bytes} {piece : Piece} {n : Nat}
    (h : construct? first rest = some (some piece, n)) :
  pieces? (byte '<' :: first :: rest) = (pieces? ((first :: rest).drop (n + 1))).map (piece :: ·)
  := by
  have start : (byte '<' :: first :: rest).dropWhile (· ≠ byte '<') = byte '<' :: first :: rest :=
    List.dropWhile_cons_of_neg (by simp)
  rw [pieces?]
  split <;> rename_i found <;> rw [start] at found
  · cases found
  · cases found
  · cases found
    rw [h]
    rfl

/-- A tag that starts with a name is read up to its closing bracket. -/
theorem pieces?_tag (inside : Bytes) (name : Name) (starts : encodeChars name.chars <+: inside)
    (length : ∀ rest, tagLength none (inside ++ byte '>' :: rest) = inside.length)
    (rest : Bytes) :
  pieces? (byte '<' :: (inside ++ byte '>' :: rest)) = (pieces? rest).map (tagOf inside :: ·)
  := by
  obtain ⟨first, bs, split⟩ := name.exists_cons
  obtain ⟨inside, rfl⟩ : ∃ later, inside = first :: later := by
    obtain ⟨later, rfl⟩ := starts
    rw [split]
    exact ⟨_, rfl⟩
  have other {m : Char} (ascii : m.toNat < 0x80) (hm : m.isAlphanum = false) : first ≠ byte m := by
    rintro rfl
    apply name.byte_not_mem ascii hm
    rw [split]
    apply List.mem_cons_self
  have construct : construct? first (inside ++ byte '>' :: rest)
      = some (some (tagOf (first :: inside)), (first :: inside).length) := by
    rw [construct?, if_neg (other (by decide) (by decide)), if_neg (other (by decide) (by decide)),
      if_neg (other (by decide) (by decide)), ← List.cons_append, length]
    dsimp only
    rw [List.take_left]
  rw [List.cons_append, pieces?_construct construct, ← List.cons_append,
    List.drop_length_add_append]
  rfl

/-- The name in a closing tag is all that stands in it. -/
theorem closingName_name (name : Name) :
  closingName (encodeChars name.chars) = encodeChars name.chars
  := by
  obtain ⟨b, bs, split⟩ := List.exists_cons_of_ne_nil
    (List.reverse_ne_nil_iff.2 (mt Text.encodeChars_eq_nil_iff.1 name.nonempty))
  have visible : isBlank b = false := by
    apply name.isBlank_of_mem
    rw [← List.mem_reverse, split]
    apply List.mem_cons_self
  rw [closingName]
  split
  · rfl
  · rw [split, List.dropWhile_cons_of_neg (by simp [visible]), ← split, List.reverse_reverse]

/-- A closing tag is read up to its bracket. -/
theorem pieces?_close (name : Name) (rest : Bytes) :
  pieces? (byte '<' :: byte '/' :: (encodeChars name.chars ++ byte '>' :: rest))
    = (pieces? rest).map (.close (encodeChars name.chars) :: ·)
  := by
  have inside : ∀ b ∈ encodeChars name.chars, decide (b ≠ byte '>') = true := by
    intro b hb
    simpa using (name.ne_of_mem hb).1
  have construct : construct? (byte '/') (encodeChars name.chars ++ byte '>' :: rest)
      = some (some (.close (encodeChars name.chars)), (encodeChars name.chars).length + 1) := by
    rw [construct?, if_neg (by decide), if_pos rfl]
    dsimp only
    rw [takeWhile_append_cons inside (by decide), closingName_name]
  rw [pieces?_construct construct]
  simp

/-- The bytes of a part of a document. -/
def Item.bytes : Item → Bytes
  | text chars _ => encodeChars chars
  | start opening => byte '<' :: (opening.bytes ++ [byte '>'])
  | empty opening => byte '<' :: (opening.bytes ++ [byte '/', byte '>'])
  | close name => byte '<' :: byte '/' :: (encodeChars name.chars ++ [byte '>'])

theorem encodeChars_write_item (item : Item) : encodeChars item.write = item.bytes
  := by
  cases item with
  | text => rfl
  | start opening =>
    simp [Item.write, Item.bytes, encodeChars_write_opening,
      Text.utf8EncodeChar_ascii (c := '<') (by decide),
      Text.utf8EncodeChar_ascii (c := '>') (by decide)]
  | empty opening =>
    simp [Item.write, Item.bytes, encodeChars_write_opening,
      Text.utf8EncodeChar_ascii (c := '<') (by decide),
      Text.utf8EncodeChar_ascii (c := '/') (by decide),
      Text.utf8EncodeChar_ascii (c := '>') (by decide)]
  | close name =>
    simp [Item.write, Item.bytes, Text.utf8EncodeChar_ascii (c := '<') (by decide),
      Text.utf8EncodeChar_ascii (c := '/') (by decide),
      Text.utf8EncodeChar_ascii (c := '>') (by decide)]

/-- A part of a document is read before what follows it. -/
theorem pieces?_item (item : Item) (rest : Bytes) :
  pieces? (item.bytes ++ rest) = (pieces? rest).map (item.piece?.toList ++ ·)
  := by
  cases item with
  | text chars unbracketed =>
    have outside : byte '<' ∉ encodeChars chars := by
      intro h
      have := Text.mem_of_byte_mem_encodeChars (by decide) h
      simp [this] at unbracketed
    rw [Item.bytes, pieces?_text outside]
    simp [Item.piece?]
  | start opening =>
    have tag := pieces?_tag opening.bytes opening.name (List.prefix_append _ _)
      (fun rest => by rw [tagLength_opening]; rfl) rest
    simpa [Item.bytes, Item.piece?, (tagOf_opening opening).1] using tag
  | empty opening =>
    have length (rest : Bytes) : tagLength none ((opening.bytes ++ [byte '/']) ++ byte '>' :: rest)
        = (opening.bytes ++ [byte '/']).length := by
      rw [List.append_assoc, tagLength_opening, List.length_append]
      rfl
    have tag := pieces?_tag (opening.bytes ++ [byte '/']) opening.name
      ((List.prefix_append _ _).trans (List.prefix_append _ _)) length rest
    simpa [Item.bytes, Item.piece?, (tagOf_opening opening).2] using tag
  | close name => simpa [Item.bytes, Item.piece?] using pieces?_close name rest

/-- The tags of a document are read back as they were written. -/
theorem pieces?_write (items : List Item) :
  pieces? (encodeChars (items.flatMap Item.write)) = some (items.filterMap Item.piece?)
  := by
  induction items with
  | nil =>
    rw [List.flatMap_nil, Text.encodeChars_nil, pieces?]
    rfl
  | cons item items ih =>
    rw [List.flatMap_cons, Text.encodeChars_append, encodeChars_write_item, pieces?_item, ih,
      Option.map_some, List.filterMap_cons]
    cases item.piece? <;> rfl

/-! ### Nesting -/

/-- Tags that close all elements that they open, and no others. -/
def IsBalanced (pieces : List Piece) : Prop :=
  ∀ opened rest, isNested opened (pieces ++ rest) = isNested opened rest

theorem isBalanced_nil : IsBalanced []
  := fun _ _ => rfl

theorem IsBalanced.append {earlier later : List Piece} (he : IsBalanced earlier)
    (hl : IsBalanced later) :
  IsBalanced (earlier ++ later)
  := by
  intro opened rest
  rw [List.append_assoc, he, hl]

theorem IsBalanced.flatMap {α : Type} {parts : List α} {pieces : α → List Piece}
    (h : ∀ part ∈ parts, IsBalanced (pieces part)) :
  IsBalanced (parts.flatMap pieces)
  := by
  induction parts with
  | nil => apply isBalanced_nil
  | cons part parts ih =>
    apply (h part List.mem_cons_self).append
    apply ih
    exact fun part hp => h part (List.mem_cons_of_mem _ hp)

theorem isBalanced_empty (tag : Tag) : IsBalanced [.empty tag]
  := fun _ _ => rfl

/-- An element is balanced if what is in it is. -/
theorem IsBalanced.element {tag : Tag} {pieces : List Piece} (h : IsBalanced pieces) :
  IsBalanced (.start tag :: (pieces ++ [.close tag.name]))
  := by
  intro opened rest
  rw [List.cons_append, isNested, List.append_assoc, h]
  simp [isNested]

/-- A balanced document is well formed, and its tags are read back as they were written. -/
theorem read?_write {items : List Item} (balanced : IsBalanced (items.filterMap Item.piece?))
    (unmarked : (items.flatMap Item.write).head? ≠ some '\ufeff') :
  read? (Text.encode (String.ofList (items.flatMap Item.write)))
    = some (items.filterMap Item.piece?)
  := by
  have nested : isNested [] (items.filterMap Item.piece?) = true := by
    rw [← List.append_nil (items.filterMap Item.piece?), balanced]
    rfl
  rw [read?, Text.encode_ofList, Text.skipByteOrderMark_encodeChars unmarked, pieces?_write,
    Option.filter_some, if_pos nested]

end CrossRate.Markup
