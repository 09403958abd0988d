import CrossRate.Grid
import CrossRate.Proofs.Text.Encoding

/-!
# Writing grids

`Grid.write` writes rows of cells, one row a line and a tab between the cells. If nothing in
the cells needs quotes the records of what is written are the rows again, those without
which are empty lines (`records_write`).
-/

namespace CrossRate

/-- What follows a part of a list that is divided by a separator. -/
def following {α : Type} (mark : α) : List (List α) → List α
  | [] => []
  | part :: parts => mark :: [mark].intercalate (part :: parts)

theorem intercalate_cons {α : Type} (mark : α) (part : List α) (parts : List (List α)) :
  [mark].intercalate (part :: parts) = part ++ following mark parts
  := by cases parts <;> simp [following]

/-- What stands in a divided list is the separator or stands in a part. -/
theorem mem_intercalate {α : Type} {mark a : α} {parts : List (List α)}
    (h : a ∈ [mark].intercalate parts) :
  a = mark ∨ ∃ part ∈ parts, a ∈ part
  := by
  induction parts with
  | nil => simp at h
  | cons part parts ih =>
    rw [intercalate_cons, List.mem_append] at h
    obtain h | h := h
    · right
      use part, List.mem_cons_self
    · cases parts with
      | nil => simp [following] at h
      | cons next parts =>
        obtain rfl | h := List.mem_cons.1 h
        · left
          rfl
        · obtain rfl | ⟨part, hp, h⟩ := ih h
          · left
            rfl
          · right
            use part, List.mem_cons_of_mem _ hp

/-- Encoding commutes with putting an ASCII character between parts. -/
theorem Text.encodeChars_intercalate {mark : Char} {b : UInt8} (hb : encodeChars [mark] = [b])
    (parts : List (List Char)) :
  encodeChars ([mark].intercalate parts) = [b].intercalate (parts.map encodeChars)
  := by
  induction parts with
  | nil => rfl
  | cons part parts ih =>
    rw [List.map_cons, intercalate_cons, intercalate_cons, encodeChars_append]
    congr 1
    cases parts with
    | nil => rfl
    | cons next parts =>
      rw [following, List.map_cons, following, ← List.singleton_append, encodeChars_append, hb,
        ih]
      rfl

namespace Grid

open Text (byte encodeChars)

/-- The text of a row. -/
def writeRow (row : List (List Char)) : List Char := ['\t'].intercalate row

/-- The text of a grid, given its rows. A line break at its end is that of a last row which is
an empty line. -/
def write (rows : List (List (List Char))) : String :=
  String.ofList (['\n'].intercalate (rows.map writeRow))

/-- Whether the line of a row is empty. -/
def isEmptyLine (row : List (List Char)) : Bool := (writeRow row).isEmpty

/-- Whether a character has a meaning of its own in a grid. -/
def isSpecial (c : Char) : Bool := ['\t', '\n', '\r', '"', '\ufeff'].contains c

/-- A byte that has no meaning of its own outside quotes. -/
structure IsPlain (b : UInt8) : Prop where
  noLineBreak : isLineBreak b = false
  noTab : b ≠ byte '\t'
  noQuote : b ≠ byte '"'

/-- The bytes of a text without special characters are plain. -/
theorem isPlain_of_mem_encodeChars {cs : List Char} (h : ∀ c ∈ cs, isSpecial c = false)
    {b : UInt8} (hb : b ∈ encodeChars cs) :
  IsPlain b
  := by
  have other (m : Char) (ascii : m.toNat < 0x80) (special : isSpecial m = true) :
      b ≠ byte m := by
    rintro rfl
    rw [h m (Text.mem_of_byte_mem_encodeChars ascii hb)] at special
    contradiction
  constructor
  · rw [isLineBreak, Bool.or_eq_false_iff, decide_eq_false_iff_not, decide_eq_false_iff_not]
    constructor
    · apply other <;> decide
    · apply other <;> decide
  · apply other <;> decide
  · apply other <;> decide

/-! ### Reading what is written -/

variable {place : Place} {cell : Bytes} {before : List Bytes}

/-- A place where no quote is open. -/
def Place.IsOutside (place : Place) : Prop := place ≠ .quoted ∧ place ≠ .quoteRead

theorem Place.isOutside_start : Place.recordStart.IsOutside
  := ⟨by decide, by decide⟩

theorem Place.isOutside_cellStart : Place.cellStart.IsOutside
  := ⟨by decide, by decide⟩

theorem Place.isOutside_plain : Place.plain.IsOutside
  := ⟨by decide, by decide⟩

theorem Place.IsOutside.ite {p : Prop} [Decidable p] (outside : place.IsOutside) :
  (if p then place else .plain).IsOutside
  := by
  split
  · apply outside
  · apply isOutside_plain

theorem recordsFrom_plain {b : UInt8} (outside : place.IsOutside) (plain : IsPlain b)
    (rest : Bytes) :
  recordsFrom place cell before (b :: rest) = recordsFrom .plain (b :: cell) before rest
  := by
  rw [recordsFrom, if_neg outside.1, if_neg (fun h => outside.2 h.1), if_neg (by simp [plain.1]),
    if_neg plain.2, if_neg (fun h => plain.3 h.1)]

/-- The bytes of a cell are read into it. -/
theorem recordsFrom_bytes {bs : Bytes} (outside : place.IsOutside) (plain : ∀ b ∈ bs, IsPlain b)
    (rest : Bytes) :
  recordsFrom place cell before (bs ++ rest)
    = recordsFrom (if bs = [] then place else .plain) (bs.reverse ++ cell) before rest
  := by
  induction bs generalizing place cell with
  | nil => rfl
  | cons b bs ih =>
    have here := plain b List.mem_cons_self
    have later := fun b' hb' => plain b' (List.mem_cons_of_mem b hb')
    rw [List.cons_append, recordsFrom_plain outside here, ih Place.isOutside_plain later,
      List.reverse_cons, List.append_assoc, if_neg (List.cons_ne_nil b bs), ite_self]
    rfl

theorem recordsFrom_tab (outside : place.IsOutside) (rest : Bytes) :
  recordsFrom place cell before (byte '\t' :: rest)
    = recordsFrom .cellStart [] (cell.reverse :: before) rest
  := by
  rw [recordsFrom, if_neg outside.1, if_neg (fun h => outside.2 h.1),
    if_neg (by decide), if_pos rfl]

/-- Where a line ends there the record ends. -/
theorem recordsFrom_lineEnd (outside : place.IsOutside) (within : place ≠ .recordStart)
    (lines : List Bytes) :
  recordsFrom place cell before (following (byte '\n') lines)
    = (cell.reverse :: before).reverse
        :: recordsFrom .recordStart [] [] ([byte '\n'].intercalate lines)
  := by
  cases lines with
  | nil =>
    rw [following, recordsFrom]
    · rfl
    · apply within
  | cons line lines =>
    rw [following, recordsFrom, if_neg outside.1, if_neg (fun h => outside.2 h.1),
      if_pos (by decide), if_neg within]

/-- Empty lines are passed over. -/
theorem recordsFrom_emptyLine (lines : List Bytes) :
  recordsFrom .recordStart [] [] (following (byte '\n') lines)
    = recordsFrom .recordStart [] [] ([byte '\n'].intercalate lines)
  := by
  cases lines with
  | nil => rfl
  | cons line lines =>
    rw [following, recordsFrom, if_neg (by decide), if_neg (by decide), if_pos (by decide),
      if_pos rfl]

/-- A row that is not an empty line is read as a record. -/
theorem recordsFrom_row (row : List Bytes) (first : Bytes)
    (plain : ∀ cell ∈ first :: row, ∀ b ∈ cell, IsPlain b) (start : place.IsOutside)
    (full : place = .recordStart → first :: row ≠ [[]]) (lines : List Bytes) :
  recordsFrom place [] before
      ([byte '\t'].intercalate (first :: row) ++ following (byte '\n') lines)
    = (before.reverse ++ first :: row)
        :: recordsFrom .recordStart [] [] ([byte '\n'].intercalate lines)
  := by
  induction row generalizing first place before with
  | nil =>
    have within : (if first = [] then place else .plain) ≠ .recordStart := by
      split
      · rename_i empty
        exact fun h => full h (by rw [empty])
      · decide
    rw [List.intercalate_singleton, recordsFrom_bytes start (plain first List.mem_cons_self),
      recordsFrom_lineEnd start.ite within]
    simp
  | cons next row ih =>
    rw [intercalate_cons, List.append_assoc,
      recordsFrom_bytes start (plain first List.mem_cons_self), following, List.cons_append,
      recordsFrom_tab start.ite,
      ih next (fun cell hc => plain cell (List.mem_cons_of_mem _ hc)) Place.isOutside_cellStart
        (fun h => by cases h)]
    simp

theorem isEmptyLine_nil : isEmptyLine [] = true
  := rfl

/-- The line of a row is empty if the row has but one cell and that is empty. -/
theorem isEmptyLine_cons {first : List Char} {row : List (List Char)} :
  isEmptyLine (first :: row) = true ↔ first :: row = [[]]
  := by
  rw [isEmptyLine, writeRow, intercalate_cons]
  cases row <;> simp [following]

/-- Of lines the records are the rows that are not empty lines. -/
theorem recordsFrom_lines {rows : List (List (List Char))}
    (plain : ∀ row ∈ rows, ∀ cell ∈ row, ∀ c ∈ cell, isSpecial c = false) :
  recordsFrom .recordStart [] []
      ([byte '\n'].intercalate (rows.map (fun row => encodeChars (writeRow row))))
    = (rows.filter (!isEmptyLine ·)).map (·.map encodeChars)
  := by
  induction rows with
  | nil => rfl
  | cons row rows ih =>
    have later := ih (fun row hr => plain row (List.mem_cons_of_mem _ hr))
    rw [List.map_cons, intercalate_cons]
    cases empty : isEmptyLine row with
    | true =>
      rw [List.isEmpty_iff.1 empty, Text.encodeChars_nil, List.nil_append, recordsFrom_emptyLine,
        later, List.filter_cons_of_neg (by simp [empty])]
    | false =>
      cases row with
      | nil => simp [isEmptyLine_nil] at empty
      | cons first row =>
        rw [List.filter_cons_of_pos (by simp [empty]), List.map_cons, writeRow,
          Text.encodeChars_intercalate (b := byte '\t') rfl, List.map_cons, recordsFrom_row, later]
        · rfl
        · intro cell hc b hb
          rw [← List.map_cons, List.mem_map] at hc
          obtain ⟨chars, hc, rfl⟩ := hc
          apply isPlain_of_mem_encodeChars (plain _ List.mem_cons_self chars hc) hb
        · apply Place.isOutside_start
        · intro _ lone
          rw [← Bool.not_eq_true, isEmptyLine_cons] at empty
          apply empty
          simpa using lone

/-- The records of what is written are the rows that are not empty lines. -/
theorem records_write {rows : List (List (List Char))}
    (plain : ∀ row ∈ rows, ∀ cell ∈ row, ∀ c ∈ cell, isSpecial c = false) :
  records (Text.encode (write rows)) = (rows.filter (!isEmptyLine ·)).map (·.map encodeChars)
  := by
  have unmarked : '\ufeff' ∉ ['\n'].intercalate (rows.map writeRow) := by
    intro h
    obtain h | ⟨line, hl, h⟩ := mem_intercalate h
    · simp at h
    · obtain ⟨row, hr, rfl⟩ := List.mem_map.1 hl
      obtain h | ⟨cell, hc, h⟩ := mem_intercalate h
      · simp at h
      · have special := plain row hr cell hc _ h
        simp [isSpecial] at special
  rw [records, write, Text.encode_ofList,
    Text.skipByteOrderMark_encodeChars (fun h => unmarked (List.mem_of_head? h)),
    Text.encodeChars_intercalate rfl, List.map_map]
  apply recordsFrom_lines plain

/-- The cells of a record that was encoded are read back and trimmed. -/
theorem cells?_map_encodeChars (row : List (List Char)) :
  cells? (row.map encodeChars) = some (row.map Text.trimChars)
  := by
  induction row with
  | nil => rfl
  | cons cell row ih =>
    rw [cells?] at ih ⊢
    rw [List.map_cons, List.mapM_cons, ih, Text.decodeChars?_encodeChars]
    rfl

end Grid

end CrossRate
