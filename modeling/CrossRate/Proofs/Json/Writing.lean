import CrossRate.Json.Printer
import CrossRate.Json.Reader
import CrossRate.Proofs.Text.Case

/-!
# Reading back JSON

A value that holds no numbers is read back from its compact form (`Json.parse?_compact`). Its texts
may hold any characters, since those that must not stand in a string are escaped
(`Json.isEscape_escaped`).
-/

namespace CrossRate.Json

variable {c a b d e : Char} {n : Nat} {read : Option (List Char)} {text rest : List Char}

/-! ### Strings -/

/-- Whether characters stand for a character in a string. -/
def isEscape (c : Char) : List Char → Bool
  | [d] => d = c && 0x20 ≤ c.toNat && c ≠ '"' && c ≠ '\\'
  | ['\\', d] => d ≠ 'u' && escape? d = some c
  | ['\\', 'u', a, b, d, e] => hexQuad? a b d e = some c.toNat
  | _ => false

/-- Every character is written so that it can be read. -/
theorem isEscape_escaped (c : Char) : isEscape c (escaped c).toList = true
  := by
  -- Of the characters that have an escape all are among the first 128.
  by_cases ascii : c.toNat < 128
  · apply Text.forall_ascii (P := fun c => isEscape c (escaped c).toList = true) _ ascii
    decide +kernel
  · have differs {d : Char} (known : d.toNat < 128) : c ≠ d := by
      rintro rfl
      exact ascii known
    have plain : escaped c = c.toString := by
      rw [escaped, if_neg (differs (by decide)), if_neg (differs (by decide)),
        if_neg (differs (by decide)), if_neg (differs (by decide)), if_neg (differs (by decide)),
        if_neg (differs (by decide)), if_neg (differs (by decide)), if_neg (by omega),
        if_neg (by omega)]
    have shown : (escaped c).toList = [c] := by
      rw [plain]
      simp [Char.toString]
    have big : 0x20 ≤ c.toNat := by omega
    simp [shown, isEscape, big, differs (d := '"') (by decide), differs (d := '\\') (by decide)]

/-- No character is half of a pair of surrogates. -/
theorem unit?_toNat (c : Char) : unit? c.toNat = some c ∧ ∀ low, pair? c.toNat low = none
  := by
  have valid : c.toNat < 0xD800 ∨ 0xDFFF < c.toNat ∧ c.toNat < 0x110000 := c.valid
  constructor
  · rw [unit?, if_neg (by omega), Char.ofNat_toNat]
  · intro low
    rw [pair?, if_neg (by omega)]

/-- The code point of a character is read, even if another one follows. -/
theorem stringTail_unit (quad : hexQuad? a b d e = some c.toNat) :
  stringTail read ('\\' :: 'u' :: a :: b :: d :: e :: rest) = stringTail (push read (some c)) rest
  := by
  obtain ⟨single, unpaired⟩ := unit?_toNat c
  by_cases pair : ∃ f g h i rest', rest = '\\' :: 'u' :: f :: g :: h :: i :: rest'
  · obtain ⟨f, g, h, i, rest', rfl⟩ := pair
    have none : (hexQuad? f g h i).bind (pair? c.toNat) = none := by
      cases hexQuad? f g h i <;> simp [unpaired]
    rw [stringTail, quad, Option.bind_eq_bind, Option.bind_some, none, single]
  · rw [stringTail, quad, Option.bind_eq_bind, Option.bind_some, single]
    intro f g h i rest' split
    exact pair ⟨f, g, h, i, rest', split⟩

/-- What stands for a character is read as that character. -/
theorem stringTail_of_isEscape (h : isEscape c text = true) (read : Option (List Char))
    (rest : List Char) :
  stringTail read (text ++ rest) = stringTail (push read (some c)) rest
  := by
  revert h
  fun_cases isEscape c text with
  | case1 d =>
    simp only [Bool.and_eq_true, decide_eq_true_eq, and_imp]
    rintro rfl big quote backslash
    rw [List.singleton_append, stringTail, if_neg (by omega)]
    · exact quote
    · exact fun _ _ _ _ _ _ _ _ _ same => absurd same backslash
    · exact fun _ _ _ _ _ same => absurd same backslash
    · exact fun _ _ same => absurd same backslash
  | case2 d =>
    simp only [Bool.and_eq_true, decide_eq_true_eq, and_imp]
    intro unit known
    rw [List.cons_append, List.singleton_append, stringTail, known]
    · rfl
    · exact fun _ _ _ _ _ _ _ _ _ same => absurd same unit
    · exact fun _ _ _ _ _ same => absurd same unit
  | case3 a b d e =>
    intro h
    apply stringTail_unit (of_decide_eq_true h)
  | case4 => simp

/-- The characters of a string are read up to its closing quote. -/
theorem stringTail_join (cs read rest : List Char) :
  stringTail (some read) ((cs.flatMap (fun c => (escaped c).toList)) ++ '"' :: rest)
    = some (some (String.ofList (read.reverse ++ cs)), rest)
  := by
  induction cs generalizing read with
  | nil => simp [stringTail]
  | cons c cs ih =>
    rw [List.flatMap_cons, List.append_assoc, stringTail_of_isEscape (isEscape_escaped c), push, ih]
    simp

theorem toList_quotedString (s : String) :
  (quotedString s).toList = '"' :: (s.toList.flatMap (fun c => (escaped c).toList) ++ ['"'])
  := by simp [quotedString, String.toList_join, List.flatMap_map]

/-- A string is read back. -/
theorem stringTail_quotedString (s : String) (rest : List Char) :
  stringTail (some []) ((quotedString s).toList.tail ++ rest) = some (some s, rest)
  := by
  rw [toList_quotedString, List.tail_cons, List.append_assoc, List.singleton_append,
    stringTail_join, List.reverse_nil, List.nil_append, String.ofList_toList]

/-! ### Values -/

/-- A value that holds no numbers and nothing that is unreadable. -/
inductive IsTextual : Json → Prop
  | null : IsTextual null
  | bool (value : Bool) : IsTextual (bool value)
  | string (text : String) : IsTextual (string text)
  | array {items : List Json} : (∀ item ∈ items, IsTextual item) → IsTextual (array items)
  | object {fields : List (String × Json)} :
    (∀ e ∈ fields, IsTextual e.2) → IsTextual (object fields)

/-- A value is read back from its compact form, whatever follows it. -/
def IsReadBack (json : Json) : Prop :=
  ∀ fuel rest, (compact json).toList.length ≤ fuel →
    value? fuel ((compact json).toList ++ rest) = some (json, rest)

theorem skipSpace_of_not_isSpace (black : isSpace c = false) (cs : List Char) :
  skipSpace (c :: cs) = c :: cs
  := List.dropWhile_cons_of_neg (by simp [black])

theorem compactItems_eq (items : List Json) : compactItems items = items.map compact
  := by
  induction items with
  | nil => rfl
  | cons item items ih => rw [compactItems, ih, List.map_cons]

/-- The compact form of a field. -/
def compactField (field : String × Json) : String :=
  quotedString field.1 ++ ":" ++ compact field.2

theorem compactFields_eq (fields : List (String × Json)) :
  compactFields fields = fields.map compactField
  := by
  induction fields with
  | nil => rfl
  | cons field fields ih => rw [compactFields, ih, List.map_cons, compactField]

/-- A value starts with a character that is neither a blank nor a closing bracket. -/
theorem exists_cons_compact {json : Json} (textual : IsTextual json) :
  ∃ c cs, (compact json).toList = c :: cs ∧ isSpace c = false ∧ c ≠ ']'
  := by
  cases textual with
  | null => exact ⟨'n', _, rfl, by decide, by decide⟩
  | bool value => cases value <;> exact ⟨_, _, rfl, by decide, by decide⟩
  | string text =>
    rw [compact, toList_quotedString]
    exact ⟨_, _, rfl, by decide, by decide⟩
  | array textual =>
    rw [compact, String.toList_append, String.toList_append]
    exact ⟨_, _, rfl, by decide, by decide⟩
  | object textual =>
    rw [compact, String.toList_append, String.toList_append]
    exact ⟨_, _, rfl, by decide, by decide⟩

/-- The items of an array are read back up to its closing bracket. -/
theorem items?_intercalate {items : List Json} (some : items ≠ [])
    (readBack : ∀ item ∈ items, IsReadBack item) (fuel : Nat)
    (enough : (",".intercalate (items.map compact)).toList.length < fuel) (rest : List Char) :
  items? fuel ((",".intercalate (items.map compact)).toList ++ ']' :: rest) = .some (items, rest)
  := by
  induction items generalizing fuel with
  | nil => contradiction
  | cons item items ih =>
    obtain ⟨first, others⟩ := List.forall_mem_cons.1 readBack
    cases fuel with
    | zero => omega
    | succ fuel =>
      cases items with
      | nil =>
        rw [List.map_singleton, String.intercalate_singleton] at enough ⊢
        rw [items?, first fuel _ (by omega)]
        rfl
      | cons next items =>
        rw [List.map_cons, List.map_cons, String.intercalate_cons_cons, ← List.map_cons,
          String.toList_append, String.toList_append] at enough ⊢
        have comma : ",".toList = [','] := rfl
        rw [comma, List.length_append, List.length_append, List.length_singleton] at enough
        have later := ih (by simp) others fuel (by omega)
        rw [comma, List.append_assoc, List.append_assoc, List.singleton_append, items?,
          first fuel _ (by omega)]
        simp only [Option.bind_eq_bind, Option.bind_some, later,
          skipSpace_of_not_isSpace (c := ',') (by decide), Option.map_some]

theorem fields?_compactField {field : String × Json} (readBack : IsReadBack field.2) {fuel : Nat}
    (enough : (compact field.2).toList.length ≤ fuel) (rest : List Char) :
  fields? (fuel + 1) ((compactField field).toList ++ '\x7d' :: rest) = some (some [field], rest)
    ∧ fields? (fuel + 1) ((compactField field).toList ++ ',' :: rest)
        = (fields? fuel rest).map (fun (fields, rest) => (fields.map (field :: ·), rest))
  := by
  have shape (rest : List Char) : (compactField field).toList ++ rest
      = '"' :: ((quotedString field.1).toList.tail ++ (':' :: ((compact field.2).toList ++ rest)))
      := by
    simp [compactField, toList_quotedString]
  constructor
  · rw [shape, fields?, skipSpace_of_not_isSpace (by decide)]
    simp only [stringTail_quotedString, Option.bind_eq_bind, Option.bind_some,
      skipSpace_of_not_isSpace (c := ':') (by decide), readBack fuel _ enough,
      skipSpace_of_not_isSpace (c := '\x7d') (by decide), Option.map_some]
  · rw [shape, fields?, skipSpace_of_not_isSpace (by decide)]
    simp only [stringTail_quotedString, Option.bind_eq_bind, Option.bind_some,
      skipSpace_of_not_isSpace (c := ':') (by decide), readBack fuel _ enough,
      skipSpace_of_not_isSpace (c := ',') (by decide), Option.map_some]

/-- The fields of an object are read back up to its closing brace. -/
theorem fields?_intercalate {fields : List (String × Json)} (some : fields ≠ [])
    (readBack : ∀ e ∈ fields, IsReadBack e.2) (fuel : Nat)
    (enough : (",".intercalate (fields.map compactField)).toList.length < fuel)
    (rest : List Char) :
  fields? fuel ((",".intercalate (fields.map compactField)).toList ++ '\x7d' :: rest)
    = .some (.some fields, rest)
  := by
  induction fields generalizing fuel with
  | nil => contradiction
  | cons field fields ih =>
    obtain ⟨first, others⟩ := List.forall_mem_cons.1 readBack
    have long : (compact field.2).toList.length ≤ (compactField field).toList.length := by
      simp only [compactField, String.toList_append, List.length_append]
      omega
    cases fuel with
    | zero => omega
    | succ fuel =>
      cases fields with
      | nil =>
        rw [List.map_singleton, String.intercalate_singleton] at enough ⊢
        apply (fields?_compactField first (by omega) rest).1
      | cons next fields =>
        rw [List.map_cons, List.map_cons, String.intercalate_cons_cons, ← List.map_cons,
          String.toList_append, String.toList_append] at enough ⊢
        have comma : ",".toList = [','] := rfl
        rw [comma, List.length_append, List.length_append, List.length_singleton] at enough
        have later := ih (by simp) others fuel (by omega)
        rw [comma, List.append_assoc, List.append_assoc, List.singleton_append,
          (fields?_compactField first (by omega) _).2, later]
        rfl

theorem value?_array (black : isSpace c = false) (opens : c ≠ ']') (fuel : Nat) (cs : List Char) :
  value? (fuel + 1) ('[' :: c :: cs)
    = (items? fuel (c :: cs)).map (fun (items, rest) => (array items, rest))
  := by
  rw [value?, skipSpace_of_not_isSpace (by decide)]
  simp only [skipSpace_of_not_isSpace black]
  split
  · rename_i same
    exact absurd (List.cons.inj same).1 opens
  · rfl

theorem value?_object (fuel : Nat) (cs : List Char) :
  value? (fuel + 1) ('\x7b' :: '"' :: cs)
    = (fields? fuel ('"' :: cs)).map (fun (fields, rest) =>
        ((fields.map object).getD unreadable, rest))
  := rfl

/-- A value without numbers is read back. -/
theorem IsTextual.isReadBack {json : Json} (textual : IsTextual json) : IsReadBack json
  := by
  induction textual with
  | null =>
    intro fuel rest enough
    cases fuel with
    | zero => simp [compact] at enough
    | succ fuel => rfl
  | bool value =>
    intro fuel rest enough
    cases fuel with
    | zero => cases value <;> simp [compact] at enough
    | succ fuel => cases value <;> rfl
  | string text =>
    intro fuel rest enough
    rw [compact] at enough ⊢
    cases fuel with
    | zero => simp [toList_quotedString] at enough
    | succ fuel =>
      have shape : (quotedString text).toList ++ rest
          = '"' :: ((quotedString text).toList.tail ++ rest) := by
        rw [toList_quotedString]
        rfl
      rw [shape, value?, skipSpace_of_not_isSpace (by decide)]
      simp only [stringTail_quotedString, Option.map_some, Option.getD_some]
  | @array items textual ih =>
    intro fuel rest enough
    have shape : (compact (.array items)).toList
        = '[' :: ((",".intercalate (items.map compact)).toList ++ [']']) := by
      simp [compact, compactItems_eq]
    rw [shape, List.length_cons, List.length_append, List.length_singleton] at enough
    rw [shape, List.cons_append, List.append_assoc, List.singleton_append]
    cases fuel with
    | zero => omega
    | succ fuel =>
      cases items with
      | nil => rfl
      | cons item items =>
        have readBack := items?_intercalate (List.cons_ne_nil item items) ih fuel
          (by omega) rest
        obtain ⟨c, cs, starts, black, opens⟩ :=
          exists_cons_compact (textual item List.mem_cons_self)
        obtain ⟨cs', starts'⟩ : ∃ cs',
            (",".intercalate ((item :: items).map compact)).toList ++ ']' :: rest = c :: cs' := by
          cases items <;> simp [String.intercalate_cons_cons, starts]
        rw [starts'] at readBack ⊢
        rw [value?_array black opens, readBack]
        rfl
  | @object fields textual ih =>
    intro fuel rest enough
    have shape : (compact (.object fields)).toList
        = '\x7b' :: ((",".intercalate (fields.map compactField)).toList ++ ['\x7d']) := by
      simp [compact, compactFields_eq]
    rw [shape, List.length_cons, List.length_append, List.length_singleton] at enough
    rw [shape, List.cons_append, List.append_assoc, List.singleton_append]
    cases fuel with
    | zero => omega
    | succ fuel =>
      cases fields with
      | nil => rfl
      | cons field fields =>
        have readBack := fields?_intercalate (List.cons_ne_nil field fields) ih fuel
          (by omega) rest
        obtain ⟨cs, starts⟩ : ∃ cs,
            (",".intercalate ((field :: fields).map compactField)).toList ++ '\x7d' :: rest
              = '"' :: cs := by
          cases fields <;>
            simp [String.intercalate_cons_cons, compactField, toList_quotedString]
        rw [starts] at readBack ⊢
        rw [value?_object, readBack]
        rfl

/-- A text that holds the compact form of a value without numbers is read as that value. -/
theorem parse?_compact {json : Json} (textual : IsTextual json) :
  parse? (compact json) = some json
  := by
  have readBack := textual.isReadBack ((compact json).toList.length + 1) [] (by omega)
  rw [List.append_nil] at readBack
  rw [parse?, readBack]
  rfl

end CrossRate.Json
