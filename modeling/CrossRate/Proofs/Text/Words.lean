import CrossRate.Proofs.Text.Case
import CrossRate.Text.Blank

/-!
# Words of texts

Every text consists of words with blanks between them and perhaps around them (`Text.IsSpaced`), and
those are the words that are found in it (`Text.wordsFrom_eq_of_isSpaced`). Two texts differ in form
only if they consist of the same words but for the case of ASCII letters (`Text.differInForm_iff`).
-/

namespace CrossRate.Text

/-- A text consists of words, with at least one blank between two of them and any blanks around
them. -/
inductive IsSpaced : List (List Char) → List Char → Prop
  | blank {gap : List Char} : (∀ c ∈ gap, isBlank c = true) → IsSpaced [] gap
  | word {gap word rest : List Char} {words : List (List Char)} :
    (∀ c ∈ gap, isBlank c = true) → word ≠ [] → (∀ c ∈ word, isBlank c = false) →
      (∀ c ∈ rest.head?, isBlank c = true) → IsSpaced words rest →
      IsSpaced (word :: words) (gap ++ word ++ rest)

/-- Two texts differ at most in the case of ASCII letters and in how many blanks, and which, stand
around their words and at the breaks between them. -/
def DifferInForm (s t : String) : Prop :=
  ∃ words words', IsSpaced words s.toList ∧ IsSpaced words' t.toList
    ∧ words.map (·.map Char.toLower) = words'.map (·.map Char.toLower)

variable {gap word rest cs : List Char} {words : List (List Char)}

/-- Blanks before a word are skipped. -/
theorem wordsFrom_gap (blank : ∀ c ∈ gap, isBlank c = true) (rest : List Char) :
  wordsFrom [] (gap ++ rest) = wordsFrom [] rest
  := by
  induction gap with
  | nil => rfl
  | cons c gap ih =>
    rw [List.cons_append, wordsFrom, if_pos (blank c List.mem_cons_self), List.isEmpty_nil,
      if_pos rfl, ih (fun d mem => blank d (List.mem_cons_of_mem c mem))]

/-- What is not blank continues a word. -/
theorem wordsFrom_word (black : ∀ c ∈ word, isBlank c = false) (before rest : List Char) :
  wordsFrom before (word ++ rest) = wordsFrom (word.reverse ++ before) rest
  := by
  induction word generalizing before with
  | nil => rfl
  | cons c word ih =>
    rw [List.cons_append, wordsFrom, if_neg (by simp [black c List.mem_cons_self]),
      ih (fun d mem => black d (List.mem_cons_of_mem c mem)), List.reverse_cons,
      List.append_assoc, List.singleton_append]

/-- A word ends where the text ends or a blank follows. -/
theorem wordsFrom_end (some : word ≠ []) (blank : ∀ c ∈ rest.head?, isBlank c = true) :
  wordsFrom word rest = word.reverse :: wordsFrom [] rest
  := by
  have nonempty : word.isEmpty = false := by simpa using some
  cases rest with
  | nil => simp [wordsFrom, nonempty]
  | cons c rest =>
    have blank : isBlank c = true := blank c rfl
    rw [wordsFrom, wordsFrom, if_pos blank, if_pos blank, nonempty]
    rfl

/-- The words that a text consists of are found in it. -/
theorem wordsFrom_eq_of_isSpaced (spaced : IsSpaced words cs) : wordsFrom [] cs = words
  := by
  induction spaced with
  | @blank gap blank =>
    rw [← List.append_nil gap, wordsFrom_gap blank]
    rfl
  | @word gap word rest words blank some black ends _ ih =>
    rw [List.append_assoc, wordsFrom_gap blank, wordsFrom_word black, List.append_nil,
      wordsFrom_end (by simpa using some) ends, List.reverse_reverse, ih]

/-- Every text consists of words. -/
theorem exists_isSpaced (cs : List Char) : ∃ words, IsSpaced words cs
  := by
  induction cs with
  | nil => exact ⟨[], .blank (by simp)⟩
  | cons c cs ih =>
    obtain ⟨words, spaced⟩ := ih
    cases black : isBlank c with
    | true =>
      use words
      cases spaced with
      | blank gap => exact .blank (List.forall_mem_cons.2 ⟨black, gap⟩)
      | word gap some letters ends spaced =>
        exact .word (List.forall_mem_cons.2 ⟨black, gap⟩) some letters ends spaced
    | false =>
      have alone : ∀ d ∈ [c], isBlank d = false := List.forall_mem_singleton.2 black
      have none : ∀ d ∈ ([] : List Char), isBlank d = true := List.forall_mem_nil _
      -- The character is a word of its own if a blank follows, else it continues the first word.
      cases spaced with
      | blank gap =>
        have ends : ∀ d ∈ cs.head?, isBlank d = true := fun d first =>
          gap d (List.mem_of_mem_head? first)
        exact ⟨[[c]], @IsSpaced.word [] [c] cs [] none (List.cons_ne_nil c []) alone ends
          (.blank gap)⟩
      | @word gap word rest words blank some letters ends spaced =>
        cases gap with
        | nil =>
          exact ⟨(c :: word) :: words, @IsSpaced.word [] (c :: word) rest words none
            (List.cons_ne_nil c word) (List.forall_mem_cons.2 ⟨black, letters⟩) ends spaced⟩
        | cons d gap =>
          have first : ∀ e ∈ (d :: gap ++ word ++ rest).head?, isBlank e = true := by
            rintro _ ⟨⟩
            apply blank d List.mem_cons_self
          exact ⟨[c] :: word :: words, @IsSpaced.word [] [c] _ _ none (List.cons_ne_nil c []) alone
            first (.word blank some letters ends spaced)⟩

/-- Two texts differ in form only if their words do so in the case of ASCII letters only. -/
theorem differInForm_iff {s t : String} :
  DifferInForm s t
    ↔ (Text.words s).map (·.map Char.toLower) = (Text.words t).map (·.map Char.toLower)
  := by
  constructor
  · rintro ⟨words, words', spaced, spaced', same⟩
    rw [Text.words, Text.words, wordsFrom_eq_of_isSpaced spaced, wordsFrom_eq_of_isSpaced spaced']
    apply same
  · intro same
    obtain ⟨words, spaced⟩ := exists_isSpaced s.toList
    obtain ⟨words', spaced'⟩ := exists_isSpaced t.toList
    rw [Text.words, Text.words, wordsFrom_eq_of_isSpaced spaced, wordsFrom_eq_of_isSpaced spaced']
      at same
    exact ⟨words, words', spaced, spaced', same⟩

/-- To change the characters of words that are joined is to join the changed words. -/
theorem map_intercalate (f : Char → Char) (separator : List Char) (words : List (List Char)) :
  (separator.intercalate words).map f = (separator.map f).intercalate (words.map (·.map f))
  := by
  induction words with
  | nil => rfl
  | cons word words ih =>
    cases words with
    | nil => simp
    | cons next words =>
      rw [List.intercalate_cons_cons, List.map_append, List.map_append, ih]
      simp only [List.map_cons, List.intercalate_cons_cons]

end CrossRate.Text
