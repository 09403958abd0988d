/-!
# Search in texts

`occursIn` finds a text within another (`occursIn_iff`).
-/

namespace CrossRate.Text

/-- Whether a text stands somewhere in another. -/
def occursIn (word : List Char) : List Char → Bool
  | [] => word.isEmpty
  | c :: rest => word.isPrefixOf (c :: rest) || occursIn word rest

/-- A text is found in another if it stands somewhere in it. -/
theorem occursIn_iff {word cs : List Char} : occursIn word cs = true ↔ word <:+: cs
  := by
  induction cs with
  | nil => simp [occursIn]
  | cons c cs ih =>
    rw [occursIn, Bool.or_eq_true, List.isPrefixOf_iff_prefix, ih, List.infix_cons_iff]

/-- The parts of a text between the occurrences of a character. -/
def splitAt (mark : Char) (s : String) : List String := (s.toList.splitOn mark).map String.ofList

end CrossRate.Text
