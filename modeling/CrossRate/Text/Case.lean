import CrossRate.Text.CaseTable
import CrossRate.Text.CodeRange

/-!
# Upper and lower case

`upper` and `lower` are the full case mappings of Unicode. They may lengthen a text, and
`lower` writes a capital sigma at the end of a word as the final small sigma.
-/

namespace CrossRate.Text

/-- The image of a character under a table of sequences and a table of runs. -/
def mapCase (sequences : List (Nat × List Nat)) (runs : List CaseRun) (c : Char) : List Char :=
  match CaseRun.lookup c.toNat runs with
  | some n => [Char.ofNat n]
  | none =>
    match sequences.lookup c.toNat with
    | some ns => ns.map Char.ofNat
    | none => [c]

/-- The upper case of a character. -/
def upperChar (c : Char) : List Char := mapCase upperSequences upperRuns c

/-- The lower case of a character that is not a capital sigma. -/
def lowerChar (c : Char) : List Char := mapCase lowerSequences lowerRuns c

/-- Whether the first character that the rule of the final sigma does not skip has a case. -/
def startsCased : List Char → Bool
  | [] => false
  | c :: rest =>
    if inRanges c.toNat caseIgnorableRanges then startsCased rest
    else inRanges c.toNat casedRanges

/-- The lower case of the characters `rest` that follow the characters `before`, which are
given last first. A capital sigma becomes final when a cased letter comes before it and none
comes after it. -/
def lowerAfter (before : List Char) : List Char → List Char
  | [] => []
  | c :: rest =>
    let image :=
      if c = 'Σ' then
        if startsCased before && !startsCased rest then ['ς'] else ['σ']
      else lowerChar c
    image ++ lowerAfter (c :: before) rest

/-- The upper case of a text. -/
def upper (s : String) : String := String.ofList (s.toList.flatMap upperChar)

/-- The lower case of a text. -/
def lower (s : String) : String := String.ofList (lowerAfter [] s.toList)

/-- The ASCII capitals made small, all else kept. -/
def lowerAscii (s : String) : String := String.ofList (s.toList.map Char.toLower)

/-- Whether two texts differ at most in the case of ASCII letters. -/
def sameIgnoringCase (s t : String) : Bool := lowerAscii s == lowerAscii t

end CrossRate.Text
