import CrossRate.Text.CompositionTable
import CrossRate.Text.MarkTable

/-!
# Canonical composition

A letter with marks can be written as one character or as several, and the marks in several
orders. `compose` gives the one form in which marks are in the order of their ranks and
every character stands for as many as it can. It takes no notice of characters that stand
for one other character, or for several that are never composed again.
-/

namespace CrossRate.Text

/-- The rank of the signs that strike out the vowel of a letter. -/
def vowelKillerRank : Nat := 9

/-- The rank of a mark; characters that are no marks, and marks that keep their place, have
rank zero. -/
def markRank (n : Nat) : Nat :=
  match markRuns.find? (fun run => run.first ≤ n ∧ n ≤ run.last) with
  | some run => run.rank
  | none => 0

/-! ### Syllables of Hangul -/

/-- The first of the syllables, which follow each other in the order of their letters. -/
def firstSyllable : Nat := 0xAC00

/-- Code points of the letters that syllables begin with, their vowels, and the letters they
end with, a code point that is no letter standing for none. -/
def firstInitial : Nat := 0x1100
def firstVowel : Nat := 0x1161
def firstFinal : Nat := 0x11A7

def initialCount : Nat := 19
def vowelCount : Nat := 21
def finalCount : Nat := 28

/-- The letters of a syllable. -/
def syllableLetters? (n : Nat) : Option (List Nat) :=
  if firstSyllable ≤ n ∧ n < firstSyllable + initialCount * vowelCount * finalCount then
    let i := n - firstSyllable
    let final := i % finalCount
    let initial := i / finalCount / vowelCount
    let vowel := i / finalCount % vowelCount
    some ([firstInitial + initial, firstVowel + vowel]
      ++ (if final = 0 then [] else [firstFinal + final]))
  else none

/-- The syllable of an initial letter and a vowel, or of a syllable without a final letter
and one. -/
def syllable? (a b : Nat) : Option Nat :=
  if firstInitial ≤ a ∧ a < firstInitial + initialCount
      ∧ firstVowel ≤ b ∧ b < firstVowel + vowelCount then
    some (firstSyllable + ((a - firstInitial) * vowelCount + (b - firstVowel)) * finalCount)
  else if firstSyllable ≤ a ∧ a < firstSyllable + initialCount * vowelCount * finalCount
      ∧ (a - firstSyllable) % finalCount = 0
      ∧ firstFinal < b ∧ b < firstFinal + finalCount then
    some (a + (b - firstFinal))
  else none

/-! ### Taking apart -/

/-- The characters that a character stands for, by a list in which a composed character
comes before the character that it is composed of. -/
def decomposeBy : List Composition → Nat → List Nat
  | [], n => [n]
  | c :: rest, n => if c.whole = n then decomposeBy rest c.base ++ [c.mark] else decomposeBy rest n

/-- The characters that a character stands for. -/
def decompose (n : Nat) : List Nat := (syllableLetters? n).getD (decomposeBy compositions n)

/-- Put a character after others, which are given last first, but before the marks of higher
rank at their end. -/
def insertByRank (n : Nat) : List Nat → List Nat
  | [] => [n]
  | last :: before =>
    if markRank n ≠ 0 ∧ markRank n < markRank last then last :: insertByRank n before
    else n :: last :: before

/-- Put the marks after each character in the order of their ranks. -/
def orderMarks (ns : List Nat) : List Nat :=
  (ns.foldl (fun before n => insertByRank n before) []).reverse

/-! ### Putting together -/

/-- The character that stands for two. -/
def composition? (base mark : Nat) : Option Nat :=
  match syllable? base mark with
  | some n => some n
  | none =>
    (compositions.find? (fun c => c.base = base ∧ c.mark = mark)).map Composition.whole

/-- Compose a character with those after it; `between` holds, last first, the marks after it
that stay. A mark of the same rank or a higher one keeps later characters from it. -/
def composeFrom (base : Nat) (between : List Nat) : List Nat → List Nat
  | [] => base :: between.reverse
  | n :: rest =>
    let reached :=
      match between with
      | [] => true
      | mark :: _ => markRank mark < markRank n
    match if reached then composition? base n else none with
    | some whole => composeFrom whole between rest
    | none =>
      if markRank n = 0 then base :: between.reverse ++ composeFrom n [] rest
      else composeFrom base (n :: between) rest

/-- The composed form of a list of code points. -/
def composeAll (ns : List Nat) : List Nat :=
  match orderMarks (ns.flatMap decompose) with
  | [] => []
  | n :: rest => composeFrom n [] rest

/-- The composed form of a text. -/
def compose (cs : List Char) : List Char := (composeAll (cs.map Char.toNat)).map Char.ofNat

end CrossRate.Text
