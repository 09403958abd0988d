import CrossRate.Location.Direction
import CrossRate.Location.Joining
import CrossRate.Location.NameImages
import CrossRate.Location.NameTable
import CrossRate.Location.Punycode
import CrossRate.Text.Bytes
import CrossRate.Text.Case

/-!
# Domain names

A domain name may be written in any script and is sent in ASCII. Its characters are first
replaced by those that they stand for, so that capitals and wide, narrow or compound forms
make no difference; then each of the labels between its dots is encoded if it is not in
ASCII. `DomainName.ascii?` gives the form in ASCII, or nothing if a label could be taken
for another or cannot be read.
-/

namespace CrossRate.DomainName

open Location

/-- Whether a character is in ASCII. -/
def isAscii (c : Char) : Bool := c.toNat < 0x80

/-- What a row says that a code point stands for. -/
def rowImage? (n : Nat) (row : ImageRow) : Option (List Char) :=
  (row.images.toList.splitOn ' ')[n - row.first]?

/-- What a character stands for, none at all if no name may hold it. -/
def image? (c : Char) : Option (List Char) :=
  let n := c.toNat
  if Text.inRanges n refusedRanges then none
  else if Text.inRanges n ignoredRanges then some []
  else
    let row := (imageRows.takeWhile (·.first ≤ n)).getLast?
    some ((row.bind (rowImage? n)).getD (Text.lowerChar c))

/-- A text with every character replaced by what it stands for, in composed form. -/
def folded? (cs : List Char) : Option (List Char) := do
  return Text.compose (← cs.mapM image?).flatten

/-- Whether a name must not hold a character of ASCII. -/
def isForbidden (c : Char) : Bool :=
  c.toNat ≤ 0x20 || c.toNat = 0x7F || "%#/:<>?@[\\]^|".toList.contains c

/-- The marker in front of an encoded label. -/
def marker : List Char := "xn--".toList

/-- A label of a name. -/
structure Label where
  /-- The label as it is read. -/
  text : List Char
  /-- The label as it is sent. -/
  ascii : List Char

namespace Label

/-- The label of an encoded form, which must be the form of a label that needs one and has
no other. -/
def ofEncoded? (encoded : List Char) : Option (List Char) := do
  if !encoded.all isAscii || encoded.getLast? = some '-' || 2000 < encoded.length then none
  let text ← Punycode.decode? encoded
  if !text.all isAscii ∧ folded? text = some text then return text else none

/-- The label that is written by some characters, those being what they stand for. -/
def ofFolded? (cs : List Char) : Option Label :=
  if marker.isPrefixOf cs then (ofEncoded? (cs.drop marker.length)).map (⟨·, cs⟩)
  else if cs.all isAscii then some ⟨cs, cs⟩
  else some ⟨cs, marker ++ Punycode.encode cs⟩

/-- Whether a label begins with a mark, which would go to the dot before it. -/
def beginsWithMark (l : Label) : Bool :=
  match l.text with
  | [] => false
  | c :: _ =>
    Text.inRanges c.toNat Text.nonspacingMarkRanges || Text.inRanges c.toNat Text.spacingMarkRanges

/-- Whether a label can be read, apart from its direction. -/
def isReadable (l : Label) : Bool :=
  !l.beginsWithMark && joinersFit [] l.text && (l.text.all isAscii || l.text.length ≤ 1000)

end Label

/-- The form in ASCII of a domain name. -/
def ascii? (cs : List Char) : Option (List Char) := do
  let folded ← folded? cs
  if folded.any isForbidden then none
  let labels ← (folded.splitOn '.').mapM Label.ofFolded?
  if labels.all Label.isReadable ∧ oneWay (labels.map Label.text) then
    return List.intercalate ['.'] (labels.map Label.ascii)
  else none

end CrossRate.DomainName
