/-!
# Punycode

The form in which the label of a host name with characters outside ASCII is sent: its ASCII
characters, a dash, and the places and values of the others as numbers in base 36 of
varying length. `encode` gives that form without the marker in front of it, and `decode?`
reads it.
-/

namespace CrossRate.Punycode

/-- The digit of a value below 36. -/
def digit (d : Nat) : Char := Char.ofNat (if d < 26 then 'a'.toNat + d else '0'.toNat + (d - 26))

/-- The value of a digit. -/
def digitValue? (c : Char) : Option Nat :=
  if 'a' ≤ c ∧ c ≤ 'z' then some (c.toNat - 'a'.toNat)
  else if '0' ≤ c ∧ c ≤ '9' then some (c.toNat - '0'.toNat + 26)
  else none

/-- The threshold of a digit at a position, a multiple of 36. -/
def threshold (position bias : Nat) : Nat :=
  if position ≤ bias then 1 else if bias + 26 ≤ position then 26 else position - bias

/-- Divide a step into the range of the digits, counting the divisions by 36. -/
def damp (step count : Nat) : Nat × Nat :=
  if 455 < step then damp (step / 35) (count + 36) else (step, count)
termination_by step
decreasing_by omega

/-- The bias for the number after a step, `count` characters having been placed. -/
def adapt (step count : Nat) (first : Bool) : Nat :=
  let scaled := if first then step / 700 else step / 2
  let (step, added) := damp (scaled + scaled / count) 0
  added + 36 * step / (step + 38)

/-- The digits of a number, of which there are at most `fuel`. -/
def digits (bias : Nat) : Nat → Nat → Nat → List Char
  | 0, _, _ => []
  | fuel + 1, position, n =>
    let t := threshold position bias
    if n < t then [digit n]
    else digit (t + (n - t) % (36 - t)) :: digits bias fuel (position + 36) ((n - t) / (36 - t))

/-- The least code point of a list that is at least `least`. -/
def nextPoint? (least : Nat) (points : List Nat) : Option Nat :=
  (points.filter (least ≤ ·)).min?

/-! ### Writing -/

/-- What the encoder knows after some numbers. -/
structure State where
  /-- How far the next number has been counted. -/
  step : Nat
  bias : Nat
  /-- How many characters have been placed. -/
  placed : Nat
  /-- Whether no number has been written yet. -/
  first : Bool
  /-- The digits written, last number first. -/
  written : List (List Char)

/-- Pass one character of the text while all characters equal to `point` are placed. -/
def place (point : Nat) (s : State) (c : Nat) : State :=
  if c < point then { s with step := s.step + 1 }
  else if c = point then
    { step := 0
      bias := adapt s.step (s.placed + 1) s.first
      placed := s.placed + 1
      first := false
      written := digits s.bias 16 36 s.step :: s.written }
  else s

/-- Place the characters outside ASCII, at most `fuel` different ones, least first. -/
def placeAll (points : List Nat) : Nat → Nat → State → State
  | 0, _, s => s
  | fuel + 1, least, s =>
    match nextPoint? least points with
    | none => s
    | some point =>
      let s := points.foldl (place point)
        { s with step := s.step + (point - least) * (s.placed + 1) }
      placeAll points fuel (point + 1) { s with step := s.step + 1 }

/-- The encoded form of a label. -/
def encode (label : List Char) : List Char :=
  let basic := label.filter (·.toNat < 0x80)
  let points := label.map Char.toNat
  let s := placeAll points points.length 0x80 ⟨0, 72, basic.length, true, []⟩
  basic ++ (if basic.isEmpty then [] else ['-']) ++ s.written.reverse.flatten

/-! ### Reading -/

/-- What the decoder knows after some digits. -/
structure Reading where
  /-- The characters placed so far. -/
  text : List Char
  /-- Where the next character goes if it equals the last one and the next number is zero. -/
  place : Nat
  /-- The code point placed last. -/
  point : Nat
  bias : Nat
  /-- The part of the next number that has been read. -/
  step : Nat
  /-- The position of the next digit in its number, a multiple of 36. -/
  position : Nat
  /-- What the next digit counts. -/
  weight : Nat

/-- Place a character when its number has been read. -/
def Reading.placeNext? (r : Reading) : Option Reading :=
  let count := r.text.length + 1
  let point := r.point + (r.place + r.step) / count
  let place := (r.place + r.step) % count
  if point.isValidChar then
    some
      { text := r.text.insertIdx place (Char.ofNat point)
        place := place + 1
        point
        bias := adapt r.step count (r.place = 0)
        step := 0
        position := 36
        weight := 1 }
  else none

/-- Read a digit. A digit below the threshold ends its number. Weights have at most 32
bits. -/
def Reading.digit? (r : Reading) (c : Char) : Option Reading := do
  let d ← digitValue? c
  let t := threshold r.position r.bias
  let r := { r with step := r.step + d * r.weight }
  if d < t then r.placeNext?
  else if r.weight * (36 - t) < Nat.pow 2 32 then
    return { r with position := r.position + 36, weight := r.weight * (36 - t) }
  else none

/-- The ASCII characters before the last dash and the digits after it. A dash at the start
is not one of those that end ASCII characters. -/
def split (cs : List Char) : List Char × List Char :=
  let digits := (cs.reverse.takeWhile (· ≠ '-')).reverse
  match cs.take (cs.length - digits.length) with
  | [] | ['-'] => ([], cs)
  | basic => (basic.dropLast, digits)

/-- The label that has an encoded form, ASCII capitals apart. -/
def decode? (cs : List Char) : Option (List Char) := do
  let (basic, digits) := split (cs.map Char.toLower)
  let r ← digits.foldlM Reading.digit? ⟨basic, 0, 0x80, 72, 0, 36, 1⟩
  if r.weight = 1 then return r.text else none

end CrossRate.Punycode
