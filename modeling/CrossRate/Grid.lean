import CrossRate.Text.Blank
import CrossRate.Text.Bytes

/-!
# Grids of cells

A grid is text with one record a line and a tab between the cells of a record. A cell may
be quoted, and then it may hold tabs, line breaks and, written twice, quotes. Empty lines
are no records. `records` divides a grid and `cells?` gives the texts of a record.
-/

namespace CrossRate.Grid

open Text (byte)

/-- Where in a grid the next byte stands. -/
inductive Place where
  /-- Before the first cell of a record. -/
  | recordStart
  /-- At the start of a cell. -/
  | cellStart
  /-- In a cell, outside quotes. -/
  | plain
  /-- Between quotes. -/
  | quoted
  /-- After a quote that closes the cell unless another one follows. -/
  | quoteRead
deriving DecidableEq

/-- Whether a byte ends a record. -/
def isLineBreak (b : UInt8) : Bool := b = byte '\n' || b = byte '\r'

/-- The records of a grid from a place on. The bytes of the cell there and the cells before
it in its record are given last first. -/
def recordsFrom (place : Place) (cell : Bytes) (before : List Bytes) : Bytes → List (List Bytes)
  | [] =>
    match place with
    | .recordStart => []
    | _ => [(cell.reverse :: before).reverse]
  | b :: rest =>
    if place = .quoted then
      if b = byte '"' then recordsFrom .quoteRead cell before rest
      else recordsFrom .quoted (b :: cell) before rest
    else if place = .quoteRead ∧ b = byte '"' then recordsFrom .quoted (b :: cell) before rest
    else if isLineBreak b then
      if place = .recordStart then recordsFrom .recordStart [] [] rest
      else (cell.reverse :: before).reverse :: recordsFrom .recordStart [] [] rest
    else if b = byte '\t' then recordsFrom .cellStart [] (cell.reverse :: before) rest
    else if b = byte '"' ∧ place ≠ .plain then recordsFrom .quoted cell before rest
    else recordsFrom .plain (b :: cell) before rest

/-- The records of a grid, each the list of the bytes of its cells. -/
def records (grid : Bytes) : List (List Bytes) :=
  recordsFrom .recordStart [] [] (Text.skipByteOrderMark grid)

/-- The texts of the cells of a record without the blanks around them, if the record is
text. -/
def cells? (record : List Bytes) : Option (List (List Char)) :=
  record.mapM (fun cell => (Text.decodeChars? cell).map Text.trimChars)

end CrossRate.Grid
