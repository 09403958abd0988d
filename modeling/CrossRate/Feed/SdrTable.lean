import CrossRate.Currency.Names
import CrossRate.Decimal.Reader
import CrossRate.Feed.Basic
import CrossRate.Grid
import CrossRate.Text.Search

/-!
# Tables of special drawing rights

The feed of the rates of the special drawing right is a grid with two sections, one for each
direction. In a section a header gives the days of the columns, and every other row the
name of a currency and its rates. A cell that is no rate, and a row that belongs to no
section or no known currency, are passed over.
-/

namespace CrossRate.SdrTable

/-- The two directions of the rates. -/
inductive Direction where
  | toUnit
  | fromUnit
deriving DecidableEq

/-- The title of the section of a direction. -/
def Direction.title : Direction → String
  | toUnit => "SDRs per Currency unit"
  | fromUnit => "Currency units per SDR"

/-- The first cell of a header. -/
def headerName : String := "Currency"

/-- What the page for rejected requests says. -/
def rejectionText : String := "Request Rejected"

/-- What a row of the grid is. -/
inductive Row where
  /-- A row of empty cells. -/
  | blank
  /-- The title of a section. -/
  | title (direction : Direction)
  /-- The days of the columns, as far as they can be read. -/
  | header (days : List (Option Date))
  /-- A name and the cells after it. -/
  | entry (name : String) (cells : List (List Char))

/-- Whether a text starts with a title. -/
def startsWith (title : String) (cell : List Char) : Bool := title.toList.isPrefixOf cell

/-- What the row of some cells is. -/
def Row.ofCells : List (List Char) → Row
  | [] => .blank
  | name :: cells =>
    if (name :: cells).all List.isEmpty then .blank
    else if startsWith Direction.toUnit.title name then .title .toUnit
    else if startsWith Direction.fromUnit.title name then .title .fromUnit
    else if name = headerName.toList then .header (cells.map Date.parseWorded?)
    else .entry (String.ofList name) cells

/-- What has been read of a grid: the section at hand, the days of its columns, and the
rates. -/
structure Progress where
  direction : Option Direction
  days : List (Option Date)
  table : DualTable

/-- Whether a cell says that there is no value. -/
def isVoid (cell : List Char) : Bool := cell.isEmpty || cell.map Char.toUpper = "NA".toList

/-- The number in a cell, commas left out. -/
def value? (cell : List Char) : Option Decimal :=
  if isVoid cell then none else Decimal.parse? (String.ofList (cell.filter (· ≠ ',')))

/-- The direction of the rates of a currency in a section. -/
def pairOf (currency : Currency) : Direction → CurrencyPair
  | .toUnit => ⟨currency, .specialDrawingRight⟩
  | .fromUnit => ⟨.specialDrawingRight, currency⟩

/-- Add a rate to the series of a section. -/
def push (table : DualTable) (r : RateRecord) : Direction → DualTable
  | .toUnit => table.pushToUnit r
  | .fromUnit => table.pushFromUnit r

/-- The rate in a cell below the day of its column. -/
def rate? (reader : FeedReader) (pair : CurrencyPair) (day : Option Date) (cell : List Char) :
    Option RateRecord := do
  let day ← day
  reader.quote? day pair (← value? cell)

/-- Read a row. -/
def readRow (names : CurrencyNames) (reader : FeedReader) (progress : Progress) :
    Row → Progress
  | .blank => progress
  | .title direction => { progress with direction := some direction, days := [] }
  | .header days => { progress with days := days }
  | .entry name cells =>
    match progress.direction, names.lookup name with
    | some direction, some currency =>
      let rates := (progress.days.zip cells).filterMap (fun (day, cell) =>
        rate? reader (pairOf currency direction) day cell)
      { progress with table := rates.foldl (push · · direction) progress.table }
    | _, _ => progress

/-- Whether the first record is that of the page for rejected requests. -/
def isRejection : List (List (List Char)) → Bool
  | [] => false
  | cells :: _ => cells.any (Text.occursIn rejectionText.toList)

/-- The texts of the records up to the first one that is not text, and whether there is
such a one. -/
def texts : List (List Bytes) → List (List (List Char)) × Bool
  | [] => ([], false)
  | record :: rest =>
    match Grid.cells? record with
    | none => ([], true)
    | some cells =>
      let (more, malformed) := texts rest
      (cells :: more, malformed)

/-- The table of the rates of a grid. -/
def read (names : CurrencyNames) (reader : FeedReader) (grid : Bytes) :
    Except FeedFault DualTable :=
  let (rows, malformed) := texts (Grid.records grid)
  if isRejection rows then .error .rejected
  else if malformed then .error .malformedRecord
  else
    let progress := (rows.map Row.ofCells).foldl (readRow names reader)
      ⟨none, [], .empty .specialDrawingRight⟩
    if progress.table.isEmpty then .error .noRates else .ok progress.table.finish

end CrossRate.SdrTable
