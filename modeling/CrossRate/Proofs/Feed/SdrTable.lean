import CrossRate.Proofs.Table.Bridging
import CrossRate.Proofs.Table.Dual

/-!
# Rates of the special drawing right

Reading a grid carries a `Heading` from row to row: the section at hand and the days of its
columns. Under a heading a row gives `Reading`s, the rates in its cells, and the table of a
grid is that of the readings of its rows, pushed in the order in which they stand
(`read_eq_ok_iff`). Each is a quote against the special drawing right, so the table is sound.
-/

namespace CrossRate.SdrTable

/-- What stands above a row: the section that it belongs to and the days of its columns. -/
structure Heading where
  direction : Option Direction
  days : List (Option Date)

namespace Heading

/-- Nothing stands above the first row. -/
def start : Heading := ⟨none, []⟩

/-- What stands above the row after a row. -/
def after (heading : Heading) : Row → Heading
  | .title direction => ⟨some direction, []⟩
  | .header days => ⟨heading.direction, days⟩
  | .blank | .entry .. => heading

end Heading

/-- A rate in a cell of a grid: where the cell is, and what it says. -/
structure Reading where
  row : Nat
  column : Nat
  direction : Direction
  currency : Currency
  day : Date
  factor : Decimal

/-- The record of a reading, in its direction. -/
def Reading.rate (reader : FeedReader) (q : Reading) : Direction × RateRecord :=
  (q.direction, reader.record q.day (pairOf q.currency q.direction) q.factor)

/-- The reading of a cell below the day of its column. -/
def readingAt? (row column : Nat) (direction : Direction) (currency : Currency)
    (day : Option Date) (cell : List Char) : Option Reading := do
  let day ← day
  let factor ← value? cell
  if factor.isPositive then some ⟨row, column, direction, currency, day, factor⟩ else none

/-- The readings of a row under a heading. The name of an entry stands in the column zero. -/
def rowReadings (names : CurrencyNames) (heading : Heading) (row : Nat) : Row → List Reading
  | .entry name cells =>
    match heading.direction, names.lookup name with
    | some direction, some currency =>
      ((heading.days.zip cells).zipIdx 1).filterMap (fun ((day, cell), column) =>
        readingAt? row column direction currency day cell)
    | _, _ => []
  | _ => []

/-- The readings of rows under a heading, the first of them in a given place. -/
def readingsFrom (names : CurrencyNames) (heading : Heading) (row : Nat) :
    List Row → List Reading
  | [] => []
  | here :: below =>
    rowReadings names heading row here
      ++ readingsFrom names (heading.after here) (row + 1) below

/-- The readings of a grid, given its rows. -/
def readings (names : CurrencyNames) (rows : List (List (List Char))) : List Reading :=
  readingsFrom names .start 0 (rows.map Row.ofCells)

variable {names : CurrencyNames} {reader : FeedReader}

theorem readingAt?_eq_some_iff {row column : Nat} {direction : Direction} {currency : Currency}
    {day : Option Date} {cell : List Char} {q : Reading} :
  readingAt? row column direction currency day cell = some q
    ↔ q.row = row ∧ q.column = column ∧ q.direction = direction ∧ q.currency = currency
        ∧ day = some q.day ∧ value? cell = some q.factor ∧ q.factor.isPositive
  := by
  obtain ⟨row', column', direction', currency', day', factor'⟩ := q
  simp only [readingAt?, Option.bind_eq_bind, Option.bind_eq_some_iff]
  constructor
  · rintro ⟨day, rfl, factor, hf, h⟩
    split at h
    · rename_i positive
      cases h
      exact ⟨rfl, rfl, rfl, rfl, rfl, hf, positive⟩
    · simp at h
  · rintro ⟨rfl, rfl, rfl, rfl, rfl, hf, positive⟩
    exact ⟨day', rfl, factor', hf, if_pos positive⟩

/-- The rate in a cell is the record of its reading, wherever the cell is. -/
theorem rate?_eq_map_readingAt? (reader : FeedReader) (row column : Nat) (direction : Direction)
    (currency : Currency) (day : Option Date) (cell : List Char) :
  rate? reader (pairOf currency direction) day cell
    = (readingAt? row column direction currency day cell).map (fun q => (q.rate reader).2)
  := by
  cases day with
  | none => rfl
  | some day =>
    cases hv : value? cell with
    | none => simp [rate?, readingAt?, hv]
    | some factor =>
      simp only [rate?, readingAt?, hv, Option.bind_eq_bind, Option.bind_some]
      by_cases positive : factor.isPositive
      · rw [if_pos positive]
        apply FeedReader.quote?_eq_some_iff.2 ⟨positive, rfl⟩
      · rw [if_neg positive, Option.map_none, Option.eq_none_iff_forall_ne_some]
        intro r h
        apply positive (FeedReader.quote?_eq_some_iff.1 h).1

/-- Pushing the rates of cells is pushing those of their readings. -/
theorem foldl_push_rates (reader : FeedReader) (row : Nat) (direction : Direction)
    (currency : Currency) (cells : List (Option Date × List Char)) (column : Nat)
    (table : DualTable) :
  (cells.filterMap (fun (day, cell) => rate? reader (pairOf currency direction) day cell)).foldl
      (push · · direction) table
    = table.pushAll (((cells.zipIdx column).filterMap (fun ((day, cell), column) =>
        readingAt? row column direction currency day cell)).map (Reading.rate reader))
  := by
  induction cells generalizing column table with
  | nil => rfl
  | cons first rest ih =>
    obtain ⟨day, cell⟩ := first
    have rate := rate?_eq_map_readingAt? reader row column direction currency day cell
    cases h : readingAt? row column direction currency day cell with
    | none =>
      rw [h, Option.map_none] at rate
      simp only [List.zipIdx_cons, List.filterMap_cons, rate, h]
      apply ih
    | some q =>
      rw [h, Option.map_some] at rate
      obtain ⟨-, -, rfl, -⟩ := readingAt?_eq_some_iff.1 h
      simp only [List.zipIdx_cons, List.filterMap_cons, rate, h, List.foldl_cons, List.map_cons]
      apply ih

/-- A row changes the heading, and pushes the rates of its readings. -/
theorem readRow_eq (heading : Heading) (table : DualTable) (row : Row) (place : Nat) :
  readRow names reader ⟨heading.direction, heading.days, table⟩ row
    = ⟨(heading.after row).direction, (heading.after row).days,
        table.pushAll ((rowReadings names heading place row).map (Reading.rate reader))⟩
  := by
  obtain ⟨direction, days⟩ := heading
  cases row with
  | blank => rfl
  | title direction => rfl
  | header days => rfl
  | entry name cells =>
    simp only [readRow, rowReadings, Heading.after]
    cases direction with
    | none => rfl
    | some direction =>
      cases names.lookup name with
      | none => rfl
      | some currency =>
        simp only [foldl_push_rates reader place direction currency _ 1 table]

/-- Reading rows pushes the rates of their readings. -/
theorem table_foldl_readRow (names : CurrencyNames) (reader : FeedReader) (rows : List Row)
    (heading : Heading) (table : DualTable) (place : Nat) :
  (rows.foldl (readRow names reader) ⟨heading.direction, heading.days, table⟩).table
    = table.pushAll ((readingsFrom names heading place rows).map (Reading.rate reader))
  := by
  induction rows generalizing heading table place with
  | nil => rfl
  | cons row rows ih =>
    rw [List.foldl_cons, readRow_eq heading table row place, ih _ _ (place + 1), readingsFrom,
      List.map_append, DualTable.pushAll, DualTable.pushAll, DualTable.pushAll,
      List.foldl_append]

/-- Reading a grid: it is read unless it is the page for rejected requests, one of its records is not
text, or it has no reading. -/
theorem read_eq_ite (names : CurrencyNames) (reader : FeedReader) (grid : Bytes) :
  read names reader grid
    = if isRejection (texts (Grid.records grid)).1 then .error .rejected
      else if (texts (Grid.records grid)).2 then .error .malformedRecord
      else if readings names (texts (Grid.records grid)).1 = [] then .error .noRates
      else .ok ((DualTable.empty .specialDrawingRight).pushAll
        ((readings names (texts (Grid.records grid)).1).map (Reading.rate reader))).finish
  := by
  unfold read
  obtain ⟨rows, malformed⟩ := texts (Grid.records grid)
  have pushed := table_foldl_readRow names reader
    (rows.map Row.ofCells) .start (.empty .specialDrawingRight) 0
  rw [← readings] at pushed
  simp only [Heading.start] at pushed
  simp only [pushed, DualTable.isEmpty_pushAll, DualTable.isEmpty_empty, Bool.true_and,
    List.isEmpty_map, List.isEmpty_iff]

/-- A grid is read if it is not the page for rejected requests, all its records are text, and
it has a reading. -/
theorem read_eq_ok_iff {grid : Bytes} {table : DualTable} :
  read names reader grid = .ok table
    ↔ isRejection (texts (Grid.records grid)).1 = false
        ∧ (texts (Grid.records grid)).2 = false
        ∧ readings names (texts (Grid.records grid)).1 ≠ []
        ∧ table = ((DualTable.empty .specialDrawingRight).pushAll
            ((readings names (texts (Grid.records grid)).1).map (Reading.rate reader))).finish
  := by
  rw [read_eq_ite]
  split
  · rename_i rejected
    simp [rejected]
  · rename_i accepted
    split
    · rename_i malformed
      simp [malformed]
    · rename_i plain
      split
      · rename_i none
        simp [none]
      · rename_i some
        simp [accepted, plain, some, eq_comm]

/-- A reading has a positive factor. -/
theorem positive_of_mem_rowReadings {heading : Heading} {place : Nat} {row : Row} {q : Reading}
    (h : q ∈ rowReadings names heading place row) :
  q.factor.isPositive
  := by
  unfold rowReadings at h
  split at h
  · split at h
    · obtain ⟨⟨⟨day, cell⟩, column⟩, -, h⟩ := List.mem_filterMap.1 h
      obtain ⟨-, -, -, -, -, -, positive⟩ := readingAt?_eq_some_iff.1 h
      apply positive
    · simp at h
  · simp at h

/-- The rate of a reading is a quote. -/
theorem isQuote_of_mem_readingsFrom {heading : Heading} {place : Nat} {rows : List Row}
    {q : Reading} (h : q ∈ readingsFrom names heading place rows) :
  (q.rate reader).2.IsQuote reader q.day (pairOf q.currency q.direction)
  := by
  apply FeedReader.isQuote_record
  induction rows generalizing heading place with
  | nil => simp [readingsFrom] at h
  | cons row rows ih =>
    rw [readingsFrom, List.mem_append] at h
    obtain h | h := h
    · apply positive_of_mem_rowReadings h
    · apply ih h

/-- The currency of the rate of a reading is that of the reading. -/
theorem currencyOf_rate (q : Reading) :
  DualTable.currencyOf (q.rate reader).1 (q.rate reader).2 = q.currency
  := by
  obtain ⟨row, column, direction, currency, day, factor⟩ := q
  cases direction <;> rfl

/-- A look-up in the table of readings gives the rate of the last reading for its direction,
currency and day. -/
theorem rate?_finish_readings (qs : List Reading) (currency : Currency) (day : Date)
    (direction : Direction) :
  ((DualTable.empty .specialDrawingRight).pushAll
      (qs.map (Reading.rate reader))).finish.rate? currency day direction
    = (qs.reverse.find? (fun q => q.direction = direction ∧ q.currency = currency
        ∧ q.day = day)).map (fun q => (q.rate reader).2)
  := by
  rw [DualTable.rate?_finish_pushAll, ← List.map_reverse, List.find?_map, Option.map_map]
  congr 2
  funext q
  simp only [Function.comp_apply, currencyOf_rate]
  simp [Reading.rate, FeedReader.record]

/-- The table of a grid is against the special drawing right. -/
theorem unit_of_read {grid : Bytes} {table : DualTable}
    (h : read names reader grid = .ok table) :
  table.unit = .specialDrawingRight
  := by
  obtain ⟨-, -, -, rfl⟩ := read_eq_ok_iff.1 h
  apply DualTable.unit_pushAll

/-- A look-up in the table of a grid gives the rate of its last reading. -/
theorem rate?_of_read {grid : Bytes} {table : DualTable}
    (h : read names reader grid = .ok table) (currency : Currency) (day : Date)
    (direction : Direction) :
  table.rate? currency day direction
    = ((readings names (texts (Grid.records grid)).1).reverse.find? (fun q =>
        q.direction = direction ∧ q.currency = currency ∧ q.day = day)).map
          (fun q => (q.rate reader).2)
  := by
  obtain ⟨-, -, -, rfl⟩ := read_eq_ok_iff.1 h
  apply rate?_finish_readings

/-- Whatever the table of a grid gives is a quote. -/
theorem isQuote_rate?_of_read {grid : Bytes} {table : DualTable}
    (h : read names reader grid = .ok table) (direction : Direction) {currency : Currency}
    {day : Date} {r : RateRecord} (rate : table.rate? currency day direction = some r) :
  r.IsQuote reader day (pairOf currency direction)
  := by
  rw [rate?_of_read h] at rate
  obtain ⟨q, found, rfl⟩ := Option.map_eq_some_iff.1 rate
  obtain ⟨rfl, rfl, rfl⟩ : q.direction = direction ∧ q.currency = currency ∧ q.day = day := by
    simpa using List.find?_some found
  apply isQuote_of_mem_readingsFrom
  apply List.mem_reverse.1 (List.mem_of_find?_eq_some found)

/-- The table of a grid gives quotes only. -/
theorem isSound_of_read {grid : Bytes} {table : DualTable}
    (h : read names reader grid = .ok table) :
  table.IsSound reader
  := by
  constructor
  case toUnit =>
    intro day currency r rate
    rw [unit_of_read h]
    apply isQuote_rate?_of_read h .toUnit rate
  case fromUnit =>
    intro day currency r rate
    rw [unit_of_read h]
    apply isQuote_rate?_of_read h .fromUnit rate

/-! ### Readers and names -/

/-- Whether a grid is read does not depend on the reader. -/
theorem exists_read {grid : Bytes} {table : DualTable} (h : read names reader grid = .ok table)
    (reader' : FeedReader) :
  ∃ table', read names reader' grid = .ok table'
  := by
  obtain ⟨accepted, plain, some, -⟩ := read_eq_ok_iff.1 h
  exact ⟨_, read_eq_ok_iff.2 ⟨accepted, plain, some, rfl⟩⟩

/-- Whether there is a reading in a cell does not depend on the currency. -/
theorem readingAt?_eq_none_iff {row column : Nat} {direction : Direction}
    {currency currency' : Currency} {day : Option Date} {cell : List Char} :
  readingAt? row column direction currency day cell = none
    ↔ readingAt? row column direction currency' day cell = none
  := by
  simp only [readingAt?]
  cases day with
  | none => rfl
  | some day =>
    cases value? cell with
    | none => rfl
    | some factor => by_cases positive : factor.isPositive <;> simp [positive]

/-- A grid that has readings by some names has readings by more names. -/
theorem readings_ne_nil {names names' : CurrencyNames}
    (more : ∀ name, (names.lookup name).isSome = true → (names'.lookup name).isSome = true)
    {rows : List (List (List Char))} (some : readings names rows ≠ []) :
  readings names' rows ≠ []
  := by
  have row (heading : Heading) (place : Nat) (r : Row)
      (none : rowReadings names' heading place r = []) :
      rowReadings names heading place r = [] := by
    cases r with
    | entry name cells =>
      rw [rowReadings] at none ⊢
      cases headed : heading.direction with
      | none => rfl
      | some direction =>
        cases known : names.lookup name with
        | none => rfl
        | some currency =>
          obtain ⟨currency', known'⟩ := Option.isSome_iff_exists.1 (more name (by simp [known]))
          rw [headed, known'] at none
          simp only [List.filterMap_eq_nil_iff] at none ⊢
          intro e mem
          apply readingAt?_eq_none_iff.1 (none e mem)
    | _ => rfl
  have below (heading : Heading) (place : Nat) (rows : List Row)
      (none : readingsFrom names' heading place rows = []) :
      readingsFrom names heading place rows = [] := by
    induction rows generalizing heading place with
    | nil => rfl
    | cons here rows ih =>
      rw [readingsFrom, List.append_eq_nil_iff] at none ⊢
      exact ⟨row _ _ _ none.1, ih _ _ none.2⟩
  exact fun none => some (below _ _ _ none)

end CrossRate.SdrTable
