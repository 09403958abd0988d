import CrossRate.Proofs.Feed.SdrCells
import CrossRate.Proofs.Grid.Writing

/-!
# Reading a grid that was written

When a grid of cells without special characters is written and read, what is found in it is
what stands in it: the look-ups in its table are the last valid cells of the grid
(`read_written_grid`).
-/

namespace CrossRate

namespace Text

/-- A word that does not start with a blank is not affected by dropping blanks. -/
theorem infix_skipBlanks_iff {c : Char} {word cs : List Char} (hc : isBlank c = false) :
  c :: word <:+: skipBlanks cs ↔ c :: word <:+: cs
  := by
  rw [skipBlanks]
  induction cs with
  | nil => rfl
  | cons d cs ih =>
    rw [List.dropWhile_cons]
    split
    · rename_i blank
      rw [ih, List.infix_cons_iff]
      constructor
      · apply Or.inr
      · rintro (first | h)
        · obtain ⟨rfl, -⟩ := List.cons_prefix_cons.1 first
          simp [hc] at blank
        · apply h
    · rfl

/-- A word without blanks at its ends is not affected by trimming. -/
theorem infix_trimChars_iff {c d : Char} {word inner cs : List Char} (first : word = c :: inner)
    {inner' : List Char} (last : word.reverse = d :: inner') (hc : isBlank c = false)
    (hd : isBlank d = false) :
  word <:+: trimChars cs ↔ word <:+: cs
  := by
  rw [trimChars, ← List.reverse_infix, List.reverse_reverse, last, infix_skipBlanks_iff hd, ← last,
    List.reverse_infix, first, infix_skipBlanks_iff hc]

end Text

namespace SdrTable

variable {names : CurrencyNames} {reader : FeedReader} {rows : List (List (List Char))}

/-- The cells of a grid without the blanks around them. -/
def trimmed (rows : List (List (List Char))) : List (List (List Char)) :=
  rows.map (·.map Text.trimChars)

/-- The first row that is not an empty line has the text of the page for rejected
requests. -/
def IsRejected (rows : List (List (List Char))) : Prop :=
  ∃ row, rows.find? (!Grid.isEmptyLine ·) = some row
    ∧ ∃ cell ∈ row, rejectionText.toList <:+: cell

/-- A reading for a direction, a currency and a day. -/
def Reading.IsFor (q : Reading) (direction : Direction) (currency : Currency) (day : Date) :
    Prop :=
  q.direction = direction ∧ q.currency = currency ∧ q.day = day

/-- The last valid cell of a grid for a direction, a currency and a day. -/
structure IsLastReading (names : CurrencyNames) (rows : List (List (List Char)))
    (direction : Direction) (currency : Currency) (day : Date) (q : Reading) : Prop where
  reading : IsReading names rows q
  isFor : q.IsFor direction currency day
  last {p : Reading} : IsReading names rows p → p.IsFor direction currency day →
    p = q ∨ p.Before q

/-- The answer that a grid gives to a look-up for a direction, a currency and a day. -/
structure IsLookUp (names : CurrencyNames) (reader : FeedReader)
    (rows : List (List (List Char))) (direction : Direction) (currency : Currency) (day : Date)
    (answer : Option RateRecord) : Prop where
  /-- A record is that of the last valid cell. -/
  present {r : RateRecord} : answer = some r
    ↔ ∃ q, IsLastReading names rows direction currency day q
        ∧ r = reader.record day (pairOf currency direction) q.factor
  /-- There is none if there is no valid cell. -/
  absent : answer = none ↔ ¬ ∃ q, IsReading names rows q ∧ q.IsFor direction currency day

/-! ### Rows of a written grid -/

theorem texts_map_encodeChars (rows : List (List (List Char))) :
  texts (rows.map (·.map Text.encodeChars)) = (trimmed rows, false)
  := by
  induction rows with
  | nil => rfl
  | cons row rows ih =>
    rw [List.map_cons, texts, Grid.cells?_map_encodeChars, ih]
    rfl

/-- A written grid is read as its rows, empty lines left out. -/
theorem texts_records_write
    (plain : ∀ row ∈ rows, ∀ cell ∈ row, ∀ c ∈ cell, Grid.isSpecial c = false) :
  texts (Grid.records (Text.encode (Grid.write rows)))
    = (trimmed (rows.filter (!Grid.isEmptyLine ·)), false)
  := by rw [Grid.records_write plain, texts_map_encodeChars]

theorem isRejection_iff :
  isRejection (trimmed (rows.filter (!Grid.isEmptyLine ·))) = true ↔ IsRejected rows
  := by
  have found : isRejection (trimmed (rows.filter (!Grid.isEmptyLine ·)))
      = (rows.find? (!Grid.isEmptyLine ·)).any
          (·.any (fun cell => Text.occursIn rejectionText.toList (Text.trimChars cell))) := by
    rw [← List.head?_filter]
    cases rows.filter (!Grid.isEmptyLine ·) with
    | nil => rfl
    | cons row rows => simp [trimmed, isRejection, List.any_map, Function.comp_def]
  have first : rejectionText.toList = 'R' :: rejectionText.toList.tail := by decide
  have last : rejectionText.toList.reverse = 'd' :: rejectionText.toList.reverse.tail := by decide
  rw [found, Option.any_eq_true, IsRejected]
  simp only [List.any_eq_true, Text.occursIn_iff,
    Text.infix_trimChars_iff first last (by decide) (by decide)]

/-! ### Rows that do not count -/

/-- What a reading says does not depend on its place. -/
theorem map_rate_readingAt? (row row' column : Nat) (direction : Direction) (currency : Currency)
    (day : Option Date) (cell : List Char) :
  (readingAt? row column direction currency day cell).map (Reading.rate reader)
    = (readingAt? row' column direction currency day cell).map (Reading.rate reader)
  := by
  cases day with
  | none => rfl
  | some day =>
    simp only [readingAt?, Option.bind_eq_bind, Option.bind_some]
    cases value? cell with
    | none => rfl
    | some factor =>
      simp only [Option.bind_some]
      split <;> rfl

theorem map_rate_rowReadings (heading : Heading) (place place' : Nat) (row : Row) :
  (rowReadings names heading place row).map (Reading.rate reader)
    = (rowReadings names heading place' row).map (Reading.rate reader)
  := by
  cases row with
  | entry name cells =>
    rw [rowReadings, rowReadings]
    split
    · rw [List.map_filterMap, List.map_filterMap]
      congr 1
      funext place
      apply map_rate_readingAt?
    · rfl
  | _ => rfl

/-- Leaving out rows that are blank does not change what the readings say. -/
theorem map_rate_readingsFrom_filter {α : Type} {kind : α → Row} {keep : α → Bool}
    (blank : ∀ a, keep a = false → kind a = .blank) (below : List α) (heading : Heading)
    (place place' : Nat) :
  (readingsFrom names heading place ((below.filter keep).map kind)).map (Reading.rate reader)
    = (readingsFrom names heading place' (below.map kind)).map (Reading.rate reader)
  := by
  induction below generalizing heading place place' with
  | nil => rfl
  | cons a below ih =>
    cases kept : keep a with
    | true =>
      rw [List.filter_cons_of_pos kept, List.map_cons, List.map_cons, readingsFrom, readingsFrom,
        List.map_append, List.map_append, ih _ _ (place' + 1),
        map_rate_rowReadings heading place place']
    | false =>
      rw [List.filter_cons_of_neg (by simp [kept]), List.map_cons, readingsFrom, blank a kept,
        ih _ _ (place' + 1)]
      rfl

/-- An empty line is blank. -/
theorem ofCells_of_isEmptyLine {row : List (List Char)} (h : Grid.isEmptyLine row = true) :
  Row.ofCells (row.map Text.trimChars) = .blank
  := by
  cases row with
  | nil => rfl
  | cons first row =>
    rw [Grid.isEmptyLine_cons] at h
    rw [h]
    rfl

/-- Empty lines do not change what the readings say. -/
theorem map_rate_readings_filter (names : CurrencyNames) (reader : FeedReader)
    (rows : List (List (List Char))) :
  (readings names (trimmed (rows.filter (!Grid.isEmptyLine ·)))).map (Reading.rate reader)
    = (readings names (trimmed rows)).map (Reading.rate reader)
  := by
  rw [readings, readings, trimmed, trimmed, List.map_map, List.map_map]
  apply map_rate_readingsFrom_filter
  intro row h
  apply ofCells_of_isEmptyLine
  simpa using h

/-! ### Look-ups -/

/-- Of a written grid the table is that of its readings. -/
theorem read_write_eq_ok_iff (names : CurrencyNames) (reader : FeedReader)
    (plain : ∀ row ∈ rows, ∀ cell ∈ row, ∀ c ∈ cell, Grid.isSpecial c = false)
    (table : DualTable) :
  read names reader (Text.encode (Grid.write rows)) = .ok table
    ↔ ¬ IsRejected rows ∧ readings names (trimmed rows) ≠ []
        ∧ table = ((DualTable.empty .specialDrawingRight).pushAll
            ((readings names (trimmed rows)).map (Reading.rate reader))).finish
  := by
  have same := map_rate_readings_filter names reader rows
  have none : readings names (trimmed (rows.filter (!Grid.isEmptyLine ·))) = []
      ↔ readings names (trimmed rows) = [] := by
    rw [← List.map_eq_nil_iff (f := Reading.rate reader), same, List.map_eq_nil_iff]
  rw [read_eq_ok_iff, texts_records_write plain, ← isRejection_iff, Bool.not_eq_true, ne_eq, none,
    same]
  simp

/-- A look-up in the table of readings gives the record of the last one that it is for. -/
theorem isLookUp_rate?_finish (rows : List (List (List Char))) (direction : Direction)
    (currency : Currency) (day : Date) :
  IsLookUp names reader rows direction currency day
    (((DualTable.empty .specialDrawingRight).pushAll
      ((readings names rows).map (Reading.rate reader))).finish.rate? currency day direction)
  := by
  rw [rate?_finish_readings]
  constructor
  case present =>
    intro r
    rw [Option.map_eq_some_iff]
    simp only [find?_reverse_eq_some_iff Reading.Before.asymm (pairwise_readings names rows),
      mem_readings_iff, decide_eq_true_eq]
    constructor
    · rintro ⟨q, ⟨reading, isFor, last⟩, rfl⟩
      use q, ⟨reading, isFor, fun hp => last _ hp⟩
      obtain ⟨rfl, rfl, rfl⟩ := isFor
      rfl
    · rintro ⟨q, ⟨reading, isFor, last⟩, rfl⟩
      use q, ⟨reading, isFor, fun p hp => last hp⟩
      obtain ⟨rfl, rfl, rfl⟩ := isFor
      rfl
  case absent =>
    rw [Option.map_eq_none_iff, List.find?_eq_none]
    simp only [List.mem_reverse, mem_readings_iff, decide_eq_true_eq, not_exists, not_and,
      Reading.IsFor]

/-- A grid is read unless its first row that is not an empty line has the text of the page for
rejected requests or it has no valid cell. Each look-up in its table gives the record of the
last valid cell, in the order of reading, for the direction, the currency and the day. -/
theorem read_written_grid (names : CurrencyNames) (reader : FeedReader)
    (rows : List (List (List Char)))
    (plain : ∀ row ∈ rows, ∀ cell ∈ row, ∀ c ∈ cell, Grid.isSpecial c = false) :
  ((∃ fault, read names reader (Text.encode (Grid.write rows)) = .error fault)
      ↔ IsRejected rows ∨ ¬ ∃ q, IsReading names (trimmed rows) q)
    ∧ ∀ table, read names reader (Text.encode (Grid.write rows)) = .ok table →
        ∀ currency day,
          IsLookUp names reader (trimmed rows) .toUnit currency day (table.toUnit? currency day)
            ∧ IsLookUp names reader (trimmed rows) .fromUnit currency day
                (table.fromUnit? currency day)
  := by
  have accepted := read_write_eq_ok_iff names reader plain
  have none : readings names (trimmed rows) = [] ↔ ¬ ∃ q, IsReading names (trimmed rows) q := by
    simp only [List.eq_nil_iff_forall_not_mem, mem_readings_iff, not_exists]
  constructor
  · rw [← none]
    constructor
    · rintro ⟨fault, failed⟩
      by_contra neither
      rw [not_or] at neither
      have := (accepted _).2 ⟨neither.1, neither.2, rfl⟩
      rw [failed] at this
      cases this
    · intro reason
      cases result : read names reader (Text.encode (Grid.write rows)) with
      | error fault => use fault
      | ok table =>
        obtain ⟨not_rejected, some, -⟩ := (accepted table).1 result
        obtain rejected | none := reason
        · exact absurd rejected not_rejected
        · exact absurd none some
  · intro table read currency day
    obtain ⟨-, -, rfl⟩ := (accepted table).1 read
    constructor
    · apply isLookUp_rate?_finish (trimmed rows) .toUnit
    · apply isLookUp_rate?_finish (trimmed rows) .fromUnit

/-- Of two rows for the euro the second one counts where it has a number. -/
theorem read_written_grid_two_rows :
  ∃ (names : CurrencyNames) (reader : FeedReader) (rows : List (List (List Char)))
      (table : DualTable) (day : Date) (q : Reading),
    rows = [["SDRs per Currency unit (2)".toList], [],
        ["Currency".toList, "January 03, 2024".toList, "January 02, 2024".toList],
        [" EURO".toList, "0.81".toList, "1,000.5".toList],
        ["Euro".toList, "0.82".toList, "NA".toList]]
      ∧ read names reader (Text.encode (Grid.write rows)) = .ok table
      ∧ IsLastReading names (trimmed rows) .toUnit .euro day q
      ∧ table.toUnit? .euro day
          = some (reader.record day ⟨.euro, .specialDrawingRight⟩ q.factor)
      ∧ q.factor.print = "0.82"
  := by
  let names := CurrencyNames.empty.insert "Euro" .euro
  let reader : FeedReader := ⟨"IMF", ⟨739194, by decide, by decide⟩⟩
  let day : Date := ⟨739193, by decide, by decide⟩
  let rows := [["SDRs per Currency unit (2)".toList], [],
    ["Currency".toList, "January 03, 2024".toList, "January 02, 2024".toList],
    [" EURO".toList, "0.81".toList, "1,000.5".toList], ["Euro".toList, "0.82".toList, "NA".toList]]
  have checked :
      rows.all (fun row => row.all (fun cell => cell.all (!Grid.isSpecial ·))) = true := by
    decide +kernel
  have plain : ∀ row ∈ rows, ∀ cell ∈ row, ∀ c ∈ cell, Grid.isSpecial c = false := by
    simpa only [List.all_eq_true, Bool.not_eq_true'] using checked
  have accepted : (read names reader (Text.encode (Grid.write rows))).toOption.isSome = true := by
    decide +kernel
  have found : ((readings names (trimmed rows)).reverse.find? (fun q =>
      q.direction = .toUnit ∧ q.currency = .euro ∧ q.day = day)).any (·.factor.print = "0.82")
        = true := by
    decide +kernel
  obtain ⟨table, ht⟩ := Option.isSome_iff_exists.1 accepted
  obtain ⟨p, hp, factor⟩ := (Option.any_eq_true _ _).1 found
  rw [toOption_eq_some_iff] at ht
  have rate : table.toUnit? .euro day = some (p.rate reader).2 := by
    obtain ⟨-, -, rfl⟩ := (read_write_eq_ok_iff names reader plain table).1 ht
    apply (rate?_finish_readings _ .euro day .toUnit).trans
    rw [hp, Option.map_some]
  have lookUp := ((read_written_grid names reader rows plain).2 table ht .euro day).1
  obtain ⟨q, last, same⟩ := lookUp.present.1 rate
  use names, reader, rows, table, day, q, rfl, ht, last
  have equal : p.factor = q.factor := congrArg RateRecord.factor same
  rw [rate, same, ← equal]
  exact ⟨rfl, of_decide_eq_true factor⟩

end SdrTable

end CrossRate
