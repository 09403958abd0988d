import CrossRate.Proofs.Feed.SdrTable

/-!
# Which cells of a grid give rates

`IsReading` says of a cell of a grid, by what stands above it and before it in its row, that
it gives a rate. Those cells are just the readings of the grid (`mem_readings_iff`), and the
readings come in the order of reading (`pairwise_readings`).
-/

namespace CrossRate.SdrTable

/-- A row that is the title of the section of a direction. -/
def IsTitle (direction : Direction) (row : List (List Char)) : Prop :=
  ∃ name, row.head? = some name ∧ direction.title.toList <+: name

/-- A row that is the title of some section. -/
def IsSomeTitle (row : List (List Char)) : Prop := ∃ direction, IsTitle direction row

/-- A row that is a header. -/
def IsHeader (row : List (List Char)) : Prop := row.head? = some headerName.toList

/-- The place `t` is the nearest one before `i` where something holds. -/
structure Nearest {α : Type} (P : α → Prop) (rows : List α) (i t : Nat) : Prop where
  above : t < i
  holds : ∃ row, rows[t]? = some row ∧ P row
  between {k : Nat} {row : α} : t < k → k < i → rows[k]? = some row → ¬ P row

/-- A valid cell of a grid: one that gives a rate. -/
structure IsReading (names : CurrencyNames) (rows : List (List (List Char))) (q : Reading) :
    Prop where
  /-- The nearest title above is that of the direction, and below it the nearest header above
  has the day in the column of the cell. -/
  heading : ∃ t h title header, Nearest IsSomeTitle rows q.row t ∧ Nearest IsHeader rows q.row h
    ∧ t < h ∧ rows[t]? = some title ∧ IsTitle q.direction title ∧ rows[h]? = some header
    ∧ (header[q.column]?).bind Date.parseWorded? = some q.day
  /-- The row is neither a title nor a header, its first cell is a name of the currency, and
  the cell is a number when commas are left out. -/
  entry : ∃ row name cell, rows[q.row]? = some row ∧ ¬ IsSomeTitle row ∧ ¬ IsHeader row
    ∧ row.head? = some name ∧ names.lookup (String.ofList name) = some q.currency
    ∧ row[q.column]? = some cell
    ∧ Decimal.parse? (String.ofList (cell.filter (· ≠ ','))) = some q.factor
  positive : q.factor.isPositive

/-! ### What a row is -/

theorem startsWith_iff {title : String} {cell : List Char} :
  startsWith title cell = true ↔ title.toList <+: cell
  := by apply List.isPrefixOf_iff_prefix

/-- A row is the title of one section only. -/
theorem IsTitle.unique {direction direction' : Direction} {row : List (List Char)}
    (h : IsTitle direction row) (h' : IsTitle direction' row) :
  direction = direction'
  := by
  obtain ⟨name, head, title⟩ := h
  obtain ⟨name', head', title'⟩ := h'
  rw [head] at head'
  cases head'
  have either := List.prefix_or_prefix_of_prefix title title'
  revert either
  cases direction <;> cases direction' <;> decide

/-- The first cell of a header is not the start of a title. -/
theorem not_isHeader_of_isTitle {direction : Direction} {row : List (List Char)}
    (h : IsTitle direction row) :
  ¬ IsHeader row
  := by
  intro header
  obtain ⟨name, head, title⟩ := h
  rw [header] at head
  cases head
  revert title
  cases direction <;> decide

/-- What a row may be read as. -/
inductive IsReadAs (row : List (List Char)) : Row → Prop where
  | blank (empty : ∀ cell ∈ row, cell = []) (untitled : ¬ IsSomeTitle row)
      (entry : ¬ IsHeader row) : IsReadAs row .blank
  | title (direction : Direction) (titled : IsTitle direction row) :
      IsReadAs row (.title direction)
  | header (untitled : ¬ IsSomeTitle row) (header : IsHeader row) :
      IsReadAs row (.header (row.tail.map Date.parseWorded?))
  | entry (name : List Char) (cells : List (List Char)) (split : row = name :: cells)
      (untitled : ¬ IsSomeTitle row) (entry : ¬ IsHeader row) :
      IsReadAs row (.entry (String.ofList name) cells)

/-- The first cell of a title or a header is not empty. -/
theorem exists_ne_nil_of_isSomeTitle_or_isHeader {row : List (List Char)}
    (h : IsSomeTitle row ∨ IsHeader row) :
  ∃ cell ∈ row, cell ≠ []
  := by
  obtain ⟨direction, name, head, title⟩ | head := h
  · use name, List.mem_of_head? head
    rintro rfl
    revert title
    cases direction <;> decide
  · use headerName.toList, List.mem_of_head? head
    decide

/-- A row is read as what it is. -/
theorem isReadAs_ofCells (row : List (List Char)) : IsReadAs row (Row.ofCells row)
  := by
  cases row with
  | nil =>
    apply IsReadAs.blank
    · simp
    · simp [IsSomeTitle, IsTitle]
    · simp [IsHeader]
  | cons name cells =>
    have title (direction : Direction) :
        IsTitle direction (name :: cells) ↔ startsWith direction.title name = true := by
      rw [startsWith_iff]
      simp [IsTitle]
    have header : IsHeader (name :: cells) ↔ name = headerName.toList := by simp [IsHeader]
    rw [Row.ofCells]
    split
    · rename_i blank
      have empty : ∀ cell ∈ name :: cells, cell = [] := by simpa using blank
      have nothing : ¬ (IsSomeTitle (name :: cells) ∨ IsHeader (name :: cells)) := by
        intro h
        obtain ⟨cell, hc, full⟩ := exists_ne_nil_of_isSomeTitle_or_isHeader h
        exact full (empty cell hc)
      exact .blank empty (fun h => nothing (.inl h)) (fun h => nothing (.inr h))
    split
    · rename_i starts
      exact .title .toUnit ((title _).2 starts)
    split
    · rename_i starts
      exact .title .fromUnit ((title _).2 starts)
    rename_i no_toUnit no_fromUnit
    have untitled : ¬ IsSomeTitle (name :: cells) := by
      rintro ⟨direction, h⟩
      rw [title] at h
      cases direction with
      | toUnit => exact no_toUnit h
      | fromUnit => exact no_fromUnit h
    split
    · rename_i heads
      exact .header untitled (header.2 heads)
    · rename_i heads
      exact .entry name cells rfl untitled (fun h => heads (header.1 h))

/-! ### What stands above a row -/

section

variable {α : Type} {P : α → Prop} {rows : List α} {i t : Nat} {row : α}

theorem Nearest.not_lt {t' : Nat} (h : Nearest P rows i t) (h' : Nearest P rows i t') :
  ¬ t < t'
  := by
  intro further
  obtain ⟨row, at_t', holds⟩ := h'.holds
  apply h.between further h'.above at_t' holds

/-- There is but one nearest place. -/
theorem Nearest.unique {t' : Nat} (h : Nearest P rows i t) (h' : Nearest P rows i t') :
  t = t'
  := by
  have := h.not_lt h'
  have := h'.not_lt h
  omega

theorem not_nearest_zero : ¬ Nearest P rows 0 t
  := fun h => absurd h.above (Nat.not_lt_zero t)

/-- The nearest place before the next row is this row, or else the nearest one before it. -/
theorem nearest_succ_iff (here : rows[i]? = some row) :
  Nearest P rows (i + 1) t ↔ P row ∧ t = i ∨ ¬ P row ∧ Nearest P rows i t
  := by
  constructor
  · intro h
    by_cases last : t = i
    · subst last
      obtain ⟨row', at_t, holds⟩ := h.holds
      rw [here] at at_t
      cases at_t
      exact .inl ⟨holds, rfl⟩
    · have above : t < i := by
        have := h.above
        omega
      right
      constructor
      · apply h.between above (Nat.lt_succ_self i) here
      · exact ⟨above, h.holds, fun low high => h.between low (Nat.lt_succ_of_lt high)⟩
  · rintro (⟨holds, rfl⟩ | ⟨fails, h⟩)
    · exact ⟨Nat.lt_succ_self t, ⟨row, here, holds⟩, fun low high => by omega⟩
    · constructor
      · apply Nat.lt_succ_of_lt h.above
      · apply h.holds
      · intro k row' low high at_k
        obtain below | rfl : k < i ∨ k = i := by omega
        · apply h.between low below at_k
        · rw [here] at at_k
          cases at_k
          apply fails

end

/-- What stands above a row of a grid. -/
def headingAt (rows : List (List (List Char))) (i : Nat) : Heading :=
  ((rows.take i).map Row.ofCells).foldl Heading.after .start

variable {rows : List (List (List Char))}

theorem headingAt_succ {i : Nat} {row : List (List Char)} (here : rows[i]? = some row) :
  headingAt rows (i + 1) = (headingAt rows i).after (Row.ofCells row)
  := by
  rw [headingAt, List.take_add_one, here, List.map_append, List.foldl_append]
  rfl

/-- The section at hand is that of the nearest title. -/
theorem direction_headingAt_iff {i : Nat} (hi : i ≤ rows.length) {direction : Direction} :
  (headingAt rows i).direction = some direction
    ↔ ∃ t title, Nearest IsSomeTitle rows i t ∧ rows[t]? = some title ∧ IsTitle direction title
  := by
  induction i with
  | zero =>
    constructor
    · intro h
      cases h
    · rintro ⟨t, title, nearest, -⟩
      exact absurd nearest not_nearest_zero
  | succ i ih =>
    have here : rows[i]? = some rows[i] := List.getElem?_eq_getElem hi
    have before := ih (Nat.le_of_succ_le hi)
    rw [headingAt_succ here]
    simp only [nearest_succ_iff here]
    have read := isReadAs_ofCells rows[i]
    generalize Row.ofCells rows[i] = kind at read
    cases read with
    | title direction' titled =>
      have some_title : IsSomeTitle rows[i] := ⟨direction', titled⟩
      simp only [Heading.after, some_title, true_and, not_true_eq_false, false_and, or_false,
        Option.some.injEq]
      constructor
      · rintro rfl
        exact ⟨i, rows[i], rfl, here, titled⟩
      · rintro ⟨t, title, rfl, at_t, titled'⟩
        rw [here] at at_t
        cases at_t
        apply titled.unique titled'
    | blank empty untitled _ => simpa [untitled, Heading.after] using before
    | header untitled _ => simpa [untitled, Heading.after] using before
    | entry name cells split untitled _ => simpa [untitled, Heading.after] using before

/-- The days of the columns are those of the nearest header, if it is below the nearest
title. -/
theorem days_headingAt_iff {i : Nat} (hi : i ≤ rows.length) {j : Nat} {day : Date} :
  (headingAt rows i).days[j]? = some (some day)
    ↔ ∃ h header, Nearest IsHeader rows i h ∧ (∀ t, Nearest IsSomeTitle rows i t → t < h)
        ∧ rows[h]? = some header ∧ (header[j + 1]?).bind Date.parseWorded? = some day
  := by
  induction i with
  | zero =>
    constructor
    · intro h
      cases h
    · rintro ⟨h, header, nearest, -⟩
      exact absurd nearest not_nearest_zero
  | succ i ih =>
    have here : rows[i]? = some rows[i] := List.getElem?_eq_getElem hi
    have before := ih (Nat.le_of_succ_le hi)
    rw [headingAt_succ here]
    simp only [nearest_succ_iff here]
    have read := isReadAs_ofCells rows[i]
    generalize Row.ofCells rows[i] = kind at read
    cases read with
    | title direction' titled =>
      have some_title : IsSomeTitle rows[i] := ⟨direction', titled⟩
      have no_header := not_isHeader_of_isTitle titled
      constructor
      · intro h
        cases h
      · rintro ⟨h, header, ⟨header_here, -⟩ | ⟨-, nearest⟩, below, -⟩
        · exact absurd header_here no_header
        · have := below i (.inl ⟨some_title, rfl⟩)
          have := nearest.above
          omega
    | header untitled is_header =>
      simp only [Heading.after, is_header, untitled, true_and, not_true_eq_false, false_and,
        or_false, not_false_eq_true, false_or]
      rw [List.getElem?_map, List.getElem?_tail]
      constructor
      · intro h
        use i, rows[i], rfl, fun t nearest => nearest.above, here
        obtain ⟨cell, at_j, parsed⟩ := Option.map_eq_some_iff.1 h
        rw [at_j]
        apply parsed
      · rintro ⟨h, header, rfl, -, at_h, parsed⟩
        rw [here] at at_h
        cases at_h
        obtain ⟨cell, at_j, parsed⟩ := Option.bind_eq_some_iff.1 parsed
        rw [at_j, Option.map_some, parsed]
    | blank empty untitled no_header => simpa [untitled, no_header, Heading.after] using before
    | entry name cells split untitled no_header =>
      simpa [untitled, no_header, Heading.after] using before

/-! ### Readings -/

variable {names : CurrencyNames} {q : Reading}

/-- A letter of which another one is the capital is that one or its small letter. -/
theorem eq_or_eq_of_toUpper {c capital : Char} (small : Char) (h : c.toUpper = capital)
    (hs : small.val = capital.val + 32) :
  c = capital ∨ c = small
  := by
  unfold Char.toUpper at h
  split at h
  · right
    apply Char.ext
    rw [hs, ← h, UInt32.add_assoc]
    symm
    apply UInt32.add_zero
  · apply Or.inl h

/-- A cell that says that there is no value is no number. -/
theorem parse?_of_isVoid {cell : List Char} (h : isVoid cell = true) :
  Decimal.parse? (String.ofList (cell.filter (· ≠ ','))) = none
  := by
  rw [isVoid, Bool.or_eq_true, decide_eq_true_eq] at h
  obtain empty | letters := h
  · rw [List.isEmpty_iff.1 empty]
    decide
  · obtain ⟨n, _, rfl, hn, letters⟩ := List.map_eq_cons_iff.1 letters
    obtain ⟨a, _, rfl, ha, letters⟩ := List.map_eq_cons_iff.1 letters
    obtain rfl := List.map_eq_nil_iff.1 letters
    obtain rfl | rfl := eq_or_eq_of_toUpper 'n' hn (by decide) <;>
      obtain rfl | rfl := eq_or_eq_of_toUpper 'a' ha (by decide) <;>
      decide

/-- The value of a cell is the number in it when commas are left out. -/
theorem value?_eq_parse? (cell : List Char) :
  value? cell = Decimal.parse? (String.ofList (cell.filter (· ≠ ',')))
  := by
  rw [value?]
  split
  · rename_i void
    rw [parse?_of_isVoid void]
  · rfl

/-- The readings of a row are in its cells below the days of the heading. -/
theorem mem_rowReadings_iff {heading : Heading} {place : Nat} {row : Row} :
  q ∈ rowReadings names heading place row
    ↔ q.row = place ∧ ∃ name cells j cell, row = .entry name cells
        ∧ heading.direction = some q.direction ∧ names.lookup name = some q.currency
        ∧ q.column = j + 1 ∧ heading.days[j]? = some (some q.day) ∧ cells[j]? = some cell
        ∧ value? cell = some q.factor ∧ q.factor.isPositive
  := by
  cases row with
  | entry name cells =>
    rw [rowReadings]
    constructor
    · intro h
      split at h
      · rename_i direction currency hd hc
        obtain ⟨⟨⟨day, cell⟩, column⟩, hm, reading⟩ := List.mem_filterMap.1 h
        obtain ⟨low, pair⟩ := List.mk_mem_zipIdx_iff_le_and_getElem?_sub.1 hm
        obtain ⟨at_day, at_cell⟩ := List.getElem?_zip_eq_some.1 pair
        obtain ⟨hr, rfl, rfl, rfl, rfl, value, positive⟩ := readingAt?_eq_some_iff.1 reading
        exact ⟨hr, name, cells, q.column - 1, cell, rfl, hd, hc, by omega, at_day, at_cell, value,
          positive⟩
      · simp at h
    · rintro ⟨rfl, name', cells', j, cell, same, hd, hc, column, at_day, at_cell, value, positive⟩
      cases same
      rw [hd, hc]
      apply List.mem_filterMap.2
      use ((some q.day, cell), q.column)
      constructor
      · rw [List.mk_mem_zipIdx_iff_le_and_getElem?_sub, List.getElem?_zip_eq_some, column]
        exact ⟨Nat.le_add_left 1 j, at_day, at_cell⟩
      · apply readingAt?_eq_some_iff.2 ⟨rfl, rfl, rfl, rfl, rfl, value, positive⟩
  | blank => simp [rowReadings]
  | title direction => simp [rowReadings]
  | header days => simp [rowReadings]

/-- The readings of rows are those of each row under what stands above it. -/
theorem mem_readingsFrom_iff {heading : Heading} {place : Nat} {below : List Row} :
  q ∈ readingsFrom names heading place below
    ↔ ∃ i row, below[i]? = some row
        ∧ q ∈ rowReadings names ((below.take i).foldl Heading.after heading) (place + i) row
  := by
  induction below generalizing heading place with
  | nil => simp [readingsFrom]
  | cons row below ih =>
    rw [readingsFrom, List.mem_append, ih]
    constructor
    · rintro (h | ⟨i, row', at_i, h⟩)
      · use 0, row, rfl, h
      · use i + 1, row', at_i
        rwa [List.take_succ_cons, List.foldl_cons, Nat.add_comm i, ← Nat.add_assoc]
    · rintro ⟨i, row', at_i, h⟩
      cases i with
      | zero =>
        cases at_i
        apply Or.inl h
      | succ i =>
        right
        use i, row', at_i
        rwa [List.take_succ_cons, List.foldl_cons, Nat.add_comm i, ← Nat.add_assoc] at h

/-- The readings of a grid are those of its rows under what stands above them. -/
theorem mem_readings_iff_headingAt :
  q ∈ readings names rows
    ↔ ∃ row, rows[q.row]? = some row
        ∧ q ∈ rowReadings names (headingAt rows q.row) q.row (Row.ofCells row)
  := by
  rw [readings, mem_readingsFrom_iff]
  constructor
  · rintro ⟨i, row, at_i, h⟩
    rw [Nat.zero_add, ← List.map_take, ← headingAt] at h
    obtain rfl : q.row = i := (mem_rowReadings_iff.1 h).1
    rw [List.getElem?_map] at at_i
    obtain ⟨cells, here, rfl⟩ := Option.map_eq_some_iff.1 at_i
    use cells, here, h
  · rintro ⟨row, at_q, h⟩
    use q.row, Row.ofCells row
    constructor
    · rw [List.getElem?_map, at_q, Option.map_some]
    · rwa [Nat.zero_add, ← List.map_take, ← headingAt]

/-- The readings of a grid are its valid cells. -/
theorem mem_readings_iff : q ∈ readings names rows ↔ IsReading names rows q
  := by
  rw [mem_readings_iff_headingAt]
  constructor
  · rintro ⟨row, here, h⟩
    have within : q.row ≤ rows.length := Nat.le_of_lt (List.getElem?_eq_some_iff.1 here).1
    have read := isReadAs_ofCells row
    obtain ⟨-, name, cells, j, cell, kind, direction, currency, column, day, at_j, value,
      positive⟩ := mem_rowReadings_iff.1 h
    rw [kind] at read
    cases read with
    | entry name cells split untitled no_header =>
      obtain ⟨t, title, nearest_title, at_t, titled⟩ := (direction_headingAt_iff within).1 direction
      obtain ⟨h, header, nearest_header, below, at_h, parsed⟩ := (days_headingAt_iff within).1 day
      constructor
      case heading =>
        use t, h, title, header, nearest_title, nearest_header, below t nearest_title, at_t, titled,
          at_h
        rw [column, parsed]
      case entry =>
        subst split
        use name :: cells, name, cell, here, untitled, no_header, rfl, currency
        rw [column, ← value?_eq_parse?]
        exact ⟨at_j, value⟩
      case positive => apply positive
  · rintro ⟨⟨t, h, title, header, nearest_title, nearest_header, below, at_t, titled, at_h, parsed⟩,
      ⟨row, name, cell, here, untitled, no_header, head, currency, at_column, number⟩, positive⟩
    have within : q.row ≤ rows.length := Nat.le_of_lt (List.getElem?_eq_some_iff.1 here).1
    -- The first column of a header is its name, which is no date.
    obtain ⟨j, column⟩ : ∃ j, q.column = j + 1 := by
      apply Nat.exists_eq_succ_of_ne_zero
      intro first
      obtain ⟨header', at_h', is_header⟩ := nearest_header.holds
      rw [at_h] at at_h'
      cases at_h'
      have no_date : Date.parseWorded? headerName.toList = none := by decide
      rw [first, ← List.head?_eq_getElem?, is_header, Option.bind_some, no_date] at parsed
      cases parsed
    rw [column] at parsed at_column
    use row, here
    have read := isReadAs_ofCells row
    generalize hk : Row.ofCells row = kind at read
    cases read with
    | entry name' cells split _ _ =>
      subst split
      cases head
      apply mem_rowReadings_iff.2
      refine ⟨rfl, String.ofList name, cells, j, cell, rfl, ?_, currency, column, ?_, at_column, ?_,
        positive⟩
      · apply (direction_headingAt_iff within).2
        exact ⟨t, title, nearest_title, at_t, titled⟩
      · apply (days_headingAt_iff within).2
        refine ⟨h, header, nearest_header, ?_, at_h, parsed⟩
        intro t' nearest'
        rwa [nearest'.unique nearest_title]
      · rwa [value?_eq_parse?]
    | blank empty _ _ =>
      rw [← value?_eq_parse?, empty cell (List.mem_of_getElem? at_column)] at number
      cases number
    | title direction titled' => exact absurd ⟨direction, titled'⟩ untitled
    | header _ is_header => exact absurd is_header no_header

/-! ### The order of reading -/

/-- The order in which the cells of a grid are read. -/
def Reading.Before (p q : Reading) : Prop :=
  p.row < q.row ∨ p.row = q.row ∧ p.column < q.column

theorem Reading.Before.asymm {p q : Reading} (h : p.Before q) : ¬ q.Before p
  := by
  unfold Reading.Before at h ⊢
  omega

/-- The readings of a row go from left to right. -/
theorem pairwise_rowReadings (heading : Heading) (place : Nat) (row : Row) :
  (rowReadings names heading place row).Pairwise Reading.Before
  := by
  cases row with
  | entry name cells =>
    rw [rowReadings]
    split
    · rw [List.pairwise_filterMap]
      have columns : ((heading.days.zip cells).zipIdx 1).Pairwise (fun a b => a.2 < b.2) := by
        rw [← List.pairwise_map (f := Prod.snd), List.zipIdx_map_snd]
        exact List.pairwise_lt_range'
      apply columns.imp
      intro a b further p hp q hq
      obtain ⟨rowp, columnp, -⟩ := readingAt?_eq_some_iff.1 hp
      obtain ⟨rowq, columnq, -⟩ := readingAt?_eq_some_iff.1 hq
      right
      rw [rowp, rowq, columnp, columnq]
      exact ⟨rfl, further⟩
    · exact .nil
  | _ => exact .nil

theorem pairwise_readingsFrom (heading : Heading) (place : Nat) (below : List Row) :
  (readingsFrom names heading place below).Pairwise Reading.Before
  := by
  induction below generalizing heading place with
  | nil => exact .nil
  | cons row below ih =>
    rw [readingsFrom, List.pairwise_append]
    refine ⟨pairwise_rowReadings heading place row, ih _ _, ?_⟩
    intro p hp q hq
    left
    obtain ⟨i, row', -, hq⟩ := mem_readingsFrom_iff.1 hq
    rw [(mem_rowReadings_iff.1 hp).1, (mem_rowReadings_iff.1 hq).1]
    omega

/-- The readings of a grid come in the order of reading. -/
theorem pairwise_readings (names : CurrencyNames) (rows : List (List (List Char))) :
  (readings names rows).Pairwise Reading.Before
  := by apply pairwise_readingsFrom

/-- The last member of a list of which something holds, if the list is in order. -/
theorem find?_reverse_eq_some_iff {α : Type} {R : α → α → Prop} {l : List α} {p : α → Bool}
    {a : α} (asymm : ∀ {a b}, R a b → ¬ R b a) (ordered : l.Pairwise R) :
  l.reverse.find? p = some a ↔ a ∈ l ∧ p a ∧ ∀ b ∈ l, p b → b = a ∨ R b a
  := by
  have last {a : α} (h : l.reverse.find? p = some a) :
      a ∈ l ∧ p a ∧ ∀ b ∈ l, p b → b = a ∨ R b a := by
    obtain ⟨holds, later, earlier, split, fails⟩ := List.find?_eq_some_iff_append.1 h
    have split' : l = earlier.reverse ++ a :: later.reverse := by
      rw [← List.reverse_reverse l, split]
      simp
    rw [split', List.pairwise_append] at ordered
    refine ⟨by simp [split'], holds, ?_⟩
    intro b hb hp
    rw [split', List.mem_append, List.mem_cons] at hb
    obtain hb | rfl | hb := hb
    · right
      apply ordered.2.2 b hb a List.mem_cons_self
    · left
      rfl
    · have := fails b (List.mem_reverse.1 hb)
      simp [hp] at this
  constructor
  · apply last
  · rintro ⟨ha, hp, greatest⟩
    have found : (l.reverse.find? p).isSome := by
      rw [List.find?_isSome]
      use a, List.mem_reverse.2 ha, hp
    obtain ⟨b, hb⟩ := Option.isSome_iff_exists.1 found
    obtain ⟨mem_b, hpb, greatest_b⟩ := last hb
    rw [hb]
    obtain rfl | before := greatest b mem_b hpb
    · rfl
    · obtain rfl | after := greatest_b a ha hp
      · rfl
      · exact absurd after (asymm before)

end CrossRate.SdrTable
