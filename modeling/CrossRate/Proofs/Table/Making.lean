import CrossRate.Proofs.OrderedMap.Keys
import CrossRate.Proofs.Table.Direct
import CrossRate.Proofs.Table.Dual

/-!
# How tables are made

A table is made from an empty one by adding rates and, if it is direct, by laying tables over each
other (`DirectTable.IsMade`, `DualTable.IsMade`). The days of such a table are those for which it
has some rate (`DirectTable.IsMade.hasDay_iff`, `DualTable.IsMade.hasDay_iff`).
-/

namespace CrossRate

/-! ### Direct tables -/

namespace DirectTable

/-- Tables that are made by adding quotes and laying tables over each other. -/
inductive IsMade : DirectTable → Prop
  | empty (pivot : Currency) : IsMade (empty pivot)
  | insert {t : DirectTable} (made : IsMade t) (day : Date) (quote : RateRecord) :
    IsMade (t.insert day quote)
  | overlay {older newer : DirectTable} (old : IsMade older) (new : IsMade newer) :
    IsMade (older.overlay newer)

/-- A table quotes some currency on a day. -/
def IsQuotedOn (t : DirectTable) (day : Date) : Prop :=
  ∃ currency r, t.leaf day currency = some r

variable {t : DirectTable} {day : Date}

theorem IsMade.inhabited (made : t.IsMade) : t.Inhabited
  := by
  induction made with
  | empty pivot => apply inhabited_empty
  | insert _ day quote ih => apply ih.insert
  | overlay _ _ old new => apply old.overlay new

theorem IsMade.insertAll (made : t.IsMade) (quotes : List (Date × RateRecord)) :
  (t.insertAll quotes).IsMade
  := by
  induction quotes generalizing t with
  | nil => exact made
  | cons e quotes ih => exact ih (made.insert e.1 e.2)

/-- A day with a quote is a day of the table. -/
theorem IsQuotedOn.hasDay (quoted : t.IsQuotedOn day) : t.hasDay day = true
  := by
  obtain ⟨currency, r, leaf⟩ := quoted
  obtain ⟨quotes, found, -⟩ := Option.bind_eq_some_iff.1 leaf
  exact hasDay_iff.2 ⟨quotes, found⟩

/-- The days of a table are those with a quote. -/
theorem IsMade.hasDay_iff (made : t.IsMade) : t.hasDay day = true ↔ t.IsQuotedOn day
  := by
  constructor
  · intro has
    obtain ⟨quotes, found⟩ := DirectTable.hasDay_iff.1 has
    obtain ⟨currency, r, quote⟩ :=
      OrderedMap.exists_get?_of_isEmpty (made.inhabited day quotes found)
    use currency, r
    rw [leaf, found]
    apply quote
  · exact IsQuotedOn.hasDay

/-- The latest day of a table is the last one with a quote. -/
theorem IsMade.latest?_eq_some_iff (made : t.IsMade) :
  t.latest? = some day ↔ t.IsQuotedOn day ∧ ∀ later, day < later → ¬ t.IsQuotedOn later
  := by
  simp only [← made.hasDay_iff, Bool.not_eq_true]
  apply OrderedMap.greatestKey?_eq_some_iff

end DirectTable

/-! ### Dual tables -/

namespace DualTable

/-- Tables that are made by pushing rates and putting their series in order. -/
inductive IsMade : DualTable → Prop
  | empty (unit : Currency) : IsMade (empty unit)
  | push {t : DualTable} (made : IsMade t) (r : RateRecord) (direction : SdrTable.Direction) :
    IsMade (SdrTable.push t r direction)
  | finish {t : DualTable} (made : IsMade t) : IsMade t.finish

/-- A table has a rate of some currency on a day. -/
def IsRatedOn (t : DualTable) (day : Date) : Prop :=
  ∃ currency direction r, t.rate? currency day direction = some r

variable {t : DualTable} {day : Date}

theorem IsMade.pushAll (made : t.IsMade) (rates : List (SdrTable.Direction × RateRecord)) :
  (t.pushAll rates).IsMade
  := by
  induction rates generalizing t with
  | nil => exact made
  | cons e rates ih => exact ih (made.push e.2 e.1)

/-- There is a rate in a direction on a day if one of its series is dated so. -/
theorem exists_rate?_iff {currency : Currency} {direction : SdrTable.Direction} :
  (∃ r, t.rate? currency day direction = some r)
    ↔ ∃ r ∈ t.series currency direction, r.asOf = some day
  := by
  rw [← Option.isSome_iff_exists, rate?_eq_find?, List.find?_isSome]
  simp

/-- Putting the series in order loses no day. -/
theorem isRatedOn_finish_iff : t.finish.IsRatedOn day ↔ t.IsRatedOn day
  := by
  have same (currency : Currency) (direction : SdrTable.Direction) :
      (∃ r, t.finish.rate? currency day direction = some r)
        ↔ ∃ r, t.rate? currency day direction = some r := by
    rw [exists_rate?_iff (t := t), rate?_finish, ← Option.isSome_iff_exists, List.find?_isSome]
    simp
  simp only [IsRatedOn, same]

theorem hasDay_push (r : RateRecord) (direction : SdrTable.Direction) :
  (SdrTable.push t r direction).hasDay day = true ↔ r.asOf = some day ∨ t.hasDay day = true
  := by
  have days : (SdrTable.push t r direction).days = addDay t.days r := by cases direction <;> rfl
  rw [hasDay, days, addDay]
  cases r.asOf with
  | none => simp [hasDay]
  | some day' =>
    simp only [hasDay, OrderedMap.contains_insert, Bool.or_eq_true, decide_eq_true_eq,
      Option.some.injEq, eq_comm (a := day)]

theorem isRatedOn_push_iff (r : RateRecord) (direction : SdrTable.Direction) :
  (SdrTable.push t r direction).IsRatedOn day ↔ r.asOf = some day ∨ t.IsRatedOn day
  := by
  simp only [IsRatedOn, exists_rate?_iff, series_push, List.mem_append]
  constructor
  · rintro ⟨currency, direction', s, old | new, dated⟩
    · exact .inr ⟨currency, direction', s, old, dated⟩
    · split at new
      · obtain rfl := List.mem_singleton.1 new
        exact .inl dated
      · cases new
  · rintro (dated | ⟨currency, direction', s, old, dated⟩)
    · exact ⟨currencyOf direction r, direction, r, by simp, dated⟩
    · exact ⟨currency, direction', s, .inl old, dated⟩

/-- The days of a table are those with a rate. -/
theorem IsMade.hasDay_iff (made : t.IsMade) : t.hasDay day = true ↔ t.IsRatedOn day
  := by
  induction made with
  | empty unit =>
    simp only [IsRatedOn, exists_rate?_iff]
    constructor
    · intro has
      cases has
    · rintro ⟨currency, direction, r, mem, -⟩
      cases direction <;> cases mem
  | push _ r direction ih => rw [hasDay_push, isRatedOn_push_iff, ih]
  | finish _ ih =>
    rw [isRatedOn_finish_iff, ← ih]
    rfl

end DualTable

end CrossRate
