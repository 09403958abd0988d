import CrossRate.Table.Basic
import Mathlib.Tactic.Common

/-!
# Direct tables as maps

A direct table is determined by the quotes of its days (`DirectTable.ext_get?`). Adding quotes
one after the other (`DirectTable.insertAll`) gives each day and currency the last quote among
them, and laying a table over another one replaces the days that it has, each as a whole.
-/

namespace CrossRate

/-- The last with a property of what comes of a list: nothing with it comes of what follows. -/
theorem find?_reverse_filterMap_eq_some_iff {α β : Type} {l : List α} {f : α → Option β}
    {p : β → Bool} {b : β} :
  (l.filterMap f).reverse.find? p = some b
    ↔ p b = true ∧ ∃ earlier a later, l = earlier ++ a :: later ∧ f a = some b
        ∧ ∀ a' ∈ later, (f a').any p = false
  := by
  rw [← List.filterMap_reverse, List.find?_filterMap, Option.bind_eq_some_iff]
  constructor
  · rintro ⟨a, found, fa⟩
    obtain ⟨holds, later, earlier, split, fails⟩ := List.find?_eq_some_iff_append.1 found
    use by simpa [fa] using holds, earlier.reverse, a, later.reverse
    refine ⟨?_, fa, ?_⟩
    · rw [← List.reverse_reverse l, split]
      simp
    · intro a' ha
      simpa using fails a' (List.mem_reverse.1 ha)
  · rintro ⟨holds, earlier, a, later, rfl, fa, fails⟩
    use a
    refine ⟨?_, fa⟩
    rw [List.find?_eq_some_iff_append]
    use by simpa [fa] using holds, later.reverse, earlier.reverse
    constructor
    · simp
    · intro a' ha
      rw [fails a' (List.mem_reverse.1 ha)]
      rfl

namespace DirectTable

@[simp]
theorem leaf_empty (pivot : Currency) (day : Date) (currency : Currency) :
  (empty pivot).leaf day currency = none
  := rfl

@[simp]
theorem isEmpty_days_empty (pivot : Currency) : (empty pivot).days.isEmpty = true
  := rfl

@[simp]
theorem pivot_insert (t : DirectTable) (day : Date) (quote : RateRecord) :
  (t.insert day quote).pivot = t.pivot
  := rfl

@[simp]
theorem leaf_insert (t : DirectTable) (day day' : Date) (quote : RateRecord)
    (currency : Currency) :
  (t.insert day quote).leaf day' currency
    = if day' = day ∧ currency = quote.term then some quote else t.leaf day' currency
  := by
  simp only [leaf, insert, OrderedMap.get?_alter]
  by_cases same : day' = day
  · subst same
    cases t.days.get? day' <;> simp
  · simp [same]

/-- A day is there if it has quotes. -/
theorem hasDay_iff {t : DirectTable} {day : Date} :
  t.hasDay day = true ↔ ∃ quotes, t.days.get? day = some quotes
  := by apply Option.isSome_iff_exists

/-- Tables against one pivot with the same days are the same. -/
theorem ext_get? {t s : DirectTable} (pivot : t.pivot = s.pivot)
    (days : ∀ day, t.days.get? day = s.days.get? day) :
  t = s
  := by
  obtain ⟨_, _⟩ := t
  obtain ⟨_, _⟩ := s
  obtain rfl : _ = _ := pivot
  congr
  apply OrderedMap.ext_get? days

/-! ### Adding quotes -/

/-- The table with quotes added one after the other, each on its day. -/
def insertAll (t : DirectTable) (quotes : List (Date × RateRecord)) : DirectTable :=
  quotes.foldl (fun t e => t.insert e.1 e.2) t

@[simp]
theorem insertAll_nil (t : DirectTable) : t.insertAll [] = t
  := rfl

@[simp]
theorem insertAll_cons (t : DirectTable) (e : Date × RateRecord)
    (quotes : List (Date × RateRecord)) :
  t.insertAll (e :: quotes) = (t.insert e.1 e.2).insertAll quotes
  := rfl

theorem insertAll_append (t : DirectTable) (earlier later : List (Date × RateRecord)) :
  t.insertAll (earlier ++ later) = (t.insertAll earlier).insertAll later
  := by apply List.foldl_append

@[simp]
theorem pivot_insertAll (t : DirectTable) (quotes : List (Date × RateRecord)) :
  (t.insertAll quotes).pivot = t.pivot
  := by
  induction quotes generalizing t with
  | nil => rfl
  | cons e quotes ih => rw [insertAll_cons, ih, pivot_insert]

/-- Of the quotes that are added for a day and a currency the last one counts. -/
theorem leaf_insertAll (t : DirectTable) (quotes : List (Date × RateRecord)) (day : Date)
    (currency : Currency) :
  (t.insertAll quotes).leaf day currency
    = ((quotes.reverse.find? (fun e => e.1 = day ∧ e.2.term = currency)).map (·.2)).or
        (t.leaf day currency)
  := by
  induction quotes generalizing t with
  | nil => rfl
  | cons e quotes ih =>
    rw [insertAll_cons, ih, List.reverse_cons, List.find?_append, leaf_insert]
    cases quotes.reverse.find? (fun e => e.1 = day ∧ e.2.term = currency) with
    | some last => simp
    | none =>
      by_cases here : e.1 = day ∧ e.2.term = currency
      · simp [here]
      · have : ¬ (day = e.1 ∧ currency = e.2.term) := fun h => here ⟨h.1.symm, h.2.symm⟩
        simp [here, this]

/-- A table to which quotes are added has no days if it had none and there are no quotes. -/
theorem isEmpty_days_insertAll (t : DirectTable) (quotes : List (Date × RateRecord)) :
  (t.insertAll quotes).days.isEmpty = (t.days.isEmpty && quotes.isEmpty)
  := by
  induction quotes generalizing t with
  | nil => simp
  | cons e quotes ih =>
    have full : (t.insert e.1 e.2).days.isEmpty = false := by apply OrderedMap.isEmpty_insert
    rw [insertAll_cons, ih, full]
    simp

/-- A table to which quotes are added has the days of the quotes besides its own. -/
theorem hasDay_insertAll (t : DirectTable) (quotes : List (Date × RateRecord)) (day : Date) :
  (t.insertAll quotes).hasDay day = true ↔ t.hasDay day = true ∨ ∃ e ∈ quotes, e.1 = day
  := by
  induction quotes generalizing t with
  | nil => simp
  | cons e quotes ih =>
    have here : (t.insert e.1 e.2).hasDay day = true ↔ t.hasDay day = true ∨ e.1 = day := by
      simp only [hasDay_iff, insert, OrderedMap.get?_alter]
      by_cases same : day = e.1
      · simp [same]
      · simp [same, Ne.symm same]
    rw [insertAll_cons, ih, here, or_assoc]
    simp only [List.mem_cons, exists_eq_or_imp]

/-! ### Days without quotes -/

/-- Every day of the table has a quote. -/
def Inhabited (t : DirectTable) : Prop :=
  ∀ day quotes, t.days.get? day = some quotes → quotes.isEmpty = false

theorem inhabited_empty (pivot : Currency) : (empty pivot).Inhabited
  := by
  intro day quotes h
  simp [empty] at h

theorem Inhabited.insert {t : DirectTable} (h : t.Inhabited) (day : Date) (quote : RateRecord) :
  (t.insert day quote).Inhabited
  := by
  intro day' quotes hq
  simp only [DirectTable.insert, OrderedMap.get?_alter] at hq
  split at hq
  · cases hq
    apply OrderedMap.isEmpty_insert
  · apply h day' quotes hq

theorem Inhabited.insertAll {t : DirectTable} (h : t.Inhabited)
    (quotes : List (Date × RateRecord)) :
  (t.insertAll quotes).Inhabited
  := by
  induction quotes generalizing t with
  | nil => apply h
  | cons e quotes ih => apply ih (h.insert e.1 e.2)

/-! ### Overlays -/

/-- The quotes of a day in an overlay are those of the newer table, if it has the day. -/
@[simp]
theorem get?_days_overlay (older newer : DirectTable) (day : Date) :
  (older.overlay newer).days.get? day = (newer.days.get? day).or (older.days.get? day)
  := by apply OrderedMap.get?_overlay

/-- A quote in an overlay is one of the newer table, or else of the older one. -/
theorem leaf_of_overlay {older newer : DirectTable} {day : Date} {currency : Currency}
    {r : RateRecord} (h : (older.overlay newer).leaf day currency = some r) :
  newer.leaf day currency = some r ∨ older.leaf day currency = some r
  := by
  rw [leaf, get?_days_overlay] at h
  cases hd : newer.days.get? day with
  | some quotes =>
    left
    simpa [leaf, hd] using h
  | none =>
    right
    simpa [leaf, hd] using h

theorem Inhabited.overlay {older newer : DirectTable} (ho : older.Inhabited)
    (hn : newer.Inhabited) :
  (older.overlay newer).Inhabited
  := by
  intro day quotes h
  rw [get?_days_overlay, Option.or_eq_some_iff] at h
  obtain h | ⟨-, h⟩ := h
  · apply hn day quotes h
  · apply ho day quotes h

end DirectTable

/-- What holds of a table that is installed, and of it when it is laid over a direct table, holds of
the table that results. -/
theorem RateTable.installed_induction (P : RateTable → Prop) {current fresh : RateTable}
    (new : P fresh)
    (overlay : ∀ s t, current = .direct s → fresh = .direct t → P (.direct (s.overlay t))) :
  P (current.installed fresh)
  := by
  cases fresh with
  | empty => cases current <;> exact new
  | dual t => cases current <;> exact new
  | direct t =>
    cases current with
    | empty => exact new
    | dual s => exact new
    | direct s => exact overlay s t rfl rfl

end CrossRate
