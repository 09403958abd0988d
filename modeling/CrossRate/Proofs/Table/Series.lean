import CrossRate.Proofs.Table.Making
import Mathlib.Data.List.Destutter

/-!
# Finished series

The series of a finished dual table are in strictly ascending order of their days, no day at all
coming first. Each has, of every day, the last of the rates that were pushed for its direction and
currency: the first one from the end on (`DualTable.keepLast_eq_destutter`). A day may be searched
by halving the series (`DualTable.IsAscending.search_eq_find?`). What the pushed rates determine of
a table is gathered in `DualTable.KeepsLast`, and they determine that of every finished table
(`DualTable.keepsLast_finish_pushAll`).
-/

namespace CrossRate

open SdrTable (Direction)

namespace DualTable

/-! ### Ascending series -/

/-- One day is before another; no day at all is before every day. -/
def IsBefore : Option Date → Option Date → Prop
  | _, none => False
  | none, some _ => True
  | some a, some b => a < b

/-- One day is before another if it is not after it and they differ. -/
theorem isBefore_iff {a b : Option Date} : IsBefore a b ↔ notAfter a b = true ∧ a ≠ b
  := by
  cases a with
  | none => cases b <;> simp [IsBefore, notAfter]
  | some a =>
    cases b with
    | none => simp [IsBefore, notAfter]
    | some b =>
      simp only [IsBefore, notAfter, Bool.not_eq_true', decide_eq_false_iff_not, ne_eq,
        Option.some.injEq]
      constructor
      · intro lt
        refine ⟨fun gt => KeyOrder.irrefl a (KeyOrder.trans lt gt), ?_⟩
        rintro rfl
        exact KeyOrder.irrefl a lt
      · rintro ⟨le, differ⟩
        obtain lt | same | gt := KeyOrder.trichotomy a b
        · exact lt
        · exact absurd same differ
        · exact absurd gt le

/-- A series in strictly ascending order of its days. -/
def IsAscending (series : List RateRecord) : Prop :=
  series.Pairwise (fun r s => IsBefore r.asOf s.asOf)

variable {series : List RateRecord} {day : Option Date}

/-- An ascending series has one record of a day at most. -/
theorem IsAscending.find?_eq_some_iff (ascending : IsAscending series) {r : RateRecord} :
  series.find? (·.asOf = day) = some r ↔ r ∈ series ∧ r.asOf = day
  := by
  constructor
  · intro found
    exact ⟨List.mem_of_find?_eq_some found, by simpa using List.find?_some found⟩
  · rintro ⟨mem, rfl⟩
    obtain ⟨before, after, rfl⟩ := List.append_of_mem mem
    rw [List.find?_eq_some_iff_append]
    refine ⟨by simp, before, after, rfl, ?_⟩
    intro s hs
    have differ := (isBefore_iff.1
      ((List.pairwise_append.1 ascending).2.2 s hs r List.mem_cons_self)).2
    simpa using differ

/-- Only records of the series are kept. -/
theorem mem_of_mem_keepLast {r : RateRecord} (h : r ∈ keepLast series) : r ∈ series
  := by
  fun_induction keepLast series with
  | case1 => exact h
  | case2 s => exact h
  | case3 s s' rest same ih => exact List.mem_cons_of_mem s (ih h)
  | case4 s s' rest differ ih =>
    obtain rfl | h := List.mem_cons.1 h
    · exact List.mem_cons_self
    · exact List.mem_cons_of_mem s (ih h)

/-- What is kept of an ordered series is ascending. -/
theorem isAscending_keepLast (ordered : series.Pairwise (fun r s => notAfter r.asOf s.asOf)) :
  IsAscending (keepLast series)
  := by
  fun_induction keepLast series with
  | case1 => exact .nil
  | case2 r => exact List.pairwise_singleton _ r
  | case3 r s rest same ih => apply ih (List.pairwise_cons.1 ordered).2
  | case4 r s rest differ ih =>
    obtain ⟨first, ordered'⟩ := List.pairwise_cons.1 ordered
    apply List.pairwise_cons.2 ⟨?_, ih ordered'⟩
    intro x hx
    have mem := mem_of_mem_keepLast hx
    exact isBefore_iff.2 ⟨first x mem, asOf_ne_of_mem ordered differ mem⟩

theorem isAscending_inOrder (series : List RateRecord) : IsAscending (inOrder series)
  := by
  apply isAscending_keepLast
  apply List.pairwise_mergeSort (fun r s t => notAfter_trans r.asOf s.asOf t.asOf)
    (fun r s => notAfter_total r.asOf s.asOf)

/-- Nothing of an ascending series is dropped. -/
theorem IsAscending.keepLast_eq (ascending : IsAscending series) : keepLast series = series
  := by
  fun_induction keepLast series with
  | case1 => rfl
  | case2 r => rfl
  | case3 r s rest same ih =>
    have before := (List.pairwise_cons.1 ascending).1 s List.mem_cons_self
    exact absurd same (isBefore_iff.1 before).2
  | case4 r s rest differ ih => rw [ih (List.pairwise_cons.1 ascending).2]

/-- An ascending series is in order. -/
theorem IsAscending.inOrder_eq (ascending : IsAscending series) : inOrder series = series
  := by
  have ordered := ascending.imp (fun before => (isBefore_iff.1 before).1)
  rw [inOrder, List.mergeSort_of_pairwise ordered, ascending.keepLast_eq]

/-! ### Dropping from the end on -/

/-- A record at the end of a series is dropped just if the last one before it is of the same day. -/
theorem destutter_concat {last : RateRecord} (ends : series.getLast? = some last)
    (r : RateRecord) :
  (series ++ [r]).destutter (fun r s => r.asOf ≠ s.asOf)
    = series.destutter (fun r s => r.asOf ≠ s.asOf) ++ if last.asOf = r.asOf then [] else [r]
  := by
  obtain _ | ⟨first, rest⟩ := series
  · cases ends
  rw [List.cons_append, List.destutter_cons', List.destutter_cons']
  induction rest generalizing first with
  | nil =>
    obtain rfl := Option.some.inj ends
    by_cases same : first.asOf = r.asOf <;> simp [same]
  | cons second rest ih =>
    rw [List.cons_append, List.destutter', List.destutter']
    split
    · rw [ih second (by simpa using ends), List.cons_append]
    · rename_i same
      -- The second is dropped, and is as good as the first if it is the last.
      cases rest with
      | nil =>
        obtain rfl : second = last := by simpa using ends
        rw [← not_not.1 same]
        by_cases same : first.asOf = r.asOf <;> simp [same]
      | cons third rest => exact ih first (by simpa using ends)

/-- To keep the last of neighbours with the same day is to keep the first of them from the end
on. -/
theorem keepLast_eq_destutter (series : List RateRecord) :
  keepLast series = (series.reverse.destutter (fun r s => r.asOf ≠ s.asOf)).reverse
  := by
  fun_induction keepLast series with
  | case1 => rfl
  | case2 r => rfl
  | case3 r s rest same ih =>
    have ends : (s :: rest).reverse.getLast? = some s := by simp
    rw [List.reverse_cons, destutter_concat ends, if_pos same.symm, List.append_nil, ih]
  | case4 r s rest differ ih =>
    have ends : (s :: rest).reverse.getLast? = some s := by simp
    rw [List.reverse_cons, destutter_concat ends, if_neg (Ne.symm differ), List.reverse_append,
      ih]
    rfl

/-! ### Searching -/

/-- Search a series for a day: as long as it has two records, look at the day of one in its middle
and go on in the half where the day must be. -/
def search (day : Date) (series : List RateRecord) : Option RateRecord :=
  let half := series.length / 2
  if series.length ≤ 1 then series.find? (·.asOf = some day)
  else if (series.drop half).head?.any (fun r => notAfter r.asOf (some day)) then
    search day (series.drop half)
  else search day (series.take (series.length - half))
termination_by series.length
decreasing_by
  · simp only [List.length_drop]
    omega
  · simp only [List.length_take]
    omega

/-- A part of an ascending series that has all its records of a day gives the same for the day. -/
theorem IsAscending.find?_sublist {part : List RateRecord} (ascending : IsAscending series)
    (sub : part.Sublist series) (whole : ∀ r ∈ series, r.asOf = day → r ∈ part) :
  part.find? (·.asOf = day) = series.find? (·.asOf = day)
  := by
  have ascending' : IsAscending part := ascending.sublist sub
  apply Option.ext
  intro r
  rw [ascending.find?_eq_some_iff, ascending'.find?_eq_some_iff]
  constructor
  · rintro ⟨mem, dated⟩
    exact ⟨sub.subset mem, dated⟩
  · rintro ⟨mem, dated⟩
    exact ⟨whole r mem dated, dated⟩

/-- A series of two records or more has one in its middle. In an ascending series all before it is
of days before its day, and it is not after what stands behind it. -/
theorem IsAscending.exists_middle (ascending : IsAscending series) (many : 1 < series.length) :
  ∃ middle, (series.drop (series.length / 2)).head? = some middle
    ∧ (∀ r ∈ series.take (series.length / 2), IsBefore r.asOf middle.asOf)
    ∧ ∀ r ∈ series.drop (series.length / 2), notAfter middle.asOf r.asOf = true
  := by
  rw [IsAscending, ← List.take_append_drop (series.length / 2) series,
    List.pairwise_append] at ascending
  obtain ⟨-, behind, before⟩ := ascending
  cases upper : series.drop (series.length / 2) with
  | nil =>
    rw [List.drop_eq_nil_iff] at upper
    omega
  | cons middle above =>
    rw [upper] at behind before
    use middle, rfl, fun r hr => before r hr middle List.mem_cons_self
    intro r hr
    obtain rfl | hr := List.mem_cons.1 hr
    · apply notAfter_refl
    · exact (isBefore_iff.1 ((List.pairwise_cons.1 behind).1 r hr)).1

/-- Searching an ascending series finds what going through it from the start does. -/
theorem IsAscending.search_eq_find? (ascending : IsAscending series) (day : Date) :
  search day series = series.find? (·.asOf = some day)
  := by
  fun_induction search day series with
  | case1 series few => rfl
  | case2 series half many upper ih =>
    obtain ⟨middle, head, before, -⟩ := ascending.exists_middle (by omega)
    rw [ih (ascending.sublist (List.drop_sublist half series))]
    apply ascending.find?_sublist (List.drop_sublist half series)
    intro r hr dated
    rw [← List.take_append_drop half series, List.mem_append] at hr
    obtain hr | hr := hr
    · -- The middle is not after the day, so what stands before the middle is not of the day.
      obtain ⟨le, differ⟩ := isBefore_iff.1 (before r hr)
      rw [dated] at le differ
      exact absurd (notAfter_antisymm le (by simpa [half, head] using upper)) differ
    · exact hr
  | case3 series half many lower ih =>
    obtain ⟨middle, head, -, behind⟩ := ascending.exists_middle (by omega)
    rw [ih (ascending.sublist (List.take_sublist _ series))]
    apply ascending.find?_sublist (List.take_sublist _ series)
    intro r hr dated
    rw [← List.take_append_drop (series.length - half) series, List.mem_append] at hr
    obtain hr | hr := hr
    · exact hr
    · -- The middle is after the day, so what stands behind it is not of the day.
      have le := behind r (List.drop_subset_drop_left series (by omega) hr)
      rw [dated] at le
      simp [half, head, le] at lower

/-! ### What is kept of rates -/

variable {t : DualTable} {currency : Currency} {direction : Direction}

/-- Putting series in order that are in order changes nothing. -/
theorem finish_finish (t : DualTable) : t.finish.finish = t.finish
  := by
  have again (series : OrderedMap Currency (List RateRecord)) :
      (series.mapValues inOrder).mapValues inOrder = series.mapValues inOrder := by
    rw [OrderedMap.mapValues_mapValues]
    congr 1
    funext records
    exact (isAscending_inOrder records).inOrder_eq
  simp only [finish, again]

theorem hasDay_pushAll (rates : List (Direction × RateRecord)) (day : Date) :
  (t.pushAll rates).hasDay day = true
    ↔ t.hasDay day = true ∨ ∃ e ∈ rates, e.2.asOf = some day
  := by
  induction rates generalizing t with
  | nil => simp [pushAll]
  | cons e rates ih =>
    rw [pushAll, List.foldl_cons, ← pushAll, ih, hasDay_push, or_assoc, or_left_comm]
    simp only [List.mem_cons, exists_eq_or_imp]

/-- A rate is the last of those that were pushed for its direction, currency and day. -/
def IsLast (rates : List (Direction × RateRecord)) (direction : Direction) (currency : Currency)
    (r : RateRecord) : Prop :=
  ∃ earlier later, rates = earlier ++ (direction, r) :: later
    ∧ currencyOf direction r = currency
    ∧ ∀ s, (direction, s) ∈ later → currencyOf direction s = currency → s.asOf ≠ r.asOf

/-- What is found from the end of the rates is the last of its direction, currency and day. -/
theorem find?_reverse_eq_some_iff {rates : List (Direction × RateRecord)} {r : RateRecord} :
  (rates.reverse.find? (fun e => e.1 = direction ∧ currencyOf e.1 e.2 = currency
      ∧ e.2.asOf = day)).map (·.2) = some r
    ↔ IsLast rates direction currency r ∧ r.asOf = day
  := by
  have last {e : Direction × RateRecord} := find?_reverse_filterMap_eq_some_iff (l := rates)
    (f := some) (b := e) (p := fun e => e.1 = direction ∧ currencyOf e.1 e.2 = currency
      ∧ e.2.asOf = day)
  simp only [List.filterMap_some] at last
  simp only [Option.map_eq_some_iff, last]
  constructor
  · rintro ⟨⟨direction', r⟩, ⟨fits, earlier, e, later, rfl, ⟨⟩, none⟩, rfl⟩
    obtain ⟨rfl, rfl, rfl⟩ : direction' = direction ∧ currencyOf direction' r = currency
        ∧ r.asOf = day := by simpa using fits
    refine ⟨⟨earlier, later, rfl, rfl, ?_⟩, rfl⟩
    intro s hs same
    simpa [same] using none _ hs
  · rintro ⟨⟨earlier, later, rfl, rfl, none⟩, rfl⟩
    refine ⟨(direction, r), ⟨by simp, earlier, _, later, rfl, rfl, ?_⟩, rfl⟩
    rintro ⟨direction', s⟩ hs
    simp only [Option.any_some, decide_eq_false_iff_not]
    rintro ⟨rfl, same, asOf⟩
    exact none s hs same asOf

/-- What has been pushed to a table and put in order: the last rate of each direction, currency and
day. -/
structure KeepsLast (t : DualTable) (rates : List (Direction × RateRecord)) : Prop where
  /-- Every series is in strictly ascending order of its days. -/
  ascending (currency : Currency) (direction : Direction) :
    IsAscending (t.series currency direction)
  /-- The series have the last rate of each day, and of no day. -/
  mem_series_iff {currency : Currency} {direction : Direction} {r : RateRecord} :
    r ∈ t.series currency direction ↔ IsLast rates direction currency r
  /-- A look-up gives the last rate for the day. -/
  rate?_eq_some_iff {currency : Currency} {day : Date} {direction : Direction} {r : RateRecord} :
    t.rate? currency day direction = some r
      ↔ IsLast rates direction currency r ∧ r.asOf = some day
  /-- A look-up gives nothing if no rate was pushed for the day. -/
  rate?_eq_none_iff {currency : Currency} {day : Date} {direction : Direction} :
    t.rate? currency day direction = none
      ↔ ∀ r, (direction, r) ∈ rates → currencyOf direction r = currency → r.asOf ≠ some day
  /-- Searching a series by halving it is looking it up. -/
  search_series {currency : Currency} {day : Date} {direction : Direction} :
    search day (t.series currency direction) = t.rate? currency day direction
  /-- The days of the table are those of the rates. -/
  hasDay_iff {day : Date} : t.hasDay day = true ↔ ∃ e ∈ rates, e.2.asOf = some day
  /-- The latest day of the table is the greatest one of the rates. -/
  latest?_eq_some_iff {day : Date} : t.latest? = some day
    ↔ (∃ e ∈ rates, e.2.asOf = some day)
      ∧ ∀ e ∈ rates, ∀ later, day < later → e.2.asOf ≠ some later
  /-- Putting the series in order again changes nothing. -/
  finish : t.finish = t

/-- Rates that are pushed to a new table and put in order are kept so that the last one of each
direction, currency and day is found. -/
theorem keepsLast_finish_pushAll (unit : Currency) (rates : List (Direction × RateRecord)) :
  ((empty unit).pushAll rates).finish.KeepsLast rates
  := by
  have ascending (currency : Currency) (direction : Direction) :
      IsAscending (((empty unit).pushAll rates).finish.series currency direction) := by
    rw [series_finish]
    apply isAscending_inOrder
  have found (currency : Currency) (day : Option Date) (direction : Direction) (r : RateRecord) :
      (((empty unit).pushAll rates).finish.series currency direction).find? (·.asOf = day) = some r
        ↔ IsLast rates direction currency r ∧ r.asOf = day := by
    rw [series_finish, find?_inOrder, find?_reverse_series_pushAll, find?_reverse_eq_some_iff]
  have hasDay {day : Date} : ((empty unit).pushAll rates).finish.hasDay day = true
      ↔ ∃ e ∈ rates, e.2.asOf = some day := by
    apply (hasDay_pushAll rates day).trans
    simp [empty, DualTable.hasDay]
  constructor
  case ascending => exact ascending
  case mem_series_iff =>
    intro currency direction r
    simpa [(ascending currency direction).find?_eq_some_iff]
      using found currency r.asOf direction r
  case rate?_eq_some_iff =>
    intro currency day direction r
    rw [rate?_eq_find?, found]
  case rate?_eq_none_iff =>
    intro currency day direction
    rw [rate?_finish_pushAll, Option.map_eq_none_iff, List.find?_eq_none]
    constructor
    · intro none r hr same asOf
      simpa [same, asOf] using none (direction, r) (List.mem_reverse.2 hr)
    · rintro none ⟨direction', r⟩ hr fits
      obtain ⟨rfl, same, asOf⟩ : direction' = direction ∧ currencyOf direction' r = currency
          ∧ r.asOf = some day := by simpa using fits
      exact none r (List.mem_reverse.1 hr) same asOf
  case search_series =>
    intro currency day direction
    rw [(ascending currency direction).search_eq_find?, rate?_eq_find?]
  case hasDay_iff => exact hasDay
  case latest?_eq_some_iff =>
    intro day
    apply OrderedMap.greatestKey?_eq_some_iff.trans
    apply and_congr hasDay
    constructor
    · intro none e he later lt dated
      have has := hasDay.2 ⟨e, he, dated⟩
      rw [DualTable.hasDay, none later lt] at has
      cases has
    · intro none later lt
      rw [Bool.eq_false_iff]
      intro has
      obtain ⟨e, he, dated⟩ := hasDay.1 has
      exact none e he later lt dated
  case finish => apply finish_finish

end DualTable

end CrossRate
