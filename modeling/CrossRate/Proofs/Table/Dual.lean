import CrossRate.Feed.SdrTable
import Mathlib.Tactic.Common

/-!
# Dual tables as series

The rates that are pushed to a dual table stand in one series for each direction and
currency, in the order in which they were pushed (`series_pushAll`). Finishing the table makes
every look-up give the last rate that was pushed for its direction, currency and day
(`rate?_finish_pushAll`).
-/

namespace CrossRate

open SdrTable (Direction push)

/-! ### The order of a series -/

namespace DualTable

theorem notAfter_trans (a b c : Option Date) (hab : notAfter a b) (hbc : notAfter b c) :
  notAfter a c
  := by
  cases a with
  | none => rfl
  | some a =>
    cases b with
    | none => simp [notAfter] at hab
    | some b =>
      cases c with
      | none => simp [notAfter] at hbc
      | some c =>
        simp only [notAfter, Bool.not_eq_true', decide_eq_false_iff_not] at *
        intro lt
        obtain h | h | h := KeyOrder.trichotomy a b
        · apply hbc (KeyOrder.trans lt h)
        · apply hbc (h ▸ lt)
        · apply hab h

theorem notAfter_total (a b : Option Date) :
  notAfter a b || notAfter b a
  := by
  cases a with
  | none => rfl
  | some a =>
    cases b with
    | none => rfl
    | some b =>
      simp only [notAfter, Bool.or_eq_true, Bool.not_eq_true', decide_eq_false_iff_not]
      by_cases lt : b < a
      · exact .inr fun h => KeyOrder.irrefl _ (KeyOrder.trans lt h)
      · exact .inl lt

theorem notAfter_antisymm {a b : Option Date} (hab : notAfter a b) (hba : notAfter b a) :
  a = b
  := by
  cases a with
  | none => cases b <;> simp_all [notAfter]
  | some a =>
    cases b with
    | none => simp [notAfter] at hab
    | some b =>
      simp only [notAfter, Bool.not_eq_true', decide_eq_false_iff_not] at *
      obtain h | h | h := KeyOrder.trichotomy a b
      · apply absurd h hba
      · rw [h]
      · apply absurd h hab

theorem notAfter_refl (a : Option Date) : notAfter a a
  := by simpa using notAfter_total a a

/-- Putting a series in order keeps the records of a day in their order. -/
theorem filter_mergeSort (series : List RateRecord) (day : Option Date) :
  (series.mergeSort (fun r s => notAfter r.asOf s.asOf)).filter (·.asOf = day)
    = series.filter (·.asOf = day)
  := by
  have ofDay : (series.filter (·.asOf = day)).Pairwise (fun r s => notAfter r.asOf s.asOf) := by
    apply List.pairwise_of_forall_mem_list
    intro r hr s hs
    obtain ⟨-, rfl⟩ := by simpa using hr
    obtain ⟨-, hs⟩ : s ∈ series ∧ s.asOf = r.asOf := by simpa using hs
    simp [hs, notAfter_refl]
  have sub := List.sublist_mergeSort (fun r s t => notAfter_trans r.asOf s.asOf t.asOf)
    (fun r s => notAfter_total r.asOf s.asOf) ofDay List.filter_sublist
  have sub := sub.filter (·.asOf = day)
  rw [List.filter_filter] at sub
  simp only [Bool.and_self] at sub
  have perm := (List.mergeSort_perm series (fun r s => notAfter r.asOf s.asOf)).filter
    (·.asOf = day)
  symm
  apply sub.eq_of_length perm.length_eq.symm

/-- If the first two records of an ordered series are of different days, no record has the day of
the first one but itself. -/
theorem asOf_ne_of_mem {r s x : RateRecord} {rest : List RateRecord}
    (ordered : (r :: s :: rest).Pairwise (fun r s => notAfter r.asOf s.asOf))
    (differ : r.asOf ≠ s.asOf) (hx : x ∈ s :: rest) :
  r.asOf ≠ x.asOf
  := by
  obtain ⟨first, ordered⟩ := List.pairwise_cons.1 ordered
  intro same
  apply differ
  apply notAfter_antisymm (first s List.mem_cons_self)
  rw [same]
  obtain rfl | hx := List.mem_cons.1 hx
  · apply notAfter_refl
  · apply (List.pairwise_cons.1 ordered).1 x hx

/-- Of the records of a day in an ordered series the last one is kept. -/
theorem find?_keepLast {series : List RateRecord} (day : Option Date)
    (ordered : series.Pairwise (fun r s => notAfter r.asOf s.asOf)) :
  (keepLast series).find? (·.asOf = day) = (series.filter (·.asOf = day)).getLast?
  := by
  fun_induction keepLast series with
  | case1 => rfl
  | case2 r => by_cases h : r.asOf = day <;> simp [h]
  | case3 r s rest same ih =>
    rw [ih (List.pairwise_cons.1 ordered).2]
    by_cases h : s.asOf = day
    · simp [h, same]
    · simp [h, same]
  | case4 r s rest differ ih =>
    rw [List.find?_cons, ih (List.pairwise_cons.1 ordered).2]
    by_cases h : r.asOf = day
    · -- All that follows is of other days than `r`.
      have later : (s :: rest).filter (·.asOf = day) = [] := by
        apply List.filter_eq_nil_iff.2
        intro x hx hday
        have hday : x.asOf = day := by simpa using hday
        apply asOf_ne_of_mem ordered differ hx (h.trans hday.symm)
      have kept : (r :: s :: rest).filter (·.asOf = day) = [r] := by
        rw [List.filter_cons_of_pos (by simpa using h), later]
      rw [kept]
      simp [h]
    · have passed : (r :: s :: rest).filter (·.asOf = day) = (s :: rest).filter (·.asOf = day) :=
        List.filter_cons_of_neg (by simpa using h)
      rw [passed]
      simp [h]

/-- Looking a day up in a series that has been put in order gives its last record for the
day. -/
theorem find?_inOrder (series : List RateRecord) (day : Option Date) :
  (inOrder series).find? (·.asOf = day) = series.reverse.find? (·.asOf = day)
  := by
  have ordered := List.pairwise_mergeSort (fun r s t => notAfter_trans r.asOf s.asOf t.asOf)
    (fun r s => notAfter_total r.asOf s.asOf) series
  rw [inOrder, find?_keepLast day ordered, filter_mergeSort, List.getLast?_eq_head?_reverse,
    ← List.filter_reverse, List.head?_filter]

@[simp]
theorem inOrder_nil : inOrder [] = []
  := by simp [inOrder, keepLast]

/-! ### Pushing rates -/

/-- The currency of a rate in a direction that is not the unit. -/
def currencyOf : Direction → RateRecord → Currency
  | .toUnit => RateRecord.base
  | .fromUnit => RateRecord.term

/-- The series of a direction and a currency. -/
def series (t : DualTable) (currency : Currency) : Direction → List RateRecord
  | .toUnit => (t.toUnit.get? currency).getD []
  | .fromUnit => (t.fromUnit.get? currency).getD []

/-- The rate in a direction on a day. -/
def rate? (t : DualTable) (currency : Currency) (day : Date) : Direction → Option RateRecord
  | .toUnit => t.toUnit? currency day
  | .fromUnit => t.fromUnit? currency day

/-- The table with rates pushed one after the other, each in its direction. -/
def pushAll (t : DualTable) (rates : List (Direction × RateRecord)) : DualTable :=
  rates.foldl (fun t e => push t e.2 e.1) t

/-- A rate is pushed to the end of its series. -/
theorem series_push (t : DualTable) (r : RateRecord) (direction direction' : Direction)
    (currency : Currency) :
  (push t r direction).series currency direction'
    = t.series currency direction'
        ++ if direction = direction' ∧ currencyOf direction r = currency then [r] else []
  := by
  cases direction <;> cases direction' <;>
    simp only [series, push, pushToUnit, pushFromUnit, addTo, currencyOf, OrderedMap.get?_alter,
      reduceCtorEq, false_and, if_false, List.append_nil, true_and]
  · by_cases h : currency = r.base
    · simp [h]
    · simp [h, Ne.symm h]
  · by_cases h : currency = r.term
    · simp [h]
    · simp [h, Ne.symm h]

/-- The rates of a series are those that were pushed to it, in their order. -/
theorem series_pushAll (t : DualTable) (rates : List (Direction × RateRecord))
    (direction : Direction) (currency : Currency) :
  (t.pushAll rates).series currency direction
    = t.series currency direction
        ++ (rates.filter
            (fun e => e.1 = direction ∧ currencyOf e.1 e.2 = currency)).map (·.2)
  := by
  induction rates generalizing t with
  | nil => simp [pushAll]
  | cons e rates ih =>
    rw [pushAll, List.foldl_cons, ← pushAll, ih, series_push, List.append_assoc]
    by_cases h : e.1 = direction ∧ currencyOf e.1 e.2 = currency
    · rw [List.filter_cons_of_pos (by simpa using h), if_pos h]
      rfl
    · rw [List.filter_cons_of_neg (by simpa using h), if_neg h]
      rfl

@[simp]
theorem unit_pushAll (t : DualTable) (rates : List (Direction × RateRecord)) :
  (t.pushAll rates).unit = t.unit
  := by
  induction rates generalizing t with
  | nil => rfl
  | cons e rates ih =>
    rw [pushAll, List.foldl_cons, ← pushAll, ih]
    cases e.1 <;> rfl

@[simp]
theorem isEmpty_empty (unit : Currency) : (empty unit).isEmpty = true
  := rfl

/-- A table to which a rate has been pushed is not empty. -/
theorem isEmpty_push (t : DualTable) (r : RateRecord) (direction : Direction) :
  (push t r direction).isEmpty = false
  := by
  cases direction <;>
    simp [push, pushToUnit, pushFromUnit, addTo, isEmpty, OrderedMap.alter]

/-- A table is empty after a push of rates if it was before and there are none. -/
theorem isEmpty_pushAll (t : DualTable) (rates : List (Direction × RateRecord)) :
  (t.pushAll rates).isEmpty = (t.isEmpty && rates.isEmpty)
  := by
  induction rates generalizing t with
  | nil => simp [pushAll]
  | cons e rates ih =>
    rw [pushAll, List.foldl_cons, ← pushAll, ih, isEmpty_push]
    simp

theorem rate?_eq_find? {t : DualTable} {day : Date} (currency : Currency) (direction : Direction) :
  t.rate? currency day direction = (t.series currency direction).find? (·.asOf = some day)
  := by cases direction <;> rfl

theorem series_finish (t : DualTable) (currency : Currency) (direction : Direction) :
  t.finish.series currency direction = inOrder (t.series currency direction)
  := by
  cases direction with
  | toUnit =>
    simp only [series, finish, OrderedMap.get?_mapValues]
    cases t.toUnit.get? currency <;> simp
  | fromUnit =>
    simp only [series, finish, OrderedMap.get?_mapValues]
    cases t.fromUnit.get? currency <;> simp

/-- A look-up in a finished table gives the last record of its series for the day. -/
theorem rate?_finish (t : DualTable) (currency : Currency) (day : Date)
    (direction : Direction) :
  t.finish.rate? currency day direction
    = (t.series currency direction).reverse.find? (·.asOf = some day)
  := by rw [rate?_eq_find?, series_finish, find?_inOrder]

/-- The last record of a series for a day, or for none, is the last rate that was pushed for its
direction, currency and day. -/
theorem find?_reverse_series_pushAll (unit currency : Currency) (day : Option Date)
    (direction : Direction) (rates : List (Direction × RateRecord)) :
  (((empty unit).pushAll rates).series currency direction).reverse.find? (·.asOf = day)
    = (rates.reverse.find? (fun e => e.1 = direction ∧ currencyOf e.1 e.2 = currency
        ∧ e.2.asOf = day)).map (·.2)
  := by
  have none : (empty unit).series currency direction = [] := by cases direction <;> rfl
  rw [series_pushAll, none, List.nil_append, ← List.map_reverse, ← List.filter_reverse,
    List.find?_map, List.find?_filter]
  congr 2
  funext e
  simp [Bool.and_assoc]

/-- A look-up in a finished table gives the last rate that was pushed for its direction,
currency and day. -/
theorem rate?_finish_pushAll (unit currency : Currency) (day : Date) (direction : Direction)
    (rates : List (Direction × RateRecord)) :
  ((empty unit).pushAll rates).finish.rate? currency day direction
    = (rates.reverse.find? (fun e => e.1 = direction ∧ currencyOf e.1 e.2 = currency
        ∧ e.2.asOf = some day)).map (·.2)
  := by rw [rate?_finish, find?_reverse_series_pushAll]

end DualTable

end CrossRate
