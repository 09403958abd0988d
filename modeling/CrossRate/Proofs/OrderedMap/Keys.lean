import CrossRate.OrderedMap
import Mathlib.Tactic.Common

/-!
# Keys of ordered maps

A map has a value for just those keys that it lists (`OrderedMap.contains_iff_mem_keys`). It lists
no key twice, and the greatest of them is the one behind which there is none
(`OrderedMap.greatestKey?_eq_some_iff`).
-/

namespace CrossRate

namespace OrderedMap

variable {κ υ : Type}

theorem pairwise_keys [LT κ] (m : OrderedMap κ υ) : m.keys.Pairwise (· < ·)
  := List.pairwise_map.2 m.ascending

/-- No key has two entries. -/
theorem nodup_keys [LT κ] [KeyOrder κ] (m : OrderedMap κ υ) : m.keys.Nodup
  := by
  apply m.pairwise_keys.imp
  rintro k _ lt rfl
  exact KeyOrder.irrefl k lt

variable [DecidableEq κ] {k : κ}

theorem isSome_find?_iff {l : List (κ × υ)} :
  (find? k l).isSome = true ↔ k ∈ l.map (·.1)
  := by
  induction l with
  | nil => simp [find?]
  | cons e l ih => by_cases same : k = e.1 <;> simp [find?, same, ih]

variable [LT κ] {m : OrderedMap κ υ}

theorem contains_iff_mem_keys : m.contains k = true ↔ k ∈ m.keys
  := isSome_find?_iff

/-- A map with entries has a value for some key. -/
theorem exists_get?_of_isEmpty (h : m.isEmpty = false) : ∃ k v, m.get? k = some v
  := by
  cases entries : m.entries with
  | nil => simp [isEmpty, entries] at h
  | cons e l =>
    use e.1, e.2
    simp [get?, entries, find?]

/-- The greatest key is the one behind which there is none. -/
theorem greatestKey?_eq_some_iff [KeyOrder κ] :
  m.greatestKey? = some k ↔ m.contains k = true ∧ ∀ k', k < k' → m.contains k' = false
  := by
  have ascending := m.pairwise_keys
  simp only [Bool.eq_false_iff, ne_eq, contains_iff_mem_keys]
  rw [greatestKey?, List.getLast?_eq_some_iff]
  constructor
  · rintro ⟨before, split⟩
    rw [split] at ascending ⊢
    refine ⟨by simp, ?_⟩
    intro k' lt mem
    obtain mem | mem := List.mem_append.1 mem
    · have before := (List.pairwise_append.1 ascending).2.2 k' mem k List.mem_cons_self
      exact KeyOrder.irrefl k (KeyOrder.trans lt before)
    · obtain rfl := List.mem_singleton.1 mem
      exact KeyOrder.irrefl k' lt
  · rintro ⟨mem, last⟩
    obtain ⟨before, after, split⟩ := List.append_of_mem mem
    cases after with
    | nil => exact ⟨before, split⟩
    | cons k' after =>
      rw [split] at ascending last
      have lt := (List.pairwise_cons.1 (List.pairwise_append.1 ascending).2.1).1 k'
        List.mem_cons_self
      exact absurd (by simp) (last k' lt)

end OrderedMap

end CrossRate
