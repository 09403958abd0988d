/-!
# Ordered maps

A finite map is kept as the list of its entries in strictly ascending key order, so
that two maps with the same look-ups are the same map (`OrderedMap.ext_get?`). Every
table, registry and store of the library is one.

* `get?` looks a key up, `insert` adds or replaces an entry, `erase` drops one.
* `overlay` lays one map over another: where both have a key, the upper one wins.
* `get?_insert`, `get?_erase` and `get?_overlay` say what each of them does to the
  look-ups.
-/

namespace CrossRate

/-- The order of keys is a strict linear order. -/
class KeyOrder (κ : Type) [LT κ] : Prop where
  /-- No key is less than itself. -/
  irrefl (a : κ) : ¬ a < a
  /-- The order is transitive. -/
  trans {a b c : κ} : a < b → b < c → a < c
  /-- Different keys are comparable. -/
  trichotomy (a b : κ) : a < b ∨ a = b ∨ b < a

instance : KeyOrder Int where
  irrefl := Int.lt_irrefl
  trans := Int.lt_trans
  trichotomy := Int.lt_trichotomy

instance : KeyOrder Nat where
  irrefl := Nat.lt_irrefl
  trans := Nat.lt_trans
  trichotomy := Nat.lt_trichotomy

instance : KeyOrder String where
  irrefl := String.lt_irrefl
  trans := String.lt_trans
  trichotomy := Std.lt_trichotomy

instance : KeyOrder (List String) where
  irrefl := List.lt_irrefl
  trans := List.lt_trans
  trichotomy := Std.lt_trichotomy

/-- A finite map from `κ` to `υ`, as the list of its entries in ascending key order. -/
structure OrderedMap (κ υ : Type) [LT κ] where
  /-- The entries, least key first. -/
  entries : List (κ × υ)
  /-- No key occurs twice and the keys ascend. -/
  ascending : entries.Pairwise (fun a b => a.1 < b.1)

namespace OrderedMap

variable {κ υ ω : Type}

/-! ### Lists of entries -/

/-- The value that a list of entries gives to a key: the first one. -/
def find? [DecidableEq κ] (k : κ) : List (κ × υ) → Option υ
  | [] => none
  | (k', v) :: rest => if k = k' then some v else find? k rest

/-- Put an entry in its place in an ascending list, in place of one with its key. -/
def insertEntry [LT κ] [DecidableLT κ] [DecidableEq κ] (k : κ) (v : υ) :
    List (κ × υ) → List (κ × υ)
  | [] => [(k, v)]
  | (k', v') :: rest =>
    if k < k' then (k, v) :: (k', v') :: rest
    else if k = k' then (k, v) :: rest
    else (k', v') :: insertEntry k v rest

theorem find?_append [DecidableEq κ] (k : κ) (l₁ l₂ : List (κ × υ)) :
  find? k (l₁ ++ l₂) = (find? k l₁).or (find? k l₂)
  := by
  induction l₁ with
  | nil => rfl
  | cons hd tl ih => by_cases h : k = hd.1 <;> simp [find?, h, ih]

theorem find?_eq_none_of_forall [DecidableEq κ] {k : κ} {l : List (κ × υ)}
    (h : ∀ e ∈ l, k ≠ e.1) :
  find? k l = none
  := by
  induction l with
  | nil => rfl
  | cons hd tl ih =>
    rw [List.forall_mem_cons] at h
    simp [find?, h.1, ih h.2]

theorem find?_filter_ne [DecidableEq κ] (k k' : κ) (l : List (κ × υ)) :
  find? k' (l.filter (fun e => e.1 ≠ k)) = if k' = k then none else find? k' l
  := by
  induction l with
  | nil => simp [find?]
  | cons hd tl ih =>
    obtain ⟨k₀, v₀⟩ := hd
    by_cases h₀ : k₀ = k
    · subst h₀
      by_cases h : k' = k₀ <;> simp_all [find?]
    · by_cases h : k' = k₀
      · subst h
        simp [find?, h₀]
      · simp_all [find?]

theorem find?_map [DecidableEq κ] (k : κ) (f : υ → ω) (l : List (κ × υ)) :
  find? k (l.map (fun e => (e.1, f e.2))) = (find? k l).map f
  := by
  induction l with
  | nil => rfl
  | cons hd tl ih => by_cases h : k = hd.1 <;> simp [find?, h, ih]

section Inserting

variable [LT κ] [DecidableLT κ] [DecidableEq κ]

theorem find?_insertEntry (k k' : κ) (v : υ) (l : List (κ × υ)) :
  find? k' (insertEntry k v l) = if k' = k then some v else find? k' l
  := by
  induction l with
  | nil => simp [insertEntry, find?]
  | cons hd tl ih =>
    obtain ⟨k₀, v₀⟩ := hd
    simp only [insertEntry]
    split
    · simp [find?]
    · split
      · rename_i eq
        subst eq
        by_cases h : k' = k <;> simp [find?, h]
      · rename_i ne
        by_cases h : k' = k₀
        · subst h
          simp [find?, Ne.symm ne]
        · simp [find?, h, ih]

theorem mem_insertEntry {k : κ} {v : υ} {e : κ × υ} {l : List (κ × υ)}
    (h : e ∈ insertEntry k v l) :
  e = (k, v) ∨ e ∈ l
  := by
  induction l with
  | nil => simpa [insertEntry] using h
  | cons hd tl ih =>
    obtain ⟨k', v'⟩ := hd
    simp only [insertEntry] at h
    split at h
    · simpa using h
    · split at h
      · rcases List.mem_cons.1 h with h | h
        · exact .inl h
        · exact .inr (List.mem_cons_of_mem _ h)
      · rcases List.mem_cons.1 h with h | h
        · exact .inr (h ▸ List.mem_cons_self)
        · exact (ih h).imp_right (List.mem_cons_of_mem _)

theorem ascending_insertEntry [KeyOrder κ] {k : κ} {v : υ} {l : List (κ × υ)}
    (h : l.Pairwise (fun a b => a.1 < b.1)) :
  (insertEntry k v l).Pairwise (fun a b => a.1 < b.1)
  := by
  induction l with
  | nil => simp [insertEntry]
  | cons hd tl ih =>
    obtain ⟨k', v'⟩ := hd
    obtain ⟨head, tail⟩ := List.pairwise_cons.1 h
    simp only [insertEntry]
    split
    · rename_i lt
      refine List.pairwise_cons.2 ⟨fun e he => ?_, h⟩
      rcases List.mem_cons.1 he with rfl | he
      · exact lt
      · exact KeyOrder.trans lt (head e he)
    · split
      · rename_i eq
        exact List.pairwise_cons.2 ⟨fun e he => eq ▸ head e he, tail⟩
      · rename_i nlt ne
        refine List.pairwise_cons.2 ⟨fun e he => ?_, ih tail⟩
        rcases mem_insertEntry he with rfl | he
        · rcases KeyOrder.trichotomy k k' with h' | h' | h'
          · exact absurd h' nlt
          · exact absurd h' ne
          · exact h'
        · exact head e he

end Inserting

section Ascending

variable [LT κ] [DecidableEq κ] [KeyOrder κ]

theorem find?_eq_none_of_lt {k : κ} {l : List (κ × υ)} (h : ∀ e ∈ l, k < e.1) :
  find? k l = none
  := find?_eq_none_of_forall fun e he eq =>
    KeyOrder.irrefl e.1 (by have := h e he; rwa [eq] at this)

/-- In an ascending list the first entry of a key is also its last. -/
theorem find?_reverse {k : κ} {l : List (κ × υ)} (h : l.Pairwise (fun a b => a.1 < b.1)) :
  find? k l.reverse = find? k l
  := by
  induction l with
  | nil => rfl
  | cons hd tl ih =>
    obtain ⟨head, tail⟩ := List.pairwise_cons.1 h
    rw [List.reverse_cons, find?_append, ih tail]
    by_cases hk : k = hd.1
    · rw [find?_eq_none_of_lt (hk ▸ head)]
      simp [find?, hk]
    · cases hf : find? k tl <;> simp [find?, hk, hf]

/-- Ascending lists with the same look-ups are equal. -/
theorem eq_of_find?_eq {l₁ l₂ : List (κ × υ)}
    (h₁ : l₁.Pairwise (fun a b => a.1 < b.1)) (h₂ : l₂.Pairwise (fun a b => a.1 < b.1))
    (h : ∀ k, find? k l₁ = find? k l₂) :
  l₁ = l₂
  := by
  induction l₁ generalizing l₂ with
  | nil =>
    cases l₂ with
    | nil => rfl
    | cons b tl => exact absurd (h b.1) (by simp [find?])
  | cons a tl₁ ih =>
    cases l₂ with
    | nil => exact absurd (h a.1) (by simp [find?])
    | cons b tl₂ =>
      obtain ⟨head₁, tail₁⟩ := List.pairwise_cons.1 h₁
      obtain ⟨head₂, tail₂⟩ := List.pairwise_cons.1 h₂
      have below {k : κ} {c : κ × υ} {tl : List (κ × υ)} (lt : k < c.1)
          (head : ∀ e ∈ tl, c.1 < e.1) : ∀ e ∈ c :: tl, k < e.1 := by
        intro e he
        rcases List.mem_cons.1 he with rfl | he
        · exact lt
        · exact KeyOrder.trans lt (head e he)
      have keys : a.1 = b.1 := by
        rcases KeyOrder.trichotomy a.1 b.1 with lt | eq | gt
        · have := h a.1
          rw [find?_eq_none_of_lt (below lt head₂)] at this
          simp [find?] at this
        · exact eq
        · have := h b.1
          rw [find?_eq_none_of_lt (below gt head₁)] at this
          simp [find?] at this
      have values : a.2 = b.2 := by simpa [find?, keys] using h a.1
      have tails : tl₁ = tl₂ := by
        refine ih tail₁ tail₂ fun k => ?_
        by_cases hk : k = a.1
        · rw [find?_eq_none_of_lt (hk ▸ head₁), find?_eq_none_of_lt (hk ▸ keys ▸ head₂)]
        · simpa [find?, hk, keys ▸ hk] using h k
      rw [tails, Prod.ext keys values]

end Ascending

variable [LT κ]

/-! ### Looking at a map -/

/-- The map without entries. -/
def empty : OrderedMap κ υ := ⟨[], List.Pairwise.nil⟩

instance : EmptyCollection (OrderedMap κ υ) := ⟨empty⟩

instance : Inhabited (OrderedMap κ υ) := ⟨empty⟩

/-- The value of a key. -/
def get? [DecidableEq κ] (m : OrderedMap κ υ) (k : κ) : Option υ := find? k m.entries

/-- Whether a key has a value. -/
def contains [DecidableEq κ] (m : OrderedMap κ υ) (k : κ) : Bool := (m.get? k).isSome

/-- The keys, ascending. -/
def keys (m : OrderedMap κ υ) : List κ := m.entries.map (·.1)

/-- The values, in the order of their keys. -/
def values (m : OrderedMap κ υ) : List υ := m.entries.map (·.2)

/-- The number of entries. -/
def size (m : OrderedMap κ υ) : Nat := m.entries.length

/-- Whether there is no entry. -/
def isEmpty (m : OrderedMap κ υ) : Bool := m.entries.isEmpty

/-- The greatest key. -/
def greatestKey? (m : OrderedMap κ υ) : Option κ := m.keys.getLast?

/-! ### Operations -/

/-- The map with only the entries that pass a test. -/
def filter (m : OrderedMap κ υ) (p : κ → υ → Bool) : OrderedMap κ υ :=
  ⟨m.entries.filter (fun e => p e.1 e.2), m.ascending.filter _⟩

/-- The map without a key. -/
def erase [DecidableEq κ] (m : OrderedMap κ υ) (k : κ) : OrderedMap κ υ :=
  m.filter (fun k' _ => k' ≠ k)

/-- The map with every value passed through a function. -/
def mapValues (m : OrderedMap κ υ) (f : υ → ω) : OrderedMap κ ω :=
  ⟨m.entries.map (fun e => (e.1, f e.2)), List.pairwise_map.2 m.ascending⟩

@[simp]
theorem get?_empty [DecidableEq κ] (k : κ) :
  (empty : OrderedMap κ υ).get? k = none
  := rfl

@[simp]
theorem contains_empty [DecidableEq κ] (k : κ) :
  (empty : OrderedMap κ υ).contains k = false
  := rfl

@[simp]
theorem get?_erase [DecidableEq κ] (m : OrderedMap κ υ) (k k' : κ) :
  (m.erase k).get? k' = if k' = k then none else m.get? k'
  := find?_filter_ne k k' m.entries

@[simp]
theorem get?_mapValues [DecidableEq κ] (m : OrderedMap κ υ) (f : υ → ω) (k : κ) :
  (m.mapValues f).get? k = (m.get? k).map f
  := find?_map k f m.entries

@[simp]
theorem contains_mapValues [DecidableEq κ] (m : OrderedMap κ υ) (f : υ → ω) (k : κ) :
  (m.mapValues f).contains k = m.contains k
  := by rw [contains, get?_mapValues, Option.isSome_map, contains]

@[simp]
theorem greatestKey?_mapValues (m : OrderedMap κ υ) (f : υ → ω) :
  (m.mapValues f).greatestKey? = m.greatestKey?
  := by rw [greatestKey?, keys, mapValues, List.map_map, greatestKey?, keys, Function.comp_def]

theorem mapValues_mapValues {ω' : Type} (m : OrderedMap κ υ) (f : υ → ω) (g : ω → ω') :
  (m.mapValues f).mapValues g = m.mapValues (g ∘ f)
  := by simp [mapValues, Function.comp_def]

/-- Two maps with the same look-ups are equal. -/
theorem ext_get? [DecidableEq κ] [KeyOrder κ] {m₁ m₂ : OrderedMap κ υ}
    (h : ∀ k, m₁.get? k = m₂.get? k) :
  m₁ = m₂
  := by
  obtain ⟨l₁, h₁⟩ := m₁
  obtain ⟨l₂, h₂⟩ := m₂
  have : l₁ = l₂ := eq_of_find?_eq h₁ h₂ h
  subst this
  rfl

variable [DecidableLT κ] [DecidableEq κ] [KeyOrder κ]

/-- The map with an entry added, in place of any with the same key. -/
def insert (m : OrderedMap κ υ) (k : κ) (v : υ) : OrderedMap κ υ :=
  ⟨insertEntry k v m.entries, ascending_insertEntry m.ascending⟩

/-- The map with the value of a key set from the value it had. -/
def alter (m : OrderedMap κ υ) (k : κ) (f : Option υ → υ) : OrderedMap κ υ :=
  m.insert k (f (m.get? k))

/-- The map of a list of entries, of which the last with a key counts. -/
def ofList (l : List (κ × υ)) : OrderedMap κ υ :=
  l.foldl (fun m e => m.insert e.1 e.2) empty

/-- Two maps as one; where both have a key, `upper` wins. -/
def overlay (lower upper : OrderedMap κ υ) : OrderedMap κ υ :=
  upper.entries.foldl (fun m e => m.insert e.1 e.2) lower

@[simp]
theorem get?_insert (m : OrderedMap κ υ) (k k' : κ) (v : υ) :
  (m.insert k v).get? k' = if k' = k then some v else m.get? k'
  := find?_insertEntry k k' v m.entries

@[simp]
theorem contains_insert (m : OrderedMap κ υ) (k k' : κ) (v : υ) :
  (m.insert k v).contains k' = (decide (k' = k) || m.contains k')
  := by by_cases h : k' = k <;> simp [contains, h]

@[simp]
theorem get?_alter (m : OrderedMap κ υ) (k k' : κ) (f : Option υ → υ) :
  (m.alter k f).get? k' = if k' = k then some (f (m.get? k)) else m.get? k'
  := get?_insert m k k' _

theorem mapValues_insert (m : OrderedMap κ υ) (f : υ → ω) (k : κ) (v : υ) :
  (m.insert k v).mapValues f = (m.mapValues f).insert k (f v)
  := by
  apply ext_get?
  intro k'
  rw [get?_mapValues, get?_insert, get?_insert, get?_mapValues, apply_ite (Option.map f),
    Option.map_some]

/-- A map to which an entry has been added is not empty. -/
@[simp]
theorem isEmpty_insert (m : OrderedMap κ υ) (k : κ) (v : υ) :
  (m.insert k v).isEmpty = false
  := by
  have h := get?_insert m k k v
  rw [if_pos rfl] at h
  cases hl : (m.insert k v).entries with
  | nil => simp [get?, hl, find?] at h
  | cons e rest => simp [isEmpty, hl]

/-- Adding entries one by one gives a key its last value among them. -/
theorem get?_foldl_insert (l : List (κ × υ)) (m : OrderedMap κ υ) (k : κ) :
  (l.foldl (fun m e => m.insert e.1 e.2) m).get? k = (find? k l.reverse).or (m.get? k)
  := by
  induction l generalizing m with
  | nil => rfl
  | cons hd tl ih =>
    rw [List.foldl_cons, ih, get?_insert, List.reverse_cons, find?_append]
    by_cases h : k = hd.1 <;> cases find? k tl.reverse <;> simp [find?, h]

@[simp]
theorem get?_ofList (l : List (κ × υ)) (k : κ) :
  (ofList l).get? k = find? k l.reverse
  := by rw [ofList, get?_foldl_insert, get?_empty, Option.or_none]

@[simp]
theorem get?_overlay (lower upper : OrderedMap κ υ) (k : κ) :
  (lower.overlay upper).get? k = (upper.get? k).or (lower.get? k)
  := by
  rw [overlay, get?_foldl_insert, find?_reverse upper.ascending]
  rfl

end OrderedMap

end CrossRate
