import CrossRate.Memo
import Mathlib.Data.List.Basic

/-!
# What a memo retains

A memo holds an answer from the call that put it in up to the first call that drops it
(`Memo.mem_run_iff`). What a call drops depends on the answers that have expired and on whether the
memo is full. So a memo is a partial map of bounded size from queries to the answers that were put in
last (`Memo.actsAsMap_run`).
-/

namespace CrossRate

/-- What may be done with a memo. -/
inductive MemoCall where
  | get (query : RateQuery)
  | insert (query : RateQuery) (answer : RateRecord)
  | clear
  | evict

/-- The call that puts an entry into a memo, at its time. -/
def MemoEntry.insertion (e : MemoEntry) : Nat × MemoCall := (e.since, .insert e.query e.answer)

namespace Memo

/-- A memo after a call at a time. -/
def step (m : Memo) (now : Nat) : MemoCall → Memo
  | .get query => (m.get now query).2
  | .insert query answer => m.insert now query answer
  | .clear => m.clear
  | .evict => m.evict now

/-- A memo after calls, each at its time. -/
def run (m : Memo) (calls : List (Nat × MemoCall)) : Memo :=
  calls.foldl (fun m c => m.step c.1 c.2) m

/-- A call drops an entry: one for its query that has expired or gets another answer, one that has
expired when the expired ones are dropped, or any one when all are. -/
def Drops (m : Memo) (now : Nat) (call : MemoCall) (e : MemoEntry) : Prop :=
  match call with
  | .get query => e.query = query ∧ ¬ m.isValid now e
  | .insert query _ => e.query = query
    ∨ m.capacity ≤ m.size ∧ (¬ m.isValid now e ∨ m.capacity ≤ (m.evict now).size)
  | .clear => True
  | .evict => ¬ m.isValid now e

/-- None of a series of calls drops an entry. -/
def Keeps (m : Memo) (e : MemoEntry) : List (Nat × MemoCall) → Prop
  | [] => True
  | c :: calls => ¬ m.Drops c.1 c.2 e ∧ (m.step c.1 c.2).Keeps e calls

/-- There is one entry for a query at most. -/
def IsDistinct (m : Memo) : Prop := m.entries.Pairwise (fun a b => a.query ≠ b.query)

variable {m : Memo} {now later : Nat} {query other : RateQuery} {answer r : RateRecord}
  {call : MemoCall} {calls : List (Nat × MemoCall)} {e : MemoEntry}

/-! ### Single calls -/

/-- What is asked for is looked for in the entry for the query. -/
theorem IsDistinct.find?_eq_some_iff (distinct : m.IsDistinct) :
  m.entries.find? (·.query = query) = some e ↔ e ∈ m.entries ∧ e.query = query
  := by
  constructor
  · intro found
    exact ⟨List.mem_of_find?_eq_some found, by simpa using List.find?_some found⟩
  · rintro ⟨mem, rfl⟩
    obtain ⟨before, after, split⟩ := List.append_of_mem mem
    rw [IsDistinct, split] at distinct
    rw [split, List.find?_eq_some_iff_append]
    refine ⟨by simp, before, after, rfl, ?_⟩
    intro a ha
    simpa using (List.pairwise_append.1 distinct).2.2 a ha e List.mem_cons_self

theorem isValid_iff : m.isValid now e = true ↔ now < e.since + m.lifetime
  := by rw [isValid, decide_eq_true_eq]

/-- A query is answered by its entry while that is good. -/
theorem IsDistinct.get_fst_eq_some_iff (distinct : m.IsDistinct) :
  (m.get now query).1 = some r
    ↔ ∃ since, ⟨query, r, since⟩ ∈ m.entries ∧ now < since + m.lifetime
  := by
  have found {since : Nat} (mem : ⟨query, r, since⟩ ∈ m.entries) :
      m.entries.find? (·.query = query) = some ⟨query, r, since⟩ :=
    distinct.find?_eq_some_iff.2 ⟨mem, rfl⟩
  constructor
  · intro given
    rw [get] at given
    split at given
    · cases given
    · rename_i e here
      obtain ⟨mem, rfl⟩ := distinct.find?_eq_some_iff.1 here
      split at given
      · rename_i valid
        obtain rfl := Option.some.inj given
        exact ⟨e.since, mem, isValid_iff.1 valid⟩
      · cases given
  · rintro ⟨since, mem, valid⟩
    have valid : m.isValid now ⟨query, r, since⟩ = true := isValid_iff.2 valid
    simp only [get, found mem, valid, if_true]

/-- A query drops its entry if that is not good any more. -/
theorem IsDistinct.mem_get_snd_iff (distinct : m.IsDistinct) :
  e ∈ (m.get now query).2.entries ↔ e ∈ m.entries ∧ ¬ m.Drops now (.get query) e
  := by
  simp only [Drops, not_and, not_not]
  rw [get]
  split
  · rename_i none
    have other (mem : e ∈ m.entries) : e.query ≠ query := by
      simpa using List.find?_eq_none.1 none e mem
    exact ⟨fun mem => ⟨mem, fun same => absurd same (other mem)⟩, And.left⟩
  · rename_i found here
    obtain ⟨-, rfl⟩ := distinct.find?_eq_some_iff.1 here
    have unique (mem : e ∈ m.entries) (same : e.query = found.query) : e = found := by
      have again := distinct.find?_eq_some_iff.2 ⟨mem, same⟩
      rw [here] at again
      exact (Option.some.inj again).symm
    split
    · rename_i valid
      exact ⟨fun mem => ⟨mem, fun same => unique mem same ▸ valid⟩, And.left⟩
    · rename_i expired
      simp only [erase, List.mem_filter, decide_eq_true_eq, ne_eq]
      constructor
      · rintro ⟨mem, differs⟩
        exact ⟨mem, fun same => absurd same differs⟩
      · rintro ⟨mem, valid⟩
        exact ⟨mem, fun same => expired (unique mem same ▸ valid same)⟩

theorem mem_evict_iff : e ∈ (m.evict now).entries ↔ e ∈ m.entries ∧ m.isValid now e
  := List.mem_filter

/-- What is dropped to make room: nothing if there is room, else what has expired, and all if that is
not enough. -/
theorem mem_makeRoom_iff :
  e ∈ (m.makeRoom now).entries
    ↔ e ∈ m.entries
      ∧ ¬ (m.capacity ≤ m.size ∧ (¬ m.isValid now e ∨ m.capacity ≤ (m.evict now).size))
  := by
  rw [makeRoom]
  split
  · rename_i room
    simp [Nat.not_le.2 room]
  · rename_i full
    split
    · rename_i room
      simp [Nat.not_lt.1 full, mem_evict_iff, room]
    · rename_i crowded
      simp [Nat.not_lt.1 full, Nat.not_lt.1 crowded, clear]

/-- The entries after an answer was put in. -/
theorem mem_insert_iff :
  e ∈ (m.insert now query answer).entries
    ↔ e = ⟨query, answer, now⟩ ∨ e ∈ m.entries ∧ ¬ m.Drops now (.insert query answer) e
  := by
  simp only [insert, erase, List.mem_cons, List.mem_filter, mem_makeRoom_iff, Drops, not_or,
    decide_eq_true_eq, ne_eq]
  tauto

/-- The entries after a call are the one that it puts in and those that it does not drop. -/
theorem IsDistinct.mem_step_iff (distinct : m.IsDistinct) :
  e ∈ (m.step now call).entries
    ↔ (now, call) = e.insertion ∨ e ∈ m.entries ∧ ¬ m.Drops now call e
  := by
  cases call with
  | get query => simp [step, distinct.mem_get_snd_iff, MemoEntry.insertion]
  | insert query answer =>
    obtain ⟨query', answer', since⟩ := e
    rw [step, mem_insert_iff]
    simp only [MemoEntry.insertion, MemoEntry.mk.injEq, Prod.mk.injEq, MemoCall.insert.injEq]
    tauto
  | clear => simp [step, clear, MemoEntry.insertion, Drops]
  | evict => simp [step, mem_evict_iff, MemoEntry.insertion, Drops]

/-- A memo whose entries are some of those of another. -/
theorem IsDistinct.of_sublist {m' : Memo} (distinct : m.IsDistinct)
    (sub : m'.entries.Sublist m.entries) :
  m'.IsDistinct
  := List.Pairwise.sublist sub distinct

theorem sublist_makeRoom (m : Memo) (now : Nat) :
  (m.makeRoom now).entries.Sublist m.entries
  := by
  rw [makeRoom]
  split
  · exact .refl _
  · split
    · exact List.filter_sublist
    · exact List.nil_sublist _

theorem IsDistinct.step (distinct : m.IsDistinct) (now : Nat) (call : MemoCall) :
  (m.step now call).IsDistinct
  := by
  cases call with
  | get query =>
    rw [Memo.step, get]
    split
    · exact distinct
    · split
      · exact distinct
      · exact distinct.of_sublist List.filter_sublist
  | insert query answer =>
    apply List.pairwise_cons.2 ⟨?_, ?_⟩
    · intro e mem same
      exact of_decide_eq_true (List.mem_filter.1 mem).2 same.symm
    · exact distinct.of_sublist (List.filter_sublist.trans (m.sublist_makeRoom now))
  | clear => exact .nil
  | evict => exact distinct.of_sublist List.filter_sublist

/-- To make room is not to change for how long answers are good and how many are kept. -/
theorem settings_makeRoom (m : Memo) (now : Nat) :
  (m.makeRoom now).lifetime = m.lifetime ∧ (m.makeRoom now).capacity = m.capacity
  := by
  rw [makeRoom]
  split
  · exact ⟨rfl, rfl⟩
  · split <;> exact ⟨rfl, rfl⟩

/-- An answer that is put in is the one to its query until it expires. -/
theorem IsDistinct.get_insert_eq_some_iff (distinct : m.IsDistinct) :
  ((m.insert now query answer).get later query).1 = some r
    ↔ r = answer ∧ later < now + m.lifetime
  := by
  have distinct' : (m.insert now query answer).IsDistinct :=
    distinct.step now (.insert query answer)
  have lifetime : (m.insert now query answer).lifetime = m.lifetime :=
    (m.settings_makeRoom now).1
  rw [distinct'.get_fst_eq_some_iff, lifetime]
  constructor
  · rintro ⟨since, mem, valid⟩
    obtain here | ⟨-, kept⟩ := mem_insert_iff.1 mem
    · obtain ⟨-, rfl, rfl⟩ := MemoEntry.mk.inj here
      exact ⟨rfl, valid⟩
    · exact absurd (.inl rfl) kept
  · rintro ⟨rfl, valid⟩
    exact ⟨now, mem_insert_iff.2 (.inl rfl), valid⟩

/-- While there is room, putting an answer in leaves those to other queries alone. -/
theorem mem_insert_iff_of_room (room : m.size < m.capacity) (differs : e.query ≠ query) :
  e ∈ (m.insert now query answer).entries ↔ e ∈ m.entries
  := by
  have other : e ≠ ⟨query, answer, now⟩ := by
    rintro rfl
    apply differs rfl
  simp [mem_insert_iff, Drops, other, differs, Nat.not_le.2 room]

/-- Every answer is good or has expired. -/
theorem countP_isValid_add (m : Memo) (now : Nat) :
  m.entries.countP (m.isValid now) + m.entries.countP (!m.isValid now ·) = m.size
  := by
  rw [size, m.entries.length_eq_countP_add_countP (m.isValid now)]
  simp only [Bool.not_eq_true, Bool.decide_eq_false]

/-- Of the answers that are counted, those that are not good have expired. -/
theorem counts_eq (m : Memo) (now : Nat) :
  m.counts now
    = ⟨m.size, m.entries.countP (m.isValid now), m.entries.countP (!m.isValid now ·)⟩
  := by
  have split := m.countP_isValid_add now
  simp only [counts, ← List.countP_eq_length_filter, MemoCounts.mk.injEq, true_and]
  omega

/-! ### Size -/

/-- No call changes for how long answers are good and how many are kept. -/
theorem settings_step (m : Memo) (now : Nat) (call : MemoCall) :
  (m.step now call).lifetime = m.lifetime ∧ (m.step now call).capacity = m.capacity
  := by
  cases call with
  | get query =>
    rw [step, get]
    split
    · exact ⟨rfl, rfl⟩
    · split <;> exact ⟨rfl, rfl⟩
  | insert query answer => exact m.settings_makeRoom now
  | clear => exact ⟨rfl, rfl⟩
  | evict => exact ⟨rfl, rfl⟩

/-- There is room for another answer once it has been made. -/
theorem size_makeRoom_lt (positive : 0 < m.capacity) (now : Nat) :
  (m.makeRoom now).size < m.capacity
  := by
  rw [makeRoom]
  split
  · rename_i room
    apply room
  · split
    · rename_i room
      apply room
    · apply positive

/-- No call leaves more answers than are to be kept. -/
theorem size_step_le (positive : 0 < m.capacity) (within : m.size ≤ m.capacity) (now : Nat)
    (call : MemoCall) :
  (m.step now call).size ≤ m.capacity
  := by
  have fewer {m' : Memo} (sub : m'.entries.Sublist m.entries) : m'.size ≤ m.capacity :=
    Nat.le_trans sub.length_le within
  cases call with
  | get query =>
    rw [step, get]
    split
    · apply within
    · split
      · apply within
      · apply fewer List.filter_sublist
  | insert query answer =>
    have rest : ((m.makeRoom now).erase query).size ≤ (m.makeRoom now).size :=
      List.length_filter_le ..
    apply Nat.succ_le_of_lt
    apply Nat.lt_of_le_of_lt rest (m.size_makeRoom_lt positive now)
  | clear => apply Nat.zero_le
  | evict => apply fewer List.filter_sublist

/-! ### Series of calls -/

theorem run_cons (m : Memo) (c : Nat × MemoCall) (calls : List (Nat × MemoCall)) :
  m.run (c :: calls) = (m.step c.1 c.2).run calls
  := rfl

theorem IsDistinct.run (distinct : m.IsDistinct) (calls : List (Nat × MemoCall)) :
  (m.run calls).IsDistinct
  := by
  induction calls generalizing m with
  | nil => apply distinct
  | cons c calls ih => apply ih (distinct.step c.1 c.2)

theorem settings_run (m : Memo) (calls : List (Nat × MemoCall)) :
  (m.run calls).lifetime = m.lifetime ∧ (m.run calls).capacity = m.capacity
  := by
  induction calls generalizing m with
  | nil => exact ⟨rfl, rfl⟩
  | cons c calls ih =>
    rw [run_cons, (ih _).1, (ih _).2]
    apply settings_step

theorem size_run_le (positive : 0 < m.capacity) (within : m.size ≤ m.capacity)
    (calls : List (Nat × MemoCall)) :
  (m.run calls).size ≤ m.capacity
  := by
  induction calls generalizing m with
  | nil => apply within
  | cons c calls ih =>
    have same := (m.settings_step c.1 c.2).2
    rw [run_cons, ← same]
    apply ih
    · rwa [same]
    · rw [same]
      apply size_step_le positive within

/-- An entry is held if it was there or has been put in, and no call has dropped it since. -/
theorem IsDistinct.mem_run_iff (distinct : m.IsDistinct) :
  e ∈ (m.run calls).entries
    ↔ e ∈ m.entries ∧ m.Keeps e calls
      ∨ ∃ before after, calls = before ++ e.insertion :: after
          ∧ (m.run (before ++ [e.insertion])).Keeps e after
  := by
  induction calls generalizing m with
  | nil => simp [Memo.run, Keeps]
  | cons c calls ih =>
    rw [run_cons, ih (distinct.step c.1 c.2), distinct.mem_step_iff, Keeps]
    constructor
    · rintro (⟨put | ⟨mem, keeps⟩, kept⟩ | ⟨before, after, rfl, kept⟩)
      · obtain rfl : c = e.insertion := put
        exact .inr ⟨[], calls, rfl, kept⟩
      · exact .inl ⟨mem, keeps, kept⟩
      · exact .inr ⟨c :: before, after, rfl, kept⟩
    · rintro (⟨mem, keeps, kept⟩ | ⟨before, after, split, kept⟩)
      · exact .inl ⟨.inr ⟨mem, keeps⟩, kept⟩
      · obtain ⟨rfl, split⟩ | ⟨before, rfl, rfl⟩ := List.cons_eq_append_iff.1 split
        · obtain ⟨rfl, rfl⟩ := List.cons.inj split
          exact .inl ⟨.inl rfl, kept⟩
        · exact .inr ⟨before, after, rfl, kept⟩

/-- What is kept is neither replaced nor cleared. -/
theorem Keeps.not_replaced (kept : m.Keeps e calls) {c : Nat × MemoCall} (mem : c ∈ calls) :
  c.2 ≠ .clear ∧ ∀ answer, c.2 ≠ .insert e.query answer
  := by
  induction calls generalizing m with
  | nil => cases mem
  | cons first calls ih =>
    obtain ⟨keeps, kept⟩ := kept
    obtain rfl | mem := List.mem_cons.1 mem
    · constructor
      · intro cleared
        rw [cleared] at keeps
        apply keeps trivial
      · intro answer replaced
        rw [replaced] at keeps
        apply keeps (.inl rfl)
    · apply ih kept mem

/-! ### Maps of bounded size -/

/-- A memo without answers. -/
def fresh (lifetime capacity : Nat) : Memo := ⟨lifetime, capacity, []⟩

/-- Since an entry was put in, its query has got no other answer and the memo was not cleared. -/
def IsLatest (calls : List (Nat × MemoCall)) (e : MemoEntry) : Prop :=
  ∃ before after, calls = before ++ e.insertion :: after
    ∧ ∀ c ∈ after, c.2 ≠ .clear ∧ ∀ answer, c.2 ≠ .insert e.query answer

/-- A memo that had no answers at first, after calls: a map of bounded size, of which answers that
have expired and answers that there was no room for are missing. -/
structure ActsAsMap (lifetime capacity : Nat) (calls : List (Nat × MemoCall)) (m : Memo) :
    Prop where
  size_le : m.size ≤ capacity
  /-- An answer is held from the call that puts it in up to the first one that drops it. -/
  held {e : MemoEntry} : e ∈ m.entries
    ↔ ∃ before after, calls = before ++ e.insertion :: after
      ∧ ((fresh lifetime capacity).run (before ++ [e.insertion])).Keeps e after
  /-- A query gets the answer that is held for it, unless that has expired. -/
  get {now : Nat} {query : RateQuery} {r : RateRecord} : (m.get now query).1 = some r
    ↔ ∃ since, ⟨query, r, since⟩ ∈ m.entries ∧ now < since + lifetime
  /-- It gets no other answer than the one that was put in last, since the memo was cleared. -/
  latest {now : Nat} {query : RateQuery} {r : RateRecord} : (m.get now query).1 = some r →
    ∃ since, IsLatest calls ⟨query, r, since⟩ ∧ now < since + lifetime
  /-- An answer that is put in can be got until it expires. -/
  readable {now later : Nat} {query : RateQuery} {answer : RateRecord} :
    ((m.insert now query answer).get later query).1 = some answer ↔ later < now + lifetime
  /-- An answer that is put in displaces those to other queries only if the memo is full. -/
  spares {now : Nat} {query : RateQuery} {answer : RateRecord} {e : MemoEntry} :
    m.size < capacity → e.query ≠ query →
    (e ∈ (m.insert now query answer).entries ↔ e ∈ m.entries)
  /-- Answers that expire at once are never got, unless the clock is set back. -/
  expired {now : Nat} {query : RateQuery} : lifetime = 0 → (∀ c ∈ calls, c.1 ≤ now) →
    (m.get now query).1 = none
  /-- Every answer that is held is counted once, as one that is good or as one that has expired. -/
  counts {now : Nat} : (m.counts now).total = m.size
    ∧ (m.counts now).valid = m.entries.countP (m.isValid now)
    ∧ (m.counts now).expired = m.entries.countP (!m.isValid now ·)
    ∧ (m.counts now).valid + (m.counts now).expired = m.size

/-- Whatever is done with a memo, it is a map of bounded size. -/
theorem actsAsMap_run {capacity : Nat} (positive : 0 < capacity) (lifetime : Nat)
    (calls : List (Nat × MemoCall)) :
  ActsAsMap lifetime capacity calls ((fresh lifetime capacity).run calls)
  := by
  obtain ⟨lifetime_eq, capacity_eq⟩ := (fresh lifetime capacity).settings_run calls
  have start : (fresh lifetime capacity).IsDistinct := .nil
  have distinct : ((fresh lifetime capacity).run calls).IsDistinct := start.run calls
  have held {e : MemoEntry} : e ∈ ((fresh lifetime capacity).run calls).entries
      ↔ ∃ before after, calls = before ++ e.insertion :: after
        ∧ ((fresh lifetime capacity).run (before ++ [e.insertion])).Keeps e after := by
    rw [start.mem_run_iff]
    simp [fresh]
  have get {now : Nat} {query : RateQuery} {r : RateRecord} :
      (((fresh lifetime capacity).run calls).get now query).1 = some r
        ↔ ∃ since, ⟨query, r, since⟩ ∈ ((fresh lifetime capacity).run calls).entries
          ∧ now < since + lifetime := by
    rw [distinct.get_fst_eq_some_iff, lifetime_eq]
    rfl
  have size : ((fresh lifetime capacity).run calls).size ≤ capacity := by
    apply size_run_le (m := fresh lifetime capacity) positive (Nat.zero_le _)
  generalize (fresh lifetime capacity).run calls = m at *
  constructor
  case size_le => exact size
  case held => exact held
  case get => exact get
  case latest =>
    intro now query r given
    obtain ⟨since, mem, valid⟩ := get.1 given
    obtain ⟨before, after, split, kept⟩ := held.1 mem
    exact ⟨since, ⟨before, after, split, fun c => kept.not_replaced⟩, valid⟩
  case readable =>
    intro now later query answer
    rw [distinct.get_insert_eq_some_iff, lifetime_eq]
    simp [fresh]
  case spares =>
    intro now query answer e room differs
    apply mem_insert_iff_of_room _ differs
    rw [capacity_eq]
    apply room
  case expired =>
    rintro now query rfl past
    rw [Option.eq_none_iff_forall_ne_some]
    intro r given
    obtain ⟨since, mem, valid⟩ := get.1 given
    obtain ⟨before, after, rfl, -⟩ := held.1 mem
    have := past (since, .insert query r) (by simp [MemoEntry.insertion])
    simp only at this
    omega
  case counts =>
    intro now
    rw [counts_eq]
    exact ⟨rfl, rfl, rfl, m.countP_isValid_add now⟩

/-- A memo of two answers is full when one of them is replaced: the other one is dropped. -/
theorem actsAsMap_run_replaced :
  ∃ (dollar yen : RateQuery) (first second third : RateRecord) (calls : List (Nat × MemoCall))
    (m : Memo), 0 < 2
      ∧ calls = [(0, .insert dollar first), (10, .insert yen second), (20, .insert dollar third)]
      ∧ m = (fresh 60000 2).run calls ∧ ActsAsMap 60000 2 calls m
      ∧ (m.get 30 dollar).1 = some third ∧ (m.get 30 yen).1 = none
  := by
  let dollar : RateQuery := ⟨.euro, .ofCode "USD", none, []⟩
  let yen : RateQuery := ⟨.euro, .ofCode "JPY", none, []⟩
  let quote (q : RateQuery) (factor : Decimal) : RateRecord :=
    ⟨⟨"ECB", .historic⟩, q.base, q.term, factor, [], none⟩
  let first := quote dollar ⟨false, 125, 2, by decide, by decide⟩
  let second := quote yen ⟨false, 1503, 1, by decide, by decide⟩
  let third := quote dollar ⟨false, 15, 1, by decide, by decide⟩
  let calls : List (Nat × MemoCall) :=
    [(0, .insert dollar first), (10, .insert yen second), (20, .insert dollar third)]
  refine ⟨dollar, yen, first, second, third, calls, (fresh 60000 2).run calls, by decide, rfl, rfl,
    actsAsMap_run (by decide) 60000 calls, rfl, rfl⟩

end Memo

end CrossRate
