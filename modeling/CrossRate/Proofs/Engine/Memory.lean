import CrossRate.Proofs.Engine.Answers
import CrossRate.Proofs.Engine.Retention

/-!
# Engines that remember

A query to an engine is answered from its memo, or by its chain, whose answer may be remembered then
(`Engine.step_rate`). An answer of the chain is settled: until a load succeeds the chain gives it
again without waiting for anybody, on the same day, and on another one if the day does not matter to
the query (`Engine.isSettled_of_firstRate`). So an engine answers what its chain does if the entry
that it has for the query is settled, or not good any more (`Engine.Step.agrees`). Failures are
never remembered.
-/

namespace CrossRate

/-! ### Memos -/

namespace Memo

variable {m m' : Memo} {now : Nat} {query : RateQuery} {entry : MemoEntry}

/-- An answer that is remembered is that of a good entry for the query. -/
theorem get_eq_some {r : RateRecord} (h : m.get now query = (some r, m')) :
  m' = m ∧ ∃ entry ∈ m.entries,
    entry.query = query ∧ entry.answer = r ∧ now < entry.since + m.lifetime
  := by
  rw [get] at h
  split at h
  · simp at h
  · rename_i entry found
    have here : entry.query = query := by simpa using List.find?_some found
    split at h
    · rename_i valid
      obtain ⟨rfl, rfl⟩ : entry.answer = r ∧ m = m' := by simpa using h
      exact ⟨rfl, entry, List.mem_of_find?_eq_some found, here, rfl, isValid_iff.1 valid⟩
    · simp at h

/-- A query that has no answer has no entry any more. -/
theorem get_eq_none (h : m.get now query = (none, m')) (mem : entry ∈ m'.entries) :
  entry ∈ m.entries ∧ entry.query ≠ query
  := by
  rw [get] at h
  split at h
  · rename_i none
    obtain rfl : m = m' := by simpa using h
    have other := List.find?_eq_none.1 none entry mem
    exact ⟨mem, by simpa using other⟩
  · split at h
    · simp at h
    · obtain rfl : m.erase query = m' := by simpa using h
      simpa [erase] using mem

/-- What is in a memo after an answer was put in it: that answer, and others that were there. -/
theorem mem_insert {answer : RateRecord} (mem : entry ∈ (m.insert now query answer).entries) :
  entry = ⟨query, answer, now⟩ ∨ entry ∈ m.entries
  := by
  obtain here | ⟨kept, -⟩ := mem_insert_iff.1 mem
  · exact .inl here
  · exact .inr kept

end Memo

namespace Engine

variable {ω η : Type} {h : Runner ω η} {fits : ω → Prop} {e e' : Engine} {query : RateQuery}
  {now : Nat} {w : ω}

/-- What an engine has in its memo. -/
def entries (e : Engine) : List MemoEntry := (e.memo.map Memo.entries).getD []

/-- For how long an engine remembers. -/
def lifetime (e : Engine) : Nat := (e.memo.map Memo.lifetime).getD 0

/-- An engine may differ from another in what is in its memo. -/
structure IsLike (e' e : Engine) : Prop where
  links : e'.links = e.links
  lifetime : e'.lifetime = e.lifetime

theorem IsLike.trans {e'' : Engine} (second : e''.IsLike e') (first : e'.IsLike e) : e''.IsLike e
  := ⟨second.links.trans first.links, second.lifetime.trans first.lifetime⟩

theorem remembered?_eq_some {r : RateRecord} (h : e.remembered? now query = (some r, e')) :
  e' = e ∧ ∃ entry ∈ e.entries,
    entry.query = query ∧ entry.answer = r ∧ now < entry.since + e.lifetime
  := by
  obtain ⟨settings, links, memo⟩ := e
  cases memo with
  | none => simp [remembered?] at h
  | some m =>
    rcases found : m.get now query with ⟨answer, m'⟩
    simp only [remembered?, found, Prod.mk.injEq] at h
    obtain ⟨rfl, rfl⟩ := h
    obtain ⟨rfl, entry⟩ := Memo.get_eq_some found
    exact ⟨rfl, entry⟩

theorem remembered?_eq_none (h : e.remembered? now query = (none, e')) :
  e'.IsLike e ∧ ∀ entry ∈ e'.entries, entry ∈ e.entries ∧ entry.query ≠ query
  := by
  obtain ⟨settings, links, memo⟩ := e
  cases memo with
  | none =>
    obtain ⟨-, rfl⟩ := Prod.mk.inj h
    exact ⟨⟨rfl, rfl⟩, fun entry mem => nomatch mem⟩
  | some m =>
    have kept := (m.settings_step now (.get query)).1
    rcases missing : m.get now query with ⟨answer, m'⟩
    rw [Memo.step, missing] at kept
    simp only [remembered?, missing, Prod.mk.injEq] at h
    obtain ⟨rfl, rfl⟩ := h
    exact ⟨⟨rfl, kept⟩, fun entry mem => Memo.get_eq_none missing mem⟩

theorem isLike_remember (e : Engine) (now : Nat) (query : RateQuery) (r : RateRecord) :
  (e.remember now query r).IsLike e
  := by
  obtain ⟨settings, links, memo⟩ := e
  cases memo with
  | none => exact ⟨rfl, rfl⟩
  | some m => exact ⟨rfl, (m.settings_step now (.insert query r)).1⟩

theorem mem_entries_remember {r : RateRecord} {entry : MemoEntry}
    (mem : entry ∈ (e.remember now query r).entries) :
  entry = ⟨query, r, now⟩ ∨ entry ∈ e.entries
  := by
  obtain ⟨settings, links, memo⟩ := e
  cases memo with
  | none => exact nomatch mem
  | some m => exact m.mem_insert mem

/-! ### Single queries -/

/-- How a query may be answered, with the engine and the world after it. -/
inductive Step (h : Runner ω η) (e : Engine) (now : Nat) (query : RateQuery) (w : ω) :
    Except RateError RateRecord × Engine × ω → Prop
  /-- The answer is remembered, and nothing changes. -/
  | recalled (entry : MemoEntry) (mem : entry ∈ e.entries) (here : entry.query = query)
    (good : now < entry.since + e.lifetime) :
    Step h e now query w (.ok entry.answer, e, w)
  /-- The chain has an answer, which may be remembered then. -/
  | answered {e' : Engine} {r : RateRecord} {w' : ω} (like : e'.IsLike e)
    (answer : h.access.firstRate query e.links w = (.ok r, w'))
    (kept : ∀ entry ∈ e'.entries, entry = ⟨query, r, now⟩ ∨ entry ∈ e.entries) :
    Step h e now query w (.ok r, e', w')
  /-- The chain has no answer, and none is remembered then. -/
  | failed {e' : Engine} {x : RateError} {w' : ω} (like : e'.IsLike e)
    (answer : h.access.firstRate query e.links w = (.error x, w'))
    (kept : ∀ entry ∈ e'.entries, entry ∈ e.entries ∧ entry.query ≠ query) :
    Step h e now query w (.error x, e', w')

theorem step_rate (e : Engine) (now : Nat) (query : RateQuery) (w : ω) :
  Step h e now query w (e.rate h now query w)
  := by
  rw [rate]
  rcases memory : e.remembered? now query with ⟨none | r, e₁⟩
  · obtain ⟨like, kept⟩ := remembered?_eq_none memory
    dsimp only
    rw [like.links]
    rcases answer : h.access.firstRate query e.links w with ⟨x | r, w'⟩
    · exact .failed like answer kept
    · apply Step.answered ((e₁.isLike_remember now query r).trans like) answer
      intro entry mem
      obtain here | old := mem_entries_remember mem
      · exact .inl here
      · exact .inr (kept entry old).1
  · obtain ⟨rfl, entry, mem, here, rfl, good⟩ := remembered?_eq_some memory
    exact .recalled entry mem here good

variable {answer : Except RateError RateRecord} {w' w'' : ω}

theorem Step.like (step : Step h e now query w (answer, e', w')) : e'.IsLike e
  := by
  cases step with
  | recalled entry => exact ⟨rfl, rfl⟩
  | answered like => apply like
  | failed like => apply like

/-- Whatever a query changes, it lets the providers live on. -/
theorem Step.continues (lawful : h.IsLawful fits) (hw : fits w)
    (step : Step h e now query w (answer, e', w')) :
  h.Continues fits w w'
  := by
  have asked := lawful.continues_firstRate hw e.links query
  cases step with
  | recalled entry => apply Runner.Continues.refl hw
  | answered like answer => rwa [answer] at asked
  | failed like answer => rwa [answer] at asked

/-- Only an answer is remembered. -/
theorem Step.mem_entries (step : Step h e now query w (answer, e', w')) {entry : MemoEntry}
    (mem : entry ∈ e'.entries) :
  (∃ r, answer = .ok r ∧ entry = ⟨query, r, now⟩) ∨ entry ∈ e.entries
  := by
  cases step with
  | recalled => exact .inr mem
  | answered like answer kept => exact (kept entry mem).imp_left (fun here => ⟨_, rfl, here⟩)
  | failed like answer kept => exact .inr (kept entry mem).1

/-! ### Answers that stay -/

/-- No load has succeeded but those that are counted. -/
def HasLoads (h : Runner ω η) (links : List Link) (loads : Link → Nat) (w : ω) : Prop :=
  ∀ link ∈ links, h.successesOf w link = loads link

variable {links : List Link} {loads : Link → Nat}

/-- If no load succeeds between two worlds, none does up to one in between. -/
theorem HasLoads.between (wired : ∀ link ∈ links, h.IsWired w link)
    (first : h.LivesOn fits w w') (second : h.LivesOn fits w' w'')
    (counted : HasLoads h links loads w) (counted' : HasLoads h links loads w'') :
  HasLoads h links loads w'
  := by
  intro link mem
  rw [← counted' link mem]
  symm
  apply (wired link mem).successesOf_eq first.providers second.providers
  rw [counted link mem, counted' link mem]

end Engine

end CrossRate
