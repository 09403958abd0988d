import CrossRate.Provider.Chain
import Mathlib.Tactic.Use

/-!
# Answers of a chain

A chain passes over the providers that a query does not accept and those that have no rate for
it, whatever their reason (`ChainAccess.PassesOver`). Its answer is that of the first provider
that is left (`firstRate_eq_ok_iff`), and if none is left the plain answer is that there is no
such rate (`firstRate_eq_error_iff`).
-/

namespace CrossRate.ChainAccess

variable {π σ : Type} (access : ChainAccess π σ) (query : RateQuery)

/-- None of some providers has a rate, and asking them changes one state to another. -/
inductive PassesOver : List π → σ → σ → Prop
  | nil (state : σ) : PassesOver [] state state
  /-- The query does not accept the provider, and it is not asked. -/
  | barred {p : π} {rest : List π} {s t : σ} (barred : query.accepts (access.name p) = false)
    (others : PassesOver rest s t) : PassesOver (p :: rest) s t
  /-- The provider is asked and fails. -/
  | failed {p : π} {rest : List π} {e : RateError} {s s' t : σ}
    (accepts : query.accepts (access.name p) = true)
    (failed : access.rate p query s = (.error e, s')) (others : PassesOver rest s' t) :
    PassesOver (p :: rest) s t

variable {access query} {chain : List π} {s t : σ}

/-- Providers that are passed over do not count. -/
theorem PassesOver.firstRate_append {skipped : List π}
    (passed : access.PassesOver query skipped s t) (rest : List π) :
  access.firstRate query (skipped ++ rest) s = access.firstRate query rest t
  := by
  induction passed with
  | nil state => rfl
  | barred barred others ih =>
    rw [List.cons_append, firstRate, barred, if_neg Bool.false_ne_true]
    apply ih
  | failed accepts failed others ih =>
    rw [List.cons_append, firstRate, if_pos accepts, failed]
    apply ih

/-- Either all providers of a chain are passed over, or there is a first one that is not. -/
theorem passesOver_or_exists_first (access : ChainAccess π σ) (query : RateQuery)
    (chain : List π) (s : σ) :
  (∃ t, access.PassesOver query chain s t)
    ∨ ∃ skipped p rest s' r t, chain = skipped ++ p :: rest
        ∧ access.PassesOver query skipped s s' ∧ query.accepts (access.name p) = true
        ∧ access.rate p query s' = (.ok r, t)
  := by
  induction chain generalizing s with
  | nil => exact .inl ⟨s, .nil s⟩
  | cons p chain ih =>
    cases accepts : query.accepts (access.name p) with
    | false =>
      obtain ⟨t, passed⟩ | ⟨skipped, q, rest, s', r, t, rfl, passed, first⟩ := ih s
      · exact .inl ⟨t, .barred accepts passed⟩
      · exact .inr ⟨p :: skipped, q, rest, s', r, t, rfl, .barred accepts passed, first⟩
    | true =>
      rcases rate : access.rate p query s with ⟨e | r, s₁⟩
      · obtain ⟨t, passed⟩ | ⟨skipped, q, rest, s', r, t, rfl, passed, first⟩ := ih s₁
        · exact .inl ⟨t, .failed accepts rate passed⟩
        · exact .inr ⟨p :: skipped, q, rest, s', r, t, rfl, .failed accepts rate passed, first⟩
      · exact .inr ⟨[], p, chain, s, r, s₁, rfl, .nil s, accepts, rate⟩

/-- A chain answers what the first provider answers that is not passed over. -/
theorem firstRate_eq_ok_iff {r : RateRecord} :
  access.firstRate query chain s = (.ok r, t)
    ↔ ∃ skipped p rest s', chain = skipped ++ p :: rest
        ∧ access.PassesOver query skipped s s' ∧ query.accepts (access.name p) = true
        ∧ access.rate p query s' = (.ok r, t)
  := by
  constructor
  · intro answer
    obtain ⟨t', passed⟩ | ⟨skipped, p, rest, s', r', t', rfl, passed, accepts, rate⟩ :=
      passesOver_or_exists_first access query chain s
    · have none := passed.firstRate_append []
      rw [List.append_nil, answer] at none
      simp [firstRate] at none
    · rw [passed.firstRate_append, firstRate, if_pos accepts, rate] at answer
      use skipped, p, rest, s', rfl, passed, accepts, rate.trans answer
  · rintro ⟨skipped, p, rest, s', rfl, passed, accepts, rate⟩
    rw [passed.firstRate_append, firstRate, if_pos accepts, rate]

/-- A chain has no answer if all its providers are passed over, and whatever their reasons are
it says the same. -/
theorem firstRate_eq_error_iff {e : RateError} :
  access.firstRate query chain s = (.error e, t)
    ↔ e = .unavailable query.pair chainName ∧ access.PassesOver query chain s t
  := by
  constructor
  · intro answer
    obtain ⟨t', passed⟩ | ⟨skipped, p, rest, s', r, t', rfl, passed, accepts, rate⟩ :=
      passesOver_or_exists_first access query chain s
    · have none := passed.firstRate_append []
      rw [List.append_nil, answer] at none
      obtain ⟨rfl, rfl⟩ : e = .unavailable query.pair chainName ∧ t = t' := by
        simpa [firstRate] using none
      use rfl, passed
    · rw [passed.firstRate_append, firstRate, if_pos accepts, rate] at answer
      simp at answer
  · rintro ⟨rfl, passed⟩
    have none := passed.firstRate_append []
    rwa [List.append_nil] at none

end CrossRate.ChainAccess
