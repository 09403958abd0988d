import CrossRate.Proofs.Rate.Quote

/-!
# Records up to the kinds for some days

How fresh a rate is said to be, its kind, depends on what day it is. `RateRecord.blurred` forgets
the kinds for some days: records become the same by it if they differ in the kinds for these days
at most (`RateRecord.blurred_eq_blurred_iff`). Nothing that is made of records looks at their kinds,
so it is the same whether they are forgotten before or after: drafts (`RateDraft.build_blurred`),
inverses (`invert_blurred`) and products (`chainProduct_map_blurred`).
-/

namespace CrossRate

/-- A result with a function applied to what it gives and another one to its error. -/
def mapBoth {ε δ α β : Type} (f : ε → δ) (g : α → β) : Except ε α → Except δ β
  | .ok a => .ok (g a)
  | .error e => .error (f e)

/-- Who gives a rate, and its kind unless that is forgotten: all rates for the days in question
count as history. -/
def RateContext.blurred (days : List Date) (asOf : Option Date) (c : RateContext) : RateContext :=
  if asOf.any (· ∈ days) then { c with kind := .historic } else c

theorem RateContext.blurred_eq_blurred_iff {days : List Date} {asOf : Option Date}
    {c c' : RateContext} :
  c.blurred days asOf = c'.blurred days asOf
    ↔ c.provider = c'.provider ∧ (c.kind = c'.kind ∨ ∃ day ∈ days, asOf = some day)
  := by
  obtain ⟨provider, kind⟩ := c
  obtain ⟨provider', kind'⟩ := c'
  rw [blurred, blurred]
  cases asOf with
  | none => simp
  | some day => by_cases here : day ∈ days <;> simp [here]

/-! ### Records -/

namespace RateRecord

mutual

/-- A record with the kinds for some days forgotten. -/
def blurred (days : List Date) : RateRecord → RateRecord
  | ⟨context, base, term, factor, chain, asOf⟩ =>
    ⟨context.blurred days asOf, base, term, factor, blurredChain days chain, asOf⟩

/-- The records of a chain with the kinds for some days forgotten. -/
def blurredChain (days : List Date) : List RateRecord → List RateRecord
  | [] => []
  | r :: rest => blurred days r :: blurredChain days rest

end

variable {days : List Date} {r s : RateRecord}

theorem blurredChain_eq_map (chain : List RateRecord) :
  blurredChain days chain = chain.map (·.blurred days)
  := by
  induction chain with
  | nil => rfl
  | cons r rest ih => rw [blurredChain, ih, List.map_cons]

theorem blurred_eq (days : List Date) (r : RateRecord) :
  r.blurred days
    = { r with
        context := r.context.blurred days r.asOf
        chain := r.chain.map (·.blurred days) }
  := by
  cases r
  rw [blurred, blurredChain_eq_map]

@[simp]
theorem base_blurred : (r.blurred days).base = r.base
  := by rw [blurred_eq]

@[simp]
theorem term_blurred : (r.blurred days).term = r.term
  := by rw [blurred_eq]

@[simp]
theorem factor_blurred : (r.blurred days).factor = r.factor
  := by rw [blurred_eq]

@[simp]
theorem asOf_blurred : (r.blurred days).asOf = r.asOf
  := by rw [blurred_eq]

/-- Records become the same if they differ, themselves and in their chains, in the kinds for the
days in question at most. -/
theorem blurred_eq_blurred_iff :
  r.blurred days = s.blurred days
    ↔ r.provider = s.provider ∧ (r.kind = s.kind ∨ ∃ day ∈ days, r.asOf = some day)
      ∧ r.pair = s.pair ∧ r.factor = s.factor ∧ r.asOf = s.asOf
      ∧ r.chain.map (·.blurred days) = s.chain.map (·.blurred days)
  := by
  obtain ⟨⟨provider, kind⟩, base, term, factor, chain, asOf⟩ := r
  obtain ⟨⟨provider', kind'⟩, base', term', factor', chain', asOf'⟩ := s
  rw [blurred_eq, blurred_eq days ⟨⟨provider', kind'⟩, base', term', factor', chain', asOf'⟩]
  simp only [RateRecord.mk.injEq, RateRecord.provider, RateRecord.kind, RateRecord.pair,
    CurrencyPair.mk.injEq]
  constructor
  · rintro ⟨context, rfl, rfl, rfl, chain, rfl⟩
    obtain ⟨provider, kind⟩ := RateContext.blurred_eq_blurred_iff.1 context
    exact ⟨provider, kind, ⟨rfl, rfl⟩, rfl, rfl, chain⟩
  · rintro ⟨provider, kind, ⟨rfl, rfl⟩, rfl, rfl, chain⟩
    exact ⟨RateContext.blurred_eq_blurred_iff.2 ⟨provider, kind⟩, rfl, rfl, rfl, chain, rfl⟩

end RateRecord

/-! ### Drafts -/

/-- The product of the factors of a chain has nothing to do with kinds. -/
theorem chainProduct_map_blurred (days : List Date) (chain : List RateRecord) :
  chainProduct (chain.map (·.blurred days)) = chainProduct chain
  := by
  rw [chainProduct, List.foldlM_map]
  simp only [RateRecord.factor_blurred]
  rfl

theorem eq_of_chainProduct_eq_error {chain : List RateRecord} {fault : InvalidRate}
    (h : chainProduct chain = .error fault) :
  fault = .productOverflows
  := by
  rw [chainProduct] at h
  generalize Decimal.one = product at h
  induction chain generalizing product with
  | nil => cases h
  | cons r rest ih =>
    rw [List.foldlM_cons, bind_eq_error_iff] at h
    obtain here | ⟨product', -, below⟩ := h
    · split at here
      · cases here
      · cases here
        rfl
    · apply ih product' below

/-- What is wrong with a rate, with the kinds for some days forgotten. -/
def InvalidRate.blurred (days : List Date) : InvalidRate → InvalidRate
  | .notInvertible r => .notInvertible (r.blurred days)
  | fault => fault

namespace RateDraft

/-- A draft with the kinds for some days forgotten. -/
def blurred (days : List Date) (d : RateDraft) : RateDraft :=
  { d with
    context := d.context.map (·.blurred days d.asOf)
    chain := d.chain.map (·.blurred days) }

theorem blurred_ofRecord (days : List Date) (r : RateRecord) :
  (ofRecord r).blurred days = ofRecord (r.blurred days)
  := by
  rw [RateRecord.blurred_eq]
  rfl

variable {days : List Date} {d : RateDraft}

theorem checkChain_map_blurred {pair : CurrencyPair} {factor : Decimal} {chain : List RateRecord} :
  checkChain pair factor (chain.map (·.blurred days)) = checkChain pair factor chain
  := by rw [checkChain, chainProduct_map_blurred, List.isEmpty_map, checkChain]

/-- That a factor does not fit a chain has nothing to do with kinds. -/
theorem blurred_of_checkChain_eq_error {pair : CurrencyPair} {factor : Decimal}
    {chain : List RateRecord} {fault : InvalidRate} (h : checkChain pair factor chain = .error fault) :
  fault.blurred days = fault
  := by
  rw [checkChain] at h
  split at h
  · cases h
  · split at h
    · rename_i overflows
      obtain rfl := eq_of_chainProduct_eq_error overflows
      cases h
      rfl
    · split at h
      · cases h
      · cases h
        rfl

/-- Forgetting kinds and building commute. -/
theorem build_blurred (days : List Date) (d : RateDraft) :
  (d.blurred days).build = mapBoth (·.blurred days) (·.blurred days) d.build
  := by
  obtain ⟨_ | context, base, term, factor, chain, asOf⟩ := d
  · rfl
  obtain _ | base := base
  · rfl
  obtain _ | term := term
  · rfl
  obtain _ | factor := factor
  · rfl
  simp only [blurred, build, Option.map_some, checkChain_map_blurred]
  split
  · cases fits : checkChain ⟨base, term⟩ factor chain with
    | ok => rw [mapBoth, RateRecord.blurred_eq]
    | error fault => rw [mapBoth, blurred_of_checkChain_eq_error fits]
  · rfl

end RateDraft

/-- Forgetting kinds and inverting commute. -/
theorem invert_blurred (days : List Date) (quote : RateRecord) :
  invert (quote.blurred days) = mapBoth (·.blurred days) (·.blurred days) (invert quote)
  := by
  rw [invert, RateRecord.factor_blurred, invert]
  split
  · rfl
  · rename_i factor _
    rw [← RateDraft.build_blurred, ← RateDraft.blurred_ofRecord, RateRecord.term_blurred,
      RateRecord.base_blurred]
    rfl

/-! ### Quotes -/

/-- A quote is one of the history once the kinds for the day on which it was read are forgotten. -/
theorem FeedReader.blurred_record {reader : FeedReader} {days : List Date}
    (today : reader.today ∈ days) (day : Date) (pair : CurrencyPair) (factor : Decimal) :
  (reader.record day pair factor).blurred days
    = ⟨⟨reader.provider, .historic⟩, pair.base, pair.term, factor, [], some day⟩
  := by
  have historic : (reader.contextOn day).blurred days (some day) = ⟨reader.provider, .historic⟩ := by
    rw [contextOn, RateContext.blurred, Option.any_some]
    by_cases forgotten : day ∈ days
    · simp [forgotten]
    · -- A quote for a day that is not forgotten is not for today, so it is history anyway.
      have other : day ≠ reader.today := by
        rintro rfl
        apply forgotten today
      simp [forgotten, other]
  rw [record, RateRecord.blurred, historic]
  rfl

end CrossRate
