import CrossRate.Proofs.Decimal.Value
import CrossRate.Proofs.Table.Provenance

/-!
# Factors of answers

The factor of an answer is one, that of a quote, the reciprocal of one, or the product of two
factors. What is in the way of an answer on a day that has all quotes for it is that a reciprocal
or a product is no positive decimal (`PivotQuotes.exists_answerOn_iff`).
-/

namespace CrossRate

namespace Decimal

/-- The reciprocal of a factor, to the digits that are kept of it, if it is a positive decimal. -/
def reciprocal? (x : Decimal) : Option Decimal :=
  (x.inverse?.bind (·.roundSignificant? inverseDigits)).filter isPositive

/-- The product of two factors, if it is a positive decimal. -/
def product? (x y : Decimal) : Option Decimal := (x.mul? y).filter isPositive

end Decimal

/-- The product of the factors of two rates. -/
theorem chainProduct_pair_eq_ok_iff {first second : RateRecord} {factor : Decimal}
    (positive : first.factor.isPositive) :
  chainProduct [first, second] = .ok factor ↔ first.factor.mul? second.factor = some factor
  := by
  simp only [chainProduct, List.foldlM_cons, List.foldlM_nil, Decimal.one_mul? positive]
  cases product : first.factor.mul? second.factor with
  | none => simp [product, bind, Except.bind]
  | some z => simp [product, bind, Except.bind, pure, Except.pure]

/-! ### Inverses -/

/-- The record of the opposite direction, with its factor. -/
def RateRecord.opposed (quote : RateRecord) (factor : Decimal) : RateRecord :=
  { quote with base := quote.term, term := quote.base, factor := factor }

/-- A quote that stands for itself is inverted by the reciprocal of its factor. -/
theorem invert_eq_ok_iff {quote r : RateRecord} (chain : quote.chain = []) :
  invert quote = .ok r
    ↔ ∃ factor, quote.factor.reciprocal? = some factor ∧ r = quote.opposed factor
  := by
  obtain ⟨context, base, term, factor, chain', asOf⟩ := quote
  obtain ⟨context', base', term', factor', chain'', asOf'⟩ := r
  obtain rfl : chain' = [] := chain
  simp only [invert, Decimal.reciprocal?, Option.filter_eq_some_iff, RateRecord.opposed,
    RateRecord.mk.injEq]
  cases found : factor.inverse?.bind (·.roundSignificant? inverseDigits) with
  | none => simp
  | some inverse =>
    simp only [RateDraft.build_eq_ok_iff, RateDraft.ofRecord, RateDraft.mk.injEq,
      Option.some.injEq, RateDraft.checkChain_eq_ok_iff]
    constructor
    · rintro ⟨⟨rfl, rfl, rfl, rfl, rfl, rfl⟩, positive, -⟩
      exact ⟨_, ⟨rfl, positive⟩, rfl, rfl, rfl, rfl, rfl, rfl⟩
    · rintro ⟨_, ⟨rfl, positive⟩, rfl, rfl, rfl, rfl, rfl, rfl⟩
      exact ⟨⟨rfl, rfl, rfl, rfl, rfl, rfl⟩, positive, .inl rfl⟩

/-- A quote that stands for itself cannot be inverted if its factor has no reciprocal. -/
theorem exists_invert_eq_error_iff {quote : RateRecord} (chain : quote.chain = []) :
  (∃ fault, invert quote = .error fault) ↔ quote.factor.reciprocal? = none
  := by
  cases found : quote.factor.reciprocal? with
  | none =>
    cases inverse : invert quote with
    | error fault => simp
    | ok r =>
      obtain ⟨factor, some, -⟩ := (invert_eq_ok_iff chain).1 inverse
      simp [found] at some
  | some factor =>
    have inverse := (invert_eq_ok_iff chain).2 ⟨factor, found, rfl⟩
    simp [inverse]

/-! ### Answers -/

namespace PivotQuotes

/-- The factor of the rate from a currency to the pivot on a day. -/
def factorTo? (quotes : PivotQuotes) (currency : Currency) (day : Date) : Option Decimal :=
  ((quotes.toPivot currency day).toOption.bind id).map RateRecord.factor

/-- The factor of the rate from the pivot to a currency on a day. -/
def factorFrom? (quotes : PivotQuotes) (currency : Currency) (day : Date) : Option Decimal :=
  (quotes.fromPivot currency day).map RateRecord.factor

/-- The factor of the rate of a pair on a day, if every rate that it takes is there and it is a
positive decimal. -/
def factor? (quotes : PivotQuotes) (day : Date) (pair : CurrencyPair) : Option Decimal :=
  if pair.base = quotes.pivot then
    if pair.term = quotes.pivot then some .one else quotes.factorFrom? pair.term day
  else if pair.term = quotes.pivot then quotes.factorTo? pair.base day
  else (quotes.factorTo? pair.base day).bind
    (fun first => (quotes.factorFrom? pair.term day).bind first.product?)

variable {quotes : PivotQuotes} {provider : String} {query : RateQuery} {day : Date}
  {r : RateRecord}

/-- The record that a provider derives from a chain. -/
theorem build_derived_eq_ok_iff {factor : Decimal} {chain : List RateRecord}
    (fits : chain = [] ∨ chainProduct chain = .ok factor) :
  ({ derived query provider day with factor := some factor, chain := chain } : RateDraft).build
      = .ok r
    ↔ factor.isPositive
      ∧ r = ⟨⟨provider, .historic⟩, query.base, query.term, factor, chain, some day⟩
  := by
  obtain ⟨context, base, term, factor', chain', asOf⟩ := r
  simp only [RateDraft.build_eq_ok_iff, derived, RateDraft.ofRecord, RateDraft.mk.injEq,
    RateRecord.mk.injEq, Option.some.injEq, RateDraft.checkChain_eq_ok_iff]
  constructor
  · rintro ⟨⟨rfl, rfl, rfl, rfl, rfl, rfl⟩, positive, -⟩
    exact ⟨positive, rfl, rfl, rfl, rfl, rfl, rfl⟩
  · rintro ⟨positive, rfl, rfl, rfl, rfl, rfl, rfl⟩
    refine ⟨⟨rfl, rfl, rfl, rfl, rfl, rfl⟩, positive, ?_⟩
    obtain rfl | product := fits
    · exact .inl rfl
    · exact .inr ⟨_, product, Decimal.sameValue_self _⟩

/-- The answer for the pivot and itself. -/
theorem answerOn_unit_iff (base : query.base = quotes.pivot) (term : query.term = quotes.pivot) :
  quotes.answerOn provider query day = .ok r
    ↔ r = ⟨⟨provider, .historic⟩, query.base, query.term, .one, [], some day⟩
  := by
  have unit : Decimal.one.isPositive := rfl
  rw [answerOn, if_pos ⟨base, term⟩, mapError_eq_ok_iff]
  apply (build_derived_eq_ok_iff (.inl rfl)).trans
  simp [unit]

/-- An answer for the pivot as term is the rate to it. -/
theorem answerOn_toPivot_iff (base : query.base ≠ quotes.pivot)
    (term : query.term = quotes.pivot) :
  quotes.answerOn provider query day = .ok r ↔ quotes.toPivot query.base day = .ok (some r)
  := by
  rw [answerOn, if_neg (fun sides => base sides.1), if_pos term]
  simp [bind_eq_ok_iff, mapError_eq_ok_iff, orUnavailable_eq_ok_iff]

/-- An answer for the pivot as base is the rate from it. -/
theorem answerOn_fromPivot_iff (base : query.base = quotes.pivot)
    (term : query.term ≠ quotes.pivot) :
  quotes.answerOn provider query day = .ok r ↔ quotes.fromPivot query.term day = some r
  := by
  rw [answerOn, if_neg (fun sides => term sides.2), if_neg term, if_pos base,
    orUnavailable_eq_ok_iff]

/-- An answer for two other currencies is bridged by a rate to the pivot and one from it. -/
theorem answerOn_bridged_iff (base : query.base ≠ quotes.pivot)
    (term : query.term ≠ quotes.pivot) :
  quotes.answerOn provider query day = .ok r
    ↔ ∃ first second factor, quotes.toPivot query.base day = .ok (some first)
        ∧ quotes.fromPivot query.term day = some second
        ∧ chainProduct [first, second] = .ok factor ∧ factor.isPositive
        ∧ r = ⟨⟨provider, .historic⟩, query.base, query.term, factor, [first, second], some day⟩
  := by
  rw [answerOn, if_neg (fun sides => base sides.1), if_neg term, if_neg base]
  simp only [bind_eq_ok_iff, mapError_eq_ok_iff, orUnavailable_eq_ok_iff]
  constructor
  · rintro ⟨_, toPivot, first, rfl, second, fromPivot, factor, product, build⟩
    obtain ⟨positive, rfl⟩ := (build_derived_eq_ok_iff (.inr product)).1 build
    exact ⟨first, second, factor, toPivot, fromPivot, product, positive, rfl⟩
  · rintro ⟨first, second, factor, toPivot, fromPivot, product, positive, rfl⟩
    exact ⟨_, toPivot, first, rfl, second, fromPivot, factor, product,
      (build_derived_eq_ok_iff (.inr product)).2 ⟨positive, rfl⟩⟩

theorem factorTo?_eq_some_iff {currency : Currency} {factor : Decimal} :
  quotes.factorTo? currency day = some factor
    ↔ ∃ r, quotes.toPivot currency day = .ok (some r) ∧ r.factor = factor
  := by
  simp only [factorTo?, Option.map_eq_some_iff, Option.bind_eq_some_iff, toOption_eq_some_iff,
    id_eq, exists_eq_right]

/-- There is an answer on a day exactly if there is a factor for it, which is then its factor. -/
theorem exists_answerOn_iff {factor : Decimal}
    (positive : ∀ first, quotes.toPivot query.base day = .ok (some first) →
      first.factor.isPositive) :
  (∃ r, quotes.answerOn provider query day = .ok r ∧ r.factor = factor)
    ↔ quotes.factor? day query.pair = some factor
  := by
  unfold factor? RateQuery.pair
  by_cases base : query.base = quotes.pivot
  · by_cases term : query.term = quotes.pivot
    · simp [answerOn_unit_iff base term, base, term]
    · simp [answerOn_fromPivot_iff base term, base, term, factorFrom?]
  · by_cases term : query.term = quotes.pivot
    · simp only [answerOn_toPivot_iff base term, if_neg base, if_pos term, factorTo?_eq_some_iff]
    · simp only [answerOn_bridged_iff base term, if_neg base, if_neg term,
        Option.bind_eq_some_iff, factorTo?_eq_some_iff, factorFrom?, Option.map_eq_some_iff,
        Decimal.product?, Option.filter_eq_some_iff]
      constructor
      · rintro ⟨r, ⟨first, second, _, toPivot, fromPivot, product, vanishes, rfl⟩, rfl⟩
        rw [chainProduct_pair_eq_ok_iff (positive first toPivot)] at product
        exact ⟨_, ⟨first, toPivot, rfl⟩, _, ⟨second, fromPivot, rfl⟩, product, vanishes⟩
      · rintro ⟨_, ⟨first, toPivot, rfl⟩, _, ⟨second, fromPivot, rfl⟩, product, greater⟩
        rw [← chainProduct_pair_eq_ok_iff (positive first toPivot)] at product
        exact ⟨_, ⟨first, second, factor, toPivot, fromPivot, product, greater, rfl⟩, rfl⟩

/-- The answer on a day depends on the query by its pair only. -/
theorem answerOn_congr {query' : RateQuery} (same : query.pair = query'.pair) :
  quotes.answerOn provider query day = quotes.answerOn provider query' day
  := by
  obtain ⟨base, term⟩ := CurrencyPair.mk.inj same
  have derived : derived query provider day = derived query' provider day := by
    simp only [PivotQuotes.derived, base, term]
  have orUnavailable : orUnavailable query provider = orUnavailable query' provider := by
    funext answer
    cases answer <;> simp only [PivotQuotes.orUnavailable, same]
  simp only [answerOn, base, term, derived, orUnavailable]

end PivotQuotes

/-! ### Direct tables -/

/-- The rates of a direct table to its pivot are the reciprocals of its quotes. -/
theorem DirectTable.factorTo?_eq {t : DirectTable} {currency : Currency} {day : Date}
    (chains : ∀ quote, t.leaf day currency = some quote → quote.chain = []) :
  t.pivotQuotes.factorTo? currency day
    = (t.leaf day currency).bind (fun quote => quote.factor.reciprocal?)
  := by
  apply Option.ext
  intro factor
  simp only [PivotQuotes.factorTo?_eq_some_iff, toPivot_eq_some_iff, Option.bind_eq_some_iff]
  constructor
  · rintro ⟨r, ⟨quote, leaf, inverse⟩, rfl⟩
    obtain ⟨factor, reciprocal, rfl⟩ := (invert_eq_ok_iff (chains quote leaf)).1 inverse
    exact ⟨quote, leaf, reciprocal⟩
  · rintro ⟨quote, leaf, reciprocal⟩
    exact ⟨quote.opposed factor,
      ⟨quote, leaf, (invert_eq_ok_iff (chains quote leaf)).2 ⟨factor, reciprocal, rfl⟩⟩, rfl⟩

theorem DirectTable.factorFrom?_eq {t : DirectTable} (currency : Currency) (day : Date) :
  t.pivotQuotes.factorFrom? currency day = (t.leaf day currency).map RateRecord.factor
  := rfl

end CrossRate
