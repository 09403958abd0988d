import CrossRate.Proofs.Table.Selection

/-!
# Reversing a rate twice

The two directions of a pair are quoted on the same days of a direct table, so the opposite of a
record is given on the day of the record, unless a factor that it takes is no positive decimal
(`DirectTable.IsOutOfRange`). The opposite of the opposite is the record itself
(`FeedProvider.undoes_opposite`), though its factor is not used for that: it is derived from the
same quotes again.
-/

namespace CrossRate

namespace DirectTable

variable {t : DirectTable} {provider : String} {day : Date} {pair : CurrencyPair}

/-- The rate of a pair is not expressed by a positive decimal: the quote of its base has no
reciprocal, or the reciprocal has no product with the quote of its term. -/
inductive IsOutOfRange (t : DirectTable) (day : Date) (pair : CurrencyPair) : Prop
  | reciprocal (quote : RateRecord) (base : pair.base ≠ t.pivot)
    (leaf : t.leaf day pair.base = some quote) (none : quote.factor.reciprocal? = none)
  | product (quote quote' : RateRecord) (inverse : Decimal) (base : pair.base ≠ t.pivot)
    (term : pair.term ≠ t.pivot) (leaf : t.leaf day pair.base = some quote)
    (leaf' : t.leaf day pair.term = some quote')
    (reciprocal : quote.factor.reciprocal? = some inverse)
    (none : inverse.product? quote'.factor = none)

/-- What keeps a pair that is quoted on a day from having a factor there. -/
theorem factor?_eq_none_iff (own : t.IsOf provider)
    (quoted : (RateTable.direct t).Quotes day pair) :
  t.pivotQuotes.factor? day pair = none ↔ t.IsOutOfRange day pair
  := by
  obtain ⟨-, base', term'⟩ := quoted
  have chains (quote : RateRecord) (leaf : t.leaf day pair.base = some quote) :
      quote.chain = [] := by
    obtain ⟨today, quote⟩ := own leaf
    apply quote.chain
  have pivot : t.pivotQuotes.pivot = t.pivot := rfl
  rw [PivotQuotes.factor?, pivot, factorTo?_eq chains, factorFrom?_eq]
  by_cases base : pair.base = t.pivot
  · have inRange : ¬ t.IsOutOfRange day pair := by
      intro out
      cases out with
      | reciprocal _ other => exact other base
      | product _ _ _ other => exact other base
    by_cases term : pair.term = t.pivot
    · simp [base, term, inRange]
    · obtain ⟨quote, leaf⟩ := Option.isSome_iff_exists.1 (term' term)
      simp [base, term, leaf, inRange]
  · obtain ⟨quote, leaf⟩ := Option.isSome_iff_exists.1 (base' base)
    cases reciprocal : quote.factor.reciprocal? with
    | none => simp [base, leaf, reciprocal, IsOutOfRange.reciprocal quote base leaf reciprocal]
    | some inverse =>
      by_cases term : pair.term = t.pivot
      · have inRange : ¬ t.IsOutOfRange day pair := by
          intro out
          cases out with
          | reciprocal _ _ leaf' none => simp_all
          | product _ _ _ _ other => exact other term
        simp [base, term, leaf, reciprocal, inRange]
      · obtain ⟨quote', leaf'⟩ := Option.isSome_iff_exists.1 (term' term)
        simp only [if_neg base, if_neg term, leaf, leaf', Option.bind_some, Option.map_some,
          reciprocal]
        constructor
        · intro none
          exact .product quote quote' inverse base term leaf leaf' reciprocal none
        · intro out
          cases out with
          | reciprocal _ _ leaf₀ none => simp_all
          | product _ _ _ _ _ leaf₀ leaf₁ reciprocal₀ none => simp_all

/-- The answer for a pair that is quoted on a day, if there is one. -/
theorem exists_answerOn_eq_error_iff {query : RateQuery} (own : t.IsOf provider)
    (quoted : (RateTable.direct t).Quotes day query.pair) :
  (∃ fault, t.pivotQuotes.answerOn provider query day = .error (.invalidRate fault))
    ↔ t.IsOutOfRange day query.pair
  := by
  have positive (first : RateRecord)
      (toPivot : t.pivotQuotes.toPivot query.base day = .ok (some first)) :
      first.factor.isPositive := by
    obtain ⟨today, quote⟩ := (IsOf.pivotQuotes own).toPivot toPivot
    apply quote.positive
  rw [← factor?_eq_none_iff own quoted]
  cases answer : t.pivotQuotes.answerOn provider query day with
  | ok r =>
    have factor := (PivotQuotes.exists_answerOn_iff positive).1 ⟨r, answer, rfl⟩
    simp [factor]
  | error e =>
    obtain ⟨-, lacks⟩ | ⟨fault, rfl⟩ := PivotQuotes.answerOn_eq_error answer
    · exact absurd lacks (quotes_iff.1 quoted).2
    · refine iff_of_true ⟨fault, rfl⟩ ?_
      apply Option.eq_none_iff_forall_ne_some.2
      intro factor some
      obtain ⟨r, ok, -⟩ : ∃ r, t.pivotQuotes.answerOn provider query day = .ok r
          ∧ r.factor = factor := (PivotQuotes.exists_answerOn_iff positive).2 some
      simp [answer] at ok

end DirectTable

namespace FeedProvider

variable {p : FeedProvider} {today now : Date} {r : RateRecord} {t : DirectTable} {day : Date}

/-- The opposite of a record of a day of a direct table is the answer on that day. -/
theorem opposite_eq_answerOn (table : p.table = .direct t) (released : p.gate ≠ .pending)
    (asOf : r.asOf = some day) (has : t.hasDay day = true) :
  p.opposite now r = t.pivotQuotes.answerOn p.name (p.reversal r) day
  := by
  rw [opposite_eq_resolve released, table]
  apply DirectTable.resolve_of_hasDay has asOf

/-- A provider is asked for the opposite of a record and, later, for the opposite of that. The
first is on the day of the record or out of range, and the second is the record itself. -/
structure Undoes (p q : FeedProvider) (now later : Date) (r : RateRecord) : Prop where
  /-- The opposite is given, or is out of range. -/
  inRange {e : RateError} : p.opposite now r = .error e → ∃ fault, e = .invalidRate fault
  /-- It is out of range exactly if a factor that it takes is. -/
  outOfRange_iff : (∃ fault, p.opposite now r = .error (.invalidRate fault))
    ↔ ∃ t day, p.table = .direct t ∧ r.asOf = some day ∧ t.IsOutOfRange day r.pair.inverse
  /-- The opposite is for the day of the record. -/
  asOf {r' : RateRecord} : p.opposite now r = .ok r' → r'.asOf = r.asOf
  /-- The opposite of the opposite is the record. -/
  back {r' : RateRecord} : p.opposite now r = .ok r' → q.opposite later r' = .ok r

/-- A provider that expects direct tables answers from one. -/
theorem IsConsistent.exists_direct {query : RateQuery} (consistent : p.IsConsistent)
    (direct : p.settings.shape.layout = .direct) (answered : (p.rate today query).1 = .ok r) :
  ∃ t, p.table = .direct t
  := by
  have answer := answer_of_rate answered
  have some : p.table ≠ .empty := by
    intro empty
    simp [empty, RateTable.resolve] at answer
  exact RateTable.exists_direct_of_shape? (consistent.shape some) direct

/-- A record that was answered by a direct table is the answer on its day. -/
theorem exists_answerOn_of_rate {query : RateQuery} (own : p.table.IsOf p.name)
    (table : p.table = .direct t) (answered : (p.rate today query).1 = .ok r) :
  ∃ day, r.IsFrom p.name day query.pair ∧ t.pivotQuotes.answerOn p.name query day = .ok r
    ∧ (RateTable.direct t).Quotes day query.pair
  := by
  have answer := answer_of_rate answered
  rw [table] at answer own
  obtain ⟨day, found, answer⟩ := PivotQuotes.bridge_eq_ok_iff.1 answer
  have covers : t.pivotQuotes.covers day query.base query.term = true := by
    simpa using List.find?_some found
  use day, (DirectTable.IsOf.pivotQuotes own).answerOn answer, answer
  exact DirectTable.quotes_iff.2 ⟨covers, PivotQuotes.not_lacks_of_answerOn answer⟩

/-- While the direct table of a provider is the same, reversing a record that it has answered and
reversing the opposite gives back the record. -/
theorem undoes_opposite (settings : ProviderSettings) (format : FeedFormat)
    (direct : settings.shape.layout = .direct)
    (earlier between after : List (Date × ProviderEvent)) (today now later : Date)
    (query : RateQuery) {p q s : FeedProvider} {r : RateRecord}
    (begun : p = (fresh settings format).live earlier)
    (answered : (p.rate today query).1 = .ok r)
    (continued : q = p.live between) (kept : q.table = p.table)
    (continued' : s = q.live after) (kept' : s.table = p.table) :
  q.Undoes s now later r
  := by
  have consistent : p.IsConsistent := by
    rw [begun]
    apply (isConsistent_fresh settings format).live
  have released := gate_ne_pending_of_rate answered
  have releasedq : q.gate ≠ .pending := by
    rw [continued, (precedes_live between).gate released]
    apply released
  have releaseds : s.gate ≠ .pending := by
    rw [continued', (precedes_live after).gate releasedq]
    apply releasedq
  have nameq : q.name = p.name := by
    rw [continued, FeedProvider.name, (sameFeed_live between).1]
    rfl
  have names : s.name = p.name := by
    rw [← nameq, continued', FeedProvider.name, (sameFeed_live after).1]
    rfl
  have expected : p.settings = settings := by
    rw [begun]
    apply (sameFeed_live earlier).1
  obtain ⟨t, table⟩ := consistent.exists_direct (expected ▸ direct) answered
  obtain ⟨day, made, answer, quoted⟩ := exists_answerOn_of_rate consistent.isOf table answered
  have own : t.IsOf p.name := by
    have own := consistent.isOf
    rwa [table] at own
  have inverse : (RateTable.direct t).Quotes day r.pair.inverse := by
    rw [made.pair]
    exact DirectTable.quotes_inverse_iff.2 quoted
  have opposite : q.opposite now r = t.pivotQuotes.answerOn p.name (q.reversal r) day := by
    rw [← nameq]
    apply opposite_eq_answerOn (kept.trans table) releasedq made.asOf quoted.1
  constructor
  case inRange =>
    intro e h
    rw [opposite] at h
    obtain ⟨-, lacks⟩ | outOfRange := PivotQuotes.answerOn_eq_error h
    · exact absurd lacks (DirectTable.quotes_iff.1 inverse).2
    · exact outOfRange
  case outOfRange_iff =>
    have out : (∃ fault, t.pivotQuotes.answerOn p.name (q.reversal r) day
          = .error (.invalidRate fault)) ↔ t.IsOutOfRange day r.pair.inverse :=
      DirectTable.exists_answerOn_eq_error_iff own inverse
    rw [opposite]
    apply out.trans
    constructor
    · intro out
      exact ⟨t, day, kept.trans table, made.asOf, out⟩
    · rintro ⟨t', day', table', asOf, out⟩
      obtain rfl : t = t' := RateTable.direct.inj (table.symm.trans (kept.symm.trans table'))
      obtain rfl : day = day' := Option.some.inj (made.asOf.symm.trans asOf)
      exact out
  case asOf =>
    intro r' h
    rw [opposite] at h
    have made' := (DirectTable.IsOf.pivotQuotes own).answerOn h
    rw [made'.asOf, made.asOf]
  case back =>
    intro r' h
    rw [opposite] at h
    have made' := (DirectTable.IsOf.pivotQuotes own).answerOn h
    have same : (s.reversal r').pair = query.pair := by
      rw [← made.pair]
      exact congrArg CurrencyPair.inverse made'.pair
    rw [opposite_eq_answerOn (kept'.trans table) releaseds made'.asOf quoted.1, names,
      PivotQuotes.answerOn_congr same]
    apply answer

/-- A bridged record that was asked for two days late is reversed, and reversed again after a load
that has failed. -/
theorem undoes_opposite_late :
  ∃ (p q s : FeedProvider) (today now later : Date) (query : RateQuery) (r r' : RateRecord),
    p = (fresh ⟨"ECB", "ecb", ⟨.euro, .direct⟩, .background, 30⟩ .referenceRates).live
        [(today, .payload (Text.encode
          ("<Cube><Cube time=\"2024-01-03\"><Cube currency=\"USD\" rate=\"1.25\"/>"
            ++ "<Cube currency=\"JPY\" rate=\"150.3\"/></Cube></Cube>")))]
      ∧ q = p.live [(now, .failed "refused")] ∧ s = q.live [(later, .failed "refused")]
      ∧ query = ⟨.ofCode "USD", .ofCode "JPY", some today, []⟩
      ∧ (p.rate today query).1 = .ok r ∧ r.asOf ≠ some today
      ∧ q.opposite now r = .ok r' ∧ r'.asOf = r.asOf ∧ s.opposite later r' = .ok r
  := by
  let today : Date := ⟨739195, by decide, by decide⟩
  let now : Date := ⟨739196, by decide, by decide⟩
  let later : Date := ⟨739197, by decide, by decide⟩
  let p := (fresh ⟨"ECB", "ecb", ⟨.euro, .direct⟩, .background, 30⟩ .referenceRates).live
    [(today, .payload (Text.encode
      ("<Cube><Cube time=\"2024-01-03\"><Cube currency=\"USD\" rate=\"1.25\"/>"
        ++ "<Cube currency=\"JPY\" rate=\"150.3\"/></Cube></Cube>")))]
  let q := p.live [(now, .failed "refused")]
  let query : RateQuery := ⟨.ofCode "USD", .ofCode "JPY", some today, []⟩
  have reversed : ((p.rate today query).1.toOption.bind (fun r =>
      if r.asOf = some today then none else (q.opposite now r).toOption)).isSome = true := by
    decide +kernel
  obtain ⟨r', hr'⟩ := Option.isSome_iff_exists.1 reversed
  obtain ⟨r, answered, opposite⟩ := Option.bind_eq_some_iff.1 hr'
  rw [toOption_eq_some_iff] at answered
  rw [Option.ite_none_left_eq_some, toOption_eq_some_iff] at opposite
  have undoes := undoes_opposite _ _ rfl _ [(now, .failed "refused")] [(later, .failed "refused")]
    today now later query rfl answered rfl rfl rfl rfl
  use p, q, q.live [(later, .failed "refused")], today, now, later, query, r, r', rfl, rfl, rfl, rfl
  exact ⟨answered, opposite.1, opposite.2, undoes.asOf opposite.2, undoes.back opposite.2⟩

end FeedProvider

end CrossRate
