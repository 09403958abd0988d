import CrossRate.Proofs.Rate.Accuracy
import CrossRate.Proofs.Table.Selection

/-!
# Tables with quotes in range

If the quotes of a table are neither too small nor too great, no rate is out of range: a query has
an answer exactly if its resolution day has all quotes for it (`RateTable.resolvesInRange`). The
answers of a direct table are accurate (`DirectTable.exists_resolve_isNear`), so that the rates of
the two directions of a pair are nearly inverse to each other
(`DirectTable.exists_resolve_reversed`).
-/

namespace CrossRate

/-! ### No rate is out of range -/

namespace PivotQuotes

/-- All rates that a table gives to and from its pivot are in range. -/
structure AreWithin (quotes : PivotQuotes) (n : ℕ) : Prop where
  toPivot {currency : Currency} {day : Date} {r : RateRecord} :
    quotes.toPivot currency day = .ok (some r) → r.factor.IsWithin n
  fromPivot {currency : Currency} {day : Date} {r : RateRecord} :
    quotes.fromPivot currency day = some r → r.factor.IsWithin n
  /-- Every quote has an opposite. -/
  inverts {currency : Currency} {day : Date} {fault : InvalidRate} :
    quotes.toPivot currency day ≠ .error fault

variable {quotes : PivotQuotes} {provider : String} {query : RateQuery} {day today : Date}
  {table : RateTable}

/-- A day with all quotes that the query needs answers it. -/
theorem AreWithin.exists_answerOn (within : quotes.AreWithin 13)
    (quoted : ¬ quotes.Lacks day query.pair) :
  ∃ r, quotes.answerOn provider query day = .ok r
  := by
  have toPivot (base : query.base ≠ quotes.pivot) :
      ∃ first, quotes.toPivot query.base day = .ok (some first) := by
    cases answer : quotes.toPivot query.base day with
    | error fault => exact absurd answer within.inverts
    | ok first =>
      cases first with
      | none => exact absurd (.inl ⟨base, answer⟩) quoted
      | some first => exact ⟨first, rfl⟩
  have fromPivot (term : query.term ≠ quotes.pivot) :
      ∃ second, quotes.fromPivot query.term day = some second := by
    rw [← Option.ne_none_iff_exists']
    exact fun none => quoted (.inr ⟨term, none⟩)
  by_cases base : query.base = quotes.pivot
  · by_cases term : query.term = quotes.pivot
    · exact ⟨_, (answerOn_unit_iff base term).2 rfl⟩
    · obtain ⟨second, rate⟩ := fromPivot term
      exact ⟨second, (answerOn_fromPivot_iff base term).2 rate⟩
  · obtain ⟨first, rate⟩ := toPivot base
    by_cases term : query.term = quotes.pivot
    · exact ⟨first, (answerOn_toPivot_iff base term).2 rate⟩
    · obtain ⟨second, rate'⟩ := fromPivot term
      obtain ⟨factor, product, -⟩ :=
        Decimal.exists_product? (within.toPivot rate) (within.fromPivot rate')
      obtain ⟨product, positive⟩ := Option.filter_eq_some_iff.1 product
      have positive' := Decimal.isPositive_iff.2 (within.toPivot rate).pos
      refine ⟨_, (answerOn_bridged_iff base term).2
        ⟨first, second, factor, rate, rate', ?_, positive, rfl⟩⟩
      apply (chainProduct_pair_eq_ok_iff positive').2 product

/-- A day that lacks a quote has no rate. -/
theorem AreWithin.answerOn_of_lacks (within : quotes.AreWithin 13)
    (lacks : quotes.Lacks day query.pair) :
  quotes.answerOn provider query day = .error (.unavailable query.pair provider)
  := by
  rw [answerOn_eq_unavailable_iff]
  obtain base | term := lacks
  · exact .inl base
  · refine .inr ⟨term, ?_⟩
    rintro ⟨-, fault, out⟩
    exact within.inverts out

/-- No answer is out of range. -/
theorem AreWithin.bridge (within : quotes.AreWithin 13) :
  (∃ r, quotes.bridge provider query = .ok r)
    ∨ quotes.bridge provider query = .error (.unavailable query.pair provider)
  := by
  rw [PivotQuotes.bridge]
  split
  · rename_i day _
    by_cases lacks : quotes.Lacks day query.pair
    · exact .inr (within.answerOn_of_lacks lacks)
    · exact .inl (within.exists_answerOn lacks)
  · exact .inr rfl

/-- There is an answer exactly if the resolution day has all quotes that the query needs. -/
theorem AreOfTable.exists_resolve_iff (view : quotes.AreOfTable table query today)
    (within : quotes.AreWithin 13) :
  (∃ r, table.resolve provider query today = .ok r)
    ↔ ∃ day, table.IsResolutionDay query today day ∧ ¬ quotes.Lacks day query.pair
  := by
  constructor
  · rintro ⟨r, h⟩
    obtain ⟨day, resolution, -⟩ := view.answer h
    rw [view.resolve_eq_answerOn resolution] at h
    exact ⟨day, resolution, not_lacks_of_answerOn h⟩
  · rintro ⟨day, resolution, quoted⟩
    rw [view.resolve_eq_answerOn resolution]
    apply within.exists_answerOn quoted

end PivotQuotes

/-- All quotes of a table are in range. -/
def RateTable.IsWithin (n : ℕ) : RateTable → Prop
  | empty => True
  | direct t => ∀ day currency r, t.leaf day currency = some r → r.factor.IsWithin n
  | dual t => ∀ day currency direction r, t.rate? currency day direction = some r →
    r.factor.IsWithin n

namespace DirectTable

variable {t : DirectTable} {day : Date}

theorem isWithin_empty (n : ℕ) (pivot : Currency) : (RateTable.direct (empty pivot)).IsWithin n
  := by
  intro day currency r leaf
  rw [leaf_empty] at leaf
  cases leaf

theorem isWithin_insert {n : ℕ} {quote : RateRecord} (within : (RateTable.direct t).IsWithin n)
    (inRange : quote.factor.IsWithin n) :
  (RateTable.direct (t.insert day quote)).IsWithin n
  := by
  intro day' currency r leaf
  rw [leaf_insert] at leaf
  split at leaf
  · obtain rfl := Option.some.inj leaf
    exact inRange
  · apply within day' currency r leaf

/-- The opposite of a quote that stands for itself has a positive factor. -/
theorem isPositive_of_toPivot {currency : Currency} {r : RateRecord}
    (keyed : (RateTable.direct t).IsKeyed)
    (toPivot : t.pivotQuotes.toPivot currency day = .ok (some r)) :
  r.factor.isPositive
  := by
  obtain ⟨quote, leaf, inverse⟩ := toPivot_eq_some_iff.1 toPivot
  obtain ⟨factor, reciprocal, rfl⟩ := (invert_eq_ok_iff (keyed _ _ _ leaf).1).1 inverse
  exact (Option.filter_eq_some_iff.1 reciprocal).2

theorem areWithin (keyed : (RateTable.direct t).IsKeyed)
    (within : (RateTable.direct t).IsWithin 12) :
  t.pivotQuotes.AreWithin 13
  where
  toPivot := by
    intro currency day r h
    obtain ⟨quote, leaf, inverse⟩ := toPivot_eq_some_iff.1 h
    obtain ⟨factor, reciprocal, rfl⟩ := (invert_eq_ok_iff (keyed _ _ _ leaf).1).1 inverse
    obtain ⟨_, found, -, within'⟩ :=
      Decimal.exists_reciprocal? (within day currency quote leaf) le_rfl
    obtain rfl := Option.some.inj (reciprocal.symm.trans found)
    exact within'
  fromPivot := by
    intro currency day r leaf
    apply (within day currency r leaf).mono (by decide)
  inverts := by
    intro currency day fault out
    obtain ⟨quote, leaf, none⟩ := (exists_toPivot_eq_error_iff keyed).1 ⟨fault, out⟩
    obtain ⟨_, found, -⟩ := Decimal.exists_reciprocal? (within day currency quote leaf) le_rfl
    simp [found] at none

end DirectTable

theorem DualTable.areWithin {t : DualTable} {today : Date}
    (within : (RateTable.dual t).IsWithin 12) :
  (t.pivotQuotes today).AreWithin 13
  where
  toPivot := by
    intro currency day r rate
    apply (within day currency .toUnit r (Except.ok.inj rate)).mono (by decide)
  fromPivot := by
    intro currency day r rate
    apply (within day currency .fromUnit r rate).mono (by decide)
  inverts := by
    intro currency day fault out
    cases out

namespace RateTable

/-- What a table with quotes in range answers to a query is not out of range. -/
structure ResolvesInRange (table : RateTable) (provider : String) (query : RateQuery)
    (today : Date) : Prop where
  /-- There is an answer, or there is no such rate. -/
  inRange : (∃ r, table.resolve provider query today = .ok r)
    ∨ table.resolve provider query today = .error (.unavailable query.pair provider)
  /-- There is an answer exactly if the resolution day has all quotes for it. -/
  answered_iff : table.IsMade → ((∃ r, table.resolve provider query today = .ok r)
    ↔ ∃ day, table.IsResolutionDay query today day ∧ table.Quotes day query.pair)

/-- No rate of a table is out of range if its quotes are not. -/
theorem resolvesInRange {table : RateTable} (keyed : table.IsKeyed) (within : table.IsWithin 12)
    (provider : String) (query : RateQuery) (today : Date) :
  table.ResolvesInRange provider query today
  := by
  cases table with
  | empty =>
    constructor
    case inRange => exact .inr rfl
    case answered_iff =>
      intro _
      simp [resolve, Quotes]
  | direct t =>
    have within' := DirectTable.areWithin keyed within
    constructor
    case inRange => exact within'.bridge
    case answered_iff =>
      intro made
      have view : t.pivotQuotes.AreOfTable (.direct t) query today := t.areOfTable made keyed
      rw [view.exists_resolve_iff within']
      apply exists_congr
      intro day
      apply and_congr_right
      intro resolution
      rw [DirectTable.quotes_iff, and_iff_right]
      apply view.covers.2 resolution.serves
  | dual t =>
    have within' : (t.pivotQuotes today).AreWithin 13 := DualTable.areWithin within
    constructor
    case inRange => exact within'.bridge
    case answered_iff =>
      rintro ⟨s, made, rfl⟩
      have view : (s.finish.pivotQuotes today).AreOfTable (.dual s.finish) query today :=
        s.finish.areOfTable made.finish keyed
      rw [view.exists_resolve_iff within']
      apply exists_congr
      intro day
      apply and_congr_right
      intro resolution
      have quotes := DualTable.covers_iff.1 (view.covers.2 resolution.serves)
      exact iff_of_true (DualTable.not_lacks_of_quotes quotes) quotes

/-- The least and the greatest quotes that are in range bridge a rate. -/
theorem resolvesInRange_of_extremes :
  ∃ (t : DirectTable) (day : Date) (least greatest : RateRecord) (query : RateQuery),
    query = ⟨.ofCode "USD", .ofCode "JPY", some day, []⟩
      ∧ (direct t).IsKeyed ∧ (direct t).IsWithin 12
      ∧ t.leaf day (.ofCode "USD") = some greatest ∧ greatest.factor.toRat = 10 ^ 12
      ∧ t.leaf day (.ofCode "JPY") = some least ∧ least.factor.toRat = 1 / 10 ^ 12
      ∧ (direct t).ResolvesInRange "ECB" query day
      ∧ ∃ r, (direct t).resolve "ECB" query day = .ok r
  := by
  let day : Date := ⟨739193, by decide, by decide⟩
  let great : Decimal := ⟨false, 10 ^ 12, 0, by decide, by decide⟩
  let little : Decimal := ⟨false, 10 ^ 16, 28, by decide, by decide⟩
  let greatest : RateRecord := ⟨⟨"ECB", .historic⟩, .euro, .ofCode "USD", great, [], some day⟩
  let least : RateRecord := ⟨⟨"ECB", .historic⟩, .euro, .ofCode "JPY", little, [], some day⟩
  let t := ((DirectTable.empty .euro).insert day greatest).insert day least
  let query : RateQuery := ⟨.ofCode "USD", .ofCode "JPY", some day, []⟩
  have dollar : t.leaf day (.ofCode "USD") = some greatest :=
    (DirectTable.leaf_insert _ day day least _).trans rfl
  have yen : t.leaf day (.ofCode "JPY") = some least :=
    (DirectTable.leaf_insert _ day day least _).trans rfl
  have great' : great.toRat = 10 ^ 12 := by norm_num [great, Decimal.toRat, Decimal.mantissa]
  have little' : little.toRat = 1 / 10 ^ 12 := by
    norm_num [little, Decimal.toRat, Decimal.mantissa]
  have keyed : (direct t).IsKeyed := by
    apply DirectTable.isKeyed_insert _ rfl rfl
    apply DirectTable.isKeyed_insert (DirectTable.isKeyed_empty _) rfl rfl
  have within : (direct t).IsWithin 12 := by
    apply DirectTable.isWithin_insert (DirectTable.isWithin_insert _ _)
    · exact ⟨little'.ge, little'.le.trans (by norm_num)⟩
    · apply DirectTable.isWithin_empty
    · exact ⟨le_trans (by norm_num) great'.ge, great'.le⟩
  have resolves := resolvesInRange keyed within "ECB" query day
  have made : (direct t).IsMade := .insert (.insert (.empty _) _ _) _ _
  have resolution : (direct t).IsResolutionDay query day day :=
    isResolutionDay_of_serves rfl ⟨_, _, dollar⟩
  refine ⟨t, day, least, greatest, query, rfl, keyed, within, dollar, great', yen, little',
    resolves, (resolves.answered_iff made).2 ⟨day, resolution, rfl, ?_, ?_⟩⟩
  · exact fun _ => Option.isSome_iff_exists.2 ⟨_, dollar⟩
  · exact fun _ => Option.isSome_iff_exists.2 ⟨_, yen⟩

end RateTable

/-! ### Accuracy -/

namespace DirectTable

variable {t : DirectTable} {day : Date} {currency : Currency}

/-- What one of the pivot is worth in a currency on a day. -/
def worth (t : DirectTable) (day : Date) (currency : Currency) : ℚ :=
  if currency = t.pivot then 1 else ((t.leaf day currency).map (·.factor.toRat)).getD 0

/-- A currency is the pivot, or its quote on a day is in range. -/
def IsQuotedWithin (t : DirectTable) (n : ℕ) (day : Date) (currency : Currency) : Prop :=
  currency ≠ t.pivot → ∃ quote, t.leaf day currency = some quote ∧ quote.factor.IsWithin n

theorem worth_pivot : t.worth day t.pivot = 1
  := if_pos rfl

theorem worth_of_leaf {quote : RateRecord} (other : currency ≠ t.pivot)
    (leaf : t.leaf day currency = some quote) :
  t.worth day currency = quote.factor.toRat
  := by
  rw [worth, if_neg other, leaf]
  rfl

theorem IsQuotedWithin.worth_pos {n : ℕ} (within : t.IsQuotedWithin n day currency) :
  0 < t.worth day currency
  := by
  by_cases pivot : currency = t.pivot
  · rw [pivot, worth_pivot]
    exact one_pos
  · obtain ⟨quote, leaf, inRange⟩ := within pivot
    rw [worth_of_leaf pivot leaf]
    exact inRange.pos

/-- A pair of which the quotes are in range has a factor, which is near the exact one. -/
theorem exists_factor?_isNear (keyed : (RateTable.direct t).IsKeyed) (pair : CurrencyPair)
    (base : t.IsQuotedWithin 6 day pair.base) (term : t.IsQuotedWithin 6 day pair.term) :
  ∃ factor, t.pivotQuotes.factor? day pair = some factor
    ∧ IsNear (4 / 10 ^ 15) (t.worth day pair.term / t.worth day pair.base) factor.toRat
  := by
  have chains (quote : RateRecord) (leaf : t.leaf day pair.base = some quote) :
      quote.chain = [] := (keyed _ _ _ leaf).1
  have pivot : t.pivotQuotes.pivot = t.pivot := rfl
  have exact (v : ℚ) (pos : 0 < v) : IsNear (4 / 10 ^ 15) v v :=
    IsNear.refl (by norm_num) pos.le
  rw [PivotQuotes.factor?, pivot, factorTo?_eq chains, factorFrom?_eq]
  by_cases base' : pair.base = t.pivot
  · rw [if_pos base', base', worth_pivot, div_one]
    by_cases term' : pair.term = t.pivot
    · rw [if_pos term', term', worth_pivot]
      refine ⟨_, rfl, ?_⟩
      rw [Decimal.toRat_one]
      apply exact 1 one_pos
    · obtain ⟨quote, leaf, within⟩ := term term'
      rw [if_neg term', leaf, worth_of_leaf term' leaf]
      exact ⟨_, rfl, exact _ within.pos⟩
  · obtain ⟨quote, leaf, within⟩ := base base'
    rw [if_neg base', leaf, worth_of_leaf base' leaf, Option.bind_some]
    by_cases term' : pair.term = t.pivot
    · obtain ⟨inverse, reciprocal, near, -⟩ := Decimal.exists_reciprocal? within (by decide)
      rw [if_pos term', term', worth_pivot]
      exact ⟨inverse, reciprocal, near.mono (one_div_pos.2 within.pos).le (by norm_num)⟩
    · obtain ⟨quote', leaf', within'⟩ := term term'
      obtain ⟨inverse, factor, reciprocal, product, near⟩ :=
        Decimal.exists_quotient? within within'
      rw [if_neg term', leaf', worth_of_leaf term' leaf', reciprocal]
      exact ⟨factor, product, near⟩

/-- A query for a day with quotes in range is answered for that day, and accurately. -/
theorem exists_resolve_isNear (keyed : (RateTable.direct t).IsKeyed) (has : t.hasDay day = true)
    (provider : String) (query : RateQuery) (dated : query.asOf = some day)
    (base : t.IsQuotedWithin 6 day query.base) (term : t.IsQuotedWithin 6 day query.term)
    (today : Date) :
  ∃ r, (RateTable.direct t).resolve provider query today = .ok r ∧ r.asOf = some day
    ∧ IsNear (4 / 10 ^ 15) (t.worth day query.term / t.worth day query.base) r.factor.toRat
  := by
  obtain ⟨factor, found, near⟩ := exists_factor?_isNear keyed query.pair base term
  obtain ⟨r, answer, rfl⟩ : ∃ r, t.pivotQuotes.answerOn provider query day = .ok r
      ∧ r.factor = factor :=
    (PivotQuotes.exists_answerOn_iff (fun _ => isPositive_of_toPivot keyed)).2 found
  rw [resolve_of_hasDay has dated]
  exact ⟨r, answer, ((areDated keyed).answerOn answer).1, near⟩

/-- The two directions of a pair with quotes in range are answered for the same day, and their
factors are nearly inverse to each other. -/
theorem exists_resolve_reversed {t : DirectTable} (keyed : (RateTable.direct t).IsKeyed)
    {day : Date} (has : t.hasDay day = true) (provider : String) (query : RateQuery)
    (dated : query.asOf = some day) (base : t.IsQuotedWithin 6 day query.base)
    (term : t.IsQuotedWithin 6 day query.term) (today later : Date) :
  ∃ r r', (RateTable.direct t).resolve provider query today = .ok r
    ∧ (RateTable.direct t).resolve provider query.reversed later = .ok r'
    ∧ r.asOf = some day ∧ r'.asOf = some day
    ∧ |r.factor.toRat * r'.factor.toRat - 1| < 1 / 10 ^ 14
  := by
  obtain ⟨r, answer, asOf, near⟩ :=
    exists_resolve_isNear keyed has provider query dated base term today
  obtain ⟨r', answer', asOf', near'⟩ :=
    exists_resolve_isNear keyed has provider query.reversed dated term base later
  refine ⟨r, r', answer, answer', asOf, asOf', ?_⟩
  have pos := div_pos term.worth_pos base.worth_pos
  have pos' := div_pos base.worth_pos term.worth_pos
  have inverse : t.worth day query.term / t.worth day query.base
      * (t.worth day query.base / t.worth day query.term) = 1 := by
    rw [div_mul_div_cancel₀ base.worth_pos.ne', div_self term.worth_pos.ne']
  apply lt_of_le_of_lt (near.round_trip near' (by norm_num) (by norm_num) pos.le pos'.le inverse)
  norm_num

/-- Two currencies, one of them with a quote of one part in a million, are converted to each other
and back. -/
theorem exists_resolve_reversed_of_least :
  ∃ (t : DirectTable) (day : Date) (dollar yen : RateRecord) (query : RateQuery)
      (r r' : RateRecord), query = ⟨.ofCode "USD", .ofCode "JPY", some day, []⟩
    ∧ (RateTable.direct t).IsKeyed ∧ t.hasDay day = true
    ∧ t.leaf day query.base = some dollar ∧ dollar.factor.toRat = 1.0837
    ∧ t.leaf day query.term = some yen ∧ yen.factor.toRat = 1 / 10 ^ 6
    ∧ (RateTable.direct t).resolve "ECB" query day = .ok r
    ∧ (RateTable.direct t).resolve "ECB" query.reversed day = .ok r'
    ∧ r.asOf = some day ∧ r'.asOf = some day
    ∧ |r.factor.toRat * r'.factor.toRat - 1| < 1 / 10 ^ 14
  := by
  let day : Date := ⟨739193, by decide, by decide⟩
  let some' : Decimal := ⟨false, 10837, 4, by decide, by decide⟩
  let little : Decimal := ⟨false, 10 ^ 10, 16, by decide, by decide⟩
  let dollar : RateRecord := ⟨⟨"ECB", .historic⟩, .euro, .ofCode "USD", some', [], some day⟩
  let yen : RateRecord := ⟨⟨"ECB", .historic⟩, .euro, .ofCode "JPY", little, [], some day⟩
  let t := ((DirectTable.empty .euro).insert day dollar).insert day yen
  let query : RateQuery := ⟨.ofCode "USD", .ofCode "JPY", some day, []⟩
  have leaf : t.leaf day query.base = some dollar :=
    (leaf_insert _ day day yen _).trans rfl
  have leaf' : t.leaf day query.term = some yen :=
    (leaf_insert _ day day yen _).trans rfl
  have value : some'.toRat = 1.0837 := by norm_num [some', Decimal.toRat, Decimal.mantissa]
  have value' : little.toRat = 1 / 10 ^ 6 := by
    norm_num [little, Decimal.toRat, Decimal.mantissa]
  have keyed : (RateTable.direct t).IsKeyed := by
    apply isKeyed_insert _ rfl rfl
    apply isKeyed_insert (isKeyed_empty _) rfl rfl
  have has : t.hasDay day = true := IsQuotedOn.hasDay ⟨_, _, leaf⟩
  have base : t.IsQuotedWithin 6 day query.base := by
    refine fun _ => ⟨dollar, leaf, ?_⟩
    rw [Decimal.IsWithin, value]
    norm_num
  have term : t.IsQuotedWithin 6 day query.term := by
    refine fun _ => ⟨yen, leaf', ?_⟩
    rw [Decimal.IsWithin, value']
    norm_num
  obtain ⟨r, r', answers⟩ := exists_resolve_reversed keyed has "ECB" query rfl base term day day
  exact ⟨t, day, dollar, yen, query, r, r', rfl, keyed, has, leaf, value, leaf', value', answers⟩

end DirectTable

end CrossRate
