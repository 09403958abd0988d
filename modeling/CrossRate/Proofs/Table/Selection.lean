import CrossRate.Proofs.Calendar.Window
import CrossRate.Proofs.Provider.Reversal
import CrossRate.Proofs.Rate.Factor
import CrossRate.Proofs.Table.Making

/-!
# Which day answers a query

A query is answered on its resolution day, the latest of the days that come into question which has
what the query needs (`RateTable.IsResolutionDay`). Which days come into question, what a query
needs of them, and what may still not be there on the resolution day depends on the layout of the
table. `RateTable.resolvesByDay` says when there is an answer, and for which day.
-/

namespace CrossRate

/-! ### Resolution days -/

namespace RateTable

/-- A table that is made by adding rates, and the series of which are in order if it is dual. -/
def IsMade : RateTable → Prop
  | empty => True
  | direct t => t.IsMade
  | dual t => ∃ s : DualTable, s.IsMade ∧ t = s.finish

/-- The rates of a table stand for themselves, and for the currency and the day that they are
looked up by. -/
def IsKeyed : RateTable → Prop
  | empty => True
  | direct t => ∀ day currency r, t.leaf day currency = some r →
    r.chain = [] ∧ r.term = currency ∧ r.asOf = some day
  | dual t => ∀ day currency direction r, t.rate? currency day direction = some r →
    r.chain = [] ∧ DualTable.currencyOf direction r = currency ∧ r.asOf = some day

/-- A day that comes into question for a query: the day that is asked for or one of the three
before it. If no day is asked for, it is the latest day of a direct table, and one of the three
days before today for a dual one. -/
def IsCandidate (table : RateTable) (asOf : Option Date) (today day : Date) : Prop :=
  match asOf with
  | some asked => day.dayNumber ≤ asked.dayNumber ∧ asked.dayNumber ≤ day.dayNumber + 3
  | none =>
    match table with
    | empty => False
    | direct t => t.IsQuotedOn day ∧ ∀ later, day < later → ¬ t.IsQuotedOn later
    | dual _ => day.dayNumber < today.dayNumber ∧ today.dayNumber ≤ day.dayNumber + 3

/-- A day that a query for a pair can be answered on: a direct table needs any quote, a dual one
just the rates of the pair, or any rate for its unit and itself. -/
def Serves (table : RateTable) (day : Date) (pair : CurrencyPair) : Prop :=
  match table with
  | empty => False
  | direct t => t.IsQuotedOn day
  | dual t => (pair.base = t.unit → pair.term = t.unit → t.IsRatedOn day)
    ∧ (pair.base ≠ t.unit → (t.toUnit? pair.base day).isSome)
    ∧ (pair.term ≠ t.unit → (t.fromUnit? pair.term day).isSome)

/-- The latest day that comes into question for a query and serves it. -/
structure IsResolutionDay (table : RateTable) (query : RateQuery) (today day : Date) : Prop where
  candidate : table.IsCandidate query.asOf today day
  serves : table.Serves day query.pair
  latest : ∀ later, table.IsCandidate query.asOf today later → day < later →
    ¬ table.Serves later query.pair

/-- A quote that the pair needs is not there on a day that serves it: that of its base, or that of
its term while its base needs no quote that has no reciprocal. A dual table is not served by such a
day. -/
def Lacks (table : RateTable) (day : Date) (pair : CurrencyPair) : Prop :=
  match table with
  | direct t => pair.base ≠ t.pivot ∧ t.leaf day pair.base = none
    ∨ (pair.term ≠ t.pivot ∧ t.leaf day pair.term = none) ∧ ¬ (pair.base ≠ t.pivot
        ∧ ∃ quote, t.leaf day pair.base = some quote ∧ quote.factor.reciprocal? = none)
  | empty | dual _ => False

end RateTable

/-- A day that is asked for and serves the query is its resolution day. -/
theorem RateTable.isResolutionDay_of_serves {table : RateTable} {query : RateQuery}
    {today day : Date} (dated : query.asOf = some day) (serves : table.Serves day query.pair) :
  table.IsResolutionDay query today day
  := by
  constructor
  case candidate =>
    rw [dated]
    exact ⟨le_refl _, le_add_of_nonneg_right (by decide)⟩
  case serves => exact serves
  case latest =>
    intro later candidate (lt : day.dayNumber < later.dayNumber)
    rw [dated] at candidate
    exact absurd candidate.1 (not_le.2 lt)

theorem DirectTable.isKeyed_empty (pivot : Currency) : (RateTable.direct (empty pivot)).IsKeyed
  := by
  intro day currency r leaf
  rw [leaf_empty] at leaf
  cases leaf

/-- A quote that stands for itself is added on its day. -/
theorem DirectTable.isKeyed_insert {t : DirectTable} {day : Date} {quote : RateRecord}
    (keyed : (RateTable.direct t).IsKeyed) (chain : quote.chain = [])
    (asOf : quote.asOf = some day) :
  (RateTable.direct (t.insert day quote)).IsKeyed
  := by
  intro day' currency r leaf
  rw [leaf_insert] at leaf
  split at leaf
  · rename_i here
    obtain rfl := Option.some.inj leaf
    exact ⟨chain, here.2.symm, here.1 ▸ asOf⟩
  · apply keyed day' currency r leaf

/-! ### Days of answers -/

namespace PivotQuotes

variable {quotes : PivotQuotes} {provider : String} {query : RateQuery} {day : Date}
  {r : RateRecord}

/-- All that a table gives to and from its pivot stands for itself and for its day. -/
structure AreDated (quotes : PivotQuotes) : Prop where
  toPivot {currency : Currency} {day : Date} {r : RateRecord} :
    quotes.toPivot currency day = .ok (some r) → r.chain = [] ∧ r.asOf = some day
  fromPivot {currency : Currency} {day : Date} {r : RateRecord} :
    quotes.fromPivot currency day = some r → r.chain = [] ∧ r.asOf = some day

/-- An answer on a day is for that day, and so is what it is bridged by. -/
theorem AreDated.answerOn (dated : quotes.AreDated)
    (h : quotes.answerOn provider query day = .ok r) :
  r.asOf = some day ∧ ∀ leg ∈ r.chain, leg.asOf = some day
  := by
  have whole (quote : r.chain = [] ∧ r.asOf = some day) :
      r.asOf = some day ∧ ∀ leg ∈ r.chain, leg.asOf = some day := by
    simp [quote.1, quote.2]
  by_cases base : query.base = quotes.pivot
  · by_cases term : query.term = quotes.pivot
    · obtain rfl := (answerOn_unit_iff base term).1 h
      apply whole ⟨rfl, rfl⟩
    · apply whole (dated.fromPivot ((answerOn_fromPivot_iff base term).1 h))
  · by_cases term : query.term = quotes.pivot
    · apply whole (dated.toPivot ((answerOn_toPivot_iff base term).1 h))
    · obtain ⟨first, second, factor, toPivot, fromPivot, -, -, rfl⟩ :=
        (answerOn_bridged_iff base term).1 h
      simp [(dated.toPivot toPivot).2, (dated.fromPivot fromPivot).2]

/-- A rate that a pair needs is not there on a day, and what comes before it is. -/
def LacksInTurn (quotes : PivotQuotes) (day : Date) (pair : CurrencyPair) : Prop :=
  pair.base ≠ quotes.pivot ∧ quotes.toPivot pair.base day = .ok none
    ∨ (pair.term ≠ quotes.pivot ∧ quotes.fromPivot pair.term day = none)
      ∧ ¬ (pair.base ≠ quotes.pivot ∧ ∃ fault, quotes.toPivot pair.base day = .error fault)

theorem answerOn_eq_unavailable_iff :
  quotes.answerOn provider query day = .error (.unavailable query.pair provider)
    ↔ quotes.LacksInTurn day query.pair
  := by
  by_cases base : query.base = quotes.pivot
  · by_cases term : query.term = quotes.pivot
    · have answer : quotes.answerOn provider query day
          = .ok ⟨⟨provider, .historic⟩, query.base, query.term, .one, [], some day⟩ :=
        (answerOn_unit_iff base term).2 rfl
      simp [answer, LacksInTurn, RateQuery.pair, base, term]
    · rw [answerOn, if_neg (fun sides => term sides.2), if_neg term, if_pos base]
      simp [orUnavailable_eq_error_iff, LacksInTurn, RateQuery.pair, base, term]
  · by_cases term : query.term = quotes.pivot
    · rw [answerOn, if_neg (fun sides => base sides.1), if_pos term]
      simp [bind_eq_error_iff, mapError_eq_error_iff, mapError_eq_ok_iff,
        orUnavailable_eq_error_iff, LacksInTurn, RateQuery.pair, base, term]
    · rw [answerOn, if_neg (fun sides => base sides.1), if_neg term, if_neg base]
      cases toPivot : quotes.toPivot query.base day with
      | error fault =>
        simp [bind_eq_error_iff, mapError_eq_error_iff, mapError_eq_ok_iff, LacksInTurn,
          RateQuery.pair, base, toPivot]
      | ok first =>
        cases first <;>
          simp [bind_eq_error_iff, mapError_eq_error_iff, mapError_eq_ok_iff,
            orUnavailable_eq_error_iff, orUnavailable_eq_ok_iff, LacksInTurn, RateQuery.pair,
            base, term, toPivot]

/-- A rate to the pivot that is out of range is out of range for every term. -/
theorem answerOn_of_toPivot_eq_error {fault : InvalidRate} (base : query.base ≠ quotes.pivot)
    (toPivot : quotes.toPivot query.base day = .error fault) :
  quotes.answerOn provider query day = .error (.invalidRate fault)
  := by
  rw [answerOn, if_neg (fun sides => base sides.1), if_neg base, toPivot]
  split <;> rfl

/-- The rates of a table to and from its pivot, as they are looked at for a query. -/
structure AreOfTable (quotes : PivotQuotes) (table : RateTable) (query : RateQuery)
    (today : Date) : Prop where
  bridge (provider : String) : table.resolve provider query today = quotes.bridge provider query
  candidates {day : Date} :
    day ∈ quotes.candidates query.asOf ↔ table.IsCandidate query.asOf today day
  descending : (quotes.candidates query.asOf).Pairwise (fun later earlier => earlier < later)
  covers {day : Date} :
    quotes.covers day query.base query.term = true ↔ table.Serves day query.pair
  lacks {day : Date} : table.Serves day query.pair →
    (quotes.LacksInTurn day query.pair ↔ table.Lacks day query.pair)
  dated : quotes.AreDated

variable {table : RateTable} {today : Date}

/-- The day that is found for a query is its resolution day. -/
theorem AreOfTable.find?_eq_some_iff (view : quotes.AreOfTable table query today) :
  (quotes.candidates query.asOf).find? (quotes.covers · query.base query.term) = some day
    ↔ table.IsResolutionDay query today day
  := by
  rw [Date.find?_eq_some_iff_latest view.descending]
  simp only [view.candidates, view.covers, ← Bool.not_eq_true]
  constructor
  · rintro ⟨candidate, serves, latest⟩
    exact ⟨candidate, serves, latest⟩
  · rintro ⟨candidate, serves, latest⟩
    exact ⟨candidate, serves, latest⟩

theorem AreOfTable.resolve_eq_answerOn (view : quotes.AreOfTable table query today)
    (resolution : table.IsResolutionDay query today day) :
  table.resolve provider query today = quotes.answerOn provider query day
  := by rw [view.bridge, PivotQuotes.bridge, view.find?_eq_some_iff.2 resolution]

/-- Without a resolution day there is no rate. -/
theorem AreOfTable.resolve_of_none (view : quotes.AreOfTable table query today)
    (none : ∀ day, ¬ table.IsResolutionDay query today day) :
  table.resolve provider query today = .error (.unavailable query.pair provider)
  := by
  rw [view.bridge, PivotQuotes.bridge]
  split
  · rename_i day found
    exact absurd (view.find?_eq_some_iff.1 found) (none day)
  · rfl

/-- An answer is for the resolution day, and so is all that it is bridged by. -/
theorem AreOfTable.answer (view : quotes.AreOfTable table query today)
    (h : table.resolve provider query today = .ok r) :
  ∃ day, table.IsResolutionDay query today day ∧ r.asOf = some day
    ∧ ∀ leg ∈ r.chain, leg.asOf = some day
  := by
  rw [view.bridge, bridge_eq_ok_iff] at h
  obtain ⟨day, found, answer⟩ := h
  use day, view.find?_eq_some_iff.1 found
  apply view.dated.answerOn answer

/-- There is no rate if there is no resolution day, or if that lacks a quote. -/
theorem AreOfTable.unavailable_iff (view : quotes.AreOfTable table query today) :
  table.resolve provider query today = .error (.unavailable query.pair provider)
    ↔ (∀ day, ¬ table.IsResolutionDay query today day)
      ∨ ∃ day, table.IsResolutionDay query today day ∧ table.Lacks day query.pair
  := by
  constructor
  · intro h
    by_cases none : ∀ day, ¬ table.IsResolutionDay query today day
    · exact .inl none
    · obtain ⟨day, resolution⟩ := not_forall_not.1 none
      rw [view.resolve_eq_answerOn resolution, answerOn_eq_unavailable_iff,
        view.lacks resolution.serves] at h
      exact .inr ⟨day, resolution, h⟩
  · rintro (none | ⟨day, resolution, lacks⟩)
    · apply view.resolve_of_none none
    · rw [view.resolve_eq_answerOn resolution, answerOn_eq_unavailable_iff,
        view.lacks resolution.serves]
      apply lacks

end PivotQuotes

/-! ### The two layouts -/

namespace DirectTable

variable {t : DirectTable} {today day : Date} {query : RateQuery}

theorem exists_toPivot_eq_error_iff {currency : Currency} (keyed : (RateTable.direct t).IsKeyed) :
  (∃ fault, t.pivotQuotes.toPivot currency day = .error fault)
    ↔ ∃ quote, t.leaf day currency = some quote ∧ quote.factor.reciprocal? = none
  := by
  simp only [pivotQuotes]
  cases leaf : t.leaf day currency with
  | none => simp
  | some quote =>
    have chain := (keyed day currency quote leaf).1
    simp only [Option.some.injEq, exists_eq_left', ← exists_invert_eq_error_iff chain]
    cases invert quote <;> simp [Except.map]

theorem areDated (keyed : (RateTable.direct t).IsKeyed) : t.pivotQuotes.AreDated
  where
  toPivot := by
    intro currency day r h
    obtain ⟨quote, leaf, inverse⟩ := toPivot_eq_some_iff.1 h
    obtain ⟨chain, -, asOf⟩ := keyed day currency quote leaf
    obtain ⟨factor, -, rfl⟩ := (invert_eq_ok_iff chain).1 inverse
    exact ⟨chain, asOf⟩
  fromPivot := by
    intro currency day r leaf
    obtain ⟨chain, -, asOf⟩ := keyed day currency r leaf
    exact ⟨chain, asOf⟩

/-- What a direct table shows of itself for a query. -/
theorem areOfTable (made : t.IsMade) (keyed : (RateTable.direct t).IsKeyed) :
  t.pivotQuotes.AreOfTable (.direct t) query today
  where
  bridge provider := rfl
  candidates := by
    intro day
    simp only [pivotQuotes, RateTable.IsCandidate]
    cases query.asOf with
    | some asked => exact Date.mem_probeWindow_iff
    | none => simp [← made.latest?_eq_some_iff]
  descending := by
    cases query.asOf with
    | some asked => exact asked.pairwise_probeWindow
    | none => cases latest : t.latest? <;> simp [pivotQuotes, latest]
  covers := made.hasDay_iff
  lacks := by
    intro day _
    rw [PivotQuotes.LacksInTurn, toPivot_eq_none_iff, exists_toPivot_eq_error_iff keyed]
    rfl
  dated := areDated keyed

/-- A query for a day of the table is answered on that day. -/
theorem resolve_of_hasDay {provider : String} (has : t.hasDay day = true)
    (dated : query.asOf = some day) :
  (RateTable.direct t).resolve provider query today
    = t.pivotQuotes.answerOn provider query day
  := PivotQuotes.bridge_of_covers (by rw [dated]; rfl) has

end DirectTable

namespace DualTable

variable {t : DualTable} {today day : Date} {query : RateQuery}

theorem areDated (keyed : (RateTable.dual t).IsKeyed) : (t.pivotQuotes today).AreDated
  where
  toPivot := by
    intro currency day r h
    have rate : t.rate? currency day .toUnit = some r := Except.ok.inj h
    obtain ⟨chain, -, asOf⟩ := keyed day currency .toUnit r rate
    exact ⟨chain, asOf⟩
  fromPivot := by
    intro currency day r rate
    obtain ⟨chain, -, asOf⟩ := keyed day currency .fromUnit r rate
    exact ⟨chain, asOf⟩

/-- What a dual table shows of itself for a query. -/
theorem areOfTable (made : t.IsMade) (keyed : (RateTable.dual t).IsKeyed) :
  (t.pivotQuotes today).AreOfTable (.dual t) query today
  where
  bridge provider := rfl
  candidates := by
    intro day
    simp only [pivotQuotes, RateTable.IsCandidate]
    cases query.asOf with
    | some asked => exact Date.mem_probeWindow_iff
    | none => exact Date.mem_laggedWindow_iff
  descending := by
    cases query.asOf with
    | some asked => exact asked.pairwise_probeWindow
    | none => exact today.pairwise_laggedWindow
  covers := by
    intro day
    rw [covers_iff]
    simp only [RateTable.Quotes, RateTable.Serves, made.hasDay_iff]
    rfl
  lacks := by
    intro day serves
    constructor
    · rintro (⟨base, none⟩ | ⟨⟨term, none⟩, -⟩)
      · have rate := serves.2.1 base
        simp_all [pivotQuotes]
      · have rate := serves.2.2 term
        simp_all [pivotQuotes]
    · intro lacks
      exact lacks.elim
  dated := areDated keyed

end DualTable

/-! ### Answers by their day -/

namespace RateTable

/-- What a table answers to a query is determined by the resolution day. -/
structure ResolvesByDay (table : RateTable) (provider : String) (query : RateQuery)
    (today : Date) : Prop where
  /-- An answer is for the resolution day, and so is all that it is bridged by. -/
  answer {r : RateRecord} : table.resolve provider query today = .ok r →
    ∃ day, table.IsResolutionDay query today day ∧ r.asOf = some day
      ∧ ∀ leg ∈ r.chain, leg.asOf = some day
  /-- There is no rate if there is no resolution day, or if that lacks a quote. -/
  unavailable : table.resolve provider query today = .error (.unavailable query.pair provider)
    ↔ (∀ day, ¬ table.IsResolutionDay query today day)
      ∨ ∃ day, table.IsResolutionDay query today day ∧ table.Lacks day query.pair
  /-- Any other error is that the rate is out of range. -/
  error {e : RateError} : table.resolve provider query today = .error e →
    e = .unavailable query.pair provider ∨ ∃ fault, e = .invalidRate fault
  /-- A quote of the base that has no reciprocal is out of range, whatever the term is. -/
  uninvertible {t : DirectTable} {day : Date} {quote : RateRecord} : table = .direct t →
    table.IsResolutionDay query today day → query.base ≠ t.pivot →
    t.leaf day query.base = some quote → quote.factor.reciprocal? = none →
    ∃ fault, table.resolve provider query today = .error (.invalidRate fault)
  /-- The resolution day of a direct table is the same for every pair. -/
  samePair {t : DirectTable} {day : Date} (other : RateQuery) : table = .direct t →
    other.asOf = query.asOf →
    (table.IsResolutionDay other today day ↔ table.IsResolutionDay query today day)

/-- Every query is answered by its resolution day. -/
theorem resolvesByDay {table : RateTable} (made : table.IsMade) (keyed : table.IsKeyed)
    (provider : String) (query : RateQuery) (today : Date) :
  table.ResolvesByDay provider query today
  := by
  have error {e : RateError} : table.resolve provider query today = .error e →
      e = .unavailable query.pair provider ∨ ∃ fault, e = .invalidRate fault := resolve_eq_error
  cases table with
  | empty =>
    have none (day : Date) : ¬ empty.IsResolutionDay query today day :=
      fun resolution => resolution.serves
    constructor
    case answer =>
      intro r h
      simp [resolve] at h
    case unavailable => exact iff_of_true rfl (.inl none)
    case error => exact error
    case uninvertible =>
      intro t day quote other
      cases other
    case samePair =>
      intro t day other same
      cases same
  | direct t =>
    have view : t.pivotQuotes.AreOfTable (.direct t) query today := t.areOfTable made keyed
    constructor
    case answer => exact view.answer
    case unavailable => exact view.unavailable_iff
    case error => exact error
    case uninvertible =>
      rintro _ day quote ⟨⟩ resolution base leaf none
      obtain ⟨fault, toPivot⟩ := (t.exists_toPivot_eq_error_iff keyed).2 ⟨quote, leaf, none⟩
      use fault
      rw [view.resolve_eq_answerOn resolution]
      apply PivotQuotes.answerOn_of_toPivot_eq_error base toPivot
    case samePair =>
      rintro _ day other ⟨⟩ same
      constructor <;> rintro ⟨candidate, serves, latest⟩
      · exact ⟨same ▸ candidate, serves, same ▸ latest⟩
      · exact ⟨same ▸ candidate, serves, same ▸ latest⟩
  | dual t =>
    have made' : t.IsMade := by
      obtain ⟨s, made, rfl⟩ := made
      apply made.finish
    have view : (t.pivotQuotes today).AreOfTable (.dual t) query today := t.areOfTable made' keyed
    constructor
    case answer => exact view.answer
    case unavailable => exact view.unavailable_iff
    case error => exact error
    case uninvertible =>
      intro t day quote other
      cases other
    case samePair =>
      intro t day other same
      cases same

/-- A currency that is quoted a day before the resolution day, but not on it, has no rate. -/
theorem resolvesByDay_of_missing_quote :
  ∃ (t : DirectTable) (asked day before : Date) (query : RateQuery) (quote : RateRecord),
    query = ⟨.euro, .ofCode "JPY", some asked, []⟩
      ∧ (direct t).IsMade ∧ (direct t).IsKeyed
      ∧ t.leaf before (.ofCode "JPY") = some quote ∧ before < day ∧ day < asked
      ∧ (direct t).ResolvesByDay "ECB" query asked
      ∧ (direct t).IsResolutionDay query asked day
      ∧ (direct t).resolve "ECB" query asked = .error (.unavailable query.pair "ECB")
  := by
  let asked : Date := ⟨739195, by decide, by decide⟩
  let day : Date := ⟨739193, by decide, by decide⟩
  let before : Date := ⟨739192, by decide, by decide⟩
  let factor : Decimal := ⟨false, 125, 2, by decide, by decide⟩
  let dollar : RateRecord := ⟨⟨"ECB", .historic⟩, .euro, .ofCode "USD", factor, [], some day⟩
  let yen : RateRecord := ⟨⟨"ECB", .historic⟩, .euro, .ofCode "JPY", factor, [], some before⟩
  let t := ((DirectTable.empty .euro).insert day dollar).insert before yen
  let query : RateQuery := ⟨.euro, .ofCode "JPY", some asked, []⟩
  have leaf (d : Date) (currency : Currency) : t.leaf d currency
      = if d = before ∧ currency = .ofCode "JPY" then some yen
        else if d = day ∧ currency = .ofCode "USD" then some dollar else none := by
    simp only [t, DirectTable.leaf_insert, DirectTable.leaf_empty]
    rfl
  have made : (direct t).IsMade := .insert (.insert (.empty _) _ _) _ _
  have keyed : (direct t).IsKeyed := by
    apply DirectTable.isKeyed_insert _ rfl rfl
    apply DirectTable.isKeyed_insert (DirectTable.isKeyed_empty _) rfl rfl
  have resolves := resolvesByDay made keyed "ECB" query asked
  have resolution : (direct t).IsResolutionDay query asked day := by
    constructor
    case candidate => exact ⟨by decide, by decide⟩
    case serves => exact ⟨.ofCode "USD", dollar, by rw [leaf]; rfl⟩
    case latest =>
      rintro later - (lt : 739193 < later.dayNumber) ⟨currency, r, found⟩
      have other : later ≠ day := fun same => absurd lt (by rw [same]; decide)
      have other' : later ≠ before := fun same => absurd lt (by rw [same]; decide)
      rw [leaf, if_neg (fun here => other' here.1), if_neg (fun here => other here.1)] at found
      cases found
  have missing : t.leaf day (.ofCode "JPY") = none := by rw [leaf]; rfl
  use t, asked, day, before, query, yen, rfl, made, keyed
  refine ⟨by rw [leaf]; rfl, by decide, by decide, resolves, resolution, ?_⟩
  apply resolves.unavailable.2 (.inr ⟨day, resolution, .inr ⟨⟨by decide, missing⟩, ?_⟩⟩)
  exact fun base => base.1 rfl

end RateTable

end CrossRate
