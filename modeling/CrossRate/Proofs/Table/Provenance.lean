import CrossRate.Proofs.Table.Bridging
import CrossRate.Proofs.Table.Direct

/-!
# Whose records a table holds

The payloads of a provider are read on different days, and the kind of a quote depends on the
day. Whatever the days were, the quotes are all of the provider (`RateTable.IsOf`), and so is
every answer, which is for the pair that was asked for and a day (`RateTable.IsOf.resolve`). A
query that has no answer from a table has none for that pair, or its rate is out of range
(`RateTable.resolve_eq_error`).
-/

namespace CrossRate

/-- A quote that a provider has read on some day. -/
def RateRecord.IsQuoteOf (r : RateRecord) (provider : String) (day : Date)
    (pair : CurrencyPair) : Prop :=
  ∃ today, r.IsQuote ⟨provider, today⟩ day pair

/-- A record that a provider gives for a pair and a day. -/
structure RateRecord.IsFrom (r : RateRecord) (provider : String) (day : Date)
    (pair : CurrencyPair) : Prop where
  pair : r.pair = pair
  provider : r.provider = provider
  asOf : r.asOf = some day

theorem RateRecord.IsQuoteOf.isFrom {r : RateRecord} {provider : String} {day : Date}
    {pair : CurrencyPair} (h : r.IsQuoteOf provider day pair) :
  r.IsFrom provider day pair
  := by
  obtain ⟨today, quote⟩ := h
  exact ⟨quote.pair, quote.provider, quote.asOf⟩

/-- A record that is built is the one that its draft describes. -/
theorem RateDraft.isFrom_of_build {d : RateDraft} {r : RateRecord} {provider : String}
    {kind : RateKind} {day : Date} {pair : CurrencyPair} (h : d.build = .ok r)
    (context : d.context = some ⟨provider, kind⟩) (base : d.base = some pair.base)
    (term : d.term = some pair.term) (asOf : d.asOf = some day) :
  r.IsFrom provider day pair
  := by
  obtain ⟨rfl, -, -⟩ := RateDraft.build_eq_ok_iff.1 h
  obtain ⟨context', base', term', factor, chain, asOf'⟩ := r
  simp only [ofRecord, Option.some.injEq] at context base term asOf
  obtain ⟨base₀, term₀⟩ := pair
  obtain rfl : context' = _ := context
  obtain rfl : base' = _ := base
  obtain rfl : term' = _ := term
  exact ⟨rfl, rfl, asOf⟩

namespace PivotQuotes

/-- All that a table gives to and from its pivot are quotes of one provider. -/
structure AreOf (quotes : PivotQuotes) (provider : String) : Prop where
  toPivot {currency : Currency} {day : Date} {r : RateRecord} :
    quotes.toPivot currency day = .ok (some r) →
      r.IsQuoteOf provider day ⟨currency, quotes.pivot⟩
  fromPivot {currency : Currency} {day : Date} {r : RateRecord} :
    quotes.fromPivot currency day = some r → r.IsQuoteOf provider day ⟨quotes.pivot, currency⟩

variable {quotes : PivotQuotes} {provider : String} {query : RateQuery} {day : Date}
  {r : RateRecord}

/-- An answer on a day is of the provider, for the pair that was asked for and the day. -/
theorem AreOf.answerOn (all : quotes.AreOf provider)
    (h : quotes.answerOn provider query day = .ok r) :
  r.IsFrom provider day query.pair
  := by
  unfold PivotQuotes.answerOn at h
  split at h
  · rw [mapError_eq_ok_iff] at h
    apply RateDraft.isFrom_of_build h rfl rfl rfl rfl
  · split at h
    · rename_i term
      simp only [bind_eq_ok_iff, mapError_eq_ok_iff, orUnavailable_eq_ok_iff] at h
      obtain ⟨_, toPivot, rfl⟩ := h
      have quote := all.toPivot toPivot
      rw [← term] at quote
      apply quote.isFrom
    · split at h
      · rename_i base
        rw [orUnavailable_eq_ok_iff] at h
        have quote := all.fromPivot h
        rw [← base] at quote
        apply quote.isFrom
      · simp only [bind_eq_ok_iff, mapError_eq_ok_iff] at h
        obtain ⟨_, -, _, -, _, -, _, -, build⟩ := h
        apply RateDraft.isFrom_of_build build rfl rfl rfl rfl

/-- An answer is that on the first day that covers the query. -/
theorem bridge_eq_ok_iff :
  quotes.bridge provider query = .ok r
    ↔ ∃ day, (quotes.candidates query.asOf).find? (quotes.covers · query.base query.term)
          = some day
        ∧ quotes.answerOn provider query day = .ok r
  := by
  rw [bridge]
  split
  · rename_i day found
    simp [found]
  · rename_i none
    simp [none]

/-! ### Queries without an answer -/

/-- A quote that the rate of a pair needs is not there on a day. -/
def Lacks (quotes : PivotQuotes) (day : Date) (pair : CurrencyPair) : Prop :=
  pair.base ≠ quotes.pivot ∧ quotes.toPivot pair.base day = .ok none
    ∨ pair.term ≠ quotes.pivot ∧ quotes.fromPivot pair.term day = none

theorem orUnavailable_eq_error_iff {answer : Option RateRecord} {e : RateError} :
  orUnavailable query provider answer = .error e
    ↔ answer = none ∧ e = .unavailable query.pair provider
  := by cases answer <;> simp [orUnavailable, eq_comm]

/-- Why there is no answer on a day: a quote is not there, or the rate is out of range. -/
theorem answerOn_eq_error {e : RateError} (h : quotes.answerOn provider query day = .error e) :
  e = .unavailable query.pair provider ∧ quotes.Lacks day query.pair
    ∨ ∃ fault, e = .invalidRate fault
  := by
  unfold PivotQuotes.answerOn at h
  split at h
  · obtain ⟨fault, -, rfl⟩ := mapError_eq_error_iff.1 h
    exact .inr ⟨fault, rfl⟩
  · rename_i other
    split at h
    · rename_i term
      have base : query.base ≠ quotes.pivot := fun base => other ⟨base, term⟩
      simp only [bind_eq_error_iff, mapError_eq_error_iff, mapError_eq_ok_iff,
        orUnavailable_eq_error_iff] at h
      obtain ⟨fault, -, rfl⟩ | ⟨_, toPivot, rfl, rfl⟩ := h
      · exact .inr ⟨fault, rfl⟩
      · exact .inl ⟨rfl, .inl ⟨base, toPivot⟩⟩
    · rename_i term
      split at h
      · obtain ⟨fromPivot, rfl⟩ := orUnavailable_eq_error_iff.1 h
        exact .inl ⟨rfl, .inr ⟨term, fromPivot⟩⟩
      · rename_i base
        simp only [bind_eq_error_iff, mapError_eq_error_iff, mapError_eq_ok_iff,
          orUnavailable_eq_error_iff] at h
        obtain ⟨fault, -, rfl⟩ | ⟨_, toPivot, ⟨rfl, rfl⟩ | ⟨_, -, ⟨fromPivot, rfl⟩ | ⟨_, -, h⟩⟩⟩ := h
        · exact .inr ⟨fault, rfl⟩
        · exact .inl ⟨rfl, .inl ⟨base, toPivot⟩⟩
        · exact .inl ⟨rfl, .inr ⟨term, fromPivot⟩⟩
        · obtain ⟨fault, -, rfl⟩ | ⟨_, -, fault, -, rfl⟩ := h
          · exact .inr ⟨fault, rfl⟩
          · exact .inr ⟨fault, rfl⟩

/-- On a day that has all quotes that a query needs, an error is that its rate is out of
range. -/
theorem answerOn_ne_unavailable {pair : CurrencyPair} {name : String}
    (quoted : ¬ quotes.Lacks day query.pair) :
  quotes.answerOn provider query day ≠ .error (.unavailable pair name)
  := by
  intro h
  obtain ⟨-, lacks⟩ | ⟨fault, other⟩ := answerOn_eq_error h
  · apply quoted lacks
  · simp at other

/-- Why there is no answer: there is no such rate, or it is out of range. -/
theorem bridge_eq_error {e : RateError} (h : quotes.bridge provider query = .error e) :
  e = .unavailable query.pair provider ∨ ∃ fault, e = .invalidRate fault
  := by
  rw [bridge] at h
  split at h
  · obtain ⟨rfl, -⟩ | range := answerOn_eq_error h
    · exact .inl rfl
    · exact .inr range
  · exact .inl (Except.error.inj h).symm

end PivotQuotes

/-! ### The two layouts -/

/-- All that a direct table holds are quotes of one provider. -/
def DirectTable.IsOf (t : DirectTable) (provider : String) : Prop :=
  ∀ {day : Date} {currency : Currency} {r : RateRecord},
    t.leaf day currency = some r → r.IsQuoteOf provider day ⟨t.pivot, currency⟩

/-- All that a dual table gives are quotes of one provider. -/
structure DualTable.IsOf (t : DualTable) (provider : String) : Prop where
  toUnit {day : Date} {currency : Currency} {r : RateRecord} :
    t.toUnit? currency day = some r → r.IsQuoteOf provider day ⟨currency, t.unit⟩
  fromUnit {day : Date} {currency : Currency} {r : RateRecord} :
    t.fromUnit? currency day = some r → r.IsQuoteOf provider day ⟨t.unit, currency⟩

theorem DirectTable.IsOf.pivotQuotes {t : DirectTable} {provider : String}
    (all : t.IsOf provider) :
  t.pivotQuotes.AreOf provider
  := by
  constructor
  case toPivot =>
    intro currency day r h
    obtain ⟨quote, leaf, inverse⟩ := DirectTable.toPivot_eq_some_iff.1 h
    obtain ⟨today, quoted⟩ := all leaf
    exact ⟨today, quoted.invert inverse⟩
  case fromPivot =>
    intro currency day r h
    apply all h

theorem DualTable.IsOf.pivotQuotes {t : DualTable} {provider : String} (all : t.IsOf provider)
    (today : Date) :
  (t.pivotQuotes today).AreOf provider
  := by
  constructor
  case toPivot =>
    intro currency day r h
    apply all.toUnit
    simpa [DualTable.pivotQuotes] using h
  case fromPivot =>
    intro currency day r h
    apply all.fromUnit h

/-- The quotes of a table of either layout are all of one provider. -/
def RateTable.IsOf (table : RateTable) (provider : String) : Prop :=
  match table with
  | .empty => True
  | .direct t => t.IsOf provider
  | .dual t => t.IsOf provider

namespace RateTable

variable {table : RateTable} {provider : String} {query : RateQuery} {today : Date}

/-- A table of quotes of one reader is of its provider. -/
theorem IsSound.isOf {reader : FeedReader} {pivot : Currency} (sound : table.IsSound reader pivot) :
  table.IsOf reader.provider
  := by
  cases table with
  | empty => trivial
  | direct t =>
    intro day currency r leaf
    exact ⟨reader.today, sound.2 leaf⟩
  | dual t =>
    constructor
    · intro day currency r rate
      exact ⟨reader.today, sound.2.toUnit rate⟩
    · intro day currency r rate
      exact ⟨reader.today, sound.2.fromUnit rate⟩

/-- A table that is installed over another one is of one provider if both are and quote
against one pivot. -/
theorem IsOf.installed {current fresh : RateTable} (hc : current.IsOf provider)
    (hf : fresh.IsOf provider)
    (pivot : ∀ s t, current = .direct s → fresh = .direct t → s.pivot = t.pivot) :
  (current.installed fresh).IsOf provider
  := by
  apply installed_induction (·.IsOf provider) hf
  rintro s t rfl rfl day currency r leaf
  obtain new | old := DirectTable.leaf_of_overlay leaf
  · apply hf new
  · have quote := hc old
    rwa [pivot s t rfl rfl] at quote

/-- Whatever a table of a provider resolves a query to is a record of the provider for the pair
that was asked for. -/
theorem IsOf.resolve {r : RateRecord} (all : table.IsOf provider)
    (h : table.resolve provider query today = .ok r) :
  ∃ day, r.IsFrom provider day query.pair
  := by
  cases table with
  | empty => simp [RateTable.resolve] at h
  | direct t =>
    obtain ⟨day, -, answer⟩ := PivotQuotes.bridge_eq_ok_iff.1 h
    exact ⟨day, (DirectTable.IsOf.pivotQuotes all).answerOn answer⟩
  | dual t =>
    obtain ⟨day, -, answer⟩ := PivotQuotes.bridge_eq_ok_iff.1 h
    exact ⟨day, (DualTable.IsOf.pivotQuotes all today).answerOn answer⟩

/-- Why a table has no answer: there is no such rate, or it is out of range. -/
theorem resolve_eq_error {e : RateError} (h : table.resolve provider query today = .error e) :
  e = .unavailable query.pair provider ∨ ∃ fault, e = .invalidRate fault
  := by
  cases table with
  | empty => exact .inl (Except.error.inj h).symm
  | direct t => apply PivotQuotes.bridge_eq_error h
  | dual t => apply PivotQuotes.bridge_eq_error h

end RateTable

end CrossRate
