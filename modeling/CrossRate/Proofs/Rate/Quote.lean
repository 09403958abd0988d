import CrossRate.Feed.Basic
import CrossRate.Table.Resolution
import Mathlib.Tactic.Common

/-!
# Building records

What `RateDraft.build` makes of a draft, and the records that come of it: the quotes of a
feed (`FeedReader.quote?`) and their inverses (`invert`). Both are quotes of one kind,
`RateRecord.IsQuote`: they stand for themselves, without a chain, and hold for a day.
-/

namespace CrossRate

/-- What is left of a result when its errors are dropped. -/
theorem toOption_eq_some_iff {ε α : Type} {result : Except ε α} {a : α} :
  result.toOption = some a ↔ result = .ok a
  := by cases result <;> simp [Except.toOption]

theorem mapError_eq_ok_iff {ε δ α : Type} {f : ε → δ} {result : Except ε α} {a : α} :
  result.mapError f = .ok a ↔ result = .ok a
  := by cases result <;> simp [Except.mapError]

theorem bind_eq_ok_iff {ε α β : Type} {result : Except ε α} {f : α → Except ε β} {b : β} :
  result >>= f = .ok b ↔ ∃ a, result = .ok a ∧ f a = .ok b
  := by cases result <;> simp [bind, Except.bind]

theorem mapError_eq_error_iff {ε δ α : Type} {f : ε → δ} {result : Except ε α} {e : δ} :
  result.mapError f = .error e ↔ ∃ x, result = .error x ∧ f x = e
  := by cases result <;> simp [Except.mapError]

theorem bind_eq_error_iff {ε α β : Type} {result : Except ε α} {f : α → Except ε β} {e : ε} :
  result >>= f = .error e ↔ result = .error e ∨ ∃ a, result = .ok a ∧ f a = .error e
  := by cases result <;> simp [bind, Except.bind]

namespace RateDraft

/-- A factor fits a chain if there is no chain, or if it is the product of its factors. -/
theorem checkChain_eq_ok_iff {pair : CurrencyPair} {factor : Decimal} {chain : List RateRecord} :
  checkChain pair factor chain = .ok ()
    ↔ chain = [] ∨ ∃ product, chainProduct chain = .ok product ∧ product.sameValue factor
  := by
  cases chain with
  | nil => simp [checkChain]
  | cons first rest =>
    simp only [checkChain, List.isEmpty_cons, Bool.false_eq_true, if_false]
    cases h : chainProduct (first :: rest) with
    | error e => simp
    | ok product => by_cases same : product.sameValue factor <;> simp [same]

/-- A draft makes a record if all parts of the record are in it, the factor is positive and
it fits the chain. -/
theorem build_eq_ok_iff {d : RateDraft} {r : RateRecord} :
  d.build = .ok r
    ↔ d = ofRecord r ∧ r.factor.isPositive ∧ checkChain r.pair r.factor r.chain = .ok ()
  := by
  obtain ⟨context, base, term, factor, chain, asOf⟩ := d
  obtain ⟨context', base', term', factor', chain', asOf'⟩ := r
  simp only [build, ofRecord, RateRecord.pair, RateDraft.mk.injEq]
  split
  · simp
  · simp
  · simp
  · simp
  · rename_i context base term factor
    constructor
    · intro h
      split at h
      · rename_i positive
        split at h
        · rename_i fits
          obtain ⟨rfl, rfl, rfl, rfl, rfl, rfl⟩ := by simpa using h
          exact ⟨⟨rfl, rfl, rfl, rfl, rfl, rfl⟩, positive, fits⟩
        · simp at h
      · simp at h
    · rintro ⟨⟨⟨⟩, ⟨⟩, ⟨⟩, ⟨⟩, rfl, rfl⟩, positive, fits⟩
      rw [if_pos positive, fits]

end RateDraft

/-- A record that stands for itself: for the rate of a pair on a day, as a reader of a feed
gives it. -/
structure RateRecord.IsQuote (r : RateRecord) (reader : FeedReader) (day : Date)
    (pair : CurrencyPair) : Prop where
  pair : r.pair = pair
  provider : r.provider = reader.provider
  kind : r.kind = if day = reader.today then .deferred else .historic
  positive : r.factor.isPositive
  chain : r.chain = []
  asOf : r.asOf = some day

namespace FeedReader

/-- The record of a factor that a feed quotes on a day. -/
def record (reader : FeedReader) (day : Date) (pair : CurrencyPair) (factor : Decimal) :
    RateRecord :=
  ⟨reader.contextOn day, pair.base, pair.term, factor, [], some day⟩

/-- A feed quotes a factor if it is positive. -/
theorem quote?_eq_some_iff {reader : FeedReader} {day : Date} {pair : CurrencyPair}
    {factor : Decimal} {r : RateRecord} :
  reader.quote? day pair factor = some r
    ↔ factor.isPositive ∧ r = reader.record day pair factor
  := by
  rw [quote?, toOption_eq_some_iff, RateDraft.build_eq_ok_iff,
    RateDraft.checkChain_eq_ok_iff]
  obtain ⟨context, base, term, factor', chain, asOf⟩ := r
  simp only [RateDraft.ofRecord, record, RateDraft.mk.injEq, RateRecord.mk.injEq]
  constructor
  · rintro ⟨⟨⟨⟩, ⟨⟩, ⟨⟩, ⟨⟩, rfl, rfl⟩, positive, -⟩
    exact ⟨positive, rfl, rfl, rfl, rfl, rfl, rfl⟩
  · rintro ⟨positive, rfl, rfl, rfl, rfl, rfl, rfl⟩
    exact ⟨⟨rfl, rfl, rfl, rfl, rfl, rfl⟩, positive, .inl rfl⟩

/-- A feed quotes the positive factors. -/
theorem quote?_eq_ite {reader : FeedReader} (day : Date) (pair : CurrencyPair)
    (factor : Decimal) :
  reader.quote? day pair factor
    = if factor.isPositive then some (reader.record day pair factor) else none
  := by
  apply Option.ext
  intro r
  rw [quote?_eq_some_iff]
  split
  · rename_i positive
    simp [positive, eq_comm]
  · rename_i positive
    simp [positive]

theorem isQuote_record {reader : FeedReader} {day : Date} {pair : CurrencyPair}
    {factor : Decimal} (positive : factor.isPositive) :
  (reader.record day pair factor).IsQuote reader day pair
  := ⟨rfl, rfl, rfl, positive, rfl, rfl⟩

/-- What a feed quotes is a quote. -/
theorem isQuote_quote? {reader : FeedReader} {day : Date} {pair : CurrencyPair}
    {factor : Decimal} {r : RateRecord} (h : reader.quote? day pair factor = some r) :
  r.IsQuote reader day pair
  := by
  obtain ⟨positive, rfl⟩ := quote?_eq_some_iff.1 h
  apply isQuote_record positive

end FeedReader

/-- The inverse of a quote is a quote of the opposite direction. -/
theorem RateRecord.IsQuote.invert {quote r : RateRecord} {reader : FeedReader} {day : Date}
    {pair : CurrencyPair} (hq : quote.IsQuote reader day pair)
    (h : CrossRate.invert quote = .ok r) :
  r.IsQuote reader day pair.inverse
  := by
  unfold CrossRate.invert at h
  split at h
  · simp at h
  · rename_i factor _
    obtain ⟨draft, positive, -⟩ := RateDraft.build_eq_ok_iff.1 h
    obtain ⟨context, base, term, factor', chain, asOf⟩ := r
    simp only [RateDraft.ofRecord, RateDraft.mk.injEq, Option.some.injEq] at draft
    obtain ⟨rfl, rfl, rfl, rfl, rfl, rfl⟩ := draft
    obtain ⟨rfl, provider, kind, -, chain, asOf⟩ := hq
    exact ⟨rfl, provider, kind, positive, chain, asOf⟩

end CrossRate
