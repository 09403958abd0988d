import CrossRate.Calendar.Window
import CrossRate.Rate.Draft
import CrossRate.Rate.Query
import CrossRate.Table.Basic

/-!
# Resolution of queries

A query is answered from a table on the first day of a window that the table covers. A rate
that has the pivot on neither side is bridged: it goes to the pivot and from there to the
term, by two rates of that day. Both layouts are bridged alike (`PivotQuotes.bridge`) and
differ in their days and quotes only.
-/

namespace CrossRate

/-- The decimal digits that are kept of the inverse of a quote. -/
def inverseDigits : Nat := 16

/-- A table seen from its pivot. -/
structure PivotQuotes where
  pivot : Currency
  /-- The days to look at for a query that asks for a day or none, best one first. -/
  candidates : Option Date → List Date
  /-- Whether a day has what a query between two currencies needs. -/
  covers : Date → Currency → Currency → Bool
  /-- The rate from a currency to the pivot on a day. -/
  toPivot : Currency → Date → Except InvalidRate (Option RateRecord)
  /-- The rate from the pivot to a currency on a day. -/
  fromPivot : Currency → Date → Option RateRecord

/-- The opposite of a quote, its factor one divided by that of the quote. -/
def invert (quote : RateRecord) : Except InvalidRate RateRecord :=
  match quote.factor.inverse?.bind (·.roundSignificant? inverseDigits) with
  | none => .error (.notInvertible quote)
  | some factor =>
    { RateDraft.ofRecord quote with
      base := some quote.term, term := some quote.base, factor := some factor }.build

/-- The quotes of a direct table. It has rates from the pivot only; those to it are
inverted. -/
def DirectTable.pivotQuotes (t : DirectTable) : PivotQuotes where
  pivot := t.pivot
  candidates
    | some day => day.probeWindow
    | none => t.latest?.toList
  covers day _ _ := t.hasDay day
  toPivot currency day :=
    match t.leaf day currency with
    | some quote => (invert quote).map some
    | none => .ok none
  fromPivot currency day := t.leaf day currency

/-- The quotes of a dual table. Its rates lag behind today when no day is asked for. -/
def DualTable.pivotQuotes (t : DualTable) (today : Date) : PivotQuotes where
  pivot := t.unit
  candidates
    | some day => day.probeWindow
    | none => today.laggedWindow
  covers day base term :=
    if base = t.unit ∧ term = t.unit then t.hasDay day
    else
      (base = t.unit || (t.toUnit? base day).isSome)
        && (term = t.unit || (t.fromUnit? term day).isSome)
  toPivot currency day := .ok (t.toUnit? currency day)
  fromPivot currency day := t.fromUnit? currency day

namespace PivotQuotes

/-- A record, or the plain answer that there is none. -/
def orUnavailable (query : RateQuery) (provider : String) :
    Option RateRecord → Except RateError RateRecord
  | some r => .ok r
  | none => .error (.unavailable query.pair provider)

/-- The draft of a record that a provider derives for a query on a day. -/
def derived (query : RateQuery) (provider : String) (day : Date) : RateDraft :=
  { context := some ⟨provider, .historic⟩
    base := some query.base
    term := some query.term
    asOf := some day }

/-- The answer to a query on a day that covers it. -/
def answerOn (quotes : PivotQuotes) (provider : String) (query : RateQuery) (day : Date) :
    Except RateError RateRecord :=
  if query.base = quotes.pivot ∧ query.term = quotes.pivot then
    ({ derived query provider day with factor := some .one }.build).mapError .invalidRate
  else if query.term = quotes.pivot then do
    orUnavailable query provider (← (quotes.toPivot query.base day).mapError .invalidRate)
  else if query.base = quotes.pivot then
    orUnavailable query provider (quotes.fromPivot query.term day)
  else do
    let first ← (quotes.toPivot query.base day).mapError .invalidRate
    let first ← orUnavailable query provider first
    let second ← orUnavailable query provider (quotes.fromPivot query.term day)
    let factor ← (chainProduct [first, second]).mapError .invalidRate
    let draft := derived query provider day
    ({ draft with factor := some factor, chain := [first, second] }.build).mapError .invalidRate

/-- The answer to a query, on the first day that covers it. -/
def bridge (quotes : PivotQuotes) (provider : String) (query : RateQuery) :
    Except RateError RateRecord :=
  match (quotes.candidates query.asOf).find? (quotes.covers · query.base query.term) with
  | some day => quotes.answerOn provider query day
  | none => .error (.unavailable query.pair provider)

end PivotQuotes

/-- The answer of a provider to a query, from its table. -/
def RateTable.resolve (table : RateTable) (provider : String) (query : RateQuery)
    (today : Date) : Except RateError RateRecord :=
  match table with
  | empty => .error (.unavailable query.pair provider)
  | direct t => t.pivotQuotes.bridge provider query
  | dual t => (t.pivotQuotes today).bridge provider query

end CrossRate
