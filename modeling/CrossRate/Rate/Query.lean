import CrossRate.Calendar.Written
import CrossRate.Currency
import CrossRate.Json.Basic

/-!
# Rate queries

A `RateQuery` asks for the rate from one currency to another, on a day or as recent as may
be, from some providers or from any. `ofJson?` and `toJson` are its written form.
-/

namespace CrossRate

/-- A question for the rate between two currencies. -/
structure RateQuery where
  /-- The currency converted from. -/
  base : Currency
  /-- The currency converted to. -/
  term : Currency
  /-- The day for which the rate is asked; the most recent one if there is none. -/
  asOf : Option Date := none
  /-- The names of the providers that may answer; any may if there are none. -/
  providers : List String := []
deriving DecidableEq

namespace RateQuery

/-- The direction asked for. -/
def pair (q : RateQuery) : CurrencyPair := ⟨q.base, q.term⟩

/-- The same query for a given day. -/
def on (q : RateQuery) (day : Date) : RateQuery := { q with asOf := some day }

/-- The same query, which the providers of some more names may answer. -/
def withProviders (q : RateQuery) (names : List String) : RateQuery :=
  { q with providers := q.providers ++ names }

/-- The query in the opposite direction. -/
def reversed (q : RateQuery) : RateQuery := { q with base := q.term, term := q.base }

/-- Whether the provider of a name may answer. -/
def accepts (q : RateQuery) (provider : String) : Bool :=
  q.providers.isEmpty || q.providers.any (Text.sameIgnoringCase · provider)

def print (q : RateQuery) : String :=
  q.pair.print
    ++ (match q.asOf with
      | some day => " on " ++ day.print
      | none => "")
    ++ (if q.providers.isEmpty then "" else " via " ++ ",".intercalate q.providers)

/-- Read a currency from JSON. -/
def currency? (json : Json) : Option Currency :=
  json.asString?.bind (fun text => (Currency.parse text).toOption)

/-- Read a day from JSON, null counting as none. -/
def day? : Json → Option (Option Date)
  | .null => some none
  | .string s => (Date.parse? s).map some
  | _ => none

/-- Read a query from JSON. -/
def ofJson? (json : Json) : Option RateQuery := do
  match ← json.record? ["base", "term", "as_of", "providers"] with
  | [base, term, asOf, providers] =>
    let base ← currency? (← base)
    let term ← currency? (← term)
    let asOf ← Json.orDefault none day? asOf
    let providers ← Json.orDefault [] Json.asStrings? providers
    return ⟨base, term, asOf, providers⟩
  | _ => none

/-- Write a query as JSON. -/
def toJson (q : RateQuery) : Json :=
  .object [("base", .string q.base.code), ("term", .string q.term.code),
    ("as_of", .ofOption (fun day => .string day.print) q.asOf),
    ("providers", .ofList .string q.providers)]

end RateQuery

end CrossRate
