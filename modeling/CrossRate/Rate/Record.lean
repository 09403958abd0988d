import CrossRate.Calendar.Written
import CrossRate.Currency
import CrossRate.Decimal.Basic
import CrossRate.Json.Basic

/-!
# Rate records

A `RateRecord` is an answer: how many units of its term one unit of its base is worth, who
says so, and for which day. A record that was derived from others keeps them as its chain.
-/

namespace CrossRate

/-- How fresh a rate is. -/
inductive RateKind where
  /-- A live quote. -/
  | spot
  /-- A quote for a past day. -/
  | historic
  /-- A quote for today, published with a delay. -/
  | deferred
  /-- The conversion of a currency to itself. -/
  | identity
deriving DecidableEq

namespace RateKind

def print : RateKind → String
  | spot => "spot"
  | historic => "historic"
  | deferred => "deferred"
  | identity => "identity"

/-- The kind of a name. -/
def ofName? (name : String) : Option RateKind :=
  [spot, historic, deferred, identity].find? (·.print == name)

end RateKind

/-- Who gives a rate, and how fresh it is. -/
structure RateContext where
  provider : String
  kind : RateKind
deriving DecidableEq

namespace RateContext

/-- Write a context as JSON. -/
def toJson (c : RateContext) : Json :=
  .object [("provider", .string c.provider), ("kind", .string c.kind.print)]

/-- Read a context from JSON. -/
def ofJson? (json : Json) : Option RateContext := do
  match ← json.record? ["provider", "kind"] with
  | [provider, kind] =>
    let provider ← (← provider).asString?
    let kind ← RateKind.ofName? (← (← kind).variant?)
    return ⟨provider, kind⟩
  | _ => none

end RateContext

/-- The rate at which a unit of `base` converts to units of `term`. -/
structure RateRecord where
  context : RateContext
  base : Currency
  term : Currency
  /-- What one unit of `base` is worth in units of `term`. -/
  factor : Decimal
  /-- The rates that this one was derived from, each continuing the one before it. -/
  chain : List RateRecord
  /-- The day for which the rate holds. -/
  asOf : Option Date

namespace RateRecord

/-- The direction of the rate. -/
def pair (r : RateRecord) : CurrencyPair := ⟨r.base, r.term⟩

/-- The name of the provider that gave the rate. -/
def provider (r : RateRecord) : String := r.context.provider

/-- How fresh the rate is. -/
def kind (r : RateRecord) : RateKind := r.context.kind

/-- Whether the rate was derived from others. -/
def isDerived (r : RateRecord) : Bool := !r.chain.isEmpty

def print (r : RateRecord) : String :=
  r.pair.print ++ " " ++ r.factor.print ++ " (" ++ r.provider ++ ", " ++ r.kind.print
    ++ (match r.asOf with
      | some day => ", " ++ day.print
      | none => "")
    ++ ")"

/-- The fields of a record in JSON, given those of its chain. -/
def jsonOf (context : RateContext) (base term : Currency) (factor : Decimal) (chain : List Json)
    (asOf : Option Date) : Json :=
  .object ([("context", context.toJson), ("base", .string base.code),
      ("term", .string term.code), ("factor", .string factor.print)]
    ++ (if chain.isEmpty then [] else [("chain", .array chain)])
    ++ [("as_of", .ofOption (fun day => .string day.print) asOf)])

mutual

/-- Write a record as JSON. -/
def toJson : RateRecord → Json
  | ⟨context, base, term, factor, chain, asOf⟩ =>
    jsonOf context base term factor (chainToJson chain) asOf

/-- Write the records of a chain as JSON. -/
def chainToJson : List RateRecord → List Json
  | [] => []
  | r :: rest => toJson r :: chainToJson rest

end

end RateRecord

end CrossRate
