import CrossRate.Decimal.Arithmetic
import CrossRate.Rate.Error

/-!
# Drafts of records

A `RateDraft` gathers the parts of a record, and `build` makes the record once they fit
together: all parts are there, the factor is positive, and it is the product of the factors
of the chain, unless the chain is empty.
-/

namespace CrossRate

/-- The product of the factors of a chain, in order. -/
def chainProduct (chain : List RateRecord) : Except InvalidRate Decimal :=
  chain.foldlM
    (fun product r =>
      match product.mul? r.factor with
      | some product => .ok product
      | none => .error .productOverflows)
    .one

/-- The parts of a record, as far as they are known. -/
structure RateDraft where
  context : Option RateContext := none
  base : Option Currency := none
  term : Option Currency := none
  factor : Option Decimal := none
  chain : List RateRecord := []
  asOf : Option Date := none

namespace RateDraft

/-- The parts of a record. -/
def ofRecord (r : RateRecord) : RateDraft :=
  ⟨some r.context, some r.base, some r.term, some r.factor, r.chain, r.asOf⟩

/-- Whether a factor is the product of those of a chain, unless the chain is empty. -/
def checkChain (pair : CurrencyPair) (factor : Decimal) (chain : List RateRecord) :
    Except InvalidRate Unit :=
  if chain.isEmpty then .ok ()
  else
    match chainProduct chain with
    | .error e => .error e
    | .ok product =>
      if product.sameValue factor then .ok ()
      else .error (.differsFromChain factor pair product)

/-- The record of the parts. -/
def build (d : RateDraft) : Except InvalidRate RateRecord :=
  match d.context, d.base, d.term, d.factor with
  | none, _, _, _ => .error .missingContext
  | some _, none, _, _ => .error .missingBase
  | some _, some _, none, _ => .error .missingTerm
  | some _, some base, some term, none => .error (.missingFactor ⟨base, term⟩)
  | some context, some base, some term, some factor =>
    if factor.isPositive then
      match checkChain ⟨base, term⟩ factor d.chain with
      | .ok () => .ok ⟨context, base, term, factor, d.chain, d.asOf⟩
      | .error e => .error e
    else .error (.notPositive factor ⟨base, term⟩)

end RateDraft

end CrossRate
