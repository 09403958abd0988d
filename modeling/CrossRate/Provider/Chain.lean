import CrossRate.Catalog.Basic
import CrossRate.Rate.Draft
import CrossRate.Rate.Query

/-!
# Chains of providers

A chain asks its providers one after the other; the first rate that one of them gives is its
answer. Asking may change a state, such as that of the gates of the providers, and so the
chain passes a state on from one provider to the next.
-/

namespace CrossRate

/-- The name of the chain where a provider is asked for. -/
def chainName : String := "COMPOUND"

/-- The answer of the provider of rates between a currency and itself. -/
def identityRate (query : RateQuery) : Except RateError RateRecord :=
  if query.accepts Catalog.identityName && query.base = query.term then
    ({ context := some ⟨Catalog.identityName, .identity⟩
       base := some query.base
       term := some query.term
       factor := some .one
       asOf := query.asOf : RateDraft }.build).mapError .invalidRate
  else .error (.unavailable query.pair Catalog.identityName)

/-- The query for the opposite of a record on its day. -/
def RateRecord.reversal (r : RateRecord) : RateQuery :=
  { base := r.term, term := r.base, asOf := r.asOf }

/-- How the providers of a chain are asked in a state. -/
structure ChainAccess (π σ : Type) where
  /-- The name of a provider. -/
  name : π → String
  /-- The answer of a provider to a query. -/
  rate : π → RateQuery → σ → Except RateError RateRecord × σ
  /-- The answer of a provider for the opposite of a record. -/
  reversed : π → RateRecord → σ → Except RateError RateRecord × σ

namespace ChainAccess

variable {π σ : Type}

/-- The first provider of a name. -/
def find? (access : ChainAccess π σ) (chain : List π) (name : String) : Option π :=
  chain.find? (fun p => Text.sameIgnoringCase (access.name p) name)

/-- Whether a query lets some provider answer. -/
def isAvailable (access : ChainAccess π σ) (chain : List π) (query : RateQuery) : Bool :=
  chain.any (fun p => query.accepts (access.name p))

/-- The answer of the first provider that the query accepts and that has one. -/
def firstRate (access : ChainAccess π σ) (query : RateQuery) :
    List π → σ → Except RateError RateRecord × σ
  | [], state => (.error (.unavailable query.pair chainName), state)
  | p :: rest, state =>
    if query.accepts (access.name p) then
      match access.rate p query state with
      | (.ok r, state) => (.ok r, state)
      | (.error _, state) => access.firstRate query rest state
    else access.firstRate query rest state

/-- The opposite of a record, from the provider that gave it if it is in the chain. -/
def opposite (access : ChainAccess π σ) (chain : List π) (r : RateRecord) (state : σ) :
    Except RateError RateRecord × σ :=
  match access.find? chain r.provider with
  | some p => access.reversed p r state
  | none => access.firstRate r.reversal chain state

end ChainAccess

end CrossRate
