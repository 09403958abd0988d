import CrossRate.Memo
import CrossRate.Provider.Chain
import CrossRate.Runner.Providers
import CrossRate.Settings.Engine

/-!
# Engines

An `Engine` answers queries by a chain of providers of the catalog, and remembers the answers.
`assemble` sets one up in a world: each provider with a feed is added to the desk and fed from
its resource, which is registered for it unless it is already.
-/

namespace CrossRate

/-- A provider in the chain of an engine. -/
inductive Link where
  /-- The provider that answers for a currency and itself. -/
  | identity
  /-- A provider with a feed, and its number at the desk. -/
  | feed (name : String) (number : Nat)

namespace Link

def name : Link → String
  | identity => Catalog.identityName
  | feed name _ => name

end Link

/-- A chain of providers with a memo. -/
structure Engine where
  settings : EngineSettings
  /-- The providers, in the order in which they are asked. -/
  links : List Link
  /-- What is remembered, unless nothing is to be. -/
  memo : Option Memo

namespace Runner

variable {ω η : Type} (h : Runner ω η)

/-- How the links of an engine are asked. -/
def access : ChainAccess Link ω where
  name := Link.name
  rate
    | .identity, query, w => (identityRate query, w)
    | .feed _ number, query, w => h.rate number query w
  reversed
    | .identity, r, w => (.ok r, w)
    | .feed _ number, r, w => h.reversed number r w

/-- Add a provider of the catalog and feed it. -/
def enroll (entry : Catalog.Entry) (loadTimeout : Nat) (w : ω) : Except RateError Link × ω :=
  let number := (h.desk w).providers.length
  let provider : FeedProvider := { settings := entry.settings loadTimeout, format := entry.format }
  let w := h.modifyDesk (·.addProvider provider) w
  let link := Link.feed entry.name number
  if (h.loader w).isRegistered provider.settings.resource then
    match h.connect number w with
    | (.ok (), w) => (.ok link, w)
    | (.error e, w) => (.error e, w)
  else
    match h.register entry.resource (h.modifyDesk (·.attach number) w) with
    | (.ok registration, w) => (.ok link, h.adopt number registration w)
    | (.error e, w) => (.error (.loading e), w)

/-- The link of a provider's name. -/
def linkOf (loadTimeout : Nat) (name : String) (w : ω) : Except RateError Link × ω :=
  if Text.sameIgnoringCase name Catalog.identityName then (.ok .identity, w)
  else
    match Catalog.find? name with
    | some entry => h.enroll entry loadTimeout w
    | none => (.error (.invalidSettings (.unknownProvider name)), w)

/-- The links of the names of providers, one after the other. -/
def linksOf (loadTimeout : Nat) : List String → ω → Except RateError (List Link) × ω
  | [], w => (.ok [], w)
  | name :: rest, w =>
    match h.linkOf loadTimeout name w with
    | (.error e, w) => (.error e, w)
    | (.ok link, w) =>
      match linksOf loadTimeout rest w with
      | (.error e, w) => (.error e, w)
      | (.ok links, w) => (.ok (link :: links), w)

end Runner

namespace Engine

variable {ω η : Type} (h : Runner ω η)

/-- The memo that settings ask for. -/
def memoOf (s : EngineSettings) : Option Memo :=
  if s.remembers then some ⟨Memo.lifetimeOf s.lifetime, s.capacity, []⟩ else none

/-- Set an engine up. -/
def assemble (s : EngineSettings) (w : ω) : Except RateError Engine × ω :=
  match s.validate with
  | .error fault => (.error (.invalidSettings fault), w)
  | .ok () =>
    match h.linksOf s.loadTimeout s.providers w with
    | (.error e, w) => (.error e, w)
    | (.ok links, w) => (.ok ⟨s, links, memoOf s⟩, w)

/-- What is remembered as the answer to a query. -/
def remembered? (e : Engine) (now : Nat) (query : RateQuery) : Option RateRecord × Engine :=
  match e.memo with
  | some memo =>
    let (answer, memo) := memo.get now query
    (answer, { e with memo := some memo })
  | none => (none, e)

/-- Remember the answer to a query. -/
def remember (e : Engine) (now : Nat) (query : RateQuery) (answer : RateRecord) : Engine :=
  { e with memo := e.memo.map (·.insert now query answer) }

/-- Answer a query. -/
def rate (e : Engine) (now : Nat) (query : RateQuery) (w : ω) :
    Except RateError RateRecord × Engine × ω :=
  match e.remembered? now query with
  | (some answer, e) => (.ok answer, e, w)
  | (none, e) =>
    match h.access.firstRate query e.links w with
    | (.ok answer, w) => (.ok answer, e.remember now query answer, w)
    | (.error x, w) => (.error x, e, w)

/-- The opposite of a record, from the provider that gave it. -/
def reversed (e : Engine) (r : RateRecord) (w : ω) : Except RateError RateRecord × ω :=
  h.access.opposite e.links r w

/-- Whether a query lets some provider answer. -/
def isAvailable (e : Engine) (query : RateQuery) : Bool := h.access.isAvailable e.links query

/-- The name of the provider that is meant by a name. -/
def findName? (e : Engine) (name : String) : Option String :=
  (h.access.find? e.links name).map Link.name

/-- The names of the providers. -/
def names (e : Engine) : List String := e.links.map Link.name

/-- The number of the provider with a feed that is meant by a name, the last one if there are
several. -/
def numberOf? (e : Engine) (name : String) : Option Nat :=
  e.links.reverse.findSome? fun
    | .feed known number => if Text.sameIgnoringCase known name then some number else none
    | .identity => none

/-- The statistics of the providers with a feed, for each name in the settings. -/
def stats (e : Engine) (w : ω) : List ProviderStats :=
  e.settings.providers.filterMap fun name =>
    (e.numberOf? name).bind fun number => (h.desk w).providers[number]?.map (·.stats)

/-- Stop refreshing the resources and forget the answers. -/
def shutdown (e : Engine) (w : ω) : Engine × ω :=
  ({ e with memo := e.memo.map (·.clear) }, h.shutdown w)

end Engine

end CrossRate
