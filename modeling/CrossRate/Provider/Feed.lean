import CrossRate.Feed.Format
import CrossRate.Provider.Gate
import CrossRate.Settings.Provider
import CrossRate.Table.Resolution

/-!
# Providers with a feed

A `FeedProvider` answers queries from the table that it has read from its feed. `apply`
reads a payload: if it is good its table is installed, and if it is not nothing but the
record of failures changes. `rate` answers a query, and gives up on a provider that has not
loaded anything by then.
-/

namespace CrossRate

/-- How far a provider has come. It never goes back. -/
inductive ProviderStage where
  /-- It is not fed yet. -/
  | unconnected
  /-- It is fed, but has no table. -/
  | loading
  /-- It has a table. -/
  | ready
deriving DecidableEq

namespace ProviderStage

def print : ProviderStage → String
  | unconnected => "UNINITIALIZED"
  | loading => "LOADING"
  | ready => "READY"

/-- The place of a stage in their order. -/
def rank : ProviderStage → Nat
  | unconnected => 0
  | loading => 1
  | ready => 2

/-- The later of two stages. -/
def advance (stage next : ProviderStage) : ProviderStage :=
  if stage.rank < next.rank then next else stage

end ProviderStage

/-- A provider that answers from the table of its feed. -/
structure FeedProvider where
  settings : ProviderSettings
  format : FeedFormat
  table : RateTable := .empty
  stage : ProviderStage := .unconnected
  gate : Gate := .pending
  /-- Why the last load that failed did. -/
  lastFailure : Option String := none
  successes : Nat := 0
  failures : Nat := 0

/-- What is to be known about a provider. -/
structure ProviderStats where
  name : String
  stage : ProviderStage
  layout : Layout
  table : TableSummary
  successes : Nat
  failures : Nat
  lastFailure : Option String

namespace FeedProvider

def name (p : FeedProvider) : String := p.settings.name

/-- The provider once it is fed. -/
def connected (p : FeedProvider) : FeedProvider := { p with stage := p.stage.advance .loading }

/-- The provider after a load that failed for a reason. -/
def withFailure (p : FeedProvider) (reason : String) : FeedProvider :=
  { p with failures := p.failures + 1, lastFailure := some reason }

/-- Check that a table has the shape that the provider expects. -/
def checkShape (p : FeedProvider) (table : RateTable) : Except FeedFault RateTable :=
  match table.shape? with
  | some shape =>
    if shape = p.settings.shape then .ok table
    else .error (.unexpectedShape p.format.name shape p.settings.shape)
  | none => .ok table

/-- The table of a payload, if it has the shape that the provider expects. -/
def read (p : FeedProvider) (today : Date) (payload : Bytes) : Except RateError RateTable :=
  ((p.format.read ⟨p.name, today⟩ payload).bind p.checkShape).mapError
    (.unreadableFeed p.name)

/-- The provider with the table that results from a fresh one. -/
def install (p : FeedProvider) (fresh : RateTable) : FeedProvider :=
  { p with
    table := p.table.installed fresh
    successes := p.successes + 1
    stage := p.stage.advance .ready
    gate := (p.gate.release .opened).1 }

/-- Read a payload and install its table. -/
def apply (p : FeedProvider) (today : Date) (payload : Bytes) :
    Except RateError TableSummary × FeedProvider :=
  match p.read today payload with
  | .ok fresh => (.ok (p.install fresh).table.summary, p.install fresh)
  | .error e => (.error e, p.withFailure e.message)

/-- The answer from the table. -/
def answer (p : FeedProvider) (today : Date) (query : RateQuery) : Except RateError RateRecord :=
  p.table.resolve p.name query today

/-- Answer a query that has waited for as long as it may. -/
def rate (p : FeedProvider) (today : Date) (query : RateQuery) :
    Except RateError RateRecord × FeedProvider :=
  if !query.accepts p.name then (.error (.unavailable query.pair p.name), p)
  else if p.gate.isOpen then (p.answer today query, p)
  else (.error (.notLoaded p.name p.lastFailure), { p with gate := (p.gate.release .forced).1 })

/-- The query for the opposite of a record, on its day and to its provider alone. -/
def reversal (p : FeedProvider) (r : RateRecord) : RateQuery :=
  { base := r.term, term := r.base, asOf := r.asOf, providers := [p.name] }

def stats (p : FeedProvider) : ProviderStats :=
  ⟨p.name, p.stage, p.settings.shape.layout, p.table.summary, p.successes, p.failures,
    p.lastFailure⟩

end FeedProvider

/-- Write the size of a table as JSON. -/
def TableSummary.toJson (s : TableSummary) : Json :=
  .object [("days", .ofNat s.days), ("currencies", .ofNat s.currencies),
    ("latest", .ofOption (fun day => .string day.print) s.latest)]

/-- Write the statistics of a provider as JSON. -/
def ProviderStats.toJson (s : ProviderStats) : Json :=
  .object [("name", .string s.name), ("state", .string s.stage.print),
    ("strategy", .string s.layout.print), ("table", s.table.toJson),
    ("successful_loads", .ofNat s.successes), ("failed_loads", .ofNat s.failures),
    ("last_error", .ofOption .string s.lastFailure)]

end CrossRate
