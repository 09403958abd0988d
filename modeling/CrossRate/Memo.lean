import CrossRate.Rate.Query
import CrossRate.Rate.Record

/-!
# Remembered answers

A `Memo` keeps the answers to queries for some time. It holds no more answers than its
capacity: when it is full, those that have expired are dropped, and if none has, all are.
Times are milliseconds of one clock.
-/

namespace CrossRate

/-- An answer that is remembered. -/
structure MemoEntry where
  query : RateQuery
  answer : RateRecord
  /-- When the answer was given. -/
  since : Nat

/-- A store of answers. -/
structure Memo where
  /-- For how long an answer is good. -/
  lifetime : Nat
  /-- How many answers are kept. -/
  capacity : Nat
  /-- The answers, one for each query. -/
  entries : List MemoEntry := []

/-- The numbers of answers in a memo. -/
structure MemoCounts where
  total : Nat
  valid : Nat
  expired : Nat

namespace Memo

/-- The longest time that can be measured, in milliseconds. -/
def longestLifetime : Nat := 9223372036854775807

/-- For how long answers are good when they are to be so for some milliseconds: a time that is too
long to be measured becomes one day. -/
def lifetimeOf (milliseconds : Nat) : Nat :=
  if milliseconds ≤ longestLifetime then milliseconds else 24 * 60 * 60 * 1000

/-- Whether an answer is still good. -/
def isValid (m : Memo) (now : Nat) (e : MemoEntry) : Bool := now < e.since + m.lifetime

def size (m : Memo) : Nat := m.entries.length

/-- The memo without the answer to a query. -/
def erase (m : Memo) (query : RateQuery) : Memo :=
  { m with entries := m.entries.filter (·.query ≠ query) }

def clear (m : Memo) : Memo := { m with entries := [] }

/-- Drop the answers that have expired. -/
def evict (m : Memo) (now : Nat) : Memo := { m with entries := m.entries.filter (m.isValid now) }

/-- The answer to a query, if it is remembered and still good; if it is not good any more, it
is dropped. -/
def get (m : Memo) (now : Nat) (query : RateQuery) : Option RateRecord × Memo :=
  match m.entries.find? (·.query = query) with
  | none => (none, m)
  | some e => if m.isValid now e then (some e.answer, m) else (none, m.erase query)

/-- The memo with room for another answer. -/
def makeRoom (m : Memo) (now : Nat) : Memo :=
  if m.size < m.capacity then m
  else if (m.evict now).size < m.capacity then m.evict now
  else m.clear

/-- Remember the answer to a query. -/
def insert (m : Memo) (now : Nat) (query : RateQuery) (answer : RateRecord) : Memo :=
  let roomy := m.makeRoom now
  { roomy with entries := ⟨query, answer, now⟩ :: (roomy.erase query).entries }

/-- How many answers there are, and how many of them are good. -/
def counts (m : Memo) (now : Nat) : MemoCounts :=
  let valid := (m.entries.filter (m.isValid now)).length
  ⟨m.size, valid, m.size - valid⟩

end Memo

namespace MemoCounts

/-- Write counts as JSON. -/
def toJson (c : MemoCounts) : Json :=
  .object [("total_entries", .ofNat c.total), ("valid_entries", .ofNat c.valid),
    ("expired_entries", .ofNat c.expired)]

end MemoCounts

end CrossRate
