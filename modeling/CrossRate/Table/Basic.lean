import CrossRate.Rate.Error
import CrossRate.Table.Direct
import CrossRate.Table.Dual

/-!
# Rate tables

The table of a provider is empty, direct or dual. `installed` says what becomes of it when
a feed has been read anew.
-/

namespace CrossRate

/-- What a provider knows. -/
inductive RateTable where
  /-- Nothing has been loaded. -/
  | empty
  | direct (table : DirectTable)
  | dual (table : DualTable)

/-- The size of a table. -/
structure TableSummary where
  days : Nat
  currencies : Nat
  latest : Option Date

namespace RateTable

/-- Whether there is no rate in a table. -/
def isEmpty : RateTable → Bool
  | empty => true
  | direct t => t.days.isEmpty
  | dual t => t.isEmpty

/-- The pivot and the layout of a table, unless nothing has been loaded. -/
def shape? : RateTable → Option FeedShape
  | empty => none
  | direct t => some ⟨t.pivot, .direct⟩
  | dual t => some ⟨t.unit, .dual⟩

/-- The table after another one has been read: the days of a direct table are laid over
those of the current one, anything else takes its place. -/
def installed (current fresh : RateTable) : RateTable :=
  match current, fresh with
  | direct current, direct fresh => direct (current.overlay fresh)
  | _, fresh => fresh

def summary : RateTable → TableSummary
  | empty => ⟨0, 0, none⟩
  | direct t => ⟨t.days.size, t.currencies.length, t.latest?⟩
  | dual t => ⟨t.days.size, t.currencies.length, t.latest?⟩

end RateTable

end CrossRate
