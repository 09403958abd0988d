/-!
# Gates

A gate holds the queries to a provider back until its first load has succeeded or a query
has given up waiting. It is released once, and stays as it was released.
-/

namespace CrossRate

/-- How a gate stands. -/
inductive Gate where
  /-- No load has succeeded yet. -/
  | pending
  /-- A load has succeeded. -/
  | opened
  /-- A query has given up waiting. -/
  | forced
deriving DecidableEq

namespace Gate

def print : Gate → String
  | pending => "Pending"
  | opened => "Open"
  | forced => "ForcedOpen"

/-- Whether queries may pass. -/
def isOpen (g : Gate) : Bool := g ≠ .pending

/-- A gate after somebody has tried to release it in some way, and whether that did. -/
def release (g : Gate) (way : Gate) : Gate × Bool :=
  if g = .pending then (way, way.isOpen) else (g, false)

/-- Whether a query that waits for a time passes a gate that is released after another time,
if ever. Times in milliseconds; a release at the last moment is in time. -/
def passes (g : Gate) (timeout : Nat) (released : Option Nat) : Bool :=
  g.isOpen || released.any (· ≤ timeout)

end Gate

end CrossRate
