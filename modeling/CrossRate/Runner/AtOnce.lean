import CrossRate.Runner.Providers

/-!
# Loads at once

In an `Office` every load ends as soon as it is begun, since all locations answer at once.
Nothing goes on in the background: tickers are kept but do not tick, and to wait for a gate is
of no use.
-/

namespace CrossRate

/-- A desk with a schedule. -/
structure Office where
  desk : Desk
  schedule : Schedule := {}

namespace Office

/-- Do a load. -/
def load (ask : Desk → Location → Except LoadError Bytes) (id : String) (way : LoadWay)
    (o : Office) : Except LoadError Layer × Office :=
  let (outcome, desk) := o.desk.perform (fun question => ask o.desk question.location) id way
  (outcome, { o with desk := desk })

/-- The runner of loads that end at once, given what locations answer. -/
def runner (ask : Desk → Location → Except LoadError Bytes) :
    Runner Office (Except LoadError Layer) where
  desk := desk
  setDesk desk o := { o with desk := desk }
  schedule := schedule
  setSchedule schedule o := { o with schedule := schedule }
  load := load ask
  start id o := load ask id .full o
  await outcome o := (outcome, o)
  watch outcome number o := { o with desk := o.desk.noteFirstLoad number outcome }
  wind _ _ o := o
  awaitGate _ o := o

end Office

end CrossRate
