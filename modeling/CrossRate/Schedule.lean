import CrossRate.Loading.Resource
import CrossRate.OrderedMap
import CrossRate.Settings.Loader

/-!
# Schedules

A `Schedule` has a ticker for each resource that is refreshed periodically. A ticker ticks
first once its delay and one period have passed, and then after each period, unless the first
tick lies beyond the range of the clock.
-/

namespace CrossRate

/-- What refreshes a resource periodically. -/
structure Ticker where
  /-- The seconds between two ticks. -/
  period : Nat
  /-- The seconds before the first period. -/
  delay : Nat
  /-- What tells the ticker from others of its resource. -/
  mark : Nat
deriving DecidableEq

namespace Ticker

/-- The last second that the clock can tell. -/
def lastSecond : Nat := Nat.pow 2 63 - 1

/-- The milliseconds between two ticks. -/
def interval (t : Ticker) : Nat := 1000 * t.period

/-- When a ticker that starts now ticks first, in milliseconds. -/
def firstTick? (t : Ticker) (now : Nat) : Option Nat :=
  if 0 < t.period ∧ now / 1000 + t.delay + t.period ≤ lastSecond then
    some (now + 1000 * t.delay + t.interval)
  else none

end Ticker

/-- The tickers of the resources that are refreshed periodically. -/
structure Schedule where
  tickers : OrderedMap String Ticker := .empty
  /-- How many tickers have been started. -/
  started : Nat := 0

namespace Schedule

/-- Whether a resource has a ticker. -/
def contains (s : Schedule) (id : String) : Bool := s.tickers.contains id

/-- How many resources have a ticker. -/
def size (s : Schedule) : Nat := s.tickers.size

/-- The ticker that a resource gets next. -/
def tickerFor (s : Schedule) (settings : LoaderSettings) (r : Resource) : Ticker :=
  ⟨(r.period?.filter (0 < ·)).getD settings.defaultPeriod, r.delay?.getD 0, s.started⟩

/-- Start a ticker for a resource, in place of the one that it has. -/
def start (s : Schedule) (settings : LoaderSettings) (r : Resource) : Schedule :=
  ⟨s.tickers.insert r.id (s.tickerFor settings r), s.started + 1⟩

/-- Stop all tickers. -/
def stop (s : Schedule) : Schedule := { s with tickers := .empty }

@[simp]
theorem contains_start (s : Schedule) (settings : LoaderSettings) (r : Resource) (id : String) :
  (s.start settings r).contains id = (decide (id = r.id) || s.contains id)
  := OrderedMap.contains_insert s.tickers r.id id _

@[simp]
theorem contains_stop (s : Schedule) (id : String) :
  s.stop.contains id = false
  := rfl

end Schedule

end CrossRate
