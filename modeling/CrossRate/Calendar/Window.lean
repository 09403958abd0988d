import CrossRate.Calendar.Date

/-!
# Windows of days

A rate asked for on one day may be quoted on one of the days before it. `probeWindow` is the
days to look at for a given day and `laggedWindow` those for a feed that lags behind today,
latest first.
-/

namespace CrossRate.Date

/-- How many days before the day asked for are looked at. -/
def probeDays : Nat := 3

/-- The day itself and the days before it, as far as the calendar goes. -/
def probeWindow (d : Date) : List Date := (List.range (probeDays + 1)).filterMap d.back?

/-- The days before today, as far as the calendar goes. -/
def laggedWindow (today : Date) : List Date := (List.range' 1 probeDays).filterMap today.back?

end CrossRate.Date
