import CrossRate.OrderedMap
import CrossRate.Rate.Record

/-!
# Dual tables

A `DualTable` holds two independent series of rates for each currency, one to a unit of
account and one from it. Rates are pushed in any order; `finish` puts every series in the
order of its days and keeps one rate a day, the last one pushed. Look-ups are for finished
tables.
-/

namespace CrossRate

/-- Rates between currencies and a unit of account, in both directions. -/
structure DualTable where
  /-- The currency that every rate has on one of its sides. -/
  unit : Currency
  /-- The rates from each currency to the unit. -/
  toUnit : OrderedMap Currency (List RateRecord)
  /-- The rates from the unit to each currency. -/
  fromUnit : OrderedMap Currency (List RateRecord)
  /-- The days for which some rate holds. -/
  days : OrderedMap Date Unit

namespace DualTable

/-- The table without rates. -/
def empty (unit : Currency) : DualTable := ⟨unit, .empty, .empty, .empty⟩

/-- The days with that of one more record. -/
def addDay (days : OrderedMap Date Unit) (r : RateRecord) : OrderedMap Date Unit :=
  match r.asOf with
  | some day => days.insert day ()
  | none => days

/-- The series with one more record at the end of that of a currency. -/
def addTo (series : OrderedMap Currency (List RateRecord)) (currency : Currency)
    (r : RateRecord) : OrderedMap Currency (List RateRecord) :=
  series.alter currency (fun records => records.getD [] ++ [r])

/-- Add a rate from a currency to the unit. -/
def pushToUnit (t : DualTable) (r : RateRecord) : DualTable :=
  { t with toUnit := addTo t.toUnit r.base r, days := addDay t.days r }

/-- Add a rate from the unit to a currency. -/
def pushFromUnit (t : DualTable) (r : RateRecord) : DualTable :=
  { t with fromUnit := addTo t.fromUnit r.term r, days := addDay t.days r }

/-- Whether one day is not after another; no day at all is before every day. -/
def notAfter : Option Date → Option Date → Bool
  | none, _ => true
  | some _, none => false
  | some a, some b => !decide (b < a)

/-- Of neighbours with the same day, keep the last one. -/
def keepLast : List RateRecord → List RateRecord
  | [] => []
  | [r] => [r]
  | r :: s :: rest =>
    if r.asOf = s.asOf then keepLast (s :: rest) else r :: keepLast (s :: rest)

/-- A series in the order of its days, with the last record of each day. -/
def inOrder (series : List RateRecord) : List RateRecord :=
  keepLast (series.mergeSort (fun r s => notAfter r.asOf s.asOf))

/-- The table with every series in order. -/
def finish (t : DualTable) : DualTable :=
  { t with toUnit := t.toUnit.mapValues inOrder, fromUnit := t.fromUnit.mapValues inOrder }

/-- The record of a series that holds for a day. -/
def lookup (series : Option (List RateRecord)) (day : Date) : Option RateRecord :=
  (series.getD []).find? (·.asOf = some day)

/-- The rate from a currency to the unit on a day. -/
def toUnit? (t : DualTable) (currency : Currency) (day : Date) : Option RateRecord :=
  lookup (t.toUnit.get? currency) day

/-- The rate from the unit to a currency on a day. -/
def fromUnit? (t : DualTable) (currency : Currency) (day : Date) : Option RateRecord :=
  lookup (t.fromUnit.get? currency) day

/-- Whether some rate holds for a day. -/
def hasDay (t : DualTable) (day : Date) : Bool := t.days.contains day

/-- The last day for which some rate holds. -/
def latest? (t : DualTable) : Option Date := t.days.greatestKey?

/-- Whether no rate has been pushed. -/
def isEmpty (t : DualTable) : Bool := t.toUnit.isEmpty && t.fromUnit.isEmpty

/-- The currencies with a rate in some direction. -/
def currencies (t : DualTable) : List Currency := (t.toUnit.keys ++ t.fromUnit.keys).eraseDups

/-- The rates to the unit that can be looked up, by day and then by currency. -/
def ratesToUnit (t : DualTable) : List RateRecord :=
  t.days.keys.flatMap (fun day => t.toUnit.keys.filterMap (t.toUnit? · day))

/-- The rates from the unit that can be looked up, by day and then by currency. -/
def ratesFromUnit (t : DualTable) : List RateRecord :=
  t.days.keys.flatMap (fun day => t.fromUnit.keys.filterMap (t.fromUnit? · day))

end DualTable

end CrossRate
