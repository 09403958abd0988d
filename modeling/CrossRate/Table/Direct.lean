import CrossRate.OrderedMap
import CrossRate.Rate.Record

/-!
# Direct tables

A `DirectTable` holds, for each day, the quotes from one pivot currency to others. `leaf`
looks a quote up, and `overlay` lays newer days over older ones, each day as a whole.
-/

namespace CrossRate

/-- Quotes from a pivot to other currencies, day by day. -/
structure DirectTable where
  /-- The base of every quote. -/
  pivot : Currency
  /-- The quotes of each day by their term. -/
  days : OrderedMap Date (OrderedMap Currency RateRecord)

namespace DirectTable

/-- The table without quotes. -/
def empty (pivot : Currency) : DirectTable := ⟨pivot, .empty⟩

/-- Add a quote on a day, in place of the one that its currency has there. -/
def insert (t : DirectTable) (day : Date) (quote : RateRecord) : DirectTable :=
  { t with days := t.days.alter day (fun quotes => (quotes.getD .empty).insert quote.term quote) }

/-- The quote for a currency on a day. -/
def leaf (t : DirectTable) (day : Date) (currency : Currency) : Option RateRecord :=
  (t.days.get? day).bind (·.get? currency)

/-- Whether there is a quote on a day. -/
def hasDay (t : DirectTable) (day : Date) : Bool := t.days.contains day

/-- The last day with a quote. -/
def latest? (t : DirectTable) : Option Date := t.days.greatestKey?

/-- All quotes, by day and then by currency. -/
def quotes (t : DirectTable) : List RateRecord := t.days.values.flatMap (·.values)

/-- The currencies that are quoted on some day. -/
def currencies (t : DirectTable) : List Currency := (t.days.values.flatMap (·.keys)).eraseDups

/-- The days of this table under those of a newer one. A day that both have is the newer
one's. -/
def overlay (older newer : DirectTable) : DirectTable :=
  { newer with days := older.days.overlay newer.days }

end DirectTable

end CrossRate
