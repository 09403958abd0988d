import CrossRate.OrderedMap

/-!
# Dates of the Gregorian calendar

A `Date` is a day number, so that days are counted and compared as integers. `civil` gives
its year, month and day, and `ofCivil?` the date of a year, month and day: those for which
there is one are just those that `civil` gives back (`ofCivil?_civil`).
-/

namespace CrossRate

/-- The first day of the calendar, 1 January of the year -262143. -/
def firstDay : Int := -95745824

/-- The last day of the calendar, 31 December of the year 262142. -/
def lastDay : Int := 95745704

/-- A day of the calendar. -/
structure Date where
  /-- The number of days since 1 March of the year 0. -/
  dayNumber : Int
  /-- The calendar has a first day. -/
  first_le : firstDay ≤ dayNumber
  /-- The calendar has a last day. -/
  le_last : dayNumber ≤ lastDay
deriving DecidableEq

/-- A year, a month and a day of the month, which need not exist. -/
structure CivilDate where
  year : Int
  month : Nat
  day : Nat
deriving DecidableEq

namespace CivilDate

/-- The day number of 1 March of a year. -/
def yearStart (year : Int) : Int := 365 * year + year / 4 - year / 100 + year / 400

/-- The number of days since 1 March of the year 0. Years are taken to start in March, so
that a leap day is the last day of its year. -/
def dayNumber (c : CivilDate) : Int :=
  yearStart (if c.month ≤ 2 then c.year - 1 else c.year)
    + ((153 * ((c.month + 9) % 12) + 2) / 5 : Nat) + c.day - 1

/-- The date a number of days after 1 March of a year. -/
def afterMarch (year : Int) (days : Nat) : CivilDate :=
  let month := (5 * days + 2) / 153
  let day := days - (153 * month + 2) / 5 + 1
  if month < 10 then ⟨year, month + 3, day⟩ else ⟨year + 1, month - 9, day⟩

/-- The days counted from 1 March add to those before it. -/
theorem dayNumber_afterMarch (year : Int) {days : Nat} (h : days < 366) :
  (afterMarch year days).dayNumber = yearStart year + days
  := by
  simp only [afterMarch]
  split
  · simp only [dayNumber]
    rw [if_neg (by omega), show ((5 * days + 2) / 153 + 3 + 9) % 12 = (5 * days + 2) / 153 by omega]
    omega
  · simp only [dayNumber]
    rw [if_pos (by omega), show year + 1 - 1 = year by omega,
      show ((5 * days + 2) / 153 - 9 + 9) % 12 = (5 * days + 2) / 153 by omega]
    omega

/-- The year, month and day of a day number. An era of 400 years is divided into centuries,
a century into spans of four years, and a span into years; the last century and the last
year of their kind are a day longer than the others. -/
def ofDayNumber (n : Int) : CivilDate :=
  let dayOfEra := (n % 146097).toNat
  let century := min 3 (dayOfEra / 36524)
  let dayOfCentury := dayOfEra - 36524 * century
  let span : Nat := dayOfCentury / 1461
  let dayOfSpan := dayOfCentury % 1461
  let year := min 3 (dayOfSpan / 365)
  afterMarch (400 * (n / 146097) + 100 * century + 4 * span + year)
    (dayOfSpan - 365 * year)

/-- The first day of a year, counted through its era, century and span of four years. -/
theorem yearStart_eq (era : Int) {century span year : Nat} (hc : century ≤ 3)
    (hs : span ≤ 24) (hy : year ≤ 3) :
  yearStart (400 * era + 100 * century + 4 * span + year)
    = 146097 * era + 36524 * century + 1461 * span + 365 * year
  := by
  have h₄ : (400 * era + 100 * century + 4 * span + year) / 4
      = 100 * era + 25 * century + span := by omega
  have h₁₀₀ : (400 * era + 100 * century + 4 * span + year) / 100
      = 4 * era + century := by omega
  have h₄₀₀ : (400 * era + 100 * century + 4 * span + year) / 400 = era := by omega
  rw [yearStart, h₄, h₁₀₀, h₄₀₀]
  omega

/-- Counting the days of the civil date of a day number gives the number again. -/
theorem dayNumber_ofDayNumber (n : Int) :
  (ofDayNumber n).dayNumber = n
  := by
  simp only [ofDayNumber]
  generalize he : n / 146097 = era
  generalize hd : (n % 146097).toNat = day
  generalize hc : min 3 (day / 36524) = century
  generalize hs : (day - 36524 * century) / 1461 = span
  generalize hr : (day - 36524 * century) % 1461 = dayOfSpan
  generalize hy : min 3 (dayOfSpan / 365) = year
  rw [dayNumber_afterMarch _ (by omega), yearStart_eq era (by omega) (by omega) (by omega)]
  omega

end CivilDate

namespace Date

instance : LT Date := ⟨fun a b => a.dayNumber < b.dayNumber⟩

instance : DecidableLT Date := fun a b => inferInstanceAs (Decidable (a.dayNumber < b.dayNumber))

instance : KeyOrder Date where
  irrefl a := Int.lt_irrefl a.dayNumber
  trans := Int.lt_trans
  trichotomy a b := by
    rcases Int.lt_trichotomy a.dayNumber b.dayNumber with h | h | h
    · exact .inl h
    · refine .inr (.inl ?_)
      cases a
      cases b
      simp_all
    · exact .inr (.inr h)

/-- The day of a number, if the calendar has it. -/
def ofDayNumber? (n : Int) : Option Date :=
  if h : firstDay ≤ n ∧ n ≤ lastDay then some ⟨n, h.1, h.2⟩ else none

/-- The year, month and day. -/
def civil (d : Date) : CivilDate := .ofDayNumber d.dayNumber

/-- The day with a year, month and day, if there is one. -/
def ofCivil? (c : CivilDate) : Option Date :=
  (ofDayNumber? c.dayNumber).filter (·.civil = c)

/-- Every day is the day of its year, month and day. -/
theorem ofCivil?_civil (d : Date) :
  ofCivil? d.civil = some d
  := by
  have h : d.civil.dayNumber = d.dayNumber := CivilDate.dayNumber_ofDayNumber _
  simp [ofCivil?, ofDayNumber?, h, d.first_le, d.le_last]

/-- The day that lies `days` days before, if the calendar has it. -/
def back? (d : Date) (days : Nat) : Option Date := ofDayNumber? (d.dayNumber - days)

end Date

end CrossRate
