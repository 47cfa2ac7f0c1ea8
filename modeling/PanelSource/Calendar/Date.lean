/- Days of the proleptic Gregorian calendar.

   Days are counted from 1 January 1970. `Date.ofDayNumber` and `Date.dayNumber` go between the
   count and year, month and day; weeks are counted as in ISO 8601 (`isoWeek`) or from the first
   Sunday or Monday of a year (`weekFrom`). -/
namespace PanelSource.Calendar

def isLeap (year : Int) : Bool := year % 4 == 0 && (year % 100 != 0 || year % 400 == 0)

/-- Days from 1 January of year 1 to 1 January of a year. -/
def daysBefore (year : Int) : Int :=
  365 * (year - 1) + (year - 1) / 4 - (year - 1) / 100 + (year - 1) / 400

/-- The day number of 1 January 1970, counted from 1 January of year 1. -/
def epochDay : Int := 719162

def yearLength (year : Int) : Nat := if isLeap year then 366 else 365

def monthLengths (leap : Bool) : List Nat :=
  [31, if leap then 29 else 28, 31, 30, 31, 30, 31, 31, 30, 31, 30, 31]

/-- The year of a day counted from 1 January of year 1. -/
def yearOf (days : Int) : Int :=
  let guess := days * 400 / 146097 + 1
  if days < daysBefore guess then guess - 1
  else if daysBefore (guess + 1) ≤ days then guess + 1
  else guess

/-- Month and day, both from 1, of the day at an offset into a year with these month lengths. -/
def splitMonths (month : Nat) : List Nat → Nat → Nat × Nat
  | [], offset => (month, offset + 1)
  | n :: rest, offset =>
    if offset < n then (month, offset + 1) else splitMonths (month + 1) rest (offset - n)

/-- A calendar day. -/
structure Date where
  year : Int
  month : Nat
  day : Nat
  deriving DecidableEq, Repr, Inhabited

/-- The first and the last year that dates are kept for. -/
def leastYear : Int := -262143

def greatestYear : Int := 262142

namespace Date

/-- Day of the year, from 0. -/
def offset (d : Date) : Nat :=
  ((monthLengths (isLeap d.year)).take (d.month - 1)).foldr Nat.add 0 + (d.day - 1)

/-- Day of the year, from 1. -/
def ordinal (d : Date) : Nat := d.offset + 1

/-- Days since 1 January 1970. -/
def dayNumber (d : Date) : Int := daysBefore d.year + d.offset - epochDay

def ofYearOffset (year : Int) (offset : Nat) : Date :=
  let (month, day) := splitMonths 1 (monthLengths (isLeap year)) offset
  ⟨year, month, day⟩

/-- The date so many days after 1 January 1970. -/
def ofDayNumber (n : Int) : Date :=
  let days := n + epochDay
  let year := yearOf days
  ofYearOffset year (days - daysBefore year).toNat

def inRange (d : Date) : Bool := leastYear ≤ d.year && d.year ≤ greatestYear

/-- The date of a year, month and day, if there is one. -/
def ofYmd? (year : Int) (month day : Nat) : Option Date :=
  if leastYear ≤ year ∧ year ≤ greatestYear ∧ 1 ≤ month ∧ month ≤ 12 ∧ 1 ≤ day ∧
      day ≤ ((monthLengths (isLeap year))[month - 1]?).getD 0 then
    some ⟨year, month, day⟩
  else none

/-- The date of a year and a day of the year, if there is one. -/
def ofOrdinal? (year : Int) (ordinal : Nat) : Option Date :=
  if leastYear ≤ year ∧ year ≤ greatestYear ∧ 1 ≤ ordinal ∧ ordinal ≤ yearLength year then
    some (ofYearOffset year (ordinal - 1))
  else none

/-- Day of the week, Monday being 0. -/
def weekday (d : Date) : Nat := ((d.dayNumber + 3) % 7).toNat

/-- Days since the last day of the week that is `start`. -/
def daysSince (d : Date) (start : Nat) : Nat := (d.weekday + 7 - start) % 7

/-- Week of the year when weeks start on the weekday `start`; the days before the first such
    day are week 0. -/
def weekFrom (d : Date) (start : Nat) : Nat := (d.ordinal + 6 - d.daysSince start) / 7

/-- Year and week of ISO 8601: a week belongs to the year that its Thursday is in. -/
def isoWeek (d : Date) : Int × Nat :=
  let thursday := ofDayNumber (d.dayNumber - d.weekday + 3)
  (thursday.year, thursday.offset / 7 + 1)

/-- The date of an ISO 8601 year, week and weekday, if the year has that week. -/
def ofIsoWeek? (year : Int) (week weekday : Nat) : Option Date :=
  if year < leastYear ∨ greatestYear < year ∨ week = 0 then none
  else
    let fourth := (ofYearOffset year 3)
    let monday := fourth.dayNumber - fourth.weekday
    let d := ofDayNumber (monday + ((week : Int) - 1) * 7 + weekday)
    if d.isoWeek = (year, week) ∧ d.inRange then some d else none

def quarter (d : Date) : Nat := (d.month - 1) / 3 + 1

end Date
end PanelSource.Calendar
