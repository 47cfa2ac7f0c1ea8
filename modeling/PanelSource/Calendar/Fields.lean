import PanelSource.Calendar.Fault
import PanelSource.Calendar.Instant
import PanelSource.Number.Integer

/- Date and time fields as they are read one by one, and the dates and times they agree on.

   A field may be given several times, with one value. `Fields.date?` builds a date from the
   first group of fields that determines one (year, month and day; year and day of the year; year,
   week and weekday; ISO year, week and weekday) and then checks every other field against it.
   `Fields.moment?` also takes seconds since 1970 in place of date and time. -/
namespace PanelSource.Calendar

structure Fields where
  year : Option Int := none
  century : Option Int := none
  yearOfCentury : Option Int := none
  isoYear : Option Int := none
  isoCentury : Option Int := none
  isoYearOfCentury : Option Int := none
  quarter : Option Nat := none
  month : Option Nat := none
  weekFromSunday : Option Nat := none
  weekFromMonday : Option Nat := none
  isoWeek : Option Nat := none
  weekday : Option Nat := none
  ordinal : Option Nat := none
  day : Option Nat := none
  halfDay : Option Nat := none
  hourOfHalf : Option Nat := none
  minute : Option Nat := none
  second : Option Nat := none
  nano : Option Nat := none
  timestamp : Option Int := none
  offset : Option Int := none
  deriving DecidableEq, Repr, Inhabited

/-- The value of a field after it was given once more. -/
def agree {α : Type} [DecidableEq α] (old : Option α) (new : α) : Except TimeFault (Option α) :=
  match old with
  | none => .ok (some new)
  | some v => if v = new then .ok (some new) else .error .impossible

def within (low high : Int) (v : Int) : Except TimeFault Int :=
  if low ≤ v ∧ v ≤ high then .ok v else .error .outOfRange

def withinNat (low high : Nat) (v : Int) : Except TimeFault Nat :=
  (within low high v).map Int.toNat

namespace Fields

def setYear (f : Fields) (v : Int) : Except TimeFault Fields := do
  let v ← within Number.int32Min Number.int32Max v
  return { f with year := ← agree f.year v }

def setCentury (f : Fields) (v : Int) : Except TimeFault Fields := do
  let v ← within 0 Number.int32Max v
  return { f with century := ← agree f.century v }

def setYearOfCentury (f : Fields) (v : Int) : Except TimeFault Fields := do
  let v ← within 0 99 v
  return { f with yearOfCentury := ← agree f.yearOfCentury v }

def setIsoYear (f : Fields) (v : Int) : Except TimeFault Fields := do
  let v ← within Number.int32Min Number.int32Max v
  return { f with isoYear := ← agree f.isoYear v }

def setIsoYearOfCentury (f : Fields) (v : Int) : Except TimeFault Fields := do
  let v ← within 0 99 v
  return { f with isoYearOfCentury := ← agree f.isoYearOfCentury v }

def setQuarter (f : Fields) (v : Int) : Except TimeFault Fields := do
  let v ← withinNat 1 4 v
  return { f with quarter := ← agree f.quarter v }

def setMonth (f : Fields) (v : Int) : Except TimeFault Fields := do
  let v ← withinNat 1 12 v
  return { f with month := ← agree f.month v }

def setWeekFromSunday (f : Fields) (v : Int) : Except TimeFault Fields := do
  let v ← withinNat 0 53 v
  return { f with weekFromSunday := ← agree f.weekFromSunday v }

def setWeekFromMonday (f : Fields) (v : Int) : Except TimeFault Fields := do
  let v ← withinNat 0 53 v
  return { f with weekFromMonday := ← agree f.weekFromMonday v }

def setIsoWeek (f : Fields) (v : Int) : Except TimeFault Fields := do
  let v ← withinNat 1 53 v
  return { f with isoWeek := ← agree f.isoWeek v }

def setWeekday (f : Fields) (v : Nat) : Except TimeFault Fields := do
  return { f with weekday := ← agree f.weekday v }

/-- A weekday counted from Sunday, which is 0. -/
def setWeekdayFromSunday (f : Fields) (v : Int) : Except TimeFault Fields := do
  let v ← withinNat 0 6 v
  f.setWeekday ((v + 6) % 7)

/-- A weekday counted from Monday, which is 1. -/
def setWeekdayFromMonday (f : Fields) (v : Int) : Except TimeFault Fields := do
  let v ← withinNat 1 7 v
  f.setWeekday (v - 1)

def setOrdinal (f : Fields) (v : Int) : Except TimeFault Fields := do
  let v ← withinNat 1 366 v
  return { f with ordinal := ← agree f.ordinal v }

def setDay (f : Fields) (v : Int) : Except TimeFault Fields := do
  let v ← withinNat 1 31 v
  return { f with day := ← agree f.day v }

def setAfternoon (f : Fields) (pm : Bool) : Except TimeFault Fields := do
  return { f with halfDay := ← agree f.halfDay (if pm then 1 else 0) }

/-- An hour of the twelve-hour clock, where 12 comes before 1. -/
def setHour12 (f : Fields) (v : Int) : Except TimeFault Fields := do
  let v ← withinNat 1 12 v
  return { f with hourOfHalf := ← agree f.hourOfHalf (v % 12) }

def setHour (f : Fields) (v : Int) : Except TimeFault Fields := do
  let v ← withinNat 0 23 v
  let halfDay ← agree f.halfDay (v / 12)
  let hourOfHalf ← agree f.hourOfHalf (v % 12)
  return { f with halfDay, hourOfHalf }

def setMinute (f : Fields) (v : Int) : Except TimeFault Fields := do
  let v ← withinNat 0 59 v
  return { f with minute := ← agree f.minute v }

/-- A second; 60 is a leap second. -/
def setSecond (f : Fields) (v : Int) : Except TimeFault Fields := do
  let v ← withinNat 0 60 v
  return { f with second := ← agree f.second v }

def setNano (f : Fields) (v : Int) : Except TimeFault Fields := do
  let v ← withinNat 0 999999999 v
  return { f with nano := ← agree f.nano v }

def setTimestamp (f : Fields) (v : Int) : Except TimeFault Fields := do
  return { f with timestamp := ← agree f.timestamp v }

def setOffset (f : Fields) (v : Int) : Except TimeFault Fields := do
  let v ← within Number.int32Min Number.int32Max v
  return { f with offset := ← agree f.offset v }

/-! ## Dates -/

/-- The year that a full year, a century and a year of the century agree on. A year of the
    century alone lies in the years 1970 to 2069. -/
def resolveYear (year century rest : Option Int) : Except TimeFault (Option Int) :=
  match year, century, rest with
  | y, none, none => .ok y
  | some y, q, r =>
    if y < 0 then .error .impossible
    else if q.getD (y / 100) = y / 100 ∧ r.getD (y % 100) = y % 100 then .ok (some y)
    else .error .impossible
  | none, some q, some r => do
    let y ← within Number.int32Min Number.int32Max (q * 100 + r)
    return some y
  | none, none, some r => .ok (some (if r < 70 then 2000 + r else 1900 + r))
  | none, some _, none => .error .notEnough

/-- Whether a field, if given, has this value. -/
def fits {α : Type} [DecidableEq α] (field : Option α) (v : α) : Bool :=
  match field with
  | none => true
  | some w => w = v

/-- Whether a century or a year of the century, if given, belongs to this year. -/
def fitsPart (field : Option Int) (year part : Int) : Bool :=
  match field with
  | none => true
  | some v => 0 ≤ year && v == part

def fitsMonthAndDay (f : Fields) (d : Date) : Bool :=
  fits f.year d.year && fitsPart f.century d.year (d.year / 100) &&
    fitsPart f.yearOfCentury d.year (d.year % 100) && fits f.month d.month && fits f.day d.day

def fitsIsoWeek (f : Fields) (d : Date) : Bool :=
  let (year, week) := d.isoWeek
  fits f.isoYear year && fitsPart f.isoCentury year (year / 100) &&
    fitsPart f.isoYearOfCentury year (year % 100) && fits f.isoWeek week && fits f.weekday d.weekday

def fitsOrdinal (f : Fields) (d : Date) : Bool :=
  fits f.ordinal d.ordinal && fits f.weekFromSunday (d.weekFrom 6) &&
    fits f.weekFromMonday (d.weekFrom 0)

/-- The date of a weekday in a week of a year, when weeks start on the weekday `start`. -/
def weekDate (year : Int) (week weekday start : Nat) : Except TimeFault Date :=
  if 53 < week then .error .outOfRange
  else
    match Date.ofOrdinal? year 1 with
    | none => .error .outOfRange
    | some first =>
      let firstWeek := 1 + (start + 7 - first.weekday) % 7
      let ordinal : Int := firstWeek + ((week : Int) - 1) * 7 + (weekday + 7 - start) % 7
      if ordinal ≤ 0 then .error .impossible
      else
        match Date.ofOrdinal? year ordinal.toNat with
        | some d => .ok d
        | none => .error .impossible

def orOutOfRange {α : Type} : Option α → Except TimeFault α
  | some a => .ok a
  | none => .error .outOfRange

/-- The date that the fields determine, and whether the groups of fields that were not used to
    find it agree with it. -/
def candidate (f : Fields) (year isoYear : Option Int) : Except TimeFault (Date × Bool) :=
  match year, f.month, f.day with
  | some y, some m, some d => do
    let date ← orOutOfRange (Date.ofYmd? y m d)
    return (date, f.fitsIsoWeek date && f.fitsOrdinal date)
  | _, _, _ =>
    match year, f.ordinal with
    | some y, some o => do
      let date ← orOutOfRange (Date.ofOrdinal? y o)
      return (date, f.fitsMonthAndDay date && f.fitsIsoWeek date && f.fitsOrdinal date)
    | _, _ =>
      match year, f.weekFromSunday, f.weekday with
      | some y, some w, some wd => do
        let date ← weekDate y w wd 6
        return (date, f.fitsMonthAndDay date && f.fitsIsoWeek date && f.fitsOrdinal date)
      | _, _, _ =>
        match year, f.weekFromMonday, f.weekday with
        | some y, some w, some wd => do
          let date ← weekDate y w wd 0
          return (date, f.fitsMonthAndDay date && f.fitsIsoWeek date && f.fitsOrdinal date)
        | _, _, _ =>
          match isoYear, f.isoWeek, f.weekday with
          | some y, some w, some wd => do
            let date ← orOutOfRange (Date.ofIsoWeek? y w wd)
            return (date, f.fitsMonthAndDay date && f.fitsOrdinal date)
          | _, _, _ => .error .notEnough

/-- The date that the fields agree on. -/
def date? (f : Fields) : Except TimeFault Date := do
  let year ← resolveYear f.year f.century f.yearOfCentury
  let isoYear ← resolveYear f.isoYear f.isoCentury f.isoYearOfCentury
  let (date, fit) ← f.candidate year isoYear
  if fit && fits f.quarter date.quarter then return date else .error .impossible

/-! ## Times of day -/

def required {α : Type} : Option α → Except TimeFault α
  | some a => .ok a
  | none => .error .notEnough

/-- Seconds and nanoseconds of the time that the fields agree on. Seconds may be left out, and
    without them nanoseconds must be. -/
def time? (f : Fields) : Except TimeFault (Nat × Nat) := do
  let half ← required f.halfDay
  let hour ← required f.hourOfHalf
  let minute ← required f.minute
  let (second, leap) := match f.second with
    | none => (0, 0)
    | some 60 => (59, 1000000000)
    | some s => (s, 0)
  let nano ← match f.nano with
    | none => pure 0
    | some n => if f.second.isSome then pure n else .error .notEnough
  return ((half * 12 + hour) * 3600 + minute * 60 + second, leap + nano)

/-! ## Moments -/

/-- The fields completed from the moment of a timestamp. -/
def fillFrom (f : Fields) (m : Moment) : Except TimeFault Fields := do
  let f ← f.setYear m.date.year
  let f ← f.setOrdinal m.date.ordinal
  let f ← f.setHour (m.second / 3600)
  f.setMinute (m.second / 60 % 60)

/-- The moment of the fields when only the timestamp settles it. -/
def momentOfTimestamp (f : Fields) (timestamp offset : Int) : Except TimeFault Moment := do
  let local_ ← within Number.int64Min Number.int64Max (timestamp + offset)
  let t : Instant := ⟨local_, 0⟩
  if !t.inRange then .error .outOfRange
  else
    let shown := (t.second % 60).toNat
    let f ← match f.second with
      | some 60 =>
        if shown = 59 then f.fillFrom t.moment
        else if shown = 0 then f.fillFrom (Instant.mk (t.second - 1) 0).moment
        else .error .impossible
      | _ => do
        let f ← f.setSecond shown
        f.fillFrom t.moment
    let date ← f.date?
    let (second, nano) ← f.time?
    return ⟨date, second, nano⟩

def faultOf {α : Type} : Except TimeFault α → Option TimeFault
  | .ok _ => none
  | .error e => some e

/-- The moment that the fields agree on, as clocks at `offset` seconds east of UTC show it. -/
def moment? (f : Fields) (offset : Int) : Except TimeFault Moment :=
  match f.date?, f.time? with
  | .ok date, .ok (second, nano) =>
    let m : Moment := ⟨date, second, nano⟩
    let t := m.instant.second - offset
    match f.timestamp with
    | none => .ok m
    | some given =>
      if given = t ∨ (1000000000 ≤ nano ∧ given = t + 1) then .ok m else .error .impossible
  | d, t =>
    match f.timestamp with
    | some timestamp =>
      let faults := [faultOf d, faultOf t]
      if faults.contains (some .outOfRange) then .error .outOfRange
      else if faults.contains (some .impossible) then .error .impossible
      else f.momentOfTimestamp timestamp offset
    | none =>
      match d, t with
      | .error e, _ => .error e
      | _, .error e => .error e
      | _, _ => .error .notEnough

/-- The instant that the fields agree on. It needs an offset from UTC; seconds since 1970 are
    taken for one of zero. -/
def instant? (f : Fields) : Except TimeFault Instant := do
  let offset ← match f.offset, f.timestamp with
    | some o, _ => pure o
    | none, some _ => pure 0
    | none, none => .error .notEnough
  let m ← f.moment? offset
  if offset ≤ -86400 ∨ 86400 ≤ offset then .error .outOfRange
  else
    let t : Instant := ⟨m.instant.second - offset, m.nano⟩
    if t.inRange then return t else .error .impossible

end Fields
end PanelSource.Calendar
