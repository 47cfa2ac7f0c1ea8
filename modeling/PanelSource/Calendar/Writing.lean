import PanelSource.Number.Integer
import PanelSource.Calendar.Instant

/- Writing times in UTC. -/
namespace PanelSource.Calendar
open Number

/-- Four digits of a year; a year outside 0 to 9999 has a sign and as many digits as it needs. -/
def writeYear (y : Int) : List Char :=
  if 0 ≤ y ∧ y ≤ 9999 then padded 4 y.natAbs
  else (if y < 0 then '-' else '+') :: padded 4 y.natAbs

def writeDate (d : Date) : List Char :=
  writeYear d.year ++ '-' :: padded 2 d.month ++ '-' :: padded 2 d.day

/-- Hours, minutes and seconds; a leap second is second 60. -/
def writeClock (m : Moment) : List Char :=
  padded 2 (m.second / 3600) ++ ':' :: padded 2 (m.second / 60 % 60) ++
    ':' :: padded 2 (m.second % 60 + m.nano / 1000000000)

/-- Nanoseconds with 3, 6 or 9 digits, the fewest that are exact, or nothing for zero. -/
def writeFraction (nano : Nat) : List Char :=
  if nano = 0 then []
  else if nano % 1000000 = 0 then '.' :: padded 3 (nano / 1000000)
  else if nano % 1000 = 0 then '.' :: padded 6 (nano / 1000)
  else '.' :: padded 9 nano

namespace Instant

/-- The RFC 3339 text with as few fraction digits as are exact. -/
def rfc3339 (t : Instant) : String :=
  let m := t.moment
  String.ofList (writeDate m.date ++ 'T' :: writeClock m ++ writeFraction (m.nano % 1000000000) ++
    ['Z'])

/-- The RFC 3339 text cut to milliseconds. -/
def rfc3339Millis (t : Instant) : String :=
  let m := t.moment
  String.ofList (writeDate m.date ++ 'T' :: writeClock m ++
    '.' :: padded 3 (m.nano % 1000000000 / 1000000) ++ ['Z'])

/-- Date and time of day to the second, with a blank between them. -/
def plainText (t : Instant) : String :=
  let m := t.moment
  String.ofList (writeDate m.date ++ ' ' :: writeClock m)

end Instant
end PanelSource.Calendar
