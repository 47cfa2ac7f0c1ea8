import PanelSource.Calendar.Date

/- Instants on the UTC time line.

   An instant is a number of seconds since the start of 1970 and nanoseconds within the second.
   A leap second is the second before it with a billion nanoseconds more. -/
namespace PanelSource.Calendar

structure Instant where
  second : Int
  nano : Nat
  deriving DecidableEq, Repr, Inhabited

/-- A date with a time of day; the time is kept as seconds and nanoseconds. -/
structure Moment where
  date : Date
  second : Nat
  nano : Nat
  deriving DecidableEq, Repr, Inhabited

def Moment.instant (m : Moment) : Instant := ⟨m.date.dayNumber * 86400 + m.second, m.nano⟩

namespace Instant

def epoch : Instant := ⟨0, 0⟩

def moment (t : Instant) : Moment :=
  ⟨Date.ofDayNumber (t.second / 86400), (t.second % 86400).toNat, t.nano⟩

def inRange (t : Instant) : Bool := (Date.ofDayNumber (t.second / 86400)).inRange

/-- Milliseconds since the start of 1970, rounded down. -/
def millis (t : Instant) : Int := t.second * 1000 + t.nano / 1000000

/-- The instant of so many milliseconds since the start of 1970, if its year is in range. -/
def ofMillis? (ms : Int) : Option Instant :=
  let t : Instant := ⟨ms / 1000, (ms % 1000).toNat * 1000000⟩
  if t.inRange then some t else none

/-- The first instant that a calendar has. -/
def earliest : Instant := ⟨(Date.ofYearOffset leastYear 0).dayNumber * 86400, 0⟩

/-- The instant so many nanoseconds earlier, if its year is in range. -/
def back? (t : Instant) (nanos : Nat) : Option Instant :=
  let rest : Int := t.second * 1000000000 + t.nano - nanos
  let t : Instant := ⟨rest / 1000000000, (rest % 1000000000).toNat⟩
  if t.inRange then some t else none

def before (a b : Instant) : Bool := a.second < b.second || (a.second == b.second && a.nano < b.nano)

def atOrBefore (a b : Instant) : Bool := !b.before a

end Instant
end PanelSource.Calendar
