import PanelSource.Number.Integer
import PanelSource.Calendar.Fields
import PanelSource.Calendar.Format

/- Reading times.

   `readItems` follows a format through a text and fills the fields. `readInstant`,
   `readMoment` and `readDate` ask the fields for an instant, for a moment without an offset, or
   for a date alone. `readRfc3339` takes exactly the timestamps of RFC 3339, with a blank allowed
   in place of the `T`; `readLenient` also takes blanks around the parts, unpadded numbers, years
   of any length and `UTC`. -/
namespace PanelSource.Calendar
open Number

/-- A step that reads the front of a text. -/
abbrev Scan (α : Type) := List Char → Except TimeFault (α × List Char)

/-- Bytes that the characters take in UTF-8, which is what lengths are counted in. -/
def byteLength (cs : List Char) : Nat := (cs.map fun c => c.utf8Size).foldr Nat.add 0

/-- The number of some digits, if it is a signed 64-bit one. -/
def boundedValue (ds : List Char) : Except TimeFault Int :=
  match readDigits (twoTo 63 - 1) .tooLarge 0 ds with
  | .ok n => .ok n
  | .error _ => .error .outOfRange

/-- A number of at least `least` and at most `most` digits. -/
def scanNumber (least : Nat) (most : Option Nat) : Scan Int := fun cs =>
  if byteLength cs < least then .error .tooShort
  else
    let ds := cs.takeWhile isDigit
    let ds := match most with
      | some m => ds.take m
      | none => ds
    if ds.length < least then .error .invalid
    else do
      let v ← boundedValue ds
      return (v, cs.drop ds.length)

def scanChar (c : Char) : Scan Unit
  | [] => .error .tooShort
  | d :: rest => if d = c then .ok ((), rest) else .error .invalid

def lowered (cs : List Char) : List Char := cs.map Char.toLower

/-- The place of the name that stands at the front of a text, in any letter case, in a list of
    names of three letters. -/
def scanName (names : List String) : Scan Nat := fun cs =>
  if byteLength cs < 3 then .error .tooShort
  else
    match names.findIdx? fun n => n.toList == lowered (cs.take 3) with
    | some i => .ok (i, cs.drop 3)
    | none => .error .invalid

def monthNames : List String :=
  ["jan", "feb", "mar", "apr", "may", "jun", "jul", "aug", "sep", "oct", "nov", "dec"]

def monthEndings : List String :=
  ["uary", "ruary", "ch", "il", "", "e", "y", "ust", "tember", "ober", "ember", "ember"]

def weekdayNames : List String := ["mon", "tue", "wed", "thu", "fri", "sat", "sun"]

def weekdayEndings : List String := ["day", "sday", "nesday", "rsday", "day", "urday", "day"]

/-- A name that may go on after its first three letters. -/
def scanLongName (names endings : List String) : Scan Nat := fun cs => do
  let (i, rest) ← scanName names cs
  let ending := (endings[i]?.getD "").toList
  let more := rest.take ending.length
  return (i, if lowered more = ending then rest.drop ending.length else rest)

/-- A fraction of a second in nanoseconds; digits past the ninth are skipped. -/
def scanFraction : Scan Int := fun cs => do
  let (v, rest) ← scanNumber 1 (some 9) cs
  return (v * tenTo (9 - (cs.length - rest.length)), rest.dropWhile isDigit)

def scanFixedFraction (digits : Nat) : Scan Int := fun cs => do
  let (v, rest) ← scanNumber digits (some digits) cs
  return (v * tenTo (9 - digits), rest)

/-- Two digits of an offset. -/
def scanPair (cs : List Char) : Except TimeFault (Option (Nat × Nat) × List Char) :=
  if byteLength cs < 2 then .error .tooShort
  else
    match cs with
    | a :: b :: rest =>
      match digitValue a, digitValue b with
      | some x, some y => .ok (some (x, y), rest)
      | _, _ => .ok (none, rest)
    | _ => .ok (none, [])

/-- An offset from UTC in seconds; `separator` takes what may stand before the minutes. -/
def scanOffset (style : OffsetStyle) (separator : Scan Unit) : Scan Int := fun cs =>
  let signed (negative : Bool) (cs : List Char) : Except TimeFault (Int × List Char) := do
    match ← scanPair cs with
    | (none, _) => .error .invalid
    | (some (h1, h2), rest) =>
      let (_, rest) ← separator rest
      let hours : Int := h1 * 10 + h2
      let value (minutes : Int) := if negative then -(hours * 3600 + minutes * 60)
        else hours * 3600 + minutes * 60
      match scanPair rest with
      | .ok (some (m1, m2), rest) =>
        if 6 ≤ m1 then .error .outOfRange else return (value (m1 * 10 + m2), rest)
      | .ok (none, _) => .error .invalid
      | .error _ =>
        if style.hoursOnly ∧ rest = [] then return (value 0, []) else .error .tooShort
  match cs with
  | [] => .error .tooShort
  | c :: rest =>
    if style.zulu ∧ (c = 'Z' ∨ c = 'z') then .ok (0, rest)
    else if c = '+' then signed false rest
    else if c = '-' ∨ c = '−' then signed true rest
    else .error .invalid

def skipColonsAndBlanks : Scan Unit := fun cs =>
  .ok ((), cs.dropWhile fun c => c == ':' || Text.isBlank c)

/-- Digits at most of a number that has no sign. -/
def Quantity.width : Quantity → Option Nat
  | .year | .isoYear => some 4
  | .quarter | .weekdayFromSunday | .weekdayFromMonday => some 1
  | .ordinal => some 3
  | .nano => some 9
  | .timestamp => none
  | _ => some 2

/-- Whether the number may have a sign; it may then be of any length. -/
def Quantity.signed : Quantity → Bool
  | .year | .isoYear => true
  | _ => false

def Quantity.set (q : Quantity) (f : Fields) (v : Int) : Except TimeFault Fields :=
  match q with
  | .year => f.setYear v
  | .century => f.setCentury v
  | .yearOfCentury => f.setYearOfCentury v
  | .isoYear => f.setIsoYear v
  | .isoYearOfCentury => f.setIsoYearOfCentury v
  | .quarter => f.setQuarter v
  | .month => f.setMonth v
  | .day => f.setDay v
  | .weekFromSunday => f.setWeekFromSunday v
  | .weekFromMonday => f.setWeekFromMonday v
  | .isoWeek => f.setIsoWeek v
  | .weekdayFromSunday => f.setWeekdayFromSunday v
  | .weekdayFromMonday => f.setWeekdayFromMonday v
  | .ordinal => f.setOrdinal v
  | .hour => f.setHour v
  | .hour12 => f.setHour12 v
  | .minute => f.setMinute v
  | .second => f.setSecond v
  | .nano => f.setNano v
  | .timestamp => f.setTimestamp v

/-- The value of a quantity, after blanks. -/
def scanQuantity (q : Quantity) : Scan Int := fun cs =>
  match Text.stripStart cs with
  | c :: rest =>
    if q.signed ∧ c = '-' then do
      let (v, rest) ← scanNumber 1 none rest
      return (-v, rest)
    else if q.signed ∧ c = '+' then scanNumber 1 none rest
    else scanNumber 1 q.width (c :: rest)
  | [] => scanNumber 1 q.width []

/-- Follows one item; the text items of RFC 3339 and of unknown formats are not among them. -/
def readPlainItem (item : FormatItem) (f : Fields) (cs : List Char) :
    Except TimeFault (Fields × List Char) :=
  match item with
  | .literal text =>
    if byteLength cs < byteLength text then .error .tooShort
    else if text.isPrefixOf cs then .ok (f, cs.drop text.length)
    else .error .invalid
  | .blanks => .ok (f, Text.stripStart cs)
  | .number q => do
    let (v, rest) ← scanQuantity q cs
    return (← q.set f v, rest)
  | .monthName long => do
    let (i, rest) ← if long then scanLongName monthNames monthEndings cs else scanName monthNames cs
    return (← f.setMonth (i + 1), rest)
  | .weekdayName long => do
    let (i, rest) ←
      if long then scanLongName weekdayNames weekdayEndings cs else scanName weekdayNames cs
    return (← f.setWeekday i, rest)
  | .halfDay =>
    if byteLength cs < 2 then .error .tooShort
    else
      match lowered (cs.take 2) with
      | ['a', 'm'] => do return (← f.setAfternoon false, cs.drop 2)
      | ['p', 'm'] => do return (← f.setAfternoon true, cs.drop 2)
      | _ => .error .invalid
  | .fraction digits =>
    match cs with
    | '.' :: rest => do
      let (v, rest) ← match digits with
        | none => scanFraction rest
        | some n => scanFixedFraction n rest
      return (← f.setNano v, rest)
    | _ => .ok (f, cs)
  | .bareFraction n =>
    if byteLength cs < n then .error .tooShort
    else do
      let (v, rest) ← scanFixedFraction n cs
      return (← f.setNano v, rest)
  | .zoneName => .ok (f, cs.dropWhile fun c => !Text.isBlank c)
  | .offset style => do
    let (v, rest) ← scanOffset style skipColonsAndBlanks (Text.stripStart cs)
    return (← f.setOffset v, rest)
  | .timestampText => .error .badFormat
  | .unknown => .error .badFormat

def readPlainItems : List FormatItem → Fields → List Char → Except TimeFault (Fields × List Char)
  | [], f, cs => .ok (f, cs)
  | item :: items, f, cs => do
    let (f, rest) ← readPlainItem item f cs
    readPlainItems items f rest

/-! ## RFC 3339 -/

def lenientDate : List FormatItem :=
  [.number .year, .blanks, .literal ['-'], .number .month, .blanks, .literal ['-'], .number .day]

def lenientTime : List FormatItem :=
  [.number .hour, .blanks, .literal [':'], .number .minute, .blanks, .literal [':'],
    .number .second, .fraction none, .blanks]

/-- The letter or blank between date and time. -/
def scanTimeMark : Scan Unit
  | [] => .error .tooShort
  | c :: rest => if c = 't' ∨ c = 'T' ∨ c = ' ' then .ok ((), rest) else .error .invalid

/-- Fills the fields from a timestamp with blanks between its parts. -/
def readLenientFields (f : Fields) (cs : List Char) : Except TimeFault (Fields × List Char) := do
  let (f, cs) ← readPlainItems lenientDate f cs
  let (_, cs) ← scanTimeMark cs
  let (f, cs) ← readPlainItems lenientTime f cs
  let cs := Text.stripStart cs
  let (v, cs) ←
    if lowered (cs.take 3) = ['u', 't', 'c'] then pure (0, cs.drop 3)
    else scanOffset ⟨true, false⟩ skipColonsAndBlanks cs
  return (← f.setOffset v, cs)

/-- The instant of a timestamp with blanks allowed between its parts and after it. -/
def readLenient (s : String) : Except TimeFault Instant := do
  let (f, rest) ← readLenientFields {} s.toList
  if (Text.stripStart rest).isEmpty then f.instant? else .error .tooLong

/-- Exactly so many digits, after digits that make `acc`. -/
def scanDigits (acc : Nat) : Nat → Scan Nat
  | 0, cs => .ok (acc, cs)
  | _ + 1, [] => .error .invalid
  | n + 1, c :: rest =>
    match digitValue c with
    | some d => scanDigits (acc * 10 + d) n rest
    | none => .error .invalid

/-- The character that must stand between two parts. -/
def scanMark (c : Char) : Scan Unit
  | [] => .error .invalid
  | d :: rest => if d = c then .ok ((), rest) else .error .invalid

/-- The date of a timestamp, which must exist. -/
def scanDate : Scan Date := fun cs => do
  let (year, cs) ← scanDigits 0 4 cs
  let (_, cs) ← scanMark '-' cs
  let (month, cs) ← scanDigits 0 2 cs
  let (_, cs) ← scanMark '-' cs
  let (day, cs) ← scanDigits 0 2 cs
  match Date.ofYmd? year month day with
  | some d => return (d, cs)
  | none => .error .outOfRange

/-- The fraction of a second, if a point stands there. -/
def scanPointFraction : Scan Nat := fun cs =>
  match cs with
  | '.' :: rest => do
    let (v, rest) ← scanFraction rest
    return (v.toNat, rest)
  | _ => .ok (0, cs)

/-- The time of day of a timestamp in seconds and nanoseconds; second 60 is a leap second. -/
def scanClock : Scan (Nat × Nat) := fun cs => do
  let (hour, cs) ← scanDigits 0 2 cs
  let (_, cs) ← scanMark ':' cs
  let (minute, cs) ← scanDigits 0 2 cs
  let (_, cs) ← scanMark ':' cs
  let (second, cs) ← scanDigits 0 2 cs
  let (fraction, cs) ← scanPointFraction cs
  let (second, nano) := if second = 60 then (59, 1000000000 + fraction) else (second, fraction)
  if hour < 24 ∧ minute < 60 ∧ second < 60 then
    return ((hour * 3600 + minute * 60 + second, nano), cs)
  else .error .outOfRange

/-- The instant of an RFC 3339 timestamp. -/
def readRfc3339 (s : String) : Except TimeFault Instant :=
  let cs := s.toList
  if byteLength cs < 19 then .error .tooShort
  else do
    let (date, cs) ← scanDate cs
    let (_, cs) ← scanTimeMark cs
    let ((second, nano), cs) ← scanClock cs
    let (offset, cs) ← scanOffset ⟨true, false⟩ (scanChar ':') cs
    if !cs.isEmpty then .error .tooLong
    else if offset ≤ -86400 ∨ 86400 ≤ offset then .error .outOfRange
    else return ⟨(Moment.mk date second nano).instant.second - offset, nano⟩

/-! ## Formats -/

/-- Follows a format through a text. -/
def readItems : List FormatItem → Fields → List Char → Except TimeFault (Fields × List Char)
  | [], f, cs => .ok (f, cs)
  | .timestampText :: items, f, cs => do
    let (f, rest) ← readLenientFields f cs
    readItems items f rest
  | item :: items, f, cs => do
    let (f, rest) ← readPlainItem item f cs
    readItems items f rest

/-- The fields of a text that a format takes to its end. -/
def readFields (format text : String) : Except TimeFault Fields := do
  let (f, rest) ← readItems (Format.ofText format) {} text.toList
  if rest.isEmpty then return f else .error .tooLong

/-- The instant of a text that states its offset from UTC. -/
def readInstant (format text : String) : Except TimeFault Instant := do
  (← readFields format text).instant?

/-- The instant of a text without an offset, taken as UTC. -/
def readMoment (format text : String) : Except TimeFault Instant := do
  return (← (← readFields format text).moment? 0).instant

/-- The start of the day that a text states, in UTC. -/
def readDate (format text : String) : Except TimeFault Instant := do
  return (Moment.mk (← (← readFields format text).date?) 0 0).instant

end PanelSource.Calendar
