import PanelSource.Text.Blank

/- Time formats: the `%` notation for how a time is written.

   A format is a list of items. Each stands for literal text, for blanks, for a number that fills
   one field, or for a text with a fixed shape. `Format.ofText` reads the notation; where it is
   not understood the list ends with `unknown`. -/
namespace PanelSource.Calendar

/-- A field that is written as a number. -/
inductive Quantity where
  | year
  | century
  | yearOfCentury
  | isoYear
  | isoYearOfCentury
  | quarter
  | month
  | day
  | weekFromSunday
  | weekFromMonday
  | isoWeek
  | weekdayFromSunday
  | weekdayFromMonday
  | ordinal
  | hour
  | hour12
  | minute
  | second
  | nano
  | timestamp
  deriving DecidableEq, Repr

/-- How the offset from UTC may be written. -/
structure OffsetStyle where
  /-- `Z` may stand for no offset. -/
  zulu : Bool
  /-- The minutes may be left out. -/
  hoursOnly : Bool
  deriving DecidableEq, Repr

/-- One item of a format. -/
inductive FormatItem where
  | literal (text : List Char)
  | blanks
  | number (q : Quantity)
  | monthName (long : Bool)
  | weekdayName (long : Bool)
  | halfDay
  /-- A point and a fraction of the second, if a point is there; `none` takes any digits. -/
  | fraction (digits : Option Nat)
  /-- A fraction of the second without its point. -/
  | bareFraction (digits : Nat)
  | zoneName
  | offset (style : OffsetStyle)
  /-- Date, time and offset as in RFC 3339, read leniently. -/
  | timestampText
  | unknown
  deriving DecidableEq, Repr

namespace Format

def slashDate : List FormatItem :=
  [.number .month, .literal ['/'], .number .day, .literal ['/'], .number .yearOfCentury]

def dashDate : List FormatItem :=
  [.number .year, .literal ['-'], .number .month, .literal ['-'], .number .day]

def clock : List FormatItem :=
  [.number .hour, .literal [':'], .number .minute, .literal [':'], .number .second]

def halfDayClock : List FormatItem :=
  [.number .hour12, .literal [':'], .number .minute, .literal [':'], .number .second, .blanks,
    .halfDay]

def signedOffset : FormatItem := .offset ⟨false, false⟩

/-- The items of a letter after the percent sign. -/
def ofLetter : Char → List FormatItem
  | 'A' => [.weekdayName true]
  | 'B' => [.monthName true]
  | 'C' => [.number .century]
  | 'D' => slashDate
  | 'F' => dashDate
  | 'G' => [.number .isoYear]
  | 'H' => [.number .hour]
  | 'I' => [.number .hour12]
  | 'M' => [.number .minute]
  | 'P' => [.halfDay]
  | 'R' => [.number .hour, .literal [':'], .number .minute]
  | 'S' => [.number .second]
  | 'T' => clock
  | 'U' => [.number .weekFromSunday]
  | 'V' => [.number .isoWeek]
  | 'W' => [.number .weekFromMonday]
  | 'X' => clock
  | 'Y' => [.number .year]
  | 'Z' => [.zoneName]
  | 'a' => [.weekdayName false]
  | 'b' => [.monthName false]
  | 'c' =>
    [.weekdayName false, .blanks, .monthName false, .blanks, .number .day, .blanks] ++ clock ++
      [.blanks, .number .year]
  | 'd' => [.number .day]
  | 'e' => [.number .day]
  | 'f' => [.number .nano]
  | 'g' => [.number .isoYearOfCentury]
  | 'h' => [.monthName false]
  | 'j' => [.number .ordinal]
  | 'k' => [.number .hour]
  | 'l' => [.number .hour12]
  | 'm' => [.number .month]
  | 'n' => [.blanks]
  | 'p' => [.halfDay]
  | 'q' => [.number .quarter]
  | 'r' => halfDayClock
  | 's' => [.number .timestamp]
  | 't' => [.blanks]
  | 'u' => [.number .weekdayFromMonday]
  | 'v' => [.number .day, .literal ['-'], .monthName false, .literal ['-'], .number .year]
  | 'w' => [.number .weekdayFromSunday]
  | 'x' => slashDate
  | 'y' => [.number .yearOfCentury]
  | 'z' => [signedOffset]
  | '+' => [.timestampText]
  | '%' => [.literal ['%']]
  | _ => [.unknown]

/-- A single number item, which is what a padding mark may stand before. -/
def padded : List FormatItem → List FormatItem
  | [.number q] => [.number q]
  | _ => [.unknown]

/-- The items of a specifier, after its percent sign, and what follows it. -/
def specifier : List Char → List FormatItem × List Char
  | [] => ([.unknown], [])
  | '#' :: 'z' :: rest => ([.offset ⟨true, true⟩], rest)
  | '#' :: _ => ([.unknown], [])
  | ':' :: ':' :: ':' :: 'z' :: rest => ([signedOffset], rest)
  | ':' :: ':' :: 'z' :: rest => ([signedOffset], rest)
  | ':' :: 'z' :: rest => ([signedOffset], rest)
  | '.' :: '3' :: 'f' :: rest => ([.fraction (some 3)], rest)
  | '.' :: '6' :: 'f' :: rest => ([.fraction (some 6)], rest)
  | '.' :: '9' :: 'f' :: rest => ([.fraction (some 9)], rest)
  | '.' :: 'f' :: rest => ([.fraction none], rest)
  | '3' :: 'f' :: rest => ([.bareFraction 3], rest)
  | '6' :: 'f' :: rest => ([.bareFraction 6], rest)
  | '9' :: 'f' :: rest => ([.bareFraction 9], rest)
  | c :: rest =>
    if c = '-' ∨ c = '0' ∨ c = '_' then
      match rest with
      | [] => ([.unknown], [])
      | d :: rest => (padded (ofLetter d), rest)
    else (ofLetter c, rest)

/-- The items of a format from its characters; `fuel` is at least their number. -/
def items : Nat → List Char → List FormatItem
  | 0, _ => []
  | _ + 1, [] => []
  | fuel + 1, c :: rest =>
    if c = '%' then
      let (found, rest) := specifier rest
      if found = [.unknown] then found else found ++ items fuel rest
    else if Text.isBlank c then .blanks :: items fuel (rest.dropWhile Text.isBlank)
    else
      let isText (d : Char) := d != '%' && !Text.isBlank d
      .literal (c :: rest.takeWhile isText) :: items fuel (rest.dropWhile isText)

def ofText (s : String) : List FormatItem := items s.length s.toList

end Format
end PanelSource.Calendar
