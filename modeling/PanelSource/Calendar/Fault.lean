/- What can be wrong with the text of a time. -/
namespace PanelSource.Calendar

inductive TimeFault where
  /-- A field holds a number that no date or time has. -/
  | outOfRange
  /-- The fields contradict each other. -/
  | impossible
  /-- The fields leave the date or the time open. -/
  | notEnough
  /-- A character stands where the format has no place for it. -/
  | invalid
  | tooShort
  | tooLong
  /-- The format itself is not understood. -/
  | badFormat
  deriving DecidableEq, Repr

def TimeFault.message : TimeFault → String
  | .outOfRange => "input is out of range"
  | .impossible => "no possible date and time matching input"
  | .notEnough => "input is not enough for unique date and time"
  | .invalid => "input contains invalid characters"
  | .tooShort => "premature end of input"
  | .tooLong => "trailing input"
  | .badFormat => "bad or unsupported format string"

end PanelSource.Calendar
