import PanelSource.Wire.Decoder
import PanelSource.Calendar.Reading
import PanelSource.Calendar.Writing

/- Instants and time windows as JSON.

   Specification: SPEC_FULL, section 3. -/
namespace PanelSource
open Calendar

namespace Wire

/-- An instant: a timestamp in the lenient form of RFC 3339. -/
def instant : Decoder Instant
  | .string s =>
    match readLenient s with
    | .ok t => .ok t
    | .error _ => .error .mismatch
  | d => wrongKind d

end Wire

def Calendar.Instant.toJson (t : Instant) : Json := .string t.rfc3339

/-- The time that a dashboard shows. -/
structure Window where
  start : Instant
  stop : Instant
  deriving DecidableEq, Repr, Inhabited

namespace Window

/-- The end of the window as a timestamp in milliseconds. -/
def stopText (w : Window) : String := w.stop.rfc3339Millis

def toJson (w : Window) : Json := .object [("from", w.start.toJson), ("to", w.stop.toJson)]

def decode : Wire.Decoder Window :=
  Wire.record
    [Wire.requiredField "from" Wire.instant fun t w => { w with start := t },
     Wire.requiredField "to" Wire.instant fun t w => { w with stop := t }]
    ⟨.epoch, .epoch⟩

end Window
end PanelSource
