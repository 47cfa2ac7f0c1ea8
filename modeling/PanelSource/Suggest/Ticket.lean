/- Tickets for lookups in flight.

   Every lookup on behalf of an input field takes a ticket. The field counts its tickets, and an
   answer counts only if its ticket is still the latest of its field; a later lookup makes it
   stale, whether it is a value or an error.

   Specification: SPEC_FULL, section 5. -/
namespace PanelSource.Suggest

structure Ticket where
  field : String
  seq : UInt64
  deriving DecidableEq, Repr, Inhabited

/-- An answer that arrived. -/
inductive Settled (α : Type) where
  | current (value : α)
  | stale
  deriving DecidableEq, Repr

/-- The number of the latest ticket of each field. -/
structure Sequencer where
  latest : List (String × UInt64)
  deriving DecidableEq, Repr, Inhabited

namespace Sequencer

def empty : Sequencer := ⟨[]⟩

def get? (s : Sequencer) (field : String) : Option UInt64 := s.latest.lookup field

/-- Issues the next ticket of a field. -/
def issue (s : Sequencer) (field : String) : Ticket × Sequencer :=
  let seq := (s.get? field).getD 0 + 1
  (⟨field, seq⟩, ⟨(field, seq) :: s.latest.filter fun e => e.1 != field⟩)

def isCurrent (s : Sequencer) (t : Ticket) : Bool := s.get? t.field == some t.seq

/-- What becomes of the answer to a ticket. -/
def settle {ε α : Type} (s : Sequencer) (t : Ticket) (result : Except ε α) : Except ε (Settled α) :=
  if s.isCurrent t then result.map .current else .ok .stale

end Sequencer
end PanelSource.Suggest
