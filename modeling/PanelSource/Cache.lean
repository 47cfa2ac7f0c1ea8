import PanelSource.Span

/- Values kept for a while, a limited number of them.

   A cache holds at most `capacity` entries, the most recently used first. An entry is used when
   it is inserted and when it is read while alive; room for a new one is made at the far end. An
   entry is alive until its lifetime has passed on a clock that counts nanoseconds; a read that
   meets a dead one drops it.

   Specification: SPEC_FULL, sections 10.2, 10.3 and 11. -/
namespace PanelSource

structure CacheEntry (α : Type) where
  key : String
  value : α
  /-- The entry is dead from this moment on. -/
  expires : Nat
  deriving DecidableEq, Repr

/-- Entries by key, the most recently used first. -/
structure Cache (α : Type) where
  capacity : Nat
  entries : List (CacheEntry α) := []
  deriving DecidableEq, Repr

namespace Cache
variable {α : Type}

/-- The longest lifetime, a year of 365 days; longer ones are cut down to it. -/
def longest : Span := .ofSeconds (365 * 24 * 60 * 60)

def lifetime (ttl : Span) : Nat := min ttl.total longest.total

/-- An empty cache; it has room for at least one entry. -/
def ofCapacity (n : Nat) : Cache α := { capacity := max n 1 }

def size (c : Cache α) : Nat := c.entries.length

def isEmpty (c : Cache α) : Bool := c.entries.isEmpty

def find? (c : Cache α) (key : String) : Option (CacheEntry α) :=
  c.entries.find? fun e => e.key == key

/-- The entries of all other keys. -/
def others (c : Cache α) (key : String) : List (CacheEntry α) :=
  c.entries.filter fun e => e.key != key

def remove (c : Cache α) (key : String) : Cache α := { c with entries := c.others key }

/-- Reads the value of a key at a moment. A live entry becomes the most recently used one; a dead
    one is dropped. -/
def get (c : Cache α) (now : Nat) (key : String) : Option α × Cache α :=
  match c.find? key with
  | none => (none, c)
  | some e =>
    if now < e.expires then (some e.value, { c with entries := e :: c.others key })
    else (none, c.remove key)

/-- Keeps a value from a moment on, for at most `longest`. A zero lifetime keeps nothing and
    leaves an earlier value as it is. -/
def insert (c : Cache α) (now : Nat) (key : String) (value : α) (ttl : Span) : Cache α :=
  if ttl.isZero then c
  else { c with entries := (⟨key, value, now + lifetime ttl⟩ :: c.others key).take c.capacity }

theorem size_insert_le (c : Cache α) (now : Nat) (key : String) (value : α) (ttl : Span)
    (h : c.size ≤ c.capacity) : (c.insert now key value ttl).size ≤ c.capacity := by
  unfold insert
  split
  · exact h
  · simp only [size, List.length_take]; omega

end Cache
end PanelSource
