import PanelSource.Text.Octets

/- Percent encoding: octets as a percent sign and two hexadecimal digits. -/
namespace PanelSource.Http
open Text

/-- The value of a hexadecimal digit. -/
def hexOctet? (b : UInt8) : Option UInt8 :=
  if 0x30 ≤ b ∧ b ≤ 0x39 then some (b - 0x30)
  else if 0x41 ≤ b ∧ b ≤ 0x46 then some (b - 0x37)
  else if 0x61 ≤ b ∧ b ≤ 0x66 then some (b - 0x57)
  else none

/-- The octets that are meant. A percent sign without two digits after it means itself. -/
def percentDecode : List UInt8 → List UInt8
  | [] => []
  | b :: rest =>
    if b = 0x25 then
      match rest with
      | hi :: lo :: more =>
        match hexOctet? hi, hexOctet? lo with
        | some x, some y => (x * 16 + y) :: percentDecode more
        | _, _ => b :: percentDecode (hi :: lo :: more)
      | more => b :: percentDecode more
    else b :: percentDecode rest
termination_by bs => bs.length

def hexDigitOf (n : Nat) : Char := Char.ofNat (if n < 10 then 0x30 + n else 0x37 + n)

def percentOctet (b : UInt8) : List Char :=
  ['%', hexDigitOf (b.toNat / 16), hexDigitOf (b.toNat % 16)]

/-- Writes the characters that are not to stand for themselves as percent-encoded octets. -/
def percentEncode (keeps : Char → Bool) (cs : List Char) : List Char :=
  cs.flatMap fun c => if keeps c then [c] else (octets [c]).flatMap percentOctet

def isPathChar (c : Char) : Bool :=
  0x20 < c.toNat && c.toNat < 0x7F &&
    ['"', '#', '<', '>', '?', '\x60', '\x7b', '\x7d', '^'].all (· ≠ c)

/-- A segment of a path as text, if its octets are well formed. -/
def segmentText? (s : String) : Option String :=
  (ofOctets? (percentDecode (octets s.toList))).map String.ofList

end PanelSource.Http
