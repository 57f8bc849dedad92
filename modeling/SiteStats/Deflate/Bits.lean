/-!
# Rows of bits

Compressed data is a row of bits: the octets one after the other, the lowest bit of each first.
Reading can stop for two reasons, which are told apart: the data ends too early, or it is wrong.
-/

namespace SiteStats.Deflate

/-- What can be wrong with compressed data. -/
inductive Fault where
  | header
  | method
  | window
  | flags
  | headerSum
  | dictionary
  | blockKind
  | storedLength
  | tooManySymbols
  | codeLengths
  | repeatedLength
  | noEnd
  | literalCode
  | distanceCode
  | literal
  | distance
  | tooFarBack
  | dataSum
  | dataLength
deriving DecidableEq, Repr

/-- Why reading stops. -/
inductive Stop where
  | short
  | fault (fault : Fault)
deriving DecidableEq, Repr

/-- A row of bits: what is left of the current octet, and the octets after it. -/
structure Bits where
  pending : List Bool
  octets : List UInt8
deriving DecidableEq, Repr

namespace Bits

/-- The bits of some octets. -/
def ofOctets (octets : List UInt8) : Bits :=
  ⟨[], octets⟩

/-- How many bits there are. -/
def size (bits : Bits) : Nat :=
  bits.pending.length + 8 * bits.octets.length

/-- The bits of an octet, the lowest first. -/
def ofOctet (octet : UInt8) : List Bool :=
  (List.range 8).map fun k => octet.toNat.testBit k

/-- The next bit and the rest. -/
def next? : Bits → Option (Bool × Bits)
  | ⟨bit :: pending, octets⟩ => some (bit, ⟨pending, octets⟩)
  | ⟨[], octet :: octets⟩ =>
    match ofOctet octet with
    | bit :: pending => some (bit, ⟨pending, octets⟩)
    | [] => none
  | ⟨[], []⟩ => none

/-- The number in so many bits, the lowest first. -/
def number (bits : Bits) : Nat → Except Stop (Nat × Bits)
  | 0 => .ok (0, bits)
  | count + 1 =>
    match bits.next? with
    | none => .error .short
    | some (bit, rest) => (rest.number count).map fun (n, rest) => (2 * n + bit.toNat, rest)

/-- The bits from the next whole octet on. -/
def aligned (bits : Bits) : Bits :=
  ⟨[], bits.octets⟩

end Bits

end SiteStats.Deflate
