import SiteStats.Deflate.Code

/-!
# Blocks

Compressed data consists of blocks. A block holds octets as they are, or symbols: octets, the end of
the block, and references to what was put out before, each with a length and a distance. The codes
of the symbols are fixed or described at the start of the block. When the data ends too early, what
was put out until then remains.
-/

namespace SiteStats.Deflate

/-! ## Symbols -/

/-- The shortest length that each of the length symbols stands for, and how many bits are to be
added. -/
def lengthBases : List (Nat × Nat) := [
  (3, 0), (4, 0), (5, 0), (6, 0), (7, 0), (8, 0), (9, 0), (10, 0), (11, 1), (13, 1), (15, 1),
  (17, 1), (19, 2), (23, 2), (27, 2), (31, 2), (35, 3), (43, 3), (51, 3), (59, 3), (67, 4), (83, 4),
  (99, 4), (115, 4), (131, 5), (163, 5), (195, 5), (227, 5), (258, 0)]

/-- The shortest distance that each of the distance symbols stands for, and how many bits are to be
added. -/
def distanceBases : List (Nat × Nat) := [
  (1, 0), (2, 0), (3, 0), (4, 0), (5, 1), (7, 1), (9, 2), (13, 2), (17, 3), (25, 3), (33, 4),
  (49, 4), (65, 5), (97, 5), (129, 6), (193, 6), (257, 7), (385, 7), (513, 8), (769, 8), (1025, 9),
  (1537, 9), (2049, 10), (3073, 10), (4097, 11), (6145, 11), (8193, 12), (12289, 12), (16385, 13),
  (24577, 13)]

/-- The symbol that ends a block. -/
def endSymbol : Nat := 256

/-- The number that a symbol stands for, with the bits to be added; a fault if it stands for none.
-/
def extended (bases : List (Nat × Nat)) (symbol : Nat) (fault : Fault) (bits : Bits) :
    Except Stop (Nat × Bits) :=
  match bases[symbol]? with
  | none => .error (.fault fault)
  | some (base, extra) => (bits.number extra).map fun (n, bits) => (base + n, bits)

/-- What a symbol, or two of them, say. -/
inductive Item where
  | octet (octet : UInt8)
  | blockEnd
  | reference (length distance : Nat)

/-- The codes of a block. -/
structure Codes where
  literals : Code
  distances : Code

/-- The next item of a block. -/
def Codes.item (codes : Codes) (bits : Bits) : Except Stop (Item × Bits) := do
  match ← codes.literals.read bits with
  | (none, _) => .error (.fault .literal)
  | (some symbol, bits) =>
    if symbol < endSymbol then return (.octet (UInt8.ofNat symbol), bits)
    else if symbol = endSymbol then return (.blockEnd, bits)
    else
      let (length, bits) ← extended lengthBases (symbol - endSymbol - 1) .literal bits
      match ← codes.distances.read bits with
      | (none, _) => .error (.fault .distance)
      | (some symbol, bits) =>
        let (distance, bits) ← extended distanceBases symbol .distance bits
        return (.reference length distance, bits)

/-- What was put out, followed by a copy of a part of it, which may run into itself. -/
def copyBack (distance : Nat) : Nat → Array UInt8 → Array UInt8
  | 0, out => out
  | length + 1, out => copyBack distance length (out.push (out[out.size - distance]?.getD 0))

/-- What reading comes to: what was put out, and the bits that follow or the reason why there is no
more. -/
structure Outcome where
  out : Array UInt8
  rest : Except Stop Bits

/-- The items of a block up to its end. Every item takes a bit, so their number is bounded by that
of the bits. -/
def items (codes : Codes) : Nat → Bits → Array UInt8 → Outcome
  | 0, _, out => ⟨out, .error .short⟩
  | fuel + 1, bits, out =>
    match codes.item bits with
    | .error stop => ⟨out, .error stop⟩
    | .ok (.octet octet, rest) => items codes fuel rest (out.push octet)
    | .ok (.blockEnd, rest) => ⟨out, .ok rest⟩
    | .ok (.reference length distance, rest) =>
      if out.size < distance then ⟨out, .error (.fault .tooFarBack)⟩
      else items codes fuel rest (copyBack distance length out)

/-! ## Codes -/

/-- The codes of a block that describes none. -/
def fixedCodes : Codes where
  literals := .ofLengths (List.replicate 144 8 ++ List.replicate 112 9 ++ List.replicate 24 7 ++
    List.replicate 8 8)
  distances := .ofLengths (List.replicate 32 5)

/-- The order in which the lengths are given for the code in which all other lengths are written. -/
def lengthOrder : List Nat :=
  [16, 17, 18, 0, 8, 7, 9, 6, 10, 5, 11, 4, 12, 3, 13, 2, 14, 1, 15]

/-- Numbers of three bits each. -/
def triples (bits : Bits) : Nat → Except Stop (List Nat × Bits)
  | 0 => .ok ([], bits)
  | count + 1 => do
    let (n, bits) ← bits.number 3
    let (rest, bits) ← triples bits count
    return (n :: rest, bits)

/-- So many lengths, written in a code of their own: a length, a number of repetitions of the last
one, or a number of zeros. Those read so far are handed in, in reverse. A code without symbols
stands for zeros. -/
def lengthList (code : Code) (count : Nat) : Nat → Bits → List Nat → Except Stop (List Nat × Bits)
  | 0, _, _ => .error .short
  | fuel + 1, bits, done => do
    if count ≤ done.length then return (done.reverse, bits)
    let (symbol, bits) ← code.read bits
    let symbol := symbol.getD 0
    if symbol < 16 then lengthList code count fuel bits (symbol :: done)
    else
      let (base, extra) := if symbol = 16 then (3, 2) else if symbol = 17 then (3, 3) else (11, 7)
      let (n, bits) ← bits.number extra
      let repeated := if symbol = 16 then done.head? else some 0
      match repeated with
      | none => throw (.fault .repeatedLength)
      | some length =>
        if count < done.length + base + n then throw (.fault .repeatedLength)
        lengthList code count fuel bits (List.replicate (base + n) length ++ done)

/-- The codes that a block describes. -/
def describedCodes (bits : Bits) : Except Stop (Codes × Bits) := do
  let (literalCount, bits) ← bits.number 5
  let (distanceCount, bits) ← bits.number 5
  let (lengthCount, bits) ← bits.number 4
  let literalCount := literalCount + 257
  let distanceCount := distanceCount + 1
  if 286 < literalCount ∨ 30 < distanceCount then throw (.fault .tooManySymbols)
  let (given, bits) ← triples bits (lengthCount + 4)
  let lengths := (List.range 19).map fun n => ((lengthOrder.zip given).lookup n).getD 0
  if !Code.isComplete lengths then throw (.fault .codeLengths)
  let (lengths, bits) ←
    lengthList (.ofLengths lengths) (literalCount + distanceCount) (bits.size + 1) bits []
  let literals := lengths.take literalCount
  let distances := lengths.drop literalCount
  if literals[endSymbol]? = some 0 then throw (.fault .noEnd)
  if !Code.isUsable literals then throw (.fault .literalCode)
  if !Code.isUsable distances then throw (.fault .distanceCode)
  return (⟨.ofLengths literals, .ofLengths distances⟩, bits)

/-! ## Blocks -/

/-- A block of octets as they are: their number, the same with all bits turned, and the octets. -/
def storedBlock (bits : Bits) (out : Array UInt8) : Outcome :=
  let read : Except Stop (Nat × Bits) := do
    let (length, bits) ← bits.aligned.number 16
    let (turned, bits) ← bits.number 16
    if length + turned ≠ 65535 then throw (.fault .storedLength)
    return (length, bits)
  match read with
  | .error stop => ⟨out, .error stop⟩
  | .ok (length, bits) =>
    let out := out ++ (bits.octets.take length).toArray
    if bits.octets.length < length then ⟨out, .error .short⟩
    else ⟨out, .ok ⟨[], bits.octets.drop length⟩⟩

/-- The body of a block of the given kind. -/
def blockBody (kind : Nat) (bits : Bits) (out : Array UInt8) : Outcome :=
  if kind = 0 then storedBlock bits out
  else if kind = 3 then ⟨out, .error (.fault .blockKind)⟩
  else
    match if kind = 1 then .ok (fixedCodes, bits) else describedCodes bits with
    | .error stop => ⟨out, .error stop⟩
    | .ok (codes, bits) => items codes (bits.size + 1) bits out

/-- Block after block up to the last one, which is marked as such. Every block takes a bit, so their
number is bounded by that of the bits. -/
def blocks : Nat → Bits → Array UInt8 → Outcome
  | 0, _, out => ⟨out, .error .short⟩
  | fuel + 1, bits, out =>
    match bits.number 3 with
    | .error stop => ⟨out, .error stop⟩
    | .ok (head, bits) =>
      let outcome := blockBody (head / 2) bits out
      match outcome.rest with
      | .error _ => outcome
      | .ok rest => if head % 2 = 1 then outcome else blocks fuel rest outcome.out

/-- All blocks of some octets. -/
def inflate (octets : List UInt8) : Outcome :=
  let bits := Bits.ofOctets octets
  blocks (bits.size + 1) bits #[]

end SiteStats.Deflate
