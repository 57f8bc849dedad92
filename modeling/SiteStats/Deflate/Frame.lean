import SiteStats.Deflate.Block

/-!
# Frames

Compressed data stands bare or in one of two frames, each with a header in front and a checksum
behind. All three are read to the same end: what was put out, unless there is a fault. Data that
ends too early has none, and what follows the frame is left alone.

The checksums are two sums over octets that tell whether data has arrived as it was sent. One is the
remainder of a polynomial over two elements, the other consists of two sums modulo a prime.
-/

namespace SiteStats.Deflate

/-! ## Checksums -/

/-- The polynomial of the first sum, its lowest power in the highest bit. -/
def polynomial : UInt32 := 0xEDB88320

/-- One step of the division by the polynomial. -/
def shiftRemainder (c : UInt32) : UInt32 :=
  if c &&& 1 = 1 then (c >>> 1) ^^^ polynomial else c >>> 1

/-- The remainder after one more octet. -/
def addOctet (c : UInt32) (octet : UInt8) : UInt32 :=
  Nat.repeat shiftRemainder 8 (c ^^^ octet.toUInt32)

/-- The remainder of all octets, with all bits turned before and after. -/
def crc32 (octets : List UInt8) : Nat :=
  ((octets.foldl addOctet 0xFFFFFFFF) ^^^ 0xFFFFFFFF).toNat

/-- The prime of the second sum. -/
def sumModulus : Nat := 65521

/-- The sum of all octets, and the sum of the sums on the way; the first starts at one. -/
def adler32 (octets : List UInt8) : Nat :=
  let (a, b) := octets.foldl (fun (a, b) octet =>
    let a := (a + octet.toNat) % sumModulus
    (a, (b + a) % sumModulus)) (1, 0)
  b * 65536 + a

/-! ## Faults and frames -/

/-- The text of a fault; a missing dictionary has none. -/
def Fault.reason? : Fault → Option String
  | header => some "incorrect header check"
  | method => some "unknown compression method"
  | window => some "invalid window size"
  | flags => some "unknown header flags set"
  | headerSum => some "header crc mismatch"
  | dictionary => none
  | blockKind => some "invalid block type"
  | storedLength => some "invalid stored block lengths"
  | tooManySymbols => some "too many length or distance symbols"
  | codeLengths => some "invalid code lengths set"
  | repeatedLength => some "invalid bit length repeat"
  | noEnd => some "invalid code -- missing end-of-block"
  | literalCode => some "invalid literal/lengths set"
  | distanceCode => some "invalid distances set"
  | literal => some "invalid literal/length code"
  | distance => some "invalid distance code"
  | tooFarBack => some "invalid distance too far back"
  | dataSum => some "incorrect data check"
  | dataLength => some "incorrect length check"

/-- The message that goes with a fault. -/
def Fault.message (fault : Fault) : String :=
  match fault.reason? with
  | some reason => "Error -3 while decompressing data: " ++ reason
  | none => "Error 2 while decompressing data"

/-- What reads the front of some octets. -/
abbrev OctetReader (α : Type) := List UInt8 → Except Stop (α × List UInt8)

/-- So many octets. -/
def octets (count : Nat) : OctetReader (List UInt8) := fun s =>
  if s.length < count then .error .short else .ok (s.take count, s.drop count)

/-- The number in octets, the highest first. -/
def highFirst (s : List UInt8) : Nat :=
  s.foldl (fun n octet => 256 * n + octet.toNat) 0

/-- The number in octets, the lowest first. -/
def lowFirst (s : List UInt8) : Nat :=
  highFirst s.reverse

/-- Octets up to a zero. -/
def zeroEnded : OctetReader Unit := fun s =>
  match s.dropWhile (· != 0) with
  | [] => .error .short
  | _ :: rest => .ok ((), rest)

/-- What was put out, if nothing is wrong. -/
def finish (out : Array UInt8) : Except Stop Unit → Except Fault (List UInt8)
  | .error (.fault fault) => .error fault
  | _ => .ok out.toList

/-- The data behind a header, and the check of what stands behind the data. -/
def framed (header : Except Stop (List UInt8))
    (trailer : Array UInt8 → List UInt8 → Except Stop Unit) :
    Except Fault (List UInt8) :=
  match header with
  | .error stop => finish #[] (.error stop)
  | .ok s =>
    let outcome := inflate s
    finish outcome.out (outcome.rest.bind fun bits => trailer outcome.out bits.octets)

/-- Data without a frame. -/
def bare (s : List UInt8) : Except Fault (List UInt8) :=
  framed (.ok s) fun _ _ => .ok ()

/-- The short header: two octets, of which the first says how the data is compressed and in how
large a window. The second may ask for a dictionary, which is never there. -/
def shortHeader (s : List UInt8) : Except Stop (List UInt8) := do
  let (head, s) ← octets 2 s
  let first := head.headD 0
  let number := highFirst head
  if number % 31 ≠ 0 then throw (.fault .header)
  if first % 16 ≠ 8 then throw (.fault .method)
  if 7 < first / 16 then throw (.fault .window)
  if number / 32 % 2 = 1 then
    let (_, _) ← octets 4 s
    throw (.fault .dictionary)
  return s

/-- Data in the short frame, which ends in a sum. -/
def short (s : List UInt8) : Except Fault (List UInt8) :=
  framed (shortHeader s) fun out s => do
    let (sum, _) ← octets 4 s
    if highFirst sum ≠ adler32 out.toList then throw (.fault .dataSum)

/-- The long header: ten octets, and parts that its fourth octet announces. -/
def longHeader (s : List UInt8) : Except Stop (List UInt8) := do
  let start := s
  let (mark, s) ← octets 2 s
  if mark ≠ [0x1F, 0x8B] then throw (.fault .header)
  let (kind, s) ← octets 2 s
  let flags := highFirst (kind.drop 1)
  if kind.headD 0 ≠ 8 then throw (.fault .method)
  if 32 ≤ flags then throw (.fault .flags)
  let (_, s) ← octets 6 s
  let s ←
    if flags.testBit 2 then do
      let (length, s) ← octets 2 s
      let (_, s) ← octets (lowFirst length) s
      pure s
    else pure s
  let ((), s) ← if flags.testBit 3 then zeroEnded s else pure ((), s)
  let ((), s) ← if flags.testBit 4 then zeroEnded s else pure ((), s)
  if flags.testBit 1 then
    let read := start.take (start.length - s.length)
    let (sum, s) ← octets 2 s
    if lowFirst sum ≠ crc32 read % 65536 then throw (.fault .headerSum)
    return s
  else return s

/-- Data in the long frame, which ends in a sum and the length of the data. -/
def long (s : List UInt8) : Except Fault (List UInt8) :=
  framed (longHeader s) fun out s => do
    let (sum, s) ← octets 4 s
    if lowFirst sum ≠ crc32 out.toList then throw (.fault .dataSum)
    let (length, _) ← octets 4 s
    if lowFirst length ≠ out.size % 4294967296 then throw (.fault .dataLength)

end SiteStats.Deflate
