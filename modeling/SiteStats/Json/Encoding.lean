import SiteStats.Json.Reader
import SiteStats.Text.Utf8

/-!
# Encodings of JSON bodies

A body is a row of octets. Its encoding shows in its first octets: a byte order mark, or the zeros
that ASCII characters have in UTF-16 and UTF-32. Each encoding is one step function, which takes a
code point from the front of the octets or says what is wrong there; halves of surrogate pairs that
stand alone are let through.
-/

namespace SiteStats.Json

open Text (OctetProblem OctetStep)

/-- The encodings that a body can have, the long ones with either end first. -/
inductive Encoding where
  | utf8
  | utf16 (bigEndian : Bool)
  | utf32 (bigEndian : Bool)
deriving DecidableEq, Repr

/-- Octets that cannot be decoded: those with the problem, and the position of the first of them. -/
structure OctetFault where
  encoding : Encoding
  position : Nat
  octets : List UInt8
  problem : OctetProblem
deriving DecidableEq, Repr

/-- The name of an encoding. -/
def Encoding.title : Encoding → String
  | utf8 => "utf-8"
  | utf16 bigEndian => if bigEndian then "utf-16-be" else "utf-16-le"
  | utf32 bigEndian => if bigEndian then "utf-32-be" else "utf-32-le"

/-- The text of an octet fault. -/
def OctetFault.message (fault : OctetFault) : String :=
  let place :=
    match fault.octets with
    | [octet] => s!"byte 0x{String.ofList (Text.hex 2 octet.toNat)} in position {fault.position}"
    | octets => s!"bytes in position {fault.position}-{fault.position + octets.length - 1}"
  s!"'{fault.encoding.title}' codec can't decode {place}: {fault.problem.text}"

namespace OctetStep

/-- The number that octets stand for, the highest first. -/
def number (octets : List UInt8) : Nat :=
  octets.foldl (fun n octet => 256 * n + octet.toNat) 0

/-- The number that octets stand for in the given order. -/
def ordered (bigEndian : Bool) (octets : List UInt8) : Nat :=
  number (if bigEndian then octets else octets.reverse)

/-- One step of UTF-16. A pair of halves is one code point. -/
def utf16 (bigEndian : Bool) (a : UInt8) : List UInt8 → OctetStep
  | [] => .fault .truncated 0
  | b :: rest =>
    let high := ordered bigEndian [a, b]
    match rest with
    | c :: d :: _ =>
      let low := ordered bigEndian [c, d]
      if 0xD800 ≤ high ∧ high < 0xDC00 ∧ 0xDC00 ≤ low ∧ low < 0xE000 then
        .point (0x10000 + (high - 0xD800) * 0x400 + (low - 0xDC00)) 3
      else .point high 1
    | _ => .point high 1

/-- One step of UTF-32. -/
def utf32 (bigEndian : Bool) (a : UInt8) : List UInt8 → OctetStep
  | b :: c :: d :: _ =>
    let code := ordered bigEndian [a, b, c, d]
    if code < 0x110000 then .point code 3 else .fault .outOfRange 3
  | rest => .fault .truncated rest.length

end OctetStep

/-- One step of an encoding. -/
def Encoding.step : Encoding → UInt8 → List UInt8 → OctetStep
  | utf8 => OctetStep.utf8
  | utf16 bigEndian => OctetStep.utf16 bigEndian
  | utf32 bigEndian => OctetStep.utf32 bigEndian

/-- Decodes octets, the first of which has the given position. Code points decoded before are handed
in in reverse. -/
def Encoding.decodeFrom (encoding : Encoding) (position : Nat) (done : List Point) :
    List UInt8 → Except OctetFault (List Point)
  | [] => .ok done.reverse
  | first :: rest =>
    match encoding.step first rest with
    | .point code more =>
      decodeFrom encoding (position + 1 + more) (.ofNat code :: done) (rest.drop more)
    | .fault problem more => .error ⟨encoding, position, first :: rest.take more, problem⟩
termination_by octets => octets.length
decreasing_by simp only [List.length_drop, List.length_cons]; omega

/-- An encoding that the first octets show, and what it applies to: the octets, and the position of
the first of them. -/
structure Encoded where
  encoding : Encoding
  position : Nat
  octets : List UInt8
deriving DecidableEq, Repr

/-- Finds out the encoding of a body, and skips its byte order mark. -/
def Encoded.of (body : List UInt8) : Encoded :=
  match body with
  | 0x00 :: 0x00 :: 0xFE :: 0xFF :: rest => ⟨.utf32 true, 4, rest⟩
  | 0xFF :: 0xFE :: 0x00 :: 0x00 :: rest => ⟨.utf32 false, 4, rest⟩
  | 0xFE :: 0xFF :: rest => ⟨.utf16 true, 2, rest⟩
  | 0xFF :: 0xFE :: rest => ⟨.utf16 false, 2, rest⟩
  | 0xEF :: 0xBB :: 0xBF :: rest => ⟨.utf8, 0, rest⟩
  | a :: b :: c :: d :: _ =>
    if a = 0 then ⟨if b = 0 then .utf32 true else .utf16 true, 0, body⟩
    else if b = 0 then ⟨if c = 0 ∧ d = 0 then .utf32 false else .utf16 false, 0, body⟩
    else ⟨.utf8, 0, body⟩
  | [a, b] =>
    if a = 0 then ⟨.utf16 true, 0, body⟩
    else if b = 0 then ⟨.utf16 false, 0, body⟩
    else ⟨.utf8, 0, body⟩
  | body => ⟨.utf8, 0, body⟩

/-- Why a body is not a JSON value: its octets cannot be decoded, its text cannot be read, or it
lies beyond a limit of the reader. -/
inductive BodyFault where
  | octets (fault : OctetFault)
  | text (fault : LocatedFault)
  | beyond (limit : Limit)
deriving DecidableEq, Repr

/-- The text of a body fault. -/
def BodyFault.message : BodyFault → String
  | octets fault => fault.message
  | text fault => fault.message
  | beyond limit => limit.message

/-- What stops the reading of a text as a fault of the body that it is the text of. -/
def ReadFault.ofBody : ReadFault → BodyFault
  | malformed fault => .text fault
  | beyond limit => .beyond limit

/-- The value that a body holds. -/
def readBody [Room] (body : List UInt8) : Except BodyFault Value :=
  let encoded := Encoded.of body
  match encoded.encoding.decodeFrom encoded.position [] encoded.octets with
  | .ok points => (readPoints points).mapError ReadFault.ofBody
  | .error fault => .error (.octets fault)

end SiteStats.Json
