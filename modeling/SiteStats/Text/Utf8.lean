/-!
# UTF-8

The octets of a text in UTF-8 are read step by step. `OctetStep.utf8` takes a code point from the
front of them, or says what is wrong there and how many octets that concerns; it lets halves of
surrogate pairs through. `decodeLossy` reads any octets as a text: what cannot be read becomes
replacement characters.
-/

namespace SiteStats.Text

/-- What is wrong with octets. -/
inductive OctetProblem where
  | invalidStart
  | invalidContinuation
  | unexpectedEnd
  | truncated
  | outOfRange
deriving DecidableEq, Repr

/-- The text of an octet problem. -/
def OctetProblem.text : OctetProblem → String
  | invalidStart => "invalid start byte"
  | invalidContinuation => "invalid continuation byte"
  | unexpectedEnd => "unexpected end of data"
  | truncated => "truncated data"
  | outOfRange => "code point not in range(0x110000)"

/-- What one step finds at the front of the octets: a code point that takes up one octet and `more`
others, or a problem with one octet and `more` others. -/
inductive OctetStep where
  | point (code : Nat) (more : Nat)
  | fault (problem : OctetProblem) (more : Nat)
deriving DecidableEq, Repr

namespace OctetStep

/-- An octet that continues a sequence. -/
def continues (octet : UInt8) : Bool :=
  0x80 ≤ octet && octet < 0xC0

/-- The second octet of a sequence lies in a range that depends on the first. -/
def seconds (first second : UInt8) : Bool :=
  let low : UInt8 := if first = 0xE0 then 0xA0 else if first = 0xF0 then 0x90 else 0x80
  let high : UInt8 := if first = 0xF4 then 0x8F else 0xBF
  low ≤ second && second ≤ high

/-- What an octet after the first adds to the code point. -/
def payload (octet : UInt8) : Nat :=
  octet.toNat % 64

/-- One step of UTF-8. -/
def utf8 (first : UInt8) (rest : List UInt8) : OctetStep :=
  if first < 0x80 then .point first.toNat 0
  else if first < 0xC2 ∨ 0xF5 ≤ first then .fault .invalidStart 0
  else
    match rest with
    | [] => .fault .unexpectedEnd 0
    | second :: rest =>
      if !seconds first second then .fault .invalidContinuation 0
      else if first < 0xE0 then .point (first.toNat % 32 * 64 + payload second) 1
      else
        match rest with
        | [] => if first = 0xED ∧ 0xA0 ≤ second then .fault .invalidContinuation 0
          else .fault .unexpectedEnd 1
        | third :: rest =>
          if !continues third then
            if first = 0xED ∧ 0xA0 ≤ second then .fault .invalidContinuation 0
            else .fault .invalidContinuation 1
          else if first < 0xF0 then
            .point ((first.toNat % 16 * 64 + payload second) * 64 + payload third) 2
          else
            match rest with
            | [] => .fault .unexpectedEnd 2
            | fourth :: _ =>
              if !continues fourth then .fault .invalidContinuation 2
              else
                .point (((first.toNat % 8 * 64 + payload second) * 64 + payload third) * 64 +
                  payload fourth) 3

end OctetStep

/-- The text that octets stand for, with one replacement character for each row of octets that
cannot be read. A half of a surrogate pair cannot be, and none of its octets can. -/
def decodeLossy : List UInt8 → List Char
  | [] => []
  | first :: rest =>
    match OctetStep.utf8 first rest with
    | .point code more =>
      if code.isValidChar then Char.ofNat code :: decodeLossy (rest.drop more)
      else '\ufffd' :: decodeLossy rest
    | .fault _ more => '\ufffd' :: decodeLossy (rest.drop more)
termination_by octets => octets.length
decreasing_by all_goals simp only [List.length_drop, List.length_cons]; omega

end SiteStats.Text
