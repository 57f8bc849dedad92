import SiteStats.Number.Numeral
import SiteStats.Text.Basic

/-!
# What is wrong with a JSON text

A fault is a problem and the part of the text that starts where the problem is seen. Where that is —
line, column and offset — follows from how much of the text is left. A text without a problem can
still lie beyond a limit of the reader: a number has too many digits, or arrays and objects stand
too deep in each other.
-/

namespace SiteStats.Json

/-- The ways in which a text fails to be JSON. -/
inductive Problem where
  | noValue
  | extraData
  | noName
  | noColon
  | noComma
  | unterminated
  | control
  | escape
  | hexEscape
  | byteOrderMark
deriving DecidableEq, Repr

/-- The text of a problem. -/
def Problem.text : Problem → String
  | noValue => "Expecting value"
  | extraData => "Extra data"
  | noName => "Expecting property name enclosed in double quotes"
  | noColon => "Expecting ':' delimiter"
  | noComma => "Expecting ',' delimiter"
  | unterminated => "Unterminated string starting at"
  | control => "Invalid control character at"
  | escape => "Invalid \\escape"
  | hexEscape => "Invalid \\uXXXX escape"
  | byteOrderMark => "Unexpected UTF-8 BOM (decode using utf-8-sig)"

/-- What can stand in each other in a text. -/
inductive Container where
  | array
  | object
deriving DecidableEq, Repr

/-- The name of a container. -/
def Container.title : Container → String
  | array => "array"
  | object => "object"

/-- The limits of a reader: a whole number has more digits than can be read, or a container stands
deeper in others than there is room for. -/
inductive Limit where
  | digits (count : Nat)
  | nesting (container : Container)
deriving DecidableEq, Repr

/-- The text of a limit. -/
def Limit.message : Limit → String
  | digits count =>
    s!"Exceeds the limit ({Numeral.maxDigits} digits) for integer string conversion: " ++
      s!"value has {count} digits; use sys.set_int_max_str_digits() to increase the limit"
  | nesting container =>
    s!"maximum recursion depth exceeded while decoding a JSON {container.title} from " ++
      "a unicode string"

/-- What stops the reading of a text: a problem, with the text from the place on where it is seen,
or a limit. -/
inductive Fault where
  | malformed (problem : Problem) (rest : List Point)
  | beyond (limit : Limit)
deriving DecidableEq, Repr

/-- Where a fault is: lines and columns are counted from one, the offset from zero. -/
structure Location where
  line : Nat
  column : Nat
  offset : Nat
deriving DecidableEq, Repr

/-- The place after so many characters of a text. -/
def Location.after (passed : List Point) : Location where
  line := passed.count (.char '\n') + 1
  column := (passed.reverse.takeWhile (· != .char '\n')).length + 1
  offset := passed.length

/-- A problem whose place is known. -/
structure LocatedFault where
  problem : Problem
  location : Location
deriving DecidableEq, Repr

/-- The text of a located fault. -/
def LocatedFault.message (fault : LocatedFault) : String :=
  let place := fault.location
  s!"{fault.problem.text}: line {place.line} column {place.column} (char {place.offset})"

/-- What stops the reading of a whole text, with the place of a problem. -/
inductive ReadFault where
  | malformed (fault : LocatedFault)
  | beyond (limit : Limit)
deriving DecidableEq, Repr

/-- Finds the place of a fault in the text it was found in. -/
def Fault.locate (text : List Point) : Fault → ReadFault
  | malformed problem rest => .malformed ⟨problem, .after (text.take (text.length - rest.length))⟩
  | beyond limit => .beyond limit

end SiteStats.Json
