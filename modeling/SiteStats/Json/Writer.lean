import SiteStats.Json.Text
import SiteStats.Value.Basic

/-!
# Writing JSON texts

The shortest way to write a value: no blanks, and no escapes but those that are needed. What cannot
be written in JSON — days, moments and parts of filters — is written as null.
-/

namespace SiteStats.Json

/-- One character between the quotes of a string. -/
def writeChar (c : Char) : List Char :=
  if c = '"' then ['\\', '"']
  else if c = '\\' then ['\\', '\\']
  else if c = '\n' then ['\\', 'n']
  else if c = '\r' then ['\\', 'r']
  else if c = '\t' then ['\\', 't']
  else if c = '\x08' then ['\\', 'b']
  else if c = '\x0c' then ['\\', 'f']
  else if c.toNat < 0x20 then '\\' :: 'u' :: Text.hex 4 c.toNat
  else [c]

/-- One code point between the quotes of a string. -/
def writePoint : Point → List Point
  | .char c => (writeChar c).map .char
  | .half offset => [.half offset]

/-- A string between its quotes. -/
def writeString (t : Text) : List Point :=
  .char '"' :: t.toList.flatMap writePoint ++ [.char '"']

/-- A double, with the words for those that are no numbers. -/
def writeFloat (x : Float) : String :=
  match Binary64.view x with
  | .nan => "NaN"
  | .infinite negative => if negative then "-Infinity" else "Infinity"
  | .finite .. => Binary64.text x

mutual

/-- A value. -/
def write : Value → List Point
  | .bool value => (Text.ofString (if value then "true" else "false")).toList
  | .int value => (Text.ofString (toString value)).toList
  | .float value => (Text.ofString (writeFloat value)).toList
  | .text value => writeString value
  | .list items => .char '[' :: [.char ','].intercalate (writeItems items) ++ [.char ']']
  | .object fields => .char '\x7b' :: [.char ','].intercalate (writeFields fields) ++ [.char '\x7d']
  | .null | .day _ | .moment _ | .part _ => (Text.ofString "null").toList

/-- The items of a list. -/
def writeItems : List Value → List (List Point)
  | [] => []
  | item :: rest => write item :: writeItems rest

/-- The fields of an object. -/
def writeFields : List (Text × Value) → List (List Point)
  | [] => []
  | (name, value) :: rest => (writeString name ++ .char ':' :: write value) :: writeFields rest

end

mutual

/-- Whether all doubles in a value are numbers, so that it can be written without words for those
that are not. -/
def isFinite : Value → Bool
  | .float value => (Binary64.ratio? value).isSome
  | .list items => allFinite items
  | .object fields => allFieldsFinite fields
  | _ => true

/-- Whether this holds of all items of a list. -/
def allFinite : List Value → Bool
  | [] => true
  | item :: rest => isFinite item && allFinite rest

/-- Whether this holds of all fields of an object. -/
def allFieldsFinite : List (Text × Value) → Bool
  | [] => true
  | (_, value) :: rest => isFinite value && allFieldsFinite rest

end

end SiteStats.Json
