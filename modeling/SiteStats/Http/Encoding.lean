import SiteStats.Json.Text
import SiteStats.Text.Utf8

/-!
# Texts in addresses and headers

An address consists of ASCII characters. A character that may not stand in a certain part of it is
written as its UTF-8 octets, each of them a percent sign and two hexadecimal digits in capitals. A
list of named values stands in the query of an address as form data, and a name with a password in a
header in base 64.
-/

namespace SiteStats.Http

/-! ## Percent escapes -/

namespace Percent

/-- The characters that never need an escape. -/
def isUnreserved (c : Char) : Bool :=
  ('A' ≤ c && c ≤ 'Z') || ('a' ≤ c && c ≤ 'z') || ('0' ≤ c && c ≤ '9') ||
    c == '-' || c == '.' || c == '_' || c == '~'

/-- A hexadecimal digit in capitals. -/
def hexDigit (n : Nat) : Char :=
  (Nat.digitChar n).toUpper

/-- One octet as an escape. -/
def octet (b : UInt8) : List Char :=
  ['%', hexDigit (b.toNat / 16), hexDigit (b.toNat % 16)]

/-- One character as it is written where the characters that satisfy `safe` stand for themselves. -/
def escapeChar (safe : Char → Bool) (c : Char) : List Char :=
  if safe c then [c] else (String.utf8EncodeChar c).flatMap octet

/-- A string as it is written where the characters that satisfy `safe` stand for themselves. -/
def escape (safe : Char → Bool) (s : String) : String :=
  String.ofList (s.toList.flatMap (escapeChar safe))

/-- A text as it is written there. It is encoded point by point, and the first half ends it. -/
def escapeText (safe : Char → Bool) (t : Text) : Except Text.Unencodable String :=
  match t.string? with
  | some s => .ok (escape safe s)
  | none => .error ⟨.utf8, 0, (t.toList.find? (·.char?.isNone)).toList⟩

/-- The octets that a text with escapes stands for. A percent sign that starts no escape stands for
itself. -/
def octets : List Char → List UInt8
  | [] => []
  | '%' :: a :: b :: rest =>
    match Json.hexDigit? a, Json.hexDigit? b with
    | some high, some low => UInt8.ofNat (16 * high + low) :: octets rest
    | _, _ => String.utf8EncodeChar '%' ++ octets (a :: b :: rest)
  | c :: rest => String.utf8EncodeChar c ++ octets rest

/-- The text that a text with escapes stands for, if its octets are one. -/
def unescape? (s : List Char) : Option String :=
  (octets s).toByteArray.utf8Decode?.map fun chars => String.ofList chars.toList

/-- The text that a text with escapes stands for, with replacement characters for octets that are
none. -/
def unescapeLossy (s : List Char) : String :=
  String.ofList (Text.decodeLossy (octets s))

end Percent

/-! ## Form data

Each name and its value are joined by an equals sign, the pairs by ampersands. A blank is written as
a plus sign and everything but letters, digits and four marks is escaped, so none of the three signs
can come from a name or a value. -/

namespace Form

/-- One character of a name or a value. -/
def encodeChar (c : Char) : List Char :=
  if c = ' ' then ['+'] else Percent.escapeChar Percent.isUnreserved c

/-- A name or a value. -/
def encodePart (s : String) : List Char :=
  s.toList.flatMap encodeChar

/-- A pair. -/
def encodePair (pair : String × String) : List Char :=
  encodePart pair.1 ++ '=' :: encodePart pair.2

/-- A list of pairs. -/
def encode (pairs : List (String × String)) : String :=
  String.ofList (['&'].intercalate (pairs.map encodePair))

/-- The name or value that a text stands for. -/
def decodePart? (s : List Char) : Option String :=
  Percent.unescape? (s.map fun c => if c = '+' then ' ' else c)

/-- The pair that a text stands for; it is split at the first equals sign. -/
def decodePair? (s : List Char) : Option (String × String) :=
  match s.dropWhile (· != '=') with
  | _ :: value => do return (← decodePart? (s.takeWhile (· != '=')), ← decodePart? value)
  | [] => none

/-- The list of pairs that a text stands for. -/
def decode? (s : String) : Option (List (String × String)) :=
  if s = "" then some [] else (s.toList.splitOn '&').mapM decodePair?

end Form

/-! ## Base 64

Three octets are written as four characters that stand for six bits each; what is missing at the end
is filled up with equals signs. -/

namespace Base64

/-- The character for six bits. -/
def digit (n : Nat) : Char :=
  let n := n % 64
  if n < 26 then Char.ofNat ('A'.toNat + n)
  else if n < 52 then Char.ofNat ('a'.toNat + (n - 26))
  else if n < 62 then Char.ofNat ('0'.toNat + (n - 52))
  else if n = 62 then '+' else '/'

/-- Octets, three at a time. -/
def ofOctets : List UInt8 → List Char
  | [] => []
  | [a] => [digit (a.toNat / 4), digit (a.toNat * 16), '=', '=']
  | [a, b] => [digit (a.toNat / 4), digit (a.toNat * 16 + b.toNat / 16), digit (b.toNat * 4), '=']
  | a :: b :: c :: rest =>
    digit (a.toNat / 4) :: digit (a.toNat * 16 + b.toNat / 16) ::
      digit (b.toNat * 4 + c.toNat / 64) :: digit c.toNat :: ofOctets rest

/-- The octets of a text. -/
def encode (s : String) : String :=
  String.ofList (ofOctets (s.toList.flatMap String.utf8EncodeChar))

end Base64

end SiteStats.Http
