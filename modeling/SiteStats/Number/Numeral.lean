import SiteStats.Number.Binary64

/-!
# Numerals

Reading numbers from plain text. A numeral is an optional sign and either digits with an optional
point among, before or after them and an optional exponent, or one of the words `inf`, `infinity`
and `nan` in any case. Underscores may stand between two digits and nowhere else; they are taken out
before anything is read.
-/

namespace SiteStats.Numeral

/-- An ASCII digit. -/
def isDigit (c : Char) : Bool :=
  '0' ≤ c && c ≤ '9'

/-- The value of an ASCII digit. -/
def digitValue (c : Char) : Nat :=
  c.toNat - '0'.toNat

/-- The number that a row of digits stands for. -/
def ofDigits (digits : List Char) : Nat :=
  digits.foldl (fun n c => 10 * n + digitValue c) 0

/-- The leading digits and what follows them. -/
def splitDigits (s : List Char) : List Char × List Char :=
  (s.takeWhile isDigit, s.dropWhile isDigit)

/-- A sign, if there is one, and what follows it. -/
def splitSign : List Char → Bool × List Char
  | '-' :: rest => (true, rest)
  | '+' :: rest => (false, rest)
  | rest => (false, rest)

/-- The character before, if any, and the text without its underscores, provided each of them stands
between two digits. -/
def dropUnderscores? (before : Option Char) : List Char → Option (List Char)
  | [] => some []
  | '_' :: rest =>
    let between := before.any isDigit && rest.head?.any isDigit
    if between then dropUnderscores? (some '_') rest else none
  | c :: rest => (dropUnderscores? (some c) rest).map (c :: ·)

/-- The exponent that ends a numeral: none, or `e`, an optional sign and at least one digit. -/
def exponent? : List Char → Option Int
  | [] => some 0
  | c :: rest =>
    if c = 'e' ∨ c = 'E' then
      let (negative, digits) := splitSign rest
      if digits.isEmpty || !digits.all isDigit then none
      else some (if negative then -(ofDigits digits : Int) else ofDigits digits)
    else none

/-- The digits of a numeral without sign, with their power of ten: at least one digit, a point
anywhere, an exponent at the end. -/
def unsigned? (s : List Char) : Option (Nat × Int) :=
  let (whole, rest) := splitDigits s
  let (fraction, rest) :=
    match rest with
    | '.' :: rest => splitDigits rest
    | _ => ([], rest)
  if whole.isEmpty && fraction.isEmpty then none
  else (exponent? rest).map fun e => (ofDigits (whole ++ fraction), e - fraction.length)

/-- The double that a numeral without blanks and underscores stands for. -/
def toDouble? (s : List Char) : Option Float :=
  let (negative, rest) := splitSign s
  match unsigned? rest with
  | some (digits, power) => some (Binary64.ofDecimal negative digits power)
  | none =>
    let word := String.ofList (rest.map Char.toLower)
    if word = "inf" ∨ word = "infinity" then some (Binary64.ofDecimal negative 1 1000)
    else if word = "nan" then some (0.0 / 0.0)
    else none

/-- The double that a numeral without blanks stands for. -/
def double? (s : List Char) : Option Float :=
  (dropUnderscores? none s).bind toDouble?

/-- The whole number that an optional sign and at least one digit stand for. -/
def int? (s : List Char) : Option Int :=
  let (negative, digits) := splitSign s
  if digits.isEmpty || !digits.all isDigit then none
  else some (if negative then -(ofDigits digits : Int) else ofDigits digits)

/-- The most digits of a whole number that is written out, or read from a text. -/
def maxDigits : Nat := 4300

/-- Whether a whole number can be written out. Its sign does not count. -/
def isWritable (n : Int) : Bool :=
  n.natAbs < Nat.pow 10 maxDigits

end SiteStats.Numeral
