import SiteStats.Number.Numeral
import SiteStats.Text.Classes

/-!
# Whole numbers in texts

A whole number is written exactly when it is a minus sign or none and digits that do not start with
a needless zero. `Numeral.whole` also reads what becomes exact once it is cleaned: blanks around it,
a plus sign, zeros in front (with underscores among them), a point followed by zeros only, and
single underscores between the other characters are taken away. The length of a number is bounded,
both as it stands and when it is cleaned, and only the first of the two has a fault of its own.
-/

namespace SiteStats.Numeral

/-- Why a text is not taken for a whole number. -/
inductive WholeFault where
  | unread
  | oversized
deriving DecidableEq, Repr

/-- A minus sign, if there is one, and what follows it. -/
def splitMinus : List Char → Bool × List Char
  | '-' :: rest => (true, rest)
  | rest => (false, rest)

/-- Whether the text starts with more characters of a number than it may have. A zero at the start
ends the number at once. -/
def isOversized (s : List Char) : Bool :=
  let body := (splitMinus s).2
  body.head? != some '0' && (s.length - body.length) + (splitDigits body).1.length > maxDigits

/-- A whole number that is written exactly. -/
def exactInt? (s : List Char) : Option Int :=
  let (negative, body) := splitMinus s
  let isExact := body.all isDigit && (body.head? != some '0' || body.length == 1)
  if body.isEmpty || !isExact || s.length > maxDigits then none
  else some (if negative then -(ofDigits body : Int) else ofDigits body)

/-- What follows zeros and underscores, given the character before. The number starts at the next
digit or minus sign; if a point comes first, or nothing, the character before belongs to it. -/
private def afterZeros (before : Char) : List Char → Option (List Char)
  | [] => some [before]
  | c :: rest =>
    if c = '0' ∨ c = '_' then afterZeros c rest
    else if isDigit c ∨ c = '-' then some (c :: rest)
    else if c = '.' then some (before :: c :: rest)
    else none

/-- The text without needless zeros at its start, which has to be a digit or a minus sign. -/
def dropZeros? : List Char → Option (List Char)
  | [] => none
  | c :: rest =>
    if c = '0' then afterZeros c rest
    else if isDigit c ∨ c = '-' then some (c :: rest)
    else none

/-- The text without a point that is followed by zeros, at least one, and nothing else. -/
def dropZeroFraction (s : List Char) : List Char :=
  let body := s.takeWhile (· != '.')
  let fraction := s.drop (body.length + 1)
  if !fraction.isEmpty && fraction.all (· == '0') then body else s

/-- The text without its underscores, provided none of them stands at an end or beside another. -/
def dropSingleUnderscores? (s : List Char) : Option (List Char) :=
  let isDoubled := (s.zip (s.drop 1)).any fun pair => pair.1 == '_' && pair.2 == '_'
  if s.head? = some '_' ∨ s.getLast? = some '_' ∨ isDoubled then none
  else some (s.filter (· != '_'))

/-- The text cleaned of all that an exact number does not have. -/
def clean? (s : List Char) : Option (List Char) :=
  let s := Text.trim Text.isBlank s
  match s with
  | '+' :: '-' :: _ => none
  | '+' :: rest => digits? rest
  | '-' :: rest => (digits? rest).map ('-' :: ·)
  | rest => digits? rest
where
  /-- Cleans what follows the sign. -/
  digits? (s : List Char) : Option (List Char) :=
    ((dropZeros? s).map dropZeroFraction).bind dropSingleUnderscores?

/-- The whole number that a text stands for. -/
def whole (s : List Char) : Except WholeFault Int :=
  if isOversized s then .error .oversized
  else
    match exactInt? s with
    | some n => .ok n
    | none =>
      match (clean? s).bind exactInt? with
      | some n => .ok n
      | none => .error .unread

end SiteStats.Numeral
