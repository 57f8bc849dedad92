import SiteStats.Json.Fault

/-!
# JSON strings

What stands between the quotes of a JSON string is read in two steps. `pieces` resolves the escapes
and finds the closing quote; `join` puts together the two halves in which escapes give a character
beyond U+FFFF. Only halves that both come from escapes belong together; any other half stays as it
is.
-/

namespace SiteStats.Json

/-- The value of a hexadecimal digit. -/
def hexDigit? (c : Char) : Option Nat :=
  if '0' ≤ c ∧ c ≤ '9' then some (c.toNat - '0'.toNat)
  else if 'a' ≤ c ∧ c ≤ 'f' then some (c.toNat - 'a'.toNat + 10)
  else if 'A' ≤ c ∧ c ≤ 'F' then some (c.toNat - 'A'.toNat + 10)
  else none

/-- The number that hexadecimal digits stand for. -/
def hexNumber? (digits : List Point) : Option Nat :=
  digits.foldlM (fun n point => (point.char?.bind hexDigit?).map (16 * n + ·)) 0

/-- What a backslash and one character stand for. -/
def escaped? : Char → Option Char
  | '"' => some '"'
  | '\\' => some '\\'
  | '/' => some '/'
  | 'b' => some '\x08'
  | 'f' => some '\x0c'
  | 'n' => some '\n'
  | 'r' => some '\r'
  | 't' => some '\t'
  | _ => none

/-- A piece of a string: a code point, or the number of an escape with four digits. -/
inductive Piece where
  | point (point : Point)
  | number (n : Nat)
deriving DecidableEq, Repr

/-- Reads up to the closing quote. The result is the pieces in reverse, put in front of those
already `read`, and what follows the quote. `opened` is the text from the opening quote on. A
four-digit escape has to be followed by something, even if only by the closing quote. -/
def pieces (opened : List Point) (read : List Piece) :
    List Point → Except Fault (List Piece × List Point)
  | [] => .error (.malformed .unterminated opened)
  | .char '"' :: rest => .ok (read, rest)
  | .char '\\' :: .char 'u' :: a :: b :: c :: d :: rest =>
    match hexNumber? [a, b, c, d] with
    | some n =>
      if rest.isEmpty then .error (.malformed .hexEscape (.char 'u' :: a :: b :: c :: d :: rest))
      else pieces opened (.number n :: read) rest
    | none => .error (.malformed .hexEscape (.char 'u' :: a :: b :: c :: d :: rest))
  | .char '\\' :: .char 'u' :: rest => .error (.malformed .hexEscape (.char 'u' :: rest))
  | .char '\\' :: e :: rest =>
    match e.char?.bind escaped? with
    | some c => pieces opened (.point c :: read) rest
    | none => .error (.malformed .escape (.char '\\' :: e :: rest))
  | [.char '\\'] => .error (.malformed .unterminated opened)
  | c :: rest =>
    if c.toNat ≤ 0x1F then .error (.malformed .control (c :: rest))
    else pieces opened (.point c :: read) rest

/-- The code points of pieces. Numbers of halves that stand next to each other, the high one first,
are joined. -/
def join : List Piece → List Point
  | [] => []
  | .number high :: .number low :: rest =>
    if 0xD800 ≤ high ∧ high < 0xDC00 ∧ 0xDC00 ≤ low ∧ low < 0xE000 then
      Point.ofNat (0x10000 + (high - 0xD800) * 0x400 + (low - 0xDC00)) :: join rest
    else Point.ofNat high :: join (.number low :: rest)
  | .number n :: rest => Point.ofNat n :: join rest
  | .point point :: rest => point :: join rest

/-- The closing quote is passed. -/
theorem length_of_pieces {opened : List Point} {read : List Piece} {s : List Point}
    {r : List Piece × List Point} (h : pieces opened read s = .ok r) : r.2.length < s.length := by
  fun_induction pieces opened read s <;> grind

/-- A text that is shorter than `s`. -/
abbrev Shorter (s : List Point) := { rest : List Point // rest.length < s.length }

/-- The code points of the string whose opening quote starts `opened` and whose remainder is `s`,
and what follows it. -/
def string (opened s : List Point) : Except Fault (List Point × Shorter s) :=
  match h : pieces opened [] s with
  | .ok (read, rest) => .ok (join read.reverse, ⟨rest, length_of_pieces h⟩)
  | .error fault => .error fault

theorem string_of_pieces {opened s : List Point} {read : List Piece} {rest : List Point}
    (h : pieces opened [] s = .ok (read, rest)) :
    string opened s = .ok (join read.reverse, ⟨rest, length_of_pieces h⟩) := by
  unfold string
  split
  · rename_i heq
    cases h.symm.trans heq
    rfl
  · rename_i heq
    cases h.symm.trans heq

end SiteStats.Json
