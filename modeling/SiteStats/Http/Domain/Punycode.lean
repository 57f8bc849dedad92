/-!
# Punycode

A label with characters beyond ASCII is written in ASCII: its ASCII characters as they stand, a
hyphen if there are any, and then numbers that say where which other character goes, in ascending
order of code points. The numbers are written in digits of base 36 whose weights adapt to the
numbers before. Labels are lists of code points.
-/

namespace SiteStats.Http.Domain.Punycode

/-! ## Digits -/

/-- A digit of base 36. -/
def digit (n : Nat) : Char :=
  if n < 26 then Char.ofNat ('a'.toNat + n) else Char.ofNat ('0'.toNat + (n - 26))

/-- The value of a digit of base 36, in either case. -/
def digitValue? (c : Char) : Option Nat :=
  if 'a' ≤ c ∧ c ≤ 'z' then some (c.toNat - 'a'.toNat)
  else if 'A' ≤ c ∧ c ≤ 'Z' then some (c.toNat - 'A'.toNat)
  else if '0' ≤ c ∧ c ≤ '9' then some (c.toNat - '0'.toNat + 26)
  else none

/-- The step from one digit position to the next is bounded by a threshold that depends on the bias.
-/
def threshold (bias position : Nat) : Nat :=
  if position ≤ bias then 1 else if position ≥ bias + 26 then 26 else position - bias

/-- A number in digits of varying base, the lowest first. As a digit takes away at least half of
what is left, the number itself bounds their count. -/
def digits (bias : Nat) : Nat → Nat → Nat → List Char
  | 0, _, _ => []
  | fuel + 1, position, n =>
    let t := threshold bias position
    if n < t then [digit n]
    else digit (t + (n - t) % (36 - t)) :: digits bias fuel (position + 36) ((n - t) / (36 - t))

/-- The number at the start of a text, and what follows it; none if the text ends too early or has a
character that is no digit. The weight of the next digit and the sum so far are handed in. -/
def number? (bias : Nat) : Nat → Nat → Nat → List Char → Option (Nat × List Char)
  | _, _, _, [] => none
  | position, weight, sum, c :: rest =>
    match digitValue? c with
    | none => none
    | some value =>
      let t := threshold bias position
      let sum := sum + value * weight
      if value < t then some (sum, rest)
      else number? bias (position + 36) (weight * (36 - t)) sum rest

/-- Divides until the number is small, and counts the divisions. -/
def reduce : Nat → Nat → Nat → Nat × Nat
  | 0, k, delta => (k, delta)
  | fuel + 1, k, delta => if delta > 455 then reduce fuel (k + 36) (delta / 35) else (k, delta)

/-- The bias after a number, given how many characters there are then. -/
def adapt (delta count : Nat) (first : Bool) : Nat :=
  let delta := if first then delta / 700 else delta / 2
  let (k, delta) := reduce (delta + 1) 0 (delta + delta / count)
  k + 36 * delta / (delta + 38)

/-! ## Writing -/

/-- Where the writing of a label stands. -/
structure Progress where
  next : Nat
  delta : Nat
  bias : Nat
  handled : Nat
  written : List Char

/-- Goes over the label once and writes every place of the code point `m`. -/
def pass (basic m : Nat) (label : List Nat) (p : Progress) : Progress :=
  label.foldl (fun p n =>
    if n < m then { p with delta := p.delta + 1 }
    else if n = m then
      { p with
        delta := 0
        bias := adapt p.delta (p.handled + 1) (p.handled = basic)
        handled := p.handled + 1
        written := p.written ++ digits p.bias (p.delta + 1) 36 p.delta }
    else p) p

/-- A label as it is written. -/
def encode (label : List Nat) : List Char :=
  let ascii := (label.filter (· < 0x80)).map Char.ofNat
  let others := (label.filter (0x80 ≤ ·)).mergeSort.eraseDups
  let start : Progress :=
    ⟨0x80, 0, 72, ascii.length, ascii ++ (if ascii.isEmpty then [] else ['-'])⟩
  (others.foldl (fun p m =>
    let p := pass ascii.length m label
      { p with delta := p.delta + (m - p.next) * (p.handled + 1), next := m }
    { p with delta := p.delta + 1, next := p.next + 1 }) start).written

/-! ## Reading -/

/-- Puts in the characters that the numbers name: `place` is where the next one could go at the
earliest, and `point` the code point it has if it goes there. Every number takes up a character, so
the length of the text bounds their count. -/
def insertAll : Nat → (first : Bool) → (bias place point : Nat) → List Nat → List Char →
    Option (List Nat)
  | 0, _, _, _, _, label, _ => some label
  | _ + 1, _, _, _, _, label, [] => some label
  | fuel + 1, first, bias, place, point, label, text =>
    match number? bias 36 1 0 text with
    | none => none
    | some (delta, rest) =>
      let count := label.length + 1
      let point := point + (place + delta) / count
      let place := (place + delta) % count
      if 0x10FFFF < point then none
      else
        insertAll fuel false (adapt delta count first) (place + 1) point
          (label.take place ++ point :: label.drop place) rest

/-- The label that a text stands for. -/
def decode? (text : List Char) : Option (List Nat) :=
  let behind := (text.reverse.takeWhile (· != '-')).reverse
  let basic := text.take (text.length - behind.length - 1)
  insertAll behind.length true 72 0 0x80 (basic.map Char.toNat) behind

end SiteStats.Http.Domain.Punycode
