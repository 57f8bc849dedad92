import SiteStats.Json.Fault
import SiteStats.Value.Basic

/-!
# JSON numbers

A number is a sign or none, and digits that do not start with a superfluous zero; then a fraction
and an exponent may follow. A point or an exponent mark that is not followed by digits does not
belong to the number, which ends before it. A number with a fraction or an exponent is a double, any
other a whole number, which cannot have more than a certain number of digits.
-/

namespace SiteStats.Json

open Numeral (splitDigits isDigit)

/-- The digits of the whole part: a lone zero, or all the digits there are. -/
def wholePart (s : List Char) : List Char × List Char :=
  match s with
  | '0' :: rest => (['0'], rest)
  | s => splitDigits s

/-- The digits after a point, if a point with digits comes next. -/
def fractionPart (s : List Char) : List Char × List Char :=
  match s with
  | '.' :: rest => if (splitDigits rest).1.isEmpty then ([], s) else splitDigits rest
  | s => ([], s)

/-- The exponent, if a mark with digits comes next. -/
def exponentPart (s : List Char) : Option Int × List Char :=
  match s with
  | c :: rest =>
    if c = 'e' ∨ c = 'E' then
      let (negative, rest) := Numeral.splitSign rest
      let (digits, rest) := splitDigits rest
      if digits.isEmpty then (none, s)
      else
        let power := Numeral.ofDigits digits
        (some (if negative then -(power : Int) else power), rest)
    else (none, s)
  | [] => (none, s)

/-- The minus sign, if it comes next. -/
def minusPart : List Char → Bool × List Char
  | '-' :: rest => (true, rest)
  | rest => (false, rest)

/-- The number at the start of a text, if there is one and as far as it can be read, and what
follows it. -/
def number? (s : List Char) : Option (Except Limit Value × List Char) :=
  let (negative, s) := minusPart s
  let (whole, s) := wholePart s
  if whole.isEmpty then none
  else
    let (fraction, s) := fractionPart s
    let (exponent, s) := exponentPart s
    if fraction.isEmpty ∧ exponent.isNone then
      if whole.length > Numeral.maxDigits then some (.error (.digits whole.length), s)
      else
        let n : Int := Numeral.ofDigits whole
        some (.ok (.int (if negative then -n else n)), s)
    else
      some (.ok (.float (Binary64.ofDecimal negative (Numeral.ofDigits (whole ++ fraction))
        (exponent.getD 0 - fraction.length))), s)

private theorem length_splitDigits (s : List Char) :
    (splitDigits s).1.length + (splitDigits s).2.length = s.length := by
  rw [← List.length_append, splitDigits, List.takeWhile_append_dropWhile]

private theorem length_splitSign (s : List Char) : (Numeral.splitSign s).2.length ≤ s.length := by
  unfold Numeral.splitSign
  split <;> simp

private theorem length_minusPart (s : List Char) : (minusPart s).2.length ≤ s.length := by
  unfold minusPart
  split <;> simp

private theorem length_wholePart (s : List Char) :
    (wholePart s).1.length + (wholePart s).2.length = s.length := by
  unfold wholePart
  split
  · simp; omega
  · exact length_splitDigits _

private theorem length_fractionPart (s : List Char) : (fractionPart s).2.length ≤ s.length := by
  unfold fractionPart
  split
  · rename_i rest
    have := length_splitDigits rest
    split
    · simp
    · simp
      omega
  · simp

private theorem length_exponentPart (s : List Char) : (exponentPart s).2.length ≤ s.length := by
  unfold exponentPart
  split
  · rename_i c rest
    have h₁ := length_splitSign rest
    have h₂ := length_splitDigits (Numeral.splitSign rest).2
    simp only []
    split
    · split
      · simp
      · simp
        omega
    · simp
  · simp

theorem length_of_number? {s : List Char} {r : Except Limit Value × List Char}
    (h : number? s = some r) :
    r.2.length < s.length := by
  have h₁ := length_minusPart s
  have h₂ := length_wholePart (minusPart s).2
  have h₃ := length_fractionPart (wholePart (minusPart s).2).2
  have h₄ := length_exponentPart (fractionPart (wholePart (minusPart s).2).2).2
  unfold number? at h
  simp only [] at h
  split at h
  · cases h
  · rename_i hw
    have : 0 < (wholePart (minusPart s).2).1.length := by
      rw [List.length_pos_iff]; simpa using hw
    split at h
    · split at h <;> cases h <;> simp only [] <;> omega
    · cases h
      simp only []
      omega

/-- The characters at the start of a text that a number can consist of. -/
def numerals : List Point → List Char
  | .char c :: rest => if isDigit c ∨ c ∈ ['-', '+', '.', 'e', 'E'] then c :: numerals rest else []
  | _ => []

theorem length_numerals (s : List Point) : (numerals s).length ≤ s.length := by
  fun_induction numerals s <;> simp_all

end SiteStats.Json
