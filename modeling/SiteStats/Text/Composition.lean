import SiteStats.Text.Decomposition

/-!
# Canonical composition

Two texts that differ only in how their characters are put together stand for the same. One of them
is the composed form: all characters are taken apart, the marks after each of them are put in order,
and then as much as possible is put together again. `isComposed` says whether a text, given by its
code points, is in this form already.
-/

namespace SiteStats.Text

/-! ## Hangul syllables -/

/-- The first syllable. -/
def syllableStart : Nat := 0xAC00

/-- How many syllables there are. -/
def syllableCount : Nat := 11172

/-- The first of the 19 leading consonants. -/
def leadingStart : Nat := 0x1100

/-- The first of the 21 vowels. -/
def vowelStart : Nat := 0x1161

/-- The code point before the first of the 27 trailing consonants. -/
def trailingStart : Nat := 0x11A7

/-- A syllable as consonant, vowel and perhaps another consonant. -/
def syllableParts? (n : Nat) : Option (List Nat) :=
  if syllableStart ≤ n ∧ n < syllableStart + syllableCount then
    let index := n - syllableStart
    let parts := [leadingStart + index / 588, vowelStart + index % 588 / 28]
    some (if index % 28 = 0 then parts else parts ++ [trailingStart + index % 28])
  else none

/-- The syllable that a consonant and a vowel, or a syllable of these and a consonant, come together
in. -/
def syllable? (first second : Nat) : Option Nat :=
  if leadingStart ≤ first ∧ first < leadingStart + 19 ∧
      vowelStart ≤ second ∧ second < vowelStart + 21 then
    some (syllableStart + ((first - leadingStart) * 21 + (second - vowelStart)) * 28)
  else if syllableStart ≤ first ∧ first < syllableStart + syllableCount ∧
      (first - syllableStart) % 28 = 0 ∧ trailingStart < second ∧ second < trailingStart + 28 then
    some (first + (second - trailingStart))
  else none

/-! ## Taking apart -/

/-- What a code point stands for when it is taken apart as far as possible. No character takes more
than four steps, which bounds the depth. -/
def takenApart : Nat → Nat → List Nat
  | 0, n => [n]
  | depth + 1, n =>
    match syllableParts? n with
    | some parts => parts
    | none =>
      match decomposed? n with
      | some parts => parts.flatMap (takenApart depth)
      | none => [n]

/-- Puts a code point into marks that are in order, behind those of its own class. -/
def insertMark (n : Nat) : List Nat → List Nat
  | [] => [n]
  | m :: rest => if markClass n < markClass m then n :: m :: rest else m :: insertMark n rest

/-- Code points with the marks after each character in order. The marks met so far are held back
until the next character that is none. -/
def orderMarks (held : List Nat) : List Nat → List Nat
  | [] => held
  | n :: rest =>
    if markClass n = 0 then held ++ n :: orderMarks [] rest
    else orderMarks (insertMark n held) rest

/-! ## Putting together -/

/-- What is being put together: the text that is finished in reverse, the character that marks may
still join, and the marks after it that did not, in reverse. -/
structure Composing where
  finished : List Nat
  base : Option Nat
  marks : List Nat

/-- The code points of a text that is being put together. -/
def Composing.text (c : Composing) : List Nat :=
  c.finished.reverse ++ c.base.toList ++ c.marks.reverse

/-- Adds one code point. It joins the base unless a mark stands between them that is not of a lower
class, or anything else that is no mark. -/
def Composing.add (c : Composing) (n : Nat) : Composing :=
  let joined :=
    match c.base with
    | none => none
    | some base =>
      let isFree :=
        match c.marks with
        | [] => true
        | last :: _ => markClass last < markClass n
      if isFree then (syllable? base n).or (composed? base n) else none
  match joined with
  | some whole => { c with base := some whole }
  | none =>
    if markClass n = 0 then ⟨c.marks ++ c.base.toList ++ c.finished, some n, []⟩
    else
      match c.base with
      | none => { c with finished := n :: c.finished }
      | some _ => { c with marks := n :: c.marks }

/-- The composed form of a text. -/
def composedForm (points : List Nat) : List Nat :=
  ((orderMarks [] (points.flatMap (takenApart 8))).foldl Composing.add ⟨[], none, []⟩).text

/-- Whether a text is in composed form. -/
def isComposed (points : List Nat) : Bool :=
  composedForm points == points

end SiteStats.Text
