import SiteStats.Http.Domain.Allowed
import SiteStats.Http.Domain.Punycode
import SiteStats.Text.Composition
import SiteStats.Text.Direction
import SiteStats.Text.Joining
import SiteStats.Text.LowerCase
import SiteStats.Text.Mark
import SiteStats.Text.Quoted

/-!
# Domain names

A domain name is a row of labels with points between them; it may end in a point. `Domain.write`
gives a name with characters beyond ASCII the form that it has in an address, and `Domain.read` goes
the other way.

A label is a list of code points. It is valid when it is in composed form, has hyphens only where
they may stand, does not start with a mark, holds allowed characters only, those that depend on
their neighbours in the right context, and does not mix directions in a way that could be misread.
`check` names the first fault. In an address a label with characters beyond ASCII is written in
Punycode behind the mark `xn--`.
-/

namespace SiteStats.Http.Domain

/-! ## Labels -/

/-- What is wrong with a label. Positions count from one. -/
inductive LabelFault where
  | empty
  | tooLong
  | nothingWritten
  | writtenHyphen
  | notPunycode
  | notCanonical
  | notComposed
  | reservedHyphens
  | outerHyphen
  | leadingMark
  | joinerNeighbor (point position : Nat) (label : List Nat)
  | joiner (point position : Nat) (label : List Nat)
  | context (point position : Nat) (label : List Nat)
  | notAllowed (point position : Nat) (label : List Nat)
  | noDirection (position : Nat) (label : List Nat)
  | firstDirection (label : List Nat)
  | direction (position : Nat) (rightToLeft : Bool)
  | mixedNumbers
  | lastDirection
deriving DecidableEq, Repr

/-- The number of a code point as it is shown. -/
def shownPoint (n : Nat) : String :=
  let width := if n < 0x10000 then 4 else if n < 0x100000 then 5 else 6
  "U+" ++ String.ofList ((Text.hex width n).map Char.toUpper)

/-- A label between quotes. -/
def shownLabel (label : List Nat) : String :=
  Text.quoted ⟨label.map .ofNat⟩

/-- The text of a label fault. -/
def LabelFault.message : LabelFault → String
  | empty => "Empty Label"
  | tooLong => "Label too long"
  | nothingWritten => "Malformed A-label, no Punycode eligible content found"
  | writtenHyphen => "A-label must not end with a hyphen"
  | notPunycode => "Invalid A-label"
  | notCanonical => "A-label is not the canonical Punycode encoding of its U-label"
  | notComposed => "Label must be in Normalization Form C"
  | reservedHyphens => "Label has disallowed hyphens in 3rd and 4th position"
  | outerHyphen => "Label must not start or end with a hyphen"
  | leadingMark => "Label begins with an illegal combining character"
  | joinerNeighbor point position label =>
    s!"Unknown codepoint adjacent to joiner {shownPoint point} at position {position} in " ++
      shownLabel label
  | joiner point position label =>
    s!"Joiner {shownPoint point} not allowed at position {position} in " ++ shownLabel label
  | context point position label =>
    s!"Codepoint {shownPoint point} not allowed at position {position} in " ++ shownLabel label
  | notAllowed point position label =>
    s!"Codepoint {shownPoint point} at position {position} of " ++ shownLabel label ++
      " not allowed"
  | noDirection position label =>
    "Unknown directionality in label " ++ shownLabel label ++ s!" at position {position}"
  | firstDirection label =>
    "First codepoint in label " ++ shownLabel label ++ " must be directionality L, R or AL"
  | direction position rightToLeft =>
    s!"Invalid direction for codepoint at position {position} in a " ++
      (if rightToLeft then "right-to-left" else "left-to-right") ++ " label"
  | mixedNumbers => "Can not mix numeral types in a right-to-left label"
  | lastDirection => "Label ends with illegal codepoint directionality"

/-! ## Characters that depend on their context -/

/-- Whether the first code point that joining does not pass over joins in one of the given ways. -/
def joins (ways : List Text.Joining) (points : List Nat) : Bool :=
  ((points.dropWhile fun n => Text.joining? n == some .transparent).head?).any fun n =>
    (Text.joining? n).any (· ∈ ways)

/-- The ideographs that have no names but their numbers. -/
def namelessRanges : List (Nat × Nat) := [(0x17000, 0x187F7), (0x18D00, 0x18D08)]

/-- Whether enough is known of a code point to say how it combines with the next one: its class, or
that it has a name at all. -/
def isKnown (n : Nat) : Bool :=
  Text.markClass n != 0 || ((Text.direction? n).isSome && !Text.inRanges n namelessRanges)

/-- Whether a joiner may stand after the code points `before`, given in reverse, and before the
others: after a sign that silences a vowel, or, if it keeps its neighbours apart, between two that
would join. -/
def joinerFits (keepsApart : Bool) (before after : List Nat) : Bool :=
  match before with
  | [] => false
  | last :: _ =>
    Text.markClass last == 9 ||
      (keepsApart && joins [.left, .dual] before && joins [.right, .dual] after)

/-- The code points that may stand in certain contexts only, joiners left out. -/
def isContextual (n : Nat) : Bool :=
  n ∈ [0xB7, 0x375, 0x5F3, 0x5F4, 0x30FB] || (0x660 ≤ n && n ≤ 0x669) || (0x6F0 ≤ n && n ≤ 0x6F9)

/-- Whether such a code point may stand after the code points `before`, given in reverse, and before
the others. -/
def contextFits (n : Nat) (before after : List Nat) : Bool :=
  let others := before ++ after
  if n = 0xB7 then before.head? = some 0x6C && after.head? = some 0x6C
  else if n = 0x375 then after.head?.any fun m => Text.inRanges m Text.greekRanges
  else if n = 0x5F3 ∨ n = 0x5F4 then before.head?.any fun m => Text.inRanges m Text.hebrewRanges
  else if n = 0x30FB then
    others.any fun m => m != 0x30FB && (Text.inRanges m Text.hiraganaRanges ||
      Text.inRanges m Text.katakanaRanges || Text.inRanges m Text.hanRanges)
  else if n ≤ 0x669 then !others.any fun m => 0x6F0 ≤ m && m ≤ 0x6F9
  else !others.any fun m => 0x660 ≤ m && m ≤ 0x669

/-- The first code point that may not stand where it stands. Those before are handed in, in reverse.
-/
def pointFault? (label before : List Nat) : List Nat → Option LabelFault
  | [] => none
  | n :: after =>
    let position := before.length + 1
    if isAllowed n then pointFault? label (n :: before) after
    else if n = 0x200C ∨ n = 0x200D then
      if before.head?.any (!isKnown ·) then some (.joinerNeighbor n position label)
      else if joinerFits (n = 0x200C) before after then pointFault? label (n :: before) after
      else some (.joiner n position label)
    else if isContextual n then
      if contextFits n before after then pointFault? label (n :: before) after
      else some (.context n position label)
    else some (.notAllowed n position label)

/-! ## Directions -/

open Text (Direction)

/-- The fault in the directions of a label that is written from right to left: one that does not
belong there, or two kinds of numbers. The kind of numbers met so far is handed in. -/
def rightToLeftFault? (position : Nat) (numbers : Option Direction) :
    List Direction → Option LabelFault
  | [] => none
  | d :: rest =>
    if d = .leftToRight then some (.direction position true)
    else if d = .number ∨ d = .arabicNumber then
      if numbers.any (· ≠ d) then some .mixedNumbers
      else rightToLeftFault? (position + 1) (some d) rest
    else rightToLeftFault? (position + 1) numbers rest

/-- The fault in the directions of a label that is written from left to right. -/
def leftToRightFault? (position : Nat) : List Direction → Option LabelFault
  | [] => none
  | d :: rest =>
    if d = .rightToLeft ∨ d = .arabicNumber then some (.direction position false)
    else leftToRightFault? (position + 1) rest

/-- Whether the last direction that is not that of a mark is one of those given. -/
def endsIn (allowed : List Direction) (directions : List Direction) : Bool :=
  ((directions.reverse.dropWhile (· == .mark)).head?).any (· ∈ allowed)

/-- The fault in the directions of a label. Only a label with characters from right to left can have
one, unless the direction of a character is not known. -/
def directionFault? (label : List Nat) : Option LabelFault :=
  match (label.zipIdx 1).find? fun (n, _) => (Text.direction? n).isNone with
  | some (_, position) => some (.noDirection position label)
  | none =>
    let directions := label.filterMap Text.direction?
    if !directions.any fun d => d ∈ [.rightToLeft, .arabicNumber] then none
    else
      match directions.head? with
      | some .rightToLeft =>
        (rightToLeftFault? 1 none directions).or
          (if endsIn [.rightToLeft, .number, .arabicNumber] directions then none
            else some .lastDirection)
      | some .leftToRight =>
        (leftToRightFault? 1 directions).or
          (if endsIn [.leftToRight, .number] directions then none else some .lastDirection)
      | _ => some (.firstDirection label)

/-! ## Labels -/

/-- The most characters that a name, and so a label of it, can have. -/
def maxNameLength : Nat := 254

/-- The most characters of a label as it is written. -/
def maxLabelLength : Nat := 63

/-- The first fault of a label. -/
def labelFault? (label : List Nat) : Option LabelFault :=
  if label.isEmpty then some .empty
  else if label.length > maxNameLength then some .tooLong
  else if !Text.isComposed label then some .notComposed
  else if (label.drop 2).take 2 = [0x2D, 0x2D] then some .reservedHyphens
  else if label.head? = some 0x2D ∨ label.getLast? = some 0x2D then some .outerHyphen
  else if label.head?.any Text.isMark then some .leadingMark
  else (pointFault? label [] label).or (directionFault? label)

/-- The label itself, if nothing is wrong with it. -/
def checked (label : List Nat) : Except LabelFault (List Nat) :=
  match labelFault? label with
  | none => .ok label
  | some fault => .error fault

/-- What a written label starts with when it is in Punycode. -/
def writtenMark : List Char := ['x', 'n', '-', '-']

/-- The label that a written one stands for. What is behind the mark has to be just what is written
for it, so that no label is written in two ways. -/
def readLabel (written : List Char) : Except LabelFault (List Nat) :=
  let s := written.map Char.toLower
  if writtenMark.isPrefixOf s then
    let body := s.drop writtenMark.length
    if body.isEmpty then .error .nothingWritten
    else if body.getLast? = some '-' then .error .writtenHyphen
    else
      match Punycode.decode? body with
      | some label => if Punycode.encode label = body then checked label else .error .notCanonical
      | none => .error .notPunycode
  else checked (s.map Char.toNat)

/-- A label as it is written. One that is ASCII already is read, only to be sure that it can be. -/
def writeLabel (label : List Nat) : Except LabelFault (List Char) := do
  let written ←
    if label.all (· < 0x80) then
      let s := label.map Char.ofNat
      (readLabel s).map fun _ => s
    else (checked label).map fun label => writtenMark ++ Punycode.encode label
  if written.length > maxLabelLength then .error .tooLong else .ok written

/-! ## Names -/

/-- What is wrong with a name: it is too long as a whole, or one of its labels has a fault. -/
inductive Fault where
  | tooLong
  | label (fault : LabelFault)
deriving DecidableEq, Repr

/-- The text of a fault. -/
def Fault.message : Fault → String
  | tooLong => "Domain too long"
  | label fault => fault.message

/-- The marks that may stand between two labels besides the point. -/
def labelMarks : List Nat := [0x2E, 0x3002, 0xFF0E, 0xFF61]

/-- The labels of a name, and whether it ends in a point. -/
def labels (points : List Nat) : List (List Nat) × Bool :=
  let parts := points.splitOnP (· ∈ labelMarks)
  if parts.getLast? = some [] then (parts.dropLast, true) else (parts, false)

/-- The ASCII form of a name, which is put in lower case first. The point at its end does not count
for its length. -/
def write (name : String) : Except Fault String := do
  let points := Text.lowerPoints (name.toList.map Char.toNat)
  if points.length > maxNameLength then throw .tooLong
  let (parts, trailing) := labels points
  let written ← parts.mapM fun label => (writeLabel label).mapError .label
  let s := ['.'].intercalate (if trailing then written ++ [[]] else written)
  if s.length > (if trailing then maxNameLength else maxNameLength - 1) then throw .tooLong
  return String.ofList s

/-- The name that an ASCII form stands for. -/
def read (written : String) : Except Fault String := do
  let s := written.toList
  if s.length > maxNameLength then throw .tooLong
  let (parts, trailing) := labels (s.map Char.toNat)
  let names ← parts.mapM fun label => (readLabel (label.map Char.ofNat)).mapError .label
  let points := [0x2E].intercalate (if trailing then names ++ [[]] else names)
  return String.ofList (points.map Char.ofNat)

end SiteStats.Http.Domain
