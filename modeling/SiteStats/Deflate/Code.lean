import SiteStats.Deflate.Bits

/-!
# Prefix codes

The symbols of compressed data are written in codes of different lengths, none of which is the start
of another. A code is given by the length of each symbol, where zero stands for a symbol that does
not occur; shorter ones come first, and those of one length in the order of the symbols. As a tree,
the symbols fill the leaves from left to right.
-/

namespace SiteStats.Deflate

/-- A prefix code: a symbol, a choice between two codes by the next bit, or a place where no symbol
is. -/
inductive Code where
  | gap
  | symbol (n : Nat)
  | branch (zero one : Code)
deriving Repr

namespace Code

/-- The longest code of a symbol. -/
def maxLength : Nat := 15

/-- The symbols that occur, with their lengths, in the order in which they fill the leaves. -/
def ordered (lengths : List Nat) : List (Nat × Nat) :=
  (List.range maxLength).flatMap fun k =>
    (lengths.zipIdx.filter fun entry => entry.1 == k + 1)

/-- Fills the tree below a place that lies `maxLength - room` steps deep, and returns the symbols
that are left. -/
def fill : Nat → List (Nat × Nat) → Code × List (Nat × Nat)
  | _, [] => (gap, [])
  | 0, (_, n) :: rest => (symbol n, rest)
  | room + 1, (length, n) :: rest =>
    if length ≤ maxLength - (room + 1) then (symbol n, rest)
    else
      let (zero, rest) := fill room ((length, n) :: rest)
      let (one, rest) := fill room rest
      (branch zero one, rest)

/-- The code with the given lengths. One without symbols still takes a bit before it fails. -/
def ofLengths (lengths : List Nat) : Code :=
  match ordered lengths with
  | [] => branch gap gap
  | entries => (fill maxLength entries).1

/-- How much of all the leaves the symbols take up, in leaves of the greatest depth. -/
def share (lengths : List Nat) : Nat :=
  lengths.foldl (fun sum length =>
      if length = 0 then sum else sum + Nat.pow 2 (maxLength - length)) 0

/-- Whether the lengths make a code that has no gap. A code without symbols is let through. -/
def isComplete (lengths : List Nat) : Bool :=
  lengths.all (· == 0) || share lengths == Nat.pow 2 maxLength

/-- Whether the lengths make a code without a gap, or one with a single symbol of length one. -/
def isUsable (lengths : List Nat) : Bool :=
  isComplete lengths ||
    (share lengths < Nat.pow 2 maxLength && lengths.all fun length => length ≤ 1)

/-- The next symbol; none where the code has a gap. -/
def read (bits : Bits) : Code → Except Stop (Option Nat × Bits)
  | gap => .ok (none, bits)
  | symbol n => .ok (some n, bits)
  | branch zero one =>
    match bits.next? with
    | none => .error .short
    | some (bit, rest) => if bit then one.read rest else zero.read rest

end Code

end SiteStats.Deflate
