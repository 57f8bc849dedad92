/-!
# Doubles as exact numbers

A finite double is a sign, a mantissa and a power of two. `Binary64.view` takes one apart,
`Binary64.ofRatio` goes the other way and rounds any non-negative fraction to the nearest double
(of two equally near ones, to the one with the even mantissa). Everything between is arithmetic on
whole numbers, so no step rounds a second time.
-/

namespace SiteStats.Binary64

/-- What a double stands for: no number, an infinity, or `± mantissa · 2 ^ exponent`. -/
inductive View where
  | nan
  | infinite (negative : Bool)
  | finite (negative : Bool) (mantissa : Nat) (exponent : Int)
deriving DecidableEq, Repr

/-- The exponent of the smallest doubles; no finite double has one below it. -/
def minExponent : Int := -1074

/-- The place of the sign among the bits of a double. -/
def signBit : Nat := 0x8000000000000000

/-- The first bit of every normal mantissa, which is not written; above it begins the exponent. -/
def hiddenBit : Nat := 0x10000000000000

/-- The exponent, as it is written, that marks infinities and what is no number. -/
def specialExponent : Nat := 2047

/-- The bits of infinity. -/
def infinityBits : Nat := specialExponent * hiddenBit

/-- Takes a double apart. The mantissa of a normal double lies between `2 ^ 52` and `2 ^ 53`, a
smaller one occurs at the least exponent only. -/
def view (x : Float) : View :=
  let bits := x.toBits.toNat
  let negative := bits / signBit = 1
  let biased := bits / hiddenBit % (specialExponent + 1)
  let fraction := bits % hiddenBit
  if biased = specialExponent then
    if fraction = 0 then .infinite negative else .nan
  else if biased = 0 then .finite negative fraction minExponent
  else .finite negative (hiddenBit + fraction) (minExponent + (biased - 1 : Nat))

/-- The double with this sign whose remaining bits, read as a number, are `magnitude`; infinity if
that is too much. -/
private def ofMagnitude (negative : Bool) (magnitude : Nat) : Float :=
  let magnitude := min magnitude infinityBits
  Float.ofBits (UInt64.ofNat ((if negative then signBit else 0) + magnitude))

/-- A fraction rounded to a whole number, a half to the even neighbour. -/
def roundHalfEven (num den : Nat) : Nat :=
  let below := num / den
  let rest := num % den
  if 2 * rest < den then below
  else if 2 * rest > den then below + 1
  else if below % 2 = 0 then below
  else below + 1

/-- `num / den` scaled by a power of two, again as a fraction. -/
private def scale (num den : Nat) (exponent : Int) : Nat × Nat :=
  match exponent with
  | .ofNat k => (num * Nat.pow 2 k, den)
  | .negSucc k => (num, den * Nat.pow 2 (k + 1))

/-- The bits after the sign of the double nearest to `num / den`. The exponent is chosen so that the
mantissa has 53 bits, or fewer at the least exponent; a mantissa that is rounded up to `2 ^ 53`
carries into the exponent by itself, because exponent and mantissa stand side by side. -/
def nearestMagnitude (num den : Nat) : Nat :=
  if num = 0 then 0
  else
    let estimate : Int := (num.log2 : Int) - den.log2
    let (n, d) := scale num den (-estimate)
    let log := if n ≥ d then estimate else estimate - 1
    let exponent := max (log - 52) minExponent
    let (n, d) := scale num den (-exponent)
    (exponent - minExponent).toNat * hiddenBit + roundHalfEven n d

/-- The double nearest to `± num / den`; infinity when all finite ones are too small. -/
def ofRatio (negative : Bool) (num den : Nat) : Float :=
  ofMagnitude negative (nearestMagnitude num den)

/-- The double nearest to a whole number, unless all finite ones are too small. -/
def ofInt? (n : Int) : Option Float :=
  let magnitude := nearestMagnitude n.natAbs 1
  if magnitude < infinityBits then some (ofMagnitude (n < 0) magnitude) else none

/-- The double nearest to `± digits · 10 ^ power`. Powers that are far out of range decide the
result before any large number is built. -/
def ofDecimal (negative : Bool) (digits : Nat) (power : Int) : Float :=
  let size : Int := (toString digits).length + power
  if digits = 0 ∨ size < -400 then ofMagnitude negative 0
  else if size > 400 then ofMagnitude negative infinityBits
  else
    match power with
    | .ofNat k => ofRatio negative (digits * Nat.pow 10 k) 1
    | .negSucc k => ofRatio negative digits (Nat.pow 10 (k + 1))

/-- A finite double as a fraction of whole numbers. -/
def ratio? (x : Float) : Option (Int × Nat) :=
  match view x with
  | .finite negative mantissa exponent =>
    let (num, den) := scale mantissa 1 exponent
    some (if negative then -(num : Int) else num, den)
  | _ => none

/-- A finite double as a fraction of whole numbers; zero stands in for all others. -/
def ratioOf (x : Float) : Int × Nat :=
  (ratio? x).getD (0, 1)

/-- The double nearest to a finite double times a whole number. -/
def scaled (x : Float) (factor : Nat) : Float :=
  let (num, den) := ratioOf x
  ofRatio (num < 0) (num.natAbs * factor) den

/-- A finite double with its fractional part cut off. -/
def truncate? (x : Float) : Option Int :=
  (ratio? x).map fun (num, den) => num.tdiv den

/-- A double that is a whole number, as that number. -/
def toInt? (x : Float) : Option Int :=
  match ratio? x with
  | some (num, den) => if num % den = 0 then some (num / den) else none
  | none => none

/-- Whether a double lies above zero. -/
def isPositive (x : Float) : Bool :=
  match view x with
  | .nan => false
  | .infinite negative => !negative
  | .finite negative mantissa _ => !negative && mantissa != 0

end SiteStats.Binary64
