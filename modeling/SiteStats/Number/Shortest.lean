import SiteStats.Number.Binary64

/-!
# The shortest text of a double

A double is written with the fewest decimal digits that still read back as it, and of the candidates
with that many digits with the one nearest to it. The search looks at one digit, two digits and so
on up to seventeen, which always suffice. On each decimal grid only the two neighbours of the double
need to be looked at: if any point of the grid reads back as the double, so does one of them.
-/

namespace SiteStats.Binary64

/-- A decimal number `digits · 10 ^ power`. -/
structure Decimal where
  digits : Nat
  power : Int
deriving DecidableEq, Repr

/-- The fractions that read back as one double, all three over the same denominator: the double
itself, and the ends of the interval, which belong to it when `closed` holds. -/
structure Rounding where
  low : Nat
  value : Nat
  high : Nat
  den : Nat
  closed : Bool

/-- The interval of `mantissa · 2 ^ exponent`: half a step up and half a step down, where the step
down is only half as wide below a power of two. -/
def Rounding.of (mantissa : Nat) (exponent : Int) : Rounding :=
  let narrow := mantissa = hiddenBit ∧ exponent > minExponent
  let up := Nat.pow 2 exponent.toNat
  let down := Nat.pow 2 (-exponent).toNat
  { low := (4 * mantissa - (if narrow then 1 else 2)) * up
    value := 4 * mantissa * up
    high := (4 * mantissa + 2) * up
    den := 4 * down
    closed := mantissa % 2 = 0 }

/-- `10 ^ power` as a fraction. -/
private def powerOfTen (power : Int) : Nat × Nat :=
  (Nat.pow 10 power.toNat, Nat.pow 10 (-power).toNat)

/-- The decimal number lies in the interval. -/
def Rounding.covers (r : Rounding) (d : Decimal) : Bool :=
  let (up, down) := powerOfTen d.power
  let given := d.digits * up * r.den
  let low := r.low * down
  let high := r.high * down
  if r.closed then low ≤ given && given ≤ high else low < given && given < high

/-- The exponent of the leading decimal digit. -/
def Rounding.leadingPower (r : Rounding) : Int :=
  let log : Int := (r.value.log2 : Int) - r.den.log2
  let estimate := log * 30103 / 100000
  let fits (power : Int) : Bool :=
    let (up, down) := powerOfTen power
    up * r.den ≤ r.value * down
  if fits (estimate + 1) then estimate + 1
  else if fits estimate then estimate
  else estimate - 1

/-- The neighbour on the grid of `10 ^ power` that reads back; the nearer one if both do, and the
one with the even last digit if they are equally near. -/
def Rounding.onGrid? (r : Rounding) (power : Int) : Option Decimal :=
  let (up, down) := powerOfTen power
  let num := r.value * down
  let den := r.den * up
  let below : Decimal := ⟨num / den, power⟩
  let above : Decimal := ⟨num / den + 1, power⟩
  match r.covers below, r.covers above with
  | true, true => some ⟨roundHalfEven num den, power⟩
  | true, false => some below
  | false, true => some above
  | false, false => none

/-- The shortest decimal number that reads back, searched from one digit to seventeen. -/
def Rounding.shortest (r : Rounding) : Decimal :=
  let leading := r.leadingPower
  ((List.range 17).findSome? fun (n : Nat) => r.onGrid? (leading - (n : Int))).getD
    ⟨r.value * (powerOfTen (leading - 16)).2 / (r.den * (powerOfTen (leading - 16)).1),
      leading - 16⟩

/-! ## Layout -/

/-- The least exponent of the leading digit at which a number is written positionally. -/
def minPositional : Int := -4

/-- The exponent of the leading digit from which on numbers are written with an exponent. -/
def maxPositional : Int := 16

/-- An exponent with its sign and at least two digits. -/
private def exponentText (exponent : Int) : String :=
  let digits := toString exponent.natAbs
  "e" ++ (if exponent < 0 then "-" else "+") ++ (if digits.length < 2 then "0" else "") ++ digits

/-- Lays out significant digits whose first stands for a multiple of `10 ^ leading`: positionally,
with at least one digit on either side of the point, for leading powers from `minPositional` up to
but not including `maxPositional`, and otherwise with an exponent. -/
def layout (digits : List Char) (leading : Int) : String :=
  if minPositional ≤ leading ∧ leading < maxPositional then
    if leading < 0 then
      "0." ++ "".pushn '0' (-leading - 1).toNat ++ String.ofList digits
    else
      let whole := leading.toNat + 1
      let fraction := digits.drop whole
      String.ofList (digits.take whole) ++ "".pushn '0' (whole - digits.length) ++ "." ++
        (if fraction.isEmpty then "0" else String.ofList fraction)
  else
    let fraction := digits.drop 1
    String.ofList (digits.take 1) ++
      (if fraction.isEmpty then "" else "." ++ String.ofList fraction) ++
      exponentText leading

/-- The text of a decimal number, trailing zeros dropped. -/
def Decimal.text (d : Decimal) : String :=
  let digits := (toString d.digits).toList
  let leading := d.power + digits.length - 1
  let significant := (digits.reverse.dropWhile (· == '0')).reverse
  layout (if significant.isEmpty then ['0'] else significant)
    (if significant.isEmpty then 0 else leading)

/-- The text of a double. -/
def text (x : Float) : String :=
  match view x with
  | .nan => "nan"
  | .infinite negative => if negative then "-inf" else "inf"
  | .finite negative mantissa exponent =>
    (if negative then "-" else "") ++
      (if mantissa = 0 then Decimal.text ⟨0, 0⟩
        else (Rounding.of mantissa exponent).shortest.text)

end SiteStats.Binary64
