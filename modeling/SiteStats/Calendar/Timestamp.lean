import SiteStats.Calendar.Day
import SiteStats.Number.Binary64

/-!
# Timestamps

A number can stand for a point in time: the seconds since the start of 1970 in UTC, or the
milliseconds if the number is far from zero. `Instant` is what it stands for when it lies between
the start of year 0 and the end of year 9999. Year 0 is not in the calendar, and an instant in it
has no `Day`.
-/

namespace SiteStats

/-- The day with that number, if the calendar has it. A cycle of 400 years, a century, four years
and a year are split off one after the other; the last century of a cycle and the last year of four
have a day more than the others. -/
def Day.ofNumber? (number : Nat) : Option Day :=
  if number = 0 then none else
  let rest := number - 1
  let cycles := rest / 146097
  let rest := rest % 146097
  let centuries := min (rest / 36524) 3
  let rest := rest - centuries * 36524
  let fours := rest / 1461
  let rest := rest % 1461
  let years := min (rest / 365) 3
  let rest := rest - years * 365
  let year := 400 * cycles + 100 * centuries + 4 * fours + years + 1
  let month := ((List.range 12).find? fun m => rest < Day.daysBeforeMonth year (m + 2)).getD 0 + 1
  (Day.make year month (rest - Day.daysBeforeMonth year month + 1)).toOption

/-- A point in time, as microseconds since the start of 1970 in UTC. -/
structure Instant where
  second : Int
  microsecond : Nat
deriving DecidableEq, Repr

/-- Why a number stands for no instant. -/
inductive TimestampFault where
  | tooEarly
  | tooLate
  | notANumber
deriving DecidableEq, Repr

namespace Instant

/-- A number beyond this, in either direction, counts milliseconds. -/
def secondLimit : Int := 20000000000

/-- The numbers that are read are those that fit into 64 bits. -/
def wordLimit : Int := 9223372036854775808

/-- The first second of year 0. -/
def firstSecond : Int := -62167219200

/-- The last second of year 9999. -/
def lastSecond : Int := 253402300799

/-- The number of the day on which 1970 starts. -/
def epochDay : Int := 719163

/-- The instant that so many seconds (or milliseconds) stand for. -/
def ofTimestamp (count : Int) : Except TimestampFault Instant :=
  if count ≤ -wordLimit then .error .tooEarly
  else
    let inSeconds := count.natAbs ≤ secondLimit.natAbs
    let second := if inSeconds then count else count.fdiv 1000
    let micro := if inSeconds then 0 else (count.fmod 1000).toNat * 1000
    if second < firstSecond then .error .tooEarly
    else if second > lastSecond then .error .tooLate
    else .ok ⟨second, micro⟩

/-- The instant `num / den` seconds after the start of 1970. The whole seconds are those below it,
and the rest is a double times a million, again a double, rounded to microseconds, a half upwards.
What does not fit into 64 bits is as good as the largest number that does. -/
def ofSeconds (num : Int) (den : Nat) : Except TimestampFault Instant :=
  let whole := num.fdiv den
  let rest := Binary64.ofRatio false (num - whole * den).toNat den
  let (top, bottom) := Binary64.ratioOf (Binary64.scaled rest 1000000)
  let micro := (2 * top.toNat + bottom) / (2 * bottom)
  let second := whole + (micro / 1000000 : Nat)
  if second < firstSecond then .error .tooEarly
  else if second > lastSecond then .error .tooLate
  else .ok ⟨second, micro % 1000000⟩

/-- The instant that a double stands for. One that counts milliseconds is first divided by a
thousand, which gives a double again. -/
def ofDouble (x : Float) : Except TimestampFault Instant :=
  match Binary64.view x with
  | .nan => .error .notANumber
  | .infinite negative => .error (if negative then .tooEarly else .tooLate)
  | .finite negative _ _ =>
    let (num, den) := Binary64.ratioOf x
    if num.natAbs ≤ secondLimit.natAbs * den then ofSeconds num den
    else
      let (num, den) := Binary64.ratioOf (Binary64.ofRatio negative num.natAbs (den * 1000))
      ofSeconds num den

/-- Whether the time of day is zero. -/
def isMidnight (i : Instant) : Bool :=
  i.second % 86400 == 0 && i.microsecond == 0

/-- The day of the instant; none in year 0. -/
def day? (i : Instant) : Option Day :=
  let number := i.second / 86400 + epochDay
  if number < 1 then none else Day.ofNumber? number.toNat

end Instant

end SiteStats
