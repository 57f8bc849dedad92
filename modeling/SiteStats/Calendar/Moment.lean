import SiteStats.Calendar.Day

/-!
# Moments

A moment is a day, a time of that day and, where it is known, the offset of the clock from UTC.
Offsets are less than a day, so the UTC day of a moment is its own day, the day before or the day
after.
-/

namespace SiteStats

/-- The microseconds of a day. -/
def dayLength : Nat := 86400000000

/-- A wall-clock time: a day, a time of day to the microsecond, and the clock's offset from UTC in
microseconds (positive to the east), if it is known. -/
structure Moment where
  day : Day
  hour : Nat
  minute : Nat
  second : Nat
  microsecond : Nat
  offset : Option Int
  clock_lt : (hour < 24 ∧ minute < 60) ∧ (second < 60 ∧ microsecond < 1000000)
  offset_lt : ∀ o, offset = some o → -(dayLength : Int) < o ∧ o < dayLength
deriving DecidableEq

namespace Moment

instance : Repr Moment where
  reprPrec m _ := s!"{repr m.day} {m.hour}:{m.minute}:{m.second}"

private def decideBounds (offset : Option Int) :
    Decidable (∀ o, offset = some o → -(dayLength : Int) < o ∧ o < dayLength) :=
  match offset with
  | none => isTrue (by simp)
  | some o =>
    if h : -(dayLength : Int) < o ∧ o < dayLength then isTrue (by simpa using h)
    else isFalse (by simpa using h)

/-- What is wrong with an offset: it is a day or more, its days are more than can be counted, or
they do not even fit into a machine word. -/
def offsetFault? (seconds : Int) : Option CalendarFault :=
  let days := seconds.fdiv 86400
  if days < -2147483648 ∨ 2147483647 < days then some .offsetTooLong
  else if days.natAbs > 999999999 then some (.offsetDays days)
  else if -86400 < seconds ∧ seconds < 86400 then none
  else some (.offset seconds)

/-- The moment with these numbers, or the first part of them that does not fit. The offset is given
in seconds, and looked at before everything else. -/
def make (year month day hour minute second microsecond : Int) (offset : Option Int) :
    Except CalendarFault Moment := do
  if let some fault := offset.bind offsetFault? then throw fault
  if let some fault := Day.wordFault? [year, month, day, hour, minute, second, microsecond] then
    throw fault
  let d ← Day.make year month day
  if ¬(0 ≤ hour ∧ hour < 24) then .error .hour
  else if ¬(0 ≤ minute ∧ minute < 60) then .error .minute
  else if ¬(0 ≤ second ∧ second < 60) then .error .second
  else if ¬(0 ≤ microsecond ∧ microsecond < 1000000) then .error .microsecond
  else if hc : (hour.toNat < 24 ∧ minute.toNat < 60) ∧
      (second.toNat < 60 ∧ microsecond.toNat < 1000000) then
    match decideBounds (offset.map (· * 1000000)) with
    | isTrue ho => .ok ⟨d, _, _, _, _, _, hc, ho⟩
    | isFalse _ => .error (.offset (offset.getD 0))
  else .error .microsecond

/-- The microseconds since the start of the moment's own day. -/
def timeOfDay (m : Moment) : Nat :=
  ((m.hour * 60 + m.minute) * 60 + m.second) * 1000000 + m.microsecond

/-- The day of the moment in UTC, which lies outside the calendar for some moments of its first and
its last day. A moment whose offset is not known is taken at its word. -/
def utcDay? (m : Moment) : Option Day :=
  match m.offset with
  | none => some m.day
  | some offset =>
    let time := (m.timeOfDay : Int) - offset
    if time < 0 then m.day.prev?
    else if time < dayLength then some m.day
    else m.day.next?

/-! ## Texts -/

/-- Microseconds behind a point, in six digits, if there are any. -/
def fractionText (microsecond : Nat) : String :=
  let digits := toString microsecond
  if microsecond = 0 then "" else "." ++ "".pushn '0' (6 - digits.length) ++ digits

/-- The text of an offset: sign, hours and minutes, and what is less than a minute if there is
anything. -/
def offsetText (offset : Int) : String :=
  let total := offset.natAbs
  let second := total / 1000000
  (if offset < 0 then "-" else "+") ++ Day.twoDigits (second / 3600) ++ ":" ++
    Day.twoDigits (second / 60 % 60) ++
    (if total % 60000000 = 0 then ""
      else ":" ++ Day.twoDigits (second % 60) ++ fractionText (total % 1000000))

/-- The ISO text of a moment, with the given mark between day and time. -/
def isoText (mark : String) (m : Moment) : String :=
  m.day.isoText ++ mark ++ Day.twoDigits m.hour ++ ":" ++ Day.twoDigits m.minute ++ ":" ++
    Day.twoDigits m.second ++ fractionText m.microsecond ++
    (match m.offset with
      | none => ""
      | some offset => offsetText offset)

end Moment

end SiteStats
