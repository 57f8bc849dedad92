/-!
# Days

The calendar runs from 1 January of year 1 to 31 December of year 9999 by the Gregorian rules. A
`Day` is a triple of year, month and day of the month that exists in it, so no other triple can be
had. The one before and the one after a day are found by the calendar alone (`Day.prev?`,
`Day.next?`), and `Day.number` counts the days from the first.
-/

namespace SiteStats

/-- Whether a year has a 29 February. -/
def isLeapYear (year : Nat) : Bool :=
  year % 4 == 0 && (year % 100 != 0 || year % 400 == 0)

/-- How many days a month has; there are none in what is no month. -/
def daysInMonth (year month : Nat) : Nat :=
  if month = 2 then (if isLeapYear year then 29 else 28)
  else if month ∈ [4, 6, 9, 11] then 30
  else if month ∈ [1, 3, 5, 7, 8, 10, 12] then 31
  else 0

/-- The triple names a day of the calendar. -/
def IsCalendarDay (year month day : Nat) : Prop :=
  (1 ≤ year ∧ year ≤ 9999) ∧ (1 ≤ month ∧ month ≤ 12) ∧ (1 ≤ day ∧ day ≤ daysInMonth year month)

instance (year month day : Nat) : Decidable (IsCalendarDay year month day) :=
  inferInstanceAs (Decidable (_ ∧ _ ∧ _))

/-- A day of the calendar. -/
structure Day where
  year : Nat
  month : Nat
  day : Nat
  valid : IsCalendarDay year month day
deriving DecidableEq

/-- Why a triple, or a triple with a time of day, is no point of the calendar. The first part that
does not fit is the one to be named. A part that does not even fit into a machine word is named as
such, whatever the other parts are: it is too large or too small for 32 bits, or too long for 64. -/
inductive CalendarFault where
  | tooLarge
  | tooSmall
  | tooLong
  | year (given : Int)
  | month
  | day
  | hour
  | minute
  | second
  | microsecond
  | offset (seconds : Int)
  | offsetDays (days : Int)
  | offsetTooLong
deriving DecidableEq, Repr

/-- An offset as whole days and the seconds that remain, which are not negative. -/
def offsetSpan (seconds : Int) : String :=
  let days := seconds.fdiv 86400
  let rest := seconds.fmod 86400
  s!"datetime.timedelta(days={days}" ++ (if rest = 0 then ")" else s!", seconds={rest})")

/-- The text of a calendar fault. -/
def CalendarFault.message : CalendarFault → String
  | tooLarge => "signed integer is greater than maximum"
  | tooSmall => "signed integer is less than minimum"
  | tooLong => "Python int too large to convert to C long"
  | year given => s!"year {given} is out of range"
  | month => "month must be in 1..12"
  | day => "day is out of range for month"
  | hour => "hour must be in 0..23"
  | minute => "minute must be in 0..59"
  | second => "second must be in 0..59"
  | microsecond => "microsecond must be in 0..999999"
  | offset seconds =>
    "offset must be a timedelta strictly between -timedelta(hours=24) and " ++
      "timedelta(hours=24), not " ++ offsetSpan seconds ++ "."
  | offsetDays days => s!"days={days}; must have magnitude <= 999999999"
  | offsetTooLong => "Python int too large to convert to C int"

namespace Day

instance : Repr Day where
  reprPrec d _ := s!"{d.year}-{d.month}-{d.day}"

/-- Days are ordered by year, then by month, then by day of the month. -/
def Before (a b : Day) : Prop :=
  a.year < b.year ∨
    a.year = b.year ∧ (a.month < b.month ∨ a.month = b.month ∧ a.day < b.day)

instance (a b : Day) : Decidable (a.Before b) :=
  inferInstanceAs (Decidable (_ ∨ _))

/-- The first of some numbers that does not fit into a machine word of 32 bits. -/
def wordFault? : List Int → Option CalendarFault
  | [] => none
  | n :: rest =>
    if n < -9223372036854775808 ∨ 9223372036854775807 < n then some .tooLong
    else if 2147483647 < n then some .tooLarge
    else if n < -2147483648 then some .tooSmall
    else wordFault? rest

/-- The day with these numbers, or the first part of them that does not fit. -/
def make (year month day : Int) : Except CalendarFault Day :=
  if let some fault := wordFault? [year, month, day] then .error fault
  else if ¬(1 ≤ year ∧ year ≤ 9999) then .error (.year year)
  else if ¬(1 ≤ month ∧ month ≤ 12) then .error .month
  else if h : IsCalendarDay year.toNat month.toNat day.toNat then .ok ⟨_, _, _, h⟩
  else .error .day

/-- The first day of a year. -/
private def newYear (year : Nat) (h : 1 ≤ year ∧ year ≤ 9999) : Day :=
  ⟨year, 1, 1, h, by decide, by simp [daysInMonth]⟩

private theorem daysInMonth_pos {year month : Nat} (h : 1 ≤ month ∧ month ≤ 12) :
    1 ≤ daysInMonth year month := by
  obtain ⟨h₁, h₂⟩ := h
  unfold daysInMonth
  split
  · split <;> omega
  split
  · omega
  split
  · omega
  · rename_i _ _ h₃
    simp only [List.mem_cons, List.not_mem_nil, or_false, not_or] at *
    omega

/-- The day after, unless the calendar ends. -/
def next? (d : Day) : Option Day :=
  if h : d.day < daysInMonth d.year d.month then
    some ⟨d.year, d.month, d.day + 1, d.valid.1, d.valid.2.1, by omega, by omega⟩
  else if h : d.month < 12 then
    some ⟨d.year, d.month + 1, 1, d.valid.1, ⟨by omega, by omega⟩,
      ⟨by omega, daysInMonth_pos ⟨by omega, by omega⟩⟩⟩
  else if h : d.year < 9999 then
    some (newYear (d.year + 1) ⟨by omega, by omega⟩)
  else
    none

/-- The day before, unless the calendar only starts. -/
def prev? (d : Day) : Option Day :=
  if h : 1 < d.day then
    some ⟨d.year, d.month, d.day - 1, d.valid.1, d.valid.2.1,
      ⟨by omega, by have := d.valid.2.2.2; omega⟩⟩
  else if h : 1 < d.month then
    let month := d.month - 1
    have hm : 1 ≤ month ∧ month ≤ 12 := ⟨by omega, by have := d.valid.2.1.2; omega⟩
    some ⟨d.year, month, daysInMonth d.year month, d.valid.1, hm,
      ⟨daysInMonth_pos hm, Nat.le_refl _⟩⟩
  else if h : 1 < d.year then
    some ⟨d.year - 1, 12, 31, ⟨by omega, by have := d.valid.1.2; omega⟩, by decide,
      by simp [daysInMonth]⟩
  else
    none

/-- How many days of a year lie before a month of it. -/
def daysBeforeMonth (year : Nat) : Nat → Nat
  | 0 => 0
  | month + 1 => daysBeforeMonth year month + daysInMonth year month

/-- How many days lie before a year, counted from the first day of year 1. -/
def daysBeforeYear (year : Nat) : Nat :=
  (year - 1) * 365 + (year - 1) / 4 - (year - 1) / 100 + (year - 1) / 400

/-- The days counted from the first of the calendar, which has number 1. -/
def number (d : Day) : Nat :=
  daysBeforeYear d.year + daysBeforeMonth d.year d.month + d.day

/-! ## Texts -/

/-- A number below one hundred in two digits. -/
def twoDigits (n : Nat) : String :=
  (if n < 10 then "0" else "") ++ toString n

/-- The text of a day as queries carry it: month and day have two digits, and the year has as many
as it needs. -/
def text (d : Day) : String :=
  toString d.year ++ "-" ++ twoDigits d.month ++ "-" ++ twoDigits d.day

/-- The ISO text of a day, in which the year has four digits. -/
def isoText (d : Day) : String :=
  "".pushn '0' (4 - (toString d.year).length) ++ d.text

end Day

end SiteStats
