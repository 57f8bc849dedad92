import SiteStats.Calendar.Timestamp
import SiteStats.Number.Numeral

/-!
# Reading days

A day can be written in three ways: as `YYYY-MM-DD`; as a date with a time of day, which has to be
zero and whose offset from UTC, though read, does not move the date; or as a number, which is taken
as a timestamp and has to be the midnight that starts the day in UTC. A text is tried in this order,
and when none fits, what is reported is the first thing wrong with it as a date with a time of day.
-/

namespace SiteStats

/-- What is wrong with a text that should be a date with a time of day, or with a timestamp. -/
inductive DateFault where
  | tooShort
  | yearCharacter | monthCharacter | dayCharacter
  | dateSeparator
  | monthRange | dayRange
  | separator
  | hourCharacter | minuteCharacter | secondCharacter
  | timeSeparator
  | hourRange | minuteRange | secondRange
  | fractionMissing
  | offsetSign | offsetHour | offsetMinute
  | offsetMinuteRange | offsetRange
  | trailing
  | timestamp (fault : TimestampFault)
deriving DecidableEq, Repr

/-- The text of a date fault. -/
def DateFault.message : DateFault → String
  | tooShort => "input is too short"
  | yearCharacter => "invalid character in year"
  | monthCharacter => "invalid character in month"
  | dayCharacter => "invalid character in day"
  | dateSeparator => "invalid date separator, expected \x60-\x60"
  | monthRange => "month value is outside expected range of 1-12"
  | dayRange => "day value is outside expected range"
  | separator => "invalid datetime separator, expected \x60T\x60, \x60t\x60, \x60_\x60 or space"
  | hourCharacter => "invalid character in hour"
  | minuteCharacter => "invalid character in minute"
  | secondCharacter => "invalid character in second"
  | timeSeparator => "invalid time separator, expected \x60:\x60"
  | hourRange => "hour value is outside expected range of 0-23"
  | minuteRange => "minute value is outside expected range of 0-59"
  | secondRange => "second value is outside expected range of 0-59"
  | fractionMissing => "second fraction digits missing after \x60.\x60"
  | offsetSign => "invalid timezone sign"
  | offsetHour => "invalid timezone hour"
  | offsetMinute => "invalid timezone minute"
  | offsetMinuteRange => "timezone minute value is outside expected range of 0-59"
  | offsetRange => "timezone offset must be less than 24 hours"
  | trailing => "unexpected extra characters at the end of the input"
  | timestamp .tooEarly => "dates before 0000 are not supported as unix timestamps"
  | timestamp .tooLate => "dates after 9999 are not supported as unix timestamps"
  | timestamp .notANumber => "NaN values not permitted"

/-- A date as it is written, which may lie in year 0. -/
structure WrittenDate where
  year : Nat
  month : Nat
  day : Nat
deriving DecidableEq, Repr

/-- A time of day as it is written. The offset is read only to be sure that it is one. -/
structure WrittenTime where
  second : Nat
  microsecond : Nat
deriving DecidableEq, Repr

/-- What a reading step takes from the front of a text, and what it leaves. -/
abbrev DateReader (α : Type) := List Char → Except DateFault (α × List Char)

namespace DateReader

/-- The number of octets of a text. -/
def octets (s : List Char) : Nat :=
  s.foldl (fun n c => n + c.utf8Size) 0

/-- Two digits. -/
def twoDigits (fault : DateFault) : DateReader Nat
  | a :: b :: rest =>
    if Numeral.isDigit a && Numeral.isDigit b then
      .ok (10 * Numeral.digitValue a + Numeral.digitValue b, rest)
    else .error fault
  | _ => .error fault

/-- One of the given characters. -/
def mark (allowed : List Char) (fault : DateFault) : DateReader Unit
  | c :: rest => if c ∈ allowed then .ok ((), rest) else .error fault
  | [] => .error fault

/-- Four digits, two and two, with hyphens between them, that name a day. -/
def date : DateReader WrittenDate := fun s => do
  if octets s < 10 then throw .tooShort
  let (century, s) ← twoDigits .yearCharacter s
  let (year, s) ← twoDigits .yearCharacter s
  let ((), s) ← mark ['-'] .dateSeparator s
  let (month, s) ← twoDigits .monthCharacter s
  let ((), s) ← mark ['-'] .dateSeparator s
  let (day, s) ← twoDigits .dayCharacter s
  let date : WrittenDate := ⟨100 * century + year, month, day⟩
  if daysInMonth date.year date.month = 0 then throw .monthRange
  if day < 1 ∨ daysInMonth date.year date.month < day then throw .dayRange
  return (date, s)

/-- The digits after the point of the seconds, as microseconds; what is finer is cut off. -/
def fraction : DateReader Nat
  | c :: s =>
    if c = '.' ∨ c = ',' then
      let (digits, s) := Numeral.splitDigits s
      if digits.isEmpty then .error .fractionMissing
      else .ok (Numeral.ofDigits ((digits ++ List.replicate 6 '0').take 6), s)
    else .ok (0, c :: s)
  | [] => .ok (0, [])

/-- Hours and minutes, with seconds and a fraction of them if there is a second colon. -/
def clock : DateReader WrittenTime := fun s => do
  if octets s < 5 then throw .tooShort
  let (hour, s) ← twoDigits .hourCharacter s
  let ((), s) ← mark [':'] .timeSeparator s
  let (minute, s) ← twoDigits .minuteCharacter s
  if 23 < hour then throw .hourRange
  if 59 < minute then throw .minuteRange
  match s with
  | ':' :: s =>
    let (second, s) ← twoDigits .secondCharacter s
    if 59 < second then throw .secondRange
    let (microsecond, s) ← fraction s
    return (⟨(hour * 60 + minute) * 60 + second, microsecond⟩, s)
  | _ => return (⟨(hour * 60 + minute) * 60, 0⟩, s)

/-- The hours and minutes of an offset, with or without a colon, as minutes. -/
def offsetMinutes : DateReader Nat := fun s => do
  let (hour, s) ← twoDigits .offsetHour s
  let s :=
    match s with
    | ':' :: s => s
    | _ => s
  let (minute, s) ← twoDigits .offsetMinute s
  if 59 < minute then throw .offsetMinuteRange
  if 24 ≤ hour then throw .offsetRange
  return (hour * 60 + minute, s)

/-- The offset that may follow a time of day: nothing, `Z`, or a sign with hours and minutes. A
minus sign can also be the typographic one. -/
def offset : DateReader Unit
  | [] => .ok ((), [])
  | c :: s =>
    if c = 'Z' ∨ c = 'z' then .ok ((), s)
    else if c = '+' ∨ c = '-' ∨ c = '\u2212' then (offsetMinutes s).map fun r => ((), r.2)
    else .error .offsetSign

/-- A whole text that is a date with a time of day. -/
def dateTime (s : List Char) : Except DateFault (WrittenDate × WrittenTime) := do
  let (date, s) ← date s
  let ((), s) ← mark ['T', 't', ' ', '_'] .separator s
  let (time, s) ← clock s
  let ((), s) ← offset s
  if s ≠ [] then throw .trailing
  return (date, time)

end DateReader

/-- Why a value is not taken for a day. -/
inductive DayFault where
  | notDay
  | timeOfDay
  | yearZero
  | unread (fault : DateFault)
deriving DecidableEq, Repr

/-- A written date as a day of the calendar. -/
def WrittenDate.toDay (d : WrittenDate) : Except DayFault Day :=
  match Day.make d.year d.month d.day with
  | .ok day => .ok day
  | .error _ => .error .yearZero

/-- The day that starts at an instant. -/
def Instant.toDay (i : Instant) : Except DayFault Day :=
  if !i.isMidnight then .error .timeOfDay
  else
    match i.day? with
    | some day => .ok day
    | none => .error .yearZero

namespace Day

/-- The day that starts at the instant a timestamp stands for. -/
def ofInstant : Except TimestampFault Instant → Except DayFault Day
  | .ok instant => instant.toDay
  | .error fault => .error (.unread (.timestamp fault))

/-- A double as a timestamp. -/
def ofDouble (x : Float) : Except DayFault Day :=
  ofInstant (Instant.ofDouble x)

/-- A whole number as a timestamp. One that does not fit into 64 bits is taken as the double nearest
to it, and is no day at all if there is none. -/
def ofInt (n : Int) : Except DayFault Day :=
  if -Instant.wordLimit ≤ n ∧ n < Instant.wordLimit then ofInstant (Instant.ofTimestamp n)
  else
    match Binary64.ofInt? n with
    | some x => ofDouble x
    | none => .error .notDay

/-- The instant that a text stands for when it is a timestamp: a sign or none, then digits, or a
numeral that has a point. The digits before the point have to fit into 64 bits, and an exponent can
follow only after a point. -/
def timestamp? (s : List Char) : Option (Except TimestampFault Instant) :=
  let (negative, body) := Numeral.splitSign s
  let (digits, rest) := Numeral.splitDigits body
  let count := Numeral.ofDigits digits
  if Instant.wordLimit.toNat ≤ count then none
  else
    match rest with
    | [] =>
      if digits.isEmpty then none
      else some (Instant.ofTimestamp (if negative then -(count : Int) else count))
    | '.' :: _ =>
      (Numeral.unsigned? body).map fun (digits, power) =>
        Instant.ofDouble (Binary64.ofDecimal negative digits power)
    | _ => none

/-- Whether the text is a whole number that stands for the start of a day when all that is finer
than a second is left out. -/
def wholeDay? (s : List Char) : Option Instant :=
  if (Numeral.splitSign s).2.all Numeral.isDigit then
    match timestamp? s with
    | some (.ok instant) => if instant.second % 86400 = 0 then some ⟨instant.second, 0⟩ else none
    | _ => none
  else none

/-- The day that a text stands for. -/
def ofText (text : String) : Except DayFault Day :=
  let s := text.toList
  match DateReader.date s with
  | .ok (date, []) => date.toDay
  | _ =>
    match wholeDay? s with
    | some instant => instant.toDay
    | none =>
      match DateReader.dateTime s with
      | .ok (date, time) => if time = ⟨0, 0⟩ then date.toDay else .error .timeOfDay
      | .error fault =>
        match timestamp? s with
        | some instant => ofInstant instant
        | none => .error (.unread fault)

end Day

end SiteStats
