import SiteStats.Filter.Display
import SiteStats.Value.Basic

/-!
# Values in messages and parameters

`Value.shown` is the form of a value in which its kind can be seen: texts stand in quotes, a double
has a point or an exponent. `Value.display` is the form in which a value is put into running text:
there a text stands for itself and a day is its ISO text. Both are meant for values that can be
written out.
-/

namespace SiteStats

/-- A day by its numbers. -/
def Day.shown (d : Day) : String :=
  s!"datetime.date({d.year}, {d.month}, {d.day})"

/-- An offset by its days, of which there are none or one less than none, and by the seconds and
microseconds that are then left. What is zero is left out. -/
private def shownOffset (offset : Int) : String :=
  if offset = 0 then "datetime.timezone.utc"
  else
    let days := offset.fdiv dayLength
    let rest := offset.fmod dayLength
    let parts := [("days", days), ("seconds", rest / 1000000), ("microseconds", rest % 1000000)]
    let shown := (parts.filter fun part => part.2 != 0).map fun part => s!"{part.1}={part.2}"
    "datetime.timezone(datetime.timedelta(" ++ ", ".intercalate shown ++ "))"

/-- A moment by its numbers; seconds and microseconds are left out where only zeros follow. -/
def Moment.shown (m : Moment) : String :=
  let clock :=
    if m.microsecond ≠ 0 then [m.hour, m.minute, m.second, m.microsecond]
    else if m.second ≠ 0 then [m.hour, m.minute, m.second]
    else [m.hour, m.minute]
  let numbers := [m.day.year, m.day.month, m.day.day] ++ clock
  "datetime.datetime(" ++ ", ".intercalate (numbers.map toString) ++
    (match m.offset with
      | none => ""
      | some offset => ", tzinfo=" ++ shownOffset offset) ++ ")"

namespace Value

/-- The name of the kind of a value. -/
def kind : Value → String
  | null => "NoneType"
  | bool _ => "bool"
  | int _ => "int"
  | float _ => "float"
  | text _ => "str"
  | list _ => "list"
  | object _ => "dict"
  | day _ => "datetime.date"
  | moment _ => "datetime.datetime"
  | part value => value.title

mutual

/-- The form of a value in which its kind can be seen. -/
def shown : Value → String
  | null => "None"
  | bool value => if value then "True" else "False"
  | int value => toString value
  | float value => Binary64.text value
  | text value => Text.quoted value
  | list items => "[" ++ ", ".intercalate (shownItems items) ++ "]"
  | object fields => "\x7b" ++ ", ".intercalate (shownFields fields) ++ "\x7d"
  | day value => value.shown
  | moment value => value.shown
  | part value => value.shown

/-- The items of a list, each in the form of `shown`. -/
def shownItems : List Value → List String
  | [] => []
  | item :: rest => item.shown :: shownItems rest

/-- The fields of an object: the name in quotes, a colon, and the value in the form of `shown`. -/
def shownFields : List (Text × Value) → List String
  | [] => []
  | (name, value) :: rest => (Text.quoted name ++ ": " ++ value.shown) :: shownFields rest

end

/-- The form in which a value is put into running text. -/
def display : Value → Text
  | text value => value
  | day value => value.isoText
  | moment value => value.isoText " "
  | part value => value.display
  | value => value.shown

/-- The form in which a value is sent as a parameter: nothing for null, truth values in lower case.
-/
def sent : Value → Text
  | null => ""
  | bool value => if value then "true" else "false"
  | value => value.display

end Value

end SiteStats
