import SiteStats.Failure

/-!
# Ranges of days

A range of days has a first and a last day, both of which belong to it. The first is never after the
last; this is checked when a range is read, where a moment counts as its day in UTC.
-/

namespace SiteStats

open SiteStats.Schema

/-- The days from a first to a last one. -/
structure DateRange where
  first : Day
  last : Day
deriving DecidableEq, Repr

namespace DateRange

/-- The last day does not lie before the first. -/
def Valid (range : DateRange) : Prop :=
  ¬range.last.Before range.first

instance (range : DateRange) : Decidable range.Valid :=
  inferInstanceAs (Decidable (¬_))

/-- What a range is called in messages. -/
def title : String := "DateRange"

/-- An object that holds the two days of a range in the right order. -/
def check : Value → Checked DateRange
  | .object fields =>
    ((Checked.required "from_date" day fields).combine DateRange.mk
      (Checked.required "to_date" day fields)).obeying .reversedDates fun range => range.Valid
  | _ => Checked.flaw (.notModel title)

/-- The text of a range: the texts of its days with a comma between them. -/
def text (range : DateRange) : String :=
  range.first.text ++ Wire.listSeparator ++ range.last.text

end DateRange

/-- The text of a value as a day, which only days and moments have. -/
def Value.dateText : Value → Except Failure String
  | .day d => .ok d.text
  | .moment m => .ok m.day.text
  | value => .error (.noAttribute value.kind "strftime")

/-- The two ends of a range after they have been given values of any kind, which nothing checks. -/
structure LooseRange where
  first : Value
  last : Value

namespace LooseRange

/-- A range whose ends have not been changed yet. -/
def ofRange (range : DateRange) : LooseRange :=
  ⟨.day range.first, .day range.last⟩

/-- Gives one end a value, if it is an end of a range that the name stands for. -/
def assign (range : LooseRange) (field : String) (value : Value) : Except Failure LooseRange :=
  if field = "from_date" then .ok { range with first := value }
  else if field = "to_date" then .ok { range with last := value }
  else
    match reservedFault? DateRange.title DateRange.title field value with
    | some fault => .error (.reserved fault)
    | none => if isHidden field then .ok range else .error (.noField DateRange.title field)

/-- The text of a range, if both ends have one. -/
def text (range : LooseRange) : Except Failure String := do
  let first ← range.first.dateText
  let last ← range.last.dateText
  return first ++ Wire.listSeparator ++ last

end LooseRange

end SiteStats
