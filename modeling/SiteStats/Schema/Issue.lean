import SiteStats.Calendar.Reading

/-!
# Issues

What can be wrong with a value that should have a certain form. An issue is a flaw and the place of
it: the field names and list indexes on the way from the whole value to the part with the flaw.
-/

namespace SiteStats.Schema

/-- The rules that go beyond the form of single fields. -/
inductive Rule where
  | emptyGroup
  | emptyAlternatives
  | alternativesDiffer
  | customWithoutDates
  | datesWithoutCustom
  | reversedDates
deriving DecidableEq, Repr

/-- What a broken rule says. -/
def Rule.message : Rule → String
  | emptyGroup => "filter group must contain at least one child"
  | emptyAlternatives => "any-of value must contain at least one entry"
  | alternativesDiffer => "any-of values are only allowed with the '==' operator"
  | customWithoutDates => "period 'custom' requires a date range"
  | datesWithoutCustom => "a date range is only allowed with period 'custom'"
  | reversedDates => "date range start must not be after its end"

/-- What is wrong with a value or a part of it. -/
inductive Flaw where
  | missing
  | notModel (title : String)
  | broken (rule : Rule)
  | notText
  | notUnicode
  | emptyText
  | notMember (words : List String)
  | notTag (word : String)
  | notTuple
  | notList
  | unreadBoolean
  | notBoolean
  | fractional
  | oversized
  | unreadInteger
  | notInteger
  | belowOne
  | notFinite
  | unreadNumber
  | notNumber
  | notPositive
  | untagged
  | unknownTag (shown : String)
  | notRecord
  | notDay (fault : DayFault)
  | tooDeep
  | frozen
deriving DecidableEq, Repr

/-- The short name of a flaw. -/
def Flaw.kind : Flaw → String
  | missing => "missing"
  | notModel _ => "model_type"
  | broken _ => "value_error"
  | notText => "string_type"
  | notUnicode => "string_unicode"
  | emptyText => "string_too_short"
  | notMember _ => "enum"
  | notTag _ => "literal_error"
  | notTuple => "tuple_type"
  | notList => "list_type"
  | unreadBoolean => "bool_parsing"
  | notBoolean => "bool_type"
  | fractional => "int_from_float"
  | oversized => "int_parsing_size"
  | unreadInteger => "int_parsing"
  | notInteger => "int_type"
  | belowOne => "greater_than_equal"
  | notFinite => "finite_number"
  | unreadNumber => "float_parsing"
  | notNumber => "float_type"
  | notPositive => "greater_than"
  | untagged => "union_tag_not_found"
  | unknownTag _ => "union_tag_invalid"
  | notRecord => "model_attributes_type"
  | notDay .notDay => "date_type"
  | notDay .timeOfDay => "date_from_datetime_inexact"
  | notDay .yearZero => "date_parsing"
  | notDay (.unread _) => "date_from_datetime_parsing"
  | tooDeep => "recursion_loop"
  | frozen => "frozen_instance"

/-- Words in single quotes, the last two joined by *or* and the others by commas. -/
def choiceText (words : List String) : String :=
  let quoted := words.map fun word => "'" ++ word ++ "'"
  match quoted.getLast? with
  | none => ""
  | some last =>
    if quoted.length = 1 then last else ", ".intercalate quoted.dropLast ++ " or " ++ last

/-- The text of a flaw. -/
def Flaw.message : Flaw → String
  | missing => "Field required"
  | notModel title => s!"Input should be a valid dictionary or instance of {title}"
  | broken rule => s!"Value error, {rule.message}"
  | notText => "Input should be a valid string"
  | notUnicode => "Input should be a valid string, unable to parse raw data as a unicode string"
  | emptyText => "String should have at least 1 character"
  | notMember words => s!"Input should be {choiceText words}"
  | notTag word => s!"Input should be '{word}'"
  | notTuple => "Input should be a valid tuple"
  | notList => "Input should be a valid list"
  | unreadBoolean => "Input should be a valid boolean, unable to interpret input"
  | notBoolean => "Input should be a valid boolean"
  | fractional => "Input should be a valid integer, got a number with a fractional part"
  | oversized => "Unable to parse input string as an integer, exceeded maximum size"
  | unreadInteger => "Input should be a valid integer, unable to parse string as an integer"
  | notInteger => "Input should be a valid integer"
  | belowOne => "Input should be greater than or equal to 1"
  | notFinite => "Input should be a finite number"
  | unreadNumber => "Input should be a valid number, unable to parse string as a number"
  | notNumber => "Input should be a valid number"
  | notPositive => "Input should be greater than 0"
  | untagged => "Unable to extract tag using discriminator 'kind'"
  | unknownTag shown =>
    s!"Input tag '{shown}' found using 'kind' does not match any of the expected tags: " ++
      "'group', 'condition'"
  | notRecord => "Input should be a valid dictionary or object to extract fields from"
  | notDay .notDay => "Input should be a valid date"
  | notDay .timeOfDay =>
    "Datetimes provided to dates should have zero time - e.g. be exact dates"
  | notDay .yearZero =>
    "Input should be a valid date in the format YYYY-MM-DD, year 0 is out of range"
  | notDay (.unread fault) => s!"Input should be a valid date or datetime, {fault.message}"
  | tooDeep => "Recursion error - cyclic reference detected"
  | frozen => "Instance is frozen"

/-- One step of the way to a part of a value. -/
inductive Step where
  | field (name : String)
  | index (position : Nat)
deriving DecidableEq, Repr

/-- A flaw and its place. -/
structure Issue where
  place : List Step
  flaw : Flaw
deriving DecidableEq, Repr

/-- The same issue seen from one step further out. -/
def Issue.under (step : Step) (issue : Issue) : Issue :=
  { issue with place := step :: issue.place }

end SiteStats.Schema
