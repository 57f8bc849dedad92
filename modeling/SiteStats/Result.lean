import SiteStats.Failure

/-!
# Results

What a response holds for each kind of query: totals by metric, the points of a series, and the rows
of a breakdown. The numbers come as they are or as texts, and a missing number is null; all other
fields of a point or a row besides its date or its property are metrics, which keep their order.
-/

namespace SiteStats

open SiteStats.Schema

/-- The total of a metric over the period, and its change in percent since the period before. -/
structure Total where
  value : Option Float
  change : Option Float

/-- Named numbers, in order. -/
abbrev Measures := List (Text × Option Float)

/-- A point of a series: the date on which its bucket starts, and the totals of the bucket. -/
structure Datapoint where
  date : Text
  metrics : Measures

/-- A row of a breakdown: the column of the property and what stands in it, and the totals for that.
-/
structure BreakdownRow where
  dimension : String
  value : Option Text
  metrics : Measures

/-- A number or null. -/
def Measures.check (value : Value) : Checked (Option Float) :=
  Checked.nullable double value

/-- Each field as a number or null. -/
def Measures.ofFields : Fields → Checked Measures
  | [] => .ok []
  | (name, value) :: rest =>
    ((Measures.check value).under (.field name.lossy)).combine
      (fun number others => (name, number) :: others)
      (Measures.ofFields rest)

/-- The fields but those of one name. -/
def Fields.without (name : Text) (fields : Fields) : Fields :=
  fields.filter fun field => field.1 != name

/-- The fields of an object; any other value lacks the named way to get at them. -/
def Value.fieldsVia (access : String) : Value → Except Failure Fields
  | .object fields => .ok fields
  | value => .error (.noAttribute value.kind access)

namespace Total

/-- What a total is called in messages. -/
def title : String := "AggregateResult"

/-- The total that an item of a response holds. A field that is missing counts as null. -/
def ofItem (item : Value) : Except Failure Total := do
  let fields ← item.fieldsVia "get"
  let part (name : String) := Checked.defaulted name none Measures.check fields
  ((part Wire.value).combine Total.mk (part Wire.change)).titled title

end Total

namespace Datapoint

/-- What a point is called in messages. -/
def title : String := "Datapoint"

/-- The point that an item of a response holds. -/
def ofItem (item : Value) : Except Failure Datapoint := do
  let fields ← item.fieldsVia "items"
  match fields.lookup Wire.date with
  | none => .error (.missingKey Wire.date)
  | some date =>
    let metrics := Measures.ofFields (Fields.without Wire.date fields)
    ((Checked.under (.field Wire.date) (text date)).combine Datapoint.mk
      (metrics.under (.field "metrics"))).titled title

end Datapoint

namespace BreakdownRow

/-- What a row is called in messages. -/
def title : String := "BreakdownRow"

/-- What stands in the column of the property: nothing if it is missing or null, otherwise the value
as running text. -/
def valueOf : Option Value → Except Failure (Option Text)
  | none | some .null => .ok none
  | some value => (Failure.written value Value.display).map some

/-- The row that an item of a response holds. -/
def ofItem (property : Property) (item : Value) : Except Failure BreakdownRow := do
  let fields ← item.fieldsVia "get"
  let dimension := property.key
  let metrics := Measures.ofFields (Fields.without dimension fields)
  let value ← valueOf (fields.lookup dimension)
  ((metrics.under (.field "metrics")).map (BreakdownRow.mk dimension value)).titled title

end BreakdownRow

end SiteStats
