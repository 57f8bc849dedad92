import SiteStats.Query.Basic

/-!
# Reading queries

A query is read from an object with a field for each option. The common options come first, then
those of the kind; that days and a custom period go together is checked when all fields are right.
-/

namespace SiteStats.Query

open SiteStats.Schema

/-- The common options among the fields of an object. -/
def checkOptions (fields : Fields) : Checked Options :=
  ((Checked.defaulted "period" none (Checked.nullable (member Period)) fields).both
    (Checked.defaulted "metrics" [] metrics fields)).combine
    (fun (period, metrics) (filters, date) => ⟨period, some metrics, filters, date⟩)
    ((Checked.defaulted "filters" none (Checked.nullable Filter.Group.check) fields).both
      (Checked.defaulted "date" none (Checked.nullable DateRange.check) fields))
where
  /-- A list of metrics. -/
  metrics (value : Value) : Checked (List Metric) :=
    match value.members? with
    | some items => Checked.each (member Metric) 0 items
    | none => Checked.flaw .notList

/-- A custom period needs days, and days need a custom period. -/
def obeyingPeriod {α : Type} (options : α → Options) (checked : Checked α) : Checked α :=
  (checked.obeying .customWithoutDates fun query =>
    !((options query).period = some .custom && (options query).date.isNone)).obeying
    .datesWithoutCustom fun query =>
      (options query).date.isNone || (options query).period = some .custom

/-- The fields of a query for totals. -/
def Aggregate.check (fields : Fields) : Checked Aggregate :=
  obeyingPeriod Aggregate.options <|
    (checkOptions fields).combine (fun options compare => ⟨options, .bool compare⟩)
      (Checked.defaulted "compare" false boolean fields)

/-- The fields of a query for a series. -/
def Timeseries.check (fields : Fields) : Checked Timeseries :=
  obeyingPeriod Timeseries.options <|
    (checkOptions fields).combine Timeseries.mk
      (Checked.defaulted "interval" none (Checked.nullable (member Interval)) fields)

/-- A count as a value again. -/
def countValue : Option Int → Value
  | none => .null
  | some n => .int n

/-- The fields of a query by a property. -/
def Breakdown.check (fields : Fields) : Checked Breakdown :=
  obeyingPeriod Breakdown.options <|
    ((checkOptions fields).both (Checked.required "property" (member Property) fields)).combine
      (fun (options, property) (limit, page) =>
        ⟨options, some property, countValue limit, countValue page⟩)
      ((Checked.defaulted "limit" none (Checked.nullable positiveInteger) fields).both
        (Checked.defaulted "page" none (Checked.nullable positiveInteger) fields))

/-- A query of the given kind. -/
def check (kind : Kind) : Value → Checked Query
  | .object fields =>
    match kind with
    | .aggregate => (Aggregate.check fields).map aggregate
    | .timeseries => (Timeseries.check fields).map timeseries
    | .breakdown => (Breakdown.check fields).map breakdown
  | _ => Checked.flaw (.notModel kind.title)

/-- Reads a query of the given kind. -/
def read (kind : Kind) (value : Value) : Except Failure Query :=
  (check kind value).titled kind.title

end SiteStats.Query
