import SiteStats.Query.Schema

/-!
# Changing queries

An option of a query can be given a new value. The value is brought into the form of the option
first, where the option has one, and null unsets it; then it takes the place of the old value. That
the query as a whole makes sense is not checked again.
-/

namespace SiteStats.Query

open SiteStats.Schema

/-- A value for an option, in the form in which the option holds it. -/
inductive Setting where
  | period (value : Option Period)
  | metrics (value : Option (List Metric))
  | filters (value : Option Filter.Group)
  | date (value : Option DateRange)
  | interval (value : Option Interval)
  | property (value : Option Property)
  | compare (value : Value)
  | limit (value : Value)
  | page (value : Value)
  | other (name : String) (value : Value)

/-- Null stays, anything else is converted. -/
def orNull {α : Type} (convert : Value → Except Failure α) : Value → Except Failure (Option α)
  | .null => .ok none
  | value => (convert value).map some

/-- The metrics that a value holds one after the other. A part of a filter holds pairs, the first of
which says what it is. -/
def convertMetrics (value : Value) : Except Failure (List Metric) :=
  match value, value.elements? with
  | .part p, _ => .error (.notMember (Vocabulary.title Metric) s!"('kind', '{p.kind}')")
  | _, some elements => elements.mapM (Failure.readMember Metric)
  | value, none => .error (.notIterable value.kind)

/-- The setting that a field name and a value stand for. -/
def Setting.read (field : String) (value : Value) : Except Failure Setting :=
  match field with
  | "period" => (orNull (Failure.readMember Period) value).map period
  | "metrics" => (orNull convertMetrics value).map metrics
  | "filters" =>
    (orNull (fun v => (Filter.Group.check v).titled Filter.Group.title) value).map filters
  | "date" => (orNull (fun v => (DateRange.check v).titled DateRange.title) value).map date
  | "interval" => (orNull (Failure.readMember Interval) value).map interval
  | "property" => (orNull (Failure.readMember Property) value).map property
  | "compare" => .ok (compare value)
  | "limit" => .ok (limit value)
  | "page" => .ok (page value)
  | field => .ok (other field value)

/-- The field name of a setting. -/
def Setting.field : Setting → String
  | period _ => "period"
  | metrics _ => "metrics"
  | filters _ => "filters"
  | date _ => "date"
  | interval _ => "interval"
  | property _ => "property"
  | compare _ => "compare"
  | limit _ => "limit"
  | page _ => "page"
  | other name _ => name

/-- The title of what all queries are derived from. -/
def baseTitle : String := "StatsQuery"

/-- The query with a setting, if its kind has the option. A name that is hidden is no option of any
query, and setting it changes nothing unless it is one that all models share. -/
def apply (query : Query) (setting : Setting) : Except Failure Query :=
  match setting, query with
  | .period value, query => .ok (query.withOptions { query.options with period := value })
  | .metrics value, query => .ok (query.withOptions { query.options with metrics := value })
  | .filters value, query => .ok (query.withOptions { query.options with filters := value })
  | .date value, query => .ok (query.withOptions { query.options with date := value })
  | .compare value, aggregate query => .ok (aggregate { query with compare := value })
  | .interval value, timeseries query => .ok (timeseries { query with interval := value })
  | .property value, breakdown query => .ok (breakdown { query with property := value })
  | .limit value, breakdown query => .ok (breakdown { query with limit := value })
  | .page value, breakdown query => .ok (breakdown { query with page := value })
  | .other name value, query =>
    match reservedFault? query.kind.title baseTitle name value with
    | some fault => .error (.reserved fault)
    | none => if isHidden name then .ok query else .error (.noField query.kind.title name)
  | setting, query => .error (.noField query.kind.title setting.field)

/-- Gives a field of a query a new value. -/
def assign (query : Query) (field : String) (value : Value) : Except Failure Query :=
  (Setting.read field value).bind query.apply

end SiteStats.Query
