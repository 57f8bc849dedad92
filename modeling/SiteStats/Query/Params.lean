import SiteStats.Filter.Text
import SiteStats.Query.Basic

/-!
# Query parameters

A query is sent as a list of named texts. Options that are not set are left out, and each kind of
query has its own order. The list is complete but for the site, which is added when the request is
made.
-/

namespace SiteStats.Query

/-- Named texts, in the order in which they are sent. -/
abbrev Params := List (String × Text)

/-- The parameter of a given name for an option that is set. -/
def param {α : Type} (name : String) (text : α → Text) : Option α → Params
  | none => []
  | some value => [(name, text value)]

/-- The period, if one is set. -/
def Options.periodParam (options : Options) : Params :=
  param Wire.period (fun period => period.text) options.period

/-- The metrics, if any are asked for. -/
def Options.metricsParam (options : Options) : Params :=
  match options.metrics with
  | none | some [] => []
  | some metrics => [(Wire.metrics, Wire.listSeparator.intercalate (metrics.map Metric.text))]

/-- The filters, if there are any. -/
def Options.filtersParam (options : Options) : Params :=
  param Wire.filters Filter.Group.text options.filters

/-- The days, if they are given. -/
def Options.dateParam (options : Options) : Params :=
  param Wire.date (fun range => range.text) options.date

/-- The comparison, if it counts as true. -/
def Aggregate.compareParam (query : Aggregate) : Params :=
  if query.compare.truthy then [(Wire.compare, Wire.previousPeriod)] else []

/-- The parameters of a query for totals. -/
def Aggregate.params (query : Aggregate) : Params :=
  query.options.periodParam ++ query.options.metricsParam ++ query.compareParam ++
    query.options.filtersParam ++ query.options.dateParam

/-- The parameters of a query for a series. -/
def Timeseries.params (query : Timeseries) : Params :=
  query.options.periodParam ++ query.options.filtersParam ++ query.options.metricsParam ++
    param Wire.interval (fun interval => interval.text) query.interval ++ query.options.dateParam

/-- The parameter for a value that counts as true, if it can be written out. -/
def writtenParam (name : String) (value : Value) : Except Failure Params :=
  if value.truthy then (Failure.written value Value.display).map fun text => [(name, text)]
  else .ok []

/-- The parameters of a query by a property, without which there are none. -/
def Breakdown.params (query : Breakdown) : Except Failure Params :=
  match query.property with
  | none => .error (.noAttribute Value.null.kind "value")
  | some property => do
    let limit ← writtenParam Wire.limit query.limit
    let page ← writtenParam Wire.page query.page
    return (Wire.property, (property.text : Text)) :: (query.options.periodParam ++
      query.options.metricsParam ++ limit ++ page ++ query.options.filtersParam ++
      query.options.dateParam)

/-- The parameters of a query. -/
def params : Query → Except Failure Params
  | aggregate query => .ok query.params
  | timeseries query => .ok query.params
  | breakdown query => query.params

end SiteStats.Query
