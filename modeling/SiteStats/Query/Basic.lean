import SiteStats.DateRange

/-!
# Queries

There are three kinds of query: for totals over a period, for a series of totals over its buckets,
and for totals by the values of a property. They share four options and have some of their own. An
option that is not set is `none`, null or false; metrics that are not asked for are an empty list.

Options can also be set one by one after a query has been read, and then nothing looks at the query
as a whole: the types below hold whatever can result from that.
-/

namespace SiteStats.Query

/-- The options that all queries have. -/
structure Options where
  period : Option Period
  metrics : Option (List Metric)
  filters : Option Filter.Group
  date : Option DateRange
deriving Repr

/-- A query for totals over a period, perhaps with the change since the period before. -/
structure Aggregate where
  options : Options
  compare : Value

/-- A query for a series of totals. -/
structure Timeseries where
  options : Options
  interval : Option Interval

/-- A query for totals by the values of a property, in pages of limited length. -/
structure Breakdown where
  options : Options
  property : Option Property
  limit : Value
  page : Value

/-- The kinds of query. -/
inductive Kind where
  | aggregate | timeseries | breakdown
deriving DecidableEq, Repr

/-- What a query of that kind is called in messages. -/
def Kind.title : Kind → String
  | aggregate => "AggregateQuery"
  | timeseries => "TimeseriesQuery"
  | breakdown => "BreakdownQuery"

end SiteStats.Query

namespace SiteStats

/-- A query of any kind. -/
inductive Query where
  | aggregate (query : Query.Aggregate)
  | timeseries (query : Query.Timeseries)
  | breakdown (query : Query.Breakdown)

namespace Query

/-- The kind of a query. -/
def kind : Query → Kind
  | aggregate _ => .aggregate
  | timeseries _ => .timeseries
  | breakdown _ => .breakdown

/-- The options that the query has in common with all others. -/
def options : Query → Options
  | aggregate query => query.options
  | timeseries query => query.options
  | breakdown query => query.options

/-- The query with other common options. -/
def withOptions (options : Options) : Query → Query
  | aggregate query => aggregate { query with options }
  | timeseries query => timeseries { query with options }
  | breakdown query => breakdown { query with options }

/-- A whole number from one on, or null. -/
def IsCount : Value → Prop
  | .null => True
  | .int n => 1 ≤ n
  | _ => False

end Query

end SiteStats
