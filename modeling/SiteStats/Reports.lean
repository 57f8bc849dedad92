import SiteStats.Gateway
import SiteStats.Result

/-!
# Reports

The four questions that can be asked about a site: how many visitors there are now, the totals over
a period, their series, and their breakdown by a property. Each sends one request through the
gateway and reads the results out of what comes back; a failure is noted down and passed on as it
is.
-/

namespace SiteStats.Reports

open Http

/-- The record of reports that were set up. -/
def opened : Log.Record :=
  ⟨.info, .reports, "Initialized StatsService"⟩

/-- The record of a failure. -/
def failed (what : String) (failure : Failure) : Log.Record :=
  ⟨.error, .reports, s!"Error fetching {what}: " ++ failure.message⟩

/-- The results that a payload holds. -/
def resultsOf (payload : Value) : Except Failure Value :=
  match payload.field? Wire.results with
  | some results => .ok results
  | none => .error .missingResults

/-- What a value holds one after the other. -/
def itemsOf (value : Value) : Except Failure (List Value) :=
  match value.elements? with
  | some items => .ok items
  | none => .error (.notIterable value.kind)

/-- The number of visitors that a payload is, which was read from a body. A fraction is cut off. -/
def visitorsOf : Value → Except Failure Int
  | .int n => .ok n
  | .float x =>
    match Binary64.view x, Binary64.truncate? x with
    | .infinite _, _ => .error (.notInteger true)
    | _, some n => .ok n
    | _, none => .error (.notInteger false)
  | payload => .error (.unexpectedPayload payload)

/-- The totals that a payload holds, by metric. -/
def totalsOf (payload : Value) : Except Failure (List (Text × Total)) := do
  let results ← resultsOf payload
  let fields ← results.fieldsVia "items"
  fields.mapM fun (metric, item) => do return (metric, ← Total.ofItem item)

/-- The series that a payload holds. -/
def seriesOf (payload : Value) : Except Failure (List Datapoint) := do
  let results ← resultsOf payload
  (← itemsOf results).mapM Datapoint.ofItem

/-- The rows that a payload holds. -/
def rowsOf (property : Property) (payload : Value) : Except Failure (List BreakdownRow) := do
  let results ← resultsOf payload
  (← itemsOf results).mapM (BreakdownRow.ofItem property)

variable [Json.Room]

/-- Asks the gateway with parameters that may have failed to be built, and reads the answer. -/
def ask {α : Type} (config : Config) (transport : Transport) (path : String)
    (params : Except Failure Query.Params) (read : Value → Except Failure α) : Exchange α :=
  match params with
  | .error failure => .unsent failure
  | .ok params => (Gateway.get config transport path (Gateway.rawParams params)).andThen read

/-- The number of current visitors. -/
def realtime (config : Config) (transport : Transport) : Exchange Int :=
  (ask config transport Wire.realtimePath (.ok []) visitorsOf).noting
    (failed "realtime visitors")

/-- The totals over a period. -/
def aggregate (config : Config) (transport : Transport) (query : Query.Aggregate) :
    Exchange (List (Text × Total)) :=
  (ask config transport Wire.aggregatePath (.ok query.params) totalsOf).noting
    (failed "aggregate stats")

/-- The series of totals over a period. -/
def timeseries (config : Config) (transport : Transport) (query : Query.Timeseries) :
    Exchange (List Datapoint) :=
  (ask config transport Wire.timeseriesPath (.ok query.params) seriesOf).noting
    (failed "timeseries")

/-- The totals by a property. Without one there is nothing to ask for, and no name to note the
failure down under. -/
def breakdown (config : Config) (transport : Transport) (query : Query.Breakdown) :
    Exchange (List BreakdownRow) :=
  match query.property with
  | none => ask config transport Wire.breakdownPath query.params fun _ => .ok []
  | some property =>
    (ask config transport Wire.breakdownPath query.params (rowsOf property)).noting
      (failed s!"breakdown by {property.text}")

end SiteStats.Reports
