import SiteStats.Query.Basic
import SiteStats.Query.Held

/-!
# Loose queries

A loose query is one whose options may hold anything. Its parameters are built as those of any other
query, one option after the other, and the first of them that does not hold what it should puts an
end to it.
-/

namespace SiteStats.Query.Loose

/-- The options that all loose queries have. -/
structure Options where
  period : Held
  metrics : Held
  filters : Held
  date : Held

/-- A loose query for totals over a period. -/
structure Aggregate where
  options : Options
  compare : Held

/-- A loose query for a series of totals. -/
structure Timeseries where
  options : Options
  interval : Held

/-- A loose query for totals by the values of a property. -/
structure Breakdown where
  options : Options
  property : Held
  limit : Held
  page : Held

/-! ## Parameters -/

/-- Named contents, in the order in which they are sent. -/
abbrev Params := List (String × Content)

/-- The parameter for an option that is looked at for its content only if it counts as true. -/
def truthyParam (name : String) (content : Held → Except Raised Content) (held : Held) :
    Except Raised Params := do
  if ← held.truth then return [(name, ← content held)] else return []

/-- The parameter for an option that is written out unless it is null. -/
def setParam (name : String) (content : Held → Except Raised Content) (held : Held) :
    Except Raised Params := do
  if held.isNull then return [] else return [(name, ← content held)]

/-- The texts that words are, the first of which stands at the given position. -/
def textsOf (position : Nat) : List Content → Except Raised (List Text)
  | [] => .ok []
  | word :: words =>
    match word.text? with
    | some text => (textsOf (position + 1) words).map (text :: ·)
    | none => .error (.notText position word.kind)

/-- The parameter for the metrics, if any are asked for. Nothing is sent for a text that comes out
empty. -/
def metricsParam (held : Held) : Except Raised Params := do
  if ← held.truth then
    let texts ← textsOf 0 (← held.words)
    let joined := Text.intercalate Wire.listSeparator texts
    if joined = "" then return [] else return [(Wire.metrics, .text joined)]
  else return []

/-- The parameters of a loose query for totals. -/
def Aggregate.params (query : Aggregate) : Except Raised Params := do
  let period ← truthyParam Wire.period Held.word query.options.period
  let metrics ← metricsParam query.options.metrics
  let compare ← truthyParam Wire.compare (fun _ => .ok (.text Wire.previousPeriod)) query.compare
  let filters ← setParam Wire.filters Held.filter query.options.filters
  let date ← setParam Wire.date Held.dates query.options.date
  return period ++ metrics ++ compare ++ filters ++ date

/-- The parameters of a loose query for a series. -/
def Timeseries.params (query : Timeseries) : Except Raised Params := do
  let period ← truthyParam Wire.period Held.word query.options.period
  let filters ← setParam Wire.filters Held.filter query.options.filters
  let metrics ← metricsParam query.options.metrics
  let interval ← truthyParam Wire.interval Held.word query.interval
  let date ← setParam Wire.date Held.dates query.options.date
  return period ++ filters ++ metrics ++ interval ++ date

/-- The parameters of a loose query by a property, the word of which comes first. -/
def Breakdown.params (query : Breakdown) : Except Raised Params := do
  let property ← query.property.word
  let period ← truthyParam Wire.period Held.word query.options.period
  let metrics ← metricsParam query.options.metrics
  let limit ← truthyParam Wire.limit Held.text query.limit
  let page ← truthyParam Wire.page Held.text query.page
  let filters ← setParam Wire.filters Held.filter query.options.filters
  let date ← setParam Wire.date Held.dates query.options.date
  return (Wire.property, property) :: (period ++ metrics ++ limit ++ page ++ filters ++ date)

/-- One form of each content. -/
def Params.mapM {α : Type} (params : Params) (form : Content → Except Raised α) :
    Except Raised (List (String × α)) :=
  List.mapM (fun param => (form param.2).map (param.1, ·)) params

/-! ## Queries of known form -/

/-- The options of a query as loose ones. -/
def Options.of (options : Query.Options) : Options where
  period := Held.orNull Held.member options.period
  metrics := Held.orNull Held.metrics options.metrics
  filters := Held.orNull (fun group => Held.part (.node group.node)) options.filters
  date := Held.orNull (fun range => Held.range (.ofRange range)) options.date

/-- A query for totals as a loose one. -/
def Aggregate.of (query : Query.Aggregate) : Aggregate :=
  ⟨.of query.options, .ofValue query.compare⟩

/-- A query for a series as a loose one. -/
def Timeseries.of (query : Query.Timeseries) : Timeseries :=
  ⟨.of query.options, Held.orNull Held.member query.interval⟩

/-- A query by a property as a loose one. -/
def Breakdown.of (query : Query.Breakdown) : Breakdown :=
  ⟨.of query.options, Held.orNull Held.property query.property, .ofValue query.limit,
    .ofValue query.page⟩

end SiteStats.Query.Loose
