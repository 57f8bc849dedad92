import SiteStats.Program
import SiteStats.Query.Loose
import SiteStats.Reports

/-!
# Questions about loose queries

The four questions that can be asked about a site, as programs, and for queries whose options may
hold anything. They do step by step what reports do for the others: the parameters are built, the
request is built and sent, what comes back is sorted out, and the answer is read from it. Whatever
puts an end to them is noted down.
-/

namespace SiteStats

open Http Query

/-- A question about a site. -/
inductive Question where
  | realtime
  | aggregate (query : Loose.Aggregate)
  | timeseries (query : Loose.Timeseries)
  | breakdown (query : Loose.Breakdown)

namespace Question

/-- What an answer to a question is. -/
def Answer : Question → Type
  | realtime => Int
  | aggregate _ => List (Text × Total)
  | timeseries _ => List Datapoint
  | breakdown _ => List BreakdownRow

/-- The path that is asked for. -/
def path : Question → String
  | realtime => Wire.realtimePath
  | aggregate _ => Wire.aggregatePath
  | timeseries _ => Wire.timeseriesPath
  | breakdown _ => Wire.breakdownPath

/-- The parameters of a question but for the site. -/
def params : Question → Except Raised Loose.Params
  | realtime => .ok []
  | aggregate query => query.params
  | timeseries query => query.params
  | breakdown query => query.params

/-- What a question is noted down under: a breakdown under the word of its property, which is asked
for once more. -/
def label : Question → Except Raised Text
  | realtime => .ok "realtime visitors"
  | aggregate _ => .ok "aggregate stats"
  | timeseries _ => .ok "timeseries"
  | breakdown query => do
    let word ← query.property.word
    return "breakdown by " ++ (← word.display)

/-- The rows that a payload holds, if the property of the query is what it holds. -/
def rowsOf (property : Held) (payload : Value) : Except Raised (List BreakdownRow) := do
  let items ← ((Reports.resultsOf payload).bind Reports.itemsOf).mapError .known
  items.mapM property.row

/-- The answer that a payload holds. -/
def read : (question : Question) → Value → Except Raised question.Answer
  | realtime, payload => (Reports.visitorsOf payload).mapError .known
  | aggregate _, payload => (Reports.totalsOf payload).mapError .known
  | timeseries _, payload => (Reports.seriesOf payload).mapError .known
  | breakdown query, payload => rowsOf query.property payload

/-- The parameters of a request: those given, and the site. -/
def withSite (config : Config) (params : Loose.Params) : Loose.Params :=
  params ++ [(Wire.siteId, .text config.siteId)]

/-- The request for a path with parameters, each of which is written as a text. -/
def request (config : Config) (path : String) (params : Loose.Params) : Except Raised Request := do
  let url ← (Gateway.address config path).mapError .known
  let texts ← Loose.Params.mapM (Gateway.grouped params) Content.sent
  (Gateway.requestAt config url texts).mapError .known

section

variable [Json.Room]

/-- Asks for a path with parameters, which are noted down first. -/
def fetch (config : Config) (link : Link) (path : String) (params : Loose.Params) :
    Program Value := do
  let params := withSite config params
  Program.note [Gateway.pathRecord config path]
  let shown ← Program.ofResult (params.mapM Content.shown)
  Program.note [Gateway.paramsRecord shown]
  let request ← Program.ofResult (request config path params)
  let reply ← Program.send link request
  let result := Gateway.resultOf request reply
  Program.note (Gateway.responseLog path result)
  Program.ofKnown result

/-- What an answer is worked out from, step by step. -/
def steps (config : Config) (link : Link) (question : Question) : Program question.Answer := do
  let params ← Program.ofResult question.params
  let payload ← fetch config link question.path params
  Program.ofResult (question.read payload)

/-- The answer to a question. -/
def answer (config : Config) (link : Link) (question : Question) : Program question.Answer :=
  Program.reporting question.label (question.steps config link)

/-- The course of things after questions have been asked one after the other, whatever has come of
them. -/
def asked (config : Config) (link : Link) (questions : List Question) (before : Course) : Course :=
  questions.foldl (fun course question => ((question.answer config link).exec course).2) before

end

/-- The question for a query of known form. -/
def of : Query → Question
  | .aggregate query => aggregate (.of query)
  | .timeseries query => timeseries (.of query)
  | .breakdown query => breakdown (.of query)

end Question

end SiteStats
