import SiteStats.Proofs.Question.Discipline
import SiteStats.Proofs.Question.Secrecy

/-!
# Questions and reports

A report is what a question is for a query of known form (`IsReport`).  The two come to the same,
send the same request if any, and note down the same: `Program.Follows` says this of any program and
any exchange, and the lemmas on it say that each way to go on with the one is a way to go on with
the other.

So what is known of questions is known of reports (`IsReport.follows`).  A report sends its request,
and fails, only as a question does (`IsReport.ends`), and it does not show the key
(`IsReport.hides_key`).
-/

namespace SiteStats

open Http

/-! ## Programs and exchanges -/

/-- A program comes to what the exchange comes to, and does what was done in it. -/
def Program.Follows {α : Type} (program : Program α) (exchange : Exchange α) : Prop :=
  ∀ course, program.exec course = (exchange.result.mapError .known,
    ⟨course.sent ++ exchange.request.toList, course.log ++ exchange.log⟩)

namespace Program.Follows

variable {α β : Type} {program : Program α} {exchange : Exchange α}

lemma andThen (h : program.Follows exchange) {read : α → Except Raised β}
    {f : α → Except Failure β} (hread : ∀ value, read value = (f value).mapError .known) :
    Program.Follows (do let value ← program; ofResult (read value)) (exchange.andThen f) := by
  intro course
  rw [exec_bind, h course, Exchange.andThen]
  cases exchange.result with
  | error failure => rfl
  | ok value => simp only [Except.mapError, exec_ofResult, hread, Except.bind]

lemma noting (h : program.Follows exchange) (what : String) :
    Program.Follows (reporting (.ok what) program) (exchange.noting (Reports.failed what)) := by
  have hrecord : ∀ failure : Failure,
      (⟨.error, .reports, "Error fetching " ++ what ++ ": " ++ (Raised.known failure).message⟩ :
        Log.Record) = Reports.failed what failure := by
    intro failure
    have hwhat : (s!"Error fetching {what}: " : Text) = "Error fetching " ++ what ++ ": " := by
      rw [← Text.ofString_append, ← Text.ofString_append]
      rfl
    rw [Reports.failed, hwhat]
    rfl
  intro course
  rw [exec_reporting, h course, Exchange.noting]
  cases hresult : exchange.result with
  | ok value => simp only [Except.mapError, hresult]
  | error failure => simp only [Except.mapError, List.append_assoc, hrecord]

lemma unsent {failure : Failure}
    (h : ∀ course, program.exec course = (.error (.known failure), course)) :
    program.Follows (.unsent failure) := by
  intro course
  rw [h]
  simp only [Exchange.unsent, Except.mapError, Option.toList_none, List.append_nil]

end Program.Follows

namespace Question

lemma rowsOf_property (property : Property) (payload : Value) :
    rowsOf (Query.Held.property property) payload =
      (Reports.rowsOf property payload).mapError .known := by
  have hrows : ∀ items : List Value, items.mapM (Query.Held.property property).row =
      (items.mapM (BreakdownRow.ofItem property)).mapError .known := by
    intro items
    induction items with
    | nil => rfl
    | cons item items ih =>
      have hrow : (Query.Held.property property).row item =
          (BreakdownRow.ofItem property item).mapError .known := rfl
      rw [List.mapM_cons, List.mapM_cons, ih, hrow]
      cases BreakdownRow.ofItem property item with
      | error failure => rfl
      | ok row => cases items.mapM (BreakdownRow.ofItem property) <;> rfl
  rw [rowsOf, Reports.rowsOf]
  cases Reports.resultsOf payload with
  | error failure => rfl
  | ok results =>
    simp only [Except.bind, Except.ok_bind]
    cases Reports.itemsOf results with
    | error failure => rfl
    | ok items => exact hrows items

variable [Json.Room] {config : Config} {transport : Transport}

/-! ## Steps -/

/-- A path is asked for with texts as the gateway does it. -/
lemma fetch_follows (path : String) (params : Query.Params) :
    (fetch config (fun _ => transport) path (.ofTexts params)).Follows
      (Gateway.get config transport path (Gateway.rawParams params)) := by
  intro course
  rw [exec_fetch, withSite_ofTexts, prepared_ofTexts, request_ofTexts, requestLog, shown_ofTexts]
  simp only [Gateway.get, Gateway.allParams_rawParams, Gateway.mapM_shown_rawParams]
  cases Gateway.request config path
      (Gateway.rawParams (params ++ [(Wire.siteId, (config.siteId : Text))])) with
  | error failure => simp only [Except.mapError, Option.toList_none, List.append_nil]
  | ok request => simp only [Except.mapError, Option.toList_some, List.append_assoc]

lemma steps_follows {question : Question} {params : Except Failure Query.Params}
    {read : Value → Except Failure question.Answer}
    (hparams : question.params = (params.map .ofTexts).mapError .known)
    (hread : ∀ payload, question.read payload = (read payload).mapError .known) :
    (question.steps config fun _ => transport).Follows
      (Reports.ask config transport question.path params read) := by
  cases params with
  | error failure =>
    refine .unsent fun course => ?_
    rw [steps, Program.exec_bind, Program.exec_ofResult, hparams]
    rfl
  | ok params =>
    intro course
    rw [steps, Program.exec_bind, Program.exec_ofResult, hparams]
    exact (fetch_follows question.path params).andThen hread course

/-! ## Reports -/

theorem answer_realtime :
    (realtime.answer config fun _ => transport).Follows (Reports.realtime config transport) :=
  Program.Follows.noting (@steps_follows _ _ _ realtime (.ok []) _ rfl fun _ => rfl)
    "realtime visitors"

theorem answer_aggregate (query : Query.Aggregate) :
    ((of (.aggregate query)).answer config fun _ => transport).Follows
      (Reports.aggregate config transport query) :=
  (steps_follows (params_of (.aggregate query)) fun _ => rfl).noting "aggregate stats"

theorem answer_timeseries (query : Query.Timeseries) :
    ((of (.timeseries query)).answer config fun _ => transport).Follows
      (Reports.timeseries config transport query) :=
  (steps_follows (params_of (.timeseries query)) fun _ => rfl).noting "timeseries"

/-- A breakdown without a property fails with nothing being noted down in either way. -/
theorem answer_breakdown (query : Query.Breakdown) :
    ((of (.breakdown query)).answer config fun _ => transport).Follows
      (Reports.breakdown config transport query) := by
  have hbuilt : (of (.breakdown query)).params = (query.params.map .ofTexts).mapError .known :=
    params_of (.breakdown query)
  rw [Reports.breakdown]
  cases hproperty : query.property with
  | none =>
    have hparams : query.params = .error (.noAttribute Value.null.kind "value") := by
      rw [Query.Breakdown.params, hproperty]
    have hlabel : (of (.breakdown query)).label =
        .error (.known (.noAttribute Value.null.kind "value")) := by
      simp only [of, label, Query.Loose.Breakdown.of, hproperty]
      rfl
    rw [hparams] at hbuilt ⊢
    refine .unsent fun course => ?_
    rw [answer, Program.exec_reporting, hlabel, steps, Program.exec_bind, Program.exec_ofResult,
      hbuilt]
    rfl
  | some property =>
    have hlabel : (of (.breakdown query)).label =
        .ok (s!"breakdown by {property.text}" : String) := by
      have hword : (Query.Held.property property).word = .ok (.text property.text) := rfl
      simp only [of, label, Query.Loose.Breakdown.of, hproperty, Query.Held.orNull, hword]
      show Except.ok ("breakdown by " ++ (property.text : Text)) = _
      rw [← Text.ofString_append]
      rfl
    have hread : ∀ payload, (of (.breakdown query)).read payload =
        (Reports.rowsOf property payload).mapError .known := by
      intro payload
      rw [← rowsOf_property]
      simp only [of, read, Query.Loose.Breakdown.of, hproperty]
      rfl
    rw [answer, hlabel]
    exact (steps_follows hbuilt hread).noting s!"breakdown by {property.text}"

/-- The reports and the questions that they stand for. -/
inductive IsReport : (question : Question) → (Config → Transport → Exchange question.Answer) → Prop
  | realtime : IsReport .realtime Reports.realtime
  | aggregate (query : Query.Aggregate) :
      IsReport (of (.aggregate query)) fun config transport =>
        Reports.aggregate config transport query
  | timeseries (query : Query.Timeseries) :
      IsReport (of (.timeseries query)) fun config transport =>
        Reports.timeseries config transport query
  | breakdown (query : Query.Breakdown) :
      IsReport (of (.breakdown query)) fun config transport =>
        Reports.breakdown config transport query

namespace IsReport

variable {question : Question} {report : Config → Transport → Exchange question.Answer}

theorem follows (h : IsReport question report) :
    (question.answer config fun _ => transport).Follows (report config transport) := by
  cases h with
  | realtime => exact answer_realtime
  | aggregate query => exact answer_aggregate query
  | timeseries query => exact answer_timeseries query
  | breakdown query => exact answer_breakdown query

/-- A report ends in one of the ways in which its question can end, with the same request if any. -/
theorem ends (h : IsReport question report) (sent : List Request) :
    Ends config (fun _ => transport) sent question (report config transport).request.toList
      ((report config transport).result.mapError .known) := by
  obtain ⟨requests, hsent, hends⟩ := @answer_ends _ config (fun _ => transport) question ⟨sent, []⟩
  rw [h.follows] at hsent hends
  rwa [List.append_cancel_left hsent]

/-- **The key in reports.**  With two keys that fit into their header, or are at fault in the same
way, a report comes to the same and notes down the same, and of the requests only the header that
says who asks tells them apart. -/
theorem hides_key (h : IsReport question report) {key : String}
    (hkey : headerFault? { config with apiKey := key }.authorization =
      headerFault? config.authorization)
    (htransport : ∀ request request' : Request, request.anonymous = request'.anonymous →
      transport request = transport request') :
    (report { config with apiKey := key } transport).result = (report config transport).result ∧
      (report { config with apiKey := key } transport).log = (report config transport).log ∧
      (report { config with apiKey := key } transport).request.map Request.anonymous =
        (report config transport).request.map Request.anonymous := by
  have hlink : Link.Blind fun _ => transport := fun _ _ request request' _ hrequest =>
    htransport request request' hrequest
  obtain ⟨hresult, hlog, hsent⟩ := answer_alike hkey hlink question ⟨[], []⟩ ⟨[], []⟩ ⟨rfl, rfl⟩
  rw [h.follows, h.follows] at hresult hlog hsent
  refine ⟨?_, hlog, ?_⟩
  · revert hresult
    cases (report { config with apiKey := key } transport).result <;>
      cases (report config transport).result <;> simp [Except.mapError]
  · revert hsent
    cases (report { config with apiKey := key } transport).request <;>
      cases (report config transport).request <;> simp

end IsReport

end Question

end SiteStats
