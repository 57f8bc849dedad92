import Mathlib.Tactic.Common
import SiteStats.Proofs.Gateway.Request
import SiteStats.Proofs.Query.Loose
import SiteStats.Question

/-!
# The steps of a question

What each step of a program does to its course, and what it comes to.  A program ends with the first
of its steps that raises something (`Program.exec_bind`), and what has happened until then stays.
Only `reporting` goes on after that, and only to raise something again.

When a question is asked, a path is asked for with one request, unless this cannot be prepared
(`Question.exec_fetch`).  That a failure is noted down changes nothing but the log
(`Question.exec_answer`), though it could: the label for it is asked of the same property that may
have caused the failure.  But the property is also the first thing that is asked for when the
parameters are built, so that a label that cannot be found out has raised the same thing before.
-/

namespace SiteStats

open Http

/-! ## Programs -/

namespace Program

variable {α β : Type}

@[simp] lemma exec_note (records : List Log.Record) (course : Course) :
    (note records).exec course = (.ok (), { course with log := course.log ++ records }) :=
  rfl

@[simp] lemma exec_send (link : Link) (request : Request) (course : Course) :
    (send link request).exec course =
      (.ok (link course.sent request), { course with sent := course.sent ++ [request] }) :=
  rfl

@[simp] lemma exec_ofResult (result : Except Raised α) (course : Course) :
    (ofResult result).exec course = (result, course) := by
  cases result <;> rfl

@[simp] lemma exec_ofKnown (result : Except Failure α) (course : Course) :
    (ofKnown result).exec course = (result.mapError .known, course) :=
  exec_ofResult _ course

lemma exec_bind (program : Program α) (next : α → Program β) (course : Course) :
    (program >>= next).exec course =
      match program.exec course with
      | (.ok value, course) => (next value).exec course
      | (.error raised, course) => (.error raised, course) := by
  simp only [exec, ExceptT.run_bind, StateT.run_bind]
  obtain ⟨result, after⟩ := StateT.run (ExceptT.run program) course
  cases result <;> rfl

/-- What is raised is noted down, if it can be found out what the program was about. -/
lemma exec_reporting (what : Except Raised Text) (program : Program α) (course : Course) :
    (reporting what program).exec course =
      match program.exec course, what with
      | (.ok value, course), _ => (.ok value, course)
      | (.error raised, course), .ok what =>
        (.error raised, { course with
          log := course.log ++
            [⟨.error, .reports, "Error fetching " ++ what ++ ": " ++ raised.message⟩] })
      | (.error _, course), .error raised => (.error raised, course) := by
  simp only [exec, reporting, tryCatch, tryCatchThe, MonadExceptOf.tryCatch, ExceptT.tryCatch,
    ExceptT.run, ExceptT.mk, StateT.run_bind]
  obtain ⟨result, after⟩ := StateT.run program course
  cases result with
  | ok value => rfl
  | error raised => cases what <;> rfl

end Program

/-! ## Questions -/

namespace Question

/-- What is noted down before a request is built: the parameters too, if they can be. -/
def requestLog (config : Config) (path : String) (params : Query.Loose.Params) :
    List Log.Record :=
  Gateway.pathRecord config path ::
    match params.mapM Query.Content.shown with
    | .ok shown => [Gateway.paramsRecord shown]
    | .error _ => []

/-- The request for a path, if the parameters can be noted down and it can be built. -/
def prepared (config : Config) (path : String) (params : Query.Loose.Params) :
    Except Raised Request :=
  (params.mapM Query.Content.shown).bind fun _ => request config path params

lemma request_ofTexts (config : Config) (path : String) (params : Query.Params) :
    request config path (.ofTexts params) =
      (Gateway.request config path (Gateway.rawParams params)).mapError .known := by
  have htext : ∀ text, (Query.Content.text text).sent = .ok (Value.text text).sent := fun _ => rfl
  have hsent : Query.Loose.Params.mapM (Gateway.grouped (Query.Loose.Params.ofTexts params))
      Query.Content.sent =
        .ok ((Gateway.grouped (Gateway.rawParams params)).map fun param =>
          (param.1, param.2.sent)) := by
    rw [Query.Loose.Params.ofTexts, Gateway.rawParams, Gateway.grouped_map, Gateway.grouped_map,
      List.map_map]
    exact Query.Loose.Params.mapM_ofTexts htext _
  rw [request, hsent, Gateway.request]
  cases Gateway.address config path <;> rfl

lemma shown_ofTexts (params : Query.Params) :
    (Query.Loose.Params.ofTexts params).mapM Query.Content.shown =
      .ok (params.map fun param => (param.1, (Value.text param.2).shown)) := by
  have htext : ∀ text, (Query.Content.text text).shown = .ok (Value.text text).shown := fun _ => rfl
  exact Query.Loose.Params.mapM_ofTexts htext params

lemma prepared_ofTexts (config : Config) (path : String) (params : Query.Params) :
    prepared config path (.ofTexts params) = request config path (.ofTexts params) := by
  rw [prepared, shown_ofTexts]
  rfl

lemma withSite_ofTexts (config : Config) (params : Query.Params) :
    withSite config (.ofTexts params) =
      .ofTexts (params ++ [(Wire.siteId, (config.siteId : Text))]) :=
  (Query.Loose.Params.ofTexts_append params [(Wire.siteId, (config.siteId : Text))]).symm

lemma params_of (query : Query) :
    (of query).params = (query.params.map .ofTexts).mapError .known := by
  cases query with
  | aggregate query => exact Query.Loose.params_of_aggregate query
  | timeseries query => exact Query.Loose.params_of_timeseries query
  | breakdown query => exact Query.Loose.params_of_breakdown query

section

variable [Json.Room]

/-- A path is asked for with one request, unless this cannot be prepared. -/
lemma exec_fetch (config : Config) (link : Link) (path : String) (params : Query.Loose.Params)
    (course : Course) :
    (fetch config link path params).exec course =
      match prepared config path (withSite config params) with
      | .error raised =>
        (.error raised,
          ⟨course.sent, course.log ++ requestLog config path (withSite config params)⟩)
      | .ok request =>
        let result := Gateway.resultOf request (link course.sent request)
        (result.mapError .known,
          ⟨course.sent ++ [request],
            course.log ++ requestLog config path (withSite config params) ++
            Gateway.responseLog path result⟩) := by
  simp only [fetch, Program.exec_bind, Program.exec_note, Program.exec_ofKnown, Program.exec_send,
    Program.exec_ofResult, prepared, requestLog]
  cases (withSite config params).mapM Query.Content.shown with
  | error raised => rfl
  | ok shown =>
    simp only [Except.bind]
    cases request config path (withSite config params) with
    | error raised => simp only [List.append_assoc, List.singleton_append]
    | ok request => simp only [List.append_assoc, List.singleton_append]

end

/-- The word of a property that cannot be asked for is missed when the parameters are built. -/
lemma params_of_label_error {question : Question} {raised : Raised}
    (h : question.label = .error raised) : question.params = .error raised := by
  cases question with
  | breakdown query =>
    have hword : query.property.word = .error raised := by
      cases hword : query.property.word with
      | ok word =>
        obtain ⟨text, htext⟩ := query.property.displayed word hword
        simp [label, hword, htext, Except.ok_bind, Except.pure_eq] at h
      | error other => simpa [label, hword, Except.error_bind] using h
    rw [params, Query.Loose.Breakdown.params, hword]
    rfl
  | _ => cases h

variable [Json.Room]

/-- To note down a failure neither makes another of it nor sends anything. -/
lemma exec_answer (config : Config) (link : Link) (question : Question) (course : Course) :
    ((question.answer config link).exec course).1 = ((question.steps config link).exec course).1 ∧
      ((question.answer config link).exec course).2.sent =
        ((question.steps config link).exec course).2.sent := by
  rw [answer, Program.exec_reporting]
  cases hlabel : question.label with
  | ok what =>
    obtain ⟨result | result, after⟩ := (question.steps config link).exec course <;> exact ⟨rfl, rfl⟩
  | error raised =>
    have hsteps : (question.steps config link).exec course = (.error raised, course) := by
      rw [steps, Program.exec_bind, Program.exec_ofResult, params_of_label_error hlabel]
    rw [hsteps]
    exact ⟨rfl, rfl⟩

end Question

end SiteStats
