import SiteStats.Proofs.Gateway.DefaultAddress
import SiteStats.Proofs.Gateway.Delivery
import SiteStats.Proofs.Query.Parameters
import SiteStats.Proofs.Question.Steps

/-!
# How questions end

A question is put to an end by the first of its steps that fails, and by nothing else: `Ends` lists
the steps in their order with the requests that have been sent by then, and `answer_ends` says that
each question ends in one of these ways, whatever its options hold and whatever comes back.
-/

namespace SiteStats

open Http

namespace Question

/-! ## Queries that have been read -/

/-- The questions whose query is as it was read. -/
inductive Validated : Question → Prop
  | realtime : Validated realtime
  | query {kind : Query.Kind} {value : Value} {query : Query}
      (read : Query.read kind value = .ok query) : Validated (.of query)

/-- The parameters of such a question are texts, unless there is a number among them that has too
many digits to be written out. -/
lemma Validated.params {question : Question} (h : question.Validated) :
    (∃ params, question.params = .ok (.ofTexts params)) ∨
      question.params = .error (.known .tooManyDigits) := by
  cases h with
  | realtime => exact .inl ⟨[], rfl⟩
  | @query kind value query read =>
    obtain ⟨-, hcoherent⟩ := Query.coherent_of_read read
    rw [params_of, Query.params_eq_listed hcoherent]
    cases query.isWritable with
    | true => exact .inl ⟨_, rfl⟩
    | false => exact .inr rfl

section

variable [Json.Room]

/-! ## Ends -/

/-- The ways in which a question can end, with the requests that it has sent by then, when others
had been sent before.  The steps are to build the parameters, to note them down and build the
request, to send it and get a response, to sort out what the response says, and to read the answer
from it; each of them needs the result of the one before. -/
inductive Ends (config : Config) (link : Link) (sent : List Request) (question : Question) :
    List Request → Except Raised question.Answer → Prop
  | unbuilt {raised : Raised} (params : question.params = .error raised) :
      Ends config link sent question [] (.error raised)
  | unsent {params : Query.Loose.Params} {raised : Raised} (built : question.params = .ok params)
      (unprepared : prepared config question.path (withSite config params) = .error raised) :
      Ends config link sent question [] (.error raised)
  | undelivered {params : Query.Loose.Params} {request : Request} {failure : Failure}
      (built : question.params = .ok params)
      (ready : prepared config question.path (withSite config params) = .ok request)
      (delivery : Gateway.delivered request (link sent request) = .error failure) :
      Ends config link sent question [request] (.error (.known failure))
  | refused {params : Query.Loose.Params} {request : Request} {response : Response}
      {body : List UInt8} {failure : Failure} (built : question.params = .ok params)
      (ready : prepared config question.path (withSite config params) = .ok request)
      (delivery : Gateway.delivered request (link sent request) = .ok (response, body))
      (classification : Gateway.classify request response body = .error failure) :
      Ends config link sent question [request] (.error (.known failure))
  | unread {params : Query.Loose.Params} {request : Request} {response : Response}
      {body : List UInt8} {payload : Value} {raised : Raised}
      (built : question.params = .ok params)
      (ready : prepared config question.path (withSite config params) = .ok request)
      (delivery : Gateway.delivered request (link sent request) = .ok (response, body))
      (classification : Gateway.classify request response body = .ok payload)
      (reading : question.read payload = .error raised) :
      Ends config link sent question [request] (.error raised)
  | answered {params : Query.Loose.Params} {request : Request} {response : Response}
      {body : List UInt8} {payload : Value} {answer : question.Answer}
      (built : question.params = .ok params)
      (ready : prepared config question.path (withSite config params) = .ok request)
      (delivery : Gateway.delivered request (link sent request) = .ok (response, body))
      (classification : Gateway.classify request response body = .ok payload)
      (reading : question.read payload = .ok answer) :
      Ends config link sent question [request] (.ok answer)

variable {config : Config} {link : Link} {question : Question}

/-- Each question ends in one of these ways. -/
lemma answer_ends (before : Course) :
    ∃ requests, ((question.answer config link).exec before).2.sent = before.sent ++ requests ∧
      Ends config link before.sent question requests
        ((question.answer config link).exec before).1 := by
  obtain ⟨hresult, hsent⟩ := exec_answer config link question before
  rw [hresult, hsent, steps, Program.exec_bind, Program.exec_ofResult]
  cases hparams : question.params with
  | error raised => exact ⟨[], (List.append_nil _).symm, .unbuilt hparams⟩
  | ok params =>
    simp only [Program.exec_bind, Program.exec_ofResult, exec_fetch]
    cases hrequest : prepared config question.path (withSite config params) with
    | error raised => exact ⟨[], (List.append_nil _).symm, .unsent hparams hrequest⟩
    | ok request =>
      refine ⟨[request], ?_⟩
      simp only [Gateway.resultOf_eq]
      cases hdelivered : Gateway.delivered request (link before.sent request) with
      | error failure => exact ⟨rfl, .undelivered hparams hrequest hdelivered⟩
      | ok delivery =>
        obtain ⟨response, body⟩ := delivery
        simp only [Except.bind]
        cases hclassified : Gateway.classify request response body with
        | error failure => exact ⟨rfl, .refused hparams hrequest hdelivered hclassified⟩
        | ok payload =>
          simp only [Except.mapError]
          cases hread : question.read payload with
          | error raised => exact ⟨trivial, .unread hparams hrequest hdelivered hclassified hread⟩
          | ok answer => exact ⟨trivial, .answered hparams hrequest hdelivered hclassified hread⟩

lemma Ends.length_le_one {sent requests : List Request} {result : Except Raised question.Answer}
    (h : Ends config link sent question requests result) : requests.length ≤ 1 := by
  cases h with
  | unbuilt | unsent => exact Nat.zero_le 1
  | undelivered | refused | unread | answered => exact Nat.le_refl 1

/-- Questions that are asked one after the other send at most one request each, after those that had
been sent before. -/
theorem sent_asked (questions : List Question) (before : Course) :
    ∃ requests, (asked config link questions before).sent = before.sent ++ requests ∧
      requests.length ≤ questions.length := by
  induction questions generalizing before with
  | nil => exact ⟨[], (List.append_nil _).symm, Nat.le_refl 0⟩
  | cons question questions ih =>
    obtain ⟨first, hfirst, hends⟩ := @answer_ends _ config link question before
    obtain ⟨others, hothers, hlength⟩ := ih ((question.answer config link).exec before).2
    refine ⟨first ++ others, ?_, ?_⟩
    · rw [← List.append_assoc, ← hfirst]
      exact hothers
    · have hone := hends.length_le_one
      rw [List.length_append, List.length_cons]
      omega

/-! ## The discipline -/

end

end Question

end SiteStats
