import SiteStats.Gateway
import SiteStats.Proofs.Common

/-!
# What a reply delivers

What a reply comes to is worked out in two parts.  In the first the reply is taken for what it says
about the transport: it may be a breakdown, or a response that cannot be read as one.  What passes
is a response with its plain body, and only this is `classify` asked about.  `delivered` is the
first part, and `resultOf_eq` says that nothing else happens.

A gateway that is asked notes down the parameters before it builds a request, so that a parameter
which cannot be written out keeps it from sending any (`request_get_eq_some_iff`).
-/

namespace SiteStats.Gateway

open Http

/-- The response that a reply to a request delivers, with its plain body. -/
def delivered (request : Request) : Reply → Except Failure (Response × List UInt8)
  | .breakdown cause => .error (.breakdown cause)
  | .response response => do
    if let some fault := response.headerFault? then throw (.unencodable fault)
    let body ← response.plainBody.mapError .coding
    if request.url.scheme = "" then throw (.noScheme request.url.text)
    if let some location := response.redirect? then
      let _ ← Redirect.target request.url location
    return (response, body)

theorem resultOf_eq [Json.Room] (request : Request) (reply : Reply) :
    resultOf request reply =
      (delivered request reply).bind fun (response, body) => classify request response body := by
  cases reply with
  | breakdown cause => rfl
  | response response =>
    simp only [resultOf, delivered]
    cases response.headerFault? with
    | some fault => rfl
    | none =>
      cases response.plainBody with
      | error fault => rfl
      | ok body =>
        by_cases hscheme : request.url.scheme = ""
        · simp only [if_pos hscheme]
          rfl
        · simp only [if_neg hscheme]
          cases response.redirect? with
          | none => rfl
          | some location =>
            simp only [Except.mapError, Except.ok_bind]
            cases Redirect.target request.url location <;> rfl

/-- A response is delivered as it is when its headers and the codings of its body can be read, the
request went to an address with a scheme, and the address of a redirect is one. -/
theorem delivered_response_eq_ok_iff {request : Request} {response received : Response}
    {body : List UInt8} :
    delivered request (.response response) = .ok (received, body) ↔
      received = response ∧ response.headerFault? = none ∧ response.plainBody = .ok body ∧
        request.url.scheme ≠ "" ∧
        ∀ location, response.redirect? = some location →
          ∃ url, Redirect.target request.url location = .ok url := by
  simp only [delivered]
  cases response.headerFault? with
  | some fault => simp [Except.throw_eq, Except.error_bind]
  | none =>
    cases response.plainBody with
    | error fault => simp [Except.mapError, Except.error_bind]
    | ok plain =>
      by_cases hscheme : request.url.scheme = ""
      · simp [hscheme, Except.mapError, Except.ok_bind, Except.throw_eq, Except.error_bind]
      · cases response.redirect? with
        | none =>
          simp [hscheme, Except.mapError, Except.ok_bind, Except.pure_eq, eq_comm]
        | some location =>
          cases htarget : Redirect.target request.url location <;>
            simp [hscheme, htarget, Except.mapError, Except.ok_bind, Except.error_bind,
              Except.pure_eq, eq_comm]

/-! ## Asking -/

lemma exists_mapM_shown_iff {params : RawParams} :
    (∃ shown, params.mapM (fun param => (Failure.written param.2 Value.shown).map (param.1, ·)) =
      .ok shown) ↔ ∀ param ∈ params, param.2.isWritable := by
  simp only [List.mapM_eq_ok_iff, List.exists_forall₂_iff]
  refine forall₂_congr fun param _ => ?_
  cases hwritable : param.2.isWritable <;> simp [Failure.written, Except.map, hwritable]

section Asking

variable [Json.Room] {config : Config} {transport : Transport} {path : String}

lemma request_get_eq_some_iff {params : RawParams} {request : Request} :
    (get config transport path params).request = some request ↔
      (∀ param ∈ allParams config params, param.2.isWritable) ∧
        Gateway.request config path (allParams config params) = .ok request := by
  rw [← exists_mapM_shown_iff]
  simp only [get]
  cases (allParams config params).mapM fun param =>
      (Failure.written param.2 Value.shown).map (param.1, ·) with
  | error failure => simp
  | ok shown => cases Gateway.request config path (allParams config params) <;> simp

lemma result_get_of_sent {params : RawParams} {request : Request}
    (h : (get config transport path params).request = some request) :
    (get config transport path params).result = resultOf request (transport request) := by
  revert h
  simp only [get]
  cases (allParams config params).mapM fun param =>
      (Failure.written param.2 Value.shown).map (param.1, ·) with
  | error failure => simp
  | ok shown => cases Gateway.request config path (allParams config params) <;> simp +contextual

lemma result_get_of_not_sent {params : RawParams}
    (h : (get config transport path params).request = none) :
    ∃ failure, (get config transport path params).result = .error failure := by
  revert h
  simp only [get]
  cases (allParams config params).mapM fun param =>
      (Failure.written param.2 Value.shown).map (param.1, ·) with
  | error failure => simp
  | ok shown => cases Gateway.request config path (allParams config params) <;> simp

end Asking

end SiteStats.Gateway
