import SiteStats.Proofs.Gateway.DefaultAddress
import SiteStats.Proofs.Question.Steps
import SiteStats.Proofs.Text.Joined

/-!
# What a question says of the key

Two runs of a question are compared that differ in nothing but the key.  `Course.Alike` is what
cannot be told apart without looking at who asks, and `Program.Alike` says of two programs that they
come to the same and keep courses alike; the lemmas on it go through the ways to put programs
together.

The key is used in one place only, the header of a request.  As long as both keys fit into it, or
both are at fault in the same way, nothing else depends on them (`answer_hides_key`).  But what is
at fault with a key is said in full, with the first characters that do not fit and their position,
and `answer_shows_key` has two keys that are told apart by that.
-/

namespace SiteStats

open Http

/-! ## Programs that cannot be told apart -/

/-- A request without the header that says who asks. -/
def Http.Request.anonymous (request : Request) : Request :=
  { request with authorization := "" }

/-- Replies do not depend on who asks. -/
def Link.Blind (link : Link) : Prop :=
  ∀ sent sent' request request', sent.map Request.anonymous = sent'.map Request.anonymous →
    request.anonymous = request'.anonymous → link sent request = link sent' request'

/-- The same has been noted down, and the same has been sent but for who asked. -/
structure Course.Alike (course other : Course) : Prop where
  log : course.log = other.log
  sent : course.sent.map Request.anonymous = other.sent.map Request.anonymous

/-- Two programs come to the same, and their courses remain alike. -/
def Program.Alike {α : Type} (program other : Program α) : Prop :=
  ∀ before before' : Course, before.Alike before' →
    (program.exec before).1 = (other.exec before').1 ∧
      (program.exec before).2.Alike (other.exec before').2

namespace Program.Alike

variable {α β : Type}

lemma ofResult (result : Except Raised α) :
    Program.Alike (Program.ofResult result) (Program.ofResult result) := by
  intro before before' h
  rw [exec_ofResult, exec_ofResult]
  exact ⟨rfl, h⟩

lemma bind {program other : Program α} {next next' : α → Program β} (h : program.Alike other)
    (hnext : ∀ value, (next value).Alike (next' value)) :
    (program >>= next).Alike (other >>= next') := by
  intro before before' hbefore
  have hrun := h before before' hbefore
  rw [exec_bind, exec_bind]
  revert hrun
  obtain ⟨result, after⟩ := program.exec before
  obtain ⟨result', after'⟩ := other.exec before'
  rintro ⟨rfl : result = result', hcourse : after.Alike after'⟩
  cases result with
  | ok value => exact hnext value after after' hcourse
  | error raised => exact ⟨rfl, hcourse⟩

lemma reporting {program other : Program α} (what : Except Raised Text)
    (h : program.Alike other) :
    Program.Alike (Program.reporting what program) (Program.reporting what other) := by
  intro before before' hbefore
  have hrun := h before before' hbefore
  rw [exec_reporting, exec_reporting]
  revert hrun
  obtain ⟨result, after⟩ := program.exec before
  obtain ⟨result', after'⟩ := other.exec before'
  rintro ⟨rfl : result = result', hcourse : after.Alike after'⟩
  cases result with
  | ok value => exact ⟨rfl, hcourse⟩
  | error raised =>
    cases what with
    | error other => exact ⟨rfl, hcourse⟩
    | ok what =>
      refine ⟨rfl, ?_, hcourse.sent⟩
      show after.log ++ _ = after'.log ++ _
      rw [hcourse.log]

end Program.Alike

/-! ## Requests -/

namespace Gateway

variable {config : Config} {key : String}

/-- Of a key no more is looked at before the parameters than its fault, if it has one. -/
lemma address_key (hkey : headerFault? { config with apiKey := key }.authorization =
      headerFault? config.authorization) (path : String) :
    address { config with apiKey := key } path = address config path := by
  have hendpoint : { config with apiKey := key }.endpoint path = config.endpoint path := rfl
  simp only [address, hendpoint, hkey]

/-- The parameters are put behind an address without the key. -/
lemma requestAt_anonymous (url : Url) (params : Query.Params) :
    (requestAt { config with apiKey := key } url params).map Request.anonymous =
      (requestAt config url params).map Request.anonymous := by
  simp only [requestAt]
  cases params.mapM fun param => (param.2.whole.map (param.1, ·)).mapError Failure.unencodable with
  | error failure => rfl
  | ok pairs =>
    simp only [Except.ok_bind]
    cases (url.withQuery (Form.encode pairs)).mapError Failure.url with
    | error failure => rfl
    | ok target =>
      simp only [Except.ok_bind]
      cases headerFault? target.location <;> rfl

section

variable [Json.Room]

/-- What a reply comes to does not depend on who asked. -/
lemma resultOf_anonymous (request : Request) (reply : Reply) :
    resultOf request.anonymous reply = resultOf request reply := by
  cases reply <;> rfl

end

end Gateway

namespace Question

variable {config : Config} {key : String} {link : Link}

lemma prepared_anonymous (hkey : headerFault? { config with apiKey := key }.authorization =
      headerFault? config.authorization) (path : String) (params : Query.Loose.Params) :
    (prepared { config with apiKey := key } path params).map Request.anonymous =
      (prepared config path params).map Request.anonymous := by
  simp only [prepared, request, Gateway.address_key hkey]
  -- where a step before the key has failed, the steps after it must not be compared
  cases params.mapM Query.Content.shown with
  | error raised => simp only [Except.bind, Except.map]
  | ok shown =>
    cases Gateway.address config path with
    | error failure => simp only [Except.bind, Except.mapError, Except.error_bind, Except.map]
    | ok url =>
      simp only [Except.bind, Except.mapError, Except.ok_bind]
      cases Query.Loose.Params.mapM (Gateway.grouped params) Query.Content.sent with
      | error raised => simp only [Except.error_bind, Except.map]
      | ok texts =>
        have hrequest := @Gateway.requestAt_anonymous config key url texts
        revert hrequest
        rw [Except.ok_bind, Except.ok_bind]
        cases Gateway.requestAt { config with apiKey := key } url texts <;>
          cases Gateway.requestAt config url texts <;> simp [Except.map]

section

variable [Json.Room]

lemma fetch_alike (hkey : headerFault? { config with apiKey := key }.authorization =
      headerFault? config.authorization) (hlink : link.Blind) (path : String)
    (params : Query.Loose.Params) :
    (fetch { config with apiKey := key } link path params).Alike
      (fetch config link path params) := by
  intro before before' hbefore
  have hsite : withSite { config with apiKey := key } params = withSite config params := rfl
  have hlog : requestLog { config with apiKey := key } path (withSite config params) =
      requestLog config path (withSite config params) := rfl
  have hrequest := prepared_anonymous hkey path (withSite config params)
  rw [exec_fetch, exec_fetch, hsite, hlog]
  revert hrequest
  cases prepared { config with apiKey := key } path (withSite config params) with
  | error raised =>
    cases prepared config path (withSite config params) with
    | ok request => rintro ⟨⟩
    | error raised' =>
      rintro ⟨⟩
      refine ⟨rfl, ?_, hbefore.sent⟩
      show before.log ++ _ = before'.log ++ _
      rw [hbefore.log]
  | ok request =>
    cases prepared config path (withSite config params) with
    | error raised => rintro ⟨⟩
    | ok request' =>
      intro hok
      have hanonymous : request.anonymous = request'.anonymous := Except.ok.inj hok
      have hreply : link before.sent request = link before'.sent request' :=
        hlink _ _ _ _ hbefore.sent hanonymous
      have hresult : Gateway.resultOf request (link before.sent request) =
          Gateway.resultOf request' (link before'.sent request') := by
        rw [hreply, ← Gateway.resultOf_anonymous request, hanonymous, Gateway.resultOf_anonymous]
      refine ⟨congrArg (Except.mapError Raised.known) hresult, ?_, ?_⟩
      · show before.log ++ _ ++ _ = before'.log ++ _ ++ _
        rw [hbefore.log, hresult]
      · show (before.sent ++ [request]).map Request.anonymous =
          (before'.sent ++ [request']).map Request.anonymous
        rw [List.map_append, List.map_append, hbefore.sent, List.map_singleton, List.map_singleton,
          hanonymous]

lemma answer_alike (hkey : headerFault? { config with apiKey := key }.authorization =
      headerFault? config.authorization) (hlink : link.Blind) (question : Question) :
    (question.answer { config with apiKey := key } link).Alike (question.answer config link) := by
  refine .reporting question.label (.bind (.ofResult _) fun params => ?_)
  exact .bind (fetch_alike hkey hlink question.path params) fun payload => .ofResult _

/-- **The key.**  Two configurations that differ in the key only, with keys that fit into their
header or are at fault in the same way, cannot be told apart by what comes of a question or by what
is noted down about it, and of the requests only by the header that says who asks. -/
theorem answer_hides_key (hkey : headerFault? { config with apiKey := key }.authorization =
      headerFault? config.authorization) (hlink : link.Blind) (question : Question)
    (before : Course) :
    let ended := (question.answer config link).exec before
    let other := (question.answer { config with apiKey := key } link).exec before
    other.1 = ended.1 ∧ other.2.log = ended.2.log ∧
      other.2.sent.map Request.anonymous = ended.2.sent.map Request.anonymous := by
  intro ended other
  obtain ⟨hresult, hcourse⟩ := answer_alike hkey hlink question before before ⟨rfl, rfl⟩
  exact ⟨hresult, hcourse.log, hcourse.sent⟩

/-- The same holds of any number of questions that are asked one after the other. -/
theorem asked_alike (hkey : headerFault? { config with apiKey := key }.authorization =
      headerFault? config.authorization) (hlink : link.Blind) (questions : List Question)
    {before before' : Course} (h : before.Alike before') :
    (asked { config with apiKey := key } link questions before).Alike
      (asked config link questions before') := by
  induction questions generalizing before before' with
  | nil => exact h
  | cons question questions ih => exact ih (answer_alike hkey hlink question before before' h).2

/-- A key that does not fit is at fault with its first characters that do not, and this is what
comes of a question and is noted down. -/
lemma exec_answer_of_fault {fault : Text.Unencodable}
    (base : config.baseUrl = Config.defaultBaseUrl)
    (hfault : headerFault? config.authorization = some fault) (before : Course) :
    (realtime.answer config link).exec before =
      (.error (.known (.unencodable fault)),
        ⟨before.sent, before.log ++ requestLog config Wire.realtimePath (withSite config []) ++
          [⟨.error, .reports,
            "Error fetching " ++ "realtime visitors" ++ ": " ++ fault.message⟩]⟩) := by
  have hlabel : realtime.label = .ok "realtime visitors" := rfl
  have hmessage : (Raised.known (.unencodable fault)).message = .ofString fault.message := rfl
  have hprepared : prepared config Wire.realtimePath (withSite config []) =
      .error (.known (.unencodable fault)) := by
    rw [show withSite config [] = _ from withSite_ofTexts config [], prepared_ofTexts,
      request_ofTexts, Gateway.request_at_default_of_fault base hfault List.mem_cons_self]
    simp only [Except.mapError]
  have hfetch := exec_fetch config link Wire.realtimePath [] before
  rw [hprepared] at hfetch
  have hsteps : (realtime.steps config link).exec before = (.error (.known (.unencodable fault)),
      ⟨before.sent, before.log ++ requestLog config Wire.realtimePath (withSite config [])⟩) := by
    rw [steps, Program.exec_bind, Program.exec_ofResult]
    show ((fetch config link Wire.realtimePath [] >>= _ : Program _).exec before) = _
    rw [Program.exec_bind, hfetch]
  rw [answer, Program.exec_reporting, hsteps, hlabel]
  simp only [hmessage]

end

/-- Two keys that fit, and a response that refuses both. -/
theorem answer_hides_key_refused :
    let _room : Json.Room := ⟨900⟩
    let config : Config := ⟨"key", "site", "https://plausible.io", 30⟩
    let link : Link := fun _ _ => .response ⟨401, [], []⟩
    let ended := (realtime.answer config link).exec ⟨[], []⟩
    let other := (realtime.answer { config with apiKey := "other key" } link).exec ⟨[], []⟩
    other.1 = ended.1 ∧ other.2.log = ended.2.log ∧
      other.2.sent.map Request.anonymous = ended.2.sent.map Request.anonymous := by
  intro _room config link
  have hkey : headerFault? { config with apiKey := "other key" }.authorization =
      headerFault? config.authorization := by
    decide +kernel
  have hlink : link.Blind := fun _ _ _ _ _ _ => rfl
  exact answer_hides_key hkey hlink realtime ⟨[], []⟩

/-- **A key that does not fit.**  Of two keys neither of which fits, each is told apart from the
other by what comes of a question, and by what is noted down about it: both say where in the header
the first character stands that does not fit. -/
theorem answer_shows_key :
    let _room : Json.Room := ⟨900⟩
    let config : Config := ⟨"é", "site", "https://plausible.io", 30⟩
    let link : Link := fun _ _ => .response ⟨200, [], []⟩
    let ended := (realtime.answer config link).exec ⟨[], []⟩
    let other := (realtime.answer { config with apiKey := "ké" } link).exec ⟨[], []⟩
    (headerFault? config.authorization).isSome ∧
      (headerFault? { config with apiKey := "ké" }.authorization).isSome ∧ link.Blind ∧
      other.1 ≠ ended.1 ∧ other.2.log ≠ ended.2.log := by
  intro _room config link ended other
  have hfault : headerFault? config.authorization = some ⟨.ascii, 7, [.char 'é']⟩ := by
    decide +kernel
  have hfault' : headerFault? { config with apiKey := "ké" }.authorization =
      some ⟨.ascii, 8, [.char 'é']⟩ := by
    decide +kernel
  have hended : ended = _ := exec_answer_of_fault rfl hfault ⟨[], []⟩
  have hother : other = _ := exec_answer_of_fault rfl hfault' ⟨[], []⟩
  refine ⟨by rw [hfault]; rfl, by rw [hfault']; rfl, fun _ _ _ _ _ _ => rfl, ?_, ?_⟩
  · rw [hended, hother]
    simp
  · rw [hended, hother]
    let fault (position : Nat) : Text.Unencodable := ⟨.ascii, position, [.char 'é']⟩
    have htexts : (fault 8).message ≠ (fault 7).message := by
      decide +kernel
    intro hlog
    have hlast := congrArg (fun log => log.getLast?.map Log.Record.text) hlog
    simp only [List.getLast?_concat, Option.map_some, Option.some.injEq] at hlast
    exact htexts (Text.ofString_inj.mp (Text.append_right_inj.mp hlast))

end Question

end SiteStats
