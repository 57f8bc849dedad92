import Mathlib.Data.List.Nodup
import SiteStats.Proofs.Filter.Construction
import SiteStats.Proofs.Filter.Reduction
import SiteStats.Proofs.Gateway.DefaultAddress
import SiteStats.Proofs.Gateway.Delivery
import SiteStats.Proofs.Query.Parameters
import SiteStats.Reports

/-!
# What reports send

Each of the three kinds of report sends the parameters of its query and the site, as form data in
the query of one address.  Whoever reads that form data gets the parameters back as they were
(`Reports.sent_params`), because three things come together here: parameters have distinct names and
none of them is that of the site (`Query.canonical_listed`), so that they are not regrouped on their
way; form data is read back whatever the texts are (`Form.decode?_encode`); and in the address it is
neither escaped again nor cut (`Gateway.request_eq_ok_iff`).

Form data is made of strings.  Parameters are strings unless a value of the filter holds a half of a
surrogate pair (`Query.params_eq_texts`): all else that a filter is written with are words and
marks.
-/

namespace SiteStats

open Http

/-! ## Strings -/

lemma Text.exists_eq_ofString_iff {t : Text} :
    (∃ s : String, t = s) ↔ ∀ point ∈ t.toList, point.char?.isSome := by
  have hwhole : (∃ s : String, t = s) ↔ ∃ s, t.whole = .ok s :=
    exists_congr fun s => whole_eq_ok_iff.symm
  rw [hwhole, show (∀ point ∈ t.toList, point.char?.isSome) ↔ _ from
    (unencodable?_eq_none_iff .utf8 t).symm, whole]
  cases unencodable? .utf8 t <;> simp

namespace Filter

/-- All values of the filter are strings. -/
def Group.IsWhole (g : Group) : Prop :=
  ∀ leaf ∈ g.leaves, ∀ value ∈ leaf.operand.entries, ∃ s : String, value = s

/-- What is woven of conditions whose values are strings is one. -/
lemma Woven.isSome_char? {leaves : List Condition} {points : List Point} (h : Woven leaves points)
    (hvalues : ∀ leaf ∈ leaves, ∀ value ∈ leaf.operand.entries, ∃ s : String, value = s) :
    ∀ point ∈ points, point.char?.isSome := by
  induction h with
  | nil => simp
  | @condition leaf leaves rest word sign isWord isSign rendered others ih =>
    obtain ⟨hleaf, hleaves⟩ := List.forall_mem_cons.mp hvalues
    have hoperand : ∀ point ∈ leaf.operand.text.toList, point.char?.isSome := by
      intro point hpoint
      rw [Operand.text_eq_entries, Text.toList_intercalate] at hpoint
      obtain hbetween | ⟨part, hpart, hmem⟩ := Text.mem_of_mem_intercalate hpoint
      · exact Text.exists_eq_ofString_iff.mp ⟨_, rfl⟩ point hbetween
      · obtain ⟨value, hvalue, rfl⟩ := List.mem_map.mp hpart
        exact Text.exists_eq_ofString_iff.mp (hleaf value hvalue) point hmem
    rw [rendered, ← Text.ofString_append, Text.toList_append]
    simp only [List.forall_mem_append]
    exact ⟨⟨Text.exists_eq_ofString_iff.mp ⟨_, rfl⟩, hoperand⟩, ih hleaves⟩
  | mark isMark others ih =>
    refine List.forall_mem_cons.mpr ⟨?_, ih hvalues⟩
    simp only [List.mem_cons, List.not_mem_nil, or_false] at isMark
    obtain rfl | rfl | rfl | rfl := isMark <;> rfl

lemma Group.IsWhole.text {g : Group} (h : g.IsWhole) : ∃ s : String, g.text = s :=
  Text.exists_eq_ofString_iff.mpr (g.woven.isSome_char? h)

end Filter

namespace Query

/-- All values of the filter of a query, if it has one, are strings. -/
def IsWhole (query : Query) : Prop :=
  ∀ group, query.options.filters = some group → group.IsWhole

/-- What is sent for a count is its digits. -/
lemma IsCount.truthyText?_eq_string {value : Value} {text : Text} (h : IsCount value)
    (hsent : truthyText? value = some text) : ∃ s : String, text = s := by
  obtain ⟨-, hnone⟩ | ⟨n, -, hsome⟩ := h.truthyText?_eq
  · cases hnone.symm.trans hsent
  · exact ⟨_, (Option.some.inj (hsome.symm.trans hsent)).symm⟩

/-- All else that is sent are strings in any case. -/
lemma IsWhole.sentText? {query : Query} (h : query.IsWhole) (hcoherent : query.Coherent)
    {p : Parameter} {text : Text} (hsent : query.sentText? p = some text) :
    ∃ s : String, text = s := by
  have hword : ∀ {α : Type} (option : Option α) (word : α → String),
      (option.map fun value => (word value : Text)) = some text → ∃ s : String, text = s := by
    intro α option word hoption
    obtain ⟨value, -, rfl⟩ := Option.map_eq_some_iff.mp hoption
    exact ⟨word value, rfl⟩
  cases p with
  | period => exact hword query.options.period Vocabulary.text hsent
  | metrics =>
    have htext : query.options.metricsText? = some text := hsent
    rw [Options.metricsText?] at htext
    revert htext
    rcases query.options.metrics with _ | _ | ⟨metric, rest⟩ <;> rintro ⟨⟩
    exact ⟨_, rfl⟩
  | filters =>
    obtain ⟨group, hgroup, rfl⟩ := Option.map_eq_some_iff.mp hsent
    exact (h group hgroup).text
  | date => exact hword query.options.date DateRange.text hsent
  | compare =>
    cases query with
    | aggregate query =>
      obtain ⟨-, hword⟩ := Option.ite_none_right_eq_some.mp hsent
      exact ⟨Wire.previousPeriod, (Option.some.inj hword).symm⟩
    | timeseries | breakdown => cases hsent
  | interval =>
    cases query with
    | timeseries query => exact hword query.interval Vocabulary.text hsent
    | aggregate | breakdown => cases hsent
  | property =>
    cases query with
    | breakdown query => exact hword query.property Vocabulary.text hsent
    | aggregate | timeseries => cases hsent
  | limit =>
    cases query with
    | breakdown query => exact IsCount.truthyText?_eq_string hcoherent.2.2.1 hsent
    | aggregate | timeseries => cases hsent
  | page =>
    cases query with
    | breakdown query => exact IsCount.truthyText?_eq_string hcoherent.2.2.2 hsent
    | aggregate | timeseries => cases hsent

/-- The parameters of a query are strings when the values of its filter are. -/
lemma IsWhole.params_eq_texts {query : Query} (h : query.IsWhole) (hcoherent : query.Coherent)
    (hwritable : query.isWritable) : ∃ pairs, query.params = .ok (Gateway.texts pairs) := by
  have hstrings : ∀ param ∈ listed query.kind.parameters query.sentText?,
      ∃ s : String, param.2 = s := by
    intro param hparam
    obtain ⟨p, -, hentry⟩ := List.mem_flatMap.mp hparam
    obtain ⟨text, htext, rfl⟩ := Option.map_eq_some_iff.mp (Option.mem_toList.mp hentry)
    exact h.sentText? hcoherent htext
  obtain ⟨pairs, hpairs⟩ := Gateway.exists_eq_texts_iff.mpr hstrings
  exact ⟨pairs, (params_eq_ok_iff hcoherent).mpr ⟨hwritable, hpairs⟩⟩

end Query

/-! ## Reports -/

@[simp] lemma Http.Exchange.request_andThen {α β : Type} (exchange : Exchange α)
    (f : α → Except Failure β) : (exchange.andThen f).request = exchange.request :=
  rfl

@[simp] lemma Http.Exchange.request_noting {α : Type} (exchange : Exchange α)
    (record : Failure → Log.Record) : (exchange.noting record).request = exchange.request := by
  unfold noting
  split <;> rfl

namespace Reports

/-- The path that is asked for with a query of a kind. -/
def path : Query.Kind → String
  | .aggregate => Wire.aggregatePath
  | .timeseries => Wire.timeseriesPath
  | .breakdown => Wire.breakdownPath

section

variable [Json.Room]

/-- The request that is sent for a query, if one is. -/
def sent (config : Config) (transport : Transport) : Query → Option Request
  | .aggregate query => (aggregate config transport query).request
  | .timeseries query => (timeseries config transport query).request
  | .breakdown query => (breakdown config transport query).request

variable {config : Config} {transport : Transport}

/-- What is asked with parameters that could be built is the request for them and the site. -/
lemma request_ask_eq_some_iff {α : Type} {path : String} {params : Except Failure Query.Params}
    {read : Value → Except Failure α} {request : Request} :
    (ask config transport path params read).request = some request ↔
      ∃ built, params = .ok built ∧ Gateway.request config path
        (Gateway.rawParams (built ++ [(Wire.siteId, (config.siteId : Text))])) = .ok request := by
  cases params with
  | error failure => simp [ask, Exchange.unsent]
  | ok built =>
    have hwritable : ∀ param ∈ Gateway.rawParams (built ++ [(Wire.siteId, (config.siteId : Text))]),
        param.2.isWritable := by
      intro param hparam
      obtain ⟨-, -, rfl⟩ := List.mem_map.mp hparam
      rfl
    simp only [ask, Exchange.request_andThen, Gateway.request_get_eq_some_iff,
      Gateway.allParams_rawParams, Except.ok.injEq, exists_eq_left', and_iff_right hwritable]

lemma sent_eq_some_iff {query : Query} {request : Request} :
    sent config transport query = some request ↔
      ∃ params, query.params = .ok params ∧ Gateway.request config (path query.kind)
        (Gateway.rawParams (params ++ [(Wire.siteId, (config.siteId : Text))])) = .ok request := by
  cases query with
  | aggregate query =>
    rw [sent, aggregate, Exchange.request_noting]
    exact request_ask_eq_some_iff
  | timeseries query =>
    rw [sent, timeseries, Exchange.request_noting]
    exact request_ask_eq_some_iff
  | breakdown query =>
    rw [sent, breakdown]
    cases query.property with
    | none => exact request_ask_eq_some_iff
    | some property =>
      rw [Exchange.request_noting]
      exact request_ask_eq_some_iff

/-- **Nothing gets between the parameters.**  Whatever strings they are, the address that is sent
for a query stands for its parameters and the site, in their order and without anything else.  They
are strings if the values of the filter are and the numbers can be written out.  And a request is
sent exactly when the parameters are strings, an address without parameters could be asked, and the
form data is not too long for it. -/
theorem sent_params {kind : Query.Kind} {value : Value} {query : Query}
    (h : Query.read kind value = .ok query) (config : Config) (transport : Transport) :
    (∀ request, sent config transport query = some request →
      ∃ pairs, query.params = .ok (Gateway.texts pairs) ∧
        request.url.query.bind Form.decode? = some (pairs ++ [(Wire.siteId, config.siteId)])) ∧
      (query.isWritable → query.IsWhole → ∃ pairs, query.params = .ok (Gateway.texts pairs)) ∧
      ((∃ request, sent config transport query = some request) ↔
        ∃ pairs, query.params = .ok (Gateway.texts pairs) ∧
          (Form.encode (pairs ++ [(Wire.siteId, config.siteId)])).length ≤ UrlParts.maxLength ∧
          ∃ bare, Gateway.request config (path kind) [] = .ok bare) := by
  obtain ⟨rfl, hcoherent⟩ := Query.coherent_of_read h
  -- what is sent are the encoded pairs that the parameters and the site are
  have hsent : ∀ request, sent config transport query = some request ↔
      ∃ pairs, query.params = .ok (Gateway.texts pairs) ∧
        (Form.encode (pairs ++ [(Wire.siteId, config.siteId)])).length ≤ UrlParts.maxLength ∧
        ∃ bare, Gateway.request config (path query.kind) [] = .ok bare ∧
          { bare with url := { bare.url with
            query := some (Form.encode (pairs ++ [(Wire.siteId, config.siteId)])) } } =
        request := by
    intro request
    have hdistinct : ∀ params, query.params = .ok params →
        ((params ++ [(Wire.siteId, (config.siteId : Text))]).map Prod.fst).Nodup := by
      intro params hparams
      obtain ⟨-, rfl⟩ := (Query.params_eq_ok_iff hcoherent).mp hparams
      have hcanonical := Query.canonical_listed hcoherent
      rw [List.map_append, List.map_singleton, ← List.concat_eq_append]
      exact hcanonical.distinct.concat hcanonical.site_notMem
    rw [sent_eq_some_iff]
    constructor
    · rintro ⟨params, hparams, hrequest⟩
      obtain ⟨all, hall, hrest⟩ :=
        (Gateway.request_eq_ok_iff (hdistinct params hparams)).mp hrequest
      obtain ⟨pairs, rfl, rfl⟩ := Gateway.append_eq_texts_iff.mp hall
      exact ⟨pairs, hparams, hrest⟩
    · rintro ⟨pairs, hparams, hrest⟩
      refine ⟨_, hparams, (Gateway.request_eq_ok_iff (hdistinct _ hparams)).mpr ⟨_, ?_, hrest⟩⟩
      exact Gateway.append_eq_texts_iff.mpr ⟨pairs, rfl, rfl⟩
  refine ⟨fun request hrequest => ?_, fun hwritable hwhole => ?_, ?_⟩
  · obtain ⟨pairs, hparams, -, bare, -, rfl⟩ := (hsent request).mp hrequest
    exact ⟨pairs, hparams, Form.decode?_encode _⟩
  · exact hwhole.params_eq_texts hcoherent hwritable
  · simp only [hsent]
    constructor
    · rintro ⟨request, pairs, hparams, hlength, bare, hbare, -⟩
      exact ⟨pairs, hparams, hlength, bare, hbare⟩
    · rintro ⟨pairs, hparams, hlength, bare, hbare⟩
      exact ⟨_, pairs, hparams, hlength, bare, hbare, rfl⟩

end

/-- A page for which the filter and the site are full of marks that mean something in form data. -/
theorem sent_params_breakdown :
    let _room : Json.Room := ⟨900⟩
    let config : Config := ⟨"key", "a=b&site_id=c", Config.defaultBaseUrl, 30⟩
    let query : Query := .breakdown ⟨⟨none, some [],
      some ⟨.all, [.condition ⟨.source, .equals, .one "é 100%+1&page=2#x"⟩]⟩, none⟩,
      some .page, .null, .null⟩
    Query.read .breakdown (.object [("property", .text "event:page"),
        ("filters", .object [("children", .list [.object [("kind", .text "condition"),
          ("property", .text "visit:source"), ("value", .text "é 100%+1&page=2#x")]])])]) =
        .ok query ∧
      ∀ transport, ∃ request, sent config transport query = some request ∧
        request.url.query.bind Form.decode? = some [("property", "event:page"),
          ("filters", "visit:source==é 100%+1&page=2#x"), ("site_id", "a=b&site_id=c")] := by
  intro _room config query
  have hread : Query.read .breakdown (.object [("property", .text "event:page"),
        ("filters", .object [("children", .list [.object [("kind", .text "condition"),
          ("property", .text "visit:source"), ("value", .text "é 100%+1&page=2#x")]])])]) =
        .ok query := by rfl
  refine ⟨hread, fun transport => ?_⟩
  obtain ⟨hquery, -, hsent⟩ := sent_params hread config transport
  have hparams : query.params = .ok (Gateway.texts
      [("property", "event:page"), ("filters", "visit:source==é 100%+1&page=2#x")]) := by
    rfl
  have hkey : headerFault? config.authorization = none := by decide +kernel
  have hbare := @Gateway.request_at_default config (path .breakdown) [] rfl hkey (by decide) .nil
    (by decide +kernel)
  obtain ⟨request, hrequest⟩ := hsent.mpr ⟨_, hparams, by decide +kernel, _, hbare⟩
  obtain ⟨pairs, hpairs, hdecoded⟩ := hquery request hrequest
  obtain rfl := Gateway.texts_injective (Except.ok.inj (hparams.symm.trans hpairs))
  exact ⟨request, hrequest, hdecoded⟩

end Reports

end SiteStats
