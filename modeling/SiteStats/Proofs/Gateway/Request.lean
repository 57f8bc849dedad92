import SiteStats.Gateway
import SiteStats.Proofs.Http.Query

/-!
# Requests and their parameters

A request for texts under distinct names differs from the one for no parameters at all in its query
only, which is the form data of the texts (`Gateway.request_eq_ok_iff`).  The names have to be
distinct because parameters of one name are brought together; and the texts have to be strings
because what holds halves cannot be encoded.

A request is built in two parts, one before the parameters are looked at and one after.  The first,
`Gateway.address`, does not depend on the parameters.  The second, `Gateway.requestAt`, looks
whether they can be encoded and puts them behind the address, where nothing that follows can see
them.
-/

namespace SiteStats

open Http

namespace Gateway

/-! ## Parameters -/

lemma grouped_of_nodup {α : Type} {params : List (String × α)} (h : (params.map Prod.fst).Nodup) :
    grouped params = params := by
  rw [grouped, List.eraseDups_of_nodup h]
  induction params with
  | nil => rfl
  | cons param params ih =>
    obtain ⟨hname, hnames⟩ := List.nodup_cons.mp h
    have hfirst : params.filter (fun other => other.1 = param.1) = [] := by
      refine List.filter_eq_nil_iff.mpr fun other hother => ?_
      have hne : other.1 ≠ param.1 := fun heq => hname (heq ▸ List.mem_map_of_mem hother)
      simpa using hne
    have hrest : ∀ name ∈ params.map Prod.fst,
        (param :: params).filter (fun other => other.1 = name) =
          params.filter fun other => other.1 = name := by
      intro name hmem
      have hne : param.1 ≠ name := fun heq => hname (heq ▸ hmem)
      rw [List.filter_cons_of_neg (by simpa using hne)]
    rw [List.map_cons, List.flatMap_cons, List.filter_cons_of_pos (by simp), hfirst,
      List.flatMap_congr hrest, ih hnames]
    rfl

lemma grouped_map {α β : Type} (f : α → β) (params : List (String × α)) :
    grouped (params.map fun param => (param.1, f param.2)) =
      (grouped params).map fun param => (param.1, f param.2) := by
  simp only [grouped, List.map_map, List.map_flatMap, List.filter_map, Function.comp_def]

lemma allParams_rawParams (config : Config) (params : Query.Params) :
    allParams config (rawParams params) =
      rawParams (params ++ [(Wire.siteId, (config.siteId : Text))]) := by
  simp [allParams, rawParams]

lemma mapM_shown_rawParams (params : Query.Params) :
    (rawParams params).mapM (fun param => (Failure.written param.2 Value.shown).map (param.1, ·)) =
      .ok (params.map fun param => (param.1, (Value.text param.2).shown)) := by
  rw [List.mapM_eq_ok_iff, rawParams, List.forall₂_map_left_iff, List.forall₂_map_right_iff]
  exact List.forall₂_same.mpr fun _ _ => rfl

/-- Named strings as the named texts that they are. -/
def texts (pairs : List (String × String)) : Query.Params :=
  pairs.map fun pair => (pair.1, (pair.2 : Text))

lemma exists_eq_texts_iff {params : Query.Params} :
    (∃ pairs, params = texts pairs) ↔ ∀ param ∈ params, ∃ s : String, param.2 = s := by
  constructor
  · rintro ⟨pairs, rfl⟩ param hparam
    obtain ⟨pair, -, rfl⟩ := List.mem_map.mp hparam
    exact ⟨pair.2, rfl⟩
  · intro h
    induction params with
    | nil => exact ⟨[], rfl⟩
    | cons param params ih =>
      obtain ⟨⟨s, hs⟩, hparams⟩ := List.forall_mem_cons.mp h
      obtain ⟨pairs, rfl⟩ := ih hparams
      refine ⟨(param.1, s) :: pairs, ?_⟩
      rw [show texts ((param.1, s) :: pairs) = (param.1, (s : Text)) :: texts pairs
        from rfl, ← hs]

lemma texts_injective : Function.Injective texts :=
  List.map_injective_iff.mpr fun _ _ h =>
    Prod.ext (Prod.mk.inj h).1 (Text.ofString_inj.mp (Prod.mk.inj h).2)

lemma append_eq_texts_iff {params : Query.Params} {name value : String}
    {pairs : List (String × String)} :
    params ++ [(name, (value : Text))] = texts pairs ↔
      ∃ others, params = texts others ∧ others ++ [(name, value)] = pairs := by
  constructor
  · intro h
    obtain ⟨others, last, rfl, hothers, hlast⟩ := List.map_eq_append_iff.mp h.symm
    obtain rfl : last = [(name, value)] := texts_injective hlast
    exact ⟨others, hothers.symm, rfl⟩
  · rintro ⟨others, rfl, rfl⟩
    simp [texts]

lemma mapM_whole_eq_ok_iff {params : Query.Params} {pairs : List (String × String)} :
    params.mapM (fun param => (param.2.whole.map (param.1, ·)).mapError Failure.unencodable) =
      .ok pairs ↔ params = texts pairs := by
  have hone : ∀ (param : String × Text) (pair : String × String),
      (param.2.whole.map (param.1, ·)).mapError Failure.unencodable = .ok pair ↔
        param = (pair.1, (pair.2 : Text)) := by
    intro param pair
    rw [Except.mapError_eq_ok_iff, Except.map_eq_ok_iff]
    simp only [Text.whole_eq_ok_iff]
    constructor
    · rintro ⟨s, htext, rfl⟩
      exact Prod.ext rfl htext
    · rintro rfl
      exact ⟨pair.2, rfl, rfl⟩
  simp only [List.mapM_eq_ok_iff, hone]
  rw [← List.forall₂_map_right_iff (R := Eq), List.forall₂_eq_eq_eq, texts]

/-! ## Requests -/

/-- A request for texts under distinct names is made of its address and its parameters. -/
lemma request_rawParams (config : Config) (path : String) (params : Query.Params)
    (h : (params.map Prod.fst).Nodup) :
    request config path (rawParams params) =
      (address config path).bind fun url => requestAt config url params := by
  have hgrouped : grouped (rawParams params) = rawParams params := by
    refine grouped_of_nodup ?_
    rw [rawParams, List.map_map]
    exact h
  have hsent : (rawParams params).map (fun param => (param.1, param.2.sent)) = params := by
    rw [rawParams, List.map_map]
    exact List.map_id params
  rw [request, hgrouped, hsent]
  rfl

/-- A request is built for an address when the texts are strings, their form data fits behind the
address, and the host into a header. -/
lemma requestAt_eq_ok_iff {config : Config} {url : Url} {params : Query.Params}
    {request : Request} :
    requestAt config url params = .ok request ↔ ∃ pairs, params = texts pairs ∧
      ∃ target, url.withQuery (Form.encode pairs) = .ok target ∧
        headerFault? target.location = none ∧
          ⟨target, authorization config target, Wire.json⟩ = request := by
  refine Except.bind_eq_ok_iff.trans (exists_congr fun pairs => ?_)
  refine and_congr mapM_whole_eq_ok_iff ?_
  refine Except.bind_eq_ok_iff.trans (exists_congr fun target => ?_)
  refine and_congr Except.mapError_eq_ok_iff ?_
  cases hfault : headerFault? target.location <;>
    simp [Except.throw_eq, Except.error_bind, Except.pure_eq]

/-- **Requests with parameters.**  A request can be built for texts under distinct names exactly
when one can be built without them, the texts are strings and their form data is not too long, and
it differs from that one in its query only. -/
theorem request_eq_ok_iff {config : Config} {path : String} {params : Query.Params}
    {result : Request} (h : (params.map Prod.fst).Nodup) :
    request config path (rawParams params) = .ok result ↔ ∃ pairs, params = texts pairs ∧
      (Form.encode pairs).length ≤ UrlParts.maxLength ∧
        ∃ bare, request config path [] = .ok bare ∧
          { bare with url := { bare.url with query := some (Form.encode pairs) } } = result := by
  have hquery : ∀ (pairs : List (String × String)), ∀ c ∈ (Form.encode pairs).toList,
      UrlParts.inQuery c := fun _ _ hc => Form.inQuery_of_mem_encode hc
  have hbare : ∀ {bare : Request}, request config path [] = .ok bare ↔
      ∃ url, address config path = .ok url ∧ ∃ target, url.withQuery (some "") = .ok target ∧
        headerFault? target.location = none ∧
          ⟨target, authorization config target, Wire.json⟩ = bare := by
    intro bare
    rw [show request config path [] = _ from request_rawParams config path [] .nil,
      Except.bind_eq_ok_iff]
    refine exists_congr fun url => and_congr_right fun _ => ?_
    rw [requestAt_eq_ok_iff]
    constructor
    · rintro ⟨pairs, hnone, hrest⟩
      obtain rfl : pairs = [] := by simpa [texts] using hnone.symm
      exact hrest
    · intro hrest
      exact ⟨[], rfl, hrest⟩
  simp only [request_rawParams config path params h, hbare, Except.bind_eq_ok_iff,
    requestAt_eq_ok_iff, Url.withQuery_eq_ok_iff (hquery _)]
  constructor
  · rintro ⟨url, haddress, pairs, htexts, _, ⟨hlength, bare, hbare, rfl⟩, hfault, rfl⟩
    exact ⟨pairs, htexts, hlength, _, ⟨url, haddress, bare, hbare, hfault, rfl⟩, rfl⟩
  · rintro ⟨pairs, htexts, hlength, _, ⟨url, haddress, bare, hbare, hfault, rfl⟩, rfl⟩
    exact ⟨url, haddress, pairs, htexts, _, ⟨hlength, bare, hbare, rfl⟩, hfault, rfl⟩

end Gateway

end SiteStats
