import SiteStats.Proofs.Gateway.Request

/-!
# Requests to the default address

At the default address nothing can be wrong with where a request goes.  So a request for strings
under distinct names is sure to be built there, unless the key does not fit into its header or the
strings are too long (`request_at_default`).
-/

namespace SiteStats

lemma String.map_eq_ofList (s : String) (f : Char → Char) :
    s.map f = String.ofList (s.toList.map f) := by
  rw [← String.toList_map, String.ofList_toList]

open Http

namespace Gateway

/-- The paths of all questions. -/
def paths : List String :=
  [Wire.realtimePath, Wire.aggregatePath, Wire.timeseriesPath, Wire.breakdownPath]

/-- Where a request for a path goes at the default address. -/
def defaultUrl (path : String) : Url :=
  ⟨"https", "", "plausible.io", none, "/" ++ path, none, none⟩

lemma parse_default {path : String} (h : path ∈ paths) :
    Url.parse ((Config.defaultBaseUrl : Text) ++ "/" ++ path) = .ok (defaultUrl path) := by
  simp only [paths, List.mem_cons, List.not_mem_nil, or_false] at h
  obtain rfl | rfl | rfl | rfl := h
  all_goals
    simp only [Url.parse, UrlParts.normalize, Host.normalize, String.map_eq_ofList]
    decide +kernel

lemma withQuery_default {path : String} (h : path ∈ paths) :
    (defaultUrl path).withQuery (some "") = .ok { defaultUrl path with query := some "" } := by
  simp only [paths, List.mem_cons, List.not_mem_nil, or_false] at h
  obtain rfl | rfl | rfl | rfl := h
  all_goals
    simp only [Url.withQuery, Url.rebuild, Url.parts, Url.authority, Url.location,
      UrlParts.normalize, Host.normalize, String.contains_char_eq, String.map_eq_ofList]
    decide +kernel

variable {config : Config} {path : String}

/-- At the default address only the key can be at fault. -/
lemma address_default (base : config.baseUrl = Config.defaultBaseUrl) (h : path ∈ paths) :
    address config path =
      match headerFault? config.authorization with
      | some fault => .error (.unencodable fault)
      | none => .ok (defaultUrl path) := by
  have hscheme : (defaultUrl path).scheme ≠ "" := by
    show "https" ≠ ""
    decide
  have hhost : (defaultUrl path).hostName = .ok "plausible.io" := by
    have hprefix : ¬ "plausible.io".startsWith "xn--" := by decide +kernel
    exact if_neg hprefix
  have htarget : (defaultUrl path).target = .ok (defaultUrl path) := rfl
  rw [address, Config.endpoint, base, parse_default h]
  simp only [Except.mapError, Except.ok_bind, if_pos hscheme, hhost, htarget]
  cases headerFault? config.authorization <;> rfl

/-- **Requests to the default address.**  One is built for any strings under distinct names that are
not too long altogether, with any key that fits into its header. -/
theorem request_at_default {pairs : List (String × String)}
    (base : config.baseUrl = Config.defaultBaseUrl)
    (key : headerFault? config.authorization = none) (h : path ∈ paths)
    (distinct : (pairs.map Prod.fst).Nodup)
    (length : (Form.encode pairs).length ≤ UrlParts.maxLength) :
    request config path (rawParams (texts pairs)) = .ok
      ⟨{ defaultUrl path with query := some (Form.encode pairs) }, config.authorization,
        Wire.json⟩ := by
  have hnames : (texts pairs).map Prod.fst = pairs.map Prod.fst := by simp [texts]
  rw [request_rawParams config path _ (hnames ▸ distinct), address_default base h, key]
  have hquery : ∀ c ∈ (Form.encode pairs).toList, UrlParts.inQuery c :=
    fun c hc => Form.inQuery_of_mem_encode hc
  have hurl := (Url.withQuery_eq_ok_iff hquery).mpr ⟨length, _, withQuery_default h, rfl⟩
  have hlocation : ({ defaultUrl path with query := some (Form.encode pairs) }).location =
      "plausible.io" := by
    have hcolon : ¬ "plausible.io".contains ':' := by
      rw [String.contains_char_eq]
      decide
    show (if "plausible.io".contains ':' then "[plausible.io]" else "plausible.io") ++ "" = _
    rw [if_neg hcolon]
    rfl
  have hfault : headerFault? "plausible.io" = none := by decide +kernel
  exact requestAt_eq_ok_iff.mpr ⟨pairs, rfl, _, hurl, hlocation ▸ hfault, rfl⟩

/-- A key that does not fit into its header is at fault before any parameter is looked at. -/
lemma request_at_default_of_fault {params : RawParams} {fault : Text.Unencodable}
    (base : config.baseUrl = Config.defaultBaseUrl)
    (key : headerFault? config.authorization = some fault) (h : path ∈ paths) :
    request config path params = .error (.unencodable fault) := by
  rw [request, address_default base h, key]
  rfl

end Gateway

end SiteStats
