import SiteStats.Proofs.Config.Acceptance
import SiteStats.Proofs.Gateway.DefaultAddress
import SiteStats.Proofs.Gateway.Delivery
import SiteStats.Question

/-!
# One slash behind the base address

However many slashes the base address is given with, one slash stands between it and the path that
is asked for (`Config.readAt_normalised`).  Two things come together here: the configuration keeps
the address without the slashes at its end, so that those which are given make no difference, and
the gateway puts exactly one behind it.  An address of nothing but slashes is no exception to the
first, though nothing is left of it.
-/

namespace SiteStats

open Http

namespace Config

/-- What is read from the given fields with this address in place of theirs. -/
def readAt (fields : Fields) (url : Text) : Except Failure Config :=
  read (.object (fields.set "base_url" (.text url)))

/-- A number of slashes. -/
def slashes (n : Nat) : Text :=
  ⟨List.replicate n (.char '/')⟩

lemma withoutSlashes_of_getLast? {base : Text} (h : base.toList.getLast? ≠ some (.char '/')) :
    withoutSlashes base = base :=
  withoutSlashes_eq_iff.mpr ⟨⟨0, by simp⟩, h⟩

lemma withoutSlashes_append (url : Text) (n : Nat) :
    withoutSlashes (url ++ slashes n) = withoutSlashes url := by
  obtain ⟨⟨run, hurl⟩, hlast⟩ := withoutSlashes_eq_iff.mp (rfl : withoutSlashes url = _)
  refine withoutSlashes_eq_iff.mpr ⟨⟨run + n, ?_⟩, hlast⟩
  rw [Text.toList_append, hurl, List.append_assoc, slashes, List.replicate_append_replicate]

/-- Between the last code point of an address and a path that does not begin with a slash stands
one. -/
lemma one_slash {base path : Text} {before : List Point} {last : Point}
    (hbase : base.toList = before ++ [last]) (hpath : path.toList.head? ≠ some (.char '/')) :
    ∃ behind, (base ++ "/" ++ path).toList = before ++ last :: behind ∧
      behind.takeWhile (· == .char '/') = [.char '/'] ∧
      behind.dropWhile (· == .char '/') = path.toList := by
  have hdrop : path.toList.dropWhile (· == .char '/') = path.toList := dropWhile_slash hpath
  have htake : path.toList.takeWhile (· == .char '/') = [] := by
    have hwhole := List.takeWhile_append_dropWhile (p := (· == Point.char '/')) (l := path.toList)
    rwa [hdrop, List.append_left_eq_self] at hwhole
  refine ⟨.char '/' :: path.toList, ?_, ?_, ?_⟩
  · rw [Text.toList_append, Text.toList_append, hbase, List.append_assoc, List.append_assoc]
    rfl
  · rw [List.takeWhile_cons_of_pos (by simp), htake]
  · rw [List.dropWhile_cons_of_pos (by simp), hdrop]

/-- Every address is accepted in place of another, and nothing but the address changes. -/
lemma readAt_eq_ok {fields : Fields} {config : Config} (h : read (.object fields) = .ok config)
    (url : Text) : readAt fields url = .ok { config with baseUrl := withoutSlashes url } := by
  obtain ⟨hkey, hsite, -, htimeout⟩ := read_eq_ok_iff.mp h
  have hothers : ∀ name : String, name ≠ "base_url" →
      Fields.lookup (fields.set "base_url" (.text url)) name = fields.lookup name := by
    intro name hname
    rw [Fields.lookup_set, if_neg (mt Text.ofString_inj.mp hname)]
  have hurl : Fields.lookup (fields.set "base_url" (.text url)) "base_url" = some (.text url) := by
    rw [Fields.lookup_set, if_pos rfl]
  refine read_eq_ok_iff.mpr ⟨?_, ?_, ?_, ?_⟩
  · rwa [Schema.Checked.required, hothers _ (by decide)]
  · rwa [Schema.Checked.required, hothers _ (by decide)]
  · rw [Schema.Checked.defaulted, hurl]
    rfl
  · rwa [Schema.Checked.defaulted, hothers _ (by decide)]

end Config

namespace Gateway

/-- What goes to an endpoint: it is noted down first, and if a request is sent then to the address
that the endpoint stands for, with a query put behind. -/
structure Addresses (exchange : Exchange Value) (endpoint : Text) : Prop where
  noted : exchange.log.head? = some ⟨.debug, .gateway, "GET " ++ endpoint⟩
  sent : ∀ request, exchange.request = some request → ∃ url target query,
    Url.parse endpoint = .ok url ∧ url.target = .ok target ∧
      target.withQuery query = .ok request.url

lemma address_eq_ok {config : Config} {path : String} {target : Url}
    (h : address config path = .ok target) :
    ∃ url, Url.parse (config.endpoint path) = .ok url ∧ url.target = .ok target := by
  obtain ⟨url, hparse, hrest⟩ := Except.bind_eq_ok_iff.mp h
  refine ⟨url, Except.mapError_eq_ok_iff.mp hparse, ?_⟩
  -- the name of the host is looked at in between, of which nothing is kept
  by_cases hscheme : url.scheme ≠ ""
  on_goal 1 =>
    rw [if_pos hscheme] at hrest
    obtain ⟨_, -, hrest⟩ := Except.bind_eq_ok_iff.mp hrest
  on_goal 2 => rw [if_neg hscheme] at hrest
  all_goals
    obtain ⟨found, hfound, hkey⟩ := Except.bind_eq_ok_iff.mp hrest
    cases hfault : headerFault? config.authorization with
    | some fault =>
      rw [hfault] at hkey
      cases hkey
    | none =>
      rw [hfault] at hkey
      cases hkey
      exact Except.mapError_eq_ok_iff.mp hfound

/-- Whatever is asked for goes to the endpoint of its path. -/
lemma addresses_get [Json.Room] (config : Config) (transport : Transport) (path : String)
    (params : RawParams) : Addresses (get config transport path params) (config.endpoint path) where
  noted := by
    simp only [get]
    cases (allParams config params).mapM fun param =>
        (Failure.written param.2 Value.shown).map (param.1, ·) with
    | error failure => rfl
    | ok shown => cases request config path (allParams config params) <;> rfl
  sent request hsent := by
    obtain ⟨-, hrequest⟩ := request_get_eq_some_iff.mp hsent
    obtain ⟨target, haddress, hat⟩ := Except.bind_eq_ok_iff.mp hrequest
    obtain ⟨url, hparse, htarget⟩ := address_eq_ok haddress
    obtain ⟨pairs, -, found, hquery, -, rfl⟩ := requestAt_eq_ok_iff.mp hat
    exact ⟨url, target, _, hparse, htarget, hquery⟩

end Gateway

namespace Config

/-- **One slash.**  Whatever address is given, the configuration keeps the part of it before a run
of slashes at its end, and that part does not end in a slash itself.  Given again it is kept as it
is, and slashes put behind the address change nothing, so that the same endpoint is asked for.  In
this one slash stands between the last character of the address that is none and a path that does
not begin with one, as the path of no question does. -/
theorem readAt_normalised [Json.Room] {fields : Fields} {config : Config}
    (h : read (.object fields) = .ok config) (url : Text) :
    ∃ (base : Text) (run : Nat),
      url.toList = base.toList ++ List.replicate run (.char '/') ∧
      base.toList.getLast? ≠ some (.char '/') ∧
      let built : Config := { config with baseUrl := base }
      readAt fields url = .ok built ∧ readAt fields base = .ok built ∧
      (∀ n, readAt fields (url ++ slashes n) = .ok built) ∧
      (∀ transport (path : String) params,
        Gateway.Addresses (Gateway.get built transport path params) (base ++ "/" ++ path)) ∧
      ((∃ point ∈ url.toList, point ≠ .char '/') → ∃ before last, last ≠ .char '/' ∧
        url.toList = before ++ last :: List.replicate run (.char '/') ∧
        ∀ path : String, path.toList.head? ≠ some '/' → ∃ behind,
          (base ++ "/" ++ path).toList = before ++ last :: behind ∧
            behind.takeWhile (· == .char '/') = [.char '/'] ∧
            behind.dropWhile (· == .char '/') = (path : Text).toList) ∧
      ∀ question : Question, question.path.toList.head? ≠ some '/' := by
  obtain ⟨⟨run, hurl⟩, hlast⟩ := withoutSlashes_eq_iff.mp (rfl : withoutSlashes url = _)
  generalize hbase : withoutSlashes url = base at hurl hlast
  refine ⟨base, run, hurl, hlast, ?_, ?_, fun n => ?_, fun transport path params => ?_, ?_, ?_⟩
  · rw [readAt_eq_ok h, hbase]
  · rw [readAt_eq_ok h, withoutSlashes_of_getLast? hlast]
  · rw [readAt_eq_ok h, withoutSlashes_append, hbase]
  · exact Gateway.addresses_get ..
  · rintro ⟨point, hpoint, hne⟩
    have hfilled : base.toList ≠ [] := by
      intro hempty
      rw [hurl, hempty, List.nil_append] at hpoint
      exact hne (List.eq_of_mem_replicate hpoint)
    obtain ⟨before, last, hsplit⟩ := (List.eq_nil_or_concat' base.toList).resolve_left hfilled
    have hother : last ≠ .char '/' := by simpa [hsplit] using hlast
    refine ⟨before, last, hother, ?_, fun path hpath => one_slash hsplit ?_⟩
    · rw [hurl, hsplit, List.append_assoc, List.singleton_append]
    · rw [Text.toList_ofString, List.head?_map]
      simpa using hpath
  · intro question
    have hmem : question.path ∈ Gateway.paths := by
      cases question <;> simp [Question.path, Gateway.paths]
    have hpaths : ∀ path ∈ Gateway.paths, path.toList.head? ≠ some '/' := by decide +kernel
    exact hpaths _ hmem

/-- An address with a path of its own and two slashes at its end, and a third one behind. -/
theorem readAt_normalised_below_path :
    let _room : Json.Room := ⟨900⟩
    let fields : Fields := [("base_url", .text "x"), ("site_id", .text "site"),
      ("api_key", .text "key")]
    let config : Config := ⟨"key", "site", "http://host/stats", 30⟩
    read (.object fields) = .ok { config with baseUrl := "x" } ∧
      readAt fields "http://host/stats//" = .ok config ∧
      readAt fields "http://host/stats///" = .ok config ∧
      ∀ transport params,
        Gateway.Addresses (Gateway.get config transport Wire.aggregatePath params)
          "http://host/stats/api/v1/stats/aggregate" := by
  intro _room fields config
  have hread : read (.object fields) = .ok { config with baseUrl := "x" } :=
    read_eq_ok_iff.mpr ⟨rfl, rfl, rfl, rfl⟩
  obtain ⟨base, run, hurl, hlast, hgiven, -, hmore, haddress, -⟩ :=
    readAt_normalised hread "http://host/stats//"
  obtain rfl : Text.ofString "http://host/stats" = base := by
    rw [← withoutSlashes_eq_iff.mpr ⟨⟨run, hurl⟩, hlast⟩]
    decide +kernel
  exact ⟨hread, hgiven, hmore 1, fun transport params => haddress transport _ params⟩

end Config

end SiteStats
