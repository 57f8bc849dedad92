import SiteStats.Config.Basic
import SiteStats.Proofs.Schema.Acceptance

/-!
# Configurations that are accepted

What the check of a configuration accepts, field by field (`Config.read_eq_ok_iff`), and what is
therefore sure of every configuration that has been read (`Config.Usable`).  The address is the one
field that is not taken as it stands: a run of slashes at its end is left out, however long it is.
That the rest does not end in a slash, and that the run consists of nothing else, determines the
rest (`Config.withoutSlashes_eq_iff`); nothing below looks at how the slashes are cut off.

A default takes the place of an address or a time that is missing, and is not checked itself.  So
what is sure of every configuration (`Config.usable_of_read`) is a matter of the two defaults as
well.
-/

namespace SiteStats

/-! ## Single values -/

/-- A double above zero: infinity, or a positive number times a power of two. -/
inductive Binary64.AboveZero (x : Float) : Prop
  | infinite (view_eq : view x = .infinite false)
  | finite (mantissa : Nat) (exponent : Int) (view_eq : view x = .finite false mantissa exponent)
      (pos : 0 < mantissa)

lemma Binary64.isPositive_iff {x : Float} : isPositive x = true ↔ AboveZero x := by
  constructor
  · intro h
    rw [isPositive] at h
    split at h
    · cases h
    · next negative hview =>
      obtain rfl : negative = false := by simpa using h
      exact .infinite hview
    · next negative mantissa exponent hview =>
      obtain ⟨rfl, hmantissa⟩ : negative = false ∧ mantissa ≠ 0 := by simpa using h
      exact .finite mantissa exponent hview (Nat.pos_of_ne_zero hmantissa)
  · rintro (hview | ⟨mantissa, exponent, hview, hpos⟩)
    · simp [isPositive, hview]
    · simp [isPositive, hview, Nat.ne_of_gt hpos]

namespace Schema

lemma filledText_eq_ok_iff {value : Value} {s : String} :
    filledText value = .ok s ↔ value = .text s ∧ s ≠ "" := by
  rw [filledText, Except.bind_eq_ok_iff]
  constructor
  · rintro ⟨given, hgiven, hs⟩
    obtain ⟨held, rfl, hheld⟩ := whole_eq_ok_iff.mp hs
    split at hheld
    · simp at hheld
    · next hne =>
      obtain rfl : held = s := Except.ok.inj hheld
      exact ⟨text_eq_ok_iff.mp hgiven, hne⟩
  · rintro ⟨rfl, hne⟩
    exact ⟨s, rfl, whole_eq_ok_iff.mpr ⟨s, rfl, if_neg hne⟩⟩

lemma aboveZero_of_positiveDouble {value : Value} {x : Float} (h : positiveDouble value = .ok x) :
    Binary64.AboveZero x := by
  obtain ⟨given, -, hgiven⟩ := Except.bind_eq_ok_iff.mp h
  split at hgiven
  · next hpositive =>
    obtain rfl : given = x := Except.ok.inj hgiven
    exact Binary64.isPositive_iff.mp hpositive
  · simp at hgiven

end Schema

namespace Config

open Schema

/-! ## Slashes at the end -/

lemma dropWhile_slash {points : List Point} (h : points.head? ≠ some (.char '/')) :
    points.dropWhile (· == .char '/') = points := by
  cases points with
  | nil => rfl
  | cons first rest =>
    have hfirst : first ≠ .char '/' := by simpa using h
    exact List.dropWhile_cons_of_neg (by simpa using hfirst)

/-- An address without the slashes at its end is what stands before a run of slashes and does not
end in one itself. -/
theorem withoutSlashes_eq_iff {url base : Text} :
    withoutSlashes url = base ↔
      (∃ run, url.toList = base.toList ++ List.replicate run (.char '/')) ∧
        base.toList.getLast? ≠ some (.char '/') := by
  constructor
  · rintro rfl
    obtain ⟨cut, hurl, hcut⟩ := Text.trimEnd_append (· == .char '/') url.toList
    have hrun : cut = List.replicate cut.length (.char '/') :=
      List.eq_replicate_of_mem fun point hpoint => by simpa using hcut point hpoint
    refine ⟨⟨cut.length, by rw [← hrun]; exact hurl⟩, fun hlast => ?_⟩
    change (Text.trimEnd (· == .char '/') url.toList).getLast? = some (.char '/') at hlast
    have hne : Text.trimEnd (· == .char '/') url.toList ≠ [] := fun hnil => by simp [hnil] at hlast
    rw [List.getLast?_eq_some_getLast hne, Option.some_inj] at hlast
    have hkept := Text.trimEnd_getLast (· == .char '/') url.toList hne
    simp [hlast] at hkept
  · rintro ⟨⟨run, hurl⟩, hlast⟩
    have hslashes : ∀ point ∈ List.replicate run (Point.char '/'), (point == .char '/') = true := by
      simp
    rw [← List.head?_reverse] at hlast
    rw [withoutSlashes, Text.trimEnd, hurl, List.reverse_append, List.reverse_replicate,
      List.dropWhile_append_of_pos hslashes, dropWhile_slash hlast, List.reverse_reverse]

/-! ## Fields -/

lemma read_eq_ok_iff {fields : Fields} {config : Config} :
    read (.object fields) = .ok config ↔
      Checked.required "api_key" filledText fields = .ok config.apiKey ∧
        Checked.required "site_id" filledText fields = .ok config.siteId ∧
        Checked.defaulted "base_url" (defaultBaseUrl : Text)
            (fun v => (text v).map withoutSlashes) fields = .ok config.baseUrl ∧
        Checked.defaulted "timeout" defaultTimeout positiveDouble fields = .ok config.timeout := by
  rw [read, Schema.Checked.titled, Except.mapError_eq_ok_iff, check, Checked.combine_eq_ok_iff]
  constructor
  · rintro ⟨⟨apiKey, siteId⟩, ⟨baseUrl, timeout⟩, hfirst, hsecond, rfl⟩
    obtain ⟨hkey, hsite⟩ := Checked.both_eq_ok_iff.mp hfirst
    obtain ⟨hurl, htimeout⟩ := Checked.both_eq_ok_iff.mp hsecond
    exact ⟨hkey, hsite, hurl, htimeout⟩
  · rintro ⟨hkey, hsite, hurl, htimeout⟩
    exact ⟨(config.apiKey, config.siteId), (config.baseUrl, config.timeout),
      Checked.both_eq_ok_iff.mpr ⟨hkey, hsite⟩, Checked.both_eq_ok_iff.mpr ⟨hurl, htimeout⟩, rfl⟩

/-- What is sure of a configuration that can be used. -/
structure Usable (config : Config) : Prop where
  apiKey : config.apiKey ≠ ""
  siteId : config.siteId ≠ ""
  baseUrl : config.baseUrl.toList.getLast? ≠ some (.char '/')
  timeout : Binary64.AboveZero config.timeout

/-- Every configuration that has been read can be used. -/
theorem usable_of_read {value : Value} {config : Config} (h : read value = .ok config) :
    config.Usable := by
  obtain ⟨fields, rfl⟩ : ∃ fields : Fields, value = .object fields := by
    have hcheck : check value = .ok config := Except.mapError_eq_ok_iff.mp h
    cases value with
    | object fields => exact ⟨fields, rfl⟩
    | _ => simp [check] at hcheck
  obtain ⟨hkey, hsite, hurl, htimeout⟩ := read_eq_ok_iff.mp h
  obtain ⟨_, -, hkey⟩ := Checked.required_eq_ok_iff.mp hkey
  obtain ⟨_, -, hsite⟩ := Checked.required_eq_ok_iff.mp hsite
  refine ⟨(filledText_eq_ok_iff.mp hkey).2, (filledText_eq_ok_iff.mp hsite).2, ?_, ?_⟩
  · obtain ⟨-, hdefault⟩ | ⟨_, -, hurl⟩ := Checked.defaulted_eq_ok_iff.mp hurl
    · rw [← hdefault]
      decide +kernel
    · obtain ⟨url, -, hbase⟩ := Checked.map_eq_ok_iff.mp hurl
      exact (withoutSlashes_eq_iff.mp hbase).2
  · obtain ⟨-, hdefault⟩ | ⟨_, -, htimeout⟩ := Checked.defaulted_eq_ok_iff.mp htimeout
    · rw [← hdefault]
      exact Binary64.isPositive_iff.mp (by decide +kernel)
    · exact aboveZero_of_positiveDouble htimeout

end Config

end SiteStats
