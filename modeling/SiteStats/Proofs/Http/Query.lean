import Mathlib.Data.List.TakeWhile
import SiteStats.Proofs.Common
import SiteStats.Proofs.Http.Form

/-!
# The query of an address

To put a query behind an address is to read all of its parts once more, so that it may fail for each
of them.  But the parts are read independently of each other: a query of which nothing has to be
escaped can only be too long, and apart from that the result is the one for an empty query
(`Url.withQuery_eq_ok_iff`).  Where the fault lies when there is one is left open, as a long query
hides the faults of what comes behind it.
-/

namespace SiteStats.Http

open UrlParts

namespace UrlParts

/-- A text that may be a part of an address: it is not too long and holds no control character. -/
def Fits (text : Text) : Prop :=
  text.toList.length ≤ maxLength ∧ control? text = none

lemma partFault?_eq_none_iff {parts : UrlParts} :
    parts.partFault? = none ↔ Fits parts.scheme ∧ Fits parts.authority ∧ Fits parts.path ∧
      Fits (parts.query.getD "") ∧ Fits (parts.fragment.getD "") := by
  have hpart : ∀ (text : Text) (long : UrlFault) (control : Char × Nat → UrlFault),
      (if text.toList.length > maxLength then some long else (control? text).map control) = none ↔
        Fits text := by
    intro text long control
    by_cases hlong : text.toList.length > maxLength
    · simp [hlong, Fits, Nat.not_le_of_gt hlong]
    · simp [hlong, Fits, Nat.le_of_not_gt hlong]
  simp [partFault?, hpart]

/-- Of a text that may stand in a query only the length can be a fault. -/
lemma fits_iff_of_inQuery {text : String} (h : ∀ c ∈ text.toList, inQuery c) :
    Fits text ↔ text.length ≤ maxLength := by
  have hvisible : ∀ point ∈ (text : Text).toList,
      (point.char?.all isVisible || decide (0x80 ≤ point.toNat)) = true := by
    intro point hpoint
    obtain ⟨c, hc, rfl⟩ := List.mem_map.mp hpoint
    have hquery := h c hc
    rw [inQuery, Bool.and_eq_true] at hquery
    simp [Point.char?, hquery.1]
  have hfront := List.takeWhile_eq_self_iff.mpr hvisible
  have hcontrol : control? text = none := by
    rw [control?, hfront, List.drop_length]
    rfl
  rw [Fits, and_iff_left hcontrol, Text.toList_ofString, List.length_map, String.length_toList]

lemma normalize_query (parts : UrlParts) (text : String) :
    ({ parts with query := some (text : Text) } : UrlParts).normalize =
      ({ parts with query := some "" } : UrlParts).normalize.map fun url =>
        { url with query := some (Percent.escape inQuery text) } := by
  have hescaped : ∀ s : String, escaped? inQuery (some s) = .ok (some (Percent.escape inQuery s)) :=
    fun s => by simp [escaped?, escaped, Percent.escapeText, Except.mapError, Except.map]
  simp only [normalize]
  cases escaped inUser (splitAuthority parts.authority).1 with
  | error fault => rfl
  | ok user =>
    cases (Host.normalize (splitAuthority parts.authority).2.1).mapError UrlFault.host with
    | error fault => rfl
    | ok host =>
      cases readNumber (splitAuthority parts.authority).2.2 parts.scheme with
      | error fault => rfl
      | ok number =>
        simp only [Except.ok_bind]
        split
        · rfl
        · cases escaped inPath _ with
          | error fault => rfl
          | ok path =>
            cases escaped? inFragment parts.fragment with
            | error fault => simp only [hescaped, Except.ok_bind, Except.error_bind]; rfl
            | ok fragment => simp only [hescaped, Except.ok_bind, Except.pure_eq]; rfl

end UrlParts

/-- Parts without a fault are read in their normal form. -/
lemma Url.rebuild_eq_ok_iff {parts : UrlParts} {url : Url} :
    Url.rebuild parts = .ok url ↔ parts.partFault? = none ∧ parts.normalize = .ok url := by
  cases hfault : parts.partFault? <;> simp [Url.rebuild, hfault]

/-- **The query of an address.**  A query that needs no escapes can be put behind an address exactly
when an empty one can and it is not too long itself; and it then stands there as it is. -/
theorem Url.withQuery_eq_ok_iff {url result : Url} {text : String}
    (h : ∀ c ∈ text.toList, inQuery c) :
    url.withQuery (some text) = .ok result ↔ text.length ≤ maxLength ∧
      ∃ bare, url.withQuery (some "") = .ok bare ∧ { bare with query := some text } = result := by
  have hempty : Fits "" := ⟨Nat.zero_le _, rfl⟩
  have hput : ∀ query : String,
      url.withQuery (some query) = rebuild { url.parts with query := some (query : Text) } :=
    fun _ => rfl
  rw [hput, hput, rebuild_eq_ok_iff, partFault?_eq_none_iff, normalize_query,
    Percent.escape_of_safe h, Except.map_eq_ok_iff]
  simp only [rebuild_eq_ok_iff, partFault?_eq_none_iff, Option.getD_some, hempty, true_and,
    fits_iff_of_inQuery h]
  constructor
  · rintro ⟨⟨hscheme, hauthority, hpath, hlength, hfragment⟩, bare, hbare, hresult⟩
    exact ⟨hlength, bare, ⟨⟨hscheme, hauthority, hpath, hfragment⟩, hbare⟩, hresult⟩
  · rintro ⟨hlength, bare, ⟨⟨hscheme, hauthority, hpath, hfragment⟩, hbare⟩, hresult⟩
    exact ⟨⟨hscheme, hauthority, hpath, hlength, hfragment⟩, bare, hbare, hresult⟩

end SiteStats.Http
