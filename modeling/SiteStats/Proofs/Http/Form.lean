import Mathlib.Data.List.Basic
import SiteStats.Http.Encoding
import SiteStats.Http.Url
import SiteStats.Proofs.Text.Joined

/-!
# Form data is read back

A list of pairs that has been written as form data is what is read from it (`Form.decode?_encode`).
That goes in two steps.  A name or a value comes back by itself: of its characters a few stand for
themselves, and the others are escaped octet by octet, so that the octets are those of the text.
The plus sign is no obstacle, because one that belongs to a text is escaped as well.  And what has
been joined is split at the same places, as neither the ampersand nor the equals sign occurs in
what is written for a name or a value.

What is written also fits into the query of an address as it is, without another escape on top of
the first (`Form.inQuery_of_mem_encode`).
-/

namespace SiteStats.Http

open UrlParts

/-! ## Percent escapes -/

namespace Percent

lemma hexDigit_spec : ∀ n < 16, Json.hexDigit? (hexDigit n) = some n ∧
    isUnreserved (hexDigit n) := by
  decide

lemma unreserved_spec {c : Char} (h : isUnreserved c) :
    inQuery c ∧ c ≠ ' ' ∧ c ≠ '+' ∧ c ≠ '%' ∧ c ≠ '&' ∧ c ≠ '=' := by
  have hascii : c.toNat < 128 := by
    simp only [isUnreserved, Bool.or_eq_true, Bool.and_eq_true, decide_eq_true_eq,
      beq_iff_eq] at h
    obtain ((((((h | h) | h) | rfl) | rfl) | rfl) | rfl) := h
    any_goals decide
    all_goals exact Nat.lt_of_le_of_lt h.2 (by decide)
  have hall : ∀ n < 128, isUnreserved (Char.ofNat n) → inQuery (Char.ofNat n) ∧
      Char.ofNat n ≠ ' ' ∧ Char.ofNat n ≠ '+' ∧ Char.ofNat n ≠ '%' ∧ Char.ofNat n ≠ '&' ∧
        Char.ofNat n ≠ '=' := by
    decide
  have hc := hall c.toNat hascii
  rw [Char.ofNat_toNat] at hc
  exact hc h

lemma octets_cons_of_ne {c : Char} (h : c ≠ '%') (rest : List Char) :
    octets (c :: rest) = String.utf8EncodeChar c ++ octets rest := by
  rw [octets]
  rintro a b rest' rfl
  exact absurd rfl h

lemma octets_octet_append (b : UInt8) (rest : List Char) :
    octets (octet b ++ rest) = b :: octets rest := by
  have hhigh := hexDigit_spec (b.toNat / 16) (by have := b.toNat_lt; omega)
  have hlow := hexDigit_spec (b.toNat % 16) (by omega)
  simp only [octet, List.cons_append, List.nil_append, octets, hhigh.1, hlow.1]
  rw [Nat.div_add_mod, UInt8.ofNat_toNat]

lemma mem_octet {b : UInt8} {c : Char} (h : c ∈ octet b) : c = '%' ∨ isUnreserved c := by
  simp only [octet, List.mem_cons, List.not_mem_nil, or_false] at h
  obtain rfl | rfl | rfl := h
  · exact .inl rfl
  · exact .inr (hexDigit_spec _ (by have := b.toNat_lt; omega)).2
  · exact .inr (hexDigit_spec _ (by omega)).2

lemma octets_flatMap_octet_append (bytes : List UInt8) (rest : List Char) :
    octets (bytes.flatMap octet ++ rest) = bytes ++ octets rest := by
  induction bytes with
  | nil => rfl
  | cons b bytes ih =>
    rw [List.flatMap_cons, List.append_assoc, octets_octet_append, ih, List.cons_append]

/-- A text is read from the octets of its characters. -/
lemma unescape?_eq_some {s : List Char} {text : String}
    (h : octets s = text.toList.flatMap String.utf8EncodeChar) : unescape? s = some text := by
  have hbytes : (octets s).toByteArray = text.toList.utf8Encode := by
    rw [h]
    rfl
  rw [unescape?, hbytes, List.utf8Decode?_utf8Encode, Option.map_some, String.ofList_toList]

lemma escape_of_safe {safe : Char → Bool} {s : String} (h : ∀ c ∈ s.toList, safe c) :
    escape safe s = s := by
  have hsafe : s.toList.flatMap (escapeChar safe) = s.toList.flatMap fun c => [c] := by
    refine List.flatMap_congr fun c hc => ?_
    rw [escapeChar, if_pos (h c hc)]
  rw [escape, hsafe, List.flatMap_singleton', String.ofList_toList]

end Percent

namespace Form

open Percent

/-! ## Names and values -/

/-- A blank in place of a plus sign, as it is read. -/
def plain (c : Char) : Char :=
  if c = '+' then ' ' else c

lemma map_plain_octets (bytes : List UInt8) :
    (bytes.flatMap octet).map plain = bytes.flatMap octet := by
  have hplain : ∀ c ∈ bytes.flatMap octet, plain c = c := by
    intro c hc
    obtain ⟨b, -, hc⟩ := List.mem_flatMap.mp hc
    rw [plain, if_neg]
    obtain rfl | hsafe := mem_octet hc
    · decide
    · exact (unreserved_spec hsafe).2.2.1
  rw [List.map_congr_left hplain, List.map_id']

lemma octets_encodeChar_append (c : Char) (rest : List Char) :
    octets ((encodeChar c).map plain ++ rest) = String.utf8EncodeChar c ++ octets rest := by
  by_cases hblank : c = ' '
  · subst hblank
    exact octets_cons_of_ne (by decide) rest
  · rw [encodeChar, if_neg hblank, escapeChar]
    split
    next hsafe =>
      obtain ⟨-, -, hplus, hpercent, -⟩ := unreserved_spec hsafe
      rw [List.map_singleton, plain, if_neg hplus]
      exact octets_cons_of_ne hpercent rest
    next => rw [map_plain_octets, octets_flatMap_octet_append]

lemma decodePart?_encodePart (s : String) : decodePart? (encodePart s) = some s := by
  refine unescape?_eq_some ?_
  change octets ((encodePart s).map plain) = _
  rw [encodePart]
  induction s.toList with
  | nil => rfl
  | cons c chars ih =>
    rw [List.flatMap_cons, List.map_append, octets_encodeChar_append, ih, List.flatMap_cons]

/-- What is written for a name or a value may stand in a query, and is split nowhere. -/
lemma encodePart_spec {s : String} {c : Char} (h : c ∈ encodePart s) :
    inQuery c ∧ c ≠ '&' ∧ c ≠ '=' := by
  have hsafe : isUnreserved c → inQuery c ∧ c ≠ '&' ∧ c ≠ '=' := fun hsafe =>
    have ⟨hquery, _, _, _, hand, heq⟩ := unreserved_spec hsafe
    ⟨hquery, hand, heq⟩
  obtain ⟨source, -, h⟩ := List.mem_flatMap.mp h
  rw [encodeChar] at h
  split at h
  next =>
    rw [List.mem_singleton.mp h]
    decide
  next =>
    rw [escapeChar] at h
    split at h
    next hsource =>
      rw [List.mem_singleton.mp h] at hsafe ⊢
      exact hsafe hsource
    next =>
      obtain ⟨b, -, h⟩ := List.mem_flatMap.mp h
      obtain rfl | hc := mem_octet h
      · decide
      · exact hsafe hc

/-! ## Pairs -/

lemma decodePair?_encodePair (pair : String × String) :
    decodePair? (encodePair pair) = some pair := by
  have hname : ∀ c ∈ encodePart pair.1, (c != '=') = true := fun c hc => by
    simp [(encodePart_spec hc).2.2]
  rw [decodePair?, encodePair, List.dropWhile_append_of_pos hname,
    List.takeWhile_append_of_pos hname]
  simp [decodePart?_encodePart]

/-- What is written for a pair may stand in a query, and no ampersand is in it. -/
lemma encodePair_spec {pair : String × String} {c : Char} (h : c ∈ encodePair pair) :
    inQuery c ∧ c ≠ '&' := by
  rw [encodePair, List.mem_append, List.mem_cons] at h
  obtain h | rfl | h := h
  · exact ⟨(encodePart_spec h).1, (encodePart_spec h).2.1⟩
  · decide
  · exact ⟨(encodePart_spec h).1, (encodePart_spec h).2.1⟩

/-- What is written for a list of pairs may stand in a query. -/
lemma inQuery_of_mem_encode {pairs : List (String × String)} {c : Char}
    (h : c ∈ (encode pairs).toList) : inQuery c := by
  rw [encode, String.toList_ofList] at h
  obtain h | ⟨part, hpart, h⟩ := Text.mem_of_mem_intercalate h
  · rw [List.mem_singleton.mp h]
    decide
  · obtain ⟨pair, -, rfl⟩ := List.mem_map.mp hpart
    exact (encodePair_spec h).1

lemma mapM_decodePair? (pairs : List (String × String)) :
    (pairs.map encodePair).mapM decodePair? = some pairs := by
  induction pairs with
  | nil => rfl
  | cons pair pairs ih =>
    rw [List.map_cons, List.mapM_cons, decodePair?_encodePair, ih]
    rfl

/-- **Form data is read back.**  The pairs come back with the same names and values and in the same
order, whatever their texts. -/
theorem decode?_encode (pairs : List (String × String)) : decode? (encode pairs) = some pairs := by
  cases pairs with
  | nil => rfl
  | cons pair pairs =>
    have hsplit : (encode (pair :: pairs)).toList.splitOn '&' = (pair :: pairs).map encodePair := by
      rw [encode, String.toList_ofList]
      refine List.splitOn_intercalate '&' ?_ (by simp)
      intro part hpart hamp
      obtain ⟨pair, -, rfl⟩ := List.mem_map.mp hpart
      exact (encodePair_spec hamp).2 rfl
    have hne : encode (pair :: pairs) ≠ "" := by
      intro hempty
      rw [hempty] at hsplit
      simp [encodePair] at hsplit
    rw [decode?, if_neg hne, hsplit, mapM_decodePair?]

end Form

end SiteStats.Http
