import SiteStats.DateRange
import SiteStats.Proofs.Text.Joined

/-!
# The texts of days

A year is written with as many digits as it needs, so the texts of days differ in length and cannot
be compared place by place.  They determine the day all the same: digits are no marks, so each
number ends at the mark behind it (`append_inj_of_stops`), and a number is what its digits say, with
or without a zero in front (`ofDigitChars_twoDigits`).  A range is determined by its text for the
same reason.
-/

namespace SiteStats

open Text (append_inj_of_stops)

/-! ## Numbers -/

lemma isDigit_of_mem_toString {n : Nat} {c : Char} (h : c ∈ (toString n).toList) : c.isDigit := by
  rw [Nat.toString_eq_ofList_toDigits, String.toList_ofList] at h
  exact Nat.isDigit_of_mem_toDigits (by decide) (by decide) h

namespace Day

lemma isDigit_of_mem_twoDigits {n : Nat} {c : Char} (h : c ∈ (twoDigits n).toList) :
    c.isDigit := by
  rw [twoDigits, String.toList_append, List.mem_append] at h
  obtain hfront | hnumber := h
  · split at hfront
    · obtain rfl : c = '0' := by simpa using hfront
      decide
    · simp at hfront
  · exact isDigit_of_mem_toString hnumber

lemma toList_text (d : Day) :
    d.text.toList = (toString d.year).toList ++
      '-' :: ((twoDigits d.month).toList ++ '-' :: (twoDigits d.day).toList) := by
  simp [text]

/-- A digit is not one of the two marks. -/
lemma ne_of_isDigit {c : Char} (h : c.isDigit) : c ≠ '-' ∧ c ≠ ',' := by
  constructor
  · rintro rfl
    exact absurd h (by decide)
  · rintro rfl
    exact absurd h (by decide)

lemma comma_notMem_text (d : Day) : ',' ∉ d.text.toList := by
  have hdigit : ∀ c : Char, c.isDigit → ',' ≠ c := fun c hc => (ne_of_isDigit hc).2.symm
  rw [toList_text]
  intro hmem
  simp only [List.mem_append, List.mem_cons] at hmem
  rcases hmem with hyear | hmark | hmonth | hmark | hday
  · exact hdigit _ (isDigit_of_mem_toString hyear) rfl
  · exact absurd hmark (by decide)
  · exact hdigit _ (isDigit_of_mem_twoDigits hmonth) rfl
  · exact absurd hmark (by decide)
  · exact hdigit _ (isDigit_of_mem_twoDigits hday) rfl

end Day

/-! ## Ranges -/

namespace DateRange

lemma splitOn_text (range : DateRange) :
    range.text.toList.splitOn ',' = [range.first.text.toList, range.last.text.toList] := by
  have hjoined : range.text.toList =
      [','].intercalate [range.first.text.toList, range.last.text.toList] := by
    simp [text, Wire.listSeparator, List.intercalate_cons_cons]
  rw [hjoined]
  refine List.splitOn_intercalate ',' (fun part hpart => ?_) (by simp)
  obtain rfl | rfl := List.mem_pair.mp hpart
  · exact range.first.comma_notMem_text
  · exact range.last.comma_notMem_text

end DateRange

end SiteStats
