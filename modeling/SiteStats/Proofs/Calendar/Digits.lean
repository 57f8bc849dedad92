import Mathlib.Algebra.Order.Ring.Nat
import SiteStats.Calendar.Reading
import SiteStats.Proofs.Calendar.Text

/-!
# Digits in a fixed width

A number below a power of ten has a text of a fixed width, with zeros in front (`lastDigits`).  This
is the form in which a reader takes digits, and in which texts are in order exactly when the numbers
are (`lastDigits_lt_iff`); the texts of days have this form for months and days always, and for
years from 1000 on. The induction is from the last digit, which is how decimal digits come off a
number; for the order this is the wrong end, and what makes up for it is that the fronts of two such
texts have the same length (`append_lt_append_iff`).
-/

namespace SiteStats

/-! ## Texts of a fixed width -/

/-- The last digits of a number, as many as are asked for. -/
def lastDigits : Nat → Nat → List Char
  | 0, _ => []
  | width + 1, n => lastDigits width (n / 10) ++ [Nat.digitChar (n % 10)]

@[simp] lemma length_lastDigits (width n : Nat) : (lastDigits width n).length = width := by
  induction width generalizing n with
  | zero => rfl
  | succ width ih => rw [lastDigits, List.length_append, ih, List.length_singleton]

lemma isDigit_digitChar {n : Nat} (h : n < 10) : Numeral.isDigit (Nat.digitChar n) = true := by
  revert n
  decide

lemma digitValue_digitChar {n : Nat} (h : n < 10) : Numeral.digitValue (Nat.digitChar n) = n := by
  revert n
  decide

lemma isDigit_of_mem_lastDigits {width n : Nat} {c : Char} (h : c ∈ lastDigits width n) :
    Numeral.isDigit c = true := by
  induction width generalizing n with
  | zero => cases h
  | succ width ih =>
    rw [lastDigits, List.mem_append, List.mem_singleton] at h
    obtain hfront | rfl := h
    · exact ih hfront
    · exact isDigit_digitChar (Nat.mod_lt n (by decide))

lemma lastDigits_zero (width : Nat) : lastDigits width 0 = List.replicate width '0' := by
  induction width with
  | zero => rfl
  | succ width ih => rw [lastDigits, Nat.zero_div, ih, List.replicate_succ']; rfl

/-- What is left of a number when its last digit comes off fits into one digit less. -/
lemma div_ten_lt {width n : Nat} (h : n < 10 ^ (width + 1)) : n / 10 < 10 ^ width := by
  rw [Nat.pow_succ] at h
  exact Nat.div_lt_of_lt_mul (Nat.mul_comm _ 10 ▸ h)

/-- Digits that are filled up with zeros to a width in which they fit. -/
lemma replicate_append_toDigits {width n : Nat} (hwidth : 0 < width) (h : n < 10 ^ width) :
    List.replicate (width - (Nat.toDigits 10 n).length) '0' ++ Nat.toDigits 10 n =
      lastDigits width n := by
  induction width generalizing n with
  | zero => cases hwidth
  | succ width ih =>
    rw [lastDigits]
    by_cases hsmall : n < 10
    · rw [Nat.toDigits_of_lt_base hsmall, Nat.div_eq_of_lt hsmall, Nat.mod_eq_of_lt hsmall,
        lastDigits_zero, List.length_singleton, Nat.add_sub_cancel]
    · have hle : 10 ≤ n := Nat.le_of_not_lt hsmall
      have hpos : 0 < width := by
        refine Nat.pos_of_ne_zero ?_
        rintro rfl
        omega
      rw [Nat.toDigits_of_base_le (by decide) hle, List.length_append, List.length_singleton,
        Nat.add_sub_add_right, ← List.append_assoc, ih hpos (div_ten_lt h)]

/-- A number with as many digits as the width has no zeros in front. -/
lemma toDigits_eq_lastDigits {width n : Nat} (hlow : 10 ^ width ≤ n)
    (hhigh : n < 10 ^ (width + 1)) :
    Nat.toDigits 10 n = lastDigits (width + 1) n := by
  have hlength : width + 1 - (Nat.toDigits 10 n).length = 0 := by
    cases width with
    | zero => exact Nat.sub_eq_zero_of_le Nat.length_toDigits_pos
    | succ width =>
      have hlong := mt (Nat.length_toDigits_le_iff (n := n) (b := 10) (by decide) width.succ_pos).mp
        (Nat.not_lt_of_le hlow)
      omega
  have hfilled := replicate_append_toDigits width.succ_pos hhigh
  rwa [hlength, List.replicate_zero, List.nil_append] at hfilled

/-! ## Order -/

/-- Texts with fronts of the same length are compared by their fronts first. -/
lemma append_lt_append_iff {as bs cs ds : List Char} (h : as.length = bs.length) :
    as ++ cs < bs ++ ds ↔ as < bs ∨ as = bs ∧ cs < ds := by
  induction as generalizing bs with
  | nil =>
    obtain rfl := List.eq_nil_of_length_eq_zero h.symm
    simp
  | cons a as ih =>
    cases bs with
    | nil => cases h
    | cons b bs =>
      rw [List.cons_append, List.cons_append, List.cons_lt_cons_iff, List.cons_lt_cons_iff,
        ih (Nat.succ.inj h), List.cons.injEq]
      tauto

lemma digitChar_lt_iff :
    ∀ m < 10, ∀ n < 10, Nat.digitChar m < Nat.digitChar n ↔ m < n := by
  decide

lemma lastDigits_inj {width m n : Nat} (hm : m < 10 ^ width) (hn : n < 10 ^ width)
    (h : lastDigits width m = lastDigits width n) : m = n := by
  induction width generalizing m n with
  | zero => omega
  | succ width ih =>
    obtain ⟨hfront, hlast⟩ := List.append_inj h (by simp)
    have hrest : m / 10 = n / 10 := ih (div_ten_lt hm) (div_ten_lt hn) hfront
    have hdigit : m % 10 = n % 10 := by
      rw [← digitValue_digitChar (Nat.mod_lt m (by decide)), (List.cons.inj hlast).1,
        digitValue_digitChar (Nat.mod_lt n (by decide))]
    omega

/-- **Digits in order.**  Texts of the same width are in order as texts when their numbers are. -/
theorem lastDigits_lt_iff {width m n : Nat} (hm : m < 10 ^ width) (hn : n < 10 ^ width) :
    lastDigits width m < lastDigits width n ↔ m < n := by
  induction width generalizing m n with
  | zero =>
    have hirrefl : ¬ ([] : List Char) < [] := List.not_lt_nil _
    simp only [Nat.pow_zero] at hm hn
    exact iff_of_false hirrefl (by omega)
  | succ width ih =>
    have hlast : [Nat.digitChar (m % 10)] < [Nat.digitChar (n % 10)] ↔ m % 10 < n % 10 := by
      rw [List.cons_lt_cons_iff, digitChar_lt_iff _ (Nat.mod_lt m (by decide)) _
        (Nat.mod_lt n (by decide))]
      simp
    have hsame : lastDigits width (m / 10) = lastDigits width (n / 10) ↔ m / 10 = n / 10 :=
      ⟨lastDigits_inj (div_ten_lt hm) (div_ten_lt hn), fun h => by rw [h]⟩
    rw [lastDigits, lastDigits, append_lt_append_iff (by simp), ih (div_ten_lt hm) (div_ten_lt hn),
      hsame, hlast]
    omega

/-! ## Days -/

namespace Day

lemma toList_twoDigits {n : Nat} (h : n < 100) : (twoDigits n).toList = lastDigits 2 n := by
  rw [← replicate_append_toDigits (by decide) h, twoDigits, String.toList_append,
    Nat.toString_eq_ofList_toDigits, String.toList_ofList]
  by_cases hsmall : n < 10
  · rw [if_pos hsmall, Nat.toDigits_of_lt_base hsmall]
    rfl
  · have hlength : 2 ≤ (Nat.toDigits 10 n).length :=
      Nat.lt_of_not_le (mt (Nat.length_toDigits_le_iff (by decide) (by decide)).mp hsmall)
    rw [if_neg hsmall, Nat.sub_eq_zero_of_le hlength]
    rfl

lemma month_lt (d : Day) : d.month < 100 :=
  Nat.lt_of_le_of_lt d.valid.2.1.2 (by decide)

lemma daysInMonth_le (year month : Nat) : daysInMonth year month ≤ 31 := by
  unfold daysInMonth
  split_ifs <;> decide

lemma day_lt (d : Day) : d.day < 100 :=
  Nat.lt_of_le_of_lt (Nat.le_trans d.valid.2.2.2 (daysInMonth_le _ _)) (by decide)

lemma year_lt (d : Day) : d.year < 10 ^ 4 :=
  Nat.lt_of_le_of_lt d.valid.1.2 (by decide)

lemma toList_pushn (c : Char) (n : Nat) : ("".pushn c n).toList = List.replicate n c := by
  rw [String.pushn_eq_repeat_push]
  induction n with
  | zero => rfl
  | succ n ih => rw [Nat.repeat, String.toList_push, ih, List.replicate_succ']

lemma toList_isoText (d : Day) :
    d.isoText.toList =
      lastDigits 4 d.year ++ '-' :: (lastDigits 2 d.month ++ '-' :: lastDigits 2 d.day) := by
  rw [isoText, String.toList_append, toList_text, toList_pushn, toList_twoDigits d.month_lt,
    toList_twoDigits d.day_lt, ← List.append_assoc, ← String.length_toList,
    Nat.toString_eq_ofList_toDigits, String.toList_ofList,
    replicate_append_toDigits (by decide) d.year_lt]

/-- From the year 1000 on, the text of a day is the ISO text. -/
lemma text_eq_isoText {d : Day} (h : 1000 ≤ d.year) : d.text = d.isoText := by
  rw [← String.toList_inj, toList_isoText, toList_text, toList_twoDigits d.month_lt,
    toList_twoDigits d.day_lt, Nat.toString_eq_ofList_toDigits, String.toList_ofList,
    toDigits_eq_lastDigits h d.year_lt]

/-- **Texts of days in order.**  From the year 1000 on, one day comes before another when its text
does. -/
theorem before_iff_text_lt {d d' : Day} (h : 1000 ≤ d.year) (h' : 1000 ≤ d'.year) :
    d.Before d' ↔ d.text < d'.text := by
  have hyear := lastDigits_lt_iff d.year_lt d'.year_lt
  have hmonth : lastDigits 2 d.month < lastDigits 2 d'.month ↔ d.month < d'.month :=
    lastDigits_lt_iff d.month_lt d'.month_lt
  have hday : lastDigits 2 d.day < lastDigits 2 d'.day ↔ d.day < d'.day :=
    lastDigits_lt_iff d.day_lt d'.day_lt
  have hsame : ∀ {width m n : Nat}, m < 10 ^ width → n < 10 ^ width →
      (lastDigits width m = lastDigits width n ↔ m = n) :=
    fun hm hn => ⟨lastDigits_inj hm hn, fun heq => by rw [heq]⟩
  have hyears := hsame d.year_lt d'.year_lt
  have hmonths : lastDigits 2 d.month = lastDigits 2 d'.month ↔ d.month = d'.month :=
    hsame d.month_lt d'.month_lt
  have hmark : ¬ '-' < '-' := by decide
  rw [text_eq_isoText h, text_eq_isoText h', String.lt_iff, toList_isoText, toList_isoText,
    append_lt_append_iff (by simp), List.cons_lt_cons_iff, append_lt_append_iff (by simp),
    List.cons_lt_cons_iff, hyear, hyears, hmonth, hmonths, hday]
  simp only [hmark, Before, false_or, true_and]

end Day

end SiteStats
