import SiteStats.Calendar.Day
import SiteStats.Proofs.Common

/-!
# The count of days

`Day.number` counts the days of the calendar, which is more than its definition shows: it is a sum
over months and years, with leap days in it.  The two facts that make it a count are that each month
begins where the one before ends (`daysBeforeMonth` is such a sum by definition) and that each year
does (`daysBeforeYear_succ`, the only place where the rules for leap years are looked at).  From
these it follows that the count goes up with the days (`before_iff_number_lt`), that no two days
have the same number (`number_inj`), and that the days that the calendar puts side by side are
numbered one after the other (`number_of_next?`, `number_of_prev?`).
-/

namespace SiteStats.Day

/-! ## Months and years -/

lemma daysBeforeMonth_mono (year : Nat) {month month' : Nat} (h : month ≤ month') :
    daysBeforeMonth year month ≤ daysBeforeMonth year month' := by
  induction h with
  | refl => exact Nat.le_refl _
  | step _ ih => exact Nat.le_trans ih (Nat.le_add_right _ _)

/-- The days of all months are those of the year. -/
lemma daysBeforeMonth_thirteen (year : Nat) :
    daysBeforeMonth year 13 = if isLeapYear year then 366 else 365 := by
  cases hleap : isLeapYear year <;> simp [daysBeforeMonth, daysInMonth, hleap]

lemma daysBeforeMonth_one (year : Nat) : daysBeforeMonth year 1 = 0 := by
  simp [daysBeforeMonth, daysInMonth]

/-- The rules for leap years by divisors. -/
lemma isLeapYear_iff {year : Nat} :
    isLeapYear year = true ↔ 4 ∣ year ∧ (¬ 100 ∣ year ∨ 400 ∣ year) := by
  simp [isLeapYear, Nat.dvd_iff_mod_eq_zero]

/-- A year begins when the months of the one before are over. -/
lemma daysBeforeYear_succ {year : Nat} (h : 1 ≤ year) :
    daysBeforeYear (year + 1) = daysBeforeYear year + daysBeforeMonth year 13 := by
  obtain ⟨before, rfl⟩ : ∃ before, year = before + 1 := ⟨year - 1, by omega⟩
  have hfour : (before + 1) / 4 = before / 4 + if 4 ∣ before + 1 then 1 else 0 := Nat.succ_div ..
  have hhundred : (before + 1) / 100 = before / 100 + if 100 ∣ before + 1 then 1 else 0 :=
    Nat.succ_div ..
  have hcycle : (before + 1) / 400 = before / 400 + if 400 ∣ before + 1 then 1 else 0 :=
    Nat.succ_div ..
  have hle : before / 100 ≤ before / 4 := Nat.div_le_div_left (by decide) (by decide)
  have hhundreds : 100 ∣ before + 1 → 4 ∣ before + 1 := Nat.dvd_trans (by decide)
  have hcycles : 400 ∣ before + 1 → 100 ∣ before + 1 := Nat.dvd_trans (by decide)
  simp only [daysBeforeYear, daysBeforeMonth_thirteen, isLeapYear_iff, Nat.add_sub_cancel, hfour,
    hhundred, hcycle]
  generalize before / 4 = fours at hle ⊢
  generalize before / 100 = hundreds at hle ⊢
  split_ifs <;> omega

lemma daysBeforeYear_mono {year year' : Nat} (hyear : 1 ≤ year) (h : year ≤ year') :
    daysBeforeYear year ≤ daysBeforeYear year' := by
  induction h with
  | refl => exact Nat.le_refl _
  | @step year' h ih =>
    calc
      daysBeforeYear year ≤ daysBeforeYear year' := ih
      _ ≤ daysBeforeYear year' + daysBeforeMonth year' 13 := Nat.le_add_right _ _
      _ = daysBeforeYear (year' + 1) := (daysBeforeYear_succ (Nat.le_trans hyear h)).symm

lemma daysBeforeMonth_add_day_le (d : Day) :
    daysBeforeMonth d.year d.month + d.day ≤ daysBeforeMonth d.year (d.month + 1) :=
  Nat.add_le_add_left d.valid.2.2.2 _

lemma number_le_daysBeforeYear (d : Day) : d.number ≤ daysBeforeYear (d.year + 1) := by
  have hmonth : daysBeforeMonth d.year (d.month + 1) ≤ daysBeforeMonth d.year 13 :=
    daysBeforeMonth_mono d.year (Nat.succ_le_succ d.valid.2.1.2)
  have hday := d.daysBeforeMonth_add_day_le
  rw [daysBeforeYear_succ d.valid.1.1, number]
  omega

lemma daysBeforeYear_lt_number (d : Day) : daysBeforeYear d.year < d.number := by
  have hday : 1 ≤ d.day := d.valid.2.2.1
  rw [number]
  omega

/-! ## Order -/

lemma number_lt_of_before {a b : Day} (h : a.Before b) : a.number < b.number := by
  obtain hyear | ⟨hyear, hmonth | ⟨hmonth, hday⟩⟩ := h
  · calc
      a.number ≤ daysBeforeYear (a.year + 1) := a.number_le_daysBeforeYear
      _ ≤ daysBeforeYear b.year := daysBeforeYear_mono (Nat.le_add_left 1 _) hyear
      _ < b.number := b.daysBeforeYear_lt_number
  · have hmonths : daysBeforeMonth a.year (a.month + 1) ≤ daysBeforeMonth a.year b.month :=
      daysBeforeMonth_mono a.year hmonth
    have hend := a.daysBeforeMonth_add_day_le
    have hstart : 1 ≤ b.day := b.valid.2.2.1
    rw [number, number, ← hyear]
    omega
  · rw [number, number, ← hyear, ← hmonth]
    omega

lemma before_trichotomy (a b : Day) : a.Before b ∨ a = b ∨ b.Before a := by
  obtain ⟨year, month, day, _⟩ := a
  obtain ⟨year', month', day', _⟩ := b
  simp only [Before, Day.mk.injEq]
  omega

/-- **The count of days.**  One day comes before another when it has the smaller number. -/
theorem before_iff_number_lt {a b : Day} : a.Before b ↔ a.number < b.number := by
  refine ⟨number_lt_of_before, fun h => ?_⟩
  obtain hbefore | rfl | hafter := before_trichotomy a b
  · exact hbefore
  · exact absurd h (Nat.lt_irrefl _)
  · exact absurd h (Nat.lt_asymm (number_lt_of_before hafter))

theorem number_inj {a b : Day} (h : a.number = b.number) : a = b := by
  obtain hbefore | heq | hafter := before_trichotomy a b
  · exact absurd (number_lt_of_before hbefore) (by omega)
  · exact heq
  · exact absurd (number_lt_of_before hafter) (by omega)

/-! ## The ends of the calendar -/

lemma number_pos (d : Day) : 1 ≤ d.number :=
  Nat.succ_le_of_lt (Nat.lt_of_le_of_lt (Nat.zero_le _) d.daysBeforeYear_lt_number)

/-- The number of 31 December 9999. -/
def lastNumber : Nat := 3652059

lemma number_le_lastNumber (d : Day) : d.number ≤ lastNumber :=
  calc
    d.number ≤ daysBeforeYear (d.year + 1) := d.number_le_daysBeforeYear
    _ ≤ daysBeforeYear 10000 :=
      daysBeforeYear_mono (Nat.le_add_left 1 _) (Nat.succ_le_succ d.valid.1.2)
    _ = lastNumber := by decide

/-! ## Neighbours -/

theorem number_of_next? {d e : Day} (h : d.next? = some e) : e.number = d.number + 1 := by
  have hday : d.day ≤ daysInMonth d.year d.month := d.valid.2.2.2
  unfold next? at h
  split_ifs at h with hwithin hmonth hyear
  · obtain rfl := Option.some.inj h
    rfl
  · obtain rfl := Option.some.inj h
    simp only [number, daysBeforeMonth]
    omega
  · obtain rfl := Option.some.inj h
    have hlast : d.month = 12 := Nat.le_antisymm d.valid.2.1.2 (Nat.le_of_not_lt hmonth)
    have hmonths : daysBeforeMonth d.year 13 =
        daysBeforeMonth d.year d.month + daysInMonth d.year d.month := by
      rw [hlast]
      rfl
    show daysBeforeYear (d.year + 1) + daysBeforeMonth (d.year + 1) 1 + 1 = d.number + 1
    rw [daysBeforeYear_succ d.valid.1.1, daysBeforeMonth_one, hmonths, number]
    omega

/-- The calendar ends with the day of the last number. -/
lemma number_of_next?_eq_none {d : Day} (h : d.next? = none) : d.number = lastNumber := by
  obtain ⟨year, month, day, ⟨_, hyear⟩, ⟨_, hmonth⟩, _, hday⟩ := d
  unfold next? at h
  split_ifs at h with hwithin hbefore hcalendar
  obtain rfl : year = 9999 := Nat.le_antisymm hyear (Nat.le_of_not_lt hcalendar)
  obtain rfl : month = 12 := Nat.le_antisymm hmonth (Nat.le_of_not_lt hbefore)
  obtain rfl : day = 31 := Nat.le_antisymm hday (Nat.le_of_not_lt hwithin)
  show daysBeforeYear 9999 + daysBeforeMonth 9999 12 + 31 = lastNumber
  decide

theorem number_of_prev? {d e : Day} (h : d.prev? = some e) : e.number + 1 = d.number := by
  have hday : 1 ≤ d.day := d.valid.2.2.1
  have hmonth : 1 ≤ d.month := d.valid.2.1.1
  unfold prev? at h
  split_ifs at h with hwithin hafter hcalendar
  · obtain rfl := Option.some.inj h
    simp only [number]
    omega
  · obtain rfl := Option.some.inj h
    obtain ⟨before, hbefore⟩ : ∃ before, d.month = before + 1 := ⟨d.month - 1, by omega⟩
    simp only [number, hbefore, Nat.add_sub_cancel, daysBeforeMonth]
    omega
  · obtain rfl := Option.some.inj h
    obtain ⟨before, hbefore⟩ : ∃ before, d.year = before + 1 := ⟨d.year - 1, by omega⟩
    have hfirst : d.month = 1 := by omega
    have hmonths : daysBeforeMonth before 13 = daysBeforeMonth before 12 + 31 := by
      simp [daysBeforeMonth, daysInMonth]
    simp only [number, hbefore, hfirst, Nat.add_sub_cancel, daysBeforeMonth_one,
      daysBeforeYear_succ (show 1 ≤ before by omega), hmonths]
    omega

/-- The calendar starts with the day of number one. -/
lemma number_of_prev?_eq_none {d : Day} (h : d.prev? = none) : d.number = 1 := by
  obtain ⟨year, month, day, ⟨hyear, _⟩, ⟨hmonth, _⟩, hday, _⟩ := d
  unfold prev? at h
  split_ifs at h with hwithin hafter hcalendar
  obtain rfl : year = 1 := Nat.le_antisymm (Nat.le_of_not_lt hcalendar) hyear
  obtain rfl : month = 1 := Nat.le_antisymm (Nat.le_of_not_lt hafter) hmonth
  obtain rfl : day = 1 := Nat.le_antisymm (Nat.le_of_not_lt hwithin) hday
  show daysBeforeYear 1 + daysBeforeMonth 1 1 + 1 = 1
  decide

end SiteStats.Day
