import SiteStats.Proofs.Calendar.Count
import SiteStats.Proofs.Calendar.Reading
import SiteStats.Proofs.DateRange.Moments

/-!
# Ranges between texts

An end of a range may also be given by a text, which is read as it stands.  For a day that queries
write this takes the text back, unless the year has fewer than four digits and the text is too short
to be read (`DateRange.check_text`).  For the start of a day by some clock it makes a difference
whether the moment is given or the text of it: the offset takes the moment to its day in UTC, but in
the text it is passed over (`DateRange.check_midnight`).

Two values that are read as the same day can stand for each other at either end of a range, whatever
is given for the other end, and `DateRange.Alike` says this of a whole range.
-/

namespace SiteStats

open Schema

namespace DateRange

/-! ## Ends that can stand for each other -/

/-- Two values do the same at either end of a range. -/
structure Alike (value value' : Value) : Prop where
  first : ∀ last, check (given value last) = check (given value' last)
  last : ∀ first, check (given first value) = check (given first value')

variable {value value' : Value}

lemma Alike.of_day_eq (h : day value = day value') : Alike value value' :=
  ⟨fun last => by rw [check_given, check_given, h],
    fun first => by rw [check_given, check_given, h]⟩

lemma valid_self (d : Day) : (DateRange.mk d d).Valid := by
  rw [Valid, Day.before_iff_number_lt]
  exact Nat.lt_irrefl _

lemma Alike.symm (h : Alike value value') : Alike value' value :=
  ⟨fun last => (h.first last).symm, fun first => (h.last first).symm⟩

/-- Of two values that do the same, one is a day if the other is: with this day for the other end
they make a range that starts with it. -/
lemma Alike.day_eq_ok (h : Alike value value') {d : Day} (hday : day value' = .ok d) :
    day value = .ok d := by
  have hself : check (given value (.day d)) = .ok ⟨d, d⟩ := by
    rw [h.first]
    exact check_given_eq_ok_iff.mpr ⟨hday, rfl, valid_self d⟩
  exact (check_given_eq_ok_iff.mp hself).1

theorem alike_day_iff {d : Day} : Alike value (.day d) ↔ day value = .ok d :=
  ⟨fun h => h.day_eq_ok rfl, fun h => Alike.of_day_eq h⟩

lemma day_text_eq_ok {s : String} {d : Day} (h : Day.ofText s = .ok d) : day (.text s) = .ok d := by
  simp only [day, whole_ofString, h, day.ofRead]

lemma day_text_eq_flaw {s : String} {fault : DayFault} (h : Day.ofText s = .error fault) :
    day (.text s) = Checked.flaw (.notDay fault) := by
  simp only [day, whole_ofString, h, day.ofRead]

/-! ## Midnights -/

/-- **Midnights as texts and as moments.**  The text of the moment at which a day starts by some
clock is this day. The moment itself is this day if the clock is not ahead of UTC, and otherwise it
is the day before, or outside the calendar on the first day.  So text and moment agree exactly for
clocks that are not ahead. -/
theorem check_midnight (d : Day) {minutes : Int} (h : -1440 < minutes ∧ minutes < 1440) :
    let moment : Value := .moment (d.midnight minutes h)
    let text : Value := .text ((d.midnight minutes h).isoText "T")
    Alike text (.day d) ∧
    (minutes ≤ 0 → Alike moment (.day d)) ∧
    (0 < minutes →
      (d ≠ ⟨1, 1, 1, by decide⟩ → ∃ before : Day, before.number + 1 = d.number ∧
        Alike moment (.day before)) ∧
      (d = ⟨1, 1, 1, by decide⟩ → ∀ other, check (given moment other) = .error .outOfCalendar ∧
        check (given other moment) = .error .outOfCalendar)) ∧
    (Alike text moment ↔ minutes ≤ 0) := by
  intro moment text
  have htext : day text = .ok d := day_text_eq_ok (Day.ofText_isoText_midnight d h)
  have hmoment : minutes ≤ 0 → day moment = .ok d := by
    intro hbehind
    rw [day_moment_eq_ok_iff, Day.utcDay?_midnight, if_neg (by omega)]
  have hahead : 0 < minutes → (d.midnight minutes h).utcDay? = d.prev? := by
    intro hpos
    rw [Day.utcDay?_midnight, if_pos hpos]
  refine ⟨alike_day_iff.mpr htext, fun hbehind => alike_day_iff.mpr (hmoment hbehind),
    fun hpos => ⟨fun hne => ?_, fun hfirst other => ?_⟩, fun halike => ?_, fun hbehind => ?_⟩
  · cases hprev : d.prev? with
    | none => exact absurd (Day.number_inj (Day.number_of_prev?_eq_none hprev)) hne
    | some before =>
      refine ⟨before, Day.number_of_prev? hprev, alike_day_iff.mpr ?_⟩
      rw [day_moment_eq_ok_iff, hahead hpos, hprev]
  · have houtside : day moment = .error .outOfCalendar := by
      rw [day_moment_eq_outOfCalendar_iff, hahead hpos, hfirst]
      rfl
    exact ⟨check_given_eq_outOfCalendar_iff.mpr (.inl houtside),
      check_given_eq_outOfCalendar_iff.mpr (.inr houtside)⟩
  · -- If the clock were ahead, the moment would be read as the day of the text and as the one
    -- before.
    by_contra hpos
    have hsame : (d.midnight minutes h).utcDay? = some d :=
      day_moment_eq_ok_iff.mp (halike.symm.day_eq_ok htext)
    rw [hahead (by omega)] at hsame
    have hnumber := Day.number_of_prev? hsame
    omega
  · exact Alike.of_day_eq (htext.trans (hmoment hbehind).symm)

/-- A start of March by a clock that is ahead of UTC, which in UTC is still on the leap day. -/
theorem check_midnight_of_march :
    let d : Day := ⟨2024, 3, 1, by decide⟩
    let moment := d.midnight 330 (by decide)
    moment.isoText "T" = "2024-03-01T00:00:00+05:30" ∧
      Alike (.text (moment.isoText "T")) (.day d) ∧
      Alike (.moment moment) (.day ⟨2024, 2, 29, by decide⟩) ∧
      ¬ Alike (.text (moment.isoText "T")) (.moment moment) := by
  intro d moment
  have hoffset : (-1440 : Int) < 330 ∧ (330 : Int) < 1440 := by decide
  obtain ⟨htext, -, hahead, hagree⟩ := check_midnight d hoffset
  obtain ⟨before, hnumber, hmoment⟩ := (hahead (by decide)).1 (by decide)
  have hleap : before = ⟨2024, 2, 29, by decide⟩ :=
    Day.number_inj (Nat.succ.inj (hnumber.trans (by decide)))
  exact ⟨by decide, htext, hleap ▸ hmoment, fun h => absurd (hagree.mp h) (by decide)⟩

/-! ## Texts of days -/

lemma check_given_of_first {last : Value} {flaw : Flaw} {d : Day}
    (hfirst : day value = Checked.flaw flaw) (hlast : day last = .ok d) :
    check (given value last) = .error (.flawed [⟨[.field "from_date"], flaw⟩]) := by
  rw [check_given, hfirst, hlast]
  rfl

lemma check_given_of_last {first : Value} {flaw : Flaw} {d : Day}
    (hfirst : day first = .ok d) (hlast : day value = Checked.flaw flaw) :
    check (given first value) = .error (.flawed [⟨[.field "to_date"], flaw⟩]) := by
  rw [check_given, hfirst, hlast]
  rfl

/-- **Texts of days and ranges as ends.**  From the year 1000 on, the text that queries carry for a
day is this day for a range, and before that it is too short to be read.  The two parts of the text
of a range from the year 1000 on are its ends again, so that they give the range if it is valid.
The texts of such days are in order when the days are. -/
theorem check_text :
    (∀ d : Day, (Alike (.text d.text) (.day d) ↔ 1000 ≤ d.year) ∧
      (d.year < 1000 → ∀ other,
        (∀ range, check (given (.text d.text) other) ≠ .ok range ∧
          check (given other (.text d.text)) ≠ .ok range) ∧
        ∀ e, day other = .ok e →
          check (given (.text d.text) other) =
            .error (.flawed [⟨[.field "from_date"], .notDay (.unread .tooShort)⟩]) ∧
          check (given other (.text d.text)) =
            .error (.flawed [⟨[.field "to_date"], .notDay (.unread .tooShort)⟩]))) ∧
    (∀ range : DateRange, 1000 ≤ range.first.year → 1000 ≤ range.last.year →
      ∃ first last, range.text.toList.splitOn ',' = [first, last] ∧
        (check (given (.text (String.ofList first)) (.text (String.ofList last))) = .ok range ↔
          range.Valid)) ∧
    (∀ d d' : Day, 1000 ≤ d.year → 1000 ≤ d'.year → (d.Before d' ↔ d.text < d'.text)) := by
  have hlate : ∀ d : Day, 1000 ≤ d.year → day (.text d.text) = .ok d := by
    intro d h
    rw [Day.text_eq_isoText h]
    exact day_text_eq_ok d.ofText_isoText
  have hearly : ∀ d : Day, d.year < 1000 →
      day (.text d.text) = Checked.flaw (.notDay (.unread .tooShort)) :=
    fun d h => day_text_eq_flaw (Day.ofText_text_of_early h)
  refine ⟨fun d => ⟨?_, fun h other => ⟨fun range => ⟨?_, ?_⟩, fun e hother => ⟨?_, ?_⟩⟩⟩,
    fun range hfirst hlast => ?_, fun d d' => Day.before_iff_text_lt⟩
  · rw [alike_day_iff]
    refine ⟨fun h => ?_, hlate d⟩
    by_contra hyear
    rw [hearly d (by omega)] at h
    cases h
  · intro haccepted
    have hread := (check_given_eq_ok_iff.mp haccepted).1
    rw [hearly d h] at hread
    cases hread
  · intro haccepted
    have hread := (check_given_eq_ok_iff.mp haccepted).2.1
    rw [hearly d h] at hread
    cases hread
  · exact check_given_of_first (hearly d h) hother
  · exact check_given_of_last hother (hearly d h)
  · refine ⟨_, _, range.splitOn_text, ?_⟩
    rw [String.ofList_toList, String.ofList_toList, check_given_eq_ok_iff, hlate _ hfirst,
      hlate _ hlast]
    simp

/-- The last day before the year 1000 is too short, and from the day after on ranges come back. -/
theorem check_text_around_1000 :
    let d : Day := ⟨999, 12, 31, by decide⟩
    let range : DateRange := ⟨⟨1000, 1, 1, by decide⟩, ⟨2024, 2, 29, by decide⟩⟩
    d.text = "999-12-31" ∧ ¬ Alike (.text d.text) (.day d) ∧
      check (given (.text d.text) (.day range.last)) =
        .error (.flawed [⟨[.field "from_date"], .notDay (.unread .tooShort)⟩]) ∧
      check (given (.text "1000-01-01") (.text "2024-02-29")) = .ok range ∧
      "1000-01-01" < "2024-02-29" := by
  intro d range
  obtain ⟨hdays, hranges, horder⟩ := check_text
  obtain ⟨hlike, hshort⟩ := hdays d
  obtain ⟨first, last, hsplit, hread⟩ := hranges range (by decide) (by decide)
  have hfirst : range.first.text = "1000-01-01" := by decide
  have hlast : range.last.text = "2024-02-29" := by decide
  obtain ⟨rfl, rfl⟩ : "1000-01-01".toList = first ∧ "2024-02-29".toList = last := by
    simpa [range.splitOn_text, hfirst, hlast] using hsplit
  refine ⟨by decide, fun h => absurd (hlike.mp h) (by decide),
    ((hshort (by decide) (.day range.last)).2 _ rfl).1, ?_, ?_⟩
  · rw [String.ofList_toList, String.ofList_toList] at hread
    exact hread.mpr (by decide)
  · rw [← hfirst, ← hlast]
    exact (horder range.first range.last (by decide) (by decide)).mp (by decide)

end DateRange

end SiteStats
