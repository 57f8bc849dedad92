import SiteStats.DateRange
import SiteStats.Proofs.Calendar.Utc
import SiteStats.Proofs.Schema.Acceptance

/-!
# Ranges between moments

A range may be given by two moments, whose clocks may have different offsets.  Each of them is taken
for its day in UTC, so that all depends on two points in time and nothing on the clocks
(`DateRange.check_moments`): moments that follow each other give a range even when their own days
are in the wrong order, and a moment outside the calendar in UTC puts an end to the check, whatever
is given for the other end.
-/

namespace SiteStats

open Schema

/-! ## Days that are given as moments -/

lemma Schema.day_moment_eq_ok_iff {m : Moment} {d : Day} :
    day (.moment m) = .ok d ↔ m.utcDay? = some d := by
  rw [day]
  cases m.utcDay? <;> simp

lemma Schema.day_moment_eq_outOfCalendar_iff {m : Moment} :
    day (.moment m) = .error .outOfCalendar ↔ m.utcDay? = none := by
  rw [day]
  cases m.utcDay? <;> simp

namespace DateRange

/-! ## Ranges that are given by their ends -/

/-- An object with the two ends of a range. -/
def given (first last : Value) : Value :=
  .object [("from_date", first), ("to_date", last)]

variable {first last : Value}

lemma check_given (first last : Value) :
    check (given first last) =
      (((day first).under (.field "from_date")).combine DateRange.mk
        ((day last).under (.field "to_date"))).obeying .reversedDates fun range => range.Valid :=
  rfl

/-- A range is accepted when both ends are days and the last is not before the first. -/
lemma check_given_eq_ok_iff {range : DateRange} :
    check (given first last) = .ok range ↔
      day first = .ok range.first ∧ day last = .ok range.last ∧ range.Valid := by
  rw [check_given, Checked.obeying_eq_ok_iff, Checked.combine_eq_ok_iff]
  simp only [Checked.under_eq_ok_iff, decide_eq_true_eq]
  constructor
  · rintro ⟨⟨_, _, hfirst, hlast, rfl⟩, hvalid⟩
    exact ⟨hfirst, hlast, hvalid⟩
  · rintro ⟨hfirst, hlast, hvalid⟩
    exact ⟨⟨_, _, hfirst, hlast, rfl⟩, hvalid⟩

/-- Days in the wrong order break the rule for ranges, and nothing else is wrong with them. -/
lemma check_given_of_before {a b : Day} (hfirst : day first = .ok a) (hlast : day last = .ok b)
    (h : b.Before a) : check (given first last) = Checked.flaw (.broken .reversedDates) := by
  have hreversed : ¬ (DateRange.mk a b).Valid := not_not_intro h
  rw [check_given, hfirst, hlast]
  show (if decide (DateRange.mk a b).Valid = true then _ else _) = _
  rw [if_neg (by simpa using hreversed)]

/-- An end outside the calendar puts an end to the check, and nothing else ends it in this way. -/
lemma check_given_eq_outOfCalendar_iff :
    check (given first last) = .error .outOfCalendar ↔
      day first = .error .outOfCalendar ∨ day last = .error .outOfCalendar := by
  rw [check_given]
  rcases day first with (issues | _) | a <;> rcases day last with (issues' | _) | b <;>
    simp [Checked.under, Checked.combine, Checked.both, Checked.map, Checked.obeying, Except.map,
      Except.bind]
  split <;> simp [Checked.flaw]

/-! ## Moments -/

/-- **Ranges between moments.**  Two moments whose offsets are known give a range exactly when both
of them have a day in UTC and the first of these days is not after the last, and it is the range of
these days.  If one of them has none they are outside the calendar, and if the days are in the wrong
order this is what is wrong. So moments in their order are always in order as days, and it does not
matter on which clocks they are given. -/
theorem check_moments {a b : Moment} (ha : a.Aware) (hb : b.Aware) :
    let result := check (given (.moment a) (.moment b))
    (result = .error .outOfCalendar ↔
      (¬ ∃ u : Moment, u.IsUtcOf a) ∨ ¬ ∃ v : Moment, v.IsUtcOf b) ∧
    (∀ u v : Moment, u.IsUtcOf a → v.IsUtcOf b →
      (∀ range, result = .ok range ↔ ¬ v.day.Before u.day ∧ range = ⟨u.day, v.day⟩) ∧
      (v.day.Before u.day → result = Checked.flaw (.broken .reversedDates))) ∧
    (a.instant ≤ b.instant → result ≠ .error .outOfCalendar → ∃ range, result = .ok range) ∧
    (∀ a' b' : Moment, a'.Aware → b'.Aware → a'.instant = a.instant → b'.instant = b.instant →
      check (given (.moment a') (.moment b')) = result) := by
  intro result
  have houtside : result = .error .outOfCalendar ↔
      (¬ ∃ u : Moment, u.IsUtcOf a) ∨ ¬ ∃ v : Moment, v.IsUtcOf b := by
    rw [check_given_eq_outOfCalendar_iff, day_moment_eq_outOfCalendar_iff,
      day_moment_eq_outOfCalendar_iff, Moment.utcDay?_eq_none_iff ha, Moment.utcDay?_eq_none_iff hb]
  have hok : ∀ u v : Moment, u.IsUtcOf a → v.IsUtcOf b →
      ∀ range, result = .ok range ↔ ¬ v.day.Before u.day ∧ range = ⟨u.day, v.day⟩ := by
    rintro u v hu hv ⟨first, last⟩
    rw [check_given_eq_ok_iff, day_moment_eq_ok_iff, day_moment_eq_ok_iff, hu.utcDay? ha,
      hv.utcDay? hb]
    constructor
    · rintro ⟨⟨⟩, ⟨⟩, hvalid⟩
      exact ⟨hvalid, rfl⟩
    · rintro ⟨hvalid, ⟨⟩⟩
      exact ⟨rfl, rfl, hvalid⟩
  refine ⟨houtside, fun u v hu hv => ⟨hok u v hu hv, fun hbefore => ?_⟩, fun hle hin => ?_, ?_⟩
  · exact check_given_of_before (day_moment_eq_ok_iff.mpr (hu.utcDay? ha))
      (day_moment_eq_ok_iff.mpr (hv.utcDay? hb)) hbefore
  · rw [Ne, houtside, not_or, not_not, not_not] at hin
    obtain ⟨⟨u, hu⟩, v, hv⟩ := hin
    exact ⟨_, (hok u v hu hv _).mpr ⟨hu.not_before hv hle, rfl⟩⟩
  · intro a' b' ha' hb' hfirst hlast
    have hday : ∀ m m' : Moment, m'.utcDay? = m.utcDay? → day (.moment m') = day (.moment m) := by
      intro m m' h
      rw [day, day, h]
    show check (given (.moment a') (.moment b')) = check (given (.moment a) (.moment b))
    rw [check_given, check_given, hday a a' (Moment.utcDay?_congr ha ha' hfirst),
      hday b b' (Moment.utcDay?_congr hb hb' hlast)]

/-- New year by a clock in the east, and an evening before it by one in the west: their own days are
in the wrong order, those in UTC are not. -/
theorem check_moments_around_new_year :
    let a : Moment := ⟨⟨2024, 1, 1, by decide⟩, 2, 0, 0, 0, some 18000000000, by decide,
      by rintro _ ⟨⟩; decide⟩
    let b : Moment := ⟨⟨2023, 12, 31, by decide⟩, 23, 59, 59, 999999, some (-10800500000),
      by decide,
      by rintro _ ⟨⟩; decide⟩
    a.Aware ∧ b.Aware ∧ b.day.Before a.day ∧
      check (given (.moment a) (.moment b)) =
        .ok ⟨⟨2023, 12, 31, by decide⟩, ⟨2024, 1, 1, by decide⟩⟩ := by
  intro a b
  have ha : a.Aware := rfl
  have hb : b.Aware := rfl
  let u : Moment := ⟨⟨2023, 12, 31, by decide⟩, 21, 0, 0, 0, some 0, by decide,
    by rintro _ ⟨⟩; decide⟩
  let v : Moment := ⟨⟨2024, 1, 1, by decide⟩, 3, 0, 0, 499999, some 0, by decide,
    by rintro _ ⟨⟩; decide⟩
  have hu : u.IsUtcOf a := ⟨rfl, by decide⟩
  have hv : v.IsUtcOf b := ⟨rfl, by decide⟩
  obtain ⟨-, hrange, -, -⟩ := check_moments ha hb
  exact ⟨ha, hb, by decide, ((hrange u v hu hv).1 _).mpr ⟨by decide, rfl⟩⟩

end DateRange

end SiteStats
