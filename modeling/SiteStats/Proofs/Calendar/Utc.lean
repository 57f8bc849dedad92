import SiteStats.Calendar.Moment
import SiteStats.Proofs.Calendar.Count

/-!
# Moments in UTC

Two moments are the same point in time when as many microseconds have passed up to both of them
(`Moment.instant`), whatever their clocks show.  The day of a moment in UTC is said without shifting
any clock: it is the day on which a clock in UTC shows the same point in time (`IsUtcOf`), and there
is none when no such clock time lies in the calendar.  `utcDay?_eq_some_iff` says that looking at
the time of day and going one day back or forth finds it.

What carries the proof is that a clock is never as much as a day off, so that of all days only the
three around that of the moment can be its day in UTC (`utcDay?_iff_instant`); where one of them is
missing, the calendar ends.
-/

namespace SiteStats.Moment

/-- The offset of the clock is known. -/
def Aware (m : Moment) : Prop :=
  m.offset.isSome

/-- The point in time of a moment, in microseconds since the start of the day before the first. -/
def instant (m : Moment) : Int :=
  (m.day.number : Int) * dayLength + m.timeOfDay - m.offset.getD 0

/-- A clock in UTC shows one moment when it is the other. -/
structure IsUtcOf (u m : Moment) : Prop where
  offset : u.offset = some 0
  instant : u.instant = m.instant

/-! ## Times of day -/

lemma timeOfDay_lt (m : Moment) : m.timeOfDay < dayLength := by
  have hclock := m.clock_lt
  simp only [timeOfDay, dayLength]
  omega

/-- The moment in UTC on a day at a time of that day. -/
def inUtc (d : Day) (time : Nat) (h : time < dayLength) : Moment where
  day := d
  hour := time / 3600000000
  minute := time / 60000000 % 60
  second := time / 1000000 % 60
  microsecond := time % 1000000
  offset := some 0
  clock_lt := by
    simp only [dayLength] at h
    omega
  offset_lt := by
    rintro offset ⟨⟩
    decide

lemma timeOfDay_inUtc (d : Day) {time : Nat} (h : time < dayLength) :
    (inUtc d time h).timeOfDay = time := by
  simp only [timeOfDay, inUtc]
  omega

/-! ## Days in UTC -/

variable {m u : Moment} {d : Day}

/-- The day of a clock in UTC is the one that holds the point in time. -/
lemma exists_isUtcOf_iff :
    (∃ u : Moment, u.IsUtcOf m ∧ u.day = d) ↔
      (d.number : Int) * dayLength ≤ m.instant ∧ m.instant < (d.number + 1 : Int) * dayLength := by
  constructor
  · rintro ⟨u, ⟨hoffset, hinstant⟩, rfl⟩
    have htime := u.timeOfDay_lt
    rw [← hinstant, instant, hoffset]
    simp only [dayLength, Option.getD_some] at htime ⊢
    omega
  · rintro ⟨hstart, hend⟩
    obtain ⟨time, htime⟩ : ∃ time : Nat, (time : Int) = m.instant - d.number * dayLength :=
      ⟨(m.instant - d.number * dayLength).toNat, by omega⟩
    have hlt : time < dayLength := by
      simp only [dayLength] at hend htime ⊢
      omega
    refine ⟨inUtc d time hlt, ⟨rfl, ?_⟩, rfl⟩
    rw [instant, timeOfDay_inUtc]
    simp only [inUtc, Option.getD_some]
    omega

/-- The day that is found holds the point in time, and if one does it is found. -/
lemma utcDay?_iff_instant (h : m.Aware) :
    m.utcDay? = some d ↔
      (d.number : Int) * dayLength ≤ m.instant ∧ m.instant < (d.number + 1 : Int) * dayLength := by
  obtain ⟨offset, hoffset⟩ := Option.isSome_iff_exists.mp h
  have hbounds := m.offset_lt offset hoffset
  have htime := m.timeOfDay_lt
  have hpos := d.number_pos
  have hlast := d.number_le_lastNumber
  rw [instant, utcDay?, hoffset, Option.getD_some]
  dsimp only
  -- The cases are those of the search; in each, two days that hold the same point in time have one
  -- number.
  split_ifs with hbefore hsame
  all_goals simp only [dayLength] at *
  · constructor
    · intro hprev
      have hnumber := Day.number_of_prev? hprev
      omega
    · intro hholds
      cases hprev : m.day.prev? with
      | none =>
        have hfirst := Day.number_of_prev?_eq_none hprev
        omega
      | some e =>
        have hnumber := Day.number_of_prev? hprev
        rw [Day.number_inj (show e.number = d.number by omega)]
  · constructor
    · rintro ⟨⟩
      omega
    · intro hholds
      rw [Day.number_inj (show m.day.number = d.number by omega)]
  · constructor
    · intro hnext
      have hnumber := Day.number_of_next? hnext
      omega
    · intro hholds
      cases hnext : m.day.next? with
      | none =>
        have hend := Day.number_of_next?_eq_none hnext
        omega
      | some e =>
        have hnumber := Day.number_of_next? hnext
        rw [Day.number_inj (show e.number = d.number by omega)]

/-- **Days in UTC.**  The day that is found for a moment is that of a clock in UTC which shows it.
-/
theorem utcDay?_eq_some_iff (h : m.Aware) :
    m.utcDay? = some d ↔ ∃ u : Moment, u.IsUtcOf m ∧ u.day = d := by
  rw [utcDay?_iff_instant h, exists_isUtcOf_iff]

lemma IsUtcOf.utcDay? (h : u.IsUtcOf m) (haware : m.Aware) : m.utcDay? = some u.day :=
  (utcDay?_eq_some_iff haware).mpr ⟨u, h, rfl⟩

/-- No day is found when no clock time in UTC is the moment. -/
lemma utcDay?_eq_none_iff (h : m.Aware) : m.utcDay? = none ↔ ¬ ∃ u : Moment, u.IsUtcOf m := by
  rw [Option.eq_none_iff_forall_ne_some]
  constructor
  · rintro hnone ⟨u, hu⟩
    exact hnone u.day (hu.utcDay? h)
  · rintro hnone d hd
    obtain ⟨u, hu, -⟩ := (utcDay?_eq_some_iff h).mp hd
    exact hnone ⟨u, hu⟩

lemma utcDay?_congr {m' : Moment} (h : m.Aware) (h' : m'.Aware)
    (hinstant : m'.instant = m.instant) :
    m'.utcDay? = m.utcDay? := by
  ext d
  rw [utcDay?_iff_instant h, utcDay?_iff_instant h', hinstant]

/-- Days in UTC follow each other as the points in time do. -/
lemma IsUtcOf.not_before {m' u' : Moment} (h : u.IsUtcOf m) (h' : u'.IsUtcOf m')
    (hinstant : m.instant ≤ m'.instant) : ¬ u'.day.Before u.day := by
  obtain ⟨hstart, -⟩ := exists_isUtcOf_iff.mp ⟨u, h, rfl⟩
  obtain ⟨-, hend⟩ := exists_isUtcOf_iff.mp ⟨u', h', rfl⟩
  rw [Day.before_iff_number_lt]
  simp only [dayLength] at hstart hend
  omega

end SiteStats.Moment
