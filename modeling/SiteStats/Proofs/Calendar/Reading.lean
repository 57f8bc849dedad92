import SiteStats.Calendar.Moment
import SiteStats.Proofs.Calendar.Digits

/-!
# Days that are read from texts

What the readers make of the texts that days and moments have.  A reading step takes its part from
the front of whatever follows, so each lemma is about that part with any rest behind it, and they
are put together in the order of the parts.  The ISO text of a day is read as the day
(`Day.ofText_isoText`), and so is the ISO text of a moment at midnight, on which the offset has no
influence (`Day.ofText_isoText_midnight`).

The text of a day before the year 1000 is shorter than any date that is read
(`Day.ofText_text_of_early`).  That it is no timestamp either needs more than its length, since
short texts of digits are timestamps; what rules this out is the hyphen.
-/

namespace SiteStats

/-! ## Steps -/

namespace DateReader

lemma length_le_octets (s : List Char) : s.length ≤ octets s := by
  have hfold : ∀ n, n + s.length ≤ s.foldl (fun n c => n + c.utf8Size) n := by
    induction s with
    | nil => simp
    | cons c s ih =>
      intro n
      have hc := c.utf8Size_pos
      have hrest := ih (n + c.utf8Size)
      rw [List.length_cons, List.foldl_cons]
      omega
  have hzero := hfold 0
  rwa [Nat.zero_add] at hzero

lemma octets_eq_length {s : List Char} (h : ∀ c ∈ s, c.utf8Size = 1) : octets s = s.length := by
  have hfold : ∀ n, s.foldl (fun n c => n + c.utf8Size) n = n + s.length := by
    induction s with
    | nil => simp
    | cons c s ih =>
      obtain ⟨hc, hs⟩ := List.forall_mem_cons.mp h
      intro n
      rw [List.foldl_cons, hc, ih hs, List.length_cons]
      omega
  rw [octets, hfold, Nat.zero_add]

lemma twoDigits_lastDigits (fault : DateFault) (n : Nat) (rest : List Char) :
    twoDigits fault (lastDigits 2 n ++ rest) = .ok (n % 100, rest) := by
  have htens : n / 10 % 10 < 10 := Nat.mod_lt _ (by decide)
  have hones : n % 10 < 10 := Nat.mod_lt _ (by decide)
  show (if Numeral.isDigit (Nat.digitChar (n / 10 % 10)) && Numeral.isDigit (Nat.digitChar (n % 10))
    then Except.ok (10 * Numeral.digitValue (Nat.digitChar (n / 10 % 10)) +
      Numeral.digitValue (Nat.digitChar (n % 10)), rest)
    else .error fault) = _
  rw [isDigit_digitChar htens, isDigit_digitChar hones, digitValue_digitChar htens,
    digitValue_digitChar hones]
  show Except.ok (10 * (n / 10 % 10) + n % 10, rest) = .ok (n % 100, rest)
  congr 2
  omega

lemma mark_cons {c : Char} {allowed : List Char} (h : c ∈ allowed) (fault : DateFault)
    (rest : List Char) : mark allowed fault (c :: rest) = .ok ((), rest) :=
  if_pos h

lemma lastDigits_four (n : Nat) : lastDigits 4 n = lastDigits 2 (n / 100) ++ lastDigits 2 n := by
  have hdiv : n / 10 / 10 = n / 100 := Nat.div_div_eq_div_mul n 10 10
  simp [lastDigits, hdiv]

lemma date_isoText (d : Day) (rest : List Char) :
    date (d.isoText.toList ++ rest) = .ok (⟨d.year, d.month, d.day⟩, rest) := by
  have hyear := d.year_lt
  have hmonth : d.month % 100 = d.month := Nat.mod_eq_of_lt d.month_lt
  have hday : d.day % 100 = d.day := Nat.mod_eq_of_lt d.day_lt
  have hcentury : 100 * (d.year / 100 % 100) + d.year % 100 = d.year := by omega
  have hexists := d.valid.2.2
  have hdays : daysInMonth d.year d.month ≠ 0 := by omega
  have hwithin : ¬ (d.day < 1 ∨ daysInMonth d.year d.month < d.day) := by omega
  have hlist : d.isoText.toList ++ rest =
      lastDigits 2 (d.year / 100) ++ (lastDigits 2 d.year ++ '-' :: (lastDigits 2 d.month ++
        '-' :: (lastDigits 2 d.day ++ rest))) := by
    simp [Day.toList_isoText, lastDigits_four]
  have hlong : ¬ octets (d.isoText.toList ++ rest) < 10 := by
    have hlength := length_le_octets (d.isoText.toList ++ rest)
    rw [hlist] at hlength ⊢
    simp only [List.length_append, List.length_cons, length_lastDigits] at hlength
    omega
  rw [date, if_neg hlong, hlist]
  simp only [twoDigits_lastDigits, bind, Except.bind, mark_cons (List.mem_singleton_self _)]
  rw [hcentury, hmonth, hday, if_neg hdays, if_neg hwithin]
  rfl

lemma date_of_short {s : List Char} (h : octets s < 10) : date s = .error .tooShort := by
  rw [date, if_pos h]
  rfl

lemma dateTime_of_short {s : List Char} (h : octets s < 10) : dateTime s = .error .tooShort := by
  rw [dateTime, date_of_short h]
  rfl

/-- The time of day at its start, behind which there is no fraction. -/
lemma clock_zero {rest : List Char} (h : fraction rest = .ok (0, rest)) :
    clock ("00:00:00".toList ++ rest) = .ok (⟨0, 0⟩, rest) := by
  have hlist : "00:00:00".toList ++ rest =
      lastDigits 2 0 ++ ':' :: (lastDigits 2 0 ++ ':' :: (lastDigits 2 0 ++ rest)) := rfl
  have hlong : ¬ octets ("00:00:00".toList ++ rest) < 5 := by
    have hlength := length_le_octets ("00:00:00".toList ++ rest)
    rw [List.length_append] at hlength
    have hclock : "00:00:00".toList.length = 8 := rfl
    omega
  rw [clock, if_neg hlong, hlist]
  simp only [twoDigits_lastDigits, bind, Except.bind, mark_cons (List.mem_singleton_self _), h]
  rfl

lemma offsetMinutes_lastDigits {hour minute : Nat} (hhour : hour < 24) (hminute : minute < 60) :
    offsetMinutes (lastDigits 2 hour ++ ':' :: lastDigits 2 minute) =
      .ok (hour * 60 + minute, []) := by
  have hend : twoDigits .offsetMinute (lastDigits 2 minute) = .ok (minute % 100, []) := by
    simpa using twoDigits_lastDigits .offsetMinute minute []
  have hhours : hour % 100 = hour := Nat.mod_eq_of_lt (by omega)
  have hminutes : minute % 100 = minute := Nat.mod_eq_of_lt (by omega)
  rw [offsetMinutes]
  simp only [twoDigits_lastDigits, bind, Except.bind, hend]
  rw [hhours, hminutes, if_neg (by omega), if_neg (by omega)]
  rfl

end DateReader

/-! ## Days that are written -/

lemma Day.wordFault?_eq_none {numbers : List Int}
    (h : ∀ n ∈ numbers, -2147483648 ≤ n ∧ n ≤ 2147483647) : wordFault? numbers = none := by
  induction numbers with
  | nil => rfl
  | cons n numbers ih =>
    have hn := h n List.mem_cons_self
    rw [wordFault?, if_neg (by omega), if_neg (by omega), if_neg (by omega),
      ih fun m hm => h m (List.mem_cons_of_mem _ hm)]

lemma WrittenDate.toDay_of_day (d : Day) :
    (⟨d.year, d.month, d.day⟩ : WrittenDate).toDay = .ok d := by
  have hyear := d.valid.1
  have hmonth := d.valid.2.1
  have hday := d.day_lt
  have hword : Day.wordFault? [(d.year : Int), d.month, d.day] = none := by
    refine Day.wordFault?_eq_none fun n hn => ?_
    simp only [List.mem_cons, List.not_mem_nil, or_false] at hn
    omega
  have hmake : Day.make d.year d.month d.day = .ok d := by
    rw [Day.make, hword]
    show (if _ then _ else if _ then _ else _) = _
    rw [if_neg (by omega), if_neg (by omega)]
    exact dif_pos d.valid
  rw [toDay, hmake]

namespace Day

/-- **Days read back.**  The ISO text of a day is read as the day. -/
theorem ofText_isoText (d : Day) : ofText d.isoText = .ok d := by
  have hdate := DateReader.date_isoText d []
  rw [List.append_nil] at hdate
  rw [ofText, hdate]
  exact WrittenDate.toDay_of_day d

end Day

/-! ## Texts with hyphens -/

lemma Numeral.splitSign_of_isDigit {c : Char} (h : isDigit c) (s : List Char) :
    splitSign (c :: s) = (false, c :: s) := by
  have hminus : c ≠ '-' := by
    rintro rfl
    exact absurd h (by decide)
  have hplus : c ≠ '+' := by
    rintro rfl
    exact absurd h (by decide)
  rw [splitSign] <;> simpa

/-- A text that starts with a digit and has a hyphen is no whole number. -/
lemma Day.wholeDay?_of_hyphen {c : Char} {s : List Char} (hdigit : Numeral.isDigit c)
    (hhyphen : '-' ∈ s) : wholeDay? (c :: s) = none := by
  rw [wholeDay?, Numeral.splitSign_of_isDigit hdigit, if_neg]
  rw [List.all_eq_true]
  exact fun h => absurd (h '-' (List.mem_cons_of_mem _ hhyphen)) (by decide)

/-- Digits up to a hyphen are no timestamp. -/
lemma Day.timestamp?_of_hyphen {digits : List Char} (hne : digits ≠ [])
    (hdigits : ∀ c ∈ digits, Numeral.isDigit c) (s : List Char) :
    timestamp? (digits ++ '-' :: s) = none := by
  have hsign : Numeral.splitSign (digits ++ '-' :: s) = (false, digits ++ '-' :: s) := by
    obtain ⟨c, rest, rfl⟩ := List.exists_cons_of_ne_nil hne
    exact Numeral.splitSign_of_isDigit (hdigits c List.mem_cons_self) _
  have hsplit : Numeral.splitDigits (digits ++ '-' :: s) = (digits, '-' :: s) := by
    have hstop : Numeral.isDigit '-' = false := rfl
    rw [Numeral.splitDigits, List.takeWhile_append_of_pos hdigits,
      List.dropWhile_append_of_pos hdigits, List.takeWhile_cons_of_neg (by simp [hstop]),
      List.dropWhile_cons_of_neg (by simp [hstop]), List.append_nil]
  simp only [timestamp?, hsign, hsplit]
  split_ifs <;> rfl

/-! ## Midnights -/

/-- The moment at which a day starts by a clock that is so many minutes ahead of UTC. -/
def Day.midnight (d : Day) (minutes : Int) (h : -1440 < minutes ∧ minutes < 1440) : Moment where
  day := d
  hour := 0
  minute := 0
  second := 0
  microsecond := 0
  offset := some (minutes * 60000000)
  clock_lt := by decide
  offset_lt := by
    rintro _ ⟨⟩
    unfold dayLength
    omega

section Midnight

variable {minutes : Int} (d : Day) (h : -1440 < minutes ∧ minutes < 1440)

/-- An offset in whole minutes has hours and minutes only. -/
lemma Moment.toList_offsetText (h : -1440 < minutes ∧ minutes < 1440) :
    (offsetText (minutes * 60000000)).toList = (if minutes < 0 then '-' else '+') ::
      (lastDigits 2 (minutes.natAbs / 60) ++ ':' :: lastDigits 2 (minutes.natAbs % 60)) := by
  have htotal : (minutes * 60000000).natAbs = minutes.natAbs * 60000000 := Int.natAbs_mul _ _
  have hwhole : (minutes * 60000000).natAbs % 60000000 = 0 := by omega
  have hhours : (minutes * 60000000).natAbs / 1000000 / 3600 = minutes.natAbs / 60 := by omega
  have hminutes : (minutes * 60000000).natAbs / 1000000 / 60 % 60 = minutes.natAbs % 60 := by omega
  have hsign : minutes * 60000000 < 0 ↔ minutes < 0 := by omega
  simp only [offsetText, hwhole, hhours, hminutes, hsign, if_true, String.append_empty,
    String.toList_append]
  rw [Day.toList_twoDigits (by omega), Day.toList_twoDigits (by omega)]
  split_ifs <;> rfl

lemma DateReader.offset_offsetText (h : -1440 < minutes ∧ minutes < 1440) :
    offset (Moment.offsetText (minutes * 60000000)).toList = .ok ((), []) := by
  rw [Moment.toList_offsetText h]
  have hhour : minutes.natAbs / 60 < 24 := by omega
  have hminute : minutes.natAbs % 60 < 60 := by omega
  have hread := offsetMinutes_lastDigits hhour hminute
  split_ifs
  · exact congrArg (Except.map fun r => ((), r.2)) hread
  · exact congrArg (Except.map fun r => ((), r.2)) hread

lemma Day.toList_isoText_midnight :
    ((d.midnight minutes h).isoText "T").toList =
      d.isoText.toList ++ 'T' :: ("00:00:00".toList ++
        (Moment.offsetText (minutes * 60000000)).toList) := by
  have hzero : (twoDigits 0).toList = ['0', '0'] := toList_twoDigits (by decide)
  have hfraction : (Moment.fractionText 0).toList = [] := rfl
  simp [Moment.isoText, midnight, hzero, hfraction]

/-- The offset of a midnight is read and does not matter. -/
lemma DateReader.dateTime_isoText_midnight :
    dateTime ((d.midnight minutes h).isoText "T").toList =
      .ok (⟨d.year, d.month, d.day⟩, ⟨0, 0⟩) := by
  have hfraction : fraction (Moment.offsetText (minutes * 60000000)).toList =
      .ok (0, (Moment.offsetText (minutes * 60000000)).toList) := by
    rw [Moment.toList_offsetText h]
    split_ifs <;> rfl
  rw [Day.toList_isoText_midnight, dateTime]
  simp only [date_isoText, bind, Except.bind, mark_cons (List.mem_cons_self), clock_zero hfraction,
    offset_offsetText h]
  rfl

/-- **Midnights read back as their days.**  The ISO text of the moment at which a day starts is read
as this day, by whatever clock it starts then. -/
theorem Day.ofText_isoText_midnight : ofText ((d.midnight minutes h).isoText "T") = .ok d := by
  have hlist := toList_isoText_midnight d h
  have hdate := DateReader.date_isoText d
    ('T' :: ("00:00:00".toList ++ (Moment.offsetText (minutes * 60000000)).toList))
  rw [← hlist] at hdate
  have hwhole : wholeDay? ((d.midnight minutes h).isoText "T").toList = none := by
    have hdigit : Numeral.isDigit (Nat.digitChar (d.year / 10 / 10 / 10 % 10)) :=
      isDigit_digitChar (Nat.mod_lt _ (by decide))
    rw [hlist, toList_isoText]
    exact wholeDay?_of_hyphen hdigit (by simp)
  -- As a date alone the text is too long, so that it gets as far as the reader of dates with a time
  -- of day.
  rw [ofText]
  simp only [hdate, hwhole, DateReader.dateTime_isoText_midnight, if_true]
  exact WrittenDate.toDay_of_day d

/-- In UTC a midnight belongs to the day that starts then unless the clock is ahead. -/
lemma Day.utcDay?_midnight :
    (d.midnight minutes h).utcDay? = if 0 < minutes then d.prev? else some d := by
  have hday : (d.midnight minutes h).day = d := rfl
  have hoffset : (d.midnight minutes h).offset = some (minutes * 60000000) := rfl
  have htime : ((d.midnight minutes h).timeOfDay : Int) = 0 := by simp [Moment.timeOfDay, midnight]
  have hlate : (0 : Int) - minutes * 60000000 < dayLength := by
    unfold dayLength
    omega
  have hearly : (0 : Int) - minutes * 60000000 < 0 ↔ 0 < minutes := by omega
  simp only [Moment.utcDay?, hoffset, htime, hday, hearly, hlate, if_true]

end Midnight

/-! ## Days before the year 1000 -/

lemma utf8Size_of_isDigit {c : Char} (h : Numeral.isDigit c) : c.utf8Size = 1 := by
  rw [Numeral.isDigit, Bool.and_eq_true, decide_eq_true_iff, decide_eq_true_iff] at h
  exact Char.utf8Size_eq_one_iff.mpr (Nat.le_trans h.2 (by decide))

namespace Day

/-- The text of a day has six characters behind the year, and all its characters are in ASCII. -/
lemma octets_text (d : Day) :
    DateReader.octets d.text.toList = (toString d.year).toList.length + 6 := by
  have hascii : ∀ c ∈ d.text.toList, c.utf8Size = 1 := by
    rw [toList_text, toList_twoDigits d.month_lt, toList_twoDigits d.day_lt]
    intro c hc
    simp only [List.mem_append, List.mem_cons] at hc
    obtain hyear | rfl | hmonth | rfl | hday := hc
    · exact utf8Size_of_isDigit (isDigit_of_mem_toString hyear)
    · rfl
    · exact utf8Size_of_isDigit (isDigit_of_mem_lastDigits hmonth)
    · rfl
    · exact utf8Size_of_isDigit (isDigit_of_mem_lastDigits hday)
  rw [DateReader.octets_eq_length hascii, toList_text, toList_twoDigits d.month_lt,
    toList_twoDigits d.day_lt]
  simp only [List.length_append, List.length_cons, length_lastDigits]

/-- The text of a day before the year 1000 is too short to be read. -/
theorem ofText_text_of_early {d : Day} (h : d.year < 1000) :
    ofText d.text = .error (.unread .tooShort) := by
  have hyear : (toString d.year).toList = Nat.toDigits 10 d.year := by
    rw [Nat.toString_eq_ofList_toDigits, String.toList_ofList]
  -- The digits of the year are what a timestamp would be read from, were it not for the hyphen
  -- behind them.
  have hdigits : ∀ c ∈ (toString d.year).toList, Numeral.isDigit c :=
    fun c hc => isDigit_of_mem_toString hc
  have hne : (toString d.year).toList ≠ [] := by
    rw [hyear]
    exact List.ne_nil_of_length_pos Nat.length_toDigits_pos
  have hfew : (toString d.year).toList.length ≤ 3 := by
    rw [hyear]
    exact (Nat.length_toDigits_le_iff (by decide) (by decide)).mpr h
  have hshort : DateReader.octets d.text.toList < 10 := by
    rw [octets_text]
    omega
  have hwhole : wholeDay? d.text.toList = none := by
    obtain ⟨c, rest, hcons⟩ := List.exists_cons_of_ne_nil hne
    rw [toList_text, hcons]
    exact wholeDay?_of_hyphen (hdigits c (hcons ▸ List.mem_cons_self)) (by simp)
  have htimestamp : timestamp? d.text.toList = none := by
    rw [toList_text]
    exact timestamp?_of_hyphen hne hdigits _
  rw [ofText]
  simp only [DateReader.date_of_short hshort, hwhole, DateReader.dateTime_of_short hshort,
    htimestamp]

end Day

end SiteStats
