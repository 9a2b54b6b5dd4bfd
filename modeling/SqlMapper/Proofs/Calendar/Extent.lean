import SqlMapper.Proofs.Calendar.DayNumber

/-!
# The extent of the calendar

Every number from that of the first day to that of the last day is the number of a day, which is found
(`Date.exists_ofDayNumber?_iff`), and so an instant is found by its seconds from the start of the first day to the end
of the last one (`Moment.exists_ofUnixSeconds?_iff`), and other clocks show a moment where their own seconds do
(`Moment.exists_at?_iff`). The parts that the search computes are those of a day: months have the days that they count
(`month_day_bounds`), and the last day of a year that begins in March is one of a leap year where the search counts 366
of them (`isLeapYear_of_last`).
-/

namespace SqlMapper.Calendar

variable {day c a s : Int}

/-! ## Leap days -/

theorem isLeapYear_of_mod {year : Int} (h4 : year % 4 = 0) (h100 : year % 100 ≠ 0 ∨ year % 400 = 0) :
    isLeapYear year = true := by
  unfold isLeapYear
  simp only [h4, decide_true, Bool.true_and, Bool.or_eq_true, decide_eq_true_eq]
  exact h100

/-- Only the fourth year of a run of four years has a day after 365 others. -/
theorem fourth_year_of_last (hd : day = 36524 * c + 1461 * a + s) (hc : 0 ≤ c ∧ c ≤ 3) (ha : 0 ≤ a ∧ a ≤ 24)
    (hr : 1461 * a + s < 36524) {t : Int} (ht : 0 ≤ t ∧ t ≤ 3) (hy : yearOfEra day = 100 * c + 4 * a + t)
    (hlast : s = 365 * t + 365) : t = 3 ∧ a ≤ 23 := by
  have hcentury : day / 36524 = c := by omega
  have hera : day / 146096 = 0 := by omega
  -- in an earlier year the search counts no run of four years too many, and so comes to the next year
  have hrun : t ≤ 2 → day / 1460 = 25 * c + a := by omega
  unfold yearOfEra at hy
  rw [hcentury, hera] at hy
  omega

/-- A year that begins in March and has a day after 365 others ends in a leap year. -/
theorem isLeapYear_of_last (h0 : 0 ≤ day) (h1 : day < 146097) (era : Int)
    (hlast : day - (365 * yearOfEra day + yearOfEra day / 4 - yearOfEra day / 100) = 365) :
    isLeapYear (yearOfEra day + era * 400 + 1) = true := by
  by_cases hend : day = 146096
  · subst hend
    have hyear : yearOfEra 146096 = 399 := by decide
    rw [hyear]
    exact isLeapYear_of_mod (by omega) (.inr (by omega))
  · obtain ⟨c, a, s, hd, hc, ha, hs, hr⟩ := exists_parts h0 (by omega)
    obtain ⟨t, ht, hl, hu, hy⟩ := yearOfEra_eq hd hc ha hs hr
    obtain ⟨h4, h100⟩ := leapDays_eq (c := c) ha ht
    have hs' : s = 365 * t + 365 := by
      rw [hy, h4, h100] at hlast
      omega
    obtain ⟨rfl, ha'⟩ := fourth_year_of_last hd hc ha hr ht hy hs'
    rw [hy]
    exact isLeapYear_of_mod (by omega) (.inl (by omega))

/-! ## Months -/

/-- A day of a year that begins in March lies in a month, among the days of that month. Only the last day of the year
may be the 29th of February. -/
theorem month_day_bounds {dayOfYear m month d : Int} (h0 : 0 ≤ dayOfYear) (h1 : dayOfYear ≤ 365)
    (hm : m = (5 * dayOfYear + 2) / 153) (hmonth : month = if m < 10 then m + 3 else m - 9)
    (hd : d = dayOfYear - (153 * m + 2) / 5 + 1) :
    (1 ≤ month ∧ month ≤ 12) ∧ (1 ≤ d ∧ d ≤ 31) ∧
      (month = 4 ∨ month = 6 ∨ month = 9 ∨ month = 11 → d ≤ 30) ∧
      (month = 2 → d ≤ 29 ∧ (d = 29 → dayOfYear = 365)) := by
  split at hmonth <;> omega

theorem daysInMonth_of_bounds {year : Int} {month : Nat} {d : Nat} (h31 : d ≤ 31)
    (h30 : month = 4 ∨ month = 6 ∨ month = 9 ∨ month = 11 → d ≤ 30)
    (h29 : month = 2 → d ≤ 29 ∧ (d = 29 → isLeapYear year = true)) : d ≤ daysInMonth year month := by
  unfold daysInMonth
  split
  · next hm =>
    obtain ⟨hle, hleap⟩ := h29 hm
    split
    · exact hle
    · next hno => exact Nat.le_of_lt_succ (Nat.lt_of_le_of_ne hle fun he => hno (hleap he))
  · split
    · next hm => exact h30 hm
    · exact h31

/-! ## Days -/

/-- The years of the calendar, for years that begin in March: the first of them begins with its January, and the last
one ends with its December. -/
theorem year_bounds {y dayOfYear : Int} (h0 : 0 ≤ dayOfYear) (h1 : dayOfYear ≤ 365)
    (hl : -3652119 ≤ 365 * y + y / 4 - y / 100 + y / 400 + dayOfYear)
    (hu : 365 * y + y / 4 - y / 100 + y / 400 + dayOfYear ≤ 3652364) :
    (-9999 ≤ y ∨ y = -10000 ∧ 306 ≤ dayOfYear) ∧ (y ≤ 9998 ∨ y = 9999 ∧ dayOfYear ≤ 305) := by
  omega

/-- A day of a year that begins in March is a day of the calendar. -/
theorem isDate_of_dayOfYear {y dayOfYear m month d : Int} (h0 : 0 ≤ dayOfYear) (h1 : dayOfYear ≤ 365)
    (hl : -9999 ≤ y ∨ y = -10000 ∧ 306 ≤ dayOfYear) (hu : y ≤ 9998 ∨ y = 9999 ∧ dayOfYear ≤ 305)
    (hleap : dayOfYear = 365 → isLeapYear (y + 1) = true)
    (hm : m = (5 * dayOfYear + 2) / 153) (hmonth : month = if m < 10 then m + 3 else m - 9)
    (hd : d = dayOfYear - (153 * m + 2) / 5 + 1) :
    IsDate (y + if month ≤ 2 then 1 else 0) month.toNat d.toNat := by
  obtain ⟨hmonths, hdays, h30, h29⟩ := month_day_bounds h0 h1 hm hmonth hd
  have hyear : -9999 ≤ (y + if month ≤ 2 then 1 else 0) ∧ (y + if month ≤ 2 then 1 else 0) ≤ 9999 := by
    clear h30 h29 hdays hleap
    split <;> split at hmonth <;> omega
  refine ⟨hyear.1, hyear.2, by omega, by omega, by omega, ?_⟩
  refine daysInMonth_of_bounds (by omega) (by omega) fun hfeb => ?_
  have hfeb : month = 2 := by omega
  refine ⟨by have := (h29 hfeb).1; omega, fun he => ?_⟩
  rw [hfeb, if_pos (by decide)]
  exact hleap ((h29 hfeb).2 (by omega))

/-- **A day is found by its number from the first day to the last one.** -/
theorem Date.exists_ofDayNumber?_iff {n : Int} :
    (∃ d, ofDayNumber? n = some d) ↔ first.dayNumber ≤ n ∧ n ≤ last.dayNumber := by
  constructor
  · rintro ⟨d, h⟩
    rw [← dayNumber_of_ofDayNumber? h]
    exact d.dayNumber_bounds
  · rw [dayNumber_first, dayNumber_last]
    rintro ⟨hl, hu⟩
    have h0 : 0 ≤ (n + 719468) % 146097 := by omega
    have h1 : (n + 719468) % 146097 < 146097 := by omega
    obtain ⟨hyear0, hyear, hday0, hday⟩ := dayOfYear_bounds h0 h1
    obtain ⟨hlow, hhigh⟩ := year_bounds hday0 hday
      (by rw [count_years hyear0 hyear, Int.mul_ediv_add_emod]; omega)
      (by rw [count_years hyear0 hyear, Int.mul_ediv_add_emod]; omega)
    have hdate := isDate_of_dayOfYear hday0 hday hlow hhigh (isLeapYear_of_last h0 h1 _) rfl rfl rfl
    exact ⟨_, dif_pos hdate⟩

/-! ## Instants -/

/-- The number of seconds lies between the start of the first day and the end of the last day. -/
def InExtent (n : Int) : Prop :=
  Date.first.dayNumber * 86400 ≤ n ∧ n < (Date.last.dayNumber + 1) * 86400

/-- In numbers, the seconds from the year -9999 to the year 9999. -/
theorem inExtent_iff {n : Int} : InExtent n ↔ -377705116800 ≤ n ∧ n ≤ 253402300799 := by
  rw [InExtent, Date.dayNumber_first, Date.dayNumber_last]
  omega

instance (n : Int) : Decidable (InExtent n) := decidable_of_iff _ inExtent_iff.symm

/-- A date and time is never outside. -/
theorem DateTime.inExtent (d : DateTime) : InExtent d.seconds := by
  have hd := d.date.dayNumber_bounds
  have ht := d.time.secondOfDay_lt
  unfold InExtent seconds
  omega

/-- The seconds of a day are shown by a clock. -/
theorem Time.exists_of? {n : Nat} (h : n < 86400) (nanosecond : Fin 1000000000) :
    ∃ t, of? (n / 3600) (n / 60 % 60) (n % 60) nanosecond.val = some t :=
  ⟨_, dif_pos ⟨by omega, by omega, by omega, nanosecond.isLt⟩⟩

theorem DateTime.exists_ofSeconds?_iff {n : Int} (nanosecond : Fin 1000000000) :
    (∃ d, ofSeconds? n nanosecond = some d) ↔ InExtent n := by
  constructor
  · rintro ⟨d, h⟩
    rw [← seconds_of_ofSeconds? h]
    exact d.inExtent
  · rintro ⟨hl, hu⟩
    have hday : Date.first.dayNumber ≤ n / 86400 ∧ n / 86400 ≤ Date.last.dayNumber := by omega
    obtain ⟨date, hdate⟩ := Date.exists_ofDayNumber?_iff.2 hday
    have hrest : (n % 86400).toNat < 86400 := by omega
    obtain ⟨time, htime⟩ := Time.exists_of? hrest nanosecond
    exact ⟨⟨date, time⟩, Option.bind_eq_some_iff.2 ⟨date, hdate, Option.bind_eq_some_iff.2 ⟨time, htime, rfl⟩⟩⟩

/-- **An instant is found by its seconds inside of the calendar.** -/
theorem Moment.exists_ofUnixSeconds?_iff {n : Int} : (∃ m, ofUnixSeconds? n = some m) ↔ InExtent n := by
  rw [← DateTime.exists_ofSeconds?_iff 0]
  constructor
  · rintro ⟨m, h⟩
    obtain ⟨wall, hwall, -⟩ := Option.map_eq_some_iff.1 h
    exact ⟨wall, hwall⟩
  · rintro ⟨wall, hwall⟩
    exact ⟨⟨wall, 0⟩, Option.map_eq_some_iff.2 ⟨wall, hwall, rfl⟩⟩

/-! ## Other clocks -/

section Clocks

variable {m m' : Moment} {offset : Int}

/-- **A moment is the same instant on other clocks.** -/
theorem Moment.of_at? (h : m.at? offset = some m') :
    m'.offset = offset ∧ m'.unixSeconds = m.unixSeconds ∧ m'.wall.time.nanosecond = m.wall.time.nanosecond := by
  unfold at? at h
  split at h
  · next ho =>
    cases h
    exact ⟨ho, rfl, rfl⟩
  · obtain ⟨wall, hwall, rfl⟩ := Option.map_eq_some_iff.1 h
    have hseconds := DateTime.seconds_of_ofSeconds? hwall
    refine ⟨rfl, ?_, DateTime.nanosecond_of_ofSeconds? hwall⟩
    rw [unixSeconds, hseconds, Int.add_sub_cancel]

/-- **Clocks show a moment where their seconds lie inside of the calendar.** -/
theorem Moment.exists_at?_iff : (∃ m', m.at? offset = some m') ↔ InExtent (m.unixSeconds + offset) := by
  unfold at?
  split
  · next ho =>
    refine iff_of_true ⟨m, rfl⟩ ?_
    rw [← ho, unixSeconds, Int.sub_add_cancel]
    exact m.wall.inExtent
  · rw [← DateTime.exists_ofSeconds?_iff m.wall.time.nanosecond]
    constructor
    · rintro ⟨m', h⟩
      obtain ⟨wall, hwall, -⟩ := Option.map_eq_some_iff.1 h
      exact ⟨wall, hwall⟩
    · rintro ⟨wall, hwall⟩
      exact ⟨⟨wall, offset⟩, Option.map_eq_some_iff.2 ⟨wall, hwall, rfl⟩⟩

theorem Moment.at?_eq_none_iff : m.at? offset = none ↔ ¬ InExtent (m.unixSeconds + offset) := by
  rw [← exists_at?_iff, ← Option.isSome_iff_exists, Bool.not_eq_true, Option.isSome_eq_false_iff,
    Option.isNone_iff_eq_none]

end Clocks

end SqlMapper.Calendar
