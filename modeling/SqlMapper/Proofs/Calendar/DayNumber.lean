import SqlMapper.Calendar.Moment

/-!
# Counting days

A day that is found by its number has that number (`Date.dayNumber_of_ofDayNumber?`), and so an instant that is found
by its seconds has these seconds (`Moment.unixSeconds_of_ofUnixSeconds?`). The search counts 400 years as one era; a
day of an era lies in a century, in a run of four years and in a year (`exists_parts`, `yearOfEra_eq`), and what is
left is a day of a year that begins in March (`dayOfYear_bounds`). No day comes before the first one or after the last
one (`Date.dayNumber_bounds`), and the seconds of the calendar fit into 64 bits (`Moment.bounds_of_ofUnixSeconds?`).
-/

namespace SqlMapper.Calendar

variable {day c a s : Int}

/-! ## Days of an era -/

/-- The year that a day of an era belongs to. -/
def yearOfEra (day : Int) : Int := (day - day / 1460 + day / 36524 - day / 146096) / 365

/-- A day of an era before its last day: `c` centuries, `a` runs of four years, and `s` days. -/
theorem exists_parts (h0 : 0 ≤ day) (h1 : day < 146096) : ∃ c a s, day = 36524 * c + 1461 * a + s ∧ (0 ≤ c ∧ c ≤ 3) ∧
    (0 ≤ a ∧ a ≤ 24) ∧ (0 ≤ s ∧ s ≤ 1460) ∧ 1461 * a + s < 36524 :=
  ⟨day / 36524, day % 36524 / 1461, day % 36524 % 1461, by omega, by omega, by omega, by omega, by omega⟩

/-- The year takes `t` years of 365 days from the days that are left. Dividing by 1460 may count one run of four years
too many, but only near the end of one. -/
theorem yearOfEra_eq (hd : day = 36524 * c + 1461 * a + s) (hc : 0 ≤ c ∧ c ≤ 3) (ha : 0 ≤ a ∧ a ≤ 24)
    (hs : 0 ≤ s ∧ s ≤ 1460) (hr : 1461 * a + s < 36524) :
    ∃ t, (0 ≤ t ∧ t ≤ 3) ∧ 365 * t ≤ s ∧ s ≤ 365 * t + 365 ∧ yearOfEra day = 100 * c + 4 * a + t := by
  have hcentury : day / 36524 = c := by omega
  have hera : day / 146096 = 0 := by omega
  obtain ⟨e, he, he0, he1⟩ : ∃ e, day / 1460 = 25 * c + a + e ∧ 0 ≤ e ∧ e ≤ 1 :=
    ⟨day / 1460 - (25 * c + a), by omega⟩
  have hnear : e = 1 → 1340 ≤ s := by omega
  have hend : s = 1460 → e = 1 := by omega
  refine ⟨(s - e) / 365, by omega, by omega, by omega, ?_⟩
  unfold yearOfEra
  omega

/-- Leap days in front of a year of an era, apart from those of the era. -/
theorem leapDays_eq {t : Int} (ha : 0 ≤ a ∧ a ≤ 24) (ht : 0 ≤ t ∧ t ≤ 3) :
    (100 * c + 4 * a + t) / 4 = 25 * c + a ∧ (100 * c + 4 * a + t) / 100 = c := by
  omega

/-- A day of an era is a day of one of its years. -/
theorem dayOfYear_bounds (h0 : 0 ≤ day) (h1 : day < 146097) : 0 ≤ yearOfEra day ∧ yearOfEra day ≤ 399 ∧
    0 ≤ day - (365 * yearOfEra day + yearOfEra day / 4 - yearOfEra day / 100) ∧
    day - (365 * yearOfEra day + yearOfEra day / 4 - yearOfEra day / 100) ≤ 365 := by
  by_cases hlast : day = 146096
  · subst hlast
    decide
  · obtain ⟨c, a, s, hd, hc, ha, hs, hr⟩ := exists_parts h0 (by omega)
    obtain ⟨t, ht, hl, hu, hy⟩ := yearOfEra_eq hd hc ha hs hr
    obtain ⟨h4, h100⟩ := leapDays_eq (c := c) ha ht
    rw [hy, h4, h100, hd]
    -- the divisions are gone, and their definitions would only slow the search
    clear hy hd h4 h100
    omega

/-! ## Dates -/

theorem Date.of?_eq_some {year : Int} {month day : Nat} {d : Date} (h : of? year month day = some d) :
    d.year = year ∧ d.month = month ∧ d.day = day := by
  unfold of? at h
  split at h
  · cases h
    exact ⟨rfl, rfl, rfl⟩
  · cases h

/-- The day number of a day of a year that begins in March, with `m` whole months in front of its month. -/
theorem daysFromMarch_eq (year : Int) {m dayOfYear : Int} (hm : m = (5 * dayOfYear + 2) / 153) (h0 : 0 ≤ dayOfYear)
    (h1 : dayOfYear ≤ 365) {month : Int} (hmonth : month = if m < 10 then m + 3 else m - 9) :
    Date.daysFromMarch (year + if month ≤ 2 then 1 else 0) month.toNat (dayOfYear - (153 * m + 2) / 5 + 1).toNat =
      365 * year + year / 4 - year / 100 + year / 400 + dayOfYear := by
  have hbounds : 0 ≤ m ∧ m ≤ 11 := by omega
  have hday : ((dayOfYear - (153 * m + 2) / 5 + 1).toNat : Int) = dayOfYear - (153 * m + 2) / 5 + 1 :=
    Int.toNat_of_nonneg (by omega)
  have hnat : (month.toNat : Int) = month := Int.toNat_of_nonneg (by split at hmonth <;> omega)
  have hcount : (month + 9) % 12 = m := by split at hmonth <;> omega
  unfold Date.daysFromMarch
  dsimp only
  rw [hnat, hcount, hday]
  have hyear : (if month.toNat ≤ 2 then (year + if month ≤ 2 then 1 else 0) - 1
      else year + if month ≤ 2 then 1 else 0) = year := by
    split <;> split <;> omega
  rw [hyear]
  omega

/-- The day of an era is counted by whole years and the days of the year. -/
theorem count_years {day era y : Int} (h0 : 0 ≤ y) (h1 : y ≤ 399) :
    365 * (y + era * 400) + (y + era * 400) / 4 - (y + era * 400) / 100 + (y + era * 400) / 400 +
      (day - (365 * y + y / 4 - y / 100)) = 146097 * era + day := by
  omega

/-- **A day that is found by its number has that number.** -/
theorem Date.dayNumber_of_ofDayNumber? {n : Int} {d : Date} (h : ofDayNumber? n = some d) : d.dayNumber = n := by
  obtain ⟨hy, hm, hd⟩ := of?_eq_some h
  have h0 : 0 ≤ (n + 719468) % 146097 := by omega
  obtain ⟨hyear0, hyear, hday0, hday⟩ := dayOfYear_bounds h0 (by omega)
  have hcount := daysFromMarch_eq (yearOfEra ((n + 719468) % 146097) + (n + 719468) / 146097 * 400) rfl hday0 hday rfl
  rw [count_years hyear0 hyear, Int.mul_ediv_add_emod] at hcount
  rw [dayNumber, hy, hm, hd]
  refine (congrArg (· - 719468) hcount).trans ?_
  omega

/-! ## Instants -/

theorem Time.of?_eq_some {hour minute second nanosecond : Nat} {t : Time}
    (h : of? hour minute second nanosecond = some t) : t.secondOfDay = hour * 3600 + minute * 60 + second := by
  unfold of? at h
  split at h
  · cases h
    rfl
  · cases h

theorem DateTime.seconds_of_ofSeconds? {n : Int} {nanosecond : Fin 1000000000} {d : DateTime}
    (h : ofSeconds? n nanosecond = some d) : d.seconds = n := by
  obtain ⟨date, hdate, h⟩ := Option.bind_eq_some_iff.1 h
  obtain ⟨time, htime, h⟩ := Option.bind_eq_some_iff.1 h
  cases h
  have hday : date.dayNumber = n / 86400 := Date.dayNumber_of_ofDayNumber? hdate
  have hseconds := Time.of?_eq_some htime
  unfold seconds
  dsimp only
  omega

theorem DateTime.nanosecond_of_ofSeconds? {n : Int} {nanosecond : Fin 1000000000} {d : DateTime}
    (h : ofSeconds? n nanosecond = some d) : d.time.nanosecond = nanosecond := by
  obtain ⟨date, -, h⟩ := Option.bind_eq_some_iff.1 h
  obtain ⟨time, htime, h⟩ := Option.bind_eq_some_iff.1 h
  cases h
  unfold Time.of? at htime
  split at htime
  · cases htime
    rfl
  · cases htime

/-- **An instant that is found by its seconds has these seconds.** -/
theorem Moment.unixSeconds_of_ofUnixSeconds? {n : Int} {m : Moment} (h : ofUnixSeconds? n = some m) :
    m.unixSeconds = n := by
  obtain ⟨wall, hwall, rfl⟩ := Option.map_eq_some_iff.1 h
  have hseconds : wall.seconds = n := DateTime.seconds_of_ofSeconds? hwall
  rw [unixSeconds, hseconds, Int.sub_zero]

/-! ## Bounds -/

theorem daysInMonth_le (year : Int) (month : Nat) : daysInMonth year month ≤ 31 := by
  unfold daysInMonth
  split
  · split <;> decide
  · split <;> decide

/-- The first day of the calendar. -/
def Date.first : Date := ⟨-9999, 1, 1, by decide⟩

/-- The last day of the calendar. -/
def Date.last : Date := ⟨9999, 12, 31, by decide⟩

/-- The last second of the last day. -/
def DateTime.last : DateTime :=
  ⟨.last, { Time.midnight with hour := Fin.last 23, minute := Fin.last 59, second := Fin.last 59 }⟩

theorem Date.dayNumber_first : first.dayNumber = -4371587 := by decide

theorem Date.dayNumber_last : last.dayNumber = 2932896 := by decide

/-- No day comes before the first one or after the last one. -/
theorem Date.dayNumber_bounds (d : Date) : first.dayNumber ≤ d.dayNumber ∧ d.dayNumber ≤ last.dayNumber := by
  rw [dayNumber_first, dayNumber_last]
  obtain ⟨year, month, day, hy0, hy1, hm0, hm1, hd0, hd1⟩ := d
  have hday : day ≤ 31 := Nat.le_trans hd1 (daysInMonth_le year month)
  unfold dayNumber daysFromMarch
  dsimp only
  split
  · next hm =>
    have hcount : ((month : Int) + 9) % 12 = month + 9 := by omega
    rw [hcount]
    omega
  · next hm =>
    have hcount : ((month : Int) + 9) % 12 = month - 3 := by omega
    rw [hcount]
    omega

theorem Time.secondOfDay_lt (t : Time) : t.secondOfDay < 86400 := by
  have hh := t.hour.isLt
  have hm := t.minute.isLt
  have hs := t.second.isLt
  unfold secondOfDay
  omega

theorem DateTime.seconds_bounds (d : DateTime) : -Int.pow 2 63 ≤ d.seconds ∧ d.seconds < Int.pow 2 63 := by
  have hd := d.date.dayNumber_bounds
  rw [Date.dayNumber_first, Date.dayNumber_last] at hd
  have ht := d.time.secondOfDay_lt
  have hpow : Int.pow 2 63 = 9223372036854775808 := by decide
  rw [hpow]
  unfold seconds
  omega

/-- Seconds inside of the calendar fit into 64 bits. -/
theorem Moment.bounds_of_ofUnixSeconds? {n : Int} {m : Moment} (h : ofUnixSeconds? n = some m) :
    -Int.pow 2 63 ≤ n ∧ n < Int.pow 2 63 := by
  obtain ⟨wall, hwall, -⟩ := Option.map_eq_some_iff.1 h
  rw [← DateTime.seconds_of_ofSeconds? hwall]
  exact wall.seconds_bounds

end SqlMapper.Calendar
