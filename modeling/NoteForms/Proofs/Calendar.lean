import Mathlib.Order.Monotone.Basic
import Mathlib.Tactic.Common
import Mathlib.Tactic.IntervalCases
import NoteForms.Storage.Stamp

/-!
# The calendar

The stamp of a clock is counted in eras of 400 years that start in March, so that the day by which a
year is longer comes last.  Every stamp that is counted is a minute of the calendar
(`Stamp.isValid_ofSeconds`), and a later minute has a later stamp (`Stamp.isBefore_ofSeconds`).
-/

namespace NoteForms.Stamp

/-- One stamp is of an earlier minute than another. -/
def IsBefore (s t : Stamp) : Prop := s.parts < t.parts

theorem isBefore_iff {s t : Stamp} : s.IsBefore t ↔ s.year < t.year ∨ s.year = t.year ∧
    (s.month < t.month ∨ s.month = t.month ∧ (s.day < t.day ∨ s.day = t.day ∧
      (s.hour < t.hour ∨ s.hour = t.hour ∧ s.minute < t.minute))) := by
  simp [IsBefore, parts, List.cons_lt_cons_iff]

theorem year_le_of_isBefore {s t : Stamp} (h : s.IsBefore t) : s.year ≤ t.year := by
  rcases isBefore_iff.1 h with hyear | ⟨hyear, -⟩
  · exact hyear.le
  · exact hyear.le

/-! ## Years from March on -/

/-- The days from the first of March of the year 0 to that of another year. -/
def yearStart (year : ℕ) : ℕ := 365 * year + year / 4 - year / 100 + year / 400

theorem yearStart_add_eras (year eras : ℕ) :
    yearStart (year + eras * 400) = yearStart year + eras * 146097 := by
  simp only [yearStart]
  omega

theorem yearStart_mono {year other : ℕ} (h : year ≤ other) : yearStart year ≤ yearStart other := by
  refine monotone_nat_of_le_succ (fun n => ?_) h
  simp only [yearStart]
  omega

/-- The centuries, the fours of years, the years and the days of the last one that have passed on a
day of an era.  The fourth year of four is a day longer, but not that of every century. -/
structure IsInEra (n century four year day : ℕ) : Prop where
  century_lt : century < 4
  four_lt : four < 25
  year_lt : year < 4
  day_lt : day < 365 ∨ day = 365 ∧ year = 3 ∧ (four < 24 ∨ century = 3)
  eq : n = 36524 * century + 1461 * four + 365 * year + day

theorem exists_isInEra {n : ℕ} (h : n < 146097) :
    ∃ century four year day, IsInEra n century four year day := by
  obtain ⟨century, rest, hcentury, hrest, hn⟩ : ∃ century rest, century < 4 ∧
      (rest < 36524 ∨ rest = 36524 ∧ century = 3) ∧ n = 36524 * century + rest :=
    ⟨min (n / 36524) 3, n - 36524 * min (n / 36524) 3, by omega⟩
  obtain ⟨year, day, hyear, hday, hfour⟩ : ∃ year day, year < 4 ∧
      (day < 365 ∨ day = 365 ∧ year = 3) ∧ rest % 1461 = 365 * year + day :=
    ⟨min (rest % 1461 / 365) 3, rest % 1461 - 365 * min (rest % 1461 / 365) 3, by omega⟩
  exact ⟨century, rest / 1461, year, day, hcentury, by omega, hyear, by omega, by omega⟩

theorem IsInEra.year_eq {n century four year day : ℕ} (h : IsInEra n century four year day) :
    (n - n / 1460 + n / 36524 - n / 146096) / 365 = 100 * century + 4 * four + year := by
  obtain ⟨hcentury, hfour, hyear, hday, hn⟩ := h
  by_cases hlast : n = 146096
  · subst hlast
    omega
  · have hera : n / 146096 = 0 := by omega
    have hcenturies : n / 36524 = century := Nat.div_eq_of_lt_le (by omega) (by omega)
    -- The long years before this day and the days of this year may make one more of 1460 days.
    obtain ⟨more, hfours, hmore⟩ : ∃ more, n / 1460 = 25 * century + four + more ∧ more ≤ day ∧
        day < 365 + more := ⟨n / 1460 - (25 * century + four), by omega, by omega, by omega⟩
    omega

theorem yearStart_of_cycles {century four year : ℕ} (hcentury : century < 4) (hfour : four < 25)
    (hyear : year < 4) : yearStart (100 * century + 4 * four + year)
      = 36524 * century + 1461 * four + 365 * year := by
  have hfours : (100 * century + 4 * four + year) / 4 = 25 * century + four := by omega
  have hcenturies : (100 * century + 4 * four + year) / 100 = century := by omega
  have heras : (100 * century + 4 * four + year) / 400 = 0 := by omega
  rw [yearStart, hfours, hcenturies, heras]
  omega

theorem IsInEra.lt_yearStart {n century four year day : ℕ} (h : IsInEra n century four year day) :
    n < yearStart (100 * century + 4 * four + year + 1) := by
  obtain ⟨hcentury, hfour, hyear, hday, hn⟩ := h
  by_cases hlast : year < 3
  · have hnext := yearStart_of_cycles hcentury hfour (by omega : year + 1 < 4)
    rw [Nat.add_assoc, hnext]
    omega
  obtain rfl : year = 3 := by omega
  by_cases hend : four < 24
  · have hnext := yearStart_of_cycles hcentury (by omega : four + 1 < 25) (by decide : 0 < 4)
    rw [show 100 * century + 4 * four + 3 + 1 = 100 * century + 4 * (four + 1) + 0 by omega, hnext]
    omega
  obtain rfl : four = 24 := by omega
  by_cases hera : century < 3
  · have hnext := yearStart_of_cycles (by omega : century + 1 < 4) (by decide : 0 < 25)
      (by decide : 0 < 4)
    rw [show 100 * century + 4 * 24 + 3 + 1 = 100 * (century + 1) + 4 * 0 + 0 by omega, hnext]
    omega
  · obtain rfl : century = 3 := by omega
    have hnext : yearStart (100 * 3 + 4 * 24 + 3 + 1) = 146097 := rfl
    omega

/-- The year of a day of an era has begun, and the next one has not. -/
theorem year_of_day {n : ℕ} (h : n < 146097) :
    let year := (n - n / 1460 + n / 36524 - n / 146096) / 365
    365 * year + year / 4 - year / 100 = yearStart year ∧ yearStart year ≤ n
      ∧ n < yearStart (year + 1) := by
  obtain ⟨century, four, year, day, hday⟩ := exists_isInEra h
  have hstart := yearStart_of_cycles hday.century_lt hday.four_lt hday.year_lt
  have heq := hday.eq
  have heras : (100 * century + 4 * four + year) / 400 = 0 := by
    obtain ⟨hcentury, hfour, hyear, -, -⟩ := hday
    omega
  simp only [hday.year_eq]
  refine ⟨?_, by omega, hday.lt_yearStart⟩
  rw [yearStart, heras, Nat.add_zero]

/-! ## Dates -/

/-- The days of a year from the first of March to the first of a month, which is counted from March
as well. -/
def monthStart (index : ℕ) : ℕ := (153 * index + 2) / 5

theorem month_of_day {n : ℕ} (h : n < 366) : (5 * n + 2) / 153 < 12
    ∧ monthStart ((5 * n + 2) / 153) ≤ n ∧ n < monthStart ((5 * n + 2) / 153 + 1) := by
  simp only [monthStart]
  omega

theorem monthStart_mono {index other : ℕ} (h : index ≤ other) :
    monthStart index ≤ monthStart other := by
  simp only [monthStart]
  omega

/-- A day as a day of a month of a year, each of them counted from 0 and from March on. -/
structure IsDate (n year index day : ℕ) : Prop where
  index_lt : index < 12
  day_lt : monthStart index + day < monthStart (index + 1)
  lt : n < yearStart (year + 1)
  eq : n = yearStart year + monthStart index + day

theorem exists_isDate (n : ℕ) : ∃ year index day, IsDate n year index day ∧ dateOfDay n
    = (if index < 10 then (year, index + 3, day + 1) else (year + 1, index - 9, day + 1)) := by
  obtain ⟨hyear, hstart, hnext⟩ := year_of_day (Nat.mod_lt n (by decide : 0 < 146097))
  unfold dateOfDay
  simp only [hyear]
  generalize (n % 146097 - n % 146097 / 1460 + n % 146097 / 36524 - n % 146097 / 146096) / 365
    = year at hstart hnext
  have hlength : yearStart (year + 1) ≤ yearStart year + 366 := by
    simp only [yearStart]
    omega
  generalize hrest : n % 146097 - yearStart year = rest
  have hlt : rest < 366 := by omega
  obtain ⟨hindex, hmonth, hday⟩ := month_of_day hlt
  have hstart' := yearStart_add_eras year (n / 146097)
  have hnext' := yearStart_add_eras (year + 1) (n / 146097)
  refine ⟨year + n / 146097 * 400, (5 * rest + 2) / 153,
    rest - monthStart ((5 * rest + 2) / 153), ⟨hindex, by omega, ?_, by omega⟩, ?_⟩
  · rw [Nat.add_right_comm, hnext']
    omega
  · simp only [monthStart]
    by_cases hearly : (5 * rest + 2) / 153 < 10
    · simp [hearly]
    · have hwinter : (5 * rest + 2) / 153 - 9 ≤ 2 := by omega
      simp [hearly, hwinter, Nat.add_right_comm]

theorem isLeapYear_natCast (year : ℕ) : isLeapYear year = true
    ↔ year % 4 = 0 ∧ (year % 100 ≠ 0 ∨ year % 400 = 0) := by
  simp only [isLeapYear, Bool.and_eq_true, Bool.or_eq_true, decide_eq_true_eq]
  omega

theorem yearStart_succ_le (year : ℕ) : yearStart (year + 1)
    ≤ yearStart year + if isLeapYear (year + 1 : ℕ) then 366 else 365 := by
  have hfours : (year + 1) / 4 = year / 4 + if (year + 1) % 4 = 0 then 1 else 0 := by
    split <;> omega
  have hcenturies : (year + 1) / 100 = year / 100 + if (year + 1) % 100 = 0 then 1 else 0 := by
    split <;> omega
  have heras : (year + 1) / 400 = year / 400 + if (year + 1) % 400 = 0 then 1 else 0 := by
    split <;> omega
  simp only [isLeapYear_natCast, yearStart, hfours, hcenturies, heras]
  split_ifs <;> omega

/-- From March to December the lengths of months are those of the calendar in every year. -/
theorem monthStart_succ (year : ℤ) {index : ℕ} (h : index < 10) :
    monthStart (index + 1) = monthStart index + daysOf year (index + 3) := by
  interval_cases index <;> rfl

theorem IsDate.day_lt_daysOf {n year index day : ℕ} (h : IsDate n year index day) : day
    < if index < 10 then daysOf year (index + 3) else daysOf (year + 1 : ℕ) (index - 9) := by
  obtain ⟨hindex, hday, hlt, heq⟩ := h
  split
  · rename_i hearly
    have hmonth := monthStart_succ year hearly
    omega
  · obtain rfl | rfl : index = 10 ∨ index = 11 := by omega
    · exact Nat.lt_of_add_lt_add_left hday
    · -- February ends with the year.
      have hyear := yearStart_succ_le year
      have hfebruary : daysOf (year + 1 : ℕ) (11 - 9)
        = if isLeapYear (year + 1 : ℕ) then 29 else 28 := rfl
      have hstart : monthStart 11 = 337 := rfl
      rw [hfebruary]
      split_ifs at hyear ⊢ <;> omega

theorem IsDate.lt_of_lt {n year index day n' year' index' day' : ℕ} (h : IsDate n year index day)
    (h' : IsDate n' year' index' day') (hlt : n < n') :
    year < year' ∨ year = year' ∧ (index < index' ∨ index = index' ∧ day < day') := by
  have hn := h.eq
  have hn' := h'.eq
  have hyears : year ≤ year' := not_lt.1 fun (hyear : year' + 1 ≤ year) => by
    have hstart := yearStart_mono hyear
    have hend := h'.lt
    omega
  refine (lt_or_eq_of_le hyears).imp_right ?_
  rintro rfl
  have hmonths : index ≤ index' := not_lt.1 fun (hindex : index' + 1 ≤ index) => by
    have hstart := monthStart_mono hindex
    have hend := h'.day_lt
    omega
  refine ⟨rfl, (lt_or_eq_of_le hmonths).imp_right ?_⟩
  rintro rfl
  exact ⟨rfl, by omega⟩

/-! ## Minutes of a clock -/

theorem exists_ofSeconds (seconds : ℕ) : ∃ year index day,
    IsDate (seconds / 86400 + 719468) year index day ∧ ofSeconds seconds
      = if index < 10 then ⟨year, index + 3, day + 1, seconds % 86400 / 3600, seconds % 3600 / 60⟩
        else ⟨(year + 1 : ℕ), index - 9, day + 1, seconds % 86400 / 3600, seconds % 3600 / 60⟩ := by
  obtain ⟨year, index, day, hdate, heq⟩ := exists_isDate (seconds / 86400 + 719468)
  refine ⟨year, index, day, hdate, ?_⟩
  rw [ofSeconds, heq]
  by_cases hearly : index < 10
  · simp only [if_pos hearly]
  · simp only [if_neg hearly]

/-- A clock shows minutes of the calendar. -/
theorem isValid_ofSeconds (seconds : ℕ) : (ofSeconds seconds).isValid = true := by
  obtain ⟨year, index, day, hdate, heq⟩ := exists_ofSeconds seconds
  have hday := hdate.day_lt_daysOf
  have hindex := hdate.index_lt
  rw [heq]
  split_ifs at hday ⊢
  all_goals simp only [isValid, Bool.and_eq_true, decide_eq_true_eq]
  all_goals omega

theorem year_ofSeconds_nonneg (seconds : ℕ) : 0 ≤ (ofSeconds seconds).year := by
  rw [ofSeconds]
  exact Int.natCast_nonneg _

theorem lt_of_minutes_lt {m n : ℕ} (hday : m / 86400 = n / 86400) (h : m / 60 < n / 60) :
    m % 86400 / 3600 < n % 86400 / 3600
      ∨ m % 86400 / 3600 = n % 86400 / 3600 ∧ m % 3600 / 60 < n % 3600 / 60 := by
  have hhour (k : ℕ) : k % 86400 / 3600 = k / 60 / 60 - 24 * (k / 86400) := by omega
  have hminute (k : ℕ) : k % 3600 / 60 = k / 60 - 60 * (k / 60 / 60) := by omega
  have hstart (k : ℕ) : 24 * (k / 86400) ≤ k / 60 / 60 := by omega
  have hm := hstart m
  have hn := hstart n
  simp only [hhour, hminute, hday] at hm ⊢
  generalize n / 86400 = days at *
  omega

/-- The stamps of a clock are in the order of its minutes. -/
theorem isBefore_ofSeconds {m n : ℕ} (h : m / 60 < n / 60) :
    (ofSeconds m).IsBefore (ofSeconds n) := by
  rw [isBefore_iff]
  rcases Nat.lt_or_ge (m / 86400) (n / 86400) with hday | hday
  · obtain ⟨year, index, day, hdate, heq⟩ := exists_ofSeconds m
    obtain ⟨year', index', day', hdate', heq'⟩ := exists_ofSeconds n
    have hdates := hdate.lt_of_lt hdate' (Nat.add_lt_add_right hday _)
    have hindex := hdate.index_lt
    have hindex' := hdate'.index_lt
    rw [heq, heq']
    split_ifs
    all_goals simp only []
    all_goals omega
  · have hsame : m / 86400 = n / 86400 := by omega
    simp only [ofSeconds, hsame, true_and]
    exact .inr (.inr (.inr (lt_of_minutes_lt hsame h)))

theorem ofSeconds_minute (seconds : ℕ) : ofSeconds (seconds / 60 * 60) = ofSeconds seconds := by
  have hday : seconds / 60 * 60 / 86400 = seconds / 86400 := by omega
  have hhour : seconds / 60 * 60 % 86400 / 3600 = seconds % 86400 / 3600 := by omega
  have hminute : seconds / 60 * 60 % 3600 / 60 = seconds % 3600 / 60 := by omega
  simp only [ofSeconds, hday, hhour, hminute]

end NoteForms.Stamp
