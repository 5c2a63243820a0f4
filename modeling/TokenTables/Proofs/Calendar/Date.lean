import Mathlib.Tactic.IntervalCases
import TokenTables.Calendar.Date

/-!
The day number of a date and the date of a day number. Day numbers count the days of the proleptic Gregorian
calendar one by one: 1 January 1970 has number 0, and the day after a date has the number after its own.
The date of a number is valid and has that number, and no other valid date has it, so the two are
inverse to each other on both sides of 1970 and of year 0.
-/

namespace TokenTables.Date

/-! ## Months and years -/

def leapDay (year : Int) : Nat := if isLeap year then 1 else 0

theorem leapDay_le (year : Int) : leapDay year ≤ 1 := by
  unfold leapDay
  split <;> decide

theorem leapDay_eq (year : Int) :
    (leapDay year : Int) = year / 4 - (year - 1) / 4 - (year / 100 - (year - 1) / 100) +
      (year / 400 - (year - 1) / 400) := by
  unfold leapDay
  split
  case isTrue leap =>
    simp only [isLeap, Bool.and_eq_true, Bool.or_eq_true, decide_eq_true_eq] at leap
    omega
  case isFalse common =>
    simp only [isLeap, Bool.and_eq_true, Bool.or_eq_true, decide_eq_true_eq] at common
    omega

theorem leapDay_cycle (cycle year : Int) : leapDay (cycle * 400 + year) = leapDay year := by
  have four : (cycle * 400 + year) % 4 = year % 4 := by omega
  have hundred : (cycle * 400 + year) % 100 = year % 100 := by omega
  have all : (cycle * 400 + year) % 400 = year % 400 := by omega
  have same : isLeap (cycle * 400 + year) = isLeap year := by simp only [isLeap, four, hundred, all]
  rw [leapDay, same, leapDay]

theorem monthLength_february (year : Int) : monthLength year 2 = 28 + leapDay year := by
  simp only [monthLength, leapDay]
  split <;> rfl

theorem one_le_monthLength (year : Int) {month : Nat} (first : 1 ≤ month) (last : month ≤ 12) :
    1 ≤ monthLength year month := by
  interval_cases month <;> simp only [monthLength] <;> first | decide | (split <;> decide)

theorem monthLength_le (year : Int) (month : Nat) : monthLength year month ≤ 31 := by
  unfold monthLength
  split <;> first | decide | (split <;> decide)

theorem Valid.month_bounds {d : Date} (valid : d.Valid) : 1 ≤ d.month ∧ d.month ≤ 12 := by
  have some_day := valid.one_le_day.trans valid.day_le
  by_contra outside
  have none : monthLength d.year d.month = 0 := by
    unfold monthLength
    split <;> first | rfl | omega
  omega

theorem Valid.day_lt {d : Date} (valid : d.Valid) : d.day < 32 :=
  Nat.lt_succ_of_le (valid.day_le.trans (monthLength_le _ _))

theorem daysBeforeMonth_thirteen (year : Int) : daysBeforeMonth year 13 = 365 + leapDay year := by
  simp only [daysBeforeMonth, monthLength, leapDay]
  split <;> rfl

theorem daysBeforeYear_succ (year : Int) :
    daysBeforeYear (year + 1) = daysBeforeYear year + daysBeforeMonth year 13 := by
  have leap := leapDay_eq year
  rw [daysBeforeMonth_thirteen, daysBeforeYear, daysBeforeYear]
  push_cast
  omega

/-! ## Numbers count the days one by one -/

/-- The day after: the next of the month, else the first of the next month, else of the next year. -/
def next (d : Date) : Date :=
  if d.day < monthLength d.year d.month then { d with day := d.day + 1 }
  else if d.month < 12 then ⟨d.year, d.month + 1, 1⟩
  else ⟨d.year + 1, 1, 1⟩

theorem Valid.next {d : Date} (valid : d.Valid) : d.next.Valid := by
  have ⟨first, last⟩ := valid.month_bounds
  unfold Date.next
  split
  case isTrue more => exact ⟨Nat.le_add_left 1 _, more⟩
  case isFalse =>
    split
    case isTrue more => exact ⟨le_rfl, one_le_monthLength _ (Nat.le_add_left 1 _) more⟩
    case isFalse => exact ⟨le_rfl, one_le_monthLength _ le_rfl (Nat.le_add_left 1 11)⟩

theorem dayNumber_next {d : Date} (valid : d.Valid) : d.next.dayNumber = d.dayNumber + 1 := by
  have ⟨first, last⟩ := valid.month_bounds
  have inside := valid.day_le
  unfold next
  split
  case isTrue more =>
    simp only [dayNumber]
    push_cast
    omega
  case isFalse done =>
    have lastDay : d.day = monthLength d.year d.month := by omega
    split
    case isTrue more =>
      simp only [dayNumber, daysBeforeMonth, lastDay]
      push_cast
      omega
    case isFalse =>
      have december : d.month = 12 := by omega
      have whole : daysBeforeMonth d.year 13 = daysBeforeMonth d.year 12 + monthLength d.year 12 := rfl
      have opening : daysBeforeMonth (d.year + 1) 1 = 0 := rfl
      simp only [dayNumber, december, daysBeforeYear_succ, whole, opening, lastDay]
      push_cast
      omega

example : dayNumber ⟨1970, 1, 1⟩ = 0 := by decide

/-! ## No two dates have one number -/

theorem daysBeforeMonth_mono (year : Int) : Monotone (daysBeforeMonth year) :=
  monotone_nat_of_le_succ fun _ => Nat.le_add_right _ _

theorem daysBeforeYear_mono {a b : Int} (le : a ≤ b) : daysBeforeYear a ≤ daysBeforeYear b := by
  simp only [daysBeforeYear]
  omega

theorem Valid.dayNumber_month {d : Date} (valid : d.Valid) :
    daysBeforeYear d.year + daysBeforeMonth d.year d.month ≤ d.dayNumber + epochDay ∧
      d.dayNumber + epochDay < daysBeforeYear d.year + daysBeforeMonth d.year (d.month + 1) := by
  have first := valid.one_le_day
  have last := valid.day_le
  simp only [dayNumber, daysBeforeMonth]
  push_cast
  omega

theorem Valid.dayNumber_year {d : Date} (valid : d.Valid) :
    daysBeforeYear d.year ≤ d.dayNumber + epochDay ∧
      d.dayNumber + epochDay < daysBeforeYear (d.year + 1) := by
  have ⟨after, before⟩ := valid.dayNumber_month
  have whole : daysBeforeMonth d.year (d.month + 1) ≤ daysBeforeMonth d.year 13 :=
    daysBeforeMonth_mono _ (Nat.succ_le_succ valid.month_bounds.2)
  rw [daysBeforeYear_succ]
  omega

theorem Valid.year_le {d e : Date} (hd : d.Valid) (he : e.Valid) (le : d.dayNumber ≤ e.dayNumber) :
    d.year ≤ e.year := by
  by_contra later
  have after := hd.dayNumber_year.1
  have before := he.dayNumber_year.2
  have years : daysBeforeYear (e.year + 1) ≤ daysBeforeYear d.year := daysBeforeYear_mono (by omega)
  omega

theorem Valid.month_le {d e : Date} (hd : d.Valid) (he : e.Valid) (same : d.year = e.year)
    (le : d.dayNumber ≤ e.dayNumber) : d.month ≤ e.month := by
  by_contra later
  have after := hd.dayNumber_month.1
  have before := he.dayNumber_month.2
  have months : daysBeforeMonth e.year (e.month + 1) ≤ daysBeforeMonth e.year d.month :=
    daysBeforeMonth_mono _ (by omega)
  rw [same] at after
  omega

theorem eq_of_dayNumber_eq {d e : Date} (hd : d.Valid) (he : e.Valid)
    (same : d.dayNumber = e.dayNumber) : d = e := by
  have years : d.year = e.year := le_antisymm (hd.year_le he same.le) (he.year_le hd same.ge)
  have months : d.month = e.month :=
    le_antisymm (hd.month_le he years same.le) (he.month_le hd years.symm same.ge)
  have days : d.day = e.day := by
    simp only [dayNumber, years, months] at same
    omega
  cases d
  cases e
  simp_all only

/-! ## The date of a number -/

/-- A day of the cycle falls into `year`, as its day `rest`. The year begins on 1 March, so it is the next
year that decides whether there is a last day of February to end it. -/
structure CycleDay (day year rest : Int) : Prop where
  year_nonneg : 0 ≤ year
  year_lt : year < 400
  rest_nonneg : 0 ≤ rest
  rest_lt : rest < 365 + leapDay (year + 1)
  whole : 365 * year + year / 4 - year / 100 + rest = day

/-- Centuries, leap cycles and years are as many as fit, and the longest of each kind is the last. -/
theorem cycleDay_of_parts {century quad year rest day : Int} (hc : 0 ≤ century ∧ century ≤ 3)
    (hq : 0 ≤ quad ∧ quad ≤ 24) (hy : 0 ≤ year ∧ year ≤ 3) (hr : 0 ≤ rest ∧ rest ≤ 365)
    (longest : rest = 365 → year = 3 ∧ (quad = 24 → century = 3))
    (sum : century * 36524 + quad * 1461 + year * 365 + rest = day) :
    CycleDay day (century * 100 + quad * 4 + year) rest := by
  have fours : (century * 100 + quad * 4 + year) / 4 = century * 25 + quad := by omega
  have hundreds : (century * 100 + quad * 4 + year) / 100 = century := by omega
  refine ⟨by omega, by omega, hr.1, ?_, by omega⟩
  by_cases last : rest = 365
  · obtain ⟨rfl, fits⟩ := longest last
    have leap : isLeap (century * 100 + quad * 4 + 3 + 1) = true := by
      simp only [isLeap, Bool.and_eq_true, Bool.or_eq_true, decide_eq_true_eq]
      omega
    simp only [leapDay, leap, if_true]
    omega
  · omega

theorem cycleDay_splitCycleDay {day : Int} (first : 0 ≤ day) (last : day < 146097) :
    CycleDay day (splitCycleDay day).1 (splitCycleDay day).2 := by
  -- The parts are named so that each bound is found from the part before alone.
  obtain ⟨century, is_century⟩ : ∃ century, century = min 3 (day / 36524) := ⟨_, rfl⟩
  obtain ⟨inCentury, is_rest⟩ : ∃ rest, rest = day - century * 36524 := ⟨_, rfl⟩
  have hc : 0 ≤ century ∧ century ≤ 3 := by omega
  have in_century : 0 ≤ inCentury ∧ inCentury ≤ 36524 ∧ (inCentury = 36524 → century = 3) := by omega
  obtain ⟨quad, is_quad⟩ : ∃ quad, quad = inCentury / 1461 := ⟨_, rfl⟩
  obtain ⟨inQuad, is_rest'⟩ : ∃ rest, rest = inCentury - quad * 1461 := ⟨_, rfl⟩
  have hq : 0 ≤ quad ∧ quad ≤ 24 := by omega
  have in_quad : 0 ≤ inQuad ∧ inQuad ≤ 1460 ∧ (inQuad = 1460 → quad = 24 → century = 3) := by omega
  obtain ⟨year, is_year⟩ : ∃ year, year = min 3 (inQuad / 365) := ⟨_, rfl⟩
  have split : splitCycleDay day = (century * 100 + quad * 4 + year, inQuad - year * 365) := by
    simp only [splitCycleDay, ← is_century, ← is_rest, ← is_quad, ← is_rest', ← is_year]
  clear is_century
  rw [split]
  exact cycleDay_of_parts hc hq (by omega) (by omega) (by omega) (by omega)

/-- The date of a day of the year that begins on 1 March. -/
def ofMarchDay (year day : Int) : Date :=
  let month := (5 * day + 2) / 153
  let dayOfMonth := day - (153 * month + 2) / 5 + 1
  if month < 10 then ⟨year, (month + 3).toNat, dayOfMonth.toNat⟩
  else ⟨year + 1, (month - 9).toNat, dayOfMonth.toNat⟩

theorem ofDayNumber_eq (n : Int) :
    let split := splitCycleDay ((n + 719468) % 146097)
    ofDayNumber n = ofMarchDay ((n + 719468) / 146097 * 400 + split.1) split.2 := rfl

def marchNumber (year : Int) : Int := 365 * year + year / 4 - year / 100 + year / 400 - 719468

theorem daysBeforeYear_march (year : Int) :
    daysBeforeYear year + leapDay year + 59 - epochDay = marchNumber year := by
  rw [leapDay_eq, daysBeforeYear, epochDay, marchNumber]
  omega

theorem daysBeforeYear_after_march (year : Int) :
    daysBeforeYear (year + 1) - 306 - epochDay = marchNumber year := by
  rw [daysBeforeYear, epochDay, marchNumber]
  omega

/-- The days of a year that begins on 1 March, before its month `month`, counted from 0. -/
def marchDays (month : Nat) : Nat := (153 * month + 2) / 5

/-- From March to December the months before have 31 and 30 days by turns, but for 31 twice after every
fifth. -/
theorem month_from_march (year : Int) {month : Nat} (h : month < 10) :
    daysBeforeMonth year (month + 3) = marchDays month + 59 + leapDay year ∧
      monthLength year (month + 3) = marchDays (month + 1) - marchDays month := by
  interval_cases month <;> simp only [daysBeforeMonth, monthLength, leapDay] <;> split <;> decide

theorem ofMarchDay_eq {year day : Int} {month dayOfMonth : Nat} (is_month : (month : Int) = (5 * day + 2) / 153)
    (is_day : (dayOfMonth : Int) = day - marchDays month + 1) :
    ofMarchDay year day =
      if month < 10 then ⟨year, month + 3, dayOfMonth⟩ else ⟨year + 1, month - 9, dayOfMonth⟩ := by
  have start : ((153 * month + 2) / 5 : Int) = marchDays month := by
    unfold marchDays
    omega
  simp only [ofMarchDay, ← is_month, start, ← is_day, Int.toNat_natCast]
  by_cases march : month < 10
  · rw [if_pos (by omega), if_pos march, show (month + 3 : Int).toNat = month + 3 by omega]
  · rw [if_neg (by omega), if_neg march, show (month - 9 : Int).toNat = month - 9 by omega]

theorem ofMarchDay_spec {year day : Int} (first : 0 ≤ day) (last : day < 365 + leapDay (year + 1)) :
    (ofMarchDay year day).Valid ∧ (ofMarchDay year day).dayNumber = marchNumber year + day := by
  have leap := leapDay_le (year + 1)
  obtain ⟨month, is_month⟩ : ∃ month : Nat, (month : Int) = (5 * day + 2) / 153 :=
    ⟨((5 * day + 2) / 153).toNat, by omega⟩
  have inside : marchDays month ≤ day ∧ day < marchDays (month + 1) := by
    unfold marchDays
    omega
  obtain ⟨dayOfMonth, is_day⟩ : ∃ d : Nat, (d : Int) = day - marchDays month + 1 :=
    ⟨(day - marchDays month + 1).toNat, by omega⟩
  rw [ofMarchDay_eq is_month is_day]
  have months : month < 10 ∨ month = 10 ∨ month = 11 := by omega
  clear is_month
  -- January and February belong to the year after the one that began in March.
  rcases months with march | january | february
  · rw [if_pos march]
    have ⟨before, length⟩ := month_from_march year march
    have opening := daysBeforeYear_march year
    refine ⟨⟨show 1 ≤ dayOfMonth by omega, ?_⟩, ?_⟩
    · simp only [length]
      omega
    · simp only [dayNumber, before]
      omega
  · subst january
    have opening := daysBeforeYear_after_march year
    have ⟨start, stop⟩ : marchDays 10 = 306 ∧ marchDays (10 + 1) = 337 := by decide
    refine ⟨⟨show 1 ≤ dayOfMonth by omega, show dayOfMonth ≤ 31 by omega⟩, ?_⟩
    simp only [Nat.lt_irrefl, if_false, dayNumber, daysBeforeMonth, monthLength]
    omega
  · subst february
    have opening := daysBeforeYear_after_march year
    have start : marchDays 11 = 337 := by decide
    refine ⟨⟨show 1 ≤ dayOfMonth by omega, ?_⟩, ?_⟩
    · change dayOfMonth ≤ monthLength (year + 1) 2
      rw [monthLength_february]
      omega
    · change daysBeforeYear (year + 1) + (31 : Nat) + (dayOfMonth - 1) - epochDay = _
      omega

theorem marchNumber_cycle (cycle : Int) {year : Int} (first : 0 ≤ year) (last : year < 400) :
    marchNumber (cycle * 400 + year) =
      146097 * cycle + (365 * year + year / 4 - year / 100) - 719468 := by
  have fours : (cycle * 400 + year) / 4 = cycle * 100 + year / 4 := by omega
  have hundreds : (cycle * 400 + year) / 100 = cycle * 4 + year / 100 := by omega
  have cycles : (cycle * 400 + year) / 400 = cycle := by omega
  rw [marchNumber, fours, hundreds, cycles]
  omega

theorem ofDayNumber_spec (n : Int) : (ofDayNumber n).Valid ∧ (ofDayNumber n).dayNumber = n := by
  have cycles := Int.mul_ediv_add_emod (n + 719468) 146097
  have found : CycleDay ((n + 719468) % 146097) _ _ := cycleDay_splitCycleDay
    (Int.emod_nonneg _ (by decide)) (Int.emod_lt_of_pos _ (by decide))
  rw [ofDayNumber_eq]
  generalize (n + 719468) / 146097 = cycle at *
  generalize splitCycleDay ((n + 719468) % 146097) = split at *
  have ⟨valid, number⟩ : (ofMarchDay (cycle * 400 + split.1) split.2).Valid ∧ _ :=
    ofMarchDay_spec found.rest_nonneg (by rw [add_assoc, leapDay_cycle]; exact found.rest_lt)
  refine ⟨valid, ?_⟩
  rw [number, marchNumber_cycle _ found.year_nonneg found.year_lt]
  have whole := found.whole
  omega

theorem valid_ofDayNumber (n : Int) : (ofDayNumber n).Valid := (ofDayNumber_spec n).1

@[simp] theorem dayNumber_ofDayNumber (n : Int) : (ofDayNumber n).dayNumber = n := (ofDayNumber_spec n).2

theorem ofDayNumber_dayNumber {d : Date} (valid : d.Valid) : ofDayNumber d.dayNumber = d :=
  eq_of_dayNumber_eq (valid_ofDayNumber _) valid (dayNumber_ofDayNumber _)

/-- The date of each day is the day after the date of the day before. -/
theorem ofDayNumber_succ (n : Int) : ofDayNumber (n + 1) = (ofDayNumber n).next := by
  have valid := valid_ofDayNumber n
  have number : (ofDayNumber n).next.dayNumber = n + 1 := by
    rw [dayNumber_next valid, dayNumber_ofDayNumber]
  rw [← number, ofDayNumber_dayNumber valid.next]

end TokenTables.Date
