/-!
Days as dates of the proleptic Gregorian calendar. Days are counted from 1 January 1970, years run
through 0 and below, and a date is found from its day within the cycle of 400 years, taken from
1 March so that the leap day ends each year.
-/

namespace TokenTables

structure Date where
  year : Int
  month : Nat
  day : Nat
deriving DecidableEq, Repr

namespace Date

def isLeap (year : Int) : Bool := year % 4 = 0 && (year % 100 ≠ 0 || year % 400 = 0)

def monthLength (year : Int) : (month : Nat) → Nat
  | 1 | 3 | 5 | 7 | 8 | 10 | 12 => 31
  | 4 | 6 | 9 | 11 => 30
  | 2 => if isLeap year then 29 else 28
  | _ => 0

structure Valid (d : Date) : Prop where
  one_le_day : 1 ≤ d.day
  day_le : d.day ≤ monthLength d.year d.month

/-- Days from 1 January of year 0 to 1 January of `year`. -/
def daysBeforeYear (year : Int) : Int :=
  365 * year + (year + 3) / 4 - (year + 99) / 100 + (year + 399) / 400

def daysBeforeMonth (year : Int) : (month : Nat) → Nat
  | 0 => 0
  | month + 1 => daysBeforeMonth year month + monthLength year month

def epochDay : Int := 719528

def dayNumber (d : Date) : Int :=
  daysBeforeYear d.year + daysBeforeMonth d.year d.month + (d.day - 1) - epochDay

/-- A day of the 400-year cycle that begins on 1 March of year 0: its year in the cycle, counted from
March, and its day in that year. Three centuries of the cycle and three years of a leap cycle are a day
shorter than the last, so the last takes the day that would open a fifth. -/
def splitCycleDay (day : Int) : Int × Int :=
  let century := min 3 (day / 36524)
  let day := day - century * 36524
  let quad := day / 1461
  let day := day - quad * 1461
  let year := min 3 (day / 365)
  (century * 100 + quad * 4 + year, day - year * 365)

def ofDayNumber (n : Int) : Date :=
  let shifted := n + 719468
  let cycle := shifted / 146097
  let (yearOfCycle, dayOfYear) := splitCycleDay (shifted % 146097)
  let marchYear := cycle * 400 + yearOfCycle
  let month := (5 * dayOfYear + 2) / 153
  let day := dayOfYear - (153 * month + 2) / 5 + 1
  if month < 10 then ⟨marchYear, (month + 3).toNat, day.toNat⟩
  else ⟨marchYear + 1, (month - 9).toNat, day.toNat⟩

/-- Days of the week count from Sunday. -/
def weekday (n : Int) : Nat := ((n + 4) % 7).toNat

end Date

end TokenTables
