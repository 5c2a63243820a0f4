import Mathlib.Data.Nat.Digits.Defs
import TokenTables.Calendar.Stamp
import TokenTables.Proofs.Calendar.Date

/-!
A time stamp read back. The reader cuts a stamp into its columns and takes each for what it shows: a
weekday, a month, a day padded with a blank, the time of day, and a year that may have a sign. What it reads
from the stamp of a moment is a day of the calendar and a time of that day, and together they are the local
time to the second. So two stamps are one text exactly when the local times are the same second. Years of
any sign and length are covered; the stamp of a leap second can be read as well, but shows the second after.
-/

namespace TokenTables

/-- What a stamp shows. The weekday is counted from Thursday. -/
structure Shown where
  weekday : Nat
  date : Date
  hour : Nat
  minute : Nat
  second : Nat

namespace Shown

structure Proper (s : Shown) : Prop where
  date : s.date.Valid
  hour : s.hour < 24
  minute : s.minute < 60
  second : s.second < 60

/-- Seconds from 1 January 1970, by the calendar (`Date.dayNumber_next`) and the clock. -/
def localSeconds (s : Shown) : Int :=
  s.date.dayNumber * 86400 + s.hour * 3600 + s.minute * 60 + s.second

/-- The same time of the day after. -/
def dayLater (s : Shown) : Shown := { s with weekday := (s.weekday + 1) % 7, date := s.date.next }

def columns : (widths : List Nat) → Text → List Text
  | [], t => [t]
  | width :: widths, t => t.take width :: columns widths (t.drop width)

def number? (digits : Text) : Option Nat :=
  if digits ≠ [] ∧ digits.all Char.isDigit then some (Text.digitsValue digits) else none

def day? : (columns : Text) → Option Nat
  | [' ', digit] => number? [digit]
  | ['0', _] => none
  | digits => number? digits

def year? : Text → Option Int
  | '-' :: digits => (number? digits).map fun n : Nat => -(n : Int)
  | '+' :: digits => (number? digits).map Int.ofNat
  | digits => (number? digits).map Int.ofNat

/-- The weekdays from that of 1 January 1970 on. -/
def weekdays : List Text := ["Thu", "Fri", "Sat", "Sun", "Mon", "Tue", "Wed"]

def months : List Text :=
  ["Jan", "Feb", "Mar", "Apr", "May", "Jun", "Jul", "Aug", "Sep", "Oct", "Nov", "Dec"]

def widths : List Nat := [3, 1, 3, 1, 2, 1, 2, 1, 2, 1, 2, 1]

def ofColumns? : List Text → Option Shown
  | [weekday, [' '], month, [' '], day, [' '], hour, [':'], minute, [':'], second, [' '], year] => do
    let date : Date := ⟨← year? year, (← months.idxOf? month) + 1, ← day? day⟩
    return ⟨← weekdays.idxOf? weekday, date, ← number? hour, ← number? minute, ← number? second⟩
  | _ => none

def ofStamp? (t : Text) : Option Shown := ofColumns? (columns widths t)

theorem columns_flatten (cut : List Text) (last : Text) :
    columns (cut.map List.length) (cut.flatten ++ last) = cut ++ [last] := by
  induction cut with
  | nil => rfl
  | cons column cut ih =>
    rw [List.map_cons, List.flatten_cons, List.append_assoc, columns, List.take_left, List.drop_left, ih]
    rfl

theorem isDigit_of_mem_padLeft {width n : Nat} {c : Char}
    (h : c ∈ Text.padLeft '0' width (Text.decimal n)) : c.isDigit = true := by
  rcases List.mem_append.1 h with zero | digit
  · rw [List.eq_of_mem_replicate zero]
    decide
  · exact Text.isDigit_of_mem_decimal digit

@[simp] theorem number?_padLeft (width n : Nat) :
    number? (Text.padLeft '0' width (Text.decimal n)) = some n := by
  have some_digit : Text.padLeft '0' width (Text.decimal n) ≠ [] :=
    List.append_ne_nil_of_right_ne_nil _ Nat.toDigits_ne_nil
  have all : (Text.padLeft '0' width (Text.decimal n)).all Char.isDigit = true :=
    List.all_eq_true.2 fun _ => isDigit_of_mem_padLeft
  rw [number?, if_pos ⟨some_digit, all⟩, Text.digitsValue_padLeft]

@[simp] theorem number?_decimal (n : Nat) : number? (Text.decimal n) = some n := by
  simpa [Text.padLeft] using number?_padLeft 0 n

theorem day?_padLeft : ∀ day < 32, 1 ≤ day →
    (Text.padLeft ' ' 2 (Text.decimal day)).length = 2 ∧
      day? (Text.padLeft ' ' 2 (Text.decimal day)) = some day := by
  decide +kernel

theorem year?_of_isDigit {digits : Text} (all : ∀ c ∈ digits, c.isDigit = true) :
    year? digits = (number? digits).map Int.ofNat := by
  unfold year?
  split
  · exact absurd (all '-' (List.mem_cons_self ..)) (by decide)
  · exact absurd (all '+' (List.mem_cons_self ..)) (by decide)
  · rfl

end Shown

namespace Instant

open Shown

@[simp] theorem year?_yearText (year : Int) : year? (yearText year) = some year := by
  unfold yearText
  split
  case isTrue negative =>
    rw [year?, number?_padLeft, Option.map_some]
    exact congrArg some (by omega)
  case isFalse nonneg =>
    have abs : Int.ofNat year.natAbs = year := Int.natAbs_of_nonneg (not_lt.1 nonneg)
    split
    · rw [year?, number?_decimal, Option.map_some, abs]
    · rw [year?_of_isDigit fun _ => isDigit_of_mem_padLeft, number?_padLeft, Option.map_some, abs]

theorem length_twoDigits {n : Nat} (two : n < 100) : (twoDigits n).length = 2 := by
  have short : (Text.decimal n).length ≤ 2 := Nat.toDigits_length 10 n 2 (by decide) two
  rw [twoDigits, Text.length_padLeft, max_eq_left short]

theorem weekdayName_spec : ∀ k < 7,
    (weekdayName ((k + 4) % 7)).length = 3 ∧ weekdays.idxOf? (weekdayName ((k + 4) % 7)) = some k := by
  decide +kernel

theorem monthName_spec : ∀ month < 13, 1 ≤ month →
    (monthName month).length = 3 ∧ months.idxOf? (monthName month) = some (month - 1) := by
  decide +kernel

def shown (t : Instant) : Shown where
  weekday := (t.localDay % 7).toNat
  date := Date.ofDayNumber t.localDay
  hour := t.secondOfDay / 3600
  minute := t.secondOfDay / 60 % 60
  second := t.secondOfDay % 60 + if t.isLeapSecond then 1 else 0

theorem hour_shown_lt (t : Instant) : t.shown.hour < 24 := by
  simp only [shown, secondOfDay]
  omega

theorem minute_shown_lt (t : Instant) : t.shown.minute < 60 := Nat.mod_lt _ (by decide)

theorem second_shown_le (t : Instant) : t.shown.second ≤ 60 := by
  simp only [shown]
  split <;> omega

theorem weekdayName_shown (t : Instant) :
    (weekdayName (Date.weekday t.localDay)).length = 3 ∧
      weekdays.idxOf? (weekdayName (Date.weekday t.localDay)) = some t.shown.weekday := by
  have same : Date.weekday t.localDay = (t.shown.weekday + 4) % 7 := by
    simp only [Date.weekday, shown]
    omega
  rw [same]
  exact weekdayName_spec _ (by simp only [shown]; omega)

theorem monthName_shown (t : Instant) :
    (monthName t.shown.date.month).length = 3 ∧
      months.idxOf? (monthName t.shown.date.month) = some (t.shown.date.month - 1) :=
  have ⟨first, last⟩ := (Date.valid_ofDayNumber t.localDay).month_bounds
  monthName_spec _ (Nat.lt_succ_of_le last) first

theorem day_shown (t : Instant) :
    (Text.padLeft ' ' 2 (Text.decimal t.shown.date.day)).length = 2 ∧
      day? (Text.padLeft ' ' 2 (Text.decimal t.shown.date.day)) = some t.shown.date.day :=
  have valid := Date.valid_ofDayNumber t.localDay
  day?_padLeft _ valid.day_lt valid.one_le_day

def columnsBeforeYear (t : Instant) : List Text :=
  [weekdayName (Date.weekday t.localDay), [' '], monthName t.shown.date.month, [' '],
    Text.padLeft ' ' 2 (Text.decimal t.shown.date.day), [' '], twoDigits t.shown.hour, [':'],
    twoDigits t.shown.minute, [':'], twoDigits t.shown.second, [' ']]

theorem length_columnsBeforeYear (t : Instant) : t.columnsBeforeYear.map List.length = widths := by
  have hour : t.shown.hour < 100 := t.hour_shown_lt.trans (by decide)
  have minute : t.shown.minute < 100 := t.minute_shown_lt.trans (by decide)
  have second : t.shown.second < 100 := t.second_shown_le.trans_lt (by decide)
  simp only [columnsBeforeYear, List.map_cons, List.map_nil, t.weekdayName_shown.1, t.monthName_shown.1,
    t.day_shown.1, length_twoDigits hour, length_twoDigits minute, length_twoDigits second]
  rfl

theorem stamp_eq_flatten (t : Instant) :
    t.stamp = t.columnsBeforeYear.flatten ++ yearText t.shown.date.year := by
  simp only [stamp, clockText, columnsBeforeYear, List.flatten_cons, List.flatten_nil, List.append_nil,
    List.append_assoc]
  rfl

theorem lineFeed_notMem_decimal (n : Nat) : '\n' ∉ Text.decimal n :=
  fun mem => absurd (Text.isDigit_of_mem_decimal mem) (by decide)

theorem lineFeed_notMem_padLeft {fill : Char} (other : fill ≠ '\n') (width n : Nat) :
    '\n' ∉ Text.padLeft fill width (Text.decimal n) := by
  refine List.not_mem_append (fun mem => ?_) (lineFeed_notMem_decimal n)
  exact other (List.eq_of_mem_replicate mem).symm

theorem lineFeed_notMem_yearText (year : Int) : '\n' ∉ yearText year := by
  have digits : '\n' ∉ Text.padLeft '0' 4 (Text.decimal year.natAbs) :=
    lineFeed_notMem_padLeft (by decide) 4 _
  unfold yearText
  split
  · exact List.not_mem_cons_of_ne_of_not_mem (by decide) digits
  · split
    · exact List.not_mem_cons_of_ne_of_not_mem (by decide) (lineFeed_notMem_decimal _)
    · exact digits

theorem lineFeed_notMem_columnsBeforeYear (t : Instant) : ∀ column ∈ t.columnsBeforeYear, '\n' ∉ column := by
  have weekday (n : Nat) : '\n' ∉ weekdayName n := by
    unfold weekdayName
    split <;> decide
  have month (n : Nat) : '\n' ∉ monthName n := by
    unfold monthName
    split <;> decide
  have day (n : Nat) : '\n' ∉ Text.padLeft ' ' 2 (Text.decimal n) := lineFeed_notMem_padLeft (by decide) 2 n
  have two (n : Nat) : '\n' ∉ twoDigits n := lineFeed_notMem_padLeft (by decide) 2 n
  have blank : '\n' ∉ [' '] := by decide
  have colon : '\n' ∉ [':'] := by decide
  simp only [columnsBeforeYear, List.forall_mem_cons]
  exact ⟨weekday _, blank, month _, blank, day _, blank, two _, colon, two _, colon, two _, blank,
    List.forall_mem_nil _⟩

theorem lineFeed_notMem_stamp (t : Instant) : '\n' ∉ t.stamp := by
  rw [stamp_eq_flatten, List.mem_append, not_or, List.mem_flatten]
  refine ⟨?_, lineFeed_notMem_yearText _⟩
  rintro ⟨column, inside, mem⟩
  exact lineFeed_notMem_columnsBeforeYear t column inside mem

@[simp] theorem ofStamp?_stamp (t : Instant) : ofStamp? t.stamp = some t.shown := by
  have number (n : Nat) : number? (twoDigits n) = some n := number?_padLeft 2 n
  have month : t.shown.date.month - 1 + 1 = t.shown.date.month :=
    Nat.sub_add_cancel (Date.valid_ofDayNumber t.localDay).month_bounds.1
  -- All columns but the year have fixed widths, so the reader cuts where the writer joined.
  have cut : columns widths t.stamp = t.columnsBeforeYear ++ [yearText t.shown.date.year] := by
    rw [← t.length_columnsBeforeYear, stamp_eq_flatten, columns_flatten]
  rw [ofStamp?, cut]
  simp only [columnsBeforeYear, List.cons_append, List.nil_append, ofColumns?, year?_yearText,
    t.monthName_shown.2, t.day_shown.2, t.weekdayName_shown.2, number, month, Option.bind_eq_bind,
    Option.bind_some, Option.pure_def]

theorem isLeapSecond_eq_false {t : Instant} (plain : t.nanos < 1000000000) : t.isLeapSecond = false :=
  decide_eq_false (not_le.2 plain)

theorem proper_shown {t : Instant} (plain : t.nanos < 1000000000) : t.shown.Proper where
  date := Date.valid_ofDayNumber _
  hour := t.hour_shown_lt
  minute := t.minute_shown_lt
  second := by
    simp only [shown, isLeapSecond_eq_false plain]
    exact Nat.mod_lt _ (by decide)

theorem weekday_shown (t : Instant) : (t.shown.weekday : Int) = t.localSeconds / 86400 % 7 :=
  Int.toNat_of_nonneg (Int.emod_nonneg _ (by decide))

/-- A stamp shows the local time; in a leap second, the second after. -/
theorem localSeconds_shown (t : Instant) :
    t.shown.localSeconds = t.localSeconds + if t.isLeapSecond then 1 else 0 := by
  simp only [Shown.localSeconds, shown, Date.dayNumber_ofDayNumber, localDay, secondOfDay]
  split <;> omega

theorem localSeconds_shown_of_lt {t : Instant} (plain : t.nanos < 1000000000) :
    t.shown.localSeconds = t.localSeconds := by
  rw [localSeconds_shown, isLeapSecond_eq_false plain]
  exact Int.add_zero _

theorem shown_dayLater {t u : Instant} (later : u.localSeconds = t.localSeconds + 86400)
    (leap : u.isLeapSecond = t.isLeapSecond) : u.shown = t.shown.dayLater := by
  have day : u.localDay = t.localDay + 1 := by
    simp only [localDay, later]
    omega
  have second : u.secondOfDay = t.secondOfDay := by
    simp only [secondOfDay, later]
    omega
  have weekday : ((t.localDay + 1) % 7).toNat = ((t.localDay % 7).toNat + 1) % 7 := by omega
  simp only [shown, dayLater, day, second, weekday, leap, Date.ofDayNumber_succ]

theorem stamp_congr {t u : Instant} (same : t.localSeconds = u.localSeconds)
    (leap : t.isLeapSecond = u.isLeapSecond) : t.stamp = u.stamp := by
  simp only [stamp, clockText, localDay, secondOfDay, same, leap]

/-- The stamp of a moment shows its local time and no other: read back, it is a day of the calendar
and a time of that day, they make the local time, and the weekday is that of the day. Two stamps are one text
exactly when the local times are the same second. A day later it shows the next day of the calendar at the
same time. -/
theorem stamp_shows_localSeconds (t : Instant) (plain : t.nanos < 1000000000) :
    (∃ shown, ofStamp? t.stamp = some shown ∧ shown.Proper ∧
      shown.localSeconds = t.localSeconds ∧ (shown.weekday : Int) = t.localSeconds / 86400 % 7) ∧
    ∀ u : Instant, u.nanos < 1000000000 →
      (t.stamp = u.stamp ↔ t.localSeconds = u.localSeconds) ∧
      (u.localSeconds = t.localSeconds + 86400 →
        ofStamp? u.stamp = (ofStamp? t.stamp).map Shown.dayLater) := by
  constructor
  · exact ⟨t.shown, t.ofStamp?_stamp, proper_shown plain, localSeconds_shown_of_lt plain, t.weekday_shown⟩
  · intro u plain'
    have leap : t.isLeapSecond = u.isLeapSecond :=
      (isLeapSecond_eq_false plain).trans (isLeapSecond_eq_false plain').symm
    refine ⟨⟨?_, ?_⟩, ?_⟩
    · intro same
      have shown : t.shown = u.shown :=
        Option.some.inj (by rw [← ofStamp?_stamp, same, ofStamp?_stamp])
      rw [← localSeconds_shown_of_lt plain, shown, localSeconds_shown_of_lt plain']
    · intro same
      exact stamp_congr same leap
    · intro later
      rw [ofStamp?_stamp, ofStamp?_stamp, shown_dayLater later leap.symm, Option.map_some]

/-- The last second before year 0, at Greenwich and an hour east of it. -/
theorem stamp_shows_localSeconds_year_before_zero :
    let t : Instant := ⟨-62167219201, 999999999, 0⟩
    let u : Instant := ⟨-62167222801, 0, 3600⟩
    (t.nanos < 1000000000 ∧ u.nanos < 1000000000) ∧ t.stamp = "Fri Dec 31 23:59:59 -0001" ∧
      (∃ shown, ofStamp? t.stamp = some shown ∧ shown.Proper ∧
        shown.localSeconds = -62167219201 ∧ (shown.weekday : Int) = 1) ∧ t.stamp = u.stamp := by
  have ⟨reads, apart⟩ := stamp_shows_localSeconds ⟨-62167219201, 999999999, 0⟩ (by decide)
  have same := (apart ⟨-62167222801, 0, 3600⟩ (by decide)).1.2 (by decide)
  exact ⟨⟨by decide, by decide⟩, by decide +kernel, reads, same⟩

end Instant

end TokenTables
