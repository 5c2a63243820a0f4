import TokenTables.Calendar.Date
import TokenTables.Text.Basic

/-!
The time stamp of a generated file, such as `Mon Jan  6 09:05:00 2025`: weekday, month, day padded
with a blank, time of day and year, all in local time. A year from 0 to 9999 has four digits; any
other has a sign and at least four.
-/

namespace TokenTables

/-- A moment and the offset of the place where it is shown, in seconds east. A count of 10^9
nanoseconds or more stands for a leap second, which is shown one second later. -/
structure Instant where
  unix : Int
  nanos : Nat
  offset : Int
deriving DecidableEq, Repr

namespace Instant

def localSeconds (t : Instant) : Int := t.unix + t.offset

def localDay (t : Instant) : Int := t.localSeconds / 86400

def secondOfDay (t : Instant) : Nat := (t.localSeconds % 86400).toNat

def isLeapSecond (t : Instant) : Bool := 1000000000 ≤ t.nanos

def weekdayName : Nat → Text
  | 0 => "Sun"
  | 1 => "Mon"
  | 2 => "Tue"
  | 3 => "Wed"
  | 4 => "Thu"
  | 5 => "Fri"
  | _ => "Sat"

def monthName : Nat → Text
  | 1 => "Jan"
  | 2 => "Feb"
  | 3 => "Mar"
  | 4 => "Apr"
  | 5 => "May"
  | 6 => "Jun"
  | 7 => "Jul"
  | 8 => "Aug"
  | 9 => "Sep"
  | 10 => "Oct"
  | 11 => "Nov"
  | _ => "Dec"

def twoDigits (n : Nat) : Text := Text.padLeft '0' 2 (Text.decimal n)

def yearText (year : Int) : Text :=
  if year < 0 then '-' :: Text.padLeft '0' 4 (Text.decimal year.natAbs)
  else if 9999 < year then '+' :: Text.decimal year.natAbs
  else Text.padLeft '0' 4 (Text.decimal year.natAbs)

def clockText (t : Instant) : Text :=
  let second := t.secondOfDay % 60 + if t.isLeapSecond then 1 else 0
  twoDigits (t.secondOfDay / 3600) ++ ":" ++ twoDigits (t.secondOfDay / 60 % 60) ++ ":" ++
    twoDigits second

def stamp (t : Instant) : Text :=
  let date := Date.ofDayNumber t.localDay
  weekdayName (Date.weekday t.localDay) ++ " " ++ monthName date.month ++ " " ++
    Text.padLeft ' ' 2 (Text.decimal date.day) ++ " " ++ t.clockText ++ " " ++ yearText date.year

/-- The time of a journal record, such as `2025-01-06T09:05:00Z`, as the clock without an offset shows
it. -/
def journalStamp (t : Instant) : Text :=
  let utc : Instant := { t with offset := 0 }
  let date := Date.ofDayNumber utc.localDay
  yearText date.year ++ "-" ++ twoDigits date.month ++ "-" ++ twoDigits date.day ++ "T" ++
    utc.clockText ++ "Z"

end Instant

def heading (source : Text) (time : Instant) : Text :=
  "\n// This file is generated from " ++ source ++ ".\n// DO NOT EDIT\n// Generated: " ++
    time.stamp ++ "\n"

end TokenTables
