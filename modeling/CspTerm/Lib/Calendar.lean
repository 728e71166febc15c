import CspTerm.Lib.CString

/-!
# Calendar time

The conversion of a number of seconds since 1970 to a date and time of the Gregorian calendar, and
its printed form, as the C library has them in `gmtime_r` and `strftime`.
-/

namespace Calendar

open CString

/-- The fields of `struct tm` that are printed; the year and the month count as people count them. -/
structure Tm where
  year : Int
  month : Nat
  day : Nat
  hour : Nat
  minute : Nat
  second : Nat
deriving DecidableEq, Repr

/-- The date of a day, counted from 1970-01-01. Years begin in March here, so that the leap day is
the last one, and days are counted in eras of 400 years, which have 146097 days. -/
def dateOfDay (days : Int) : Int × Nat × Nat :=
  let fromMarch := days + 719468
  let era := fromMarch / 146097
  let dayOfEra := (fromMarch % 146097).toNat
  let yearOfEra := (dayOfEra - dayOfEra / 1460 + dayOfEra / 36524 - dayOfEra / 146096) / 365
  let dayOfYear := dayOfEra - (365 * yearOfEra + yearOfEra / 4 - yearOfEra / 100)
  let monthFromMarch := (5 * dayOfYear + 2) / 153
  let day := dayOfYear - (153 * monthFromMarch + 2) / 5 + 1
  let month := if monthFromMarch < 10 then monthFromMarch + 3 else monthFromMarch - 9
  (yearOfEra + era * 400 + if month ≤ 2 then 1 else 0, month, day)

/-- `gmtime_r`: NULL if `tm_year`, which counts from 1900, is beyond an `int`. -/
def gmtime (seconds : Int) : Option Tm :=
  let (year, month, day) := dateOfDay (seconds / 86400)
  let rest := (seconds % 86400).toNat
  if -2 ^ 31 ≤ year - 1900 ∧ year - 1900 < 2 ^ 31 then
    some { year := year, month := month, day := day, hour := rest / 3600,
           minute := rest / 60 % 60, second := rest % 60 }
  else none

/-- `%02d` of a number below 100. -/
def fmt02 (n : Nat) : CStr := [digitChar (n / 10 % 10), digitChar (n % 10)]

/-- `strftime` with the format `%Y-%m-%dT%H:%M:%S`. -/
def isoText (tm : Tm) : CStr :=
  fmtInt tm.year ++ cstr "-" ++ fmt02 tm.month ++ cstr "-" ++ fmt02 tm.day ++ cstr "T" ++
    fmt02 tm.hour ++ cstr ":" ++ fmt02 tm.minute ++ cstr ":" ++ fmt02 tm.second

example : (gmtime 1760931665).map isoText = some (cstr "2025-10-20T03:41:05") := by decide

end Calendar
