import CspTerm.Lib.FieldWidth
import CspTerm.Lib.Gregorian

/-!
# Timestamps (`get_timestamp.c`)

`get_format_timestamp` counts years and months off a number of seconds and prints what it finds, a
date for year base 1970 and a duration otherwise. `get_time` gives it the clock of the station, eight
hours ahead. The texts name the files of the archive.
-/

namespace CspTerm.Archive

open CString

/-- The macro `isLeapYear`. A remainder is 0 in C when it is 0 here. -/
def isLeapYear (x : Int) : Bool := x % 4 == 0 && (x % 100 != 0 || x % 400 == 0)

def days : List Int := [31, 28, 31, 30, 31, 30, 31, 31, 30, 31, 30, 31]

def daysl : List Int := [31, 29, 31, 30, 31, 30, 31, 31, 30, 31, 30, 31]

/-- `sec` for a whole year. -/
def yearSec (year : Int) : Int := (if isLeapYear year then 366 else 365) * 24 * 60 * 60

theorem yearSec_pos (year : Int) : 0 < yearSec year := by
  unfold yearSec
  split_ifs <;> decide

/-- The loop over the years: the seconds it leaves, and the year it stops at. -/
def countYears (s year : Int) : Int × Int :=
  if s > yearSec year then countYears (s - yearSec year) (year + 1) else (s, year)
termination_by s.toNat
decreasing_by
  have := yearSec_pos year
  omega

/-- The loop over the months, from `mon` on, which has `sec` seconds; `none` if the table is read
outside its bounds. -/
def countMonths (daysp : List Int) (s sec : Int) (mon : Nat) : Option (Int × Nat) :=
  if s > sec then
    match h : daysp[mon]? with
    | none => none
    | some d => countMonths daysp (s - sec) (d * 24 * 60 * 60) (mon + 1)
  else some (s, mon)
termination_by daysp.length - mon
decreasing_by
  have := (List.getElem?_eq_some_iff.mp h).1
  omega

/-- The text for year base 1970. -/
def dateText (day : Int) (mon : Nat) (year hour min s : Int) : CStr :=
  fmtIntZeros 2 day ++ cstr "-" ++ fmtIntZeros 2 mon ++ cstr "-" ++ fmtIntSpaces 4 year ++
    cstr " " ++ fmtIntZeros 2 hour ++ cstr ":" ++ fmtIntZeros 2 min ++ cstr ":" ++ fmtIntZeros 2 s

/-- The text for other year bases, from the first number that is positive. -/
def durationText (sign : UInt8) (year mon day hour min s : Int) : CStr :=
  let seconds := fmtInt s ++ cstr " seconds"
  let minutes := fmtInt min ++ cstr " minutes " ++ seconds
  let hours := fmtInt hour ++ cstr " hours " ++ minutes
  let days := fmtInt day ++ cstr " days " ++ hours
  let months := fmtInt mon ++ cstr " months " ++ days
  sign :: if year > 0 then fmtInt year ++ cstr " years " ++ months
    else if mon > 0 then months
    else if day > 0 then days
    else if hour > 0 then hours
    else if min > 0 then minutes
    else seconds

/-- `get_format_timestamp`: the text left in `str`. -/
def getFormatTimestamp (utime yearBase : Int) : Option CStr :=
  let sign : UInt8 := if utime < 0 then 45 else 32
  let utime := if utime < 0 then -utime else utime
  let s := toInt32 utime
  let (s, year) := countYears s yearBase
  let daysp := if isLeapYear year then daysl else days
  match countMonths daysp s (31 * 24 * 60 * 60) 1 with
  | none => none
  | some (s, mon) =>
    -- division in C rounds towards zero
    let day := s.tdiv (24 * 60 * 60)
    let s := s - day * 24 * 60 * 60
    let day := day + 1
    let hour := s.tdiv (60 * 60)
    let s := s - hour * 60 * 60
    let min := s.tdiv 60
    let s := s - min * 60
    if yearBase = 1970 then some (dateText day mon year hour min s)
    else some (durationText sign year (mon - 1) (day - 1) hour min s)

/-- `timestamp_t`, as `clock_get_time` fills it. -/
structure ClockTime where
  tvSec : UInt32
  tvNsec : UInt32
  tvNsec_lt : tvNsec.toNat < 1000000000
deriving DecidableEq

/-- The "special conversion" of `get_time`: both fields read as one 64-bit number. -/
def ClockTime.converted (t : ClockTime) : Int := t.tvSec.toNat + t.tvNsec.toNat * 2 ^ 32

/-- `get_time`. -/
def getTime (t : ClockTime) : Option CStr := getFormatTimestamp (t.converted + 28800) 1970

/-! ## Calendar time -/

/-- Two decimal digits. -/
def twoDigits (n : Nat) : CStr := [digitChar (n / 10), digitChar (n % 10)]

/-- The time `utime` seconds after the beginning of 1970, as `DD-MM-YYYY HH:MM:SS`. -/
def civilText (utime : Nat) : CStr :=
  let date := Gregorian.dateAfter 1970 (utime / 86400)
  let second := utime % 86400
  twoDigits date.day ++ cstr "-" ++ twoDigits date.month ++ cstr "-" ++ fmtNat date.year ++
    cstr " " ++ twoDigits (second / 3600) ++ cstr ":" ++ twoDigits (second / 60 % 60) ++ cstr ":" ++
    twoDigits (second % 60)

/-- The timestamp for `utime` is the calendar time. -/
def TimestampCorrect (utime : Nat) : Prop := getFormatTimestamp utime 1970 = some (civilText utime)

/-- The first second of a month. -/
def StartsMonth (utime : Nat) : Prop :=
  utime % 86400 = 0 ∧ (Gregorian.dateAfter 1970 (utime / 86400)).day = 1

end CspTerm.Archive
