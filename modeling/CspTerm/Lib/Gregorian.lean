import Mathlib.Algebra.BigOperators.Intervals
import Mathlib.Algebra.Order.BigOperators.Group.Finset
import Mathlib.Logic.Function.Iterate
import Mathlib.Tactic.Common

/-!
# The Gregorian calendar, day by day

A date is a year, a month and a day that the month has; the next date is found by the rules of the
calendar, and the date some days after another one by taking the next date that often. Counting the
days before a date, by years and by months, inverts this.
-/

namespace Gregorian

def IsLeap (year : Nat) : Prop := year % 4 = 0 ∧ (year % 100 ≠ 0 ∨ year % 400 = 0)

instance (year : Nat) : Decidable (IsLeap year) := inferInstanceAs (Decidable (_ ∧ _))

def monthLength (year month : Nat) : Nat :=
  if month = 2 then if IsLeap year then 29 else 28
  else if month = 4 ∨ month = 6 ∨ month = 9 ∨ month = 11 then 30
  else 31

def yearLength (year : Nat) : Nat := if IsLeap year then 366 else 365

/-- A date of the calendar. -/
structure Date where
  year : Nat
  month : Nat
  day : Nat
  month_pos : 1 ≤ month
  month_le : month ≤ 12
  day_pos : 1 ≤ day
  day_le : day ≤ monthLength year month
deriving DecidableEq

theorem monthLength_pos (year month : Nat) : 1 ≤ monthLength year month := by
  unfold monthLength
  split_ifs <;> omega

theorem monthLength_le (year month : Nat) : monthLength year month ≤ 31 := by
  unfold monthLength
  split_ifs <;> omega

def Date.firstOf (year month : Nat) (h1 : 1 ≤ month) (h12 : month ≤ 12) : Date where
  year := year
  month := month
  day := 1
  month_pos := h1
  month_le := h12
  day_pos := Nat.le_refl 1
  day_le := monthLength_pos year month

def Date.newYear (year : Nat) : Date := .firstOf year 1 (by decide) (by decide)

/-- The day after. -/
def Date.next (d : Date) : Date :=
  if hd : d.day < monthLength d.year d.month then
    { d with day := d.day + 1, day_pos := by omega, day_le := hd }
  else if hm : d.month < 12 then .firstOf d.year (d.month + 1) (by omega) (by omega)
  else .newYear (d.year + 1)

/-- The last day of a month is followed by the first one of the next. -/
theorem Date.day_next_of_last {d : Date} (h : d.day = monthLength d.year d.month) :
    d.next.day = 1 := by
  unfold Date.next
  rw [dif_neg (by omega)]
  split_ifs <;> rfl

/-- The date `n` days after the first day of the year `base`. -/
def dateAfter (base n : Nat) : Date := Date.next^[n] (.newYear base)

/-! ## Counting days -/

/-- The days of a year before the first of a month. -/
def daysBeforeMonth (year month : Nat) : Nat :=
  ∑ m ∈ Finset.range (month - 1), monthLength year (m + 1)

/-- The days from the beginning of the year `base` to that of another one. -/
def daysBeforeYear (base year : Nat) : Nat := ∑ y ∈ Finset.range (year - base), yearLength (base + y)

/-- The days before a date, from the beginning of the year `base`. -/
def Date.dayNumber (base : Nat) (d : Date) : Nat :=
  daysBeforeYear base d.year + daysBeforeMonth d.year d.month + (d.day - 1)

@[simp] theorem daysBeforeMonth_one (year : Nat) : daysBeforeMonth year 1 = 0 := rfl

@[simp] theorem daysBeforeYear_self (base : Nat) : daysBeforeYear base base = 0 := by
  simp [daysBeforeYear]

theorem daysBeforeMonth_succ (year : Nat) {month : Nat} (h : 1 ≤ month) :
    daysBeforeMonth year (month + 1) = daysBeforeMonth year month + monthLength year month := by
  unfold daysBeforeMonth
  rw [show month + 1 - 1 = month - 1 + 1 by omega, Finset.sum_range_succ,
    show month - 1 + 1 = month by omega]

theorem daysBeforeYear_succ {base year : Nat} (h : base ≤ year) :
    daysBeforeYear base (year + 1) = daysBeforeYear base year + yearLength year := by
  unfold daysBeforeYear
  rw [show year + 1 - base = year - base + 1 by omega, Finset.sum_range_succ,
    show base + (year - base) = year by omega]

/-- The twelve months make up the year. -/
theorem daysBeforeMonth_thirteen (year : Nat) : daysBeforeMonth year 13 = yearLength year := by
  have hfebruary : monthLength year 2 = if IsLeap year then 29 else 28 := rfl
  unfold daysBeforeMonth yearLength
  simp only [Nat.add_one_sub_one, Finset.sum_range_succ, Finset.range_zero, Finset.sum_empty]
  show 0 + 31 + monthLength year 2 + 31 + 30 + 31 + 30 + 31 + 31 + 30 + 31 + 30 + 31 = _
  rw [hfebruary]
  split_ifs <;> rfl

theorem daysBeforeMonth_mono {year m m' : Nat} (h : m ≤ m') :
    daysBeforeMonth year m ≤ daysBeforeMonth year m' :=
  Finset.sum_le_sum_of_subset (Finset.range_mono (by omega))

theorem daysBeforeYear_mono {base y y' : Nat} (h : y ≤ y') :
    daysBeforeYear base y ≤ daysBeforeYear base y' :=
  Finset.sum_le_sum_of_subset (Finset.range_mono (by omega))

/-- The next date is one day later. -/
theorem Date.dayNumber_next {base : Nat} {d : Date} (h : base ≤ d.year) :
    d.next.dayNumber base = d.dayNumber base + 1 := by
  have hpos := d.day_pos
  have hle := d.day_le
  unfold Date.next
  split_ifs with hd hm
  · simp only [Date.dayNumber]
    omega
  · have hsucc := daysBeforeMonth_succ d.year d.month_pos
    simp only [Date.dayNumber, Date.firstOf, hsucc]
    omega
  · have hmonth : d.month = 12 := by
      have := d.month_le
      omega
    have hsucc := daysBeforeMonth_succ d.year d.month_pos
    have hyear := daysBeforeYear_succ h
    rw [hmonth] at hsucc hle hd
    have hlast : daysBeforeMonth d.year 13 = _ := hsucc
    rw [daysBeforeMonth_thirteen] at hlast
    simp only [Date.dayNumber, Date.newYear, Date.firstOf, daysBeforeMonth_one, hyear, hmonth]
    omega

theorem Date.year_next_ge (d : Date) : d.year ≤ d.next.year := by
  unfold Date.next
  split_ifs
  · exact Nat.le_refl _
  · exact Nat.le_refl _
  · exact Nat.le_succ _

theorem dateAfter_succ (base n : Nat) : dateAfter base (n + 1) = (dateAfter base n).next :=
  Function.iterate_succ_apply' ..

theorem base_le_dateAfter (base n : Nat) : base ≤ (dateAfter base n).year := by
  induction n with
  | zero => exact Nat.le_refl base
  | succ n ih =>
    rw [dateAfter_succ]
    exact ih.trans (Date.year_next_ge _)

theorem dayNumber_dateAfter (base n : Nat) : (dateAfter base n).dayNumber base = n := by
  induction n with
  | zero =>
    show daysBeforeYear base base + daysBeforeMonth base 1 + (1 - 1) = 0
    rw [daysBeforeYear_self, daysBeforeMonth_one]
  | succ n ih => rw [dateAfter_succ, Date.dayNumber_next (base_le_dateAfter base n), ih]

/-! ## A day has one date -/

theorem Date.dayOfYear_lt (d : Date) : daysBeforeMonth d.year d.month + (d.day - 1) <
    daysBeforeMonth d.year (d.month + 1) := by
  have hpos := d.day_pos
  have hle := d.day_le
  rw [daysBeforeMonth_succ d.year d.month_pos]
  omega

theorem Date.dayNumber_lt {base : Nat} {d : Date} (h : base ≤ d.year) :
    d.dayNumber base < daysBeforeYear base (d.year + 1) := by
  have hlt := d.dayOfYear_lt
  have hmono : daysBeforeMonth d.year (d.month + 1) ≤ daysBeforeMonth d.year 13 :=
    daysBeforeMonth_mono (by have := d.month_le; omega)
  rw [daysBeforeMonth_thirteen] at hmono
  rw [daysBeforeYear_succ h]
  unfold Date.dayNumber
  omega

theorem Date.year_le_of_dayNumber {base : Nat} {d e : Date} (hd : base ≤ d.year)
    (h : e.dayNumber base ≤ d.dayNumber base) : e.year ≤ d.year := by
  by_contra hlt
  have hmono : daysBeforeYear base (d.year + 1) ≤ daysBeforeYear base e.year :=
    daysBeforeYear_mono (by omega)
  have hup := Date.dayNumber_lt hd
  have hlow : daysBeforeYear base e.year ≤ e.dayNumber base := by
    unfold Date.dayNumber
    omega
  omega

theorem Date.month_le_of_dayOfYear {d e : Date} (hy : e.year = d.year)
    (h : daysBeforeMonth e.year e.month + (e.day - 1) ≤
      daysBeforeMonth d.year d.month + (d.day - 1)) : e.month ≤ d.month := by
  by_contra hlt
  have hmono : daysBeforeMonth d.year (d.month + 1) ≤ daysBeforeMonth d.year e.month :=
    daysBeforeMonth_mono (by omega)
  have hup := d.dayOfYear_lt
  rw [hy] at h
  omega

/-- **Dates with the same number of days before them are the same.** -/
theorem Date.dayNumber_inj {base : Nat} {d e : Date} (hd : base ≤ d.year) (he : base ≤ e.year)
    (h : d.dayNumber base = e.dayNumber base) : d = e := by
  have hyear : d.year = e.year := Nat.le_antisymm
    (Date.year_le_of_dayNumber he (Nat.le_of_eq h))
    (Date.year_le_of_dayNumber hd (Nat.le_of_eq h.symm))
  have hyd : daysBeforeMonth d.year d.month + (d.day - 1) =
      daysBeforeMonth e.year e.month + (e.day - 1) := by
    unfold Date.dayNumber at h
    rw [hyear] at h ⊢
    omega
  have hmonth : d.month = e.month := Nat.le_antisymm
    (Date.month_le_of_dayOfYear hyear (Nat.le_of_eq hyd))
    (Date.month_le_of_dayOfYear hyear.symm (Nat.le_of_eq hyd.symm))
  have hday : d.day = e.day := by
    have h1 := d.day_pos
    have h2 := e.day_pos
    rw [hyear, hmonth] at hyd
    omega
  obtain ⟨y, m, dd, h1, h2, h3, h4⟩ := d
  obtain ⟨y', m', dd', h1', h2', h3', h4'⟩ := e
  obtain rfl : y = y' := hyear
  obtain rfl : m = m' := hmonth
  obtain rfl : dd = dd' := hday
  rfl

/-- A date is the one after as many days as are before it. -/
theorem Date.eq_dateAfter {base n : Nat} {d : Date} (hd : base ≤ d.year)
    (h : d.dayNumber base = n) : d = dateAfter base n :=
  Date.dayNumber_inj hd (base_le_dateAfter base n) (h.trans (dayNumber_dateAfter base n).symm)

end Gregorian
