import CspTerm.Archive.Timestamp

/-!
# When timestamps are calendar times

The two loops of `get_format_timestamp` stop one step early when nothing is left over, so the first
second of a month is printed as a day that the month before does not have. Every other second is
printed right, different seconds are never printed alike, and the month table is never left.
-/

namespace CspTerm.Archive

open CString Gregorian

/-! ## The tables -/

theorem isLeapYear_eq (year : Nat) : isLeapYear year = decide (IsLeap year) := by
  have h4 : (year : Int) % 4 = 0 ↔ year % 4 = 0 := by omega
  have h100 : (year : Int) % 100 = 0 ↔ year % 100 = 0 := by omega
  have h400 : (year : Int) % 400 = 0 ↔ year % 400 = 0 := by omega
  rw [Bool.eq_iff_iff, decide_eq_true_iff]
  unfold isLeapYear IsLeap
  simp only [Bool.and_eq_true, Bool.or_eq_true, beq_iff_eq, bne_iff_ne, ne_eq, h4, h100, h400]

theorem yearSec_eq (year : Nat) : yearSec year = 86400 * yearLength year := by
  unfold yearSec yearLength
  rw [isLeapYear_eq]
  by_cases h : IsLeap year <;> simp [h]

/-- The table that the loop over the months reads. -/
def dayTable (year : Nat) : List Int := if isLeapYear year then daysl else days

theorem dayTable_get {year mon : Nat} (h : mon < 12) :
    (dayTable year)[mon]? = some (monthLength year (mon + 1) : Int) := by
  have hall : ∀ m < 12, daysl[m]? = some
        ((if m + 1 = 2 then 29 else if m + 1 = 4 ∨ m + 1 = 6 ∨ m + 1 = 9 ∨ m + 1 = 11 then 30
          else 31 : Nat) : Int) ∧
      days[m]? = some
        ((if m + 1 = 2 then 28 else if m + 1 = 4 ∨ m + 1 = 6 ∨ m + 1 = 9 ∨ m + 1 = 11 then 30
          else 31 : Nat) : Int) := by
    decide
  obtain ⟨hl, hn⟩ := hall mon h
  unfold dayTable monthLength
  rw [isLeapYear_eq]
  by_cases hleap : IsLeap year
  · simpa [hleap] using hl
  · simpa [hleap] using hn

/-! ## The loops -/

/-- What the loop over the years leaves: the seconds since the beginning of the year it stops at,
which are not 0 if there were any. -/
theorem countYears_spec (s : Int) (year : Nat) (base : Nat) (hb : base ≤ year) :
    ∃ (s' : Int) (year' : Nat), countYears s year = (s', (year' : Int)) ∧ year ≤ year' ∧
      s + 86400 * daysBeforeYear base year = s' + 86400 * daysBeforeYear base year' ∧
      s' ≤ 86400 * yearLength year' ∧ (0 < s → 0 < s') ∧ (s ≤ 0 → s' = s ∧ year' = year) := by
  induction hn : s.toNat using Nat.strong_induction_on generalizing s year with
  | h n ih =>
    have hpos := yearSec_pos year
    have hsec := yearSec_eq year
    rw [countYears]
    split_ifs with h
    · obtain ⟨s', year', heq, hle, hsum, hup, hp, -⟩ :=
        ih (s - yearSec year).toNat (by omega) (s - yearSec year) (year + 1) (by omega) rfl
      have hsucc := daysBeforeYear_succ hb
      refine ⟨s', year', by exact_mod_cast heq, by omega, ?_, hup, fun _ => hp (by omega),
        fun h0 => by omega⟩
      rw [hsucc] at hsum
      push_cast at hsum
      omega
    · exact ⟨s, year, rfl, Nat.le_refl _, rfl, by omega, id, fun _ => ⟨rfl, rfl⟩⟩

theorem countMonths_of_gt {daysp : List Int} {s sec d : Int} {mon : Nat} (h : s > sec)
    (hd : daysp[mon]? = some d) :
    countMonths daysp s sec mon = countMonths daysp (s - sec) (d * 24 * 60 * 60) (mon + 1) := by
  rw [countMonths, if_pos h]
  split
  · rename_i hnone
    rw [hd] at hnone
    cases hnone
  · rename_i d' hd'
    rw [hd] at hd'
    rw [Option.some.inj hd']

/-- What the loop over the months leaves, if the seconds are no more than the rest of the year has:
the seconds since the beginning of the month it stops at. The table is not left. -/
theorem countMonths_spec (year : Nat) (s : Int) (mon : Nat) (h1 : 1 ≤ mon) (h12 : mon ≤ 12)
    (hup : s + 86400 * daysBeforeMonth year mon ≤ 86400 * yearLength year) :
    ∃ (s' : Int) (mon' : Nat),
      countMonths (dayTable year) s (monthLength year mon * 24 * 60 * 60) mon = some (s', mon') ∧
      1 ≤ mon' ∧ mon' ≤ 12 ∧
      s + 86400 * daysBeforeMonth year mon = s' + 86400 * daysBeforeMonth year mon' ∧
      s' ≤ 86400 * monthLength year mon' ∧ (0 < s → 0 < s') ∧
      (s ≤ 0 → s' = s ∧ mon' = mon) := by
  induction hn : 12 - mon generalizing s mon with
  | zero =>
    obtain rfl : mon = 12 := by omega
    have hlast := daysBeforeMonth_succ year h1
    rw [daysBeforeMonth_thirteen] at hlast
    have hstop : ¬ s > (monthLength year 12 * 24 * 60 * 60 : Int) := by omega
    rw [countMonths, if_neg hstop]
    exact ⟨s, 12, rfl, h1, h12, rfl, by omega, id, fun _ => ⟨rfl, rfl⟩⟩
  | succ n ih =>
    have hlt : mon < 12 := by omega
    have hsucc := daysBeforeMonth_succ year h1
    have hpos := monthLength_pos year mon
    by_cases h : s > (monthLength year mon * 24 * 60 * 60 : Int)
    · obtain ⟨s', mon', heq, h1', h12', hsum, hup', hp, -⟩ :=
        ih (s - monthLength year mon * 24 * 60 * 60) (mon + 1) (by omega) (by omega)
          (by rw [hsucc]; push_cast; omega) (by omega)
      rw [countMonths_of_gt h (dayTable_get hlt)]
      refine ⟨s', mon', heq, h1', h12', ?_, hup', fun _ => hp (by omega), fun h0 => by omega⟩
      rw [hsucc] at hsum
      push_cast at hsum
      omega
    · rw [countMonths, if_neg h]
      exact ⟨s, mon, rfl, h1, h12, rfl, by omega, id, fun _ => ⟨rfl, rfl⟩⟩

/-! ## The printed fields -/

/-- The text for a year, a month and the seconds since its beginning. -/
def monthText (year mon : Nat) (s : Int) : CStr :=
  let day := s.tdiv (24 * 60 * 60)
  let s := s - day * 24 * 60 * 60
  let hour := s.tdiv (60 * 60)
  let s := s - hour * 60 * 60
  let min := s.tdiv 60
  dateText (day + 1) mon year hour min (s - min * 60)

/-- The text, from what the two loops leave. -/
theorem getFormatTimestamp_eq {utime s s' : Int} {year mon : Nat} (h : 0 ≤ utime)
    (hyears : countYears (toInt32 utime) 1970 = (s, (year : Int)))
    (hmonths : countMonths (dayTable year) s (31 * 24 * 60 * 60) 1 = some (s', mon)) :
    getFormatTimestamp utime 1970 = some (monthText year mon s') := by
  unfold dayTable at hmonths
  unfold getFormatTimestamp
  dsimp only
  rw [if_neg (Int.not_lt.mpr h), hyears]
  dsimp only
  rw [hmonths]
  rfl

/-- **What `get_format_timestamp` prints.** For every number of seconds there is a year, a month and
a number of seconds into that month, possibly its full length, that add up to it. -/
theorem getFormatTimestamp_fields (utime : Int) (h : 0 ≤ utime) :
    ∃ (year mon : Nat) (s : Int), getFormatTimestamp utime 1970 = some (monthText year mon s) ∧
      1970 ≤ year ∧ 1 ≤ mon ∧ mon ≤ 12 ∧
      toInt32 utime = s + 86400 * (daysBeforeYear 1970 year + daysBeforeMonth year mon) ∧
      s ≤ 86400 * monthLength year mon ∧ (0 < toInt32 utime → 0 < s) ∧
      (toInt32 utime ≤ 0 → s = toInt32 utime) := by
  obtain ⟨s1, year, hy, hle, hsum, hup, hp, hz⟩ :=
    countYears_spec (toInt32 utime) 1970 1970 (Nat.le_refl _)
  rw [daysBeforeYear_self] at hsum
  have hjan : (monthLength year 1 * 24 * 60 * 60 : Int) = 31 * 24 * 60 * 60 := rfl
  obtain ⟨s2, mon, hm, h1, h12, hsum2, hup2, hp2, hz2⟩ :=
    countMonths_spec year s1 1 (Nat.le_refl _) (by decide) (by rw [daysBeforeMonth_one]; omega)
  rw [daysBeforeMonth_one] at hsum2
  rw [hjan] at hm
  refine ⟨year, mon, s2, ?_, hle, h1, h12, by omega, hup2, fun h0 => hp2 (hp h0), ?_⟩
  · exact getFormatTimestamp_eq h hy hm
  · intro h0
    obtain ⟨h1z, -⟩ := hz h0
    obtain ⟨h2z, -⟩ := hz2 (by omega)
    omega

theorem stopsDigits_of_none {b : UInt8} {r : CStr} (h : digitVal b = none) :
    StopsDigits (b :: r) := by
  unfold StopsDigits
  simp only [takeDigits, h]

/-- The fields of a date are read back from its text. -/
theorem dateText_inj {day day' hour hour' min min' s s' : Int} {mon mon' year year' : Nat}
    (hy : 1000 ≤ year) (hy' : 1000 ≤ year')
    (h : dateText day mon year hour min s = dateText day' mon' year' hour' min' s') :
    day = day' ∧ mon = mon' ∧ year = year' ∧ hour = hour' ∧ min = min' ∧ s = s' := by
  have hdash : ∀ r, StopsDigits (45 :: r) := fun r => stopsDigits_of_none rfl
  have hblank : ∀ r, StopsDigits (32 :: r) := fun r => stopsDigits_of_none rfl
  have hcolon : ∀ r, StopsDigits (58 :: r) := fun r => stopsDigits_of_none rfl
  have hnil : StopsDigits [] := rfl
  -- peels one number and the separator behind it off both texts
  have peel : ∀ (w : Nat) (z z' : Int) (r r' : CStr), StopsDigits r → StopsDigits r' →
      fmtIntZeros w z ++ r = fmtIntZeros w z' ++ r' → z = z' ∧ r = r' := by
    intro w z z' r r' hr hr' he
    have hread := congrArg readInt he
    rw [readInt_fmtIntZeros _ _ hr, readInt_fmtIntZeros _ _ hr'] at hread
    exact Prod.mk.inj hread
  have hsep : cstr "-" = [45] ∧ cstr " " = [32] ∧ cstr ":" = [58] := by decide
  obtain ⟨hd, hb, hc⟩ := hsep
  unfold dateText at h
  simp only [hd, hb, hc, List.append_assoc, List.cons_append, List.nil_append] at h
  obtain ⟨hday, h⟩ := peel _ _ _ _ _ (hdash _) (hdash _) h
  have h := (List.cons.inj h).2
  obtain ⟨hmon, h⟩ := peel _ _ _ _ _ (hdash _) (hdash _) h
  have h := (List.cons.inj h).2
  rw [fmtIntSpaces_four hy, fmtIntSpaces_four hy'] at h
  have hread := congrArg readInt h
  rw [readInt_fmtNat _ (hblank _), readInt_fmtNat _ (hblank _)] at hread
  obtain ⟨hyear, h⟩ := Prod.mk.inj hread
  have h := (List.cons.inj h).2
  obtain ⟨hhour, h⟩ := peel _ _ _ _ _ (hcolon _) (hcolon _) h
  have h := (List.cons.inj h).2
  obtain ⟨hmin, h⟩ := peel _ _ _ _ _ (hcolon _) (hcolon _) h
  have h := (List.cons.inj h).2
  rw [← List.append_nil (fmtIntZeros 2 s), ← List.append_nil (fmtIntZeros 2 s')] at h
  obtain ⟨hs, -⟩ := peel _ _ _ _ _ hnil hnil h
  exact ⟨hday, by omega, by omega, hhour, hmin, hs⟩

/-- The seconds are found again in the day, the hour, the minute and the second. -/
theorem monthText_inj {year year' mon mon' : Nat} {s s' : Int} (hy : 1000 ≤ year)
    (hy' : 1000 ≤ year') (h : monthText year mon s = monthText year' mon' s') :
    year = year' ∧ mon = mon' ∧ s = s' := by
  obtain ⟨hday, hmon, hyear, hhour, hmin, hs⟩ := dateText_inj hy hy' h
  refine ⟨hyear, hmon, ?_⟩
  have hday' : s.tdiv (24 * 60 * 60) = s'.tdiv (24 * 60 * 60) := by omega
  rw [hday'] at hhour hmin hs
  rw [hhour] at hmin hs
  rw [hmin] at hs
  omega

/-- **Different seconds are printed differently**, as long as they differ as `int`s. -/
theorem getFormatTimestamp_inj {utime utime' : Int} (h : 0 ≤ utime) (h' : 0 ≤ utime')
    (heq : getFormatTimestamp utime 1970 = getFormatTimestamp utime' 1970) :
    toInt32 utime = toInt32 utime' := by
  obtain ⟨year, mon, s, ht, hy, -, -, hsum, -⟩ := getFormatTimestamp_fields utime h
  obtain ⟨year', mon', s', ht', hy', -, -, hsum', -⟩ := getFormatTimestamp_fields utime' h'
  rw [ht, ht'] at heq
  obtain ⟨rfl, rfl, rfl⟩ := monthText_inj (by omega) (by omega) (Option.some.inj heq)
  omega

/-! ## Calendar times -/

/-- The date of a second, from the month and the seconds since its beginning. -/
theorem dateAfter_fields {year mon n utime : Nat} (hy : 1970 ≤ year) (h1 : 1 ≤ mon)
    (h12 : mon ≤ 12) (hlt : n < 86400 * monthLength year mon)
    (hsum : utime = n + 86400 * (daysBeforeYear 1970 year + daysBeforeMonth year mon)) :
    (dateAfter 1970 (utime / 86400)).year = year ∧
      (dateAfter 1970 (utime / 86400)).month = mon ∧
      (dateAfter 1970 (utime / 86400)).day = n / 86400 + 1 := by
  have hday : n / 86400 < monthLength year mon := by omega
  let d : Date :=
    { year := year, month := mon, day := n / 86400 + 1, month_pos := h1, month_le := h12,
      day_pos := by omega, day_le := hday }
  have hnumber : d.dayNumber 1970 = utime / 86400 := by
    show daysBeforeYear 1970 year + daysBeforeMonth year mon + (n / 86400 + 1 - 1) = _
    omega
  rw [← Date.eq_dateAfter hy hnumber]
  exact ⟨rfl, rfl, rfl⟩

/-- A full month of seconds leads to the first day of the next month. -/
theorem startsMonth_of_full {year mon utime : Nat} (hy : 1970 ≤ year) (h1 : 1 ≤ mon)
    (h12 : mon ≤ 12)
    (hsum : utime = 86400 * monthLength year mon +
      86400 * (daysBeforeYear 1970 year + daysBeforeMonth year mon)) : StartsMonth utime := by
  have hpos := monthLength_pos year mon
  let d : Date :=
    { year := year, month := mon, day := monthLength year mon, month_pos := h1, month_le := h12,
      day_pos := hpos, day_le := Nat.le_refl _ }
  have hnumber : d.next.dayNumber 1970 = utime / 86400 := by
    rw [Date.dayNumber_next hy]
    show daysBeforeYear 1970 year + daysBeforeMonth year mon + (monthLength year mon - 1) + 1 = _
    omega
  have hnext : d.next = dateAfter 1970 (utime / 86400) :=
    Date.eq_dateAfter (hy.trans d.year_next_ge) hnumber
  refine ⟨by omega, ?_⟩
  rw [← hnext]
  exact Date.day_next_of_last rfl

/-- The calendar time is printed with the fields of its date. -/
theorem civilText_eq_dateText (utime : Nat) :
    civilText utime =
      dateText ((dateAfter 1970 (utime / 86400)).day : Nat)
        (dateAfter 1970 (utime / 86400)).month (dateAfter 1970 (utime / 86400)).year
        (utime % 86400 / 3600 : Nat) (utime % 86400 / 60 % 60 : Nat) (utime % 86400 % 60 : Nat) := by
  have hday : (dateAfter 1970 (utime / 86400)).day < 100 := by
    have h1 := (dateAfter 1970 (utime / 86400)).day_le
    have h2 := monthLength_le (dateAfter 1970 (utime / 86400)).year
      (dateAfter 1970 (utime / 86400)).month
    omega
  have hmonth := (dateAfter 1970 (utime / 86400)).month_le
  have hyear := base_le_dateAfter 1970 (utime / 86400)
  unfold civilText dateText
  rw [fmtIntZeros_two hday, fmtIntZeros_two (by omega), fmtIntZeros_two (by omega),
    fmtIntZeros_two (by omega), fmtIntZeros_two (by omega), fmtIntSpaces_four (by omega)]
  rfl

theorem monthText_eq_civilText {year mon n utime : Nat} (hy : 1970 ≤ year) (h1 : 1 ≤ mon)
    (h12 : mon ≤ 12) (hlt : n < 86400 * monthLength year mon)
    (hsum : utime = n + 86400 * (daysBeforeYear 1970 year + daysBeforeMonth year mon)) :
    monthText year mon n = civilText utime := by
  obtain ⟨hyear, hmon, hday⟩ := dateAfter_fields hy h1 h12 hlt hsum
  rw [civilText_eq_dateText, hyear, hmon, hday, show utime % 86400 = n % 86400 by omega]
  -- the quotients that the code subtracts step by step
  have hq : (n : Int).tdiv (24 * 60 * 60) = (n / 86400 : Nat) := rfl
  have hs : (n : Int) - (n / 86400 : Nat) * 24 * 60 * 60 = (n % 86400 : Nat) := by omega
  have hh : ((n % 86400 : Nat) : Int).tdiv (60 * 60) = (n % 86400 / 3600 : Nat) := rfl
  have hs2 : ((n % 86400 : Nat) : Int) - (n % 86400 / 3600 : Nat) * 60 * 60 =
      (n % 86400 % 3600 : Nat) := by omega
  have hm : ((n % 86400 % 3600 : Nat) : Int).tdiv 60 = (n % 86400 % 3600 / 60 : Nat) := rfl
  have hs3 : ((n % 86400 % 3600 : Nat) : Int) - (n % 86400 % 3600 / 60 : Nat) * 60 =
      (n % 86400 % 60 : Nat) := by omega
  have hmin : n % 86400 % 3600 / 60 = n % 86400 / 60 % 60 := by omega
  unfold monthText
  dsimp only
  rw [hq, hs, hh, hs2, hm, hs3, hmin]
  rfl

/-- A full month of seconds is printed as a day that no month of that name has. -/
theorem monthText_full_ne_civilText {year mon : Nat} (hy : 1970 ≤ year) (utime : Nat) :
    monthText year mon (86400 * monthLength year mon) ≠ civilText utime := by
  intro h
  have hyear := base_le_dateAfter 1970 (utime / 86400)
  have hle := (dateAfter 1970 (utime / 86400)).day_le
  have hq : (86400 * monthLength year mon : Int).tdiv (24 * 60 * 60) = monthLength year mon :=
    Int.mul_tdiv_cancel_left (a := 86400) _ (by decide)
  rw [civilText_eq_dateText] at h
  obtain ⟨hday, hmon, hyr, -⟩ := dateText_inj (by omega) (by omega) h
  rw [hq] at hday
  rw [← hmon, ← hyr] at hle
  omega

/-- The text for a month and the seconds since its beginning, possibly its full length, is the
calendar time unless that second begins a month. -/
theorem monthText_eq_civilText_iff {year mon n utime : Nat} (hy : 1970 ≤ year) (h1 : 1 ≤ mon)
    (h12 : mon ≤ 12) (hup : n ≤ 86400 * monthLength year mon) (hp : 0 < utime → 0 < n)
    (hsum : utime = n + 86400 * (daysBeforeYear 1970 year + daysBeforeMonth year mon)) :
    monthText year mon n = civilText utime ↔ utime = 0 ∨ ¬ StartsMonth utime := by
  rcases Nat.lt_or_ge n (86400 * monthLength year mon) with hlt | hfull
  · refine ⟨fun _ => ?_, fun _ => monthText_eq_civilText hy h1 h12 hlt hsum⟩
    by_contra hnot
    obtain ⟨hne, hstarts⟩ := not_or.mp hnot
    obtain ⟨hrest, hday⟩ := not_not.mp hstarts
    obtain ⟨-, -, hday'⟩ := dateAfter_fields hy h1 h12 hlt hsum
    have hpos : 0 < n := hp (by omega)
    omega
  · obtain rfl : n = 86400 * monthLength year mon := by omega
    have hpos := monthLength_pos year mon
    constructor
    · intro heq
      have hcast : ((86400 * monthLength year mon : Nat) : Int) =
          86400 * (monthLength year mon : Int) := by omega
      rw [hcast] at heq
      exact absurd heq (monthText_full_ne_civilText hy utime)
    · rintro (hzero | hstarts)
      · omega
      · exact absurd (startsMonth_of_full hy h1 h12 hsum) hstarts

/-- **Timestamps are calendar times except at the first second of a month.** For every second until
2038: the text is the Gregorian date and time if and only if the second does not begin a month (the
first second of 1970 apart); the month stays within its table; and no other second is printed the
same. -/
theorem timestampCorrect_iff (utime : Nat) (h : utime < 2 ^ 31) :
    (TimestampCorrect utime ↔ utime = 0 ∨ ¬ StartsMonth utime) ∧
      (getFormatTimestamp utime 1970).isSome ∧
      ∀ utime' : Nat, utime' < 2 ^ 31 →
        getFormatTimestamp utime' 1970 = getFormatTimestamp utime 1970 → utime' = utime := by
  have hint : ∀ n : Nat, n < 2 ^ 31 → toInt32 n = n := fun n hn =>
    toInt32_of_range (by omega) (by omega)
  obtain ⟨year, mon, s, ht, hy, h1, h12, hsum, hup, hp, hz⟩ :=
    getFormatTimestamp_fields utime (Int.natCast_nonneg utime)
  rw [hint utime h] at hsum hp hz
  have h0 : 0 ≤ s := by
    rcases Nat.eq_zero_or_pos utime with h0 | h0
    · exact Int.le_of_eq (hz (by omega) ▸ by omega)
    · exact Int.le_of_lt (hp (by omega))
  obtain ⟨n, rfl⟩ := Int.eq_ofNat_of_zero_le h0
  refine ⟨?_, by rw [ht]; rfl, ?_⟩
  · unfold TimestampCorrect
    rw [ht, Option.some.injEq]
    exact monthText_eq_civilText_iff hy h1 h12 (by omega) (by omega) (by omega)
  · intro utime' h' heq
    have hinj := getFormatTimestamp_inj (Int.natCast_nonneg utime') (Int.natCast_nonneg utime) heq
    rw [hint utime h, hint utime' h'] at hinj
    omega

/-- An ordinary second of October 2025. -/
theorem timestampCorrect_october : TimestampCorrect 1760931665 := by
  have h := (timestampCorrect_iff 1760931665 (by decide)).1
  refine h.mpr (Or.inr ?_)
  intro hstarts
  have hrest : 1760931665 % 86400 = 0 := hstarts.1
  omega

/-- Midnight between January and February 1970 is the 32nd of January. -/
theorem february_printed_as_january :
    getFormatTimestamp 2678400 1970 = some (cstr "32-01-1970 00:00:00") ∧
      civilText 2678400 = cstr "01-02-1970 00:00:00" ∧ ¬ TimestampCorrect 2678400 := by
  have hyears : countYears (toInt32 2678400) 1970 = (2678400, 1970) := by
    rw [countYears]
    rfl
  have hmonths : countMonths days 2678400 (31 * 24 * 60 * 60) 1 = some (2678400, 1) := by
    rw [countMonths]
    rfl
  have hcode : getFormatTimestamp 2678400 1970 = some (cstr "32-01-1970 00:00:00") := by
    rw [getFormatTimestamp_eq (by decide) hyears hmonths]
    decide +kernel
  have hcivil : civilText 2678400 = cstr "01-02-1970 00:00:00" := by decide +kernel
  refine ⟨hcode, hcivil, ?_⟩
  intro h
  have heq : some (cstr "32-01-1970 00:00:00") = some (cstr "01-02-1970 00:00:00") := by
    rw [← hcode, ← hcivil]
    exact h
  exact absurd heq (by decide +kernel)

end CspTerm.Archive
