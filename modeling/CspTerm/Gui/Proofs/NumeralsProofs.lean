import CspTerm.Gui.Numerals

/-!
# Where numbers are read as documented

`strtol` with base 0 differs from the documented reading in two places: it skips white space, and it
reads a number with a leading zero in base 8.
-/

namespace CspTerm.Gui

open CString

/-! ## The call -/

theorem parseLong_eq (token : CStr) (min max value : Int) :
    parseLong token min max value =
      (guiBackendParseLong token min max).elim (-1, value) fun v => (0, v) := by
  unfold parseLong guiBackendParseLong
  dsimp only
  split_ifs <;> rfl

theorem parseLong_eq_zero_iff (token : CStr) (min max value v : Int) :
    parseLong token min max value = (0, v) ↔ guiBackendParseLong token min max = some v := by
  rw [parseLong_eq]
  cases guiBackendParseLong token min max with
  | none => simp
  | some w => simp

theorem parseLong_untouched (token : CStr) (min max value : Int)
    (h : (parseLong token min max value).1 ≠ 0) : (parseLong token min max value).2 = value := by
  rw [parseLong_eq] at h ⊢
  cases hp : guiBackendParseLong token min max with
  | none => rfl
  | some w =>
    rw [hp] at h
    exact absurd rfl h

/-- What is accepted is the number behind the white space, when it is in the range. -/
theorem guiBackendParseLong_eq_some_iff {min max : Int} (hmin : longMin ≤ min)
    (hmax : max ≤ longMax) (token : CStr) (v : Int) :
    guiBackendParseLong token min max = some v ↔
      baseZeroNumber (token.dropWhile isSpace) = some v ∧ min ≤ v ∧ v ≤ max := by
  have hread := strtol_zero_iff token v
  unfold guiBackendParseLong
  dsimp only
  constructor
  · intro h
    split_ifs at h with hbad hrange
    have hv := Option.some.inj h
    rw [not_or, not_or, not_not, not_not] at hbad
    have hstrtol : strtol token 0 =
        { value := v, rest := [], converted := true, erange := false } := by
      rw [← hv, ← hbad.2.2, ← hbad.2.1, ← Bool.eq_false_iff.mpr hbad.1]
    exact ⟨(hread.mp hstrtol).1, by omega, by omega⟩
  · rintro ⟨hnumber, hlo, hhi⟩
    rw [hread.mpr ⟨hnumber, by omega, by omega⟩]
    rw [if_neg (by simp), if_neg (by dsimp only; omega)]

/-! ## The two readings -/

theorem isSpace_not_digit {b : UInt8} (hb : isSpace b = true) :
    ¬ (48 ≤ b ∧ b ≤ 57) ∧ b ≠ 45 ∧ b ≠ 43 := by
  have hall : ∀ n < 256, isSpace (UInt8.ofNat n) = true →
      ¬ (48 ≤ UInt8.ofNat n ∧ UInt8.ofNat n ≤ 57) ∧ UInt8.ofNat n ≠ 45 ∧ UInt8.ofNat n ≠ 43 := by
    decide +kernel
  have h := hall b.toNat b.toNat_lt
  rw [UInt8.ofNat_toNat] at h
  exact h hb

/-- A number with a leading zero is octal to `strtol`. -/
theorem baseZeroNumber_of_leadingZero {s : CStr} (h : LeadingZero s) :
    baseZeroNumber s = octalNumber s := by
  obtain ⟨d, rest, hs, hlo, hhi⟩ := h
  have hx : ¬ (d = 120 ∨ d = 88) := by
    rintro (rfl | rfl)
    · exact absurd hhi (by decide)
    · exact absurd hhi (by decide)
  unfold baseZeroNumber octalNumber
  dsimp only
  rw [hs]
  rcases rest with _ | ⟨b, rest⟩
  · rfl
  · simp [detectBase, hx]

theorem detectBase_of_ne {s : CStr} (h : ∀ rest, s ≠ 48 :: rest) : detectBase s = (10, s) := by
  unfold detectBase
  split
  · exact absurd rfl (h _)
  · exact absurd rfl (h _)
  · rfl

/-- The documented number without `0x`. -/
theorem documentedNumber_of_decimal {s : CStr}
    (h : ∀ x rest, (takeSign s).2 = 48 :: x :: rest → ¬ (x = 120 ∨ x = 88)) :
    documentedNumber s = wholeNumber 10 (takeSign s).1 (takeSign s).2 := by
  unfold documentedNumber
  dsimp only
  split
  · rename_i x rest heq
    rw [if_neg (h x rest heq)]
    rfl
  all_goals rfl

theorem documentedNumber_of_hexadecimal {s : CStr} {x : UInt8} {rest : CStr}
    (hs : (takeSign s).2 = 48 :: x :: rest) (hx : x = 120 ∨ x = 88) :
    documentedNumber s = wholeNumber 16 (takeSign s).1 rest := by
  simp only [documentedNumber, hs, hx, if_true]
  rfl

theorem baseZeroNumber_of_detectBase {s t digits : CStr} {base : Nat} (hs : (takeSign s).2 = t)
    (h : detectBase t = (base, digits)) :
    baseZeroNumber s = wholeNumber base (takeSign s).1 digits := by
  unfold baseZeroNumber
  dsimp only
  rw [hs, h]

/-- The prefix `0x` counts only before a hexadecimal digit; without one the text is no number. -/
theorem baseZeroNumber_of_hexadecimal {s : CStr} {x : UInt8} {rest : CStr}
    (hs : (takeSign s).2 = 48 :: x :: rest) (hx : x = 120 ∨ x = 88) :
    baseZeroNumber s = wholeNumber 16 (takeSign s).1 rest := by
  have hzero : digitVal 48 = some 0 := rfl
  have hstart : ∀ d, digitVal x = some d → ¬ d < 8 := by
    intro d hd
    rcases hx with rfl | rfl
    · cases hd
      decide
    · cases hd
      decide
  rcases rest with _ | ⟨b, rest⟩
  · have hbase : detectBase [48, x] = (8, [48, x]) := rfl
    rw [baseZeroNumber_of_detectBase hs hbase,
      wholeNumber_eq_none_of_second hzero (by omega) hstart]
    rfl
  · by_cases hb : ∃ e, digitVal b = some e ∧ e < 16
    · obtain ⟨e, hb, he⟩ := hb
      have hbase : detectBase (48 :: x :: b :: rest) = (16, b :: rest) := by
        simp [detectBase, hx, takeDigits_cons_of_lt hb he]
      exact baseZeroNumber_of_detectBase hs hbase
    · have hnot : ∀ e, digitVal b = some e → ¬ e < 16 := fun e h1 h2 => hb ⟨e, h1, h2⟩
      have hbase : detectBase (48 :: x :: b :: rest) = (8, 48 :: x :: b :: rest) := by
        simp [detectBase, takeDigits_cons_of_not hnot]
      rw [baseZeroNumber_of_detectBase hs hbase, wholeNumber_eq_none_of_head hnot,
        wholeNumber_eq_none_of_second hzero (by omega) hstart]

/-- Every other text is to `strtol` what it is in the documentation. -/
theorem baseZeroNumber_of_not_leadingZero {s : CStr} (h : ¬ LeadingZero s) :
    baseZeroNumber s = documentedNumber s := by
  have hzero : digitVal 48 = some 0 := rfl
  by_cases hhead : ∃ rest, (takeSign s).2 = 48 :: rest
  · obtain ⟨rest, hs⟩ := hhead
    rcases rest with _ | ⟨x, rest⟩
    · have hbase : detectBase [48] = (8, [48]) := rfl
      rw [baseZeroNumber_of_detectBase hs hbase, documentedNumber_of_decimal, hs]
      · rfl
      · intro x rest hx
        rw [hs] at hx
        cases hx
    · by_cases hx : x = 120 ∨ x = 88
      · rw [baseZeroNumber_of_hexadecimal hs hx, documentedNumber_of_hexadecimal hs hx]
      · have hdecimal : ¬ (48 ≤ x ∧ x ≤ 57) := fun hd => h ⟨x, rest, hs, hd⟩
        have hbase : detectBase (48 :: x :: rest) = (8, 48 :: x :: rest) := by
          rcases rest with _ | ⟨b, rest⟩
          · rfl
          · simp [detectBase, hx]
        rw [baseZeroNumber_of_detectBase hs hbase, documentedNumber_of_decimal, hs,
          wholeNumber_eq_none_of_second hzero (by omega)
            (not_digit_of_not_decimal (by omega) hdecimal),
          wholeNumber_eq_none_of_second hzero (by omega)
            (not_digit_of_not_decimal (le_refl 10) hdecimal)]
        intro y rest' hy
        rw [hs] at hy
        rwa [← (List.cons.inj (List.cons.inj hy).2).1]
  · have hne : ∀ rest, (takeSign s).2 ≠ 48 :: rest := fun rest hs => hhead ⟨rest, hs⟩
    rw [baseZeroNumber_of_detectBase rfl (detectBase_of_ne hne), documentedNumber_of_decimal]
    intro x rest hs
    exact absurd hs (hne _)

/-- No number is documented to begin with white space. -/
theorem documentedNumber_of_startsWithSpace {token : CStr} (h : StartsWithSpace token) :
    documentedNumber token = none := by
  obtain ⟨b, rest, rfl, hb⟩ := h
  obtain ⟨hdigit, hminus, hplus⟩ := isSpace_not_digit hb
  have hzero : ¬ LeadingZero (b :: rest) := by
    rintro ⟨d, rest', hs, -⟩
    rw [takeSign_of_ne hminus hplus] at hs
    obtain rfl := (List.cons.inj hs).1
    exact absurd hb (by decide)
  have hbase : detectBase (b :: rest) = (10, b :: rest) := by
    unfold detectBase
    split
    · rename_i heq
      obtain rfl := (List.cons.inj heq).1
      exact absurd hb (by decide)
    · rename_i heq
      obtain rfl := (List.cons.inj heq).1
      exact absurd hb (by decide)
    · rfl
  rw [← baseZeroNumber_of_not_leadingZero hzero]
  unfold baseZeroNumber
  rw [takeSign_of_ne hminus hplus]
  dsimp only
  rw [hbase]
  exact wholeNumber_eq_none_of_head (not_digit_of_not_decimal (le_refl 10) hdigit) false rest

theorem dropWhile_of_not_startsWithSpace {token : CStr} (h : ¬ StartsWithSpace token) :
    token.dropWhile isSpace = token := by
  rcases token with _ | ⟨b, rest⟩
  · rfl
  · have hb : isSpace b = false := by
      cases hb : isSpace b with
      | false => rfl
      | true => exact absurd ⟨b, rest, rfl, hb⟩ h
    rw [List.dropWhile_cons_of_neg (by simp [hb])]

/-! ## Where the two readings agree -/

/-- What a text is to `strtol` and in the documentation. -/
theorem baseZeroNumber_cases (s : CStr) :
    LeadingZero s ∧ baseZeroNumber s = octalNumber s ∨
      ¬ LeadingZero s ∧ baseZeroNumber s = documentedNumber s := by
  by_cases h : LeadingZero s
  · exact Or.inl ⟨h, baseZeroNumber_of_leadingZero h⟩
  · exact Or.inr ⟨h, baseZeroNumber_of_not_leadingZero h⟩

/-- A number with a leading zero is documented to be decimal. -/
theorem documentedNumber_of_leadingZero {s : CStr} (h : LeadingZero s) :
    documentedNumber s = wholeNumber 10 (takeSign s).1 (takeSign s).2 := by
  obtain ⟨d, rest, hs, -, hhi⟩ := h
  apply documentedNumber_of_decimal
  intro x rest' hx
  rw [hs] at hx
  obtain rfl := (List.cons.inj (List.cons.inj hx).2).1
  rintro (rfl | rfl)
  · exact absurd hhi (by decide)
  · exact absurd hhi (by decide)

/-- The call does what is documented when both readings accept the same numbers of the range. -/
theorem readsAsDocumented_iff_readings {token : CStr} {min max : Int} (hmin : longMin ≤ min)
    (hmax : max ≤ longMax) :
    ReadsAsDocumented token min max ↔ ∀ v, min ≤ v → v ≤ max →
      (baseZeroNumber (token.dropWhile isSpace) = some v ↔ documentedNumber token = some v) := by
  have hcall : ∀ value v, parseLong token min max value = (0, v) ↔
      baseZeroNumber (token.dropWhile isSpace) = some v ∧ min ≤ v ∧ v ≤ max := fun value v =>
    (parseLong_eq_zero_iff token min max value v).trans
      (guiBackendParseLong_eq_some_iff hmin hmax token v)
  constructor
  · intro h v hlo hhi
    have hv := (hcall 0 v).symm.trans ((h 0).1 v)
    constructor
    · intro hr
      exact (hv.mp ⟨hr, hlo, hhi⟩).1
    · intro hd
      exact (hv.mpr ⟨hd, hlo, hhi⟩).1
  · intro h value
    refine ⟨fun v => ?_, parseLong_untouched token min max value⟩
    rw [hcall]
    constructor
    · rintro ⟨hr, hlo, hhi⟩
      exact ⟨(h v hlo hhi).mp hr, hlo, hhi⟩
    · rintro ⟨hd, hlo, hhi⟩
      exact ⟨(h v hlo hhi).mpr hd, hlo, hhi⟩

/-- The decimal and the octal reading of a text agree on a range exactly when only its last digit
counts or the range contains neither. -/
theorem leadingZero_readings_iff {token : CStr} {min max : Int} (hzero : LeadingZero token) :
    (∀ v, min ≤ v → v ≤ max → (octalNumber token = some v ↔ documentedNumber token = some v)) ↔
      OnlyLastDigit (takeSign token).2 ∨
        OutOfRange min max (documentedNumber token) ∧ OutOfRange min max (octalNumber token) := by
  have hoctal : octalNumber token = wholeNumber 8 (takeSign token).1 (takeSign token).2 := rfl
  have hagree := wholeNumber_octal_iff (takeSign token).1 (takeSign token).2
  rw [← hoctal, ← documentedNumber_of_leadingZero hzero] at hagree
  rw [← hagree]
  constructor
  · intro h
    by_cases hin : ∃ v, (documentedNumber token = some v ∨ octalNumber token = some v) ∧
        min ≤ v ∧ v ≤ max
    · obtain ⟨v, hv, hlo, hhi⟩ := hin
      rcases hv with hv | hv
      · exact Or.inl ⟨v, (h v hlo hhi).mpr hv, hv⟩
      · exact Or.inl ⟨v, hv, (h v hlo hhi).mp hv⟩
    · exact Or.inr ⟨fun v hv hr => hin ⟨v, Or.inl hv, hr⟩, fun v hv hr => hin ⟨v, Or.inr hv, hr⟩⟩
  · rintro (⟨w, h8, h10⟩ | ⟨hdec, hoct⟩) v hlo hhi
    · rw [h8, h10]
    · constructor
      · intro hv
        exact absurd ⟨hlo, hhi⟩ (hoct v hv)
      · intro hv
        exact absurd ⟨hlo, hhi⟩ (hdec v hv)

/-- **A numeric argument is read as documented exactly when it is plainly written.** -/
theorem readsAsDocumented_iff (token : CStr) (min max : Int) (hmin : longMin ≤ min)
    (hmax : max ≤ longMax) : ReadsAsDocumented token min max ↔ PlainlyWritten token min max := by
  rw [readsAsDocumented_iff_readings hmin hmax]
  by_cases hspace : StartsWithSpace token
  · rw [documentedNumber_of_startsWithSpace hspace]
    have hnone : (∀ v, min ≤ v → v ≤ max →
        (baseZeroNumber (token.dropWhile isSpace) = some v ↔ none = some v)) ↔
        OutOfRange min max (baseZeroNumber (token.dropWhile isSpace)) := by
      constructor
      · rintro h v hv ⟨hlo, hhi⟩
        cases (h v hlo hhi).mp hv
      · intro h v hlo hhi
        constructor
        · intro hv
          exact absurd ⟨hlo, hhi⟩ (h v hv)
        · intro hv
          cases hv
    rw [hnone]
    rcases baseZeroNumber_cases (token.dropWhile isSpace) with ⟨hzero, heq⟩ | ⟨hzero, heq⟩
    · rw [heq]
      exact ⟨fun h => ⟨fun _ _ => h, fun _ hn => absurd hzero hn, fun hn => absurd hspace hn⟩,
        fun h => h.octalBehindSpace hspace hzero⟩
    · rw [heq]
      exact ⟨fun h => ⟨fun _ hz => absurd hz hzero, fun _ _ => h, fun hn => absurd hspace hn⟩,
        fun h => h.behindSpace hspace hzero⟩
  · rw [dropWhile_of_not_startsWithSpace hspace]
    rcases baseZeroNumber_cases token with ⟨hzero, heq⟩ | ⟨hzero, heq⟩
    · rw [heq, leadingZero_readings_iff hzero]
      exact ⟨fun h => ⟨fun hs => absurd hs hspace, fun hs => absurd hs hspace, fun _ _ => h⟩,
        fun h => h.leadingZero hspace hzero⟩
    · rw [heq]
      exact ⟨fun _ => ⟨fun hs => absurd hs hspace, fun hs => absurd hs hspace,
        fun _ hz => absurd hz hzero⟩, fun _ v _ _ => Iff.rfl⟩

/-- The azimuth 145 is plainly written. -/
theorem readsAsDocumented_azimuth : ReadsAsDocumented (cstr "145") (-360) 360 := by
  have hspace : ¬ StartsWithSpace (cstr "145") := by
    rintro ⟨b, rest, hb, hs⟩
    obtain ⟨rfl, -⟩ := List.cons.inj hb
    exact absurd hs (by decide)
  have hzero : ¬ LeadingZero (cstr "145") := by
    rintro ⟨d, rest, h, -⟩
    have h145 : (takeSign (cstr "145")).2 = [49, 52, 53] := by decide
    rw [h145] at h
    exact absurd (List.cons.inj h).1 (by decide)
  exact (readsAsDocumented_iff (cstr "145") (-360) 360 (by decide) (by decide)).mpr
    ⟨fun h => absurd h hspace, fun h => absurd h hspace, fun _ h => absurd h hzero⟩

/-- The azimuth 045 is read as 37. -/
theorem not_readsAsDocumented_zeroPadded :
    ¬ ∀ token min max, longMin ≤ min → min ≤ max → max ≤ longMax →
      ReadsAsDocumented token min max := by
  intro h
  have hread := (h (cstr "045") (-360) 360 (by decide) (by decide) (by decide) 0).1 37
  have hcall : parseLong (cstr "045") (-360) 360 0 = (0, 37) := by decide
  have hnumber : documentedNumber (cstr "045") = some 45 := by decide
  rw [hnumber] at hread
  exact absurd (hread.mp hcall).1 (by decide)

end CspTerm.Gui
