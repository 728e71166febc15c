import CspTerm.Lib.CString

/-!
# Texts that are one number

`strtol` with base 0 chooses the base by the first digits. This module says which number a text is
when all of it is digits behind a sign, and compares what the same digits are worth in two bases.
-/

namespace CString

/-- The number that a text of digits is. -/
def wholeNumber (base : Nat) (negative : Bool) (digits : CStr) : Option Int :=
  let (ds, rest) := takeDigits base digits
  if ds = [] ∨ rest ≠ [] then none
  else some (if negative then -(Radix.value base ds : Int) else Radix.value base ds)

/-- The number that a text is to `strtol` with base 0, when all of it is one. -/
def baseZeroNumber (s : CStr) : Option Int :=
  let (negative, digits) := takeSign s
  let (base, digits) := detectBase digits
  wholeNumber base negative digits

/-- The number that a text is in base 8. -/
def octalNumber (s : CStr) : Option Int :=
  let (negative, digits) := takeSign s
  wholeNumber 8 negative digits

/-- The text is a sign, if any, and a `0` with a decimal digit behind it. -/
def LeadingZero (s : CStr) : Prop :=
  ∃ d rest, (takeSign s).2 = 48 :: d :: rest ∧ 48 ≤ d ∧ d ≤ 57

/-! ## Runs of digits -/

theorem takeDigits_cons_of_lt {base d : Nat} {b : UInt8} (hb : digitVal b = some d)
    (hd : d < base) (s : CStr) :
    takeDigits base (b :: s) = (d :: (takeDigits base s).1, (takeDigits base s).2) := by
  simp [takeDigits, hb, hd]

theorem takeDigits_cons_of_not {base : Nat} {b : UInt8}
    (hb : ∀ d, digitVal b = some d → ¬ d < base) (s : CStr) :
    takeDigits base (b :: s) = ([], b :: s) := by
  unfold takeDigits
  split
  · rename_i d hd
    rw [if_neg (hb d hd)]
  · rfl

/-- A text is a run of digits exactly when each byte is one. -/
theorem takeDigits_eq_iff (base : Nat) (s : CStr) (ds : List Nat) :
    takeDigits base s = (ds, []) ↔ s.map digitVal = ds.map some ∧ ∀ d ∈ ds, d < base := by
  induction s generalizing ds with
  | nil =>
    rcases ds with _ | ⟨d, ds⟩
    · simp [takeDigits]
    · simp [takeDigits]
  | cons b s ih =>
    by_cases hdigit : ∃ d, digitVal b = some d ∧ d < base
    · obtain ⟨d, hb, hd⟩ := hdigit
      rw [takeDigits_cons_of_lt hb hd]
      rcases ds with _ | ⟨e, ds⟩
      · simp
      · have htail := ih ds
        rw [Prod.ext_iff] at htail
        rw [Prod.ext_iff, List.map_cons, List.map_cons, hb, List.cons.injEq, List.cons.injEq,
          Option.some.injEq, List.forall_mem_cons]
        constructor
        · rintro ⟨⟨rfl, h1⟩, h2⟩
          obtain ⟨hmap, hlt⟩ := htail.mp ⟨h1, h2⟩
          exact ⟨⟨rfl, hmap⟩, hd, hlt⟩
        · rintro ⟨⟨rfl, hmap⟩, -, hlt⟩
          obtain ⟨h1, h2⟩ := htail.mpr ⟨hmap, hlt⟩
          exact ⟨⟨rfl, h1⟩, h2⟩
    · have hnot : ∀ d, digitVal b = some d → ¬ d < base := fun d hb hd => hdigit ⟨d, hb, hd⟩
      rw [takeDigits_cons_of_not hnot]
      constructor
      · intro h
        cases (Prod.ext_iff.mp h).2
      · rintro ⟨hmap, hlt⟩
        rcases ds with _ | ⟨e, ds⟩
        · cases hmap
        · rw [List.map_cons, List.map_cons, List.cons.injEq] at hmap
          exact absurd (hlt e (by simp)) (hnot e hmap.1)

theorem wholeNumber_eq_none_of_head {base : Nat} {b : UInt8}
    (hb : ∀ d, digitVal b = some d → ¬ d < base) (negative : Bool) (s : CStr) :
    wholeNumber base negative (b :: s) = none := by
  simp [wholeNumber, takeDigits_cons_of_not hb]

/-- A number needs its second byte to be a digit as well. -/
theorem wholeNumber_eq_none_of_second {base d : Nat} {b c : UInt8} (hb : digitVal b = some d)
    (hd : d < base) (hc : ∀ e, digitVal c = some e → ¬ e < base) (negative : Bool) (s : CStr) :
    wholeNumber base negative (b :: c :: s) = none := by
  simp [wholeNumber, takeDigits_cons_of_lt hb hd, takeDigits_cons_of_not hc]

theorem wholeNumber_eq_some_iff (base : Nat) (negative : Bool) (s : CStr) (v : Int) :
    wholeNumber base negative s = some v ↔ ∃ ds, ds ≠ [] ∧ s.map digitVal = ds.map some ∧
      (∀ d ∈ ds, d < base) ∧
      v = if negative then -(Radix.value base ds : Int) else Radix.value base ds := by
  unfold wholeNumber
  dsimp only
  constructor
  · intro h
    split_ifs at h with hbad hneg
    all_goals
      rw [not_or, not_not] at hbad
      obtain ⟨hmap, hlt⟩ := (takeDigits_eq_iff base s _).mp (Prod.ext rfl hbad.2)
      exact ⟨_, hbad.1, hmap, hlt, by simp [← Option.some.inj h, hneg]⟩
  · rintro ⟨ds, hne, hmap, hlt, rfl⟩
    have htake := (takeDigits_eq_iff base s ds).mpr ⟨hmap, hlt⟩
    rw [htake, if_neg (by simp [hne])]

/-! ## `strtol` with base 0 -/

/-- **The numbers that `strtol` reads to the end** are those of the text after its white space, if a
`long` can hold them. -/
theorem strtol_zero_iff (s : CStr) (z : Int) :
    strtol s 0 = { value := z, rest := [], converted := true, erange := false } ↔
      baseZeroNumber (s.dropWhile isSpace) = some z ∧ longMin ≤ z ∧ z ≤ longMax := by
  unfold strtol baseZeroNumber wholeNumber
  dsimp only
  rw [if_pos rfl]
  generalize takeSign (s.dropWhile isSpace) = sign
  generalize detectBase sign.2 = start
  generalize takeDigits start.1 start.2 = run
  obtain ⟨ds, rest⟩ := run
  dsimp only
  generalize (if sign.1 = true then -(Radix.value start.1 ds : Int) else Radix.value start.1 ds) = v
  by_cases hds : ds = []
  · simp [hds]
  · rw [if_neg hds]
    by_cases hrest : rest = []
    · have hok : ¬ (ds = [] ∨ rest ≠ []) := by simp [hds, hrest]
      rw [if_neg hok, hrest, Option.some.injEq]
      split_ifs with hlow hhigh
      · simp only [Strtol.mk.injEq, reduceCtorEq, and_false, false_iff]
        rintro ⟨rfl, h, -⟩
        omega
      · simp only [Strtol.mk.injEq, reduceCtorEq, and_false, false_iff]
        rintro ⟨rfl, -, h⟩
        omega
      · simp only [Strtol.mk.injEq, and_true]
        constructor
        · rintro rfl
          exact ⟨rfl, by omega, by omega⟩
        · exact And.left
    · rw [if_pos (Or.inr hrest)]
      split_ifs
      all_goals simp [hrest]

/-! ## One text in base 8 and in base 10 -/

/-- The digits that are worth the same in base 8 and in base 10. -/
def OnlyLastDigit (s : CStr) : Prop := ∃ n d, s = List.replicate n 48 ++ [d] ∧ 48 ≤ d ∧ d ≤ 55

theorem digitVal_eq_zero_iff (b : UInt8) : digitVal b = some 0 ↔ b = 48 := by
  have hall : ∀ n < 256, digitVal (UInt8.ofNat n) = some 0 ↔ UInt8.ofNat n = 48 := by
    decide +kernel
  have hb := hall b.toNat b.toNat_lt
  rwa [UInt8.ofNat_toNat] at hb

theorem digitVal_lt_eight_iff (b : UInt8) :
    (∃ d < 8, digitVal b = some d) ↔ 48 ≤ b ∧ b ≤ 55 := by
  have hall : ∀ n < 256, (∃ d < 8, digitVal (UInt8.ofNat n) = some d) ↔
      48 ≤ UInt8.ofNat n ∧ UInt8.ofNat n ≤ 55 := by decide +kernel
  have hb := hall b.toNat b.toNat_lt
  rwa [UInt8.ofNat_toNat] at hb

theorem digitVal_lt_ten_iff (b : UInt8) :
    (∃ d < 10, digitVal b = some d) ↔ 48 ≤ b ∧ b ≤ 57 := by
  have hall : ∀ n < 256, (∃ d < 10, digitVal (UInt8.ofNat n) = some d) ↔
      48 ≤ UInt8.ofNat n ∧ UInt8.ofNat n ≤ 57 := by decide +kernel
  have hb := hall b.toNat b.toNat_lt
  rwa [UInt8.ofNat_toNat] at hb

/-- A byte that is no decimal digit ends a number in base 10 and in base 8. -/
theorem not_digit_of_not_decimal {base : Nat} (hbase : base ≤ 10) {b : UInt8}
    (hb : ¬ (48 ≤ b ∧ b ≤ 57)) : ∀ d, digitVal b = some d → ¬ d < base := by
  intro d hd hlt
  exact hb ((digitVal_lt_ten_iff b).mp ⟨d, by omega, hd⟩)

/-- **A text is the same number in base 8 and in base 10** exactly when only its last digit counts,
and that one is octal. -/
theorem wholeNumber_octal_iff (negative : Bool) (s : CStr) :
    (∃ v, wholeNumber 8 negative s = some v ∧ wholeNumber 10 negative s = some v) ↔
      OnlyLastDigit s := by
  constructor
  · rintro ⟨v, h8, h10⟩
    obtain ⟨ds, hne, hmap, hlt, hv⟩ := (wholeNumber_eq_some_iff 8 negative s v).mp h8
    obtain ⟨es, -, hmap', -, hv'⟩ := (wholeNumber_eq_some_iff 10 negative s v).mp h10
    have hes : es = ds := List.map_injective_iff.mpr (Option.some_injective _) (hmap'.symm.trans hmap)
    subst hes
    have hvalue : Radix.value 8 es = Radix.value 10 es := by
      cases negative with
      | false => simp only [Bool.false_eq_true, if_false] at hv hv'; omega
      | true => simp only [if_true] at hv hv'; omega
    obtain ⟨init, last, rfl⟩ : ∃ init last, es = init ++ [last] :=
      ⟨es.dropLast, es.getLast hne, (List.dropLast_append_getLast hne).symm⟩
    have hzero := (Radix.value_eq_value_iff (by omega) (by omega) init last).mp hvalue
    rw [List.map_append, List.map_singleton] at hmap
    obtain ⟨s1, s2, rfl, h1, h2⟩ := List.map_eq_append_iff.mp hmap
    obtain ⟨d, rfl, hd⟩ := List.map_eq_singleton_iff.mp h2
    have hs1 : s1 = List.replicate s1.length 48 := by
      apply List.eq_replicate_of_mem
      intro b hb
      have hmem : digitVal b ∈ init.map some := h1 ▸ List.mem_map_of_mem hb
      obtain ⟨e, he, heq⟩ := List.mem_map.mp hmem
      rw [hzero e he] at heq
      exact (digitVal_eq_zero_iff b).mp heq.symm
    obtain ⟨hlo, hhi⟩ := (digitVal_lt_eight_iff d).mp ⟨last, hlt last (by simp), hd⟩
    exact ⟨s1.length, d, by rw [← hs1], hlo, hhi⟩
  · rintro ⟨n, d, rfl, hlo, hhi⟩
    obtain ⟨last, hlast, hd⟩ := (digitVal_lt_eight_iff d).mpr ⟨hlo, hhi⟩
    have hmap : (List.replicate n (48 : UInt8) ++ [d]).map digitVal =
        (List.replicate n 0 ++ [last]).map some := by
      rw [List.map_append, List.map_append, List.map_replicate, List.map_replicate,
        List.map_singleton, List.map_singleton, hd, (digitVal_eq_zero_iff 48).mpr rfl]
    have hlt : ∀ base, 8 ≤ base → ∀ e ∈ List.replicate n 0 ++ [last], e < base := by
      intro base hbase e he
      rcases List.mem_append.mp he with he | he
      · rw [List.eq_of_mem_replicate he]
        omega
      · rw [List.mem_singleton.mp he]
        omega
    have hvalue := (Radix.value_eq_value_iff (by omega : 0 < 8) (by omega : 8 < 10)
      (List.replicate n 0) last).mpr fun e he => List.eq_of_mem_replicate he
    refine ⟨_, (wholeNumber_eq_some_iff 8 negative _ _).mpr
      ⟨_, by simp, hmap, hlt 8 (by omega), rfl⟩, (wholeNumber_eq_some_iff 10 negative _ _).mpr
      ⟨_, by simp, hmap, hlt 10 (by omega), ?_⟩⟩
    rw [hvalue]

end CString
