import CspTerm.Header.ItoaMemory

/-!
# What `itoa` prints

The loop takes the digits of the magnitude, each with the sign of the number, so the text is the
documented one for the numbers that are not negative when the loop begins. `itoa` in memory leaves the
text of `itoa` and a NUL in front of what was there (`itoaInto_eq`).
-/

namespace CspTerm.Header

open CString

/-! ## The digits -/

theorem signed_tdiv {ε : Int} (hε : ε = 1 ∨ ε = -1) (n base : Nat) :
    (ε * n).tdiv base = ε * (n / base : Nat) := by
  rcases hε with rfl | rfl
  · rw [one_mul, one_mul, Int.ofNat_tdiv]
  · rw [neg_one_mul, neg_one_mul, Int.neg_tdiv, Int.ofNat_tdiv]

theorem signed_tmod {ε : Int} (hε : ε = 1 ∨ ε = -1) (n base : Nat) :
    (ε * n).tmod base = ε * (n % base : Nat) := by
  rcases hε with rfl | rfl
  · rw [one_mul, one_mul, Int.ofNat_tmod]
  · rw [neg_one_mul, neg_one_mul, Int.neg_tmod, Int.ofNat_tmod]

/-- The characters of the loop, last digit first: each digit has the sign of the number. -/
def signedDigits (ε : Int) (base n : Nat) : CStr :=
  (Nat.digits base n).map fun d : Nat => itoaDigit (ε * d)

theorem itoaLoop_eq {ε : Int} (hε : ε = 1 ∨ ε = -1) {base : Nat} (hbase : 1 < base) {fuel n : Nat}
    (hfuel : n < fuel) (str : CStr) :
    itoaLoop base fuel (ε * n) str = some (str ++ signedDigits ε base n) := by
  induction fuel generalizing n str with
  | zero => omega
  | succ fuel ih =>
    rw [itoaLoop]
    by_cases hn : n = 0
    · subst hn
      rw [Nat.cast_zero, mul_zero, if_pos rfl, signedDigits, Nat.digits_zero, List.map_nil,
        List.append_nil]
    · have hne : ¬ ε * (n : Int) = 0 := by
        rcases hε with rfl | rfl
        · omega
        · omega
      have hlt : n / base < fuel := by
        have := Nat.div_lt_self (Nat.pos_of_ne_zero hn) hbase
        omega
      have hdigits : signedDigits ε base n =
          itoaDigit (ε * (n % base : Nat)) :: signedDigits ε base (n / base) := by
        unfold signedDigits
        rw [Nat.digits_def' hbase (Nat.pos_of_ne_zero hn), List.map_cons]
      rw [if_neg hne, signed_tdiv hε, signed_tmod hε, ih hlt, hdigits, List.append_assoc,
        List.singleton_append]

/-- No digit of a base up to 36 is printed as a NUL, not even with a sign. -/
theorem itoaDigit_ne_zero {ε : Int} (hε : ε = 1 ∨ ε = -1) {d : Nat} (hd : d < 36) :
    itoaDigit (ε * d) ≠ 0 := by
  have hall : ∀ d < 36, itoaDigit (1 * (d : Nat)) ≠ 0 ∧ itoaDigit (-1 * (d : Nat)) ≠ 0 := by decide
  rcases hε with rfl | rfl
  · exact (hall d hd).1
  · exact (hall d hd).2

theorem zero_notMem_signedDigits {ε : Int} (hε : ε = 1 ∨ ε = -1) {base : Nat} (hbase : 2 ≤ base)
    (hbase' : base ≤ 36) (n : Nat) : (0 : UInt8) ∉ signedDigits ε base n := by
  intro hmem
  obtain ⟨d, hd, hzero⟩ := List.mem_map.mp hmem
  have hlt : d < base := Nat.digits_lt_base (by omega) hd
  exact itoaDigit_ne_zero hε (by omega) hzero

theorem signedDigits_ne_nil {ε : Int} {base n : Nat} (hn : n ≠ 0) : signedDigits ε base n ≠ [] := by
  intro hnil
  exact Nat.digits_ne_nil_iff_ne_zero.mpr hn (List.map_eq_nil_iff.mp hnil)

/-! ## The reversal -/

theorem eq_half_iff (i len : Nat) : (i : Int) = (len : Int).tdiv 2 ↔ i = len / 2 := by
  rw [show (len : Int).tdiv 2 = ((len / 2 : Nat) : Int) from rfl, Nat.cast_inj]

/-- `reverse_String` from `i` on mirrors the cells from `i` to `len - i`: it stops at the exchange
after which one cell or none is between the two. -/
theorem reverseStringFrom_eq {fuel i len : Nat} (hi : i ≤ len / 2) (hfuel : len / 2 - i < fuel)
    (str : Nat → UInt8) :
    reverseStringFrom fuel str i len = some (Cells.mirror str i (len - i)) := by
  induction fuel generalizing i str with
  | zero => omega
  | succ fuel ih =>
    have hinside : ¬ ((i : Int) < 0 ∨ (len : Int) - i < 0) := by omega
    have hlast : ((len : Int) - i).toNat = len - i := by omega
    rw [reverseStringFrom, if_neg hinside, hlast, Int.toNat_natCast]
    change (if (i : Int) = (len : Int).tdiv 2 then some (Cells.swap str i (len - i))
      else reverseStringFrom fuel (Cells.swap str i (len - i)) (i + 1 : Nat) len) = _
    by_cases hmiddle : i = len / 2
    · rw [if_pos ((eq_half_iff i len).mpr hmiddle), Cells.swap_eq_mirror (by omega) (by omega)]
    · rw [if_neg (mt (eq_half_iff i len).mp hmiddle), ih (by omega) (by omega), ← Nat.sub_sub,
        Cells.mirror_swap (by omega)]

/-- **`reverse_String` reverses every string that is not empty.** -/
theorem reversesInPlace {text : CStr} (hne : text ≠ []) (str : Nat → UInt8) :
    ReversesInPlace str text := by
  have hpos := List.length_pos_iff.mpr hne
  have hlen : (text.length : Int) - 1 = ((text.length - 1 : Nat) : Int) := by omega
  unfold ReversesInPlace reverseStringInto
  rw [hlen, ← Nat.cast_zero, reverseStringFrom_eq (Nat.zero_le _) (by omega), Nat.sub_zero,
    Cells.mirror_overlay str hne]

/-- On a text alone, `reverseLoop` does what `reverse_String` does in memory. -/
theorem reverseStringFrom_overlay {fuel i len : Nat} {text : CStr} (hi : i ≤ len / 2)
    (hlen : len < text.length) (str : Nat → UInt8) :
    reverseStringFrom fuel (Cells.overlay str text) i len =
      (reverseLoop fuel text i len).map (Cells.overlay str) := by
  induction fuel generalizing i text with
  | zero => rfl
  | succ fuel ih =>
    have hinside : ¬ ((i : Int) < 0 ∨ (len : Int) - i < 0) := by omega
    have hlast : ((len : Int) - i).toNat = len - i := by omega
    have hread : ∀ k < text.length, Cells.overlay str text k = text.getD k 0 := by
      intro k hk
      rw [Cells.overlay_of_lt hk, List.getD_eq_getElem _ _ hk]
    rw [reverseStringFrom, if_neg hinside, hlast, Int.toNat_natCast, hread i (by omega),
      hread (len - i) (by omega), Cells.update_overlay_of_lt (by omega)]
    dsimp only
    rw [Cells.update_overlay_of_lt (by rw [List.length_set]; omega), reverseLoop]
    by_cases hmiddle : i = len / 2
    · rw [if_pos ((eq_half_iff i len).mpr hmiddle), if_pos hmiddle, Option.map_some]
    · rw [if_neg (mt (eq_half_iff i len).mp hmiddle), if_neg hmiddle]
      exact ih (i := i + 1) (by omega) (by rwa [List.length_set, List.length_set])

theorem length_reverseLoop {fuel i len : Nat} {text text' : CStr}
    (h : reverseLoop fuel text i len = some text') : text'.length = text.length := by
  induction fuel generalizing i text with
  | zero => cases h
  | succ fuel ih =>
    rw [reverseLoop] at h
    split_ifs at h with hmiddle
    · rw [← Option.some.inj h, List.length_set, List.length_set]
    · rw [ih h, List.length_set, List.length_set]

theorem reverseString_eq {text : CStr} (hne : text ≠ []) :
    reverseString text (text.length - 1) = some text.reverse := by
  have hpos := List.length_pos_iff.mpr hne
  have hmemory := reverseStringFrom_eq (Nat.zero_le ((text.length - 1) / 2)) (Nat.lt_succ_self _)
    (Cells.overlay (fun _ => 0) (text ++ []))
  rw [Nat.sub_zero, Nat.sub_zero, Cells.mirror_overlay _ hne, List.append_nil, List.append_nil,
    reverseStringFrom_overlay (Nat.zero_le _) (by omega)] at hmemory
  obtain ⟨text', htext', heq⟩ := Option.map_eq_some_iff.mp hmemory
  have hlen : text'.length = text.reverse.length := by
    rw [length_reverseLoop htext', List.length_reverse]
  unfold reverseString
  rw [htext', Cells.overlay_injective hlen heq]

/-! ## The text -/

theorem sign_cases {num : Int} (hnum : num ≠ 0) : num.sign = 1 ∨ num.sign = -1 := by
  rcases Int.lt_or_gt_of_ne hnum with hneg | hpos
  · exact Or.inr (Int.sign_eq_neg_one_of_neg hneg)
  · exact Or.inl (Int.sign_eq_one_of_pos hpos)

theorem itoaLoop_signed {num : Int} {base : Nat} (hnum : num ≠ 0) (hbase : 2 ≤ base) :
    itoaLoop base (num.natAbs + 1) num [] = some (signedDigits num.sign base num.natAbs) := by
  have hloop := itoaLoop_eq (sign_cases hnum) (by omega : 1 < base) (Nat.lt_succ_self num.natAbs) []
  rwa [Int.sign_mul_natAbs, List.nil_append] at hloop

/-- A number that is not negated: its digits have its sign. -/
theorem itoa_signed {num : Int} {base : Nat} (hnum : num ≠ 0) (hbase : 2 ≤ base)
    (hplain : ¬ (num < 0 ∧ base = 10)) :
    itoa num base = some (signedDigits num.sign base num.natAbs).reverse := by
  have hloop := itoaLoop_signed hnum hbase
  have hcond : ¬ (num < 0 ∧ (base : Int) = 10) := by omega
  unfold itoa
  rw [if_neg hnum]
  simp only [Option.bind_eq_bind, Option.bind_some, hloop, hcond, if_false]
  exact reverseString_eq (signedDigits_ne_nil (by omega))

theorem itoaLoop_negated {num : Int} (hneg : num < 0) :
    itoaLoop 10 (num.natAbs + 1) (-num) [] = some (signedDigits 1 10 num.natAbs) := by
  have hten : 2 ≤ 10 := by omega
  have hloop := itoaLoop_signed (neg_ne_zero.mpr hneg.ne) hten
  rwa [Int.natAbs_neg, Int.sign_eq_one_of_pos (by omega)] at hloop

/-- A negative number in base 10 is negated, and gets its sign at the end. -/
theorem itoa_negated {num : Int} (hneg : num < 0) (hmin : num ≠ -2 ^ 31) :
    itoa num 10 = some (45 :: (signedDigits 1 10 num.natAbs).reverse) := by
  have hloop := itoaLoop_negated hneg
  have hcond : num < 0 ∧ (10 : Int) = 10 := ⟨hneg, rfl⟩
  unfold itoa
  rw [if_neg (by omega)]
  dsimp only
  rw [if_pos hcond, if_neg hmin]
  simp only [Option.bind_eq_bind, Option.bind_some, Int.natAbs_neg, hloop, hcond, and_self, if_true]
  rw [reverseString_eq (by simp), List.reverse_append, List.reverse_singleton,
    List.singleton_append]

theorem itoa_min : itoa (-2 ^ 31) 10 = none := by
  unfold itoa
  rw [if_neg (by omega)]
  rfl

/-! ## The memory -/

theorem checkedInt_tdiv {num : Int} (hlow : -2 ^ 31 ≤ num) (hhigh : num < 2 ^ 31) {base : Nat}
    (hbase : 2 ≤ base) : checkedInt (num.tdiv base) = some (num.tdiv base) ∧
      -2 ^ 31 ≤ num.tdiv base ∧ num.tdiv base < 2 ^ 31 := by
  have habs : (num.tdiv base).natAbs = num.natAbs / base := Int.natAbs_tdiv num base
  have hhalf : num.natAbs / base ≤ num.natAbs / 2 := Nat.div_le_div_left hbase (by decide)
  have hrange : -2 ^ 31 ≤ num.tdiv base ∧ num.tdiv base < 2 ^ 31 := by omega
  exact ⟨if_pos hrange, hrange⟩

/-- The loop in memory extends the text in `str` as `itoaLoop` does. -/
theorem itoaDigits_eq {base : Nat} (hbase : 2 ≤ base) {num : Int} (hlow : -2 ^ 31 ≤ num)
    (hhigh : num < 2 ^ 31) (fuel : Nat) (str : Nat → UInt8) (text : CStr) :
    itoaDigits base fuel num text.length (Cells.overlay str text) =
      (itoaLoop base fuel num text).map fun t => (t.length, Cells.overlay str t) := by
  induction fuel generalizing num text with
  | zero => rfl
  | succ fuel ih =>
    rw [itoaDigits, itoaLoop]
    by_cases hnum : num = 0
    · rw [if_pos hnum, if_pos hnum, Option.map_some]
    · obtain ⟨hchecked, hlow', hhigh'⟩ := checkedInt_tdiv hlow hhigh hbase
      rw [if_neg hnum, if_neg hnum, if_neg (by omega), hchecked, Cells.update_overlay_length,
        ← ih hlow' hhigh', List.length_append, List.length_singleton]

theorem strlen_overlay {text : CStr} (h : (0 : UInt8) ∉ text) (str : Nat → UInt8) :
    strlen (text.length + 1) (Cells.overlay str (text ++ [0])) = some text.length := by
  have hholds := Cells.holds_overlay str h
  unfold strlen
  rw [List.find?_range_eq_some]
  refine ⟨decide_eq_true hholds.ended, List.mem_range.mpr (Nat.lt_succ_self _), ?_⟩
  intro k hk
  have hne : Cells.overlay str (text ++ [0]) k ≠ 0 := by
    rw [hholds.text k hk]
    exact fun hzero => h (hzero ▸ List.getElem_mem hk)
  simpa using hne

/-- The end of `itoa`: the terminator, and the reversal of the text before it. -/
theorem finish_overlay {text : CStr} (hne : text ≠ []) (h : (0 : UInt8) ∉ text)
    (str : Nat → UInt8) :
    ((strlen (text.length + 1) (Function.update (Cells.overlay str text) text.length 0)).bind
      fun len => reverseStringInto (Function.update (Cells.overlay str text) text.length 0)
        (len - 1)) = some (Cells.overlay str (text.reverse ++ [0])) := by
  rw [Cells.update_overlay_length, strlen_overlay h, Option.bind_some]
  exact reversesInPlace hne str

theorem itoaInto_signed {num : Int} {base : Nat} (hnum : num ≠ 0) (hlow : -2 ^ 31 ≤ num)
    (hhigh : num < 2 ^ 31) (hbase : 2 ≤ base) (hbase' : base ≤ 36)
    (hplain : ¬ (num < 0 ∧ base = 10)) (str : Nat → UInt8) :
    itoaInto num base str = some
      { returnsStr := false
        str := Cells.overlay str ((signedDigits num.sign base num.natAbs).reverse ++ [0]) } := by
  have hdigits := itoaDigits_eq hbase hlow hhigh (num.natAbs + 1) str []
  rw [itoaLoop_signed hnum hbase, Option.map_some, Cells.overlay_nil, List.length_nil] at hdigits
  have hend := finish_overlay (signedDigits_ne_nil (by omega))
    (zero_notMem_signedDigits (sign_cases hnum) hbase hbase' num.natAbs) str
  have hcond : ¬ (num < 0 ∧ (base : Int) = 10) := by omega
  unfold itoaInto
  rw [if_neg hnum]
  simp only [Option.bind_eq_bind, Option.bind_some, hdigits, hcond, if_false, ← Option.bind_assoc,
    hend]
  rfl

theorem itoaInto_negated {num : Int} (hneg : num < 0) (hlow : -2 ^ 31 < num) (str : Nat → UInt8) :
    itoaInto num 10 str = some
      { returnsStr := false
        str := Cells.overlay str (45 :: (signedDigits 1 10 num.natAbs).reverse ++ [0]) } := by
  have hchecked : checkedInt (-num) = some (-num) := if_pos (by omega)
  have hten : (2 : Nat) ≤ 10 := by omega
  have hdigits := itoaDigits_eq hten (by omega : -2 ^ 31 ≤ -num) (by omega) (num.natAbs + 1) str []
  rw [Nat.cast_ofNat, itoaLoop_negated hneg, Option.map_some, Cells.overlay_nil,
    List.length_nil] at hdigits
  have hzero : (0 : UInt8) ∉ signedDigits 1 10 num.natAbs ++ [45] := by
    have hplain := zero_notMem_signedDigits (Or.inl rfl) hten (by omega) num.natAbs
    simpa using hplain
  have hend := finish_overlay (by simp) hzero str
  rw [List.length_append, List.length_singleton, List.reverse_append, List.reverse_singleton,
    List.singleton_append] at hend
  have hcond : num < 0 ∧ (10 : Int) = 10 := ⟨hneg, rfl⟩
  unfold itoaInto
  rw [if_neg (by omega)]
  simp only [Option.bind_eq_bind, Option.bind_some, hcond, and_self, if_true, hchecked,
    Int.natAbs_neg, hdigits, Cells.update_overlay_length, ← Option.bind_assoc, hend]
  rfl

theorem itoaInto_min (str : Nat → UInt8) : itoaInto (-2 ^ 31) 10 str = none := by
  have hchecked : checkedInt (-(-2 ^ 31)) = none := if_neg (by omega)
  unfold itoaInto
  rw [if_neg (by omega)]
  simp only [Option.bind_eq_bind, hchecked]
  rfl

/-- The ways of `itoa`: 0, a number that keeps its sign, one that is negated, and the one whose
negation is no `int`. -/
theorem itoa_cases {num : Int} (hlow : -2 ^ 31 ≤ num) (base : Nat) :
    num = 0 ∨ (num ≠ 0 ∧ ¬ (num < 0 ∧ base = 10)) ∨ (num < 0 ∧ -2 ^ 31 < num ∧ base = 10) ∨
      (num = -2 ^ 31 ∧ base = 10) := by
  omega

/-- **`itoa` in memory writes the text of `itoa` and a NUL**, and nothing behind it. -/
theorem itoaInto_eq {num : Int} (hlow : -2 ^ 31 ≤ num) (hhigh : num < 2 ^ 31) {base : Nat}
    (hbase : 2 ≤ base) (hbase' : base ≤ 36) (str : Nat → UInt8) :
    itoaInto num base str = (itoa num base).map fun text =>
      { returnsStr := num = 0, str := Cells.overlay str (text ++ [0]) } := by
  rcases itoa_cases hlow base with rfl | ⟨hnum, hplain⟩ | ⟨hneg, hmin, rfl⟩ | ⟨rfl, rfl⟩
  · have htext : Function.update (Function.update str 0 48) 1 0 = Cells.overlay str [48, 0] := by
      rw [← Cells.overlay_nil str]
      exact (congrArg (fun m => Function.update m 1 0)
        (Cells.update_overlay_length str [] 48)).trans (Cells.update_overlay_length str [48] 0)
    unfold itoaInto itoa
    rw [if_pos rfl, if_pos rfl, htext]
    rfl
  · rw [itoaInto_signed hnum hlow hhigh hbase hbase' hplain, itoa_signed hnum hbase hplain,
      Option.map_some, decide_eq_false hnum]
  · rw [Nat.cast_ofNat, itoaInto_negated hneg hmin, itoa_negated hneg (by omega), Option.map_some,
      decide_eq_false (by omega)]
  · rw [Nat.cast_ofNat, itoaInto_min, itoa_min]
    rfl

theorem zero_notMem_itoa {num : Int} (hlow : -2 ^ 31 ≤ num) {base : Nat} (hbase : 2 ≤ base)
    (hbase' : base ≤ 36) {text : CStr} (h : itoa num base = some text) : (0 : UInt8) ∉ text := by
  rcases itoa_cases hlow base with rfl | ⟨hnum, hplain⟩ | ⟨hneg, hmin, rfl⟩ | ⟨rfl, rfl⟩
  · obtain rfl : [48] = text := Option.some.inj h
    decide
  · rw [itoa_signed hnum hbase hplain] at h
    rw [← Option.some.inj h, List.mem_reverse]
    exact zero_notMem_signedDigits (sign_cases hnum) hbase hbase' _
  · rw [Nat.cast_ofNat, itoa_negated hneg (by omega)] at h
    rw [← Option.some.inj h, List.mem_cons, List.mem_reverse, not_or]
    exact ⟨by decide, zero_notMem_signedDigits (Or.inl rfl) hbase hbase' _⟩
  · rw [Nat.cast_ofNat, itoa_min] at h
    cases h

/-- What `str` holds is what `itoa` gives as a text. -/
theorem printsAsDocumented_iff_text {num : Int} (hlow : -2 ^ 31 ≤ num) (hhigh : num < 2 ^ 31)
    {base : Nat} (hbase : 2 ≤ base) (hbase' : base ≤ 36) (str : Nat → UInt8) :
    PrintsAsDocumented num base str ↔ itoa num base = some (documentedText num base) := by
  unfold PrintsAsDocumented
  rw [itoaInto_eq hlow hhigh hbase hbase']
  constructor
  · rintro ⟨r, hr, hholds⟩
    obtain ⟨text, htext, rfl⟩ := Option.map_eq_some_iff.mp hr
    have hplain := zero_notMem_itoa hlow hbase hbase' htext
    rw [htext, Cells.Holds.unique (Cells.holds_overlay str hplain) hholds]
  · intro h
    have hplain := zero_notMem_itoa hlow hbase hbase' h
    rw [h]
    exact ⟨_, rfl, Cells.holds_overlay str hplain⟩

/-! ## The documented text -/

theorem itoaDigit_eq {d : Nat} (hd : d < 36) : itoaDigit (1 * d) = digitText d := by
  have hall : ∀ d < 36, itoaDigit (1 * (d : Nat)) = digitText d := by decide
  exact hall d hd

theorem reverse_signedDigits {base n : Nat} (hn : n ≠ 0) (hbase : 2 ≤ base) (hbase' : base ≤ 36) :
    (signedDigits 1 base n).reverse = numeral base n := by
  unfold signedDigits numeral Radix.digits
  rw [if_neg hn, ← List.map_reverse]
  refine List.map_congr_left ?_
  intro d hd
  have hlt : d < base := Nat.digits_lt_base (by omega) (List.mem_reverse.mp hd)
  exact itoaDigit_eq (by omega)

/-- The digits of a negative number that is not negated are characters up to `0`. -/
theorem le_of_mem_signedDigits {base n : Nat} (hbase : 2 ≤ base) (hbase' : base ≤ 36) {c : UInt8}
    (hc : c ∈ signedDigits (-1) base n) : c ≤ 48 := by
  have hall : ∀ d < 36, itoaDigit (-1 * (d : Nat)) ≤ 48 := by decide
  obtain ⟨d, hd, rfl⟩ := List.mem_map.mp hc
  have hlt : d < base := Nat.digits_lt_base (by omega) hd
  exact hall d (by omega)

theorem eq_zero_of_digitText_le {d : Nat} (hd : d < 36) (hle : digitText d ≤ 48) : d = 0 := by
  have hall : ∀ d < 36, digitText d ≤ 48 → d = 0 := by decide
  exact hall d hd hle

/-- A numeral of a number that is not 0 has a character after `0`. -/
theorem numeral_exceeds {base n : Nat} (hn : n ≠ 0) (hbase : 2 ≤ base) (hbase' : base ≤ 36) :
    ∃ c ∈ numeral base n, ¬ c ≤ 48 := by
  by_contra hnone
  refine hn ?_
  have hzeros : ∀ d ∈ Radix.digits base n, d = 0 := by
    intro d hd
    have hlt : d < base := Radix.lt_of_mem_digits (by omega) hd
    refine eq_zero_of_digitText_le (by omega) ?_
    by_contra hgt
    exact hnone ⟨digitText d, List.mem_map_of_mem hd, hgt⟩
  rw [← Radix.value_digits base n, List.eq_replicate_of_mem hzeros, Radix.value_replicate_zero]

/-- **`itoa` prints as documented** exactly the numbers that are not negative, and the negative ones
in base 10 apart from the most negative `int`; `reverse_String` always reverses. -/
theorem itoa_prints_iff {num : Int} (hlow : -2 ^ 31 ≤ num) (hhigh : num < 2 ^ 31) {base : Nat}
    (hbase : 2 ≤ base) (hbase' : base ≤ 36) (str : Nat → UInt8) :
    (PrintsAsDocumented num base str ↔ 0 ≤ num ∨ (base = 10 ∧ num ≠ -2 ^ 31)) ∧
      ∀ text ≠ [], ReversesInPlace str text := by
  refine ⟨?_, fun text hne => reversesInPlace hne str⟩
  rw [printsAsDocumented_iff_text hlow hhigh hbase hbase']
  unfold documentedText
  rcases itoa_cases hlow base with rfl | ⟨hnum, hplain⟩ | ⟨hneg, hmin, rfl⟩ | ⟨rfl, rfl⟩
  · refine iff_of_true ?_ (Or.inl le_rfl)
    rw [if_neg (by omega)]
    rfl
  · by_cases hneg : num < 0
    · rw [if_pos hneg, if_neg fun hten => hplain ⟨hneg, hten⟩, itoa_signed hnum hbase hplain,
        Int.sign_eq_neg_one_of_neg hneg]
      refine iff_of_false ?_ (by omega)
      intro heq
      obtain ⟨c, hc, hgt⟩ := numeral_exceeds (n := (num + 2 ^ 32).toNat) (by omega) hbase hbase'
      rw [← Option.some.inj heq, List.mem_reverse] at hc
      exact hgt (le_of_mem_signedDigits hbase hbase' hc)
    · refine iff_of_true ?_ (Or.inl (by omega))
      rw [if_neg hneg, itoa_signed hnum hbase hplain, Int.sign_eq_one_of_pos (by omega),
        reverse_signedDigits (by omega) hbase hbase', show num.natAbs = num.toNat by omega]
  · refine iff_of_true ?_ (Or.inr ⟨rfl, by omega⟩)
    rw [if_pos hneg, if_pos rfl, Nat.cast_ofNat, itoa_negated hneg (by omega),
      reverse_signedDigits (by omega) hbase hbase']
  · rw [Nat.cast_ofNat, itoa_min]
    refine iff_of_false (by rintro ⟨⟩) (by omega)

theorem itoa_prints_minus_255 : PrintsAsDocumented (-255) 10 (fun _ => 0) ∧
    documentedText (-255) 10 = cstr "-255" := by
  have hiff : PrintsAsDocumented (-255) 10 (fun _ => 0) ↔ _ :=
    (itoa_prints_iff (by omega) (by omega) (by omega) (by omega) _).1
  exact ⟨hiff.mpr (Or.inr ⟨rfl, by omega⟩), by decide +kernel⟩

/-- -1 in base 2 is printed as a slash, and the most negative `int` has no negation. -/
theorem negative_binary_misprinted :
    itoa (-1) 2 = some (cstr "/") ∧ documentedText (-1) 2 = List.replicate 32 49 ∧
      itoaInto (-2 ^ 31) 10 (fun _ => 0) = none ∧
      ¬ ∀ num : Int, -2 ^ 31 ≤ num → num < 2 ^ 31 → ∀ base : Nat, 2 ≤ base → base ≤ 36 →
        ∀ str, PrintsAsDocumented num base str := by
  have hprinted : itoa (-1) 2 = some (cstr "/") := by decide
  have hwanted : documentedText (-1) 2 = List.replicate 32 49 := by decide +kernel
  refine ⟨hprinted, hwanted, itoaInto_min _, ?_⟩
  intro h
  have hminus := (printsAsDocumented_iff_text (by omega) (by omega) (by omega) (by omega) _).mp
    (h (-1) (by omega) (by omega) 2 (by omega) (by omega) fun _ => 0)
  rw [hwanted] at hminus
  exact absurd (Option.some.inj (hprinted.symm.trans hminus)) (by decide)

end CspTerm.Header
