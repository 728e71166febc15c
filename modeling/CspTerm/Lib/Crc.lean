import Mathlib.Data.List.Count
import Mathlib.Data.Nat.Bits
import Mathlib.Logic.Function.Iterate
import Mathlib.Tactic.Common

/-!
# Cyclic redundancy checks

A register of `w` bits is fed one bit at a time, least significant bit first; `poly` is the reflected
generator polynomial without its leading term. The register is linear over exclusive or, so what a
check notices of two messages depends on their difference alone (`register_xor_register`). A message
with a checksum at its end differs from a valid one by an *error*, a list of bits that are true where
the two differ, and the error goes unnoticed exactly when the register takes it to zero.
-/

namespace Crc

variable {w : Nat}

/-! ## The register -/

/-- The division step: the bit that falls out decides whether the polynomial is added. -/
def shift (poly c : BitVec w) : BitVec w :=
  if c.getLsbD 0 then (c >>> 1) ^^^ poly else c >>> 1

/-- A bit as a word. -/
def unit (b : Bool) : BitVec w := (BitVec.ofBool b).setWidth w

def bitStep (poly c : BitVec w) (b : Bool) : BitVec w := shift poly (c ^^^ unit b)

def register (poly c : BitVec w) (bits : List Bool) : BitVec w := bits.foldl (bitStep poly) c

/-- The bits of a word, least significant bit first. -/
def bits (c : BitVec w) : List Bool := (List.range w).map c.getLsbD

@[simp] theorem length_bits (c : BitVec w) : (bits c).length = w := by simp [bits]

theorem getLsbD_unit (b : Bool) (i : Nat) :
    (unit b : BitVec w).getLsbD i = (decide (i < w) && (decide (i = 0) && b)) := by
  rcases i with _ | i <;> cases b <;> simp [unit, BitVec.getLsbD_setWidth]

@[simp] theorem unit_false : (unit false : BitVec w) = 0 := by
  simp [unit]

theorem getLsbD_shift (poly c : BitVec w) (i : Nat) :
    (shift poly c).getLsbD i = ((c.getLsbD 0 && poly.getLsbD i) ^^ c.getLsbD (1 + i)) := by
  unfold shift
  cases h : c.getLsbD 0 <;> simp [BitVec.getLsbD_xor, BitVec.getLsbD_ushiftRight, Bool.xor_comm]

@[simp] theorem shift_zero (poly : BitVec w) : shift poly 0 = 0 := by
  simp [shift]

theorem shift_xor (poly a b : BitVec w) : shift poly (a ^^^ b) = shift poly a ^^^ shift poly b := by
  apply BitVec.eq_of_getLsbD_eq
  intro i _
  rw [BitVec.getLsbD_xor, getLsbD_shift, getLsbD_shift, getLsbD_shift, BitVec.getLsbD_xor,
    BitVec.getLsbD_xor]
  cases a.getLsbD 0 <;> cases b.getLsbD 0 <;> cases poly.getLsbD i <;> simp

theorem iterate_shift_xor (poly a b : BitVec w) (n : Nat) :
    (shift poly)^[n] (a ^^^ b) = (shift poly)^[n] a ^^^ (shift poly)^[n] b := by
  induction n generalizing a b with
  | zero => rfl
  | succ n ih => simp only [Function.iterate_succ, Function.comp_apply, shift_xor, ih]

@[simp] theorem iterate_shift_zero (poly : BitVec w) (n : Nat) : (shift poly)^[n] 0 = 0 :=
  Function.iterate_fixed (shift_zero poly) n

/-- A polynomial with a constant term loses nothing: the bit that fell out comes in at the top. -/
theorem shift_injective {poly : BitVec w} (hp : poly.getLsbD (w - 1) = true) :
    Function.Injective (shift poly) := by
  intro a b h
  apply BitVec.eq_of_getLsbD_eq
  intro i hi
  have htop : a.getLsbD 0 = b.getLsbD 0 := by
    have hbit := congrArg (fun c : BitVec w => c.getLsbD (w - 1)) h
    simp only [getLsbD_shift, hp, BitVec.getLsbD_of_ge a (1 + (w - 1)) (by omega),
      BitVec.getLsbD_of_ge b (1 + (w - 1)) (by omega)] at hbit
    simpa only [Bool.and_true, Bool.xor_false] using hbit
  rcases i with _ | i
  · exact htop
  · have hbit := congrArg (fun c : BitVec w => c.getLsbD i) h
    simp only [getLsbD_shift, htop] at hbit
    rw [Nat.add_comm i 1]
    simpa using hbit

/-! ## Linearity -/

theorem bitStep_xor (poly a b : BitVec w) (x y : Bool) :
    bitStep poly (a ^^^ b) (x ^^ y) = bitStep poly a x ^^^ bitStep poly b y := by
  have hunit : (unit (x ^^ y) : BitVec w) = unit x ^^^ unit y := by
    apply BitVec.eq_of_getLsbD_eq
    intro i _
    rw [BitVec.getLsbD_xor, getLsbD_unit, getLsbD_unit, getLsbD_unit]
    cases x <;> cases y <;> simp
  unfold bitStep
  rw [hunit, ← shift_xor]
  congr 1
  ac_rfl

theorem register_append (poly c : BitVec w) (x y : List Bool) :
    register poly c (x ++ y) = register poly (register poly c x) y :=
  List.foldl_append

theorem register_xor (poly a b : BitVec w) {x y : List Bool} (h : x.length = y.length) :
    register poly (a ^^^ b) (List.zipWith xor x y) = register poly a x ^^^ register poly b y := by
  induction x generalizing a b y with
  | nil =>
    obtain rfl := List.length_eq_zero_iff.mp h.symm
    rfl
  | cons p x ih =>
    rcases y with _ | ⟨q, y⟩
    · simp at h
    · simp only [register, List.zipWith_cons_cons, List.foldl_cons, bitStep_xor]
      exact ih _ _ (by simpa using h)

/-- **Two messages of one length leave registers that differ by what their difference leaves.** -/
theorem register_xor_register (poly c : BitVec w) {x y : List Bool} (h : x.length = y.length) :
    register poly c x ^^^ register poly c y = register poly 0 (List.zipWith xor x y) := by
  rw [← register_xor poly c c h, BitVec.xor_self]
  rfl

theorem register_replicate_false (poly c : BitVec w) (n : Nat) :
    register poly c (List.replicate n false) = (shift poly)^[n] c := by
  induction n generalizing c with
  | zero => rfl
  | succ n ih =>
    rw [List.replicate_succ, Function.iterate_succ, Function.comp_apply, ← ih]
    simp [register, bitStep]

/-! ## Words -/

/-- The word of a list of bits, least significant bit first. -/
def word : List Bool → BitVec w
  | [] => 0
  | b :: l => unit b ^^^ (word l <<< 1)

theorem getLsbD_word (l : List Bool) {i : Nat} (hi : i < w) :
    (word l : BitVec w).getLsbD i = l.getD i false := by
  induction l generalizing i with
  | nil => simp [word]
  | cons b l ih =>
    rw [word, BitVec.getLsbD_xor, getLsbD_unit, BitVec.getLsbD_shiftLeft]
    rcases i with _ | i
    · simp [hi]
    · have hrec := ih (show i < w by omega)
      simp only [Nat.add_sub_cancel, hrec]
      simp [hi]

theorem word_bits (c : BitVec w) : word (bits c) = c := by
  apply BitVec.eq_of_getLsbD_eq
  intro i hi
  rw [getLsbD_word _ hi]
  simp [bits, hi]

theorem eq_zero_of_count_bits {c : BitVec w} (h : (bits c).count true = 0) : c = 0 := by
  apply BitVec.eq_of_getLsbD_eq
  intro i hi
  have hmem : c.getLsbD i ∈ bits c := List.mem_map.mpr ⟨i, List.mem_range.mpr hi, rfl⟩
  cases hbit : c.getLsbD i with
  | false => simp
  | true => exact absurd (hbit ▸ hmem) (List.count_eq_zero.mp h)

theorem word_ne_zero {l : List Bool} (hl : l.length ≤ w) (h : true ∈ l) :
    (word l : BitVec w) ≠ 0 := by
  intro hzero
  obtain ⟨i, hi, hbit⟩ := List.getElem_of_mem h
  have hget := getLsbD_word (w := w) l (show i < w by omega)
  rw [hzero, List.getD_eq_getElem?_getD, List.getElem?_eq_getElem hi, hbit] at hget
  simp at hget

/-- Bits that fit into the register may be added to it all at once. -/
theorem register_eq_iterate_shift (poly c : BitVec w) {l : List Bool} (hl : l.length ≤ w) :
    register poly c l = (shift poly)^[l.length] (c ^^^ word l) := by
  induction l generalizing c with
  | nil => simp [register, word]
  | cons b l ih =>
    have hlen : l.length < w := hl
    have hshift : shift poly (word l <<< 1) = word l := by
      apply BitVec.eq_of_getLsbD_eq
      intro i hi
      rw [getLsbD_shift, BitVec.getLsbD_shiftLeft, BitVec.getLsbD_shiftLeft, Nat.add_sub_cancel_left]
      by_cases hlast : 1 + i < w
      · simp [hlast]
      · have hout : l.getD i false = false := by
          rw [List.getD_eq_getElem?_getD, List.getElem?_eq_none (by omega)]
          rfl
        rw [getLsbD_word l hi, hout]
        simp [hlast]
    rw [List.length_cons, Function.iterate_succ, Function.comp_apply, word, ← BitVec.xor_assoc,
      shift_xor, hshift]
    exact ih _ (by omega)

theorem register_bits (poly c a : BitVec w) :
    register poly c (bits a) = (shift poly)^[w] (c ^^^ a) := by
  rw [register_eq_iterate_shift poly c (by simp), word_bits, length_bits]

/-! ## More than one bit at a time -/

theorem iterate_shift_of_low_zero (poly : BitVec w) {n : Nat} {c : BitVec w}
    (h : ∀ i < n, c.getLsbD i = false) : (shift poly)^[n] c = c >>> n := by
  induction n generalizing c with
  | zero => simp
  | succ n ih =>
    have hshift : shift poly c = c >>> 1 := by simp [shift, h 0 (by omega)]
    have hlow : ∀ i < n, (c >>> 1).getLsbD i = false := by
      intro i hi
      rw [BitVec.getLsbD_ushiftRight]
      exact h (1 + i) (by omega)
    rw [Function.iterate_succ, Function.comp_apply, hshift, ih hlow, ← BitVec.shiftRight_add,
      Nat.add_comm 1]

/-- `n` steps only look at the `n` lowest bits, so what these become can be kept in a table. -/
theorem iterate_shift_eq (poly c : BitVec w) (n : Nat) :
    (shift poly)^[n] c = (shift poly)^[n] ((c.setWidth n).setWidth w) ^^^ (c >>> n) := by
  have hsplit : c = (c.setWidth n).setWidth w ^^^ (c ^^^ (c.setWidth n).setWidth w) := by
    rw [BitVec.xor_comm c, ← BitVec.xor_assoc, BitVec.xor_self, BitVec.zero_xor]
  have hlow : ∀ i < n, (c ^^^ (c.setWidth n).setWidth w).getLsbD i = false := by
    intro i hi
    by_cases hw : i < w
    · simp only [BitVec.getLsbD_xor, BitVec.getLsbD_setWidth, hi, hw, decide_true, Bool.true_and,
        Bool.xor_self]
    · exact BitVec.getLsbD_of_ge _ _ (by omega)
  have hhigh : (c ^^^ (c.setWidth n).setWidth w) >>> n = c >>> n := by
    apply BitVec.eq_of_getLsbD_eq
    intro i _
    simp only [BitVec.getLsbD_ushiftRight, BitVec.getLsbD_xor, BitVec.getLsbD_setWidth,
      Nat.not_lt.mpr (Nat.le_add_right n i), decide_false, Bool.false_and, Bool.and_false,
      Bool.xor_false]
  conv_lhs => rw [hsplit]
  rw [iterate_shift_xor, iterate_shift_of_low_zero poly hlow, hhigh]

/-- A register takes the bits of a shorter word as that word. -/
theorem word_bits_eq_setWidth {v : Nat} (b : BitVec v) : (word (bits b) : BitVec w) = b.setWidth w := by
  apply BitVec.eq_of_getLsbD_eq
  intro i hi
  rw [getLsbD_word _ hi, BitVec.getLsbD_setWidth]
  by_cases hv : i < v
  · simp [bits, hi, hv]
  · simp [bits, hi, hv, BitVec.getLsbD_of_ge b i (by omega)]

/-! ## Errors that are noticed -/

/-- **A checksum at the end of a message is part of the message**: an error of the message together
with one of its checksum goes unnoticed exactly when the register takes both in a row to zero. -/
theorem register_eq_iff {poly : BitVec w} (hp : poly.getLsbD (w - 1) = true) (e : List Bool)
    (c : BitVec w) : register poly 0 e = c ↔ register poly 0 (e ++ bits c) = 0 := by
  rw [register_append, register_bits]
  constructor
  · rintro rfl
    rw [BitVec.xor_self]
    exact iterate_shift_zero poly w
  · intro h
    have hzero := (shift_injective hp).iterate w (h.trans (iterate_shift_zero poly w).symm)
    exact BitVec.xor_eq_zero_iff.mp hzero

/-- **Bursts.** Errors within as many bits in a row as the register has are noticed. -/
theorem register_burst_ne_zero {poly : BitVec w} (hp : poly.getLsbD (w - 1) = true)
    {e : List Bool} (hlen : e.length ≤ w) (h : true ∈ e) (m n : Nat) :
    register poly 0 (List.replicate m false ++ e ++ List.replicate n false) ≠ 0 := by
  rw [register_append, register_append, register_replicate_false, register_replicate_false,
    iterate_shift_zero, register_eq_iterate_shift poly 0 hlen]
  intro hzero
  have h1 := (shift_injective hp).iterate n (hzero.trans (iterate_shift_zero poly n).symm)
  have h2 := (shift_injective hp).iterate _ (h1.trans (iterate_shift_zero poly _).symm)
  exact word_ne_zero hlen h (BitVec.zero_xor.symm.trans h2)

/-! ### Parity -/

def parity (c : BitVec w) : Bool := ((bits c).count true).bodd

theorem bodd_count_zipWith_xor {x y : List Bool} (h : x.length = y.length) :
    ((List.zipWith xor x y).count true).bodd = ((x.count true).bodd ^^ (y.count true).bodd) := by
  induction x generalizing y with
  | nil =>
    obtain rfl := List.length_eq_zero_iff.mp h.symm
    rfl
  | cons p x ih =>
    rcases y with _ | ⟨q, y⟩
    · simp at h
    · have hrec := ih (y := y) (by simpa using h)
      cases p <;> cases q <;> simp [hrec, Bool.xor_comm]

theorem bits_xor (a b : BitVec w) : bits (a ^^^ b) = List.zipWith xor (bits a) (bits b) := by
  simp [bits, List.zipWith_map, List.zipWith_self]

theorem parity_xor (a b : BitVec w) : parity (a ^^^ b) = (parity a ^^ parity b) := by
  unfold parity
  rw [bits_xor, bodd_count_zipWith_xor (by simp)]

theorem parity_ushiftRight (hw : 0 < w) (c : BitVec w) :
    parity (c >>> 1) = (parity c ^^ c.getLsbD 0) := by
  obtain ⟨n, rfl⟩ : ∃ n, w = n + 1 := ⟨w - 1, by omega⟩
  have hbits : bits c = c.getLsbD 0 :: (List.range n).map fun i => c.getLsbD (i + 1) := by
    simp [bits, List.range_succ_eq_map, List.map_map, Function.comp_def]
  have hshift : bits (c >>> 1) = ((List.range n).map fun i => c.getLsbD (i + 1)) ++ [false] := by
    simp [bits, List.range_succ, Nat.add_comm 1]
  unfold parity
  rw [hbits, hshift]
  cases c.getLsbD 0 <;> simp

theorem parity_shift {poly : BitVec w} (hw : 0 < w) (hp : parity poly = true) (c : BitVec w) :
    parity (shift poly c) = parity c := by
  unfold shift
  cases h : c.getLsbD 0 <;> simp [parity_xor, parity_ushiftRight hw, h, hp]

theorem parity_unit (hw : 0 < w) (b : Bool) : parity (unit b : BitVec w) = b := by
  obtain ⟨n, rfl⟩ : ∃ n, w = n + 1 := ⟨w - 1, by omega⟩
  have hbits : bits (unit b : BitVec (n + 1)) = b :: List.replicate n false := by
    simp only [bits, List.range_succ_eq_map, List.map_cons, List.map_map, Function.comp_def,
      getLsbD_unit]
    simp [List.map_const']
  unfold parity
  rw [hbits]
  cases b <;> simp [List.count_replicate]

/-- With a generator that `x + 1` divides, the register keeps the parity of what it was fed. -/
theorem parity_register {poly : BitVec w} (hw : 0 < w) (hp : parity poly = true) (c : BitVec w)
    (l : List Bool) : parity (register poly c l) = (parity c ^^ (l.count true).bodd) := by
  induction l generalizing c with
  | nil => simp [register]
  | cons b l ih =>
    have hstep : parity (bitStep poly c b) = (parity c ^^ b) := by
      rw [bitStep, parity_shift hw hp, parity_xor, parity_unit hw]
    rw [register, List.foldl_cons]
    refine (ih _).trans ?_
    rw [hstep]
    cases b <;> simp

/-! ### Few errors -/

theorem exists_first_true {l : List Bool} {n : Nat} (h : l.count true = n + 1) :
    ∃ m l', l = List.replicate m false ++ true :: l' ∧ l'.count true = n := by
  induction l with
  | nil => simp at h
  | cons b l ih =>
    cases b with
    | true => exact ⟨0, l, rfl, by simpa using h⟩
    | false =>
      obtain ⟨m, l', rfl, hl'⟩ := ih (by simpa using h)
      exact ⟨m + 1, l', rfl, hl'⟩

theorem eq_replicate_of_count_eq_zero {l : List Bool} (h : l.count true = 0) :
    l = List.replicate l.length false := by
  refine List.eq_replicate_iff.mpr ⟨rfl, ?_⟩
  intro b hb
  cases b with
  | false => rfl
  | true => exact absurd hb (List.count_eq_zero.mp h)

theorem register_first_true (poly : BitVec w) (m : Nat) (l : List Bool) :
    register poly 0 (List.replicate m false ++ true :: l)
      = register poly (shift poly (unit true)) l := by
  rw [register_append, register_replicate_false, iterate_shift_zero]
  simp [register, bitStep]

/-- Whether `n` steps from `c` keep away from `start`. -/
def avoids (poly start : BitVec w) : Nat → BitVec w → Bool
  | 0, _ => true
  | n + 1, c => shift poly c != start && avoids poly start n (shift poly c)

theorem ne_of_avoids {poly start : BitVec w} {n : Nat} {c : BitVec w}
    (h : avoids poly start n c = true) {d : Nat} (hpos : 0 < d) (hd : d ≤ n) :
    (shift poly)^[d] c ≠ start := by
  induction n generalizing c d with
  | zero => omega
  | succ n ih =>
    rw [avoids, Bool.and_eq_true, bne_iff_ne] at h
    rcases d with _ | _ | d
    · omega
    · exact h.1
    · exact ih h.2 (d := d + 1) (by omega) (by omega)

/-- **Up to three errors are noticed**, wherever they are, in messages that are short enough for the
register not to come back to its first state. -/
theorem register_ne_zero_of_count_le_three {poly : BitVec w} (hw : 0 < w)
    (hp : poly.getLsbD (w - 1) = true) (hpar : parity poly = true) {n : Nat}
    (hper : ∀ d, 0 < d → d < n → (shift poly)^[d] (unit true) ≠ unit true) {e : List Bool}
    (hlen : e.length ≤ n) (hpos : 0 < e.count true) (hle : e.count true ≤ 3) :
    register poly 0 e ≠ 0 := by
  intro hzero
  have heven : (e.count true).bodd = false := by
    have hreg := parity_register hw hpar 0 e
    have h0 : parity (0 : BitVec w) = false := by
      have := parity_xor (0 : BitVec w) 0
      rw [BitVec.xor_self] at this
      simpa using this
    rw [hzero, h0] at hreg
    simpa using hreg.symm
  have htwo : e.count true = 1 + 1 := by
    have hcases : e.count true = 1 ∨ e.count true = 2 ∨ e.count true = 3 := by omega
    rcases hcases with h | h | h
    · rw [h] at heven; cases heven
    · exact h
    · rw [h] at heven; cases heven
  obtain ⟨i, e₁, rfl, h1⟩ := exists_first_true htwo
  obtain ⟨d, e₂, rfl, h2⟩ := exists_first_true h1
  rw [register_first_true, register_append, register_replicate_false, register, List.foldl_cons,
    eq_replicate_of_count_eq_zero h2] at hzero
  have hstop := (shift_injective hp).iterate e₂.length
    ((register_replicate_false poly _ _).symm.trans
      (hzero.trans (iterate_shift_zero poly e₂.length).symm))
  have hback : (shift poly)^[d] (shift poly (unit true)) ^^^ unit true = 0 :=
    shift_injective hp (hstop.trans (shift_zero poly).symm)
  have hcycle : (shift poly)^[d + 1] (unit true) = unit true := by
    rw [Function.iterate_succ, Function.comp_apply]
    exact BitVec.xor_eq_zero_iff.mp hback
  refine hper (d + 1) (by omega) ?_ hcycle
  simp only [List.length_append, List.length_replicate, List.length_cons] at hlen
  omega

end Crc
