import Mathlib.Data.Nat.Digits.Defs
import Mathlib.Data.Nat.Digits.Lemmas
import Mathlib.Tactic.Common
import Mathlib.Tactic.Ring

/-!
# Positional numerals, most significant digit first

`digits b n` is the usual numeral of `n` in base `b` (a single `0` for zero, no leading zeros
otherwise), `value b` reads a list of digits back. Reading is Horner's scheme, as a text parser
computes it; it agrees with Mathlib's `Nat.ofDigits` on the reversed list.
-/

namespace Radix

/-- The number that a list of digits denotes, by Horner's scheme. -/
def value (b : Nat) (ds : List Nat) : Nat := ds.foldl (fun acc d => acc * b + d) 0

def digits (b n : Nat) : List Nat := if n = 0 then [0] else (Nat.digits b n).reverse

theorem value_eq_ofDigits (b : Nat) (ds : List Nat) : value b ds = Nat.ofDigits b ds.reverse := by
  induction ds using List.reverseRecOn with
  | nil => rfl
  | append_singleton ds d ih =>
    rw [List.reverse_append, List.reverse_singleton, List.singleton_append, Nat.ofDigits_cons, ← ih]
    simp only [value, List.foldl_append, List.foldl_cons, List.foldl_nil]
    rw [mul_comm, add_comm]

/-- **Reading a numeral gives the number back.** -/
theorem value_digits (b n : Nat) : value b (digits b n) = n := by
  by_cases hn : n = 0
  · simp [digits, hn, value]
  · rw [value_eq_ofDigits, digits, if_neg hn, List.reverse_reverse, Nat.ofDigits_digits]

theorem digits_ne_nil (b n : Nat) : digits b n ≠ [] := by
  by_cases hn : n = 0
  · simp [digits, hn]
  · simpa [digits, hn] using Nat.digits_ne_nil_iff_ne_zero.mpr hn

theorem lt_of_mem_digits {b n d : Nat} (hb : 1 < b) (hd : d ∈ digits b n) : d < b := by
  by_cases hn : n = 0
  · simp [digits, hn] at hd
    omega
  · simp only [digits, hn, if_false, List.mem_reverse] at hd
    exact Nat.digits_lt_base hb hd

theorem value_append_singleton (b : Nat) (ds : List Nat) (d : Nat) :
    value b (ds ++ [d]) = value b ds * b + d := by
  simp [value, List.foldl_append]

theorem value_lt_pow {b : Nat} {ds : List Nat} (h : ∀ d ∈ ds, d < b) :
    value b ds < b ^ ds.length := by
  induction ds using List.reverseRecOn with
  | nil => simp [value]
  | append_singleton ds d ih =>
    have hd : d < b := h d (by simp)
    have hds := ih fun e he => h e (by simp [he])
    rw [value_append_singleton, List.length_append, List.length_singleton, pow_succ]
    calc value b ds * b + d < value b ds * b + b := by omega
      _ = (value b ds + 1) * b := by ring
      _ ≤ b ^ ds.length * b := Nat.mul_le_mul_right b hds

/-- Zeros behind a numeral. -/
theorem value_append_zeros (b : Nat) (ds : List Nat) (k : Nat) :
    value b (ds ++ List.replicate k 0) = value b ds * b ^ k := by
  induction k with
  | zero => simp
  | succ k ih =>
    rw [List.replicate_succ', ← List.append_assoc, value_append_singleton, ih, pow_succ]
    ring

/-! ## Reading one list of digits in two bases -/

theorem value_mono_base {a b : Nat} (hab : a ≤ b) (ds : List Nat) : value a ds ≤ value b ds := by
  induction ds using List.reverseRecOn with
  | nil => exact le_refl _
  | append_singleton ds d ih =>
    rw [value_append_singleton, value_append_singleton]
    exact Nat.add_le_add_right (Nat.mul_le_mul ih hab) d

theorem eq_zero_of_value_eq_zero {b : Nat} (hb : 0 < b) {ds : List Nat} (h : value b ds = 0) :
    ∀ d ∈ ds, d = 0 := by
  induction ds using List.reverseRecOn with
  | nil => intro d hd; cases hd
  | append_singleton ds d ih =>
    rw [value_append_singleton] at h
    have hd : d = 0 := by omega
    have hvalue : value b ds = 0 := by
      have hmul : value b ds * b = 0 := by omega
      rcases Nat.mul_eq_zero.mp hmul with h | h
      · exact h
      · omega
    intro e he
    rcases List.mem_append.mp he with he | he
    · exact ih hvalue e he
    · rw [List.mem_singleton.mp he, hd]

theorem value_replicate_zero (b n : Nat) : value b (List.replicate n 0) = 0 := by
  have hzeros := value_append_zeros b [] n
  rwa [List.nil_append, show value b [] = 0 from rfl, Nat.zero_mul] at hzeros

/-- **A list of digits has the same value in two bases** exactly when only its last digit counts. -/
theorem value_eq_value_iff {a b : Nat} (ha : 0 < a) (hab : a < b) (ds : List Nat) (d : Nat) :
    value a (ds ++ [d]) = value b (ds ++ [d]) ↔ ∀ e ∈ ds, e = 0 := by
  rw [value_append_singleton, value_append_singleton]
  constructor
  · intro h
    have hmono := value_mono_base hab.le ds
    have hmul : value b ds * b ≤ value b ds * a := by
      calc value b ds * b = value a ds * a := by omega
        _ ≤ value b ds * a := Nat.mul_le_mul_right a hmono
    have hzero : value b ds = 0 := by
      by_contra hne
      have hlt := Nat.mul_lt_mul_of_pos_left hab (Nat.pos_of_ne_zero hne)
      omega
    exact eq_zero_of_value_eq_zero (by omega) hzero
  · intro h
    have hds : ds = List.replicate ds.length 0 := List.eq_replicate_of_mem h
    rw [hds, value_replicate_zero, value_replicate_zero, Nat.zero_mul, Nat.zero_mul]

end Radix
