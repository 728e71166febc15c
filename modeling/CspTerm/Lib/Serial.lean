import Mathlib.Data.Int.Basic
import Mathlib.Tactic.Positivity

/-!
# Serial numbers

A counter of `w` bits shows only the low part of a number that goes on growing. Two such readings say
which number is the greater one if the numbers are less than half the range apart.
-/

namespace Serial

variable {w : Nat} {u v lo hi : BitVec w} {x y a b : Int}

/-- `v` is the low part of `x`. -/
def Reads (v : BitVec w) (x : Int) : Prop := v = BitVec.ofInt w x

/-- `v` is one of the numbers from `lo` to `hi`, going up from `lo`. -/
def between (v lo hi : BitVec w) : Bool := decide (v - lo ≤ hi - lo)

/-- `v` comes before `u`: the difference is negative as a signed number. -/
def before (v u : BitVec w) : Bool := decide ((v - u).toInt < 0)

theorem reads_ofNat (n : Nat) : Reads (BitVec.ofNat w n) n := (BitVec.ofInt_natCast w n).symm

theorem Reads.add (hv : Reads v x) (hu : Reads u y) : Reads (v + u) (x + y) := by
  rw [Reads, BitVec.ofInt_add, hv, hu]

theorem Reads.sub (hv : Reads v x) (hu : Reads u y) : Reads (v - u) (x - y) := by
  rw [Reads, BitVec.sub_eq_add_neg, hv, hu, Int.sub_eq_add_neg, BitVec.ofInt_add, BitVec.ofInt_neg]

theorem Reads.of_eq (hv : Reads v x) (h : x = y) : Reads v y := h ▸ hv

theorem Reads.toNat (hv : Reads v x) : (v.toNat : Int) = x % 2 ^ w := by
  rw [hv, BitVec.toNat_ofInt, Int.toNat_of_nonneg (Int.emod_nonneg _ (by positivity))]
  push_cast
  rfl

theorem Reads.toInt (hv : Reads v x) : v.toInt = x.bmod (2 ^ w) := by
  rw [hv, BitVec.toInt_ofInt]

/-- Equal readings of numbers that are less than the range apart. -/
theorem Reads.eq_iff (hv : Reads v x) (hu : Reads u y) (hlt : x < y + 2 ^ w) (hgt : y < x + 2 ^ w) :
    v = u ↔ x = y := by
  constructor
  · intro h
    have hzero : (x - y) % 2 ^ w = 0 := by
      rw [← (hv.sub hu).toNat, h, BitVec.sub_self]
      rfl
    by_cases hxy : y ≤ x
    · rw [Int.emod_eq_of_lt (by omega) (by omega)] at hzero
      omega
    · rw [← Int.add_emod_right, Int.emod_eq_of_lt (by omega) (by omega)] at hzero
      omega
  · rintro rfl
    rw [hv, hu]

theorem between_iff (hv : Reads v x) (hlo : Reads lo a) (hhi : Reads hi b) (hab : a ≤ b)
    (hspan : b < a + 2 ^ w) (hbelow : b < x + 2 ^ w) (habove : x < a + 2 ^ w) :
    between v lo hi = true ↔ a ≤ x ∧ x ≤ b := by
  have hd := (hv.sub hlo).toNat
  have he := (hhi.sub hlo).toNat
  rw [Int.emod_eq_of_lt (by omega) (by omega)] at he
  rw [between, decide_eq_true_eq, BitVec.le_def, ← Int.ofNat_le, he, hd]
  by_cases hax : a ≤ x
  · rw [Int.emod_eq_of_lt (by omega) (by omega)]
    omega
  · rw [← Int.add_emod_right, Int.emod_eq_of_lt (by omega) (by omega)]
    omega

theorem before_iff (hv : Reads v x) (hu : Reads u y) (hlt : 2 * (x - y) < 2 ^ w)
    (hle : -2 ^ w ≤ 2 * (x - y)) : before v u = true ↔ x < y := by
  rw [before, decide_eq_true_eq, (hv.sub hu).toInt, Int.bmod_eq_of_le_mul_two]
  · omega
  · push_cast
    omega
  · push_cast
    omega

end Serial
