import Mathlib.Data.Nat.ModEq
import Mathlib.Tactic.Common

/-!
# Rings of the newest entries of a log

A ring keeps the newest entries of a growing log in `n` cells. It counts the entries it holds, from
a start cell on, and wraps around at the last cell. A new entry goes behind the newest one; once all
cells are in use, it replaces the oldest one and the start moves on.
-/

namespace Ring

variable {α : Type*} {n : Nat} [NeZero n]

/-- The cell `i` places from the first one, counted around the ring. -/
def cell (cells : Vector α n) (i : Nat) : α := cells[Fin.ofNat n i]

theorem cell_congr {cells : Vector α n} {i j : Nat} (h : i % n = j % n) :
    cell cells i = cell cells j := by
  simp only [cell, Fin.getElem_fin, Fin.val_ofNat, h]

theorem cell_set (cells : Vector α n) (i j : Nat) (x : α) :
    cell (cells.set (Fin.ofNat n i) x) j = if i % n = j % n then x else cell cells j := by
  simp [cell, Vector.getElem_set, Fin.ofNat]

/-- The ring holds the newest entries of the log: all of them, or as many as it has cells. -/
structure Holds (cells : Vector α n) (start count : Nat) (log : List α) : Prop where
  count_eq : count = min log.length n
  cell_eq : ∀ i, i < count → log[log.length - count + i]? = some (cell cells (start + i))

theorem holds_nil (cells : Vector α n) (start : Nat) : Holds cells start 0 [] :=
  ⟨by simp, fun i hi => absurd hi (Nat.not_lt_zero i)⟩

/-- Different places of the ring, less than a round apart, are different cells. -/
theorem mod_ne {n a i j : Nat} (hij : i < j) (hj : j < i + n) : (a + j) % n ≠ (a + i) % n := by
  intro h
  have hmod : j ≡ i [MOD n] := Nat.ModEq.add_left_cancel' a h
  have hdvd : n ∣ j - i := (Nat.modEq_iff_dvd' (Nat.le_of_lt hij)).mp hmod.symm
  have hle := Nat.le_of_dvd (by omega) hdvd
  omega

namespace Holds

variable {cells : Vector α n} {start count : Nat} {log : List α}

/-- A ring with an unused cell takes a new entry there. -/
theorem push (h : Holds cells start count log) (hc : count < n) (x : α) :
    Holds (cells.set (Fin.ofNat n (start + count)) x) start (count + 1) (log ++ [x]) := by
  have hcount := h.count_eq
  have hlen : log.length = count := by omega
  refine ⟨by rw [List.length_append, List.length_singleton]; omega, ?_⟩
  intro i hi
  rw [List.length_append, List.length_singleton, hlen, Nat.sub_self, Nat.zero_add, cell_set]
  by_cases hlast : i = count
  · subst hlast
    rw [if_pos rfl, List.getElem?_append_right (by omega), hlen, Nat.sub_self]
    rfl
  · have hold := h.cell_eq i (by omega)
    rw [hlen, Nat.sub_self, Nat.zero_add] at hold
    rw [if_neg (mod_ne (by omega) (by omega)), List.getElem?_append_left (by omega), hold]

/-- In a ring whose cells are all in use, a new entry replaces the oldest one. -/
theorem push_full (h : Holds cells start count log) (hc : count = n) (x : α) :
    Holds (cells.set (Fin.ofNat n (start + count)) x) ((start + 1) % n) count (log ++ [x]) := by
  have hcount := h.count_eq
  subst hc
  refine ⟨by rw [List.length_append, List.length_singleton]; omega, ?_⟩
  intro i hi
  have hcell : cell (cells.set (Fin.ofNat count (start + count)) x) ((start + 1) % count + i)
      = cell (cells.set (Fin.ofNat count (start + count)) x) (start + (i + 1)) := by
    refine cell_congr ?_
    rw [Nat.mod_add_mod, Nat.add_assoc, Nat.add_comm 1 i]
  rw [List.length_append, List.length_singleton, hcell, cell_set]
  by_cases hlast : i + 1 = count
  · rw [hlast, if_pos rfl, List.getElem?_append_right (by omega),
      show log.length + 1 - count + i - log.length = 0 by omega]
    rfl
  · have hold := h.cell_eq (i + 1) (by omega)
    rw [if_neg (mod_ne (by omega) (by omega)), List.getElem?_append_left (by omega),
      show log.length + 1 - count + i = log.length - count + (i + 1) by omega, hold]

/-- Reading the newest `k` entries, counted back from the end of the ring. -/
theorem newest (h : Holds cells start count log) {k : Nat} (hk : k ≤ count) :
    (List.range k).map (fun i => cell cells (start + count - k + i)) =
      log.drop (log.length - k) := by
  have hcount := h.count_eq
  refine List.ext_getElem (by simp; omega) ?_
  intro i hi _
  rw [List.length_map, List.length_range] at hi
  have hcell := h.cell_eq (count - k + i) (by omega)
  rw [show log.length - count + (count - k + i) = log.length - k + i by omega] at hcell
  rw [List.getElem_map, List.getElem_range, List.getElem_drop,
    show start + count - k + i = start + (count - k + i) by omega]
  exact (List.getElem_eq_iff _).mpr hcell |>.symm

end Holds

end Ring
