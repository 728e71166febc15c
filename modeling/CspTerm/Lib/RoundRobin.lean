import Mathlib.Algebra.BigOperators.Fin
import Mathlib.Algebra.Order.BigOperators.Group.Finset
import Mathlib.Data.Fintype.BigOperators
import Mathlib.Tactic.Common

/-!
# Round-robin search in a fixed table

A table of `n` slots is searched from the slot after a cursor, wrapping around once, for the first
slot that is free. `next` finds a free slot exactly when there is one.

The second half counts things stored in the slots of such a table: replacing the content of one
slot changes a sum over all slots by the difference in that slot (`sum_update_add`).
-/

namespace RoundRobin

variable {n : Nat}

def probe (cur : Fin n) (j : Nat) : Fin n :=
  ⟨(cur.val + 1 + j) % n, Nat.mod_lt _ (Nat.lt_of_le_of_lt (Nat.zero_le _) cur.isLt)⟩

def next (free : Fin n → Bool) (cur : Fin n) : Option (Fin n) :=
  ((List.range n).map (probe cur)).find? free

theorem free_of_next {free : Fin n → Bool} {cur i : Fin n} (h : next free cur = some i) :
    free i = true :=
  List.find?_some h

theorem mem_probes (cur i : Fin n) : i ∈ (List.range n).map (probe cur) := by
  have hc := cur.isLt
  have hi := i.isLt
  refine List.mem_map.mpr ?_
  by_cases h : cur.val < i.val
  · refine ⟨i.val - cur.val - 1, List.mem_range.mpr (by omega), Fin.ext ?_⟩
    show (cur.val + 1 + (i.val - cur.val - 1)) % n = i.val
    rw [show cur.val + 1 + (i.val - cur.val - 1) = i.val by omega, Nat.mod_eq_of_lt hi]
  · refine ⟨i.val + n - cur.val - 1, List.mem_range.mpr (by omega), Fin.ext ?_⟩
    show (cur.val + 1 + (i.val + n - cur.val - 1)) % n = i.val
    rw [show cur.val + 1 + (i.val + n - cur.val - 1) = i.val + n by omega, Nat.add_mod_right,
      Nat.mod_eq_of_lt hi]

theorem next_eq_none_iff {free : Fin n → Bool} {cur : Fin n} :
    next free cur = none ↔ ∀ i, free i = false := by
  simp only [next, List.find?_eq_none, Bool.not_eq_true]
  exact ⟨fun h i => h i (mem_probes cur i), fun h i _ => h i⟩

/-- If the slot right after the cursor is free, it is the one given. -/
theorem next_eq_probe_zero {free : Fin n → Bool} {cur : Fin n} (h : free (probe cur 0) = true) :
    next free cur = some (probe cur 0) := by
  obtain ⟨m, rfl⟩ : ∃ m, n = m + 1 := ⟨n - 1, by have := cur.isLt; omega⟩
  simp [next, List.range_succ_eq_map, h]

/-! ## Sums over the slots -/

section Sum

variable {β : Type*}

/-- Replacing one slot's content changes a sum over the slots in that slot only. -/
theorem sum_update_add (f : β → Nat) (t : Fin n → β) (i : Fin n) (b : β) :
    (∑ j, f (Function.update t i b j)) + f (t i) = (∑ j, f (t j)) + f b := by
  have h1 : ∑ j, f (Function.update t i b j) = f b + ∑ j ∈ Finset.univ \ {i}, f (t j) := by
    rw [← Finset.sum_update_of_mem (Finset.mem_univ i) (fun j => f (t j)) (f b)]
    refine Finset.sum_congr rfl ?_
    intro j _
    by_cases hj : j = i
    · subst hj; simp
    · simp [Function.update_of_ne hj]
  have h2 : ∑ j, f (t j) = f (t i) + ∑ j ∈ Finset.univ \ {i}, f (t j) := by
    rw [← Finset.sum_update_of_mem (Finset.mem_univ i) (fun j => f (t j)) (f (t i)),
      Function.update_eq_self]
  omega

theorem le_sum (f : β → Nat) (t : Fin n → β) (i : Fin n) : f (t i) ≤ ∑ j, f (t j) :=
  Finset.single_le_sum (f := fun j => f (t j)) (fun _ _ => Nat.zero_le _) (Finset.mem_univ i)

end Sum

end RoundRobin
