import CspTerm.Lib.Ring

/-!
# Rings as queues

A ring whose oldest entry is removed first is a queue: new entries go behind the newest one, as long as
there is a free cell, and the start moves on when an entry is taken.
-/

namespace Ring

variable {α : Type*} {n : Nat} [NeZero n]

/-- The ring holds these entries, the oldest one in the cell `start`. -/
structure Queues (cells : Vector α n) (start : Nat) (l : List α) : Prop where
  room : l.length ≤ n
  cell_eq : ∀ i, i < l.length → l[i]? = some (cell cells (start + i))

namespace Queues

variable {cells : Vector α n} {start : Nat} {l : List α}

theorem nil (cells : Vector α n) (start : Nat) : Queues cells start [] :=
  ⟨Nat.zero_le n, fun i hi => absurd hi (Nat.not_lt_zero i)⟩

theorem congr {start' : Nat} (h : Queues cells start l) (hstart : start % n = start' % n) :
    Queues cells start' l where
  room := h.room
  cell_eq i hi := by
    rw [h.cell_eq i hi]
    congr 1
    exact cell_congr (by rw [Nat.add_mod, hstart, ← Nat.add_mod])

/-- A new entry goes behind the newest one. -/
theorem snoc (h : Queues cells start l) (hroom : l.length < n) (x : α) :
    Queues (cells.set (Fin.ofNat n (start + l.length)) x) start (l ++ [x]) where
  room := by
    rw [List.length_append, List.length_singleton]
    omega
  cell_eq i hi := by
    rw [List.length_append, List.length_singleton] at hi
    rw [cell_set]
    by_cases hlast : i = l.length
    · rw [hlast, if_pos rfl, List.getElem?_concat_length]
    · rw [if_neg (mod_ne (by omega) (by omega)), List.getElem?_append_left (by omega),
        h.cell_eq i (by omega)]

/-- The oldest entry is in the first cell. -/
theorem head {x : α} (h : Queues cells start (x :: l)) : cell cells start = x := by
  have hcell := h.cell_eq 0 (by simp)
  exact (Option.some.inj hcell).symm

/-- Without the oldest entry, the queue starts one cell later. -/
theorem tail {x : α} (h : Queues cells start (x :: l)) : Queues cells (start + 1) l where
  room := Nat.le_of_succ_le h.room
  cell_eq i hi := by
    have hcell := h.cell_eq (i + 1) (by simpa using hi)
    rwa [List.getElem?_cons_succ, show start + (i + 1) = start + 1 + i by omega] at hcell

end Queues

end Ring
