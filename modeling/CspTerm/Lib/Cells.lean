import Mathlib.Data.List.GetD
import Mathlib.Logic.Function.Basic
import Mathlib.Tactic.Common

/-!
# Lists written over a memory

A memory is a function from the index of a cell to its contents; `overlay m xs` is `m` with `xs` in
its first cells. Writing one cell of it extends the list or changes one of its items, and a memory
that is read up to a terminator holds one text only (`Holds.unique`).
-/

namespace Cells

variable {α : Type*}

/-- The memory `m` with the list `xs` in its first cells. -/
def overlay (m : Nat → α) (xs : List α) : Nat → α := fun k => xs.getD k (m k)

theorem overlay_nil (m : Nat → α) : overlay m [] = m := rfl

theorem overlay_of_lt {m : Nat → α} {xs : List α} {k : Nat} (h : k < xs.length) :
    overlay m xs k = xs[k] := by
  unfold overlay
  rw [List.getD_eq_getElem?_getD, List.getElem?_eq_getElem h, Option.getD_some]

theorem overlay_of_le {m : Nat → α} {xs : List α} {k : Nat} (h : xs.length ≤ k) :
    overlay m xs k = m k := by
  unfold overlay
  rw [List.getD_eq_getElem?_getD, List.getElem?_eq_none h, Option.getD_none]

theorem overlay_append_length (m : Nat → α) (xs : List α) (a : α) (ys : List α) :
    overlay m (xs ++ a :: ys) xs.length = a := by
  rw [overlay_of_lt (by rw [List.length_append, List.length_cons]; omega)]
  exact List.getElem_of_append rfl rfl

/-- Writing the cell behind the list. -/
theorem update_overlay_length (m : Nat → α) (xs : List α) (a : α) :
    Function.update (overlay m xs) xs.length a = overlay m (xs ++ [a]) := by
  funext k
  by_cases hk : k = xs.length
  · rw [hk, Function.update_self, overlay_append_length]
  · rw [Function.update_of_ne hk]
    rcases Nat.lt_or_gt_of_ne hk with hlt | hgt
    · rw [overlay_of_lt hlt, overlay_of_lt (by rw [List.length_append]; omega),
        List.getElem_append_left hlt]
    · have hlen : (xs ++ [a]).length ≤ k := by
        rw [List.length_append, List.length_singleton]
        omega
      rw [overlay_of_le (by omega), overlay_of_le hlen]

/-- Writing a cell of the list. -/
theorem update_overlay_of_lt {m : Nat → α} {xs : List α} {i : Nat} (h : i < xs.length) (a : α) :
    Function.update (overlay m xs) i a = overlay m (xs.set i a) := by
  funext k
  by_cases hk : k = i
  · subst hk
    rw [Function.update_self, overlay_of_lt (by rwa [List.length_set]), List.getElem_set_self]
  · rw [Function.update_of_ne hk]
    by_cases hlt : k < xs.length
    · rw [overlay_of_lt hlt, overlay_of_lt (by rwa [List.length_set]),
        List.getElem_set_ne (Ne.symm hk)]
    · rw [overlay_of_le (by omega), overlay_of_le (by rw [List.length_set]; omega)]

/-- Two lists of one length are told apart by the memory they are written over. -/
theorem overlay_injective {m : Nat → α} {xs ys : List α} (hlen : xs.length = ys.length)
    (h : overlay m xs = overlay m ys) : xs = ys := by
  refine List.ext_getElem hlen ?_
  intro k hx hy
  rw [← overlay_of_lt (m := m) hx, ← overlay_of_lt (m := m) hy, h]

/-- The memory holds the text `xs`, ended by the first `terminator`. -/
structure Holds (terminator : α) (m : Nat → α) (xs : List α) : Prop where
  text : ∀ k (h : k < xs.length), m k = xs[k]
  ended : m xs.length = terminator
  plain : terminator ∉ xs

theorem holds_overlay {terminator : α} (m : Nat → α) {xs : List α} (h : terminator ∉ xs) :
    Holds terminator (overlay m (xs ++ [terminator])) xs where
  text := by
    intro k hk
    rw [overlay_of_lt (by rw [List.length_append]; omega), List.getElem_append_left hk]
  ended := overlay_append_length m xs terminator []
  plain := h

/-- A memory holds at most one text. -/
theorem Holds.unique {terminator : α} {m : Nat → α} {xs ys : List α} (hx : Holds terminator m xs)
    (hy : Holds terminator m ys) : xs = ys := by
  -- the shorter text ends where the longer one still has a cell that is no terminator
  have hle : ∀ {xs ys : List α}, Holds terminator m xs → Holds terminator m ys →
      ¬ xs.length < ys.length := by
    intro xs ys hx hy hlt
    refine hy.plain ?_
    rw [← hx.ended, hy.text _ hlt]
    exact List.getElem_mem hlt
  have hlen : xs.length = ys.length := Nat.le_antisymm (Nat.le_of_not_lt (hle hy hx))
    (Nat.le_of_not_lt (hle hx hy))
  refine List.ext_getElem hlen ?_
  intro k hkx hky
  rw [← hx.text k hkx, hy.text k hky]

/-! ## Reversal in place -/

/-- The memory with the contents of two cells exchanged. -/
def swap (m : Nat → α) (i j : Nat) : Nat → α := Function.update (Function.update m i (m j)) j (m i)

theorem swap_apply (m : Nat → α) (i j k : Nat) :
    swap m i j k = if k = j then m i else if k = i then m j else m k := by
  unfold swap
  rw [Function.update_apply, Function.update_apply]

/-- The memory with the cells from `i` to `j` in the opposite order. -/
def mirror (m : Nat → α) (i j : Nat) : Nat → α := fun k =>
  if i ≤ k ∧ k ≤ j then m (i + j - k) else m k

theorem mirror_of_mem {m : Nat → α} {i j k : Nat} (hi : i ≤ k) (hj : k ≤ j) :
    mirror m i j k = m (i + j - k) := if_pos ⟨hi, hj⟩

theorem mirror_of_not_mem {m : Nat → α} {i j k : Nat} (h : ¬ (i ≤ k ∧ k ≤ j)) :
    mirror m i j k = m k := if_neg h

/-- The exchange mirrors the two ends of a range, and leaves what is outside it. -/
theorem swap_eq_mirror_of_outer {i j k : Nat} (hle : i ≤ j) (hk : ¬ (i + 1 ≤ k ∧ k + 1 ≤ j))
    (m : Nat → α) : swap m i j k = mirror m i j k := by
  rw [swap_apply]
  by_cases hj : k = j
  · rw [if_pos hj, mirror_of_mem (by omega) (by omega), hj, Nat.add_sub_cancel]
  · rw [if_neg hj]
    by_cases hi : k = i
    · rw [if_pos hi, mirror_of_mem (by omega) (by omega), hi, Nat.add_sub_cancel_left]
    · rw [if_neg hi, mirror_of_not_mem (by omega)]

/-- One exchange mirrors a range of one cell or two. -/
theorem swap_eq_mirror {i j : Nat} (hle : i ≤ j) (hshort : j ≤ i + 1) (m : Nat → α) :
    swap m i j = mirror m i j := by
  funext k
  exact swap_eq_mirror_of_outer hle (by omega) m

/-- Mirroring a range is one exchange and mirroring what is between the two cells. -/
theorem mirror_swap {i j : Nat} (hlt : i < j) (m : Nat → α) :
    mirror (swap m i j) (i + 1) (j - 1) = mirror m i j := by
  funext k
  by_cases hinner : i + 1 ≤ k ∧ k ≤ j - 1
  · have hsum : i + 1 + (j - 1) - k = i + j - k := by omega
    rw [mirror_of_mem hinner.1 hinner.2, mirror_of_mem (by omega) (by omega), swap_apply, hsum,
      if_neg (by omega), if_neg (by omega)]
  · rw [mirror_of_not_mem hinner]
    exact swap_eq_mirror_of_outer (Nat.le_of_lt hlt) (by omega) m

/-- **Mirroring a list reverses it**, and keeps what is behind it. -/
theorem mirror_overlay (m : Nat → α) {xs : List α} (hne : xs ≠ []) (ys : List α) :
    mirror (overlay m (xs ++ ys)) 0 (xs.length - 1) = overlay m (xs.reverse ++ ys) := by
  have hpos := List.length_pos_iff.mpr hne
  funext k
  by_cases hk : k < xs.length
  · have hback : xs.length - 1 - k < xs.length := by omega
    have hkr : k < xs.reverse.length := by rwa [List.length_reverse]
    rw [mirror_of_mem (Nat.zero_le k) (by omega), Nat.zero_add,
      overlay_of_lt (by rw [List.length_append]; omega), List.getElem_append_left hback,
      overlay_of_lt (by rw [List.length_append]; omega), List.getElem_append_left hkr,
      List.getElem_reverse]
  · rw [mirror_of_not_mem (by omega)]
    unfold overlay
    rw [List.getD_append_right _ _ _ _ (by omega),
      List.getD_append_right _ _ _ _ (by rw [List.length_reverse]; omega), List.length_reverse]

end Cells
