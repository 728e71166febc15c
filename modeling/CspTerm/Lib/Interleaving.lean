import Mathlib.Data.List.Infix
import Mathlib.Tactic.Common

/-!
# Interleavings of sequential programs

Threads `i : ι` each execute a list of atomic steps, and a schedule lists the steps of all threads
in the order in which they are executed. It interleaves the programs if each thread's steps stand in
it in the order of its program. What a shared variable holds in the end is up to the last step that
writes it (`exists_last`, `foldl_frame`), and the order of the steps of one thread limits which steps
that can be (`Interleaves.rel`).
-/

namespace Interleaving

variable {ι α σ β : Type*}

/-- The last element of a list with a property. -/
theorem exists_last {p : β → Prop} {l : List β} (h : ∃ x ∈ l, p x) :
    ∃ u x v, l = u ++ x :: v ∧ p x ∧ ∀ y ∈ v, ¬ p y := by
  induction l with
  | nil =>
    obtain ⟨x, hx, -⟩ := h
    cases hx
  | cons a l ih =>
    by_cases hl : ∃ x ∈ l, p x
    · obtain ⟨u, x, v, rfl, hx, hv⟩ := ih hl
      exact ⟨a :: u, x, v, rfl, hx, hv⟩
    · obtain ⟨x, hx, hpx⟩ := h
      have hxa : x = a := (List.mem_cons.mp hx).resolve_right fun hmem => hl ⟨x, hmem, hpx⟩
      subst hxa
      exact ⟨[], x, l, rfl, hpx, fun y hy hpy => hl ⟨y, hy, hpy⟩⟩

/-- What none of the steps changes is as it was. -/
theorem foldl_frame {step : σ → α → σ} {f : σ → β} {l : List α}
    (h : ∀ s, ∀ a ∈ l, f (step s a) = f s) (s : σ) : f (l.foldl step s) = f s := by
  induction l generalizing s with
  | nil => rfl
  | cons a l ih =>
    rw [List.foldl_cons, ih fun s b hb => h s b (List.mem_cons_of_mem a hb)]
    exact h s a List.mem_cons_self

variable [DecidableEq ι]

/-- The steps of thread `i`, in the order of the schedule. -/
def stepsOf (i : ι) (l : List (ι × α)) : List α := (l.filter (·.1 = i)).map Prod.snd

def Interleaves (program : ι → List α) (l : List (ι × α)) : Prop := ∀ i, stepsOf i l = program i

theorem mem_stepsOf {i : ι} {a : α} {l : List (ι × α)} : a ∈ stepsOf i l ↔ (i, a) ∈ l := by
  simp [stepsOf]

theorem stepsOf_append (i : ι) (u v : List (ι × α)) :
    stepsOf i (u ++ v) = stepsOf i u ++ stepsOf i v := by
  simp [stepsOf]

theorem Interleaves.mem_iff {program : ι → List α} {l : List (ι × α)} (h : Interleaves program l)
    {i : ι} {a : α} : (i, a) ∈ l ↔ a ∈ program i := by
  rw [← h i, mem_stepsOf]

/-- **The steps of one thread are in the order of its program.** -/
theorem Interleaves.rel {program : ι → List α} {u v : List (ι × α)}
    (h : Interleaves program (u ++ v)) {r : α → α → Prop} {i : ι} (hp : (program i).Pairwise r)
    {a b : α} (ha : (i, a) ∈ u) (hb : (i, b) ∈ v) : r a b := by
  rw [← h i, stepsOf_append] at hp
  exact (List.pairwise_append.mp hp).2.2 a (mem_stepsOf.mpr ha) b (mem_stepsOf.mpr hb)

end Interleaving
