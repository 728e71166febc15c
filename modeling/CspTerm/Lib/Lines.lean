import Mathlib.Data.List.Infix
import Mathlib.Tactic.Common

/-!
# Streams of separator-terminated lines

A stream over an alphabet `α` with a separator `sep` consists of its complete lines, each ended by
a separator, and an unterminated rest. `lines sep l` are the complete lines without their
separators, `rest sep l` is what follows the last separator. The two together are the stream again
(`join_lines`), and they can be computed piecewise: what `a ++ b` adds to the lines of `a` are the
lines of `rest a ++ b` (`lines_append`, `rest_append`), which is what an incremental splitter that
keeps only the rest relies on.
-/

namespace Lines

variable {α : Type*} [DecidableEq α] (sep : α)

/-- The complete lines of a stream, without their separators. -/
def lines : List α → List (List α)
  | [] => []
  | a :: l =>
    if a = sep then [] :: lines l
    else match lines l with
      | [] => []
      | x :: xs => (a :: x) :: xs

/-- The part of a stream after its last separator. -/
def rest : List α → List α
  | [] => []
  | a :: l => if sep ∈ a :: l then rest l else a :: l

@[simp] theorem lines_nil : lines sep [] = [] := rfl

@[simp] theorem rest_nil : rest sep [] = [] := rfl

theorem lines_eq_nil_iff {l : List α} : lines sep l = [] ↔ sep ∉ l := by
  induction l with
  | nil => simp
  | cons a l ih =>
    by_cases h : a = sep
    · simp [lines, h]
    · have h' : ¬ sep = a := fun e => h e.symm
      simp only [lines, h, if_false, List.mem_cons, h', false_or, ← ih]
      cases lines sep l <;> simp

theorem rest_eq_self {l : List α} (h : sep ∉ l) : rest sep l = l := by
  cases l with
  | nil => rfl
  | cons a l => simp only [rest, h, if_false]

theorem sep_notMem_rest (l : List α) : sep ∉ rest sep l := by
  induction l with
  | nil => simp
  | cons a l ih =>
    by_cases h : sep ∈ a :: l
    · simpa only [rest, h, if_true] using ih
    · simpa only [rest, h, if_false] using h

/-- A first line is whatever precedes the first separator. -/
theorem lines_line {x : List α} (hx : sep ∉ x) (l : List α) :
    lines sep (x ++ sep :: l) = x :: lines sep l := by
  induction x with
  | nil => simp [lines]
  | cons a x ih =>
    obtain ⟨ha, hx'⟩ := not_or.mp (List.mem_cons.not.mp hx)
    have ha' : ¬ a = sep := fun e => ha e.symm
    simp only [List.cons_append, lines, ha', if_false, ih hx']

theorem rest_line (x l : List α) : rest sep (x ++ sep :: l) = rest sep l := by
  induction x with
  | nil => simp [rest]
  | cons a x ih =>
    have h : sep ∈ a :: (x ++ sep :: l) := by simp
    simp only [List.cons_append, rest, h, if_true, ih]

/-- A stream with a separator splits at its first one. -/
theorem exists_first_line {l : List α} (h : sep ∈ l) :
    ∃ x l', sep ∉ x ∧ l = x ++ sep :: l' := by
  induction l with
  | nil => simp at h
  | cons a l ih =>
    by_cases ha : a = sep
    · exact ⟨[], l, by simp, by simp [ha]⟩
    · have hl : sep ∈ l := (List.mem_cons.mp h).resolve_left fun e => ha e.symm
      obtain ⟨x, l', hx, rfl⟩ := ih hl
      exact ⟨a :: x, l', by simp [hx, Ne.symm ha], rfl⟩

/-- Induction on the lines of a stream: the unterminated rest, then one line in front. -/
theorem lineInduction {P : List α → Prop} (hrest : ∀ l, sep ∉ l → P l)
    (hline : ∀ x l, sep ∉ x → P l → P (x ++ sep :: l)) (l : List α) : P l := by
  induction hn : l.length using Nat.strong_induction_on generalizing l with
  | h n ih =>
    by_cases h : sep ∈ l
    · obtain ⟨x, l', hx, rfl⟩ := exists_first_line sep h
      refine hline x l' hx (ih l'.length ?_ l' rfl)
      rw [← hn]
      simp only [List.length_append, List.length_cons]
      omega
    · exact hrest l h

/-- **A stream is its lines and its rest.** -/
theorem join_lines (l : List α) :
    ((lines sep l).map (· ++ [sep])).flatten ++ rest sep l = l := by
  induction l using lineInduction sep with
  | hrest l h => simp [(lines_eq_nil_iff sep).mpr h, rest_eq_self sep h]
  | hline x l hx ih =>
    rw [lines_line sep hx, rest_line]
    simpa using ih

/-- **The lines of a stream that arrives in two pieces.** -/
theorem lines_append (a b : List α) :
    lines sep (a ++ b) = lines sep a ++ lines sep (rest sep a ++ b) := by
  induction a using lineInduction sep with
  | hrest a h => simp [(lines_eq_nil_iff sep).mpr h, rest_eq_self sep h]
  | hline x a hx ih =>
    rw [List.append_assoc, List.cons_append, lines_line sep hx, lines_line sep hx, rest_line, ih]
    rfl

theorem rest_append (a b : List α) : rest sep (a ++ b) = rest sep (rest sep a ++ b) := by
  induction a using lineInduction sep with
  | hrest a h => rw [rest_eq_self sep h]
  | hline x a hx ih => rw [List.append_assoc, List.cons_append, rest_line, rest_line, ih]

/-- A line with its separator is no longer than the stream, and so is the rest. -/
theorem length_lt_of_mem_lines {l x : List α} (hx : x ∈ lines sep l) : x.length < l.length := by
  induction l using lineInduction sep with
  | hrest l h => simp [(lines_eq_nil_iff sep).mpr h] at hx
  | hline y l hy ih =>
    rw [lines_line sep hy] at hx
    simp only [List.length_append, List.length_cons]
    rcases List.mem_cons.mp hx with rfl | h
    · omega
    · have := ih h
      omega

theorem length_rest_le (l : List α) : (rest sep l).length ≤ l.length := by
  conv => rhs; rw [← join_lines sep l]
  simp

end Lines
