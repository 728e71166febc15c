import Mathlib.Data.List.Infix
import Mathlib.Tactic.Common

/-!
# Byte stuffing

A frame is delimited by a symbol that must not occur in it. Where the data have that symbol, or the
escape symbol itself, two other symbols are sent: the escape symbol and a code for what was meant.
A receiver that undoes this symbol by symbol is verified one *unit* at a time: a unit is what is sent
for one symbol of the data.
-/

/-- A choice of symbols: the delimiter, the escape symbol, and the codes of these two. -/
structure ByteStuffing (α : Type*) where
  fend : α
  fesc : α
  tfend : α
  tfesc : α
  fesc_ne : fesc ≠ fend
  tfend_ne : tfend ≠ fend
  tfesc_ne : tfesc ≠ fend

namespace ByteStuffing

variable {α σ : Type*} [DecidableEq α] (c : ByteStuffing α)

/-- What is sent for one symbol. -/
def unit (b : α) : List α :=
  if b = c.fend then [c.fesc, c.tfend] else if b = c.fesc then [c.fesc, c.tfesc] else [b]

def stuff (l : List α) : List α := l.flatMap c.unit

@[simp] theorem stuff_nil : c.stuff [] = [] := rfl

@[simp] theorem stuff_cons (b : α) (l : List α) : c.stuff (b :: l) = c.unit b ++ c.stuff l := rfl

@[simp] theorem stuff_append (l m : List α) : c.stuff (l ++ m) = c.stuff l ++ c.stuff m :=
  List.flatMap_append

theorem fend_not_mem_unit (b : α) : c.fend ∉ c.unit b := by
  unfold unit
  split_ifs with h1 h2
  · simp [c.fesc_ne.symm, c.tfend_ne.symm]
  · simp [c.fesc_ne.symm, c.tfesc_ne.symm]
  · simp [Ne.symm h1]

/-- **The delimiter does not occur in stuffed data.** -/
theorem fend_not_mem_stuff (l : List α) : c.fend ∉ c.stuff l := by
  intro h
  obtain ⟨b, -, hb⟩ := List.mem_flatMap.mp h
  exact c.fend_not_mem_unit b hb

/-- The cases of a unit, for a receiver that looks at one symbol at a time. -/
theorem foldl_unit {step : σ → α → σ} {push : σ → α → σ} {s : σ} {b : α}
    (hplain : b ≠ c.fend → b ≠ c.fesc → step s b = push s b)
    (hfend : step (step s c.fesc) c.tfend = push s c.fend)
    (hfesc : step (step s c.fesc) c.tfesc = push s c.fesc) :
    (c.unit b).foldl step s = push s b := by
  unfold unit
  split_ifs with h1 h2
  · rw [h1]; exact hfend
  · rw [h2]; exact hfesc
  · exact hplain h1 h2

/-- **A receiver that takes each unit for its symbol takes stuffed data for the data**, as long as
`P` holds of the states in which a unit begins. -/
theorem foldl_stuff {step : σ → α → σ} {push : σ → α → σ} {P : σ → Prop}
    (hunit : ∀ s b, P s → (c.unit b).foldl step s = push s b) {s : σ} {l : List α}
    (hP : ∀ pre b, pre ++ [b] <+: l → P (pre.foldl push s)) :
    (c.stuff l).foldl step s = l.foldl push s := by
  induction l generalizing s with
  | nil => rfl
  | cons b l ih =>
    have hfirst : P s := hP [] b (by simp)
    rw [stuff_cons, List.foldl_append, hunit s b hfirst, List.foldl_cons]
    apply ih
    intro pre d hpre
    exact hP (b :: pre) d (List.cons_prefix_cons.mpr ⟨rfl, hpre⟩)

/-- What every unit keeps, stuffed data keep. -/
theorem foldl_stuff_inv {step : σ → α → σ} {P : σ → Prop}
    (hunit : ∀ s b, P s → P ((c.unit b).foldl step s)) {s : σ} (hs : P s) (l : List α) :
    P ((c.stuff l).foldl step s) := by
  induction l generalizing s with
  | nil => exact hs
  | cons b l ih =>
    rw [stuff_cons, List.foldl_append]
    exact ih (hunit s b hs)

end ByteStuffing
