import Mathlib.Data.List.Basic
import Mathlib.Tactic.Common

/-!
# Block functions over a stream

A function on blocks of `n` elements is applied to a stream that arrives in pieces: what does not fill
a block yet waits in a buffer. Whatever the pieces are, the result is that of the blocks of the
whole stream, one after the other (`feed_eq`).
-/

namespace BlockStream

variable {α σ : Type*}

/-- What has been computed from the blocks so far, and the elements that wait. -/
structure Progress (α σ : Type*) where
  state : σ
  waiting : List α

variable (n : Nat) (compress : σ → List α → σ)

def push (s : Progress α σ) (a : α) : Progress α σ :=
  if s.waiting.length + 1 = n then ⟨compress s.state (s.waiting ++ [a]), []⟩
  else ⟨s.state, s.waiting ++ [a]⟩

def feed (s : Progress α σ) (l : List α) : Progress α σ := l.foldl (push n compress) s

/-- The whole blocks of a list, in their order. -/
def blocks (l : List α) : List (List α) :=
  (List.range (l.length / n)).map fun i => (l.drop (i * n)).take n

/-! ## Pieces -/

@[simp] theorem feed_nil (s : Progress α σ) : feed n compress s [] = s := rfl

theorem feed_cons (s : Progress α σ) (a : α) (l : List α) :
    feed n compress s (a :: l) = feed n compress (push n compress s a) l := rfl

/-- **Where a stream is cut does not matter.** -/
theorem feed_append (s : Progress α σ) (l m : List α) :
    feed n compress s (l ++ m) = feed n compress (feed n compress s l) m :=
  List.foldl_append

variable {n}

/-- A piece that does not fill the block waits. -/
theorem feed_short (s : Progress α σ) {l : List α} (h : s.waiting.length + l.length < n) :
    feed n compress s l = ⟨s.state, s.waiting ++ l⟩ := by
  induction l generalizing s with
  | nil => rw [feed_nil, List.append_nil]
  | cons a l ih =>
    rw [List.length_cons] at h
    have hpush : push n compress s a = ⟨s.state, s.waiting ++ [a]⟩ := if_neg (by omega)
    rw [feed_cons, hpush, ih _ (by rw [List.length_append, List.length_singleton]; omega),
      List.append_assoc, List.singleton_append]

/-- A piece that just fills the block. -/
theorem feed_full (s : Progress α σ) {l : List α} (hw : s.waiting.length < n)
    (h : s.waiting.length + l.length = n) :
    feed n compress s l = ⟨compress s.state (s.waiting ++ l), []⟩ := by
  obtain rfl | ⟨l, a, rfl⟩ := l.eq_nil_or_concat'
  · rw [List.length_nil] at h
    omega
  · rw [List.length_append, List.length_singleton] at h
    rw [feed_append, feed_short compress s (by omega), feed_cons, feed_nil, push, List.append_assoc]
    exact if_pos (by rw [List.length_append]; omega)

/-! ## Blocks -/

theorem blocks_of_lt {l : List α} (h : l.length < n) : blocks n l = [] := by
  rw [blocks, Nat.div_eq_of_lt h]
  rfl

theorem blocks_append {b : List α} (hb : b.length = n) (hn : 0 < n) (l : List α) :
    blocks n (b ++ l) = b :: blocks n l := by
  have hcount : (b ++ l).length / n = l.length / n + 1 := by
    rw [List.length_append, hb, Nat.add_div_left _ hn]
  rw [blocks, hcount, List.range_succ_eq_map, List.map_cons, Nat.zero_mul, List.drop_zero, ← hb,
    List.take_left, List.map_map]
  congr 1
  apply List.map_congr_left
  intro i _
  have hskip : (i + 1) * b.length = b.length + i * b.length := by rw [Nat.succ_mul, Nat.add_comm]
  rw [Function.comp_apply, hskip, ← List.drop_drop, List.drop_left]

/-- **A stream from its beginning**: all the whole blocks are used, and the rest waits. -/
theorem feed_eq (hn : 0 < n) (state : σ) (l : List α) :
    feed n compress ⟨state, []⟩ l
      = ⟨(blocks n l).foldl compress state, l.drop (l.length / n * n)⟩ := by
  -- one block after the other
  induction h : l.length / n generalizing state l with
  | zero =>
    have hshort : l.length < n := by
      rcases Nat.div_eq_zero_iff.mp h with h | h <;> omega
    rw [feed_short compress _ (by simpa using hshort), blocks_of_lt hshort, Nat.zero_mul]
    rfl
  | succ k ih =>
    have hlen : n ≤ l.length := by
      by_contra hlt
      rw [Nat.div_eq_of_lt (by omega)] at h
      omega
    have htake : (l.take n).length = n := by rw [List.length_take]; omega
    have hrest : (l.drop n).length / n = k := by
      have hsum : l.length / n = (l.length - n) / n + 1 := by
        rw [← Nat.add_div_right _ hn, Nat.sub_add_cancel hlen]
      rw [List.length_drop]
      omega
    have hfirst := feed_full compress ⟨state, []⟩ (l := l.take n) hn (by simp [htake])
    conv_lhs => rw [← List.take_append_drop n l, feed_append, hfirst, ih _ _ hrest]
    conv_rhs => rw [← List.take_append_drop n l, blocks_append htake hn]
    rw [List.foldl_cons, List.take_append_drop, List.drop_drop, Nat.succ_mul, Nat.add_comm n]
    rfl

/-- A stream that ends with a whole block. -/
theorem feed_eq_of_dvd (hn : 0 < n) (state : σ) {l : List α} (h : n ∣ l.length) :
    feed n compress ⟨state, []⟩ l = ⟨(blocks n l).foldl compress state, []⟩ := by
  rw [feed_eq compress hn, Nat.div_mul_cancel h, List.drop_length]

end BlockStream
