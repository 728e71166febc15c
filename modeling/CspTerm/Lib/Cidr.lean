import Mathlib.Data.Nat.Bitwise
import Mathlib.Tactic.Common

/-!
# Networks of addresses

The addresses that agree but for their last `h` bits form a network; two networks are disjoint or one
contains the other. Among the networks that an address belongs to, a route is chosen by the one with
the fewest such bits.
-/

namespace Cidr

variable {w : Nat}

def hostMask (w h : Nat) : BitVec w := BitVec.ofNat w (2 ^ h - 1)

/-- The two addresses differ in the last `h` bits at most. -/
def SameNet (h : Nat) (a b : BitVec w) : Prop := a &&& ~~~hostMask w h = b &&& ~~~hostMask w h

instance (h : Nat) (a b : BitVec w) : Decidable (SameNet h a b) :=
  inferInstanceAs (Decidable (_ = _))

theorem getLsbD_hostMask (h i : Nat) :
    (hostMask w h).getLsbD i = (decide (i < w) && decide (i < h)) := by
  rw [hostMask, BitVec.getLsbD_ofNat, Nat.testBit_two_pow_sub_one]

theorem sameNet_iff {h : Nat} {a b : BitVec w} :
    SameNet h a b ↔ ∀ i, h ≤ i → i < w → a.getLsbD i = b.getLsbD i := by
  have hbit (c : BitVec w) (i : Nat) (hw : i < w) :
      (c &&& ~~~hostMask w h).getLsbD i = (c.getLsbD i && !decide (i < h)) := by
    rw [BitVec.getLsbD_and, BitVec.getLsbD_not, getLsbD_hostMask, decide_eq_true hw, Bool.true_and,
      Bool.true_and]
  constructor
  · intro hab i hi hw
    have hsame := congrArg (fun c => c.getLsbD i) hab
    simp only [hbit _ i hw, decide_eq_false (Nat.not_lt.mpr hi), Bool.not_false,
      Bool.and_true] at hsame
    exact hsame
  · intro hab
    apply BitVec.eq_of_getLsbD_eq
    intro i hw
    rw [hbit _ i hw, hbit _ i hw]
    rcases Nat.lt_or_ge i h with hi | hi
    · simp [hi]
    · rw [hab i hi hw]

theorem SameNet.symm {h : Nat} {a b : BitVec w} (hab : SameNet h a b) : SameNet h b a := Eq.symm hab

theorem SameNet.trans {h : Nat} {a b c : BitVec w} (hab : SameNet h a b) (hbc : SameNet h b c) :
    SameNet h a c :=
  Eq.trans hab hbc

/-- **Larger networks contain the smaller ones** that they meet. -/
theorem SameNet.mono {h k : Nat} {a b : BitVec w} (hab : SameNet h a b) (hk : h ≤ k) :
    SameNet k a b :=
  sameNet_iff.mpr fun i hi => sameNet_iff.mp hab i (hk.trans hi)

/-- A network has one address whose last `h` bits are zero. -/
theorem SameNet.eq {h : Nat} {a b : BitVec w} (hab : SameNet h a b) (ha : a &&& hostMask w h = 0)
    (hb : b &&& hostMask w h = 0) : a = b := by
  have hzero {c : BitVec w} (hc : c &&& hostMask w h = 0) (i : Nat) (hi : i < h) (hw : i < w) :
      c.getLsbD i = false := by
    have hbit := congrArg (fun v => v.getLsbD i) hc
    simp only [BitVec.getLsbD_and, getLsbD_hostMask, decide_eq_true hi, decide_eq_true hw,
      Bool.and_true] at hbit
    rw [hbit]
    exact BitVec.getLsbD_zero
  apply BitVec.eq_of_getLsbD_eq
  intro i hw
  rcases Nat.lt_or_ge i h with hi | hi
  · rw [hzero ha i hi hw, hzero hb i hi hw]
  · exact sameNet_iff.mp hab i hi hw

/-! ## Routes -/

variable {κ α β : Type*}

/-- The route `hop` of the network `n` is the one for `a`: no network with a route that `a` belongs to
is longer, where `Covers` says what belongs to a network and `length` how many bits it fixes. -/
structure Chosen (Covers : κ → α → Prop) (length : κ → Nat) (routes : κ → Option β)
    (a : α) (n : κ) (hop : β) : Prop where
  route : routes n = some hop
  covers : Covers n a
  longest : ∀ m, (routes m).isSome → Covers m a → length m ≤ length n

/-- There is one such route at most, if networks of one length are disjoint. -/
theorem Chosen.unique {Covers : κ → α → Prop} {length : κ → Nat} {routes : κ → Option β}
    {a : α} {n n' : κ} {hop hop' : β} (h : Chosen Covers length routes a n hop)
    (h' : Chosen Covers length routes a n' hop')
    (hdisjoint : ∀ m m', (routes m).isSome → (routes m').isSome → length m = length m' →
      Covers m a → Covers m' a → m = m') : n = n' ∧ hop = hop' := by
  have hn : (routes n).isSome := by rw [h.route]; rfl
  have hn' : (routes n').isSome := by rw [h'.route]; rfl
  have hlen : length n = length n' :=
    Nat.le_antisymm (h'.longest n hn h.covers) (h.longest n' hn' h'.covers)
  have heq := hdisjoint n n' hn hn' hlen h.covers h'.covers
  subst heq
  exact ⟨rfl, Option.some.inj (h.route.symm.trans h'.route)⟩

end Cidr
