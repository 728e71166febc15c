import CspTerm.Lib.CString

/-!
# One direction of the radio link

A frequency exists three times: as the radio accepted it last, as the base of the Doppler
correction, and as the number shown to the operator. This module says what each way of setting a
frequency does to the three, and when they stay the same number. It knows nothing of the commands
that lead to it.
-/

namespace CspTerm.Radio

open CString

/-- The three copies of the frequency of one direction. -/
structure Link where
  /-- What the radio accepted last, if anything. -/
  accepted : Option UInt32
  base : Int
  shown : Int
deriving DecidableEq, Repr

/-- Once the radio has accepted a frequency, the copies are that frequency. -/
def Link.Coherent (l : Link) : Prop :=
  ∀ f, l.accepted = some f → l.base = f.toNat ∧ l.shown = f.toNat

inductive LinkAction where
  | keep
  /-- The operator's number `v` is accepted, as base and shown. -/
  | report (v : Int)
  /-- Frequency `f` is accepted, and neither copy follows. -/
  | write (f : UInt32)
  /-- Frequency `c` becomes the base; `accepted` tells whether the radio follows. -/
  | select (c : Int) (accepted : Bool)
deriving DecidableEq, Repr

def Link.apply (l : Link) : LinkAction → Link
  | .keep => l
  | .report v =>
    { accepted := some (UInt32.ofInt v), base := toInt32 (UInt32.ofInt v).toNat,
      shown := toInt32 v }
  | .write f => { l with accepted := some f }
  | .select c accepted =>
    { l with accepted := if accepted then some (UInt32.ofInt c) else l.accepted, base := c }

/-- The actions after which the three copies are the same number: a reported number that an `int`
can hold; a write of what the copies already are; a selected frequency that is already shown, unless
the radio has accepted nothing so far and does not accept it either. -/
def LinkAction.Harmless (l : Link) : LinkAction → Prop
  | .keep => True
  | .report v => (UInt32.ofInt v).toNat < 2 ^ 31
  | .write f => l.base = f.toNat ∧ l.shown = f.toNat
  | .select c accepted => accepted = true ∨ l.accepted ≠ none → l.shown = c

/-- The selected frequencies are numbers that the radio can be given. -/
def LinkAction.Valid : LinkAction → Prop
  | .select c _ => 0 ≤ c ∧ c < 2 ^ 32
  | _ => True

theorem toNat_ofInt (v : Int) : ((UInt32.ofInt v).toNat : Int) = v % 2 ^ 32 := by
  show (((v % 2 ^ 32).toNat % 2 ^ 32 : Nat) : Int) = v % 2 ^ 32
  omega

/-- **The harmless actions are the ones that keep the copies together.** -/
theorem Link.coherent_apply_iff {l : Link} (h : l.Coherent) {a : LinkAction} (ha : a.Valid) :
    (l.apply a).Coherent ↔ a.Harmless l := by
  cases a with
  | keep => exact ⟨fun _ => trivial, fun _ => h⟩
  | report v =>
    have hv := toNat_ofInt v
    have hlt : (UInt32.ofInt v).toNat < 2 ^ 32 := (UInt32.ofInt v).toNat_lt
    simp only [Link.Coherent, Link.apply, LinkAction.Harmless, Option.some.injEq, forall_eq']
    rw [toInt32_eq_self_iff hlt]
    refine ⟨fun h => h.1, fun h => ⟨h, ?_⟩⟩
    unfold toInt32
    omega
  | write f =>
    simp only [Link.Coherent, Link.apply, LinkAction.Harmless, Option.some.injEq, forall_eq']
  | select c accepted =>
    have hc : ((UInt32.ofInt c).toNat : Int) = c := by
      rw [toNat_ofInt]
      have := ha.1
      have := ha.2
      omega
    cases accepted with
    | true =>
      simp only [Link.Coherent, Link.apply, LinkAction.Harmless, if_true, Option.some.injEq,
        forall_eq', true_or, true_implies]
      rw [hc]
      exact ⟨fun h => h.2, fun h => ⟨rfl, h⟩⟩
    | false =>
      simp only [Link.Coherent, Link.apply, LinkAction.Harmless, Bool.false_eq_true, if_false,
        false_or]
      constructor
      · intro h' hne
        obtain ⟨f, hf⟩ := Option.ne_none_iff_exists'.mp hne
        have h1 := h' f hf
        exact h1.2.trans h1.1.symm
      · intro h' f hf
        have h1 := h f hf
        have h2 := h' (by simp [hf])
        exact ⟨h2.symm.trans h1.2, h1.2⟩

end CspTerm.Radio
