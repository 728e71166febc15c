import Mathlib.Data.List.Basic
import Mathlib.Data.Set.Basic
import Mathlib.Logic.Relation

/-!
# Selective repeat

One direction of a transport that numbers its packets from zero. The sender has a queue of packets
that it may have to send again; the receiver passes packets on in their order and keeps early ones.
What arrives is what was sent under that number, and acknowledgements are true when they are sent,
but both may be lost, repeated and as old as they like.

`lossy` says whether the receiver may skip a packet that it has no place for.
-/

namespace SelectiveRepeat

variable {α : Type*} {w : Nat} {lossy : Prop}

structure State (α : Type*) where
  sent : List α
  /-- The packets below this number are acknowledged, as far as the sender knows. -/
  una : Nat
  /-- The numbers of the packets that the sender keeps. -/
  queue : Set Nat
  /-- The number of the packet that the receiver waits for. -/
  next : Nat
  /-- The numbers of the packets that came too early. -/
  early : Set Nat
  passed : List α
  /-- Neither side has given up. -/
  alive : Prop

/-- The receiver has the packet, or had it. -/
def State.Received (s : State α) (n : Nat) : Prop := n < s.next ∨ n ∈ s.early

inductive Step (w : Nat) (lossy : Prop) : State α → State α → Prop
  | send (s : State α) (x : α) (h : s.sent.length ≤ s.una + w) :
    Step w lossy s { s with sent := s.sent ++ [x], queue := insert s.sent.length s.queue }
  /-- An acknowledgement of the packets below `a`, be it new or old. -/
  | ack (s : State α) (a : Nat) (h : a ≤ s.next) : Step w lossy s { s with una := a }
  | drop (s : State α) (queue : Set Nat)
      (h : s.alive → ∀ n ∈ s.queue, n ∈ queue ∨ s.Received n) :
    Step w lossy s { s with queue := queue }
  | keep (s : State α) (n : Nat) (hn : s.next < n) (hlt : n < s.sent.length) :
    Step w lossy s { s with early := insert n s.early }
  | pass (s : State α) (x : α) (h : s.sent[s.next]? = some x) :
    Step w lossy s
      { s with next := s.next + 1, early := s.early \ {s.next}, passed := s.passed ++ [x] }
  | skip (s : State α) (hlossy : lossy) (h : s.next < s.sent.length) :
    Step w lossy s { s with next := s.next + 1, early := s.early \ {s.next} }
  /-- A side gives up, and with that what it keeps. -/
  | quit (s : State α) (queue early : Set Nat) (h : early ⊆ s.early) :
    Step w lossy s { s with queue := queue, early := early, alive := False }

/-- Any number of steps. -/
def Moves (w : Nat) (lossy : Prop) : State α → State α → Prop :=
  Relation.ReflTransGen (Step w lossy)

/-- What holds in all states. -/
structure Inv (w : Nat) (lossy : Prop) (s : State α) : Prop where
  una_le : s.una ≤ s.next
  next_le : s.next ≤ s.sent.length
  window : s.sent.length ≤ s.next + w + 1
  early : ∀ n ∈ s.early, s.next ≤ n ∧ n < s.sent.length
  /-- Nothing is passed on twice, changed or out of order. -/
  sublist : s.passed.Sublist (s.sent.take s.next)
  /-- Without loss, nothing is left out. -/
  passed : ¬ lossy → s.passed = s.sent.take s.next
  /-- What is not passed on yet is still with one of the sides. -/
  held : s.alive → ∀ n, s.next ≤ n → n < s.sent.length → n ∈ s.queue ∨ n ∈ s.early

/-- Nothing was sent yet. -/
theorem Inv.initial {s : State α} (hsent : s.sent = []) (huna : s.una = 0) (hnext : s.next = 0)
    (hearly : s.early = ∅) (hpassed : s.passed = []) : Inv w lossy s := by
  refine ⟨?_, ?_, ?_, ?_, ?_, ?_, ?_⟩
  · rw [huna, hnext]
  · rw [hnext]
    exact Nat.zero_le _
  · rw [hsent]
    exact Nat.zero_le _
  · rw [hearly]
    exact fun _ hn => hn.elim
  · rw [hpassed]
    exact List.nil_sublist _
  · intro _
    rw [hpassed, hsent, List.take_nil]
  · intro _ n _ hn
    rw [hsent] at hn
    cases hn

theorem Step.mono {lossy' : Prop} (h : lossy → lossy') {s s' : State α} (hs : Step w lossy s s') :
    Step w lossy' s s' := by
  cases hs with
  | send x hx => exact .send s x hx
  | ack a ha => exact .ack s a ha
  | drop queue hqueue => exact .drop s queue hqueue
  | keep n hn hlt => exact .keep s n hn hlt
  | pass x hx => exact .pass s x hx
  | skip hlossy hlt => exact .skip s (h hlossy) hlt
  | quit queue early hearly => exact .quit s queue early hearly

theorem Moves.mono {lossy' : Prop} (h : lossy → lossy') {s s' : State α} (hs : Moves w lossy s s') :
    Moves w lossy' s s' := by
  induction hs with
  | refl => exact .refl
  | tail _ hstep ih => exact ih.tail (hstep.mono h)

theorem take_succ_of_getElem? {l : List α} {n : Nat} {x : α} (h : l[n]? = some x) :
    l.take (n + 1) = l.take n ++ [x] := by
  rw [List.take_add_one, h]
  rfl

/-- **One step** keeps the invariant. -/
theorem Inv.step {s s' : State α} (hs : Inv w lossy s) (h : Step w lossy s s') : Inv w lossy s' := by
  obtain ⟨huna, hnext, hwindow, hearly, hsub, hpassed, hheld⟩ := hs
  cases h with
  | send x hx =>
    have hlen : (s.sent ++ [x]).length = s.sent.length + 1 := by
      rw [List.length_append, List.length_singleton]
    have htake : (s.sent ++ [x]).take s.next = s.sent.take s.next :=
      List.take_append_of_le_length hnext
    refine ⟨huna, ?_, ?_, ?_, ?_, ?_, ?_⟩ <;> dsimp only <;> try rw [hlen]
    · omega
    · omega
    · intro n hn
      have := hearly n hn
      omega
    · rw [htake]
      exact hsub
    · rw [htake]
      exact hpassed
    · intro halive n hge hlt
      by_cases hn : n = s.sent.length
      · exact .inl (.inl hn)
      · rcases hheld halive n hge (by omega) with h | h
        · exact .inl (.inr h)
        · exact .inr h
  | ack a ha => exact ⟨ha, hnext, hwindow, hearly, hsub, hpassed, hheld⟩
  | drop queue hqueue =>
    refine ⟨huna, hnext, hwindow, hearly, hsub, hpassed, ?_⟩
    intro halive n hge hlt
    rcases hheld halive n hge hlt with h | h
    · rcases hqueue halive n h with hin | hbelow | hin
      · exact .inl hin
      · exact absurd hbelow (Nat.not_lt.mpr hge)
      · exact .inr hin
    · exact .inr h
  | keep n hn hlt =>
    refine ⟨huna, hnext, hwindow, ?_, hsub, hpassed, ?_⟩
    · rintro m (rfl | hm)
      · exact ⟨hn.le, hlt⟩
      · exact hearly m hm
    · intro halive m hge hlt
      exact (hheld halive m hge hlt).imp_right .inr
  | pass x hx =>
    have hlt : s.next < s.sent.length := (List.getElem?_eq_some_iff.mp hx).1
    have htake := take_succ_of_getElem? hx
    refine ⟨huna.trans (Nat.le_succ _), hlt, by dsimp only; omega, ?_, ?_, ?_, ?_⟩
    · rintro n ⟨hn, hne⟩
      have := hearly n hn
      have hne : n ≠ s.next := hne
      dsimp only
      omega
    · dsimp only
      rw [htake]
      exact hsub.append_right _
    · intro hloss
      dsimp only
      rw [htake, hpassed hloss]
    · intro halive n hge hlt
      dsimp only at hge
      refine (hheld halive n (by omega) hlt).imp_right fun h => ⟨h, ?_⟩
      exact fun hn : n = s.next => by omega
  | skip hlossy hlt =>
    refine ⟨huna.trans (Nat.le_succ _), hlt, by dsimp only; omega, ?_, ?_, ?_, ?_⟩
    · rintro n ⟨hn, hne⟩
      have := hearly n hn
      have hne : n ≠ s.next := hne
      dsimp only
      omega
    · exact hsub.trans (List.take_sublist_take_left (Nat.le_succ _))
    · exact fun hloss => absurd hlossy hloss
    · intro halive n hge hlt
      dsimp only at hge
      refine (hheld halive n (by omega) hlt).imp_right fun h => ⟨h, ?_⟩
      exact fun hn : n = s.next => by omega
  | quit queue early hsubset =>
    exact ⟨huna, hnext, hwindow, fun n hn => hearly n (hsubset hn), hsub, hpassed, False.elim⟩

theorem Inv.moves {s s' : State α} (hs : Inv w lossy s) (h : Moves w lossy s s') : Inv w lossy s' := by
  induction h with
  | refl => exact hs
  | tail _ hstep ih => exact ih.step hstep

theorem Step.alive {s s' : State α} (h : Step w lossy s s') (halive : s'.alive) : s.alive := by
  cases h with
  | quit => exact halive.elim
  | _ => exact halive

theorem Moves.alive {s s' : State α} (h : Moves w lossy s s') (halive : s'.alive) : s.alive := by
  induction h with
  | refl => exact halive
  | tail _ hstep ih => exact ih (hstep.alive halive)

/-- Received packets stay received. -/
theorem Step.received {s s' : State α} (h : Step w lossy s s') (halive : s'.alive) {n : Nat}
    (hn : s.Received n) : s'.Received n := by
  have hmove : ∀ early, early = s.early \ {s.next} → n < s.next + 1 ∨ n ∈ early := by
    rintro early rfl
    rcases hn with hlt | hin
    · exact .inl (by omega)
    · by_cases heq : n = s.next
      · exact .inl (by omega)
      · exact .inr ⟨hin, heq⟩
  cases h with
  | send => exact hn
  | ack => exact hn
  | drop => exact hn
  | keep => exact hn.imp_right .inr
  | pass => exact hmove _ rfl
  | skip => exact hmove _ rfl
  | quit => exact halive.elim

theorem Moves.received {s s' : State α} (h : Moves w lossy s s') (halive : s'.alive) {n : Nat}
    (hn : s.Received n) : s'.Received n := by
  induction h with
  | refl => exact hn
  | tail _ hstep ih => exact hstep.received halive (ih (hstep.alive halive))

theorem Step.next_le {s s' : State α} (h : Step w lossy s s') : s.next ≤ s'.next := by
  cases h with
  | pass => exact Nat.le_succ _
  | skip => exact Nat.le_succ _
  | _ => exact le_rfl

theorem Moves.next_le {s s' : State α} (h : Moves w lossy s s') : s.next ≤ s'.next := by
  induction h with
  | refl => exact le_rfl
  | tail _ hstep ih => exact ih.trans hstep.next_le

theorem Step.sent_prefix {s s' : State α} (h : Step w lossy s s') : s.sent <+: s'.sent := by
  cases h with
  | send x => exact ⟨[x], rfl⟩
  | _ => exact List.prefix_rfl

theorem Moves.sent_prefix {s s' : State α} (h : Moves w lossy s s') : s.sent <+: s'.sent := by
  induction h with
  | refl => exact List.prefix_rfl
  | tail _ hstep ih => exact ih.trans hstep.sent_prefix

end SelectiveRepeat
