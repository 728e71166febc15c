import CspTerm.Csp.Qfifo

/-!
# What the way into the router loses

The packets of one priority reach the router in their order. An event that finds no room is lost
though its packet is not, and from then on a packet waits for ever.
-/

namespace CspTerm.Csp

variable {ι : Type} {s : Qfifo ι}

/-! ## The packets that wait -/

theorem setFifo_self (p : Fin cspRouteFifos) (l : List (QfifoElement ι)) :
    (s.setFifo p l).fifos p = l :=
  if_pos rfl

theorem setFifo_of_ne {p p' : Fin cspRouteFifos} (h : p' ≠ p) (l : List (QfifoElement ι)) :
    (s.setFifo p l).fifos p' = s.fifos p' :=
  if_neg h

theorem waiting_eq (n : Nat) :
    s.waiting n = ∑ p : Fin cspRouteFifos, if n ≤ p.val then (s.fifos p).length else 0 :=
  (Fin.sum_univ_def _).symm

/-- With another queue in the place of one, the number changes by the difference of the two. -/
theorem waiting_setFifo (p : Fin cspRouteFifos) (l : List (QfifoElement ι)) (n : Nat) :
    (s.setFifo p l).waiting n + (if n ≤ p.val then (s.fifos p).length else 0)
      = s.waiting n + (if n ≤ p.val then l.length else 0) := by
  have hrest : ∀ p' ∈ Finset.univ.erase p,
      (if n ≤ p'.val then ((s.setFifo p l).fifos p').length else 0)
        = if n ≤ p'.val then (s.fifos p').length else 0 := by
    intro p' hp'
    rw [setFifo_of_ne (Finset.ne_of_mem_erase hp')]
  rw [waiting_eq, waiting_eq, ← Finset.add_sum_erase _ _ (Finset.mem_univ p),
    ← Finset.add_sum_erase _ _ (Finset.mem_univ p), Finset.sum_congr rfl hrest, setFifo_self]
  omega

theorem waiting_push (p : Fin cspRouteFifos) (e : QfifoElement ι) (n : Nat) :
    (s.setFifo p (s.fifos p ++ [e])).waiting n = s.waiting n + if n ≤ p.val then 1 else 0 := by
  have hchange := waiting_setFifo (s := s) p (s.fifos p ++ [e]) n
  rw [List.length_append, List.length_singleton] at hchange
  by_cases hn : n ≤ p.val
  · rw [if_pos hn, if_pos hn] at hchange
    rw [if_pos hn]
    omega
  · rw [if_neg hn, if_neg hn] at hchange
    rwa [if_neg hn]

theorem waiting_pop {p : Fin cspRouteFifos} {e : QfifoElement ι} {rest : List (QfifoElement ι)}
    (h : s.fifos p = e :: rest) : (s.setFifo p rest).waiting 0 + 1 = s.waiting 0 := by
  have hchange := waiting_setFifo (s := s) p rest 0
  rw [h, List.length_cons, if_pos (Nat.zero_le _), if_pos (Nat.zero_le _)] at hchange
  omega

theorem waiting_succ {prio : Nat} (h : prio < cspRouteFifos) (hnil : s.fifos ⟨prio, h⟩ = []) :
    s.waiting (prio + 1) = s.waiting prio := by
  rw [waiting_eq, waiting_eq]
  refine Finset.sum_congr rfl fun p _ => ?_
  by_cases hp : p.val = prio
  · rw [if_neg (by omega), if_pos (by omega), Fin.ext (b := ⟨prio, h⟩) hp, hnil, List.length_nil]
  · exact if_congr (by omega) rfl rfl

theorem waiting_of_le {n : Nat} (h : cspRouteFifos ≤ n) : s.waiting n = 0 := by
  rw [waiting_eq]
  exact Finset.sum_eq_zero fun p _ => if_neg (Nat.not_le.mpr (p.isLt.trans_le h))

/-! ## What the router gets -/

/-- Of each priority, what was accepted is what the router got and then what waits. -/
structure Qfifo.Ordered (s : Qfifo ι) : Prop where
  accepted : ∀ p, s.accepted.filter (fun e => e.fifo = p)
    = s.handed.filter (fun e => e.fifo = p) ++ s.fifos p
  fifo : ∀ p, ∀ e ∈ s.fifos p, e.fifo = p
  room : ∀ p, (s.fifos p).length ≤ cspFifoInput

theorem Qfifo.Ordered.write (h : s.Ordered) (e : QfifoElement ι) : (s.write e).Ordered := by
  rw [Qfifo.write]
  split
  · next hroom =>
    refine ⟨fun p => ?_, fun p e' he' => ?_, fun p => ?_⟩
    · show (s.accepted ++ [e]).filter _ = s.handed.filter _ ++ _
      rw [List.filter_append, h.accepted p]
      by_cases hp : p = e.fifo
      · rw [hp, setFifo_self, List.append_assoc, List.filter_cons_of_pos (by simp), List.filter_nil]
      · rw [setFifo_of_ne hp, List.filter_cons_of_neg (by simpa using Ne.symm hp), List.filter_nil,
          List.append_nil]
    · by_cases hp : p = e.fifo
      · rw [hp, setFifo_self] at he'
        rcases List.mem_append.mp he' with hold | hnew
        · exact hp ▸ h.fifo e.fifo e' hold
        · rw [List.mem_singleton.mp hnew, hp]
      · rw [setFifo_of_ne hp] at he'
        exact h.fifo p e' he'
    · by_cases hp : p = e.fifo
      · rw [hp, setFifo_self, List.length_append, List.length_singleton]
        exact hroom
      · rw [setFifo_of_ne hp]
        exact h.room p
  · exact ⟨h.accepted, h.fifo, h.room⟩

theorem Qfifo.Ordered.look (h : s.Ordered) (prio : Nat) : (s.look prio).Ordered := by
  rw [Qfifo.look]
  split
  · next hprio =>
    split
    · exact ⟨h.accepted, h.fifo, h.room⟩
    · next e rest hfifo =>
      have he : e.fifo = ⟨prio, hprio⟩ := h.fifo _ e (by simp [hfifo])
      refine ⟨fun p => ?_, fun p e' he' => ?_, fun p => ?_⟩
      · show s.accepted.filter _ = (s.handed ++ [e]).filter _ ++ _
        rw [List.filter_append, h.accepted p]
        by_cases hp : p = ⟨prio, hprio⟩
        · rw [hp, setFifo_self, List.filter_cons_of_pos (by simp [he]), List.filter_nil, hfifo,
            List.append_assoc]
          rfl
        · rw [setFifo_of_ne hp, List.filter_cons_of_neg (by simpa [he] using Ne.symm hp),
            List.filter_nil, List.append_nil]
      · by_cases hp : p = ⟨prio, hprio⟩
        · rw [hp, setFifo_self] at he'
          exact hp ▸ h.fifo _ e' (hfifo ▸ List.mem_cons_of_mem e he')
        · rw [setFifo_of_ne hp] at he'
          exact h.fifo p e' he'
      · by_cases hp : p = ⟨prio, hprio⟩
        · have hroom := h.room ⟨prio, hprio⟩
          rw [hfifo, List.length_cons] at hroom
          rw [hp, setFifo_self]
          exact Nat.le_of_succ_le hroom
        · rw [setFifo_of_ne hp]
          exact h.room p
  · exact ⟨h.accepted, h.fifo, h.room⟩

/-- **One step keeps the order.** -/
theorem Qfifo.Ordered.step (h : s.Ordered) (event : QfifoEvent ι) : (s.step event).Ordered := by
  cases event with
  | write e => exact h.write e
  | notify =>
    rw [Qfifo.step]
    split
    · exact h
    · split <;> exact ⟨h.accepted, h.fifo, h.room⟩
  | take =>
    rw [Qfifo.step]
    split
    · exact ⟨h.accepted, h.fifo, h.room⟩
    · exact h
  | look =>
    rw [Qfifo.step]
    split
    · exact h
    · exact h.look _

/-! ## What the events say -/

/-- An event that was taken and whose packet was not found yet. -/
def Qfifo.taken (s : Qfifo ι) : Nat := if s.prio = none then 0 else 1

/-- Each packet that waits has an event, or its event was lost. -/
structure Qfifo.Balanced (s : Qfifo ι) : Prop where
  waiting : s.waiting 0 = s.events + s.notifying + s.taken + s.lost
  /-- The packet that the router looks for is not in the queues where it looked already. -/
  ahead : ∀ prio, s.prio = some prio → 0 < s.waiting prio
  spurious : s.spurious = 0

theorem Qfifo.Balanced.write (h : s.Balanced) (e : QfifoElement ι) : (s.write e).Balanced := by
  have hwaiting := h.waiting
  rw [Qfifo.write]
  split
  · refine ⟨?_, fun prio hprio => ?_, h.spurious⟩
    · show (s.setFifo e.fifo (s.fifos e.fifo ++ [e])).waiting 0
        = s.events + (s.notifying + 1) + s.taken + s.lost
      rw [waiting_push, if_pos (Nat.zero_le _)]
      omega
    · show 0 < (s.setFifo e.fifo (s.fifos e.fifo ++ [e])).waiting prio
      rw [waiting_push]
      exact Nat.add_pos_left (h.ahead prio hprio) _
  · exact ⟨h.waiting, h.ahead, h.spurious⟩

theorem Qfifo.Balanced.look (h : s.Balanced) {prio : Nat} (hprio : s.prio = some prio) :
    (s.look prio).Balanced := by
  have hwaiting := h.waiting
  have hahead := h.ahead prio hprio
  have htaken : s.taken = 1 := by rw [Qfifo.taken, hprio]; rfl
  rw [Qfifo.look]
  split
  · next hlt =>
    split
    · next hnil =>
      refine ⟨?_, ?_, h.spurious⟩
      · exact hwaiting.trans (by rw [htaken]; rfl)
      · rintro prio' ⟨⟩
        exact hahead.trans_eq (waiting_succ hlt hnil).symm
    · next e rest hfifo =>
      refine ⟨?_, nofun, h.spurious⟩
      have hless := waiting_pop hfifo
      show (s.setFifo ⟨prio, hlt⟩ rest).waiting 0 = s.events + s.notifying + 0 + s.lost
      omega
  · next hge => exact absurd (waiting_of_le (Nat.not_lt.mp hge)) hahead.ne'

/-- **One step keeps the balance.** -/
theorem Qfifo.Balanced.step (h : s.Balanced) (event : QfifoEvent ι) :
    (s.step event).Balanced := by
  have hwaiting := h.waiting
  cases event with
  | write e => exact h.write e
  | notify =>
    rw [Qfifo.step]
    split
    · exact h
    · next hsome =>
      split
      · exact ⟨hwaiting.trans (show _ = s.events + 1 + (s.notifying - 1) + s.taken + s.lost by omega),
          h.ahead, h.spurious⟩
      · exact ⟨hwaiting.trans (show _ = s.events + (s.notifying - 1) + s.taken + (s.lost + 1) by omega),
          h.ahead, h.spurious⟩
  | take =>
    rw [Qfifo.step]
    split
    · next hevent =>
      have htaken : s.taken = 0 := if_pos hevent.1
      refine ⟨?_, ?_, h.spurious⟩
      · show s.waiting 0 = s.events - 1 + s.notifying + 1 + s.lost
        omega
      · rintro prio ⟨⟩
        show 0 < s.waiting 0
        omega
    · exact h
  | look =>
    rw [Qfifo.step]
    split
    · exact h
    · next hprio => exact h.look hprio

/-- An event stays lost, and only a full queue of events loses one. -/
theorem lost_step (s : Qfifo ι) (event : QfifoEvent ι) :
    (s.step event).lost = s.lost ∨
      (s.step event).lost = s.lost + 1 ∧ s.notifying ≠ 0 ∧ cspFifoInput ≤ s.events := by
  cases event with
  | write e =>
    rw [Qfifo.step, Qfifo.write]
    split <;> exact Or.inl rfl
  | notify =>
    rw [Qfifo.step]
    split
    · exact Or.inl rfl
    · next hsome =>
      split
      · exact Or.inl rfl
      · next hfull => exact Or.inr ⟨rfl, hsome, Nat.not_lt.mp hfull⟩
  | take =>
    rw [Qfifo.step]
    split <;> exact Or.inl rfl
  | look =>
    rw [Qfifo.step]
    split
    · exact Or.inl rfl
    · rw [Qfifo.look]
      split
      · split <;> exact Or.inl rfl
      · exact Or.inl rfl

theorem lost_le_foldl (s : Qfifo ι) (events : List (QfifoEvent ι)) :
    s.lost ≤ (events.foldl Qfifo.step s).lost := by
  induction events generalizing s with
  | nil => exact Nat.le_refl _
  | cons event events ih =>
    rcases lost_step s event with hsame | ⟨hmore, -, -⟩
    · exact hsame ▸ ih (s.step event)
    · have hrest := ih (s.step event)
      rw [List.foldl_cons]
      omega

/-! ## Runs -/

theorem balanced_foldl (events : List (QfifoEvent ι)) :
    (events.foldl Qfifo.step (.initial : Qfifo ι)).Balanced := by
  have hinitial : (Qfifo.initial : Qfifo ι).Balanced := ⟨rfl, nofun, rfl⟩
  exact Run.foldl_inv (P := fun _ _ => True) (fun _ event h _ => h.step event) hinitial
    (Run.guarded_of_forall fun _ _ => trivial)

/-- **Packets of one priority stay in order.** In every run of any threads, of the packets with one
priority that were accepted, the router got the first ones in their order, and the rest of them wait. -/
theorem qfifo_in_order (events : List (QfifoEvent ι)) :
    (events.foldl Qfifo.step (.initial : Qfifo ι)).Ordered := by
  have hinitial : (Qfifo.initial : Qfifo ι).Ordered := ⟨fun _ => rfl, nofun, fun _ => Nat.zero_le _⟩
  exact Run.foldl_inv (P := fun _ _ => True) (fun _ event h _ => h.step event) hinitial
    (Run.guarded_of_forall fun _ _ => trivial)

/-- **A lost event strands a packet.** In every run, each packet that waits has an event that is in the
queue, on its way, or taken, except for as many packets as events were lost. So from the time at which
an event is lost on, the queues are never empty again, even while the router waits for an event; and
the router never looks for a packet in vain. -/
theorem qfifo_stranded (events later : List (QfifoEvent ι)) :
    let s := events.foldl Qfifo.step (.initial : Qfifo ι)
    let s' := later.foldl Qfifo.step s
    s.waiting 0 = s.events + s.notifying + s.taken + s.lost ∧ s.lost ≤ s'.waiting 0 ∧
      s'.spurious = 0 := by
  intro s s'
  have hs : s.Balanced := balanced_foldl events
  have hs' : s'.Balanced := by
    have happend := balanced_foldl (events ++ later)
    rwa [List.foldl_append] at happend
  have hlost : s.lost ≤ s'.lost := lost_le_foldl s later
  have hwaiting := hs'.waiting
  exact ⟨hs.waiting, by omega, hs'.spurious⟩

/-- With 51 packets in each of two queues, two packets are stranded. -/
example :
    let e (p : Fin cspRouteFifos) : QfifoElement Unit :=
      ⟨(), { CspPacket.zero with id := { CspId.zero with pri := p } }⟩
    let events := (List.replicate 51 [.write (e 0), .notify, .write (e 1), .notify]).flatten
    (events.foldl Qfifo.step (.initial : Qfifo Unit)).lost = 2 := by
  decide +kernel

/-- **No event is lost** as long as no more than a hundred packets wait at once. -/
theorem qfifo_nothing_lost {events : List (QfifoEvent ι)}
    (h : Run.Guarded Qfifo.step (fun s _ => s.waiting 0 ≤ cspFifoInput) (.initial : Qfifo ι) events) :
    (events.foldl Qfifo.step (.initial : Qfifo ι)).lost = 0 := by
  have hinitial : (Qfifo.initial : Qfifo ι).Balanced := ⟨rfl, nofun, rfl⟩
  refine (Run.foldl_inv (I := fun s => s.Balanced ∧ s.lost = 0) ?_ ⟨hinitial, rfl⟩ h).2
  rintro s event ⟨hs, hlost⟩ hroom
  refine ⟨hs.step event, ?_⟩
  rcases lost_step s event with hsame | ⟨-, hsome, hfull⟩
  · exact hsame.trans hlost
  · have hwaiting := hs.waiting
    omega

end CspTerm.Csp
