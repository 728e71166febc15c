import CspTerm.Csp.Proofs.RouterProofs
import CspTerm.Server.TaskServer

/-!
# The handlers: how they release their packet

`receive_packet` and `Receive_data` never release it, every other handler does so once.
-/

namespace CspTerm.Server

open CspTerm.Csp

/-! ## Opening the reply connection -/

section Connect

variable {prio : Fin 4} {dest : Fin 32} {dport : Fin 64} {locked : Bool} {s : CspStack}

theorem ephemeralPort_injective : Function.Injective ephemeralPort := fun a b h => by
  have := congrArg Fin.val h
  simp only [ephemeralPort] at this
  omega

/-- Ten connections cannot use up the 32 ephemeral ports. -/
theorem ephemeralPort_unused (s : CspStack) :
    ∃ k, RoundRobin.next
      (fun k => (cspConnFind s fun idin => idin.dport == ephemeralPort k).isNone) s.sport
        = some k := by
  by_contra hnone
  have hused := RoundRobin.next_eq_none_iff.mp
    (Option.eq_none_iff_forall_ne_some.mpr (not_exists.mp hnone))
  have hconn : ∀ k, ∃ i, (s.conns i).idin.dport = ephemeralPort k := by
    intro k
    obtain ⟨i, hi⟩ := Option.isSome_iff_exists.mp (by simpa using hused k)
    have hp := List.find?_some hi
    simp only [Bool.and_eq_true, beq_iff_eq] at hp
    exact ⟨i, hp.2⟩
  choose f hf using hconn
  have hinj : Function.Injective f := fun a b hab =>
    ephemeralPort_injective (by rw [← hf a, ← hf b, hab])
  have hcard := Fintype.card_le_of_injective f hinj
  exact absurd hcard (by decide)

/-- The ways of `csp_connect`: a lock is not obtained, or a port is chosen and a connection is asked
of the pool. -/
theorem cspConnect_cases (prio : Fin 4) (dest : Fin 32) (dport : Fin 64) (locked : Bool)
    (s : CspStack) :
    locked = false ∧ cspConnect prio dest dport locked s = (none, s) ∨
    locked = true ∧ ∃ k : Fin 32,
      match cspConnNew (incomingId s.address prio dest dport k)
        (outgoingId s.address prio dest dport k) { s with sport := k } with
      | none => cspConnect prio dest dport locked s = (none, { s with sport := k })
      | some (i, s') => cspConnect prio dest dport locked s = (some i, s') := by
  cases locked with
  | false => exact .inl ⟨rfl, rfl⟩
  | true =>
    obtain ⟨k, hk⟩ := ephemeralPort_unused s
    refine .inr ⟨rfl, k, ?_⟩
    split
    all_goals
      rename_i hn
      simp [cspConnect, hk, hn]

/-- `csp_connect` fails exactly when it does not get its locks or finds no closed slot. -/
theorem cspConnect_eq_none_iff :
    (cspConnect prio dest dport locked s).1 = none ↔ locked = false ∨ closedSlots s = ∅ := by
  rcases cspConnect_cases prio dest dport locked s with ⟨rfl, he⟩ | ⟨rfl, k, he⟩
  · simp [he]
  · split at he
    all_goals rename_i hn
    · have hfull : closedSlots { s with sport := k } = ∅ := cspConnNew_eq_none_iff.mp hn
      exact ⟨fun _ => .inr hfull, fun _ => by rw [he]⟩
    · have hroom : closedSlots { s with sport := k } ≠ ∅ := fun hfull => by
        rw [cspConnNew_eq_none_iff.mpr hfull] at hn
        cases hn
      rw [he]
      constructor
      · intro h
        cases h
      · rintro (h | h)
        · cases h
        · exact absurd h hroom

end Connect

/-! ## Keeping the pool -/

variable {P : CspId → Prop} {busy : Fin cspConnMax → Prop} {t : Nat} {i : Fin cspConnMax}
  {o : Outcomes} {packet : CspPacket}

/-- The pool is kept, up to the packet that the handler still has to release. -/
def Hand.Kept (P : CspId → Prop) (busy : Fin cspConnMax → Prop) (t : Nat) (h : Hand) : Prop :=
  h.csp.Kept P busy (t + h.uses.length)

@[simp] theorem Hand.uses_free (h : Hand) : h.free.uses.length = h.uses.length + 1 := by
  simp [Hand.free]

@[simp] theorem Hand.uses_sendOrFree (h : Hand) (i : Fin cspConnMax) (taken : Bool) :
    (h.sendOrFree i taken).uses.length = h.uses.length + 1 := by
  unfold Hand.sendOrFree
  split <;> simp

@[simp] theorem Hand.uses_release (h : Hand) (u : BufferUse) :
    (h.release u).uses.length = h.uses.length + 1 := by
  cases u <;> simp [Hand.release]

namespace Hand.Kept

variable {h : Hand}

theorem free (hk : h.Kept P busy t) : h.free.Kept P busy t := by
  have := CspStack.Kept.bufferFree hk
  unfold Hand.Kept
  rwa [Hand.uses_free]

theorem handedOver (hk : h.Kept P busy t) :
    ({ csp := h.csp.handOver, uses := h.uses ++ [.handedOver] } : Hand).Kept P busy t := by
  have := CspStack.Kept.handOver hk
  unfold Hand.Kept
  rwa [List.length_append]

theorem release (hk : h.Kept P busy t) (u : BufferUse) : (h.release u).Kept P busy t := by
  cases u with
  | freed => exact hk.free
  | handedOver => exact hk.handedOver

theorem sendOrFree (hk : h.Kept P busy t) (i : Fin cspConnMax) (taken : Bool) :
    (h.sendOrFree i taken).Kept P busy t := by
  unfold Hand.sendOrFree
  split
  · exact hk.handedOver
  · exact hk.free

end Hand.Kept

/-- The buffers for the task list are taken from the pool and handed over. -/
theorem sendTaskList_kept {chunks : List Bool} {s : CspStack} (h : s.Kept P busy t) :
    (sendTaskList i chunks s).Kept P busy t := by
  induction chunks generalizing s with
  | nil => exact h
  | cons taken rest ih =>
    unfold sendTaskList
    split
    · exact h
    · rename_i hfree
      split
      · refine ih ⟨h.sound.frame rfl rfl (fun _ => id) ?_, h.attended⟩
        simp only [CspStack.handOver]
        omega
      · exact ih h

/-- A failed `csp_connect` leaves the pool as it was, but for the next port. -/
theorem cspConnect_kept {prio : Fin 4} {dest : Fin 32} {dport : Fin 64} {locked : Bool}
    {s s' : CspStack} {conn : Option (Fin cspConnMax)} (h : s.Kept P busy t)
    (hc : cspConnect prio dest dport locked s = (conn, s'))
    (hall : (∀ id, P id) ∧ (∀ i, busy i) ∨ conn = none) : s'.Kept P busy t := by
  rcases cspConnect_cases prio dest dport locked s with ⟨rfl, he⟩ | ⟨rfl, k, he⟩
  · obtain ⟨rfl, rfl⟩ := Prod.mk.inj (hc.symm.trans he)
    exact h
  have hport : ({ s with sport := k } : CspStack).Kept P busy t :=
    ⟨h.sound.frame rfl rfl (fun _ => id) rfl, h.attended⟩
  split at he
  all_goals obtain ⟨rfl, rfl⟩ := Prod.mk.inj (hc.symm.trans he)
  · exact hport
  · rename_i hn
    obtain ⟨hP, hbusy⟩ := hall.resolve_right (by simp)
    have hrdp : (incomingId s.address prio dest dport k).rdp
        = (outgoingId s.address prio dest dport k).rdp := rfl
    exact ⟨(hport.sound.connNew (hP _) hrdp hn).2, fun j _ => .inr (.inl (hbusy j))⟩

/-! ## The handlers -/

theorem replyData_kept {h : Hand} (hk : h.Kept P busy t)
    (hall : (∀ id, P id) ∧ (∀ i, busy i) ∨ o.connect = false ∨ closedSlots h.csp = ∅) :
    (replyData o h).Kept P busy t := by
  unfold replyData
  have hall' : (∀ id, P id) ∧ (∀ i, busy i) ∨
      (cspConnect cspPrioNorm destAddr reDestPort o.connect h.csp).1 = none :=
    hall.imp_right cspConnect_eq_none_iff.mpr
  split
  all_goals
    rename_i hc
    rw [hc] at hall'
    have hcsp := cspConnect_kept hk hc hall'
  · exact Hand.Kept.free hcsp
  · refine Hand.Kept.sendOrFree ?_ _ _
    exact hcsp

theorem cspServiceHandler_kept {h : Hand} (hk : h.Kept P busy t) :
    (cspServiceHandler o i packet h).Kept P busy t := by
  unfold cspServiceHandler
  have hsend := hk.sendOrFree i
  split
  · split
    · exact hsend _
    · exact hk.free
  · exact hsend _
  · split
    · exact hk.free
    · split
      · exact hsend _
      · exact hsend _
      · exact sendTaskList_kept (hsend _)
  · exact hsend _
  · exact hsend _
  · exact hsend _
  · exact hk.free

/-- Whatever the port: the pool is kept, up to a packet that the handler did not release. -/
theorem dispatch_kept {s : CspStack} (h : s.Kept P busy t)
    (hall : (∀ id, P id) ∧ (∀ i, busy i) ∨
      ((s.conns i).idin.dport = rePort → o.connect = false ∨ closedSlots s = ∅)) :
    (dispatch o i packet { csp := s, uses := [] }).2.Kept P busy t := by
  have hk : Hand.Kept P busy t { csp := s, uses := [] } := h
  unfold dispatch
  split
  · unfold receivePacket
    split <;> exact hk
  · split
    · rename_i hport
      exact replyData_kept hk (hall.imp_right fun h => h hport)
    · split
      · exact hk
      · split
        · exact hk.release _
        · split
          · exact hk.release _
          · exact cspServiceHandler_kept hk

/-! ## Releasing the packet -/

theorem replyData_uses (o : Outcomes) (h : Hand) :
    (replyData o h).uses.length = h.uses.length + 1 := by
  unfold replyData
  split <;> simp

theorem cspServiceHandler_uses (o : Outcomes) (i : Fin cspConnMax) (packet : CspPacket) (h : Hand) :
    (cspServiceHandler o i packet h).uses.length = h.uses.length + 1 := by
  unfold cspServiceHandler
  split
  · split <;> simp
  · simp
  · split
    · simp
    · split <;> simp
  all_goals simp

/-- A handler releases its packet once, except on ports 15 and 17, where it never does. -/
theorem dispatch_uses (o : Outcomes) (i : Fin cspConnMax) (packet : CspPacket) (s : CspStack) :
    (dispatch o i packet { csp := s, uses := [] }).2.uses.length
      = if (s.conns i).idin.dport = myPort ∨ (s.conns i).idin.dport = pingRxPort then 0 else 1 := by
  unfold dispatch
  split
  · rename_i hport
    rw [if_pos (.inl hport)]
    unfold receivePacket
    split <;> rfl
  · rename_i hmy
    split
    · rename_i hre
      rw [if_neg (by rw [hre]; decide), replyData_uses]
      rfl
    · split
      · rename_i hping
        rw [if_pos (.inr hping)]
        rfl
      · rename_i hping
        rw [if_neg (not_or.mpr ⟨hmy, hping⟩)]
        split
        · simp
        · split
          · simp
          · simp [cspServiceHandler_uses]

/-- Header values are obtained on port 15, for packets with the right checksum. -/
theorem dispatch_header (o : Outcomes) (i : Fin cspConnMax) (packet : CspPacket) (h : Hand) :
    (dispatch o i packet h).1
      = if (h.csp.conns i).idin.dport = myPort ∧ o.crc = true then
          some (cspConnGetHeaderValues h.csp)
        else none := by
  unfold dispatch
  split
  · rename_i hport
    cases hcrc : o.crc <;> simp [receivePacket, hcrc, hport]
  · rename_i hport
    have hno : ¬((h.csp.conns i).idin.dport = myPort ∧ o.crc = true) := fun hc => hport hc.1
    rw [if_neg hno]
    repeat' split
    all_goals rfl

end CspTerm.Server
