import CspTerm.Csp.Proofs.ConnProofs

/-!
# The router: what every call keeps

The packet in the router's hands ends in the accounts, whatever happens to it, and every connection
that the router opens is attended to.
-/

namespace CspTerm.Csp

/-- The pool is sound, and the tasks that are `busy` with connections attend to all of them. -/
structure CspStack.Kept (P : CspId → Prop) (busy : Fin cspConnMax → Prop) (t : Nat)
    (s : CspStack) : Prop where
  sound : s.Sound P t
  attended : s.Attended busy

variable {P : CspId → Prop} {busy : Fin cspConnMax → Prop} {t : Nat} {s s' : CspStack}
  {i : Fin cspConnMax}

theorem cspConnEnqueuePacket_eq {packet : Option CspPacket}
    (h : cspConnEnqueuePacket s i packet = some s') :
    ∃ r, s' = s.setConn i { s.conns i with rxQueue := r } := by
  obtain ⟨r, -, rfl⟩ := Option.map_eq_some_iff.mp h
  exact ⟨r, rfl⟩

@[simp] theorem setRdpState_conns_self (r : RdpState) :
    (s.setRdpState i r).conns i = { s.conns i with rdpState := r } := setConn_conns_self

/-- A connection found by the router is open, and it is not the server's socket. -/
theorem cspConnFind_eq {test : CspId → Bool} (h : cspConnFind s test = some i) :
    (s.conns i).state = .open ∧ (s.conns i).type = .client := by
  have hp := List.find?_some h
  simp only [Bool.and_eq_true, bne_iff_ne, ne_eq, beq_iff_eq] at hp
  refine ⟨?_, hp.1.2⟩
  cases hst : (s.conns i).state with
  | closed => exact absurd hst hp.1.1
  | «open» => rfl

namespace CspStack.Kept

theorem bufferFree (h : s.Kept P busy t) : (cspBufferFree s).Kept P busy (t + 1) :=
  ⟨h.sound.bufferFree, h.attended⟩

theorem handOver (h : s.Kept P busy t) : s.handOver.Kept P busy (t + 1) :=
  ⟨h.sound.handOver, h.attended⟩

theorem takeOver (h : s.Kept P busy t) (hn : 0 < s.network) :
    ∃ n, t = n + 1 ∧ s.takeOver.Kept P busy n := by
  have hacc := h.sound.account
  simp only [accounted] at hacc
  refine ⟨t - 1, by omega, h.sound.frame rfl rfl (fun _ => id) ?_, h.attended⟩
  simp only [CspStack.takeOver]
  omega

theorem close (h : s.Kept P busy t) (hi : i ≠ listener) : (cspClose s i).Kept P busy t :=
  ⟨h.sound.close hi, h.attended.close (fun _ _ => id) (h.sound.rdp_eq i)⟩

theorem setRdpState {r : RdpState} (h : s.Kept P busy t) (hi : i ≠ listener)
    (hr : (s.conns i).rdpState = .closeWait → r = .closeWait) :
    (s.setRdpState i r).Kept P busy t := by
  refine ⟨h.sound.setConn hi rfl rfl rfl id, h.attended.setConn id fun hw => ⟨hw.1, ?_⟩⟩
  exact hw.2.imp id hr

theorem enqueue {packet : Option CspPacket} (h : s.Kept P busy t) (hi : i ≠ listener)
    (hopen : (s.conns i).state = .open) (he : cspConnEnqueuePacket s i packet = some s') :
    s'.Kept P busy (t + packet.toList.length) := by
  refine ⟨h.sound.enqueue hi hopen he, ?_⟩
  obtain ⟨r, rfl⟩ := cspConnEnqueuePacket_eq he
  exact h.attended.setConn id id

theorem post (h : s.Kept P (fun j => busy j ∨ j = i) t) (hi : i ≠ listener)
    (hp : postToSocket s i = some s') : s'.Kept P busy t := by
  refine ⟨h.sound.post hi hp, ?_⟩
  obtain rfl := postToSocket_eq hp
  refine h.attended.update rfl (fun j hj => List.mem_append_left _ hj) (fun _ => ?_) fun j hj hb => ?_
  · exact .inr (.inr (.inl (by simp)))
  · exact hb.resolve_right hj

theorem or_self (h : s.Kept P busy t) : s.Kept P (fun j => busy j ∨ j = i) t :=
  ⟨h.sound, h.attended.mono fun _ => .inl⟩

theorem accept (h : s.Kept P busy t) (ha : cspAccept s = some (i, s')) :
    i ≠ listener ∧ s'.Kept P (fun j => busy j ∨ j = i) t := by
  obtain ⟨hi, hs⟩ := h.sound.accept ha
  refine ⟨hi, hs, ?_⟩
  intro j hj
  obtain ⟨rest, hb, rfl⟩ := cspAccept_eq ha
  rcases h.attended j hj with h | h | h | h
  · exact .inl h
  · exact .inr (.inl (.inl h))
  · rw [hb] at h
    rcases List.mem_cons.mp h with rfl | h
    · exact .inr (.inl (.inr rfl))
    · exact .inr (.inr (.inl h))
  · exact .inr (.inr (.inr h))

theorem read {packet : Option CspPacket} (h : s.Kept P busy t) (hi : i ≠ listener)
    (hr : cspRead s i = (packet, s')) :
    ∃ n, t = n + packet.toList.length ∧ s'.Kept P busy n := by
  obtain ⟨n, hn, hs⟩ := h.sound.read hi hr
  refine ⟨n, hn, hs, ?_⟩
  rcases cspRead_cases hr with ⟨-, rfl⟩ | ⟨-, r, -, rfl⟩
  · exact h.attended
  · exact h.attended.setConn id id

theorem udpNewPacket (h : s.Kept P busy t) (hi : i ≠ listener) (hopen : (s.conns i).state = .open)
    (packet : CspPacket) : (cspUdpNewPacket s i packet).Kept P busy (t + 1) := by
  unfold cspUdpNewPacket
  split
  · exact h.bufferFree
  · rename_i s1 he
    have h1 : s1.Kept P busy (t + 1) := h.enqueue hi hopen he
    split
    · cases hp : postToSocket s1 i with
      | none => exact h1.close hi
      | some s2 => exact h1.or_self.post hi hp
    · exact h1

/-- The first packet of a new connection: there is room for it, and the connection is posted to the
socket, or closed if the accept queue is full. -/
theorem udpNewPacket_fresh (h : s.Kept P (fun j => busy j ∨ j = i) t) (hi : i ≠ listener)
    (hopen : (s.conns i).state = .open) (hsock : (s.conns i).socket = true)
    (hrx : (s.conns i).rxQueue = .empty) (packet : CspPacket) :
    (cspUdpNewPacket s i packet).Kept P busy (t + 1) := by
  obtain ⟨r, hr⟩ := Option.isSome_iff_exists.mp (RxQueues.enqueue_empty (some packet))
  have he : cspConnEnqueuePacket s i (some packet)
      = some (s.setConn i { s.conns i with rxQueue := r }) := by
    simp [cspConnEnqueuePacket, hrx, hr]
  have h1 := h.enqueue hi hopen he
  have hsock1 : ((s.setConn i { s.conns i with rxQueue := r }).conns i).socket = true := by
    rw [setConn_conns_self]; exact hsock
  simp only [cspUdpNewPacket, he, hsock1, if_true]
  cases hp : postToSocket (s.setConn i { s.conns i with rxQueue := r }) i with
  | none =>
    exact ⟨h1.sound.close hi,
      h1.attended.close (fun j hj hb => hb.resolve_right hj) (h1.sound.rdp_eq i)⟩
  | some s2 => exact h1.post hi hp

theorem rdpReceiveData {ok : Bool} (h : s.Kept P busy t) (hi : i ≠ listener)
    (hopen : (s.conns i).state = .open) {packet : CspPacket}
    (hr : cspRdpReceiveData s i packet = (s', ok)) :
    s'.Kept P busy (if ok then t + 1 else t) := by
  have hpost : ∀ s1, (if (s.conns i).socket then postToSocket s i else some s) = some s1 →
      s1.Kept P busy t ∧ (s1.conns i).state = .open := by
    intro s1 hs1
    split at hs1
    · refine ⟨h.or_self.post hi hs1, ?_⟩
      rw [postToSocket_eq hs1]
      exact (congrArg CspConn.state setConn_conns_self).trans hopen
    · obtain rfl := Option.some.inj hs1
      exact ⟨h, hopen⟩
  unfold cspRdpReceiveData at hr
  split at hr
  · obtain ⟨rfl, rfl⟩ := Prod.mk.inj hr
    exact h
  · rename_i s1 hs1
    obtain ⟨h1, hopen1⟩ := hpost s1 hs1
    split at hr <;> obtain ⟨rfl, rfl⟩ := Prod.mk.inj hr
    · exact h1
    · rename_i he
      exact h1.enqueue hi hopen1 he

theorem rdpDiscardClose (h : s.Kept P busy t) (hi : i ≠ listener)
    (hopen : (s.conns i).state = .open) : (rdpDiscardClose s i).Kept P busy (t + 1) := by
  unfold Csp.rdpDiscardClose
  refine bufferFree ?_
  split
  · exact h.close hi
  · cases he : cspConnEnqueuePacket s i none with
    | none => exact h
    | some s1 => exact h.enqueue hi hopen he

theorem rdpOpenPacket (h : s.Kept P busy t) (hi : i ≠ listener)
    (hopen : (s.conns i).state = .open) (hr : (s.conns i).rdpState ≠ .closeWait)
    (packet : CspPacket) (v : RdpVerdict) : (rdpOpenPacket s i packet v).Kept P busy (t + 1) := by
  have hset : (s.setRdpState i .open).Kept P busy t := h.setRdpState hi fun hc => absurd hc hr
  unfold Csp.rdpOpenPacket
  split
  · exact h.rdpDiscardClose hi hopen
  · exact hset.bufferFree
  · exact hset.handOver
  · have hopen' : ((s.setRdpState i .open).conns i).state = .open := by simpa using hopen
    split
    all_goals rename_i hd
    · exact hset.rdpReceiveData hi hopen' hd
    · exact bufferFree (hset.rdpReceiveData hi hopen' hd)
  · exact h.bufferFree

theorem rdpNewPacket (h : s.Kept P busy t) (hi : i ≠ listener)
    (hopen : (s.conns i).state = .open) (packet : CspPacket) (v : RdpVerdict) :
    (cspRdpNewPacket s i packet v).Kept P busy (t + 1) := by
  have hset : ∀ r, (s.conns i).rdpState ≠ .closeWait → (s.setRdpState i r).Kept P busy t :=
    fun r hr => h.setRdpState hi fun hc => absurd hc hr
  have hopen' : ∀ r, ((s.setRdpState i r).conns i).state = .open := fun r => by simpa using hopen
  unfold cspRdpNewPacket
  split
  · split
    · exact h.bufferFree.close hi
    · rename_i hst
      split
      · exact (hset .closeWait fun hc => hst (.inl hc)).rdpDiscardClose hi (hopen' _)
      · exact h.bufferFree
  · split
    all_goals rename_i hst
    · split
      · exact (hset .synRcvd (by simp [hst])).bufferFree
      · exact h.rdpDiscardClose hi hopen
    · split
      · exact (hset .open (by simp [hst])).bufferFree
      · split
        · exact h.bufferFree
        · exact h.rdpDiscardClose hi hopen
    · exact h.rdpOpenPacket hi hopen (by simp [hst]) packet v
    · exact h.rdpOpenPacket hi hopen (by simp [hst]) packet v
    · exact h.bufferFree

/-- The first packet of a new connection, which the router has put into slot `i`. -/
theorem route_new {idout : CspId} {packet : CspPacket} (v : RdpVerdict) (h : s.Kept P busy t)
    (hP : P packet.id) (hrdp : packet.id.rdp = idout.rdp)
    (hn : cspConnNew packet.id idout s = some (i, s')) :
    (transportNewPacket (s'.setConn i { s'.conns i with socket := true }) i packet v).Kept P busy
      (t + 1) := by
  obtain ⟨hi, hs'⟩ := h.sound.connNew hP hrdp hn
  have hsound : (s'.setConn i { s'.conns i with socket := true }).Sound P t :=
    hs'.setConn hi rfl rfl rfl id
  obtain ⟨-, he⟩ := cspConnNew_eq hn
  have hself : s'.conns i = { s.conns i with
      state := .open, socket := false, type := .client, idin := packet.id, idout := idout,
      rxQueue := .empty } := by rw [he]; exact setConn_conns_self
  generalize hs2 : s'.setConn i { s'.conns i with socket := true } = s2 at hsound ⊢
  have hconn : s2.conns i = { s'.conns i with socket := true } := by
    rw [← hs2]; exact setConn_conns_self
  have hopen : (s2.conns i).state = .open := by rw [hconn, hself]
  -- the slots other than `i` are as before
  have hatt : ∀ busy' : Fin cspConnMax → Prop, (∀ j, busy j → busy' j) →
      (busy' i ∨ (s2.conns i).Waiting) → s2.Attended busy' := fun busy' hb hw =>
    h.attended.update (c := s2.conns i) (by rw [hconn, ← hs2, he]; exact Function.update_idem ..)
      (fun j hj => by rw [← hs2, he]; exact hj)
      (fun _ => .inr (hw.imp id .inr)) fun j _ => hb j
  unfold transportNewPacket
  split
  · rename_i hp
    have hwait : (s2.conns i).Waiting := by rw [hconn, hself]; exact ⟨hp, .inl rfl⟩
    exact rdpNewPacket ⟨hsound, hatt busy (fun _ => id) (.inr hwait)⟩ hi hopen packet v
  · refine udpNewPacket_fresh ⟨hsound, hatt _ (fun _ => .inl) (.inl (.inr rfl))⟩ hi hopen ?_ ?_ packet
    all_goals rw [hconn, hself]

/-- **The router.** A packet in its hands ends in the accounts, and the connections stay attended
to. -/
theorem routeWork {packet : CspPacket} (h : s.Kept P busy t) (hP : P packet.id)
    (o : RouteOutcome) : (cspRouteWork s packet o).Kept P busy (t + 1) := by
  unfold cspRouteWork
  split
  · split
    · exact h.handOver
    · exact h.bufferFree
  · split
    · rename_i i hf
      obtain ⟨hopen, htype⟩ := cspConnFind_eq hf
      have hi : i ≠ listener := by
        rintro rfl
        rw [h.sound.socket] at htype
        cases htype
      split
      · unfold transportNewPacket
        split
        · exact h.rdpNewPacket hi hopen packet o.rdp
        · exact h.udpNewPacket hi hopen packet
      · exact h.bufferFree
    · split
      · exact h.bufferFree
      · split
        · exact h.bufferFree
        · split
          · exact h.bufferFree
          · rename_i i s' hn
            have hrdp : packet.id.rdp = (answerId s.address packet.id).rdp := rfl
            exact h.route_new o.rdp hP hrdp hn

theorem timeout (h : s.Kept P busy t) (i : Fin cspConnMax) :
    (cspConnTimeout s i).Kept P busy t := by
  unfold cspConnTimeout
  split
  · rename_i hc
    refine h.close ?_
    rintro rfl
    rw [h.sound.socket] at hc
    exact absurd hc.2.1 (by decide)
  · exact h

/-- A packet that RDP releases is in the receive queue then, or lost. -/
theorem rdpRelease {packet : CspPacket} {lost : Bool} (h : s.Kept P busy t)
    (hr : rdpRelease s i packet = (s', lost)) :
    ∃ t', t = t' + lost.toNat ∧ s'.Kept P busy t' := by
  unfold Csp.rdpRelease at hr
  split at hr
  · rename_i hc
    obtain ⟨hopen, hrdp, hnet⟩ := hc
    have hi : i ≠ listener := by
      rintro rfl
      rw [h.sound.socket] at hrdp
      cases hrdp
    obtain ⟨t, rfl, h1⟩ := h.takeOver hnet
    split at hr
    rename_i s1 received hd
    obtain ⟨rfl, rfl⟩ := Prod.mk.inj hr
    have hk := h1.rdpReceiveData hi hopen hd
    cases received
    · exact ⟨t, rfl, hk⟩
    · exact ⟨t + 1, rfl, hk⟩
  · obtain ⟨rfl, rfl⟩ := Prod.mk.inj hr
    exact ⟨t, rfl, h⟩

end CspStack.Kept

/-- A packet for which there is room is received. -/
theorem cspRdpReceiveData_fits {s : CspStack} {i : Fin cspConnMax} {packet : CspPacket}
    (haccept : (s.conns i).socket = true → s.backlog.length < backlogLength)
    (hqueue : ((s.conns i).rxQueue.queue packet.id.pri).length < cspRxQueueLength) :
    (cspRdpReceiveData s i packet).2 = true := by
  have hpost : ∃ s1, (if (s.conns i).socket then postToSocket s i else some s) = some s1 ∧
      (s1.conns i).rxQueue = (s.conns i).rxQueue := by
    by_cases hsocket : (s.conns i).socket = true
    · exact ⟨_, (if_pos hsocket).trans (if_pos (haccept hsocket)), by simp [CspStack.setConn]⟩
    · exact ⟨s, if_neg hsocket, rfl⟩
  obtain ⟨s1, hs1, hsame⟩ := hpost
  have henqueue : ∃ s2, cspConnEnqueuePacket s1 i (some packet) = some s2 := by
    have hroom : ((s1.conns i).rxQueue.queue (rxqOf (some packet))).length < cspRxQueueLength := by
      rw [hsame]
      exact hqueue
    simp only [cspConnEnqueuePacket, RxQueues.enqueue, dif_pos hroom]
    exact ⟨_, rfl⟩
  obtain ⟨s2, hs2⟩ := henqueue
  unfold cspRdpReceiveData
  rw [hs1]
  dsimp only
  rw [hs2]

/-- An early packet for which there is room is not lost. -/
theorem rdpRelease_fits {s s' : CspStack} {i : Fin cspConnMax} {packet : CspPacket} {lost : Bool}
    (hfits : EarlyFits s i packet) (hr : rdpRelease s i packet = (s', lost)) : lost = false := by
  unfold rdpRelease at hr
  split at hr
  · rename_i hc
    obtain ⟨haccept, hqueue⟩ := hfits hc
    have hreceived := cspRdpReceiveData_fits (s := s.takeOver) haccept hqueue
    split at hr
    rename_i s1 received hd
    obtain ⟨-, rfl⟩ := Prod.mk.inj hr
    rw [hd] at hreceived
    exact congrArg not hreceived
  · exact (Prod.mk.inj hr).2.symm

end CspTerm.Csp
