import CspTerm.Csp.Proofs.RouterProofs

/-!
# The connection pool: who opens connections

Apart from `csp_accept`, no call takes anything away from the accept queue. Apart from
`csp_conn_new`, none opens a connection; that opens one in the next slot.
-/

namespace CspTerm.Csp

/-- No connection was opened, and the accept queue only grew. -/
structure CspStack.Keeps (s s' : CspStack) : Prop where
  openings : s'.openings = s.openings
  backlog : s.backlog <+: s'.backlog

/-- A connection was opened in slot `i`, and the accept queue only grew. -/
structure CspStack.OpensIn (i : Fin cspConnMax) (s s' : CspStack) : Prop where
  openings : ∃ id, s'.openings = (i, id) :: s.openings
  backlog : s.backlog <+: s'.backlog

variable {s s' s'' : CspStack} {i : Fin cspConnMax}

theorem CspStack.OpensIn.keeps (h : s.OpensIn i s') (h' : s'.Keeps s'') : s.OpensIn i s'' :=
  ⟨by rw [h'.openings]; exact h.openings, h.backlog.trans h'.backlog⟩

theorem cspConnNew_opens {idin idout : CspId} (h : cspConnNew idin idout s = some (i, s')) :
    nextSlot s = some i ∧ s.OpensIn i s' := by
  have hnext : nextSlot s = some i := by
    simp only [cspConnNew, cspConnAllocate, Option.map_map, Option.map_eq_some_iff,
      Function.comp_apply, Prod.mk.injEq] at h
    obtain ⟨k, hk, rfl, -⟩ := h
    exact hk
  obtain ⟨-, rfl⟩ := cspConnNew_eq h
  exact ⟨hnext, ⟨idin, rfl⟩, List.prefix_rfl⟩

namespace CspStack.Keeps

theorem refl (s : CspStack) : s.Keeps s := ⟨rfl, List.prefix_rfl⟩

theorem trans (h : s.Keeps s') (h' : s'.Keeps s'') : s.Keeps s'' :=
  ⟨h'.openings.trans h.openings, h.backlog.trans h'.backlog⟩

theorem of_eq (ho : s'.openings = s.openings) (hb : s'.backlog = s.backlog) : s.Keeps s' :=
  ⟨ho, by rw [hb]⟩

theorem enqueue {packet : Option CspPacket} (h : cspConnEnqueuePacket s i packet = some s') :
    s.Keeps s' := by
  obtain ⟨r, rfl⟩ := cspConnEnqueuePacket_eq h
  exact of_eq rfl rfl

theorem enqueue_getD (s : CspStack) (i : Fin cspConnMax) (packet : Option CspPacket) :
    s.Keeps ((cspConnEnqueuePacket s i packet).getD s) := by
  cases he : cspConnEnqueuePacket s i packet with
  | none => exact refl s
  | some s1 => exact enqueue he

theorem post (h : postToSocket s i = some s') : s.Keeps s' := by
  obtain rfl := postToSocket_eq h
  exact ⟨rfl, List.prefix_append _ _⟩

theorem close (s : CspStack) (i : Fin cspConnMax) : s.Keeps (cspClose s i) := by
  rcases cspClose_cases s i with ⟨-, he⟩ | ⟨-, c, -, -, he⟩ | ⟨-, r, he⟩ <;> rw [he]
  · exact refl s
  · exact of_eq rfl rfl
  · exact of_eq rfl rfl

theorem read {packet : Option CspPacket} (h : cspRead s i = (packet, s')) : s.Keeps s' := by
  rcases cspRead_cases h with ⟨-, rfl⟩ | ⟨-, r, -, rfl⟩
  · exact refl _
  · exact of_eq rfl rfl

/-! ## The router -/

theorem udpNewPacket (s : CspStack) (i : Fin cspConnMax) (packet : CspPacket) :
    s.Keeps (cspUdpNewPacket s i packet) := by
  unfold cspUdpNewPacket
  split
  · exact of_eq rfl rfl
  · rename_i s1 he
    have h1 : s.Keeps s1 := enqueue he
    split
    · cases hp : postToSocket s1 i with
      | none => exact h1.trans (close s1 i)
      | some s2 => exact h1.trans (post hp)
    · exact h1

theorem rdpReceiveData {ok : Bool} {packet : CspPacket}
    (h : cspRdpReceiveData s i packet = (s', ok)) : s.Keeps s' := by
  have hpost : ∀ s1, (if (s.conns i).socket then postToSocket s i else some s) = some s1 →
      s.Keeps s1 := by
    intro s1 hs1
    split at hs1
    · exact post hs1
    · obtain rfl := Option.some.inj hs1
      exact refl s
  unfold cspRdpReceiveData at h
  split at h
  · obtain ⟨rfl, -⟩ := Prod.mk.inj h
    exact refl s
  · rename_i s1 hs1
    split at h <;> obtain ⟨rfl, -⟩ := Prod.mk.inj h
    · exact hpost s1 hs1
    · rename_i he
      exact (hpost s1 hs1).trans (enqueue he)

theorem rdpDiscardClose (s : CspStack) (i : Fin cspConnMax) : s.Keeps (rdpDiscardClose s i) := by
  have hclose : s.Keeps
      (if (s.conns i).socket then cspClose s i else (cspConnEnqueuePacket s i none).getD s) := by
    split
    · exact close s i
    · exact enqueue_getD s i none
  exact hclose.trans (of_eq rfl rfl)

theorem rdpOpenPacket (s : CspStack) (i : Fin cspConnMax) (packet : CspPacket) (v : RdpVerdict) :
    s.Keeps (rdpOpenPacket s i packet v) := by
  have hset : s.Keeps (s.setRdpState i .open) := of_eq rfl rfl
  unfold Csp.rdpOpenPacket
  split
  · exact rdpDiscardClose s i
  · exact of_eq rfl rfl
  · exact of_eq rfl rfl
  · split
    all_goals rename_i hd
    · exact hset.trans (rdpReceiveData hd)
    · exact (hset.trans (rdpReceiveData hd)).trans (of_eq rfl rfl)
  · exact of_eq rfl rfl

theorem rdpNewPacket (s : CspStack) (i : Fin cspConnMax) (packet : CspPacket) (v : RdpVerdict) :
    s.Keeps (cspRdpNewPacket s i packet v) := by
  have hfree : s.Keeps (cspBufferFree s) := of_eq rfl rfl
  have hset : ∀ r, s.Keeps (s.setRdpState i r) := fun r => of_eq rfl rfl
  unfold cspRdpNewPacket
  split
  · split
    · exact hfree.trans (close _ i)
    · split
      · exact (hset .closeWait).trans (rdpDiscardClose _ i)
      · exact hfree
  · split
    · split
      · exact of_eq rfl rfl
      · exact rdpDiscardClose s i
    · split
      · exact of_eq rfl rfl
      · split
        · exact hfree
        · exact rdpDiscardClose s i
    · exact rdpOpenPacket s i packet v
    · exact rdpOpenPacket s i packet v
    · exact hfree

theorem transport (s : CspStack) (i : Fin cspConnMax) (packet : CspPacket) (v : RdpVerdict) :
    s.Keeps (transportNewPacket s i packet v) := by
  unfold transportNewPacket
  split
  · exact rdpNewPacket s i packet v
  · exact udpNewPacket s i packet

theorem timeout (s : CspStack) (i : Fin cspConnMax) : s.Keeps (cspConnTimeout s i) := by
  unfold cspConnTimeout
  split
  · exact close s i
  · exact refl s

theorem rdpRelease {s s' : CspStack} {i : Fin cspConnMax} {packet : CspPacket} {lost : Bool}
    (hr : rdpRelease s i packet = (s', lost)) : s.Keeps s' := by
  have htake : s.Keeps s.takeOver := of_eq rfl rfl
  unfold Csp.rdpRelease at hr
  split at hr
  · split at hr
    rename_i hd
    obtain ⟨rfl, -⟩ := Prod.mk.inj hr
    exact htake.trans (rdpReceiveData hd)
  · obtain ⟨rfl, -⟩ := Prod.mk.inj hr
    exact refl s

end CspStack.Keeps

/-- The router opens no connection, or it opens one in the next slot for a packet that needs one. -/
theorem cspRouteWork_cases (s : CspStack) (packet : CspPacket) (o : RouteOutcome) :
    s.Keeps (cspRouteWork s packet o) ∨
      NeedsConn s packet o ∧ ∃ i, nextSlot s = some i ∧ s.OpensIn i (cspRouteWork s packet o) := by
  have hfree : s.Keeps (cspBufferFree s) := .of_eq rfl rfl
  unfold cspRouteWork
  split
  · left
    split
    · exact .of_eq rfl rfl
    · exact hfree
  · rename_i hdst
    split
    · left
      split
      · exact .transport s _ packet o.rdp
      · exact hfree
    · rename_i hfind
      split
      · exact .inl hfree
      · rename_i hport
        split
        · exact .inl hfree
        · rename_i hsecure
          split
          · exact .inl hfree
          · rename_i i s1 hn
            obtain ⟨hnext, hopens⟩ := cspConnNew_opens hn
            have hset : s1.Keeps (s1.setConn i { s1.conns i with socket := true }) := .of_eq rfl rfl
            refine .inr ⟨⟨?_, hfind, by omega, by simpa using hsecure⟩, i, hnext, ?_⟩
            · tauto
            · exact hopens.keeps (hset.trans (.transport _ i packet o.rdp))

end CspTerm.Csp
