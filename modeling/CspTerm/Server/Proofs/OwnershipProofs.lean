import CspTerm.Lib.Run
import CspTerm.Csp.Proofs.OpeningsProofs
import CspTerm.Server.Ownership
import CspTerm.Server.Proofs.TaskServerProofs

/-!
# The server takes packets of its own connection only

It does in every run in which no connection gets a slot that the server, or an earlier connection in
the accept queue, still claims. The server claims its slot until the `csp_close` after the loop,
although it closed it inside the switch; so under load it takes packets of others.
-/

namespace CspTerm.Server

open CspTerm.Csp

variable {s s' : CspStack} {i j : Fin cspConnMax} {o : Outcomes}

theorem generation_keeps (h : s.Keeps s') (i : Fin cspConnMax) :
    generation s' i = generation s i := by
  rw [generation, h.openings, generation]

theorem generation_opensIn (h : s.OpensIn j s') (hi : i ≠ j) :
    generation s' i = generation s i := by
  obtain ⟨id, hid⟩ := h.openings
  simp [generation, hid, Ne.symm hi]

/-! ## The handlers -/

theorem free_keeps (h : Hand) : h.csp.Keeps h.free.csp := .of_eq rfl rfl

theorem release_keeps (h : Hand) (u : BufferUse) : h.csp.Keeps (h.release u).csp := by
  cases u <;> exact .of_eq rfl rfl

theorem sendOrFree_keeps (h : Hand) (i : Fin cspConnMax) (taken : Bool) :
    h.csp.Keeps (h.sendOrFree i taken).csp := by
  unfold Hand.sendOrFree
  split
  · exact .of_eq rfl rfl
  · exact free_keeps h

theorem sendTaskList_keeps (i : Fin cspConnMax) (chunks : List Bool) (s : CspStack) :
    s.Keeps (sendTaskList i chunks s) := by
  induction chunks generalizing s with
  | nil => exact .refl s
  | cons taken rest ih =>
    unfold sendTaskList
    split
    · exact .refl s
    · split
      · have hsent : s.Keeps { s.handOver with free := s.free - 1 } := .of_eq rfl rfl
        exact hsent.trans (ih _)
      · exact ih s

theorem cspServiceHandler_keeps (o : Outcomes) (i : Fin cspConnMax) (packet : CspPacket)
    (h : Hand) : h.csp.Keeps (cspServiceHandler o i packet h).csp := by
  unfold cspServiceHandler
  split
  · split
    · exact sendOrFree_keeps h i o.send
    · exact free_keeps h
  · exact sendOrFree_keeps h i o.send
  · split
    · exact free_keeps h
    · split
      · exact sendOrFree_keeps h i o.send
      · exact sendOrFree_keeps h i o.send
      · rename_i first rest _
        exact (sendOrFree_keeps h i first).trans (sendTaskList_keeps i rest _)
  all_goals first | exact sendOrFree_keeps h i o.send | exact free_keeps h

/-- The reply on port 16 opens no connection, or it opens one in the next slot. -/
theorem replyData_cases (o : Outcomes) (h : Hand) :
    h.csp.Keeps (replyData o h).csp ∨
      o.connect = true ∧ ∃ i, nextSlot h.csp = some i ∧ h.csp.OpensIn i (replyData o h).csp := by
  unfold replyData
  rcases cspConnect_cases cspPrioNorm destAddr reDestPort o.connect h.csp with
    ⟨-, he⟩ | ⟨hlocked, k, he⟩
  · rw [he]
    exact .inl (.of_eq rfl rfl)
  · split at he
    · rw [he]
      exact .inl (.of_eq rfl rfl)
    · rename_i i s' hn
      rw [he]
      obtain ⟨hnext, ⟨id, hid⟩, hback⟩ := cspConnNew_opens hn
      have hopens : h.csp.OpensIn i s' := ⟨⟨id, hid⟩, hback⟩
      exact .inr ⟨hlocked, i, hnext, hopens.keeps (sendOrFree_keeps { h with csp := s' } i o.send)⟩

theorem dispatch_cases (o : Outcomes) (i : Fin cspConnMax) (packet : CspPacket) (h : Hand) :
    h.csp.Keeps (dispatch o i packet h).2.csp ∨
      ((h.csp.conns i).idin.dport = rePort ∧ o.connect = true) ∧
        ∃ j, nextSlot h.csp = some j ∧ h.csp.OpensIn j (dispatch o i packet h).2.csp := by
  unfold dispatch
  split
  · left
    unfold receivePacket
    split <;> exact .refl _
  · split
    · rename_i hport
      exact (replyData_cases o h).imp_right fun ⟨hc, hopens⟩ => ⟨⟨hport, hc⟩, hopens⟩
    · left
      split
      · exact .refl _
      · split
        · exact release_keeps h o.object
        · split
          · exact release_keeps h o.object
          · exact cspServiceHandler_keeps o i packet h

/-! ## One step -/

/-- What a step other than `csp_accept` does: the server keeps its slot or is done with it, and no
connection is opened, or one is opened in the next slot. -/
structure StepOpens (s : ServerState) (l : Label) (s' : ServerState) : Prop where
  conn : ∀ i, s'.pc.conn = some i → s.pc.conn = some i
  csp : s.csp.Keeps s'.csp ∨ (OpensElsewhere s l → NextSlotUnclaimed s) ∧
    ∃ i, nextSlot s.csp = some i ∧ s.csp.OpensIn i s'.csp

theorem StepOpens.refl (s : ServerState) (l : Label) : StepOpens s l s :=
  ⟨fun _ => id, .inl (.refl s.csp)⟩

theorem taskServer_opens {s : ServerState} (hpc : s.pc.conn ≠ none) (o : Outcomes) :
    StepOpens s (.server o) (taskServer s o) := by
  cases h : s.pc with
  | accept =>
    rw [h] at hpc
    exact absurd rfl hpc
  | read i =>
    simp only [taskServer, h]
    split
    all_goals
      rename_i hr
      exact ⟨fun j hj => by rw [h]; exact hj, .inl (.read hr)⟩
  | handle i id packet =>
    simp only [taskServer, h]
    refine ⟨fun j hj => by rw [h]; exact hj, ?_⟩
    rcases dispatch_cases o i packet { csp := s.csp, uses := [] } with hk | ⟨hneeds, hopens⟩
    · exact .inl hk
    · refine .inr ⟨fun helse => ?_, hopens⟩
      rw [OpensElsewhere, h] at helse
      exact helse hneeds
  | closeInner i =>
    simp only [taskServer, h]
    exact ⟨fun j hj => by rw [h]; exact hj, .inl (.close s.csp i)⟩
  | closeOuter i =>
    simp only [taskServer, h]
    refine ⟨fun j hj => ?_, .inl (.close s.csp i)⟩
    cases hj

theorem step_opens {s : ServerState} {l : Label} (hacc : ¬Accepting s l) :
    StepOpens s l (step s l) := by
  cases l with
  | server o => exact taskServer_opens (fun hpc => hacc ⟨⟨o, rfl⟩, hpc⟩) o
  | route packet r =>
    simp only [step]
    split
    · exact .refl s _
    · rename_i hnet
      refine ⟨fun _ => id, ?_⟩
      -- taking the packet from the network side changes neither the slots nor the queue
      rcases cspRouteWork_cases s.csp.takeOver packet r with hk | ⟨hneeds, i, hnext, ho⟩
      · exact .inl ⟨hk.openings, hk.backlog⟩
      · exact .inr ⟨fun helse => helse hnet hneeds, i, hnext, ho.openings, ho.backlog⟩
  | timeout i => exact ⟨fun _ => id, .inl (.timeout s.csp i)⟩
  | release i packet =>
    rcases hr : rdpRelease s.csp i packet with ⟨csp, lost⟩
    simp only [step, hr]
    exact ⟨fun _ => id, .inl (.rdpRelease hr)⟩
  | take =>
    simp only [step]
    split
    · exact .refl s _
    · exact ⟨fun _ => id, .inl (.of_eq rfl rfl)⟩
  | give =>
    simp only [step]
    split
    · exact .refl s _
    · exact ⟨fun _ => id, .inl (.of_eq rfl rfl)⟩
  | cloneSyn =>
    simp only [step]
    split
    · exact .refl s _
    · split
      · exact ⟨fun _ => id, .inl (.of_eq rfl rfl)⟩
      · exact ⟨fun _ => id, .inl (.of_eq rfl rfl)⟩
  | requeue room =>
    simp only [step]
    split
    · exact .refl s _
    · exact ⟨fun _ => id, .inl (.of_eq rfl rfl)⟩
  | ftpRead i =>
    simp only [step]
    split
    · split
      all_goals
        rename_i hr
        have hread := CspStack.Keeps.read hr
      · exact ⟨fun _ => id, .inl hread⟩
      · exact ⟨fun _ => id, .inl ⟨hread.openings, hread.backlog⟩⟩
    · exact .refl s _
  | ftpClose i =>
    simp only [step]
    split
    · exact ⟨fun _ => id, .inl (.close s.csp i)⟩
    · exact .refl s _

/-! ## Every run -/

/-- The accept queue and the server's slot hold the connections that they were given. -/
structure OwnerState.Owned (s : OwnerState) : Prop where
  posted : s.posted = s.base.csp.backlog.map (generation s.base.csp)
  served : ∀ i, s.base.pc.conn = some i → generation s.base.csp i = s.served

theorem owned_init (address sport : Fin 32) : (OwnerState.init address sport).Owned := by
  refine ⟨?_, fun i hi => nomatch hi⟩
  rw [OwnerState.init, ServerState.init, cspSocket_cspInit]
  rfl

theorem ownerStep_accept {s : OwnerState} {l : Label} (h : s.Owned) (hacc : Accepting s.base l) :
    (ownerStep s l).Owned := by
  obtain ⟨⟨o, rfl⟩, hpc⟩ := id hacc
  have haccept : s.base.pc = .accept := Pc.eq_accept hpc
  simp only [ownerStep, hacc, if_true, step, taskServer, haccept, cspAccept]
  cases hb : s.base.csp.backlog with
  | nil =>
    have hposted := h.posted
    rw [hb] at hposted
    refine ⟨?_, ?_⟩
    · simp [hposted, hb]
    · intro i hi
      rw [haccept] at hi
      cases hi
  | cons k rest =>
    have hposted := h.posted
    rw [hb, List.map_cons] at hposted
    rw [hposted]
    dsimp only
    split
    · refine ⟨rfl, ?_⟩
      intro i hi
      cases hi
    · refine ⟨rfl, ?_⟩
      intro i hi
      obtain rfl := Option.some.inj hi
      rfl

theorem ownerStep_other {s : OwnerState} {l : Label} (h : s.Owned) (hacc : ¬Accepting s.base l)
    (hg : OpensElsewhere s.base l) : (ownerStep s l).Owned := by
  obtain ⟨hconn, hcsp⟩ := step_opens hacc
  -- the claimed slots have the connections that they had
  have hgen : ∀ i, s.base.pc.conn = some i ∨ i ∈ s.base.csp.backlog →
      generation (step s.base l).csp i = generation s.base.csp i := by
    intro i hi
    rcases hcsp with hk | ⟨hunclaimed, j, hnext, ho⟩
    · exact generation_keeps hk i
    · obtain ⟨hpc, hback⟩ := hunclaimed hg j hnext
      refine generation_opensIn ho ?_
      rintro rfl
      rcases hi with hi | hi
      · exact hpc hi
      · exact hback hi
  obtain ⟨new, hnew⟩ : s.base.csp.backlog <+: (step s.base l).csp.backlog := by
    rcases hcsp with hk | ⟨-, j, -, ho⟩
    · exact hk.backlog
    · exact ho.backlog
  simp only [ownerStep, hacc, if_false]
  refine ⟨?_, ?_⟩
  · have hold : s.posted = s.base.csp.backlog.map (generation (step s.base l).csp) := by
      rw [h.posted]
      exact List.map_congr_left fun i hi => (hgen i (.inr hi)).symm
    dsimp only
    rw [← hnew, List.drop_left, List.map_append, hold]
  · intro i hi
    rw [hgen i (.inl (hconn i hi))]
    exact h.served i (hconn i hi)

/-- **One step** keeps the slots with their owners, if the connection it opens gets an unclaimed
slot. -/
theorem ownerStep_owned {s : OwnerState} {l : Label} (h : s.Owned)
    (hg : OpensElsewhere s.base l) : (ownerStep s l).Owned := by
  by_cases hacc : Accepting s.base l
  · exact ownerStep_accept h hacc
  · exact ownerStep_other h hacc hg

theorem spares_of_owned {s : OwnerState} (h : s.Owned) (l : Label) : Spares s l := by
  cases l with
  | server o => exact fun i hi hne => absurd (h.served i hi) hne
  | _ => trivial

theorem ownerStep_base (s : OwnerState) (l : Label) : (ownerStep s l).base = step s.base l := by
  unfold ownerStep
  split <;> rfl

/-- **Slots and owners.** In every run in which every connection is opened in a slot that neither
the server nor the accept queue claims, the server reads and flushes packets of the connection only
that it accepted. -/
theorem spares_run {address sport : Fin 32} {labels : List Label}
    (hg : Run.Guarded step OpensElsewhere (.init address sport) labels) :
    Run.Guarded ownerStep Spares (.init address sport) labels := by
  have hlift : Run.Guarded ownerStep (fun s l => OpensElsewhere s.base l) (.init address sport)
      labels := hg.lift (f := OwnerState.base) ownerStep_base
  exact hlift.of_inv (fun _ _ h hopens => ownerStep_owned h hopens)
    (fun _ l h _ => spares_of_owned h l) (owned_init address sport)

theorem spares_two_packets : Run.Guarded ownerStep Spares (.init 10 0)
    (serve (packetTo 1 20 15) plainOutcomes ++ serve (packetTo 2 21 16) plainOutcomes) :=
  spares_run (by decide +kernel)

/-- A packet arrives and is routed. -/
def arrive (sport : Fin 64) : List Label :=
  [.take, .route (packetTo ⟨1, by decide⟩ sport myPort)
    { forwarded := true, secure := true, rdp := .drop }]

/-- The server has closed its connection inside the switch when eight more connections arrive and
take the other slots. The next one gets the server's slot, and the server reads its packet before it
accepts it. -/
theorem reads_packet_of_next_connection : ¬Run.Guarded ownerStep Spares (.init 10 0)
    (arrive 20 ++ List.replicate 4 (.server plainOutcomes) ++
      ([21, 22, 23, 24, 25, 26, 27, 28, 29] : List (Fin 64)).flatMap arrive ++
      [.server plainOutcomes]) := by
  decide +kernel

end CspTerm.Server
