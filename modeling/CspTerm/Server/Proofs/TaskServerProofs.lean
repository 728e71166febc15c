import CspTerm.Lib.Run
import CspTerm.Server.Proofs.HandlersProofs

/-!
# The server task: recording and conserving

Two results about every run. Downlink packets are recorded under their own connection exactly if the
slot that the header values are read from holds the right identifier each time. Buffers and
connections are conserved by every run that serves no packet on the ports whose handlers keep them.
-/

namespace CspTerm.Server

open CspTerm.Csp

/-- A server without a connection waits for one. -/
theorem Pc.eq_accept {pc : Pc} (h : pc.conn = none) : pc = .accept := by
  cases pc with
  | accept => rfl
  | _ => cases h

/-- The packets that were read and never released. -/
def unreleased (ledger : List (List BufferUse)) : Nat :=
  (ledger.map fun uses => 1 - uses.length).sum

/-- The invariant of a run: the pool is kept, and the buffers that it does not account for are in
the server's hands, were never released, or were lost by RDP. With `all`, somebody else attends to
the connections that the server leaves open. -/
structure ServerState.Inv (P : CspId → Prop) (all : Prop) (t : Nat) (s : ServerState) : Prop where
  kept : s.csp.Kept P (fun j => all ∨ s.pc.conn = some j) t
  account : t + s.pc.inHand + unreleased s.ledger + s.lost = cspBuffers
  conn_ne : ∀ i, s.pc.conn = some i → i ≠ listener
  ftp_ne : ∀ i ∈ s.ftp, i ≠ listener

variable {P : CspId → Prop} {all : Prop} {t : Nat} {s : ServerState}

theorem inv_init (address sport : Fin 32) (hP : P .zero) :
    (ServerState.init address sport).Inv P all cspBuffers := by
  refine ⟨⟨.init address sport hP, fun i hi => .inl ?_⟩, rfl, ?_, ?_⟩
  · by_contra hne
    simp only [ServerState.init, cspSocket_cspInit] at hi
    rw [setConn_conns_of_ne hne] at hi
    cases hi
  · intro i hi
    cases hi
  · intro i hi
    cases hi

/-- What a run that is to leave no connection behind must avoid in this step. -/
def Admits (P : CspId → Prop) (all : Prop) (s : ServerState) (l : Label) : Prop :=
  (all ∧ ∀ id, P id) ∨ (∀ id, P id → id.dport ≠ csptermPortFtp) ∧ Releases s l

/-- The server waits, or it accepts a connection; one for an FTP task is left to somebody else. -/
theorem accept_inv {o : Outcomes} (h : s.Inv P all t) (hpc : s.pc = .accept)
    (hport : ∀ id, P id → id.dport = csptermPortFtp → all) : (taskServer s o).Inv P all t := by
  obtain ⟨hk, hacc, hconn, hftp⟩ := id h
  simp only [taskServer, hpc]
  split
  · exact h
  · rename_i i csp ha
    rw [hpc] at hk hacc hconn
    obtain ⟨hi, hk'⟩ := hk.accept ha
    split
    · rename_i hp
      have hall : all := hport _ (hk'.sound.idin_prop i) hp
      refine ⟨⟨hk'.sound, hk'.attended.mono fun j _ => .inl hall⟩, hacc, hconn, ?_⟩
      intro j hj
      rcases List.mem_cons.mp hj with rfl | hj
      exacts [hi, hftp j hj]
    · refine ⟨⟨hk'.sound, hk'.attended.mono fun j hj => ?_⟩, hacc,
        fun j hj => Option.some.inj hj ▸ hi, hftp⟩
      rcases hj with (hall | hj) | rfl
      · exact .inl hall
      · cases hj
      · exact .inr rfl

/-- The server handles a packet, which it has released then, or never will. -/
theorem handle_inv {o : Outcomes} {i : Fin cspConnMax} {id : CspId} {packet : CspPacket}
    (h : s.Inv P all t) (hpc : s.pc = .handle i id packet) (hg : Admits P all s (.server o)) :
    ∃ t', (taskServer s o).Inv P all t' := by
  obtain ⟨hk, hacc, hconn, hftp⟩ := h
  rw [hpc] at hk hacc hconn
  have hkept : (dispatch o i packet { csp := s.csp, uses := [] }).2.Kept P
      (fun j => all ∨ some i = some j) t := by
    refine dispatch_kept hk ?_
    rcases hg with ⟨hall, hP⟩ | ⟨-, hrel⟩
    · exact .inl ⟨hP, fun _ => .inl hall⟩
    · rw [Releases, hpc] at hrel
      exact .inr hrel.2.2
  have huses := dispatch_uses o i packet s.csp
  simp only [taskServer, hpc]
  refine ⟨t + _, hkept, ?_, hconn, hftp⟩
  have hle : (dispatch o i packet { csp := s.csp, uses := [] }).2.uses.length ≤ 1 := by
    rw [huses]
    split <;> omega
  simp only [unreleased, List.map_cons, List.sum_cons, Pc.inHand] at hacc ⊢
  omega

/-- **One step of the server.** -/
theorem taskServer_inv {o : Outcomes} (h : s.Inv P all t) (hg : Admits P all s (.server o)) :
    ∃ t', (taskServer s o).Inv P all t' := by
  obtain ⟨hk, hacc, hconn, hftp⟩ := id h
  cases hpc : s.pc with
  | accept =>
    refine ⟨t, accept_inv h hpc ?_⟩
    intro id hid hp
    rcases hg with ⟨hall, -⟩ | ⟨hno, -⟩
    · exact hall
    · exact absurd hp (hno id hid)
  | read i =>
    rw [hpc] at hk hacc hconn
    simp only [taskServer, hpc]
    split
    all_goals
      rename_i hr
      obtain ⟨n, hn, hk'⟩ := hk.read (hconn i rfl) hr
      rw [hn] at hacc
      exact ⟨n, hk', hacc, hconn, hftp⟩
  | handle i id packet => exact handle_inv h hpc hg
  | closeInner i =>
    rw [hpc] at hk hacc hconn
    simp only [taskServer, hpc]
    exact ⟨t, hk.close (hconn i rfl), hacc, hconn, hftp⟩
  | closeOuter i =>
    rw [hpc] at hk hacc hconn
    have hi := hconn i rfl
    simp only [taskServer, hpc]
    refine ⟨t, ⟨hk.sound.close hi, hk.attended.close (fun j hj hb => ?_) (hk.sound.rdp_eq i)⟩, hacc,
      (fun j hj => nomatch hj), hftp⟩
    exact hb.imp_right fun h => absurd (Option.some.inj h).symm hj

/-- **One step** of the station's network side. -/
theorem step_inv {l : Label} (h : s.Inv P all t) (hg : Admits P all s l)
    (hP : ∀ packet o, l = .route packet o → P packet.id) : ∃ t', (step s l).Inv P all t' := by
  obtain ⟨hk, hacc, hconn, hftp⟩ := id h
  -- the steps of the network side do not touch the server
  have hcsp : ∀ csp, csp.Kept P (fun j => all ∨ s.pc.conn = some j) t →
      ∃ t', ({ s with csp := csp } : ServerState).Inv P all t' := fun csp hk' =>
    ⟨t, hk', hacc, hconn, hftp⟩
  have hlose : s.csp.network ≠ 0 → ∃ t', s.lose.Inv P all t' := by
    intro hnet
    obtain ⟨n, rfl, hk'⟩ := hk.takeOver (Nat.pos_of_ne_zero hnet)
    refine ⟨n, hk', ?_, hconn, hftp⟩
    simp only [ServerState.lose]
    omega
  have htake : s.csp.free ≠ 0 →
      ({ s.csp.handOver with free := s.csp.free - 1 } : CspStack).Kept P
        (fun j => all ∨ s.pc.conn = some j) t := by
    intro hfree
    refine ⟨hk.sound.frame rfl rfl (fun _ => id) ?_, hk.attended⟩
    simp only [CspStack.handOver]
    omega
  cases l with
  | server o => exact taskServer_inv h hg
  | route packet o =>
    simp only [step]
    split
    · exact ⟨t, h⟩
    · rename_i hnet
      obtain ⟨n, rfl, hk'⟩ := hk.takeOver (Nat.pos_of_ne_zero hnet)
      exact hcsp _ (hk'.routeWork (hP packet o rfl) o)
  | timeout i => exact hcsp _ (hk.timeout i)
  | release i packet =>
    rcases hr : rdpRelease s.csp i packet with ⟨csp, lost⟩
    obtain ⟨n, rfl, hk'⟩ := hk.rdpRelease hr
    simp only [step, hr]
    refine ⟨n, hk', ?_, hconn, hftp⟩
    show n + s.pc.inHand + unreleased s.ledger + (s.lost + lost.toNat) = cspBuffers
    omega
  | take =>
    simp only [step]
    split
    · exact ⟨t, h⟩
    · rename_i hfree
      exact hcsp _ (htake hfree)
  | give =>
    simp only [step]
    split
    · exact ⟨t, h⟩
    · rename_i hnet
      obtain ⟨n, rfl, hk'⟩ := hk.takeOver (Nat.pos_of_ne_zero hnet)
      exact hcsp _ hk'.bufferFree
  | cloneSyn =>
    simp only [step]
    split
    · exact ⟨t, h⟩
    · rename_i hnet
      split
      · exact hlose hnet
      · rename_i hfree
        exact hcsp _ (htake hfree)
  | requeue room =>
    simp only [step]
    split
    · exact ⟨t, h⟩
    · rename_i hc
      exact hlose fun hnet => hc (.inl hnet)
  | ftpRead i =>
    simp only [step]
    split
    · rename_i hi
      split
      all_goals
        rename_i hr
        obtain ⟨n, hn, hk'⟩ := hk.read (hftp i hi) hr
      · exact hcsp _ (hn ▸ hk')
      · exact hcsp _ (hn ▸ hk'.bufferFree)
    · exact ⟨t, h⟩
  | ftpClose i =>
    simp only [step]
    split
    · rename_i hi
      exact ⟨t, hk.close (hftp i hi), hacc, hconn, fun j hj => hftp j (List.mem_of_mem_erase hj)⟩
    · exact ⟨t, h⟩

/-- Only a step that handles a packet records something. -/
theorem step_records {l : Label} (h : ∀ o i id packet, l = .server o → s.pc ≠ .handle i id packet) :
    (step s l).ledger = s.ledger ∧ (step s l).downlinks = s.downlinks := by
  constructor
  all_goals cases l with
    | server o =>
      cases hpc : s.pc with
      | handle i id packet => exact absurd hpc (h o i id packet rfl)
      | _ =>
        simp only [step, taskServer, hpc]
        repeat' split
        all_goals rfl
    | _ =>
      simp only [step]
      repeat' split
      all_goals rfl

/-- The server hands a packet to a handler, or the step records nothing. -/
theorem handles_or_records_nothing (s : ServerState) (l : Label) :
    (∃ o i id packet, l = .server o ∧ s.pc = .handle i id packet) ∨
      (∀ o i id packet, l = .server o → s.pc ≠ .handle i id packet) := by
  by_cases hh : ∃ o i id packet, l = .server o ∧ s.pc = .handle i id packet
  · exact .inl hh
  · exact .inr fun o i id packet hl hpc => hh ⟨o, i, id, packet, hl, hpc⟩

/-! ## Recording downlink packets -/

theorem headerValues_eq_iff (a b : CspId) :
    (a.headerValues.src = b.src ∧ a.headerValues.dst = b.dst ∧ a.headerValues.sport = b.sport ∧
      a.headerValues.dport = b.dport) ↔ a.sameConn b = true := by
  simp only [CspId.headerValues, CspId.sameConn, Bool.and_eq_true, beq_iff_eq]
  tauto

/-- The server records a packet where it hands it to `receive_packet` and the checksum is right. -/
theorem taskServer_downlinks {i : Fin cspConnMax} {id : CspId} {packet : CspPacket}
    (hpc : s.pc = .handle i id packet) (o : Outcomes) :
    (taskServer s o).downlinks
      = if (s.csp.conns i).idin.dport = myPort ∧ o.crc = true then
          { idin := id, header := cspConnGetHeaderValues s.csp } :: s.downlinks
        else s.downlinks := by
  have hheader := dispatch_header o i packet { csp := s.csp, uses := [] }
  simp only [taskServer, hpc, hheader]
  split <;> rfl

/-- The step keeps the records right exactly if the header slot matches. -/
theorem ownHeaders_step_iff {l : Label} (h : OwnHeaders s)
    (hslot : (s.csp.conns headerSlot).idin = lastOpened s.csp.openings headerSlot) :
    OwnHeaders (step s l) ↔ HeaderSlotMatches s l := by
  rcases handles_or_records_nothing s l with ⟨o, i, id, packet, rfl, hpc⟩ | hno
  · have hmatch : HeaderSlotMatches s (.server o) ↔
        ((s.csp.conns i).idin.dport = myPort ∧ o.crc = true →
          (lastOpened s.csp.openings headerSlot).sameConn id = true) := by
      rw [HeaderSlotMatches, hpc, Pc.Serving]
    rw [hmatch]
    simp only [OwnHeaders, step, taskServer_downlinks hpc]
    split
    · rename_i hc
      have hown := headerValues_eq_iff (s.csp.conns headerSlot).idin id
      rw [List.forall_mem_cons, ← hslot, ← hown]
      exact ⟨fun h _ => h.1, fun hm => ⟨hm hc, h⟩⟩
    · rename_i hc
      exact ⟨fun _ hc' => absurd hc' hc, fun _ => h⟩
  · have hmatch : HeaderSlotMatches s l := by
      cases l with
      | server o =>
        cases hpc : s.pc with
        | handle i id packet => exact absurd hpc (hno o i id packet rfl)
        | _ => rw [HeaderSlotMatches, hpc]; trivial
      | _ => trivial
    rw [OwnHeaders, (step_records hno).2]
    exact ⟨fun _ => hmatch, fun _ => h⟩

/-- **Downlink records.** In every run, the packets recorded so far are under their own connection
at every moment exactly if, whenever one is recorded, the connection opened last in the header slot
has the addresses and ports of the connection being served. -/
theorem ownHeaders_run_iff (address sport : Fin 32) (labels : List Label) :
    (∀ pre, pre <+: labels → OwnHeaders (pre.foldl step (.init address sport))) ↔
      Run.Guarded step HeaderSlotMatches (.init address sport) labels := by
  refine Run.forall_prefix_iff (A := fun _ _ => True)
    (J := fun s => ∃ t, s.Inv (fun _ => True) True t)
    (fun s l h hj _ => ?_) (fun s l _ hj _ _ => ?_) ?_ ⟨_, inv_init address sport trivial⟩
    (Run.guarded_of_forall fun _ _ => trivial)
  · obtain ⟨t, hinv⟩ := hj
    exact ownHeaders_step_iff h (hinv.kept.sound.idin_eq headerSlot)
  · obtain ⟨t, hinv⟩ := hj
    exact step_inv hinv (.inl ⟨trivial, fun _ => trivial⟩) fun _ _ _ => trivial
  · intro d hd
    cases hd

def plainOutcomes : Outcomes :=
  { crc := true, connect := true, send := true, cmp := true, tasks := none, object := .freed }

def packetTo (src : Fin 32) (sport dport : Fin 64) : CspPacket :=
  { CspPacket.zero with
    id := { pri := cspPrioNorm, src := src, dst := ⟨10, by decide⟩, dport := dport, sport := sport,
            flags := 0 } }

/-- The packet arrives, and the server takes it from `csp_accept` back to `csp_accept`. -/
def serve (packet : CspPacket) (o : Outcomes) : List Label :=
  [.take, .route packet { forwarded := true, secure := true, rdp := .drop }] ++
    List.replicate 6 (.server o)

/-- The first connection gets slot 2. The second one gets slot 3, and its packet is recorded under
the first. -/
theorem second_packet_recorded_under_first :
    ¬OwnHeaders ((serve (packetTo 1 20 15) plainOutcomes ++
      serve (packetTo 2 21 15) plainOutcomes).foldl step (.init 10 0)) := by
  unfold OwnHeaders
  decide +kernel

/-! ## Conserving buffers and connections -/

/-- If every packet was released and RDP lost none, all buffers and slots are back once the server is
idle. -/
theorem conserved_of_inv (h : s.Inv P False t) (hledger : ∀ uses ∈ s.ledger, uses.length = 1)
    (hlost : s.lost = 0) : Conserved s := by
  refine ⟨hledger, fun ⟨hpc, hback, hrdp⟩ => ?_⟩
  obtain ⟨⟨hsound, hatt⟩, hacc, -, -⟩ := h
  -- no open connection but the socket is left
  have hopen : ∀ i, (s.csp.conns i).state = .open → i = listener := by
    intro i hi
    rcases hatt i hi with h | h | h | h
    · exact h
    · simp [hpc, Pc.conn] at h
    · simp [hback] at h
    · exact absurd h.1 (by simp [hrdp i hi])
  have hclosed : ∀ i, i ≠ listener → (s.csp.conns i).state = .closed := fun i hi => by
    cases hst : (s.csp.conns i).state with
    | closed => rfl
    | «open» => exact absurd (hopen i hst) hi
  have hqueues : ∀ i, (s.csp.conns i).rxQueue.buffers = 0 := fun i => by
    by_cases hi : i = listener
    · rw [hi, hsound.socket]; rfl
    · exact hsound.closed_empty i (hclosed i hi)
  have hunreleased : unreleased s.ledger = 0 := by
    refine List.sum_eq_zero ?_
    intro n hn
    obtain ⟨uses, huses, rfl⟩ := List.mem_map.mp hn
    simp [hledger uses huses]
  constructor
  · have haccount := hsound.account
    simp only [CspStack.accounted, hqueues, Finset.sum_const_zero] at haccount
    simp only [hpc, Pc.inHand, hunreleased, hlost] at hacc
    omega
  · ext i
    simp only [closedSlots, Finset.mem_filter, Finset.mem_univ, true_and, Finset.mem_compl,
      Finset.mem_singleton]
    refine ⟨fun hst hi => ?_, hclosed i⟩
    rw [hi, hsound.socket] at hst
    cases hst

/-- A packet that is served as `Releases` asks for is released once. -/
theorem step_ledger {l : Label} (h : ∀ uses ∈ s.ledger, uses.length = 1) (hg : Releases s l) :
    ∀ uses ∈ (step s l).ledger, uses.length = 1 := by
  rcases handles_or_records_nothing s l with ⟨o, i, id, packet, rfl, hpc⟩ | hno
  · rw [Releases, hpc] at hg
    obtain ⟨hmy, hping, -⟩ := hg
    simp only [step, taskServer, hpc]
    refine List.forall_mem_cons.mpr ⟨?_, h⟩
    rw [dispatch_uses, if_neg (not_or.mpr ⟨hmy, hping⟩)]
  · rw [(step_records hno).1]
    exact h

/-- The server loses nothing of RDP's. -/
theorem taskServer_lost (s : ServerState) (o : Outcomes) : (taskServer s o).lost = s.lost := by
  unfold taskServer
  cases s.pc with
  | accept =>
    dsimp only
    split
    · rfl
    · split <;> rfl
  | read i =>
    dsimp only
    split <;> rfl
  | _ => rfl

/-- RDP loses nothing where `Releases` holds. -/
theorem step_lost {l : Label} (h : s.lost = 0) (hg : Releases s l) : (step s l).lost = 0 := by
  cases l with
  | server o => exact (taskServer_lost s o).trans h
  | release i packet =>
    rcases hr : rdpRelease s.csp i packet with ⟨csp, lost⟩
    obtain rfl := rdpRelease_fits hg hr
    simp only [step, hr]
    exact h
  | cloneSyn =>
    have hfree : s.csp.free ≠ 0 := hg
    simp only [step, hfree, if_false]
    split
    all_goals exact h
  | requeue room =>
    have hroom : room = true := hg
    simp only [step, hroom, or_true, if_true]
    exact h
  | _ =>
    simp only [step]
    repeat' split
    all_goals exact h

/-- The packet arrives over RDP, which makes `v` of it. -/
def arriveRdp (packet : CspPacket) (v : RdpVerdict) : List Label :=
  [.take, .route { packet with id := { packet.id with flags := cspFrdp } }
    { forwarded := true, secure := true, rdp := v }]

/-- RDP keeps an early packet and moves it to the receive queue of the connection when that is full.
The server answers one packet, closes the connection and flushes the rest. -/
def earlyIntoFullQueue (i : Fin cspConnMax) (packet : CspPacket) : List Label :=
  arriveRdp packet .syn ++ arriveRdp packet .early ++
    (List.replicate 25 (arriveRdp packet .data)).flatten ++
    [.release i packet] ++ List.replicate 10 (.server plainOutcomes) ++ [.give]

end CspTerm.Server
