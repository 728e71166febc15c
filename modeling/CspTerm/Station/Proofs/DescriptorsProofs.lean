import CspTerm.Downlink.Proofs.McsSocketProofs
import CspTerm.Station.Descriptors
import CspTerm.Uplink.Proofs.FileErrorsProofs

/-!
# When the station conserves its descriptors

Each function is followed through its operations: what it returns early from it must not have opened,
and what it goes on with it must close.
-/

namespace CspTerm

open CString CspTerm.Csp CspTerm.Rotator CspTerm.Uplink CspTerm.Downlink Descriptors

/-! ## The serial port -/

/-- What both functions do with the port: it stays open if it cannot be configured. -/
abbrev portOps (openFd setting : Int) : List (FileOp Int) :=
  if openFd < 0 then session none
  else if setting ≠ 0 then [.opened (some openFd)]
  else session (some openFd)

theorem after_portOps_iff {t : Finset Int} {openFd setting : Int}
    (h : Unused t (portOps openFd setting)) :
    after t (portOps openFd setting) = t ↔ (0 ≤ openFd → setting = 0) := by
  unfold portOps at h ⊢
  by_cases hfd : openFd < 0
  · rw [if_pos hfd] at h ⊢
    exact ⟨fun _ hopen => absurd hopen (by omega), fun _ => after_session h⟩
  rw [if_neg hfd] at h ⊢
  by_cases hset : setting ≠ 0
  · rw [if_pos hset] at h ⊢
    exact ⟨fun hsame => absurd hsame (after_leaked h List.not_mem_nil),
      fun hok => absurd (hok (by omega)) hset⟩
  · rw [if_neg hset] at h ⊢
    exact ⟨fun _ _ => not_not.mp hset, fun _ => after_session h⟩

theorem serialRead_ops (env : SerialReadEnv) :
    (serialRead env).2 = portOps env.openFd (setInterface env.tcgetattr env.tcsetattr) := by
  unfold serialRead
  dsimp only
  split_ifs <;> rfl

/-- What a call of `serial_set_az_el` does that is not suppressed. -/
theorem serialSetAzEl_fileOps {s : RotatorState} {azi ele : Int} (env : SerialEnv)
    (h : ¬ s.tooClose azi ele) :
    (serialSetAzEl s azi ele env).fileOps env =
      portOps env.openFd (setInterface env.tcgetattr env.tcsetattr) := by
  have hlock : ¬ azelTrackCmdLock = 1 := by decide
  unfold SerialCall.fileOps serialSetAzEl portOps
  rw [if_neg hlock, if_neg h]
  dsimp only
  by_cases hfd : env.openFd < 0
  · rw [if_pos hfd, if_pos hfd]
    simp [SerialOp.fileOp?, hfd, session]
  rw [if_neg hfd, if_neg hfd]
  by_cases hset : setInterface env.tcgetattr env.tcsetattr ≠ 0
  · rw [if_pos hset, if_pos hset]
    simp [SerialOp.fileOp?, hfd]
  · rw [if_neg hset, if_neg hset]
    unfold writePosition
    dsimp only
    split_ifs <;> simp [List.filterMap_cons, SerialOp.fileOp?, hfd, session]

theorem serialSetAzEl_suppressed {s : RotatorState} {azi ele : Int} (env : SerialEnv)
    (h : s.tooClose azi ele) : (serialSetAzEl s azi ele env).fileOps env = [] := by
  have hlock : ¬ azelTrackCmdLock = 1 := by decide
  unfold SerialCall.fileOps serialSetAzEl
  rw [if_neg hlock, if_pos h]
  rfl

/-! ## `downlink_client` -/

/-- With a connection, descriptors are conserved exactly when the file does not open. -/
theorem sendFileIo_conserves_iff {base t : Finset Int} {g : McsSocket} (io : DownlinkIo)
    (hret : g.ret = false) (hheld : HeldOnly base g t) (h : Unused t (sendFileIo g io).2) :
    HeldOnly base (sendFileIo g io).1 (after t (sendFileIo g io).2) ↔ io.fileFd = none := by
  unfold sendFileIo at h ⊢
  cases hfile : io.fileFd with
  | none =>
    rw [hfile] at h
    refine ⟨fun _ => rfl, fun _ => ?_⟩
    show HeldOnly base g (after t (session none))
    rw [after_session h]
    exact hheld
  | some fs =>
    rw [hfile] at h
    dsimp only at h ⊢
    obtain ⟨hclosed, hsock⟩ := sendBlocksIo_closed g io.sends
    have hfresh : fs ∉ t := h.1 fs rfl
    have hbase : fs ∉ base := fun hmem => hfresh (by
      rw [hheld.2]
      exact Finset.mem_union_left _ hmem)
    have hne : fs ≠ g.sock := fun heq => hfresh (by
      rw [hheld.2, McsSocket.held, if_neg (by simp [hret]), heq]
      exact Finset.mem_union_right _ (Finset.mem_singleton_self _))
    refine ⟨fun hafter => ?_, fun hnone => by cases hnone⟩
    have hopen : fs ∈ after (t ∪ {fs}) (sendBlocksIo g io.sends).2 :=
      mem_after (Finset.mem_union_right t (Finset.mem_singleton_self fs)) (hclosed fs hne)
    have hmem : fs ∈ base ∪ (sendBlocksIo g io.sends).1.held := by
      rw [← hafter.2]
      exact hopen
    rcases Finset.mem_union.mp hmem with hmem | hmem
    · exact absurd hmem hbase
    · have hsame := Finset.mem_singleton.mp (held_subset _ hmem)
      exact absurd (hsame.trans hsock) hne

theorem heldOnly_iff_of_ret {base t : Finset Int} {g : McsSocket} (h : g.ret = true) :
    HeldOnly base g t ↔ t = base := by
  unfold HeldOnly McsSocket.held
  rw [if_pos h, Finset.union_empty]
  exact ⟨fun hheld => hheld.2, fun heq => ⟨Finset.disjoint_empty_right base, heq⟩⟩

/-- Where the function returns with `ret` at 1, it conserves descriptors if it opened none. -/
theorem heldOnly_after_iff {base t : Finset Int} {g g' : McsSocket} {ops : List (FileOp Int)}
    (hret : g.ret = true) (hret' : g'.ret = true) (hheld : HeldOnly base g t) :
    HeldOnly base g' (after t ops) ↔ after t ops = t := by
  rw [heldOnly_iff_of_ret hret', (heldOnly_iff_of_ret hret).mp hheld]

/-- **When `downlink_client` conserves descriptors**, apart from the socket that `ret` stands for. -/
theorem downlinkClientIo_conserves_iff {base t : Finset Int} {g : McsSocket} (io : DownlinkIo)
    (hheld : HeldOnly base g t) (h : Unused t (downlinkClientIo g io).2) :
    HeldOnly base (downlinkClientIo g io).1 (after t (downlinkClientIo g io).2) ↔
      DownlinkConserves g io := by
  unfold DownlinkConserves
  cases hret : g.ret with
  | false =>
    rw [downlinkClientIo_held io hret] at h ⊢
    rw [sendFileIo_conserves_iff io hret hheld h]
    simp
  | true =>
    simp only [true_and, forall_const]
    by_cases hsocket : io.socketFd < 0
    · rw [downlinkClientIo_no_socket hret hsocket] at h ⊢
      dsimp only at h ⊢
      rw [heldOnly_after_iff hret (by exact hret) hheld]
      exact ⟨fun _ => Or.inl hsocket, fun _ => after_session h⟩
    by_cases hfail : io.inetPton ≤ 0 ∨ io.connect < 0
    · obtain ⟨ops, hclosed, hops⟩ := downlinkClientIo_unconnected hret hsocket hfail
      rw [hops] at h ⊢
      dsimp only at h ⊢
      rw [heldOnly_after_iff hret (by exact hret) hheld]
      refine ⟨fun hafter => absurd hafter (after_leaked h hclosed), ?_⟩
      · rintro (hno | ⟨⟨hpton, hconnect⟩, -⟩)
        · exact absurd hno hsocket
        · omega
    · obtain ⟨hpton, hconnect⟩ := not_or.mp hfail
      rw [downlinkClientIo_new hret hsocket hpton hconnect] at h ⊢
      have hbase : t = base := (heldOnly_iff_of_ret hret).mp hheld
      have hfresh : io.socketFd ∉ base := by
        rw [← hbase]
        exact h.1 io.socketFd rfl
      have hnew : HeldOnly base { ret := false, sock := io.socketFd }
          (after t [.opened (some io.socketFd), .used (some io.socketFd)]) :=
        ⟨Finset.disjoint_singleton_right.mpr hfresh, by rw [hbase]; rfl⟩
      rw [after_append, sendFileIo_conserves_iff io rfl hnew (unused_append.mp h).2]
      constructor
      · exact fun hfile => Or.inr ⟨⟨not_le.mp hpton, not_lt.mp hconnect⟩, hfile⟩
      · rintro (hno | ⟨-, hfile⟩)
        · exact absurd hno hsocket
        · exact hfile

/-! ## `receive_packet` -/

/-- The call returns and conserves descriptors. -/
def ReturnsConserved (base t : Finset Int) (c : Traced McsSocket) : Prop :=
  ∃ g, c.ending = .returned g ∧ HeldOnly base g (after t c.ops)

theorem returnsConserved_iff {base t : Finset Int} {g : McsSocket} {ops : List (FileOp Int)} :
    ReturnsConserved base t { ending := .returned g, ops := ops } ↔
      HeldOnly base g (after t ops) := by
  unfold ReturnsConserved
  simp

theorem not_returnsConserved_undefined {base t : Finset Int} {ops : List (FileOp Int)} :
    ¬ ReturnsConserved base t { ending := .undefined, ops := ops } := by
  rintro ⟨g, hg, -⟩
  cases hg

/-- With the variables as they were, the open descriptors must be what they were. -/
theorem heldOnly_same_iff {base t t' : Finset Int} {g : McsSocket} (hheld : HeldOnly base g t) :
    HeldOnly base g t' ↔ t' = t :=
  ⟨fun h => h.2.trans hheld.2.symm, fun h => by rw [h]; exact hheld⟩

section ReceivePacket

variable (crc : Crc16) (io : ReceiveIo) (count : UInt32) (headerValues : HeaderValues)
  (p : RadioPacket) (time : CStr) (g : McsSocket)

/-- **When `receive_packet` conserves descriptors.** -/
theorem receivePacketIo_conserves_iff {base t : Finset Int} (hheld : HeldOnly base g t)
    (hu : Unused t (receivePacketIo crc io count headerValues p time g).ops) :
    ReturnsConserved base t (receivePacketIo crc io count headerValues p time g) ↔
      (p.Accepted crc → io.fileFd.isSome →
        io.fwriteHeader ≠ 0 ∧ DownlinkConserves g io.downlink ∧ headerValues.flags = 0) := by
  by_cases hcrc : p.Accepted crc
  swap
  · rw [receivePacketIo_dropped crc io count headerValues p time g hcrc, returnsConserved_iff]
    exact ⟨fun _ h => absurd h hcrc, fun _ => hheld⟩
  simp only [hcrc, forall_const]
  cases hfile : io.fileFd with
  | none =>
    rw [receivePacketIo_notSaved crc io count headerValues p time g hcrc (Or.inl hfile),
      hfile] at hu ⊢
    rw [returnsConserved_iff, heldOnly_same_iff hheld]
    exact ⟨fun _ h => absurd h (by decide), fun _ => after_session (f := none) hu⟩
  | some fd =>
    simp only [Option.isSome_some, forall_const]
    by_cases hheader : io.fwriteHeader = 0
    · rw [receivePacketIo_notSaved crc io count headerValues p time g hcrc (Or.inr hheader),
        hfile] at hu ⊢
      rw [returnsConserved_iff, heldOnly_same_iff hheld]
      exact ⟨fun hsame => absurd hsame (after_leaked hu (by simp)), fun h => absurd hheader h.1⟩
    rw [receivePacketIo_saved crc io count headerValues p time g hcrc hfile hheader] at hu ⊢
    by_cases hflags : headerValues.flags = 0
    · rw [if_pos hflags] at hu ⊢
      obtain ⟨hu, hpacket⟩ := unused_append.mp hu
      obtain ⟨hu, hdownlink⟩ := unused_append.mp hu
      obtain ⟨hsaved, htelemetry⟩ := unused_append.mp hu
      rw [returnsConserved_iff]
      have hsame : after t (session (some fd) ++ publishOps io.telemetry) = t := by
        rw [after_append, after_session hsaved]
        rw [after_session hsaved] at htelemetry
        exact after_publishOps htelemetry
      rw [after_append, after_publishOps hpacket, after_append, hsame]
      rw [hsame] at hdownlink
      rw [downlinkClientIo_conserves_iff io.downlink hheld hdownlink]
      exact ⟨fun h => ⟨hheader, h, hflags⟩, fun h => h.2.1⟩
    · rw [if_neg hflags]
      exact ⟨fun h => absurd h not_returnsConserved_undefined, fun h => absurd h.2.2 hflags⟩

end ReceivePacket

/-! ## The calls of the station -/

/-- `process_mcs_file` closes its file whenever it returns. -/
theorem processMcsFile_conserves_iff {base t : Finset Int} {g : McsSocket}
    (fs1 : Option McsFileRead) (headerBuffer : List UInt8) (data : CspData)
    (hheld : HeldOnly base g t) (hu : Unused t (processMcsFileIo fs1 headerBuffer data).ops) :
    ReturnsConserved base t
        { ending := (processMcsFileIo fs1 headerBuffer data).ending.map fun _ => g
          ops := (processMcsFileIo fs1 headerBuffer data).ops } ↔
      ∃ f, fs1 = some f ∧
        (mcsHeaderSize < f.size → f.header ≠ [] → f.payload.length ≤ cspBufferSize) := by
  cases fs1 with
  | none => exact ⟨fun ⟨_, h, _⟩ => (by cases h), fun ⟨_, h, _⟩ => (by cases h)⟩
  | some f =>
    simp only [Option.some.injEq, exists_eq_left']
    by_cases hfit : mcsHeaderSize < f.size → f.header ≠ [] → f.payload.length ≤ cspBufferSize
    · refine iff_of_true ?_ hfit
      by_cases hproc : Processable (some f)
      · have hfit' : f.payload.length ≤ cspBufferSize := by
          obtain ⟨_, ⟨⟩, hsize, hheader, -⟩ := hproc
          exact hfit hsize hheader
        rw [processMcsFileIo_processed _ _ hproc hfit'] at hu ⊢
        exact ⟨g, rfl, (heldOnly_same_iff hheld).mpr (after_session (f := some f.fd) hu)⟩
      · rw [processMcsFileIo_refused _ _ hproc hfit] at hu ⊢
        exact ⟨g, rfl, (heldOnly_same_iff hheld).mpr (after_session (f := some f.fd) hu)⟩
    · refine iff_of_false ?_ hfit
      push Not at hfit
      rw [processMcsFileIo_overrun _ _ hfit.1 hfit.2.1 hfit.2.2]
      exact not_returnsConserved_undefined

/-- `send_packet_execute` closes its files whenever it returns. -/
theorem sendPacketExecute_conserves_iff {base t : Finset Int} {g : McsSocket} (io : ExecuteIo)
    (s : DefinedStation) (origin : Option CStr) (header : Option McsPacketHeader)
    (packet : Option CspPacket) (payload : Option Payload) (payloadLen : Nat)
    (hheld : HeldOnly base g t)
    (hu : Unused t (sendPacketExecuteIo io s origin header packet payload payloadLen).ops) :
    ReturnsConserved base t
        { ending := (sendPacketExecuteIo io s origin header packet payload
            payloadLen).ending.map fun _ => g
          ops := (sendPacketExecuteIo io s origin header packet payload payloadLen).ops } ↔
      ∀ h p l, header = some h → packet = some p → payload = some l →
        UpdateMeaningful io s h (l.read (sized p payloadLen) payloadLen) := by
  rcases header with _ | header
  · exact iff_of_true ⟨g, rfl, hheld⟩ fun _ _ _ h => (by cases h)
  rcases packet with _ | packet
  · exact iff_of_true ⟨g, rfl, hheld⟩ fun _ _ _ _ h => (by cases h)
  rcases payload with _ | payload
  · exact iff_of_true ⟨g, rfl, hheld⟩ fun _ _ _ _ _ h => (by cases h)
  have hall : (∀ h p l, some header = some h → some packet = some p → some payload = some l →
      UpdateMeaningful io s h (l.read (sized p payloadLen) payloadLen)) ↔
      UpdateMeaningful io s header (payload.read (sized packet payloadLen) payloadLen) := by
    constructor
    · exact fun h => h _ _ _ rfl rfl rfl
    · rintro h _ _ _ ⟨⟩ ⟨⟩ ⟨⟩
      exact h
  rw [hall]
  by_cases h : UpdateMeaningful io s header (payload.read (sized packet payloadLen) payloadLen)
  · rw [sendPacketExecuteIo_of_meaningful io s origin header packet payload payloadLen h] at hu ⊢
    refine iff_of_true ⟨g, rfl, (heldOnly_same_iff hheld).mpr ?_⟩ h
    obtain ⟨hupdate, hsent⟩ := unused_append.mp hu
    have hsame : after t (updateOps io s header
        (payload.read (sized packet payloadLen) payloadLen)) = t := by
      rcases updateOps_cases io s header h with hops | hops
      · rw [hops, after_nil]
      · rw [hops] at hupdate ⊢
        exact after_session hupdate
    rw [hsame] at hsent
    show after t (_ ++ _) = t
    rw [after_append, hsame, after_session hsent]
  · refine iff_of_false ?_ h
    rintro ⟨_, hend, -⟩
    have hundefined := sendPacketExecuteIo_of_not_meaningful io s origin header packet payload
      payloadLen h
    dsimp only at hend
    rw [hundefined] at hend
    cases hend

/-- What the machine makes of a call. -/
theorem conserved_step_iff {base : Finset Int} (p : Process) (c : StationCall) :
    Conserved base (Process.step (some p) c) ↔ ReturnsConserved base p.fds (c.run p.client) := by
  unfold ReturnsConserved Process.step
  rw [Option.bind_some]
  cases (c.run p.client).ending with
  | returned g =>
    simp only [Ending.returned.injEq, exists_eq_left']
    rfl
  | exited => exact ⟨fun h => h.elim, fun ⟨_, h, _⟩ => (by cases h)⟩
  | undefined => exact ⟨fun h => h.elim, fun ⟨_, h, _⟩ => (by cases h)⟩

/-- **When a call conserves descriptors**: it returns, and has open what was open before, apart from
the socket that `ret` stands for. -/
theorem step_conserved_iff {base : Finset Int} {p : Process} (hp : Conserved base (some p))
    (c : StationCall) (hu : KernelContract (some p) c) :
    Conserved base (Process.step (some p) c) ↔ c.Conserves p.client := by
  have hheld : HeldOnly base p.client p.fds := hp
  have hunused : Unused p.fds (c.run p.client).ops := hu p rfl
  rw [conserved_step_iff]
  cases c with
  | serialRead env =>
    show ReturnsConserved base p.fds { ending := .returned p.client, ops := (serialRead env).2 } ↔ _
    rw [returnsConserved_iff, heldOnly_same_iff hheld, serialRead_ops]
    refine after_portOps_iff ?_
    rw [← serialRead_ops]
    exact hunused
  | serialSetAzEl s azi ele env =>
    show ReturnsConserved base p.fds
      { ending := .returned p.client, ops := (serialSetAzEl s azi ele env).fileOps env } ↔
        (¬ s.tooClose azi ele → _)
    rw [returnsConserved_iff, heldOnly_same_iff hheld]
    by_cases hclose : s.tooClose azi ele
    · rw [serialSetAzEl_suppressed env hclose]
      exact ⟨fun _ h => absurd hclose h, fun _ => rfl⟩
    · rw [serialSetAzEl_fileOps env hclose]
      simp only [hclose, not_false_eq_true, forall_const]
      refine after_portOps_iff ?_
      rw [← serialSetAzEl_fileOps env hclose]
      exact hunused
  | processMcsFile fs1 headerBuffer data =>
    exact processMcsFile_conserves_iff fs1 headerBuffer data hheld hunused
  | receivePacket crc io count headerValues packet time =>
    exact receivePacketIo_conserves_iff crc io count headerValues packet time p.client hheld hunused
  | sendPacketExecute io s origin header packet payload payloadLen =>
    exact sendPacketExecute_conserves_iff io s origin header packet payload payloadLen hheld hunused
  | downlinkClient io =>
    show ReturnsConserved base p.fds { ending := .returned (downlinkClientIo p.client io).1
                                       ops := (downlinkClientIo p.client io).2 } ↔ _
    rw [returnsConserved_iff]
    exact downlinkClientIo_conserves_iff io hheld hunused

end CspTerm
