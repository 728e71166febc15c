import CspTerm.Downlink.McsSocket
import CspTerm.Downlink.Proofs.CrcCheckProofs
import CspTerm.Downlink.Proofs.DownlinkClientProofs

/-!
# The ways through the downlink functions

What `downlink_client` and `receive_packet` do with descriptors on each of their ways.
-/

namespace CspTerm.Downlink

open CString CspTerm.Csp CspTerm.Archive CspTerm.Uplink Descriptors

/-! ## `downlink_client` -/

/-- The loop closes no descriptor but the socket. -/
theorem sendBlocksIo_closed (g : McsSocket) (sends : List Int) :
    (∀ f, f ≠ g.sock → .closed (some f) ∉ (sendBlocksIo g sends).2) ∧
      (sendBlocksIo g sends).1.sock = g.sock := by
  induction sends with
  | nil => exact ⟨fun _ _ => List.not_mem_nil, rfl⟩
  | cons sent sends ih =>
    unfold sendBlocksIo
    dsimp only
    split_ifs
    · refine ⟨fun f hf hmem => ?_, rfl⟩
      simp only [List.mem_cons, reduceCtorEq, FileOp.closed.injEq, Option.some.injEq,
        List.not_mem_nil, or_false, false_or] at hmem
      exact hf hmem
    · refine ⟨fun f hf hmem => ih.1 f hf ?_, ih.2⟩
      simpa using hmem

theorem held_subset (g : McsSocket) : g.held ⊆ {g.sock} := by
  unfold McsSocket.held
  split_ifs
  · exact Finset.empty_subset _
  · exact Finset.Subset.refl _

/-! The ways through `downlink_client`: with the connection that it has, without a socket, with a
socket that it cannot connect, and with a new connection. -/

theorem downlinkClientIo_held {g : McsSocket} (io : DownlinkIo) (hret : g.ret = false) :
    downlinkClientIo g io = sendFileIo g io := by
  unfold downlinkClientIo setupConnection
  rw [if_neg (by simp [hret])]
  rfl

section NewConnection

variable {g : McsSocket} {io : DownlinkIo} (hret : g.ret = true)
include hret

theorem downlinkClientIo_no_socket (hsocket : io.socketFd < 0) :
    downlinkClientIo g io = ({ g with sock := io.socketFd }, session none) := by
  unfold downlinkClientIo setupConnection
  dsimp only
  rw [if_pos hret, if_pos hsocket]
  rfl

theorem downlinkClientIo_unconnected (hsocket : ¬ io.socketFd < 0)
    (h : io.inetPton ≤ 0 ∨ io.connect < 0) :
    ∃ ops, .closed (some io.socketFd) ∉ ops ∧
      downlinkClientIo g io =
        ({ g with sock := io.socketFd }, .opened (some io.socketFd) :: ops) := by
  unfold downlinkClientIo setupConnection
  dsimp only
  rw [if_pos hret, if_neg hsocket]
  by_cases hpton : io.inetPton ≤ 0
  · rw [if_pos hpton]
    exact ⟨[], List.not_mem_nil, rfl⟩
  · rw [if_neg hpton, if_pos (h.resolve_left hpton)]
    exact ⟨[.used (some io.socketFd)], by simp, rfl⟩

theorem downlinkClientIo_new (hsocket : ¬ io.socketFd < 0) (hpton : ¬ io.inetPton ≤ 0)
    (hconnect : ¬ io.connect < 0) :
    downlinkClientIo g io =
      ((sendFileIo { ret := false, sock := io.socketFd } io).1,
        [.opened (some io.socketFd), .used (some io.socketFd)] ++
          (sendFileIo { ret := false, sock := io.socketFd } io).2) := by
  unfold downlinkClientIo setupConnection
  dsimp only
  rw [if_pos hret, if_neg hsocket, if_neg hpton, if_neg hconnect]
  rfl

end NewConnection

/-- With a connection, `ret` tells in the end whether `send` has failed. -/
theorem sendBlocksIo_ret {g : McsSocket} (h : g.ret = false) (send : Nat → Option Nat) (i : Nat)
    (blocks : List (List UInt8)) :
    (sendBlocksIo g (sendResults send i blocks)).1.ret = (sendBlocks send i blocks).2 := by
  induction blocks generalizing i with
  | nil => exact h
  | cons block blocks ih =>
    unfold sendResults sendBlocksIo sendBlocks
    cases send i with
    | none => rfl
    | some taken =>
      have hsent : ¬ (taken : Int) < 0 := by omega
      show (if (taken : Int) < 0 then _ else _ : McsSocket × List (FileOp Int)).1.ret = _
      rw [if_neg hsent]
      exact ih (i + 1)

theorem sendFileIo_ret {g : McsSocket} (h : g.ret = false) (s s' : Forwarding) (c : DownlinkCall)
    (conn : McsConnection) (socketFd fileFd : Nat) :
    (sendFileIo g (c.io s' socketFd fileFd)).1.ret = (sendFile s c conn).sock.isNone := by
  unfold sendFileIo sendFile DownlinkCall.io
  cases c.file with
  | none => exact h
  | some content =>
    show (sendBlocksIo g (sendResults c.send 0 (freadBlocks content))).1.ret = _
    rw [sendBlocksIo_ret h]
    dsimp only
    split_ifs with hfailed
    · exact hfailed
    · exact Bool.eq_false_iff.mpr hfailed

/-- A call without a connection leaves none. -/
theorem downlinkClient_unconnected {s : Forwarding} {c : DownlinkCall}
    (h : connectMcs s c = none) : (downlinkClient s c).sock = s.sock := by
  unfold downlinkClient
  rw [h, foldl_accept]
  rfl

/-- What a call needs for a new connection. -/
def DownlinkCall.Connects (c : DownlinkCall) (s : Forwarding) : Prop :=
  c.socket = true ∧ s.clientAddr.isSome ∧ c.connect = true

theorem connectMcs_of_connects {s : Forwarding} {c : DownlinkCall} (hsock : s.sock = none)
    (h : c.Connects s) : ∃ conn, connectMcs s c = some conn := by
  obtain ⟨hsocket, haddr, hconnect⟩ := h
  obtain ⟨addr, haddr⟩ := Option.isSome_iff_exists.mp haddr
  unfold connectMcs
  rw [hsock]
  exact ⟨.opened addr, by simp [hsocket, haddr, hconnect]⟩

theorem connectMcs_of_not_connects {s : Forwarding} {c : DownlinkCall} (hsock : s.sock = none)
    (h : ¬ c.Connects s) : connectMcs s c = none := by
  unfold DownlinkCall.Connects at h
  unfold connectMcs
  rw [hsock]
  dsimp only
  by_cases hsocket : c.socket = true
  · rw [if_pos hsocket]
    cases haddr : s.clientAddr with
    | none => rfl
    | some addr => exact if_neg fun hconnect => h ⟨hsocket, by rw [haddr]; rfl, hconnect⟩
  · exact if_neg hsocket

/-- A call that makes no new connection leaves `ret` at 1. -/
theorem downlinkClientIo_ret_of_not_connects {g : McsSocket} {s : Forwarding} {c : DownlinkCall}
    (hret : g.ret = true) (h : ¬ c.Connects s) (socketFd fileFd : Nat) :
    (downlinkClientIo g (c.io s socketFd fileFd)).1.ret = true := by
  unfold DownlinkCall.Connects at h
  by_cases hsocket : (c.io s socketFd fileFd).socketFd < 0
  · rw [downlinkClientIo_no_socket hret hsocket]
    exact hret
  · have hmade : c.socket = true := by
      by_contra hno
      exact hsocket (by simp [DownlinkCall.io, hno])
    have hfail : (c.io s socketFd fileFd).inetPton ≤ 0 ∨
        (c.io s socketFd fileFd).connect < 0 := by
      by_cases haddr : s.clientAddr.isSome = true
      · have hconnect : ¬ c.connect = true := fun hconnect => h ⟨hmade, haddr, hconnect⟩
        exact Or.inr (by simp [DownlinkCall.io, hconnect])
      · exact Or.inl (by simp [DownlinkCall.io, haddr])
    obtain ⟨ops, -, hops⟩ := downlinkClientIo_unconnected hret hsocket hfail
    rw [hops]
    exact hret

/-- **`ret` tells whether there is a connection**: what a call leaves in it agrees with what the call
does to the connection. -/
theorem downlinkClientIo_ret {g : McsSocket} {s : Forwarding} (h : g.ret = s.sock.isNone)
    (c : DownlinkCall) (socketFd fileFd : Nat) :
    (downlinkClientIo g (c.io s socketFd fileFd)).1.ret = (downlinkClient s c).sock.isNone := by
  cases hsock : s.sock with
  | some conn =>
    have hret : g.ret = false := by rw [h, hsock]; rfl
    have hconn : connectMcs s c = some conn := by unfold connectMcs; rw [hsock]
    rw [downlinkClientIo_held _ hret]
    unfold downlinkClient
    rw [hconn]
    exact sendFileIo_ret hret _ s c conn socketFd fileFd
  | none =>
    have hret : g.ret = true := by rw [h, hsock]; rfl
    by_cases hnew : c.Connects s
    · obtain ⟨conn, hconn⟩ := connectMcs_of_connects hsock hnew
      obtain ⟨hsocket, haddr, hconnect⟩ := hnew
      rw [downlinkClientIo_new hret (by simp [DownlinkCall.io, hsocket])
        (by simp [DownlinkCall.io, haddr]) (by simp [DownlinkCall.io, hconnect])]
      unfold downlinkClient
      rw [hconn]
      exact sendFileIo_ret rfl _ s c conn socketFd fileFd
    · rw [downlinkClientIo_ret_of_not_connects hret hnew,
        downlinkClient_unconnected (connectMcs_of_not_connects hsock hnew), hsock]
      rfl

/-! ## `receive_packet` -/

theorem after_publishOps {t : Finset Int} {io : PublishIo} (h : Unused t (publishOps io)) :
    after t (publishOps io) = t := after_session h

section ReceivePacket

variable (crc : Crc16) (io : ReceiveIo) (count : UInt32) (headerValues : HeaderValues)
  (p : RadioPacket) (time : CStr) (g : McsSocket)

theorem receivePacketIo_dropped (h : ¬ p.Accepted crc) :
    receivePacketIo crc io count headerValues p time g = { ending := .returned g, ops := [] } := by
  unfold receivePacketIo
  rw [(receiveChecked_dropped h io.env count headerValues time).1]

theorem receivePacketIo_notSaved (h : p.Accepted crc)
    (hfile : io.fileFd = none ∨ io.fwriteHeader = 0) :
    receivePacketIo crc io count headerValues p time g =
      { ending := .returned g
        ops := .opened io.fileFd :: io.fileFd.toList.map fun fd => .used (some fd) } := by
  have hnot : (receiveChecked crc io.env count headerValues p time).reception = .notSaved := by
    unfold RadioPacket.Accepted at h
    unfold receiveChecked
    dsimp only
    rw [if_neg (not_not.mpr h), if_pos (by simpa [ReceiveIo.env] using hfile)]
  unfold receivePacketIo
  rw [hnot]

theorem receivePacketIo_saved (h : p.Accepted crc) {fd : Int} (hfile : io.fileFd = some fd)
    (hheader : io.fwriteHeader ≠ 0) :
    receivePacketIo crc io count headerValues p time g =
      if headerValues.flags = 0 then
        { ending := .returned (downlinkClientIo g io.downlink).1
          ops := session (some fd) ++ publishOps io.telemetry ++
            (downlinkClientIo g io.downlink).2 ++ publishOps io.packet }
      else
        { ending := .undefined
          ops := session (some fd) ++ publishOps io.telemetry ++
            (downlinkClientIo g io.downlink).2 } := by
  have hopened : io.env.opened = true := by
    show io.fileFd.isSome = true
    rw [hfile]
    rfl
  have hpacket : (p.received io.env time count headerValues).packet.isSome ↔
      headerValues.flags = 0 := by
    have hzero : headerValues.flags.toNat = 0 ↔ headerValues.flags = 0 :=
      UInt8.toNat_inj (b := 0)
    unfold RadioPacket.received printAsString
    rw [Option.isSome_map, ← hzero]
    split_ifs with hflags <;> simp [hflags]
  unfold receivePacketIo
  rw [receiveChecked_accepted h hopened hheader, hfile]
  dsimp only
  by_cases hflags : headerValues.flags = 0
  · rw [if_pos hflags, if_pos (hpacket.mpr hflags)]
  · rw [if_neg hflags, if_neg fun hsome => hflags (hpacket.mp hsome)]

end ReceivePacket

end CspTerm.Downlink
