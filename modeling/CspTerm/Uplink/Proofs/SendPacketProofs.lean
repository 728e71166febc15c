import CspTerm.Radio.Proofs.DopplerProofs
import CspTerm.Uplink.Proofs.McsFileProofs
import CspTerm.Uplink.Requests

/-!
# What `send_packet_execute` and its callers do

One lemma for each branch of the request, one for each caller; from them, exactly when the answer
to a request is truthful, when the two uplink paths agree, and when an MCS file is transmitted as it
is.
-/

namespace CspTerm.Uplink

open CString CspTerm.Csp CspTerm.Radio

variable {τ : Type}

/-! ## Ground commands -/

theorem groundCommand_unknown (env : UplinkEnv τ) (s : Station τ) (packet : CspPacket) {c : UInt8}
    (args : List UInt8) (h0 : c ≠ 0x00) (h1 : c ≠ 0x01) (h2 : c ≠ 0x02) (h3 : c ≠ 0x03)
    (h6 : c ≠ 0x06) :
    groundCommand env s packet (c :: args) =
      { success := 1, consumed := false, packet := packet, station := s, events := [] } := by
  unfold groundCommand
  split <;> simp_all

theorem requestedCommand_unknown {c : UInt8} (args : List UInt8) (h0 : c ≠ 0x00) (h1 : c ≠ 0x01)
    (h2 : c ≠ 0x02) (h3 : c ≠ 0x03) (h6 : c ≠ 0x06) : requestedCommand (c :: args) = none := by
  unfold requestedCommand
  split <;> simp_all

theorem command_cases (c : UInt8) : c = 0x00 ∨ c = 0x01 ∨ c = 0x02 ∨ c = 0x03 ∨ c = 0x06 ∨
    (c ≠ 0x00 ∧ c ≠ 0x01 ∧ c ≠ 0x02 ∧ c ≠ 0x03 ∧ c ≠ 0x06) := by
  by_cases h0 : c = 0x00
  · exact Or.inl h0
  by_cases h1 : c = 0x01
  · exact Or.inr (Or.inl h1)
  by_cases h2 : c = 0x02
  · exact Or.inr (Or.inr (Or.inl h2))
  by_cases h3 : c = 0x03
  · exact Or.inr (Or.inr (Or.inr (Or.inl h3)))
  by_cases h6 : c = 0x06
  · exact Or.inr (Or.inr (Or.inr (Or.inr (Or.inl h6))))
  · exact Or.inr (Or.inr (Or.inr (Or.inr (Or.inr ⟨h0, h1, h2, h3, h6⟩))))

/-- What a ground command does is what the command that its payload names does: one case a command,
with and without the four bytes of its frequency. -/
theorem groundCommand_requested (env : UplinkEnv τ) (s : Station τ) (packet : CspPacket)
    (payload : List UInt8) :
    (groundCommand env s packet payload).events =
        ((requestedCommand payload).map GroundCommand.event).toList ∧
      (groundCommand env s packet payload).station =
        { s with doppler := (requestedCommand payload).elim s.doppler (·.effect env s) } := by
  rcases payload with _ | ⟨c, args⟩
  · exact ⟨rfl, rfl⟩
  rcases command_cases c with rfl | rfl | rfl | rfl | rfl | ⟨h0, h1, h2, h3, h6⟩
  · exact ⟨rfl, rfl⟩
  · rcases args with _ | ⟨no, args⟩ <;> exact ⟨rfl, rfl⟩
  · by_cases h : 5 ≤ (0x02 :: args : List UInt8).length
    · simp only [groundCommand, requestedCommand, ge_iff_le, if_pos h]
      exact ⟨rfl, rfl⟩
    · simp only [groundCommand, requestedCommand, ge_iff_le, if_neg h]
      exact ⟨rfl, rfl⟩
  · by_cases h : 5 ≤ (0x03 :: args : List UInt8).length
    · simp only [groundCommand, requestedCommand, ge_iff_le, if_pos h]
      exact ⟨rfl, rfl⟩
    · simp only [groundCommand, requestedCommand, ge_iff_le, if_neg h]
      exact ⟨rfl, rfl⟩
  · exact ⟨rfl, rfl⟩
  · rw [groundCommand_unknown env s packet args h0 h1 h2 h3 h6,
      requestedCommand_unknown args h0 h1 h2 h3 h6]
    exact ⟨rfl, rfl⟩

/-- The code performs the command that the payload names, and nothing else. -/
theorem groundCommand_events (env : UplinkEnv τ) (s : Station τ) (packet : CspPacket)
    (payload : List UInt8) :
    (groundCommand env s packet payload).events =
      ((requestedCommand payload).map GroundCommand.event).toList :=
  (groundCommand_requested env s packet payload).1

/-- The state after a ground command is the effect of the command that the payload names. -/
theorem groundCommand_station (env : UplinkEnv τ) (s : Station τ) (packet : CspPacket)
    (payload : List UInt8) :
    (groundCommand env s packet payload).station =
      { s with doppler := (requestedCommand payload).elim s.doppler (·.effect env s) } :=
  (groundCommand_requested env s packet payload).2

theorem ax100SetRxFreq_eq_one_iff (env : UplinkEnv τ) (r : Ax100) (freq : UInt32) :
    (ax100SetRxFreq env.toDopplerEnv r 29 1000 freq).1 = 1 ↔
      Accepts env.toDopplerEnv ax100V3ParamRx freq := by
  show (ax100SetRxFreq env.toDopplerEnv r ax100V3Address ax100V3Timeout freq).1 = 1 ↔ _
  rw [ax100SetRxFreq_eq]
  split_ifs with h <;> simp [h]

theorem ax100SetTxFreq_eq_one_iff (env : UplinkEnv τ) (r : Ax100) (freq : UInt32) :
    (ax100SetTxFreq env.toDopplerEnv r 29 1000 freq).1 = 1 ↔
      Accepts env.toDopplerEnv ax100V3ParamTx freq := by
  show (ax100SetTxFreq env.toDopplerEnv r ax100V3Address ax100V3Timeout freq).1 = 1 ↔ _
  rw [ax100SetTxFreq_eq]
  split_ifs with h <;> simp [h]

/-- The success flag of the ground commands is right exactly when the failure can be seen: the flag
of an unknown, empty or incomplete command, and of a frequency command, does not depend on it. -/
theorem groundCommand_success_iff (env : UplinkEnv τ) (s : Station τ) (header : McsPacketHeader)
    (packet packet' : CspPacket) (payload : List UInt8) (hd : ¬ header.dst ≤ 15) :
    ((groundCommand env s packet payload).success = 1 ↔
      ∃ c, requestedCommand payload = some c ∧ c.Succeeds env s) ↔
    FailureSeen env header packet' payload := by
  unfold FailureSeen
  rw [if_neg hd]
  rcases payload with _ | ⟨c, args⟩
  · simp [groundCommand, requestedCommand]
  simp only [List.head?_cons, Option.some.injEq, exists_eq_left']
  rcases command_cases c with rfl | rfl | rfl | rfl | rfl | ⟨h0, h1, h2, h3, h6⟩
  · simp [groundCommand, requestedCommand, GroundCommand.Succeeds]
  · rcases args with _ | ⟨no, args⟩
    · simp [groundCommand, requestedCommand]
    · by_cases hok : (mcsSatSel env.toDopplerEnv s.doppler no.toUInt32).1 = 1
      · simp [groundCommand, requestedCommand, GroundCommand.Succeeds, hok]
      · simp [groundCommand, requestedCommand, GroundCommand.Succeeds, hok]
  · by_cases h : 5 ≤ (0x02 :: args : List UInt8).length
    · have hshort : ¬ (0x02 :: args : List UInt8).length < 5 := by omega
      simp only [groundCommand, requestedCommand, ge_iff_le, if_pos h, Option.some.injEq,
        exists_eq_left', GroundCommand.Succeeds, ax100SetRxFreq_eq_one_iff, hshort]
      simp
    · have hshort : (0x02 :: args : List UInt8).length < 5 := by omega
      simp only [groundCommand, requestedCommand, ge_iff_le, if_neg h, hshort]
      simp
  · by_cases h : 5 ≤ (0x03 :: args : List UInt8).length
    · have hshort : ¬ (0x03 :: args : List UInt8).length < 5 := by omega
      simp only [groundCommand, requestedCommand, ge_iff_le, if_pos h, Option.some.injEq,
        exists_eq_left', GroundCommand.Succeeds, ax100SetTxFreq_eq_one_iff, hshort]
      simp
    · have hshort : (0x03 :: args : List UInt8).length < 5 := by omega
      simp only [groundCommand, requestedCommand, ge_iff_le, if_neg h, hshort]
      simp
  · simp [groundCommand, requestedCommand, GroundCommand.Succeeds, Radio.updatetle]
  · rw [groundCommand_unknown env s packet args h0 h1 h2 h3 h6,
      requestedCommand_unknown args h0 h1 h2 h3 h6]
    simp [h0, h1, h2, h3, h6]

/-- The only ground commands that are refused with nothing done are the short frequency commands. -/
theorem groundCommand_refused_iff (env : UplinkEnv τ) (s : Station τ) (packet : CspPacket)
    (payload : List UInt8) :
    ((groundCommand env s packet payload).success = 0 ∧
      (groundCommand env s packet payload).events = []) ↔ ShortFrequency payload := by
  unfold ShortFrequency
  rcases payload with _ | ⟨c, args⟩
  · simp [groundCommand]
  have hlen : (c :: args).length = args.length + 1 := rfl
  simp only [List.head?_cons, Option.some.injEq, exists_eq_left']
  rcases command_cases c with rfl | rfl | rfl | rfl | rfl | ⟨h0, h1, h2, h3, h6⟩
  · simp [groundCommand]
  · rcases args with _ | ⟨no, args⟩ <;> simp [groundCommand]
  · by_cases h : 5 ≤ (0x02 :: args : List UInt8).length
    · simp only [groundCommand, ge_iff_le, if_pos h]
      simp
      omega
    · simp only [groundCommand, ge_iff_le, if_neg h]
      simp
      omega
  · by_cases h : 5 ≤ (0x03 :: args : List UInt8).length
    · simp only [groundCommand, ge_iff_le, if_pos h]
      simp
      omega
    · simp only [groundCommand, ge_iff_le, if_neg h]
      simp
      omega
  · simp [groundCommand]
  · rw [groundCommand_unknown env s packet args h0 h1 h2 h3 h6]
    simp [h2, h3]

theorem groundCommand_success_cases (env : UplinkEnv τ) (s : Station τ) (packet : CspPacket)
    (payload : List UInt8) : (groundCommand env s packet payload).success = 0 ∨
      (groundCommand env s packet payload).success = 1 := by
  unfold groundCommand
  split
  · exact Or.inr rfl
  · rename_i args
    rcases args with _ | ⟨no, args⟩
    · exact Or.inr rfl
    · by_cases hok : (mcsSatSel env.toDopplerEnv s.doppler no.toUInt32).1 = 1
      · exact Or.inr (by simp [hok])
      · exact Or.inl (by simp [hok])
  · exact Or.inr rfl
  · exact Or.inr rfl
  · split_ifs
    · exact Or.inr rfl
    · exact Or.inl rfl
  · split_ifs
    · exact Or.inr rfl
    · exact Or.inl rfl
  · exact Or.inr rfl

/-! ## Requests -/

theorem dispatch_of_le {env : UplinkEnv τ} {s : Station τ} {header : McsPacketHeader}
    {packet : CspPacket} {payload : List UInt8} (h : header.dst ≤ 15) :
    dispatch env s header packet payload = sendToSatellite env s header packet := if_pos h

theorem dispatch_of_not_le {env : UplinkEnv τ} {s : Station τ} {header : McsPacketHeader}
    {packet : CspPacket} {payload : List UInt8} (h : ¬ header.dst ≤ 15) :
    dispatch env s header packet payload = groundCommand env s packet payload := if_neg h

theorem dispatch_success_cases (env : UplinkEnv τ) (s : Station τ) (header : McsPacketHeader)
    (packet : CspPacket) (payload : List UInt8) :
    (dispatch env s header packet payload).success = 0 ∨
      (dispatch env s header packet payload).success = 1 := by
  by_cases hd : header.dst ≤ 15
  · rw [dispatch_of_le hd]
    by_cases h : env.cspSendto (sendtoCall header packet) = -1
    · exact Or.inl (by simp [sendToSatellite, h])
    · exact Or.inr (by simp [sendToSatellite, h])
  · rw [dispatch_of_not_le hd]
    exact groundCommand_success_cases env s packet payload

/-- The events of the dispatch are the action of the request. -/
theorem dispatch_events_isAction (env : UplinkEnv τ) (s : Station τ) (header : McsPacketHeader)
    (packet : CspPacket) (payload : List UInt8) :
    ∀ e ∈ (dispatch env s header packet payload).events, e.isAction = true := by
  by_cases hd : header.dst ≤ 15
  · rw [dispatch_of_le hd]
    intro e he
    obtain rfl : e = .cspSendto (sendtoCall header packet) := by simpa [sendToSatellite] using he
    rfl
  · rw [dispatch_of_not_le hd, groundCommand_events]
    intro e he
    obtain ⟨c, -, rfl⟩ : ∃ c, requestedCommand payload = some c ∧ c.event = e := by simpa using he
    cases c <;> rfl

section Execute

variable (env : UplinkEnv τ) (s : Station τ) (origin : Option CStr) (header : McsPacketHeader)
  (packet : CspPacket) (payload : Payload) (payloadLen : Nat)

abbrev sized (packet : CspPacket) (payloadLen : Nat) : CspPacket :=
  { packet with length := payloadLen.toUInt16 }

abbrev executed : Dispatched τ :=
  dispatch env s header (sized packet payloadLen) (payload.read (sized packet payloadLen) payloadLen)

theorem sendPacketExecute_ret :
    (sendPacketExecute env s origin (some header) (some packet) (some payload) payloadLen).ret =
      if (executed env s header packet payload payloadLen).success ≠ 0 then 0 else -1 := rfl

/-- What can be observed of the events: the request, the action and the report. -/
theorem filterMap_execute_events {β : Type} {f : UplinkEvent → Option β} {g : Int → Option β}
    (ha : ∀ path bytes, f (.archive path bytes) = none)
    (hn : ∀ origin path bytes success, f (.notifyUplink origin path bytes success) = g success) :
    (sendPacketExecute env s origin (some header) (some packet) (some payload)
        payloadLen).events.filterMap f =
      (f (.request header (payload.read (sized packet payloadLen) payloadLen))).toList ++
      ((executed env s header packet payload payloadLen).events.filterMap f ++
      (g (executed env s header packet payload payloadLen).success).toList) := by
  have harch : ∀ path bytes, (if env.openSent then [UplinkEvent.archive path bytes]
      else []).filterMap f = [] := fun path bytes => by
    split_ifs
    · simp [ha]
    · rfl
  have hsingle : ∀ e : UplinkEvent, [e].filterMap f = (f e).toList := fun e => by
    cases h : f e <;> simp [h]
  unfold sendPacketExecute
  simp only [List.filterMap_append, harch, hsingle, hn, List.nil_append, List.append_assoc]

theorem sendPacketExecute_actions :
    (sendPacketExecute env s origin (some header) (some packet) (some payload) payloadLen).actions =
      (executed env s header packet payload payloadLen).events := by
  have hall : (executed env s header packet payload payloadLen).events.filterMap (·.action?) =
      (executed env s header packet payload payloadLen).events := by
    rw [List.filterMap_congr (g := some) fun e he => by
      simp [UplinkEvent.action?, dispatch_events_isAction _ _ _ _ _ e he], List.filterMap_some]
  unfold UplinkResult.actions
  rw [filterMap_execute_events (g := fun _ => none) _ _ _ _ _ _ _ (fun _ _ => rfl)
    (fun _ _ _ _ => rfl), hall]
  simp [UplinkEvent.action?, UplinkEvent.isAction]

/-- An observation that sees no action sees nothing of the dispatch. -/
theorem filterMap_executed_eq_nil {β : Type} {f : UplinkEvent → Option β}
    (hf : ∀ e : UplinkEvent, e.isAction = true → f e = none) :
    (executed env s header packet payload payloadLen).events.filterMap f = [] :=
  List.filterMap_eq_nil_iff.mpr fun e he => hf e (dispatch_events_isAction _ _ _ _ _ e he)

theorem sendPacketExecute_reports :
    (sendPacketExecute env s origin (some header) (some packet) (some payload) payloadLen).reports =
      [(executed env s header packet payload payloadLen).success] := by
  unfold UplinkResult.reports
  rw [filterMap_execute_events (g := some) _ _ _ _ _ _ _ (fun _ _ => rfl) (fun _ _ _ _ => rfl),
    filterMap_executed_eq_nil _ _ _ _ _ _ fun e he => by cases e <;> first | rfl | cases he]
  rfl

theorem sendPacketExecute_requests :
    (sendPacketExecute env s origin (some header) (some packet) (some payload)
      payloadLen).requests = [(header, payload.read (sized packet payloadLen) payloadLen)] := by
  unfold UplinkResult.requests
  rw [filterMap_execute_events (g := fun _ => none) _ _ _ _ _ _ _ (fun _ _ => rfl)
      (fun _ _ _ _ => rfl),
    filterMap_executed_eq_nil _ _ _ _ _ _ fun e he => by cases e <;> first | rfl | cases he]
  rfl

theorem sendPacketExecute_sendtos :
    (sendPacketExecute env s origin (some header) (some packet) (some payload) payloadLen).sendtos =
      if header.dst ≤ 15 then [sendtoCall header (sized packet payloadLen)] else [] := by
  unfold UplinkResult.sendtos
  rw [filterMap_execute_events (g := fun _ => none) _ _ _ _ _ _ _ (fun _ _ => rfl)
    (fun _ _ _ _ => rfl)]
  by_cases hd : header.dst ≤ 15
  · rw [if_pos hd, executed, dispatch_of_le hd]
    rfl
  · rw [if_neg hd, executed, dispatch_of_not_le hd, groundCommand_events]
    cases requestedCommand (payload.read (sized packet payloadLen) payloadLen) with
    | none => rfl
    | some c => cases c <;> rfl

/-- Result and report follow the success flag, which is 0 or 1. -/
theorem sendPacketExecute_truthful_iff_success (took : Prop) :
    (sendPacketExecute env s origin (some header) (some packet) (some payload)
      payloadLen).Truthful took ↔
    ((executed env s header packet payload payloadLen).success = 1 ↔ took) := by
  unfold UplinkResult.Truthful
  rw [sendPacketExecute_ret, sendPacketExecute_reports]
  rcases dispatch_success_cases env s header (sized packet payloadLen)
    (payload.read (sized packet payloadLen) payloadLen) with h | h
  · by_cases ht : took <;> simp [h, ht]
  · by_cases ht : took <;> simp [h, ht]

/-- **When the answer to an uplink request is truthful.** For every request that reaches
`send_packet_execute` and every outcome of its callees, result and report say what took effect if
and only if the failure is one the code can see. -/
theorem sendPacketExecute_truthful_iff :
    (sendPacketExecute env s origin (some header) (some packet) (some payload)
      payloadLen).Truthful (TookEffect env s header (sized packet payloadLen)
        (payload.read (sized packet payloadLen) payloadLen)) ↔
    FailureSeen env header (sized packet payloadLen)
      (payload.read (sized packet payloadLen) payloadLen) := by
  rw [sendPacketExecute_truthful_iff_success]
  by_cases hd : header.dst ≤ 15
  · rw [executed, dispatch_of_le hd]
    unfold TookEffect FailureSeen sendToSatellite
    rw [if_pos hd, if_pos hd]
    by_cases hm : env.cspSendto (sendtoCall header (sized packet payloadLen)) = -1
    · simp [hm]
    · simp [hm]
  · rw [executed, dispatch_of_not_le hd, TookEffect, if_neg hd]
    exact groundCommand_success_iff env s header _ _ _ hd

/-- `csp_sendto` fails with `CSP_ERR_NOTSUP`, and the requester is told that the packet was sent. -/
theorem failed_sendto_reported_as_sent :
    ¬ (sendPacketExecute (constEnv (-5) 1) (Station.init ()) none
        (some ⟨2, 10, 5, 7, 8, 0, 0, 0, 0⟩) (some CspPacket.zero) (some (.caller [0xAA]))
        1).Truthful
      (TookEffect (constEnv (-5) 1) (Station.init ()) ⟨2, 10, 5, 7, 8, 0, 0, 0, 0⟩
        (sized CspPacket.zero 1) [0xAA]) := by
  intro h
  have hfalse : ¬ TookEffect (constEnv (-5) 1) (Station.init ()) ⟨2, 10, 5, 7, 8, 0, 0, 0, 0⟩
      (sized CspPacket.zero 1) [0xAA] := by
    unfold TookEffect
    rw [if_pos (by decide)]
    show ¬ (-5 : Int) = 0
    decide
  exact absurd (h.2 hfalse).1 (by decide)

/-- A request is refused with nothing done exactly when it is a short frequency command. -/
theorem sendPacketExecute_refused_iff :
    ((sendPacketExecute env s origin (some header) (some packet) (some payload)
        payloadLen).ret = -1 ∧
      (sendPacketExecute env s origin (some header) (some packet) (some payload)
        payloadLen).actions = []) ↔
    15 < header.dst ∧ ShortFrequency (payload.read (sized packet payloadLen) payloadLen) := by
  rw [sendPacketExecute_ret, sendPacketExecute_actions]
  by_cases hd : header.dst ≤ 15
  · rw [executed, dispatch_of_le hd]
    exact ⟨fun h => absurd h.2 (by simp [sendToSatellite]),
      fun h => absurd hd (UInt8.not_le.mpr h.1)⟩
  · rw [executed, dispatch_of_not_le hd, ← groundCommand_refused_iff env s (sized packet payloadLen)]
    rcases groundCommand_success_cases env s (sized packet payloadLen)
      (payload.read (sized packet payloadLen) payloadLen) with h | h
    · simp [h, UInt8.not_le.mp hd]
    · simp [h]

end Execute

/-! ## The callers -/

theorem UplinkResult.filterMap_release {β : Type} (r : UplinkResult τ) {f : UplinkEvent → Option β}
    (hf : f .cspBufferFree = none) : r.release.events.filterMap f = r.events.filterMap f := by
  unfold UplinkResult.release
  dsimp only
  split_ifs
  · rfl
  · simp [hf]

theorem UplinkResult.release_actions (r : UplinkResult τ) : r.release.actions = r.actions :=
  r.filterMap_release rfl

theorem UplinkResult.release_sendtos (r : UplinkResult τ) : r.release.sendtos = r.sendtos :=
  r.filterMap_release rfl

theorem UplinkResult.release_requests (r : UplinkResult τ) : r.release.requests = r.requests :=
  r.filterMap_release rfl

theorem uint16_ofInt_natCast (n : Nat) : UInt16.ofInt n = n.toUInt16 := by
  apply UInt16.toNat_inj.mp
  show ((n : Int) % 2 ^ 16).toNat % 2 ^ 16 = n % 2 ^ 16
  omega

/-- The packet that `send_packet` makes of a file with header `hd` and payload `data`. -/
def filePacket (hd data : List UInt8) (buffer : CspPacket) : CspPacket :=
  { buffer with length := (headerByte hd 5).toUInt16, data := buffer.data.store data }

/-- **`send_packet` on a file**: one request, with the header of the file, the length of header byte
5, and the packet buffer the payload was read into. -/
theorem sendPacket_file (env : UplinkEnv τ) (s : Station τ) {hd data : List UInt8}
    (buffer : CspPacket) (hhd : hd.length = mcsHeaderSize) (h1 : data ≠ [])
    (hmax : data.length ≤ cspBufferSize) :
    sendPacket env s (some (hd ++ data)) (some buffer) =
      .returned (sendPacketExecute env s (some (cstr "MCS")) (some (decodedHeader hd))
        (some (filePacket hd data buffer)) (some .packetData) (headerByte hd 5)).release := by
  have hlen : ¬ (hd ++ data).length ≤ mcsHeaderSize := by
    have := List.length_pos_iff.mpr h1
    rw [List.length_append]
    omega
  have hproc : processMcsFile (some (hd ++ data)) buffer.data =
      .returned (1, some (decodeParameters hd), buffer.data.store data) := by
    have htake : (hd ++ data).take mcsHeaderSize = hd := by rw [← hhd, List.take_left]
    have hdrop : (hd ++ data).drop mcsHeaderSize = data := by rw [← hhd, List.drop_left]
    unfold processMcsFile
    simp only [if_neg hlen, htake, hdrop, if_pos hmax]
  have hn : (headerByte hd 5).toUInt16.toNat = headerByte hd 5 := by
    have h5 := headerByte_lt hd 5
    show headerByte hd 5 % 2 ^ 16 = _
    omega
  unfold sendPacket
  simp only [hproc, atoi_dataLength, header_decodeParameters, uint16_ofInt_natCast, hn]
  rfl

/-! The same by the length of the whole file. -/

theorem decodedHeader_take {bytes : List UInt8} (h : mcsHeaderSize ≤ bytes.length) :
    decodedHeader (bytes.take mcsHeaderSize) = decodedHeader bytes := by
  conv_rhs => rw [← List.take_append_drop mcsHeaderSize bytes]
  exact (decodedHeader_append _ (List.length_take_of_le h)).symm

/-- A file of at most the header is refused. -/
theorem sendPacket_short (env : UplinkEnv τ) (s : Station τ) {bytes : List UInt8}
    (buffer : CspPacket) (h : bytes.length ≤ mcsHeaderSize) :
    sendPacket env s (some bytes) (some buffer) =
      .returned { ret := -1, consumed := false, station := s, events := [.cspBufferFree] } := by
  have hproc : processMcsFile (some bytes) buffer.data = .returned (0, none, buffer.data) := by
    unfold processMcsFile
    simp only [if_pos h]
  unfold sendPacket
  simp only [hproc]

/-- A file that overruns the packet buffer. -/
theorem sendPacket_overrun (env : UplinkEnv τ) (s : Station τ) {bytes : List UInt8}
    (buffer : CspPacket) (h : mcsHeaderSize + cspBufferSize < bytes.length) :
    sendPacket env s (some bytes) (some buffer) = .undefined := by
  have hproc : processMcsFile (some bytes) buffer.data = .undefined := by
    have hlen : ¬ bytes.length ≤ mcsHeaderSize := by omega
    have hdrop : ¬ (bytes.drop mcsHeaderSize).length ≤ cspBufferSize := by
      rw [List.length_drop]
      omega
    unfold processMcsFile
    simp only [if_neg hlen, if_neg hdrop]
  unfold sendPacket
  simp only [hproc]

theorem headerByte_take (bytes : List UInt8) :
    headerByte (bytes.take mcsHeaderSize) 5 = headerByte bytes 5 := by
  unfold headerByte
  rw [List.getD_eq_getElem?_getD, List.getD_eq_getElem?_getD, List.getElem?_take_of_lt (by decide)]

theorem sized_filePacket_take (bytes data : List UInt8) (buffer : CspPacket) :
    sized (filePacket (bytes.take mcsHeaderSize) data buffer) (headerByte bytes 5) =
      filePacket (bytes.take mcsHeaderSize) data buffer := by
  rw [← headerByte_take]
  rfl

theorem filePacket_take_length (bytes data : List UInt8) (buffer : CspPacket) :
    (filePacket (bytes.take mcsHeaderSize) data buffer).length =
      (headerByte bytes 5).toUInt16 := by
  rw [← headerByte_take]
  rfl

/-- A file that has data behind its header and fits the packet buffer. -/
theorem sendPacket_fits (env : UplinkEnv τ) (s : Station τ) {bytes : List UInt8}
    (buffer : CspPacket) (h : mcsHeaderSize < bytes.length)
    (hmax : bytes.length ≤ mcsHeaderSize + cspBufferSize) :
    sendPacket env s (some bytes) (some buffer) =
      .returned (sendPacketExecute env s (some (cstr "MCS")) (some (decodedHeader bytes))
        (some (filePacket (bytes.take mcsHeaderSize) (bytes.drop mcsHeaderSize) buffer))
        (some .packetData) (headerByte bytes 5)).release := by
  have hhd : (bytes.take mcsHeaderSize).length = mcsHeaderSize := List.length_take_of_le h.le
  have hdata : (bytes.drop mcsHeaderSize).length = bytes.length - mcsHeaderSize := List.length_drop
  have hne : bytes.drop mcsHeaderSize ≠ [] := List.ne_nil_of_length_pos (by omega)
  have hfile := sendPacket_file env s buffer hhd hne (by omega)
  rwa [List.take_append_drop, decodedHeader_take h.le, headerByte_take] at hfile

/-- `send_packet_struct` refuses every payload that is not empty: the size it compares with is that
of an array of no elements. -/
theorem sendPacketStruct_refuses (env : UplinkEnv τ) (s : Station τ) (origin : Option CStr)
    (header : McsPacketHeader) {payload : List UInt8} (buffer : CspPacket) (h : payload ≠ []) :
    sendPacketStruct env s origin (some header) (some payload) (some buffer) =
      { ret := -1, consumed := false, station := s, events := [.cspBufferFree] } := by
  have hpos : payload.length > sizeofPacketData := List.length_pos_iff.mpr h
  unfold sendPacketStruct
  simp only [if_pos hpos]

end CspTerm.Uplink
