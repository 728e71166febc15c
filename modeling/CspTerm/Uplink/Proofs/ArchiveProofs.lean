import CspTerm.Uplink.Archive
import CspTerm.Uplink.Proofs.SendPacketProofs
import CspTerm.Uplink.Requests

/-!
# When the archive holds what was sent

On the GUI path the archived bytes are a copy of their own, and always right. On the MCS path they
are read from the packet buffer after it was given away, so they are right only if the interface left
the payload alone. The KISS interface does so for payloads without its two special bytes.
-/

namespace CspTerm.Uplink

open CString CspTerm.Csp

variable {τ : Type}

/-! ## One execution -/

/-- The archive entry of an execution for an address up to 15. -/
theorem archive_mem_execute {env : UplinkEnv τ} {s : Station τ} {origin : Option CStr}
    {header : McsPacketHeader} {packet : CspPacket} {payload : Payload} {len : Nat}
    (hd : header.dst ≤ 15) {path : CStr} {bytes : List UInt8} :
    .archive path bytes ∈ (sendPacketExecute env s origin (some header) (some packet)
        (some payload) len).events ↔
      env.openSent = true ∧ path = sentPath env.getTime ∧
        bytes = (payload.read { sized packet len with
          data := env.afterSendto (sendtoCall header (sized packet len)) packet.data } len).take
            env.fwriteSent := by
  unfold sendPacketExecute
  dsimp only
  rw [dispatch_of_le hd]
  simp only [sendToSatellite, List.mem_append, List.mem_cons, List.not_mem_nil, or_false,
    reduceCtorEq, false_or]
  split_ifs with ho
  · simp [ho]
  · simp [ho]

theorem archive_mem_release {r : UplinkResult τ} {path : CStr} {bytes : List UInt8} :
    .archive path bytes ∈ r.release.events ↔ .archive path bytes ∈ r.events := by
  unfold UplinkResult.release
  dsimp only
  split_ifs
  · exact Iff.rfl
  · simp

theorem archivesTransmitted_release (r : UplinkResult τ) :
    ArchivesTransmitted r.release ↔ ArchivesTransmitted r := by
  unfold ArchivesTransmitted
  rw [UplinkResult.release_sendtos]
  simp only [archive_mem_release]

/-- With a payload in the packet buffer, the archive is right exactly if the buffer still holds the
payload and all of it is written. -/
theorem archivesTransmitted_execute_iff (env : UplinkEnv τ) (s : Station τ) (origin : Option CStr)
    (header : McsPacketHeader) (packet : CspPacket) (hlen : packet.length.toNat ≤ cspBufferSize) :
    ArchivesTransmitted (sendPacketExecute env s origin (some header) (some packet)
        (some .packetData) packet.length.toNat) ↔
      (header.dst ≤ 15 → env.openSent = true →
        packet.length.toNat ≤ env.fwriteSent ∧ KeepsPayload env header packet) := by
  have hsized : sized packet packet.length.toNat = packet := by
    have hcast : packet.length.toNat.toUInt16 = packet.length := UInt16.ofNat_toNat
    unfold sized
    rw [hcast]
  unfold ArchivesTransmitted
  rw [sendPacketExecute_sendtos, hsized]
  by_cases hd : header.dst ≤ 15
  swap
  · rw [if_neg hd]
    exact ⟨fun _ hle => absurd hle hd, fun _ call hcall => absurd hcall List.not_mem_nil⟩
  rw [if_pos hd]
  simp only [archive_mem_execute hd, hsized, List.mem_singleton, forall_eq, Payload.read]
  unfold KeepsPayload
  set after := env.afterSendto (sendtoCall header packet) packet.data with hafter
  have hpayload : (sendtoCall header packet).payload = packet.data.val.take packet.length.toNat :=
    rfl
  have hafterLen : (after.val.take packet.length.toNat).length = packet.length.toNat := by
    rw [List.length_take, after.property]
    omega
  have hpayloadLen : (sendtoCall header packet).payload.length = packet.length.toNat := by
    rw [hpayload, List.length_take, packet.data.property]
    omega
  constructor
  · intro h _ ho
    have heq := h _ _ ⟨ho, rfl, rfl⟩
    have hlengths := congrArg List.length heq
    rw [List.length_take, hafterLen, hpayloadLen] at hlengths
    have hle : packet.length.toNat ≤ env.fwriteSent := by omega
    rw [List.take_of_length_le (by omega)] at heq
    exact ⟨hle, heq⟩
  · intro h path bytes hmem
    obtain ⟨ho, -, rfl⟩ := hmem
    obtain ⟨hle, hkeeps⟩ := h hd ho
    rw [List.take_of_length_le (by omega)]
    exact hkeeps

/-! ## Both paths -/

/-- The packet in a file with data behind its header that fits the packet buffer. -/
def mcsPacketOf (bytes : List UInt8) (buffer : CspPacket) : CspPacket :=
  filePacket (bytes.take mcsHeaderSize) (bytes.drop mcsHeaderSize) buffer

/-- The file holds a packet for the satellite, and the archive of sent packets opens. -/
def TransmitsAndArchives (env : UplinkEnv τ) (bytes : List UInt8) : Prop :=
  mcsHeaderSize < bytes.length ∧ bytes.length ≤ mcsHeaderSize + cspBufferSize ∧
    (decodedHeader bytes).dst ≤ 15 ∧ env.openSent = true

theorem length_mcsPacketOf (bytes : List UInt8) (buffer : CspPacket) :
    (mcsPacketOf bytes buffer).length.toNat = headerByte bytes 5 := by
  have hlt := headerByte_lt bytes 5
  unfold mcsPacketOf
  rw [filePacket_take_length]
  show headerByte bytes 5 % 2 ^ 16 = _
  omega

theorem sendPacketStruct_empty (env : UplinkEnv τ) (s : Station τ) (origin : Option CStr)
    (header : McsPacketHeader) (buffer : CspPacket) :
    sendPacketStruct env s origin (some header) (some []) (some buffer) =
      (sendPacketExecute env s origin (some header)
        (some { buffer with data := buffer.data.store [], length := 0 })
        (some (.caller [])) 0).release := rfl

theorem sendPacket_archives_iff (env : UplinkEnv τ) (s : Station τ) (file : Option (List UInt8))
    (buffer : CspPacket) :
    (∀ r, sendPacket env s file (some buffer) = .returned r → ArchivesTransmitted r) ↔
      ∀ bytes, file = some bytes → TransmitsAndArchives env bytes →
        headerByte bytes 5 ≤ env.fwriteSent ∧
          KeepsPayload env (decodedHeader bytes) (mcsPacketOf bytes buffer) := by
  rcases file with _ | bytes
  · refine ⟨fun _ bytes h => by simp at h, ?_⟩
    intro _ r h
    unfold sendPacket processMcsFile at h
    cases h
  simp only [Option.some.injEq, forall_eq']
  rcases Nat.lt_or_ge mcsHeaderSize bytes.length with hlong | hshort
  swap
  · rw [sendPacket_short env s buffer hshort]
    refine ⟨fun _ h => absurd h.1 (by omega), ?_⟩
    intro _ r h
    obtain rfl := Ending.returned.inj h
    intro call hcall
    cases hcall
  rcases Nat.lt_or_ge (mcsHeaderSize + cspBufferSize) bytes.length with hover | hfits
  · rw [sendPacket_overrun env s buffer hover]
    exact ⟨fun _ h => absurd h.2.1 (by omega), fun _ r h => by cases h⟩
  have hlen := length_mcsPacketOf bytes buffer
  have hbyte := headerByte_lt bytes 5
  have hle : (mcsPacketOf bytes buffer).length.toNat ≤ cspBufferSize := by
    rw [hlen]
    unfold cspBufferSize
    omega
  have hexec := archivesTransmitted_execute_iff env s (some (cstr "MCS")) (decodedHeader bytes)
    (mcsPacketOf bytes buffer) hle
  rw [hlen] at hexec
  have hsend := sendPacket_fits env s buffer hlong hfits
  have hret : (∀ r, sendPacket env s (some bytes) (some buffer) = .returned r →
      ArchivesTransmitted r) ↔ ArchivesTransmitted (sendPacketExecute env s (some (cstr "MCS"))
        (some (decodedHeader bytes)) (some (mcsPacketOf bytes buffer)) (some .packetData)
        (headerByte bytes 5)) := by
    rw [hsend]
    constructor
    · exact fun h => (archivesTransmitted_release _).mp (h _ rfl)
    · intro h r hr
      obtain rfl := Ending.returned.inj hr
      exact (archivesTransmitted_release _).mpr h
  rw [hret, hexec]
  exact ⟨fun h ht => h ht.2.2.1 ht.2.2.2, fun h hd ho => h ⟨hlong, hfits, hd, ho⟩⟩

/-- The GUI path archives its own copy, which is what it handed over. -/
theorem sendPacketStruct_archives (env : UplinkEnv τ) (s : Station τ) (origin : Option CStr)
    (header : Option McsPacketHeader) (payload : Option (List UInt8))
    (buffer' : Option CspPacket) :
    ArchivesTransmitted (sendPacketStruct env s origin header payload buffer') := by
  intro call hcall
  rcases header with _ | header
  · cases hcall
  rcases payload with _ | payload
  · cases hcall
  rcases buffer' with _ | buffer'
  · cases hcall
  rcases payload with _ | ⟨b, payload⟩
  · -- an empty payload, the only one that is not refused
    rw [sendPacketStruct_empty, UplinkResult.release_sendtos, sendPacketExecute_sendtos] at hcall
    split_ifs at hcall with hd
    swap
    · cases hcall
    obtain rfl := List.mem_singleton.mp hcall
    intro path bytes hmem
    rw [sendPacketStruct_empty, archive_mem_release, archive_mem_execute hd] at hmem
    obtain ⟨-, -, rfl⟩ := hmem
    show ([] : List UInt8).take env.fwriteSent = []
    exact List.take_nil
  · rw [sendPacketStruct_refuses env s origin header buffer' (List.cons_ne_nil b payload)] at hcall
    cases hcall

/-- **The archive of an MCS packet is right exactly if the interface leaves the payload in the packet
buffer alone; that of a GUI packet always is.** For every file, packet buffer, interface and state:
what is archived is what was handed to `csp_sendto` if and only if, should the packet go to the
satellite and the archive open, the buffer still holds the payload afterwards and all of it is
written. -/
theorem archive_right_iff (env : UplinkEnv τ) (s : Station τ) (file : Option (List UInt8))
    (buffer : CspPacket) :
    ((∀ r, sendPacket env s file (some buffer) = .returned r → ArchivesTransmitted r) ↔
      ∀ bytes, file = some bytes → TransmitsAndArchives env bytes →
        headerByte bytes 5 ≤ env.fwriteSent ∧
          KeepsPayload env (decodedHeader bytes) (mcsPacketOf bytes buffer)) ∧
    ∀ origin header payload buffer',
      ArchivesTransmitted (sendPacketStruct env s origin header payload buffer') :=
  ⟨sendPacket_archives_iff env s file buffer, sendPacketStruct_archives env s⟩

/-! ## The KISS interface -/

theorem kissEscaped_eq_self_iff {b : UInt8} :
    kissEscaped b = b ↔ b ≠ kissFend ∧ b ≠ kissFesc := by
  unfold kissEscaped
  split_ifs with h1 h2
  · subst h1
    exact ⟨fun h => absurd h (by decide), fun h => absurd rfl h.1⟩
  · subst h2
    exact ⟨fun h => absurd h (by decide), fun h => absurd rfl h.2⟩
  · exact ⟨fun _ => ⟨h1, h2⟩, fun _ => rfl⟩

/-- **The KISS interface keeps a payload exactly if none of its bytes needs an escape.** -/
theorem keepsPayload_kiss_iff {env : UplinkEnv τ} (crc32 : List UInt8 → List UInt8)
    (hcrc : ∀ bytes, (crc32 bytes).length = 4) (henv : env.afterSendto = cspKissTx crc32)
    (header : McsPacketHeader) (packet : CspPacket)
    (hlen : packet.length.toNat + 4 ≤ cspBufferSize) :
    KeepsPayload env header packet ↔ kissFend ∉ packet.payload ∧ kissFesc ∉ packet.payload := by
  have hpayloadLen : packet.payload.length = packet.length.toNat := by
    rw [CspPacket.payload, List.length_take, packet.data.property]
    omega
  have htake : (cspKissTx crc32 (sendtoCall header packet) packet.data).val.take
      packet.length.toNat = packet.payload.map kissEscaped := by
    have hall : ((packet.payload ++ crc32 packet.payload).map kissEscaped).length =
        packet.length.toNat + 4 := by
      rw [List.length_map, List.length_append, hpayloadLen, hcrc]
    have hcall : (sendtoCall header packet).payload = packet.payload := rfl
    unfold cspKissTx
    rw [hcall, CspData.take_store _ (hall.symm ▸ Nat.le_add_right _ _) (hall.symm ▸ hlen),
      List.map_append, List.take_append_of_le_length (by rw [List.length_map, hpayloadLen]),
      List.take_of_length_le (by rw [List.length_map, hpayloadLen])]
  unfold KeepsPayload
  rw [henv]
  show (cspKissTx crc32 (sendtoCall header packet) packet.data).val.take packet.length.toNat =
    packet.payload ↔ _
  have hmap : packet.payload.map kissEscaped = packet.payload ↔
      ∀ b ∈ packet.payload, kissEscaped b = b := by
    conv_lhs => rhs; rw [← List.map_id packet.payload]
    exact List.map_inj_left
  rw [htake, hmap]
  constructor
  · intro h
    exact ⟨fun hm => (kissEscaped_eq_self_iff.mp (h _ hm)).1 rfl,
      fun hm => (kissEscaped_eq_self_iff.mp (h _ hm)).2 rfl⟩
  · rintro ⟨h1, h2⟩ b hb
    refine kissEscaped_eq_self_iff.mpr ⟨?_, ?_⟩
    · rintro rfl
      exact h1 hb
    · rintro rfl
      exact h2 hb

/-- An MCS packet with payload `C0` over KISS: `DC` is archived. -/
theorem kiss_escape_is_archived :
    let env : UplinkEnv Unit :=
      { constEnv 0 1 with afterSendto := cspKissTx fun _ => [1, 2, 3, 4] }
    let header : McsPacketHeader := ⟨2, 10, 5, 7, 8, 0, 0, 0, 0⟩
    let file := mcsMessage header [0xC0]
    ∃ r, sendPacket env (Station.init ()) (some file) (some .zero) = .returned r ∧
      (∃ call ∈ r.sendtos, call.payload = [0xC0]) ∧
      .archive (sentPath env.getTime) [0xDC] ∈ r.events ∧ ¬ ArchivesTransmitted r := by
  intro env header file
  have hd : (decodedHeader file).dst ≤ 15 := by decide
  have hshort : mcsHeaderSize < file.length := by decide
  have hsend := sendPacket_fits env (Station.init ()) .zero hshort (by decide)
  have hcall : sendtoCall (decodedHeader file) (sized (mcsPacketOf file .zero) 1) ∈
      (sendPacketExecute env (Station.init ()) (some (cstr "MCS")) (some (decodedHeader file))
        (some (mcsPacketOf file .zero)) (some .packetData) 1).release.sendtos := by
    rw [UplinkResult.release_sendtos, sendPacketExecute_sendtos, if_pos hd]
    exact List.mem_singleton_self _
  have harchive : .archive (sentPath env.getTime) [0xDC] ∈
      (sendPacketExecute env (Station.init ()) (some (cstr "MCS")) (some (decodedHeader file))
        (some (mcsPacketOf file .zero)) (some .packetData) 1).release.events := by
    rw [archive_mem_release, archive_mem_execute hd]
    exact ⟨rfl, rfl, by decide +kernel⟩
  have hpayload : (sendtoCall (decodedHeader file) (sized (mcsPacketOf file .zero) 1)).payload =
      [0xC0] := by decide +kernel
  refine ⟨_, hsend, ⟨_, hcall, hpayload⟩, harchive, ?_⟩
  intro h
  have heq := h _ hcall _ _ harchive
  rw [hpayload] at heq
  exact absurd heq (by decide)

end CspTerm.Uplink
