import CspTerm.Uplink.Proofs.SendPacketProofs

/-!
# When the uplink paths agree, and when a file is transmitted exactly

`send_packet_struct` refuses every payload, so the two paths agree only on requests that
`send_packet` refuses as well. And `send_packet` takes the length of a packet from the last header
byte alone, so a file is transmitted exactly only if its header says how long it is in that byte.
-/

namespace CspTerm.Uplink

open CString CspTerm.Csp

variable {τ : Type}

/-! ## The packet made of a file -/

theorem sized_filePacket (hd data : List UInt8) (buffer : CspPacket) :
    sized (filePacket hd data buffer) (headerByte hd 5) = filePacket hd data buffer := rfl

/-- The payload that `send_packet_execute` is given: bytes of the data area, as many as header byte
5 says. -/
theorem read_filePacket (hd data : List UInt8) (buffer : CspPacket) :
    Payload.packetData.read (sized (filePacket hd data buffer) (headerByte hd 5)) (headerByte hd 5) =
      (buffer.data.store data).val.take (headerByte hd 5) := rfl

/-- Up to its own length, the data area holds the file. -/
theorem take_store_of_le {data : List UInt8} (buffer : CspPacket) {n : Nat} (h : n ≤ data.length)
    (hmax : data.length ≤ cspBufferSize) : (buffer.data.store data).val.take n = data.take n :=
  buffer.data.take_store h hmax

/-! ## The two paths -/

/-- **When the two uplink paths agree.** For every header that fits its six bytes, every payload of
1 to 255 bytes, every outcome of the callees and whatever the packet buffers held: only on a command
to the ground station that sets a frequency without carrying one, which both refuse. -/
theorem pathsAgree_iff (env : UplinkEnv τ) (s : Station τ) (origin : Option CStr)
    {header : McsPacketHeader} (hfit : header.Fits) {payload : List UInt8} (h1 : payload ≠ [])
    (h255 : payload.length ≤ 255) (buffer buffer' : CspPacket) :
    PathsAgree env s origin header payload buffer buffer' ↔
      15 < header.dst ∧ ShortFrequency payload := by
  have hfile := sendPacket_file env s buffer (length_mcsHeaderBytes header payload.length) h1
    (by show payload.length ≤ 1024; omega)
  have h5 : headerByte (mcsHeaderBytes header payload.length) 5 = payload.length := by
    show payload.length % 256 % 2 ^ 8 = payload.length
    omega
  have hread : (buffer.data.store payload).val.take payload.length = payload := by
    rw [take_store_of_le buffer (Nat.le_refl _) (by show payload.length ≤ 1024; omega),
      List.take_length]
  have href := sendPacketExecute_refused_iff env s (some (cstr "MCS")) header
    (filePacket (mcsHeaderBytes header payload.length) payload buffer) .packetData
    (headerByte (mcsHeaderBytes header payload.length) 5)
  rw [read_filePacket, h5, hread] at href
  rw [decodedHeader_mcsHeaderBytes hfit, h5] at hfile
  unfold PathsAgree mcsMessage
  rw [sendPacketStruct_refuses env s origin header buffer' h1, ← href]
  constructor
  · rintro ⟨r, hr, hact, hret⟩
    obtain rfl := Ending.returned.inj (hfile.symm.trans hr)
    rw [UplinkResult.release_actions] at hact
    exact ⟨hret, hact⟩
  · rintro ⟨hret, hact⟩
    exact ⟨_, hfile, (UplinkResult.release_actions _).trans hact, hret⟩

/-- The one kind of request the paths agree on. -/
theorem pathsAgree_short_frequency :
    PathsAgree (constEnv 0 1) (Station.init ()) (some (cstr "GUI")) ⟨2, 10, 20, 7, 8, 0, 0, 0, 0⟩
      [0x02] CspPacket.zero CspPacket.zero :=
  (pathsAgree_iff _ _ _ ⟨by decide, by decide, by decide, by decide, by decide, by decide,
    by decide, by decide, by decide⟩ (by decide) (by decide) _ _).mpr
      ⟨by decide, ⟨0x02, rfl, Or.inl rfl⟩, by decide⟩

/-- One byte for satellite address 5: the file is transmitted, the GUI request is refused. -/
theorem gui_refuses_one_byte :
    ¬ PathsAgree (constEnv 0 1) (Station.init ()) (some (cstr "GUI")) ⟨2, 10, 5, 7, 8, 0, 0, 0, 0⟩
      [0xAA] CspPacket.zero CspPacket.zero := by
  rintro ⟨r, hr, hact, -⟩
  have hfile := sendPacket_file (constEnv 0 1) (Station.init ()) CspPacket.zero
    (length_mcsHeaderBytes ⟨2, 10, 5, 7, 8, 0, 0, 0, 0⟩ 1) (by decide : [(0xAA : UInt8)] ≠ [])
    (by decide)
  obtain rfl := Ending.returned.inj (hfile.symm.trans hr)
  rw [UplinkResult.release_actions, sendPacketExecute_actions, executed,
    dispatch_of_le (by decide)] at hact
  exact absurd hact (by simp [sendToSatellite, sendPacketStruct_refuses, UplinkResult.actions,
    UplinkEvent.action?, UplinkEvent.isAction])

/-! ## Files -/

/-- The packets that `send_packet` transmits of a file: none to the ground station, and one to the
satellite, as long as header byte 5 says. -/
theorem sendtos_exact_iff (env : UplinkEnv τ) (s : Station τ) (hd : List UInt8)
    {data : List UInt8} (buffer : CspPacket) (hmax : data.length ≤ cspBufferSize) :
    (∀ c ∈ (sendPacketExecute env s (some (cstr "MCS")) (some (decodedHeader hd))
        (some (filePacket hd data buffer)) (some .packetData) (headerByte hd 5)).sendtos,
      c.length.toNat = data.length ∧ c.payload = data) ↔
    ((decodedHeader hd).dst ≤ 15 → headerByte hd 5 = data.length) := by
  have hlen : (headerByte hd 5).toUInt16.toNat = headerByte hd 5 := by
    have := headerByte_lt hd 5
    show headerByte hd 5 % 2 ^ 16 = _
    omega
  rw [sendPacketExecute_sendtos, sized_filePacket]
  by_cases hdst : (decodedHeader hd).dst ≤ 15
  · rw [if_pos hdst, List.forall_mem_singleton]
    show (headerByte hd 5).toUInt16.toNat = data.length ∧ _ ↔ _
    rw [hlen]
    refine ⟨fun h _ => h.1, fun h => ⟨h hdst, ?_⟩⟩
    show (buffer.data.store data).val.take (headerByte hd 5).toUInt16.toNat = data
    rw [hlen, h hdst, take_store_of_le buffer (Nat.le_refl _) hmax, List.take_length]
  · simp [hdst]

/-- The bytes read back are a short frequency command when the length byte is between 1 and 4 and
the file starts with such a command. -/
theorem shortFrequency_take_store {data : List UInt8} (buffer : CspPacket) (n : Nat)
    (h1 : data ≠ []) (hmax : data.length ≤ cspBufferSize) :
    ShortFrequency ((buffer.data.store data).val.take n) ↔
      0 < n ∧ n < 5 ∧ ∃ c, data.head? = some c ∧ (c = 0x02 ∨ c = 0x03) := by
  have hpos := List.length_pos_iff.mpr h1
  have hhead : (buffer.data.store data).val.head? = data.head? := by
    have := congrArg List.head? (take_store_of_le buffer (n := 1) hpos hmax)
    simpa [List.head?_take] using this
  have hlen : ((buffer.data.store data).val.take n).length = min n 1024 := by
    rw [List.length_take, (buffer.data.store data).property]
  unfold ShortFrequency
  rw [hlen, List.head?_take, hhead]
  by_cases hn : n = 0
  · simp [hn]
  · rw [if_neg hn]
    constructor
    · rintro ⟨hc, hlt⟩
      exact ⟨by omega, by omega, hc⟩
    · rintro ⟨-, hlt, hc⟩
      exact ⟨hc, by omega⟩

/-- **When an MCS file is transmitted exactly.** For every six header bytes, every payload that
`tcp_server` can store and whatever the packet buffer held: the length field is right, and a packet
for the satellite is shorter than 256 bytes; or the length field is wrong, and the file is refused
as a short frequency command to the ground station. -/
theorem sentExactly_iff (env : UplinkEnv τ) (s : Station τ) {hd data : List UInt8}
    (hhd : hd.length = mcsHeaderSize) (h1 : 1 ≤ data.length) (hmax : data.length ≤ 1018)
    (buffer : CspPacket) :
    SentExactly env s hd data buffer ↔
      (lengthField hd = data.length ∧ (15 < (decodedHeader hd).dst ∨ data.length < 256)) ∨
      (lengthField hd ≠ data.length ∧ 15 < (decodedHeader hd).dst ∧ 0 < headerByte hd 5 ∧
        headerByte hd 5 < 5 ∧ ∃ c, data.head? = some c ∧ (c = 0x02 ∨ c = 0x03)) := by
  have hmax' : data.length ≤ cspBufferSize := by show data.length ≤ 1024; omega
  have hfile := sendPacket_file env s buffer hhd (List.length_pos_iff.mp h1) hmax'
  have hsend := sendtos_exact_iff env s hd buffer hmax'
  have href := sendPacketExecute_refused_iff env s (some (cstr "MCS")) (decodedHeader hd)
    (filePacket hd data buffer) .packetData (headerByte hd 5)
  rw [read_filePacket] at href
  have hshort := shortFrequency_take_store buffer (headerByte hd 5) (List.length_pos_iff.mp h1) hmax'
  have hexact : SentExactly env s hd data buffer ↔
      ((decodedHeader hd).dst ≤ 15 → headerByte hd 5 = data.length) ∧
      (lengthField hd ≠ data.length → 15 < (decodedHeader hd).dst ∧ 0 < headerByte hd 5 ∧
        headerByte hd 5 < 5 ∧ ∃ c, data.head? = some c ∧ (c = 0x02 ∨ c = 0x03)) := by
    rw [← hshort, ← href, ← hsend]
    unfold SentExactly
    constructor
    · rintro ⟨r, hr, hs, hl⟩
      obtain rfl := Ending.returned.inj (hfile.symm.trans hr)
      rw [UplinkResult.release_sendtos] at hs
      rw [UplinkResult.release_actions] at hl
      exact ⟨hs, hl⟩
    · rintro ⟨hs, hl⟩
      refine ⟨_, hfile, ?_, ?_⟩
      · rw [UplinkResult.release_sendtos]
        exact hs
      · rw [UplinkResult.release_actions]
        exact hl
  rw [hexact]
  have hb5 := headerByte_lt hd 5
  have hfield : lengthField hd = 256 * headerByte hd 4 + headerByte hd 5 := rfl
  have hdst : (decodedHeader hd).dst ≤ 15 ↔ ¬ 15 < (decodedHeader hd).dst := UInt8.not_lt.symm
  by_cases hl : lengthField hd = data.length
  · simp only [hl, true_and, not_true_eq_false, ne_eq, false_implies, and_true, false_and, or_false]
    rw [hdst]
    by_cases h15 : 15 < (decodedHeader hd).dst
    · simp [h15]
    · simp only [h15, not_false_eq_true, true_implies, false_or]
      omega
  · simp only [hl, ne_eq, not_false_eq_true, true_implies, false_and, true_and, false_or]
    exact ⟨fun h => h.2, fun h => ⟨fun h' => absurd h.1 (hdst.mp h'), h⟩⟩

theorem sentExactly_one_byte :
    SentExactly (constEnv 0 1) (Station.init ()) [0x94, 0x51, 0xC8, 0, 0, 1] [0xAA]
      CspPacket.zero :=
  (sentExactly_iff _ _ rfl (by decide) (by decide) _).mpr (Or.inl ⟨by decide, Or.inr (by decide)⟩)

/-- A file of one payload byte whose header claims five: five bytes are transmitted, four of them
from whatever the packet buffer held before. -/
theorem stale_bytes_transmitted :
    ¬ SentExactly (constEnv 0 1) (Station.init ()) [0x94, 0x51, 0xC8, 0, 0, 5] [0xAA]
      CspPacket.zero := by
  rintro ⟨r, hr, hs, -⟩
  have hfile := sendPacket_file (constEnv 0 1) (Station.init ()) CspPacket.zero
    (rfl : [(0x94 : UInt8), 0x51, 0xC8, 0, 0, 5].length = mcsHeaderSize)
    (by decide : [(0xAA : UInt8)] ≠ []) (by decide)
  obtain rfl := Ending.returned.inj (hfile.symm.trans hr)
  rw [UplinkResult.release_sendtos, sendtos_exact_iff _ _ _ _ (by decide)] at hs
  exact absurd (hs (by decide)) (by decide)

end CspTerm.Uplink
