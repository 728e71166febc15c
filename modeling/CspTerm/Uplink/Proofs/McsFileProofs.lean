import CspTerm.Uplink.McsFile

/-!
# What `process_mcs_file` reads

The header fields go through shifts and masks, decimal texts and `atoi`; the result is stated in
plain arithmetic on the six header bytes, and it inverts the layout in which messages are written.
The length comes from header byte 5 alone.
-/

namespace CspTerm.Uplink

open CString CspTerm.Csp

theorem headerByte_lt (hexInput : List UInt8) (i : Nat) : headerByte hexInput i < 256 :=
  (hexInput.getD i 0).toNat_lt

def decodedHeader (hexInput : List UInt8) : McsPacketHeader :=
  let b := headerByte hexInput
  { priority := (b 0 / 64).toUInt8
    src := (b 0 / 2 % 32).toUInt8
    dst := ((b 0 * 256 + b 1) / 16 % 32).toUInt8
    dstPort := ((b 1 * 256 + b 2) / 64 % 64).toUInt8
    srcPort := (b 2 % 64).toUInt8
    hmac := (b 3 / 8 % 2).toUInt8
    xtea := (b 3 / 4 % 2).toUInt8
    rdp := (b 3 / 2 % 2).toUInt8
    crc := (b 3 % 2).toUInt8 }

/-- A byte survives being printed and read again. -/
theorem uint8OfText_fmtNat {n : Nat} (h : n < 256) : uint8OfText (fmtNat n) = n.toUInt8 := by
  unfold uint8OfText
  rw [atoi_fmtNat (by omega)]
  unfold UInt8.ofInt
  congr 1
  omega

theorem shiftLeft_or_eq {a b : Nat} (h : b < 256) : a <<< 8 ||| b = a * 256 + b := by
  rw [← Nat.shiftLeft_add_eq_or_of_lt (i := 8) (by omega), Nat.shiftLeft_eq]

theorem and_mask (a : Nat) : a &&& 0x01 = a % 2 ∧ a &&& 0x03 = a % 4 ∧ a &&& 0x1F = a % 32 ∧
    a &&& 0x3F = a % 64 ∧ a &&& 0xFF = a % 256 :=
  ⟨Nat.and_two_pow_sub_one_eq_mod a 1, Nat.and_two_pow_sub_one_eq_mod a 2,
    Nat.and_two_pow_sub_one_eq_mod a 5, Nat.and_two_pow_sub_one_eq_mod a 6,
    Nat.and_two_pow_sub_one_eq_mod a 8⟩

/-- **The header fields `send_packet` works with.** -/
theorem header_decodeParameters (hexInput : List UInt8) :
    (decodeParameters hexInput).header = decodedHeader hexInput := by
  have hb := headerByte_lt hexInput
  have h1 := hb 1
  have h2 := hb 2
  unfold McsFields.header decodeParameters decodedHeader
  simp only [(and_mask _).1, (and_mask _).2.1, (and_mask _).2.2.1, (and_mask _).2.2.2.1,
    shiftLeft_or_eq (hb 1), shiftLeft_or_eq (hb 2), Nat.shiftRight_eq_div_pow]
  have h0 := hb 0
  have h3 := hb 3
  rw [uint8OfText_fmtNat (by omega), uint8OfText_fmtNat (by omega), uint8OfText_fmtNat (by omega),
    uint8OfText_fmtNat (by omega), uint8OfText_fmtNat (by omega), uint8OfText_fmtNat (by omega),
    uint8OfText_fmtNat (by omega), uint8OfText_fmtNat (by omega), uint8OfText_fmtNat (by omega)]
  have e0 : headerByte hexInput 0 / 2 ^ 6 % 4 = headerByte hexInput 0 / 64 := by omega
  have e2 : (headerByte hexInput 1 * 256 + headerByte hexInput 2) % 64 =
      headerByte hexInput 2 % 64 := by omega
  rw [e0, e2]

/-- The length that is decoded is the last header byte. -/
theorem atoi_dataLength (hexInput : List UInt8) :
    atoi (decodeParameters hexInput).dataLength = headerByte hexInput 5 := by
  have h5 := headerByte_lt hexInput 5
  show atoi (fmtNat (headerByte hexInput 5 &&& 0xFF)) = _
  rw [(and_mask _).2.2.2.2, Nat.mod_eq_of_lt h5, atoi_fmtNat (by omega)]

theorem length_mcsHeaderBytes (h : McsPacketHeader) (len : Nat) :
    (mcsHeaderBytes h len).length = mcsHeaderSize := rfl

theorem headerByte_append {hd : List UInt8} (rest : List UInt8) {i : Nat} (h : i < hd.length) :
    headerByte (hd ++ rest) i = headerByte hd i := by
  unfold headerByte
  rw [List.getD_eq_getElem?_getD, List.getD_eq_getElem?_getD, List.getElem?_append_left h]

/-- **Messages are read back as they were written.** -/
theorem decodedHeader_mcsHeaderBytes {h : McsPacketHeader} (hf : h.Fits) (len : Nat) :
    decodedHeader (mcsHeaderBytes h len) = h := by
  obtain ⟨hp, hs, hd, hdp, hsp, hh, hx, hr, hc⟩ := hf
  have e0 : headerByte (mcsHeaderBytes h len) 0 =
      (h.priority.toNat * 64 + h.src.toNat * 2 + h.dst.toNat / 16) % 256 := UInt8.toNat_ofNat'
  have e1 : headerByte (mcsHeaderBytes h len) 1 =
      (h.dst.toNat % 16 * 16 + h.dstPort.toNat / 4) % 256 := UInt8.toNat_ofNat'
  have e2 : headerByte (mcsHeaderBytes h len) 2 =
      (h.dstPort.toNat % 4 * 64 + h.srcPort.toNat) % 256 := UInt8.toNat_ofNat'
  have e3 : headerByte (mcsHeaderBytes h len) 3 =
      (h.hmac.toNat * 8 + h.xtea.toNat * 4 + h.rdp.toNat * 2 + h.crc.toNat) % 256 :=
    UInt8.toNat_ofNat'
  have hback : ∀ {n : Nat} {b : UInt8}, n = b.toNat → n.toUInt8 = b := by
    rintro n b rfl
    exact UInt8.ofNat_toNat
  unfold decodedHeader
  simp only [e0, e1, e2, e3]
  cases h
  simp only [McsPacketHeader.mk.injEq]
  simp only at hp hs hd hdp hsp hh hx hr hc
  refine ⟨hback ?_, hback ?_, hback ?_, hback ?_, hback ?_, hback ?_, hback ?_, hback ?_, hback ?_⟩
    <;> omega

theorem lengthField_mcsHeaderBytes (h : McsPacketHeader) {len : Nat} (hl : len < 65536) :
    lengthField (mcsHeaderBytes h len) = len := by
  have e4 : headerByte (mcsHeaderBytes h len) 4 = len / 256 % 256 := UInt8.toNat_ofNat'
  have e5 : headerByte (mcsHeaderBytes h len) 5 = len % 256 % 256 := UInt8.toNat_ofNat'
  unfold lengthField
  rw [e4, e5]
  omega

/-- The decoded header depends on the first six bytes only. -/
theorem decodedHeader_append {hd : List UInt8} (rest : List UInt8) (h : hd.length = mcsHeaderSize) :
    decodedHeader (hd ++ rest) = decodedHeader hd := by
  have hb : ∀ i < 6, headerByte (hd ++ rest) i = headerByte hd i := fun i hi =>
    headerByte_append rest (by rw [h]; exact hi)
  unfold decodedHeader
  simp only [hb 0 (by omega), hb 1 (by omega), hb 2 (by omega), hb 3 (by omega)]

end CspTerm.Uplink
