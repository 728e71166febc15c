import CspTerm.Downlink.ReceivePacket
import CspTerm.Uplink.Proofs.McsFileProofs

/-!
# Downlink headers and the uplink decoder

The header that `receive_packet` builds is a message header with priority 0 and no flags, so
`decode_parameters` reads its addresses and ports back. Of the length it reads the low byte only.
-/

namespace CspTerm.Downlink

open CString CspTerm.Csp CspTerm.Uplink

/-! ## The layout -/

theorem src_dst_byte : ∀ src dst : Fin 32,
    ((src.val <<< 1) &&& 0x3E) ||| ((dst.val >>> 4) &&& 0x01) = src.val * 2 + dst.val / 16 := by
  decide +kernel

theorem dst_dport_byte : ∀ (dst : Fin 32) (dport : Fin 64),
    ((dst.val <<< 4) &&& 0xF0) ||| ((dport.val >>> 2) &&& 0x0F) =
      dst.val % 16 * 16 + dport.val / 4 := by
  decide +kernel

theorem dport_sport_byte : ∀ dport sport : Fin 64,
    ((dport.val <<< 6) &&& 0xC0) ||| (sport.val &&& 0x3F) = dport.val % 4 * 64 + sport.val := by
  decide +kernel

theorem toNat_toUInt8 {n : Nat} (h : n < 256) : n.toUInt8.toNat = n := by
  show n % 256 = n
  exact Nat.mod_eq_of_lt h

theorem plainHeader_fits (v : HeaderValues) : (plainHeader v).Fits := by
  have hsrc := v.src.isLt
  have hdst := v.dst.isLt
  have hdport := v.dport.isLt
  have hsport := v.sport.isLt
  constructor
  all_goals simp only [plainHeader]
  all_goals first | decide | (rw [toNat_toUInt8 (by omega)]; omega)

/-- **Downlink headers have the layout of messages.** -/
theorem cspHeader_eq (v : HeaderValues) (length : UInt16) :
    cspHeader v length = mcsHeaderBytes (plainHeader v) length.toNat := by
  have hsrc : v.src.val.toUInt8.toNat = v.src.val := toNat_toUInt8 (by omega)
  have hdst : v.dst.val.toUInt8.toNat = v.dst.val := toNat_toUInt8 (by omega)
  have hdport : v.dport.val.toUInt8.toNat = v.dport.val := toNat_toUInt8 (by omega)
  have hsport : v.sport.val.toUInt8.toNat = v.sport.val := toNat_toUInt8 (by omega)
  have hlow : length.toNat.toUInt8 = (length.toNat % 256).toUInt8 := by
    apply UInt8.toNat_inj.mp
    show length.toNat % 256 = length.toNat % 256 % 256
    omega
  have hhigh : length.toNat >>> 8 = length.toNat / 256 := Nat.shiftRight_eq_div_pow _ 8
  have hzero : (0 : UInt8).toNat = 0 := rfl
  unfold cspHeader mcsHeaderBytes
  simp only [plainHeader, hsrc, hdst, hdport, hsport, hhigh, hzero, List.map_cons, List.map_nil,
    Nat.zero_shiftLeft, Nat.zero_and, Nat.zero_or, Nat.zero_mul, Nat.zero_add, src_dst_byte,
    dst_dport_byte, dport_sport_byte, hlow]

/-! ## Encoding and decoding -/

theorem headerByte_five_cspHeader (v : HeaderValues) (length : UInt16) :
    headerByte (cspHeader v length) 5 = length.toNat % 256 := rfl

/-- **What is encoded is decoded, for packets of less than 256 bytes.** -/
theorem decodesEncoded_iff (v : HeaderValues) (length : UInt16) :
    DecodesEncoded v length ↔ length.toNat < 256 := by
  have hheader : (decodeParameters (cspHeader v length)).header = plainHeader v := by
    rw [header_decodeParameters, cspHeader_eq, decodedHeader_mcsHeaderBytes (plainHeader_fits v)]
  unfold DecodesEncoded
  rw [atoi_dataLength, headerByte_five_cspHeader]
  constructor
  · rintro ⟨-, hlen⟩
    omega
  · intro hlt
    exact ⟨hheader, by omega⟩

/-- The fields of a header, as `receive_packet` would get them. -/
theorem headerValuesOf_vals (hd : List UInt8) :
    (headerValuesOf (decodeParameters hd)).src.val = headerByte hd 0 / 2 % 32 ∧
    (headerValuesOf (decodeParameters hd)).dst.val =
      (headerByte hd 0 * 256 + headerByte hd 1) / 16 % 32 ∧
    (headerValuesOf (decodeParameters hd)).dport.val =
      (headerByte hd 1 * 256 + headerByte hd 2) / 64 % 64 ∧
    (headerValuesOf (decodeParameters hd)).sport.val = headerByte hd 2 % 64 := by
  have h0 := headerByte_lt hd 0
  simp only [headerValuesOf, header_decodeParameters, decodedHeader, addressField, portField]
  refine ⟨?_, ?_, ?_, ?_⟩
  all_goals
    rw [toNat_toUInt8 (by omega)]
    omega

theorem toUInt8_eq_iff {n : Nat} (h : n < 256) (b : UInt8) : n.toUInt8 = b ↔ n = b.toNat := by
  rw [← UInt8.toNat_inj, toNat_toUInt8 h]

theorem eq_six_bytes {hd : List UInt8} (h : hd.length = mcsHeaderSize) :
    ∃ b0 b1 b2 b3 b4 b5, hd = [b0, b1, b2, b3, b4, b5] := by
  match hd, h with
  | [b0, b1, b2, b3, b4, b5], _ => exact ⟨b0, b1, b2, b3, b4, b5, rfl⟩

/-- **What is decoded is encoded, for headers whose length is below 256.** -/
theorem encodesDecoded_iff {hd : List UInt8} (h : PlainBytes hd) :
    EncodesDecoded hd ↔ headerByte hd 4 = 0 := by
  obtain ⟨hlen, hpri, hflags⟩ := h
  obtain ⟨hsrc, hdst, hdport, hsport⟩ := headerValuesOf_vals hd
  unfold EncodesDecoded
  rw [cspHeader_eq, atoi_dataLength]
  generalize headerValuesOf (decodeParameters hd) = v at hsrc hdst hdport hsport
  have hsrc' : (plainHeader v).src.toNat = v.src.val := toNat_toUInt8 (by omega)
  have hdst' : (plainHeader v).dst.toNat = v.dst.val := toNat_toUInt8 (by omega)
  have hdport' : (plainHeader v).dstPort.toNat = v.dport.val := toNat_toUInt8 (by omega)
  have hsport' : (plainHeader v).srcPort.toNat = v.sport.val := toNat_toUInt8 (by omega)
  have hlow : (UInt16.ofInt (headerByte hd 5 : Int)).toNat = headerByte hd 5 := by
    have h5 := headerByte_lt hd 5
    show ((headerByte hd 5 : Int) % 2 ^ 16).toNat % 2 ^ 16 = _
    omega
  have hzero : (0 : UInt8).toNat = 0 := rfl
  have h0 := headerByte_lt hd 0
  have h1 := headerByte_lt hd 1
  have h2 := headerByte_lt hd 2
  have h5 := headerByte_lt hd 5
  unfold mcsHeaderBytes
  rw [hsrc', hdst', hdport', hsport', hlow]
  simp only [plainHeader, hzero, List.map_cons, List.map_nil]
  obtain ⟨b0, b1, b2, b3, b4, b5, rfl⟩ := eq_six_bytes hlen
  simp only [headerByte, List.getD_cons_zero, List.getD_cons_succ] at *
  simp only [List.cons.injEq, and_true]
  rw [toUInt8_eq_iff (by omega), toUInt8_eq_iff (by omega), toUInt8_eq_iff (by omega),
    toUInt8_eq_iff (by omega), toUInt8_eq_iff (by omega), toUInt8_eq_iff (by omega)]
  omega

/-- **When downlink headers and the uplink decoder are inverse.** What is encoded is decoded exactly
for packets of less than 256 bytes, and a header with zero priority and flags is encoded from its
decoded fields exactly if its length is less than 256. -/
theorem headerCodec_iff (v : HeaderValues) (length : UInt16) (hd : List UInt8) :
    (DecodesEncoded v length ↔ length.toNat < 256) ∧
      (PlainBytes hd → (EncodesDecoded hd ↔ headerByte hd 4 = 0)) :=
  ⟨decodesEncoded_iff v length, fun h => encodesDecoded_iff h⟩

/-- A packet of 300 bytes is announced as one of 44 to a reader of the header. -/
theorem long_packet_misread :
    let v : HeaderValues :=
      { dst := ⟨10, by decide⟩, src := ⟨5, by decide⟩, sport := ⟨17, by decide⟩,
        dport := ⟨15, by decide⟩, flags := 0 }
    atoi (decodeParameters (cspHeader v 300)).dataLength = 44 ∧ ¬ DecodesEncoded v 300 ∧
      PlainBytes (cspHeader v 300) ∧ ¬ EncodesDecoded (cspHeader v 300) := by
  refine ⟨by decide, ?_, ⟨rfl, by decide, by decide⟩, ?_⟩
  · intro h
    exact absurd h.2 (by decide)
  · intro h
    unfold EncodesDecoded at h
    exact absurd h (by decide)

/-- The header of a packet of 44 bytes from address 5 to address 10. -/
theorem headerCodec_short :
    let v : HeaderValues :=
      { dst := ⟨10, by decide⟩, src := ⟨5, by decide⟩, sport := ⟨17, by decide⟩,
        dport := ⟨15, by decide⟩, flags := 0 }
    DecodesEncoded v 44 ∧ EncodesDecoded (cspHeader v 44) :=
  ⟨(headerCodec_iff _ _ []).1.mpr (by decide),
    ((headerCodec_iff CspId.zero.headerValues 0 _).2 ⟨rfl, by decide, by decide⟩).mpr (by decide)⟩

end CspTerm.Downlink
