import CspTerm.Downlink.CrcCheck
import CspTerm.Downlink.Proofs.DescriptionsProofs

/-!
# When only CRC-correct packets have an effect

From two bytes on, the comparison is that of the last two bytes with the CRC of the others. A shorter
packet is compared with 0, and `crc16` is asked for a negative number of bytes.
-/

namespace CspTerm.Downlink

open CString CspTerm.Csp CspTerm.Archive

/-! ## The function -/

/-- The CRC that a packet has at its end. -/
theorem RadioPacket.receivedCrc_eq (p : RadioPacket) (hlen : 2 ≤ p.length.toNat)
    (hhigh : p.length.toNat - 2 < p.data.length) (hlow : p.length.toNat - 1 < p.data.length) :
    p.receivedCrc =
      p.data[p.length.toNat - 2].toUInt16 <<< 8 ||| p.data[p.length.toNat - 1].toUInt16 := by
  unfold RadioPacket.receivedCrc
  rw [if_pos hlen]
  simp [hhigh, hlow]

theorem RadioPacket.receivedCrc_short (p : RadioPacket) (hlen : ¬ 2 ≤ p.length.toNat) :
    p.receivedCrc = 0 := if_neg hlen

/-- A packet that a buffer can hold is treated as its descriptions say. -/
theorem receivePacketAt_eq (crc : Crc16) (env : ReceiveEnv) (count : UInt32)
    (headerValues : HeaderValues) (p : CspPacket) (h : p.length.toNat ≤ cspBufferSize)
    (time : CStr) :
    receivePacketAt crc.apply env count headerValues p time =
      ((receiveChecked crc env count headerValues (radioPacket p h) time).reception,
        (receiveChecked crc env count headerValues (radioPacket p h) time).count) := by
  have hcrc : receivedCrc p = some (radioPacket p h).receivedCrc := by
    have hdata := p.data.property
    unfold receivedCrc
    dsimp only
    by_cases hlen : 2 ≤ p.length.toNat
    · have hhigh : p.length.toNat - 2 < p.data.val.length := by omega
      have hlow : p.length.toNat - 1 < p.data.val.length := by omega
      rw [if_pos hlen, List.getElem?_eq_getElem hhigh, List.getElem?_eq_getElem hlow]
      exact congrArg some ((radioPacket p h).receivedCrc_eq hlen hhigh hlow).symm
    · rw [if_neg hlen]
      exact congrArg some ((radioPacket p h).receivedCrc_short hlen).symm
  unfold receivePacketAt receiveChecked
  rw [hcrc]
  dsimp only
  by_cases hok : crc.apply p.data.val (p.length.toNat - 2) = (radioPacket p h).receivedCrc
  · have hok' : ¬ crc.apply (radioPacket p h).data (((radioPacket p h).length.toNat : Int) - 2) ≠
        (radioPacket p h).receivedCrc := not_not_intro hok
    rw [if_neg (not_not_intro hok), if_neg hok']
    split_ifs
    · rfl
    · rfl
  · have hbad : crc.apply (radioPacket p h).data (((radioPacket p h).length.toNat : Int) - 2) ≠
        (radioPacket p h).receivedCrc := hok
    rw [if_pos hok, if_pos hbad]

/-- The comparison. -/
def RadioPacket.Accepted (crc : Crc16) (p : RadioPacket) : Prop :=
  crc.apply p.data (p.length.toNat - 2) = p.receivedCrc

theorem receiveChecked_accepted {crc : Crc16} {p : RadioPacket} (h : p.Accepted crc)
    {env : ReceiveEnv} (hopened : env.opened = true) (hheader : env.fwriteHeader ≠ 0)
    (count : UInt32) (headerValues : HeaderValues) (time : CStr) :
    (receiveChecked crc env count headerValues p time).reception =
      .saved (p.received env time count headerValues) := by
  unfold RadioPacket.Accepted at h
  unfold receiveChecked
  dsimp only
  rw [if_neg (not_not_intro h), if_neg (by simp [hopened, hheader])]

theorem receiveChecked_dropped {crc : Crc16} {p : RadioPacket} (h : ¬ p.Accepted crc)
    (env : ReceiveEnv) (count : UInt32) (headerValues : HeaderValues) (time : CStr) :
    (receiveChecked crc env count headerValues p time).reception = .dropped ∧
      (receiveChecked crc env count headerValues p time).count = count := by
  unfold RadioPacket.Accepted at h
  unfold receiveChecked
  dsimp only
  rw [if_pos h]
  exact ⟨rfl, rfl⟩

/-! ## The comparison -/

/-- Two bytes as a big-endian number. -/
theorem bigEndian_toNat (high low : UInt8) :
    (high.toUInt16 <<< 8 ||| low.toUInt16).toNat = high.toNat * 256 + low.toNat := by
  have hhigh := high.toNat_lt
  have hlow := low.toNat_lt
  rw [UInt16.toNat_or, UInt16.toNat_shiftLeft, UInt8.toNat_toUInt16, UInt8.toNat_toUInt16]
  have hshift : high.toNat <<< ((8 : UInt16).toNat % 16) % 2 ^ 16 = 2 ^ 8 * high.toNat := by
    show high.toNat <<< 8 % 2 ^ 16 = _
    rw [Nat.shiftLeft_eq]
    omega
  rw [hshift, ← Nat.two_pow_add_eq_or_of_lt hlow]
  omega

/-- **A packet of two bytes or more is accepted exactly if its CRC is correct.** -/
theorem accepted_iff (crc : Crc16) (p : RadioPacket) (hlen : 2 ≤ p.length.toNat) :
    p.Accepted crc ↔ CrcCorrect crc p := by
  have hdata := p.within
  have hhigh : p.length.toNat - 2 < p.data.length := by omega
  have hlow : p.length.toNat - 1 < p.data.length := by omega
  have hpayload : p.payload = p.data.take (p.length.toNat - 2) ++
      [p.data[p.length.toNat - 2], p.data[p.length.toNat - 1]] := by
    have hsucc : p.length.toNat = p.length.toNat - 2 + 1 + 1 := by omega
    have hmid : p.length.toNat - 2 + 1 = p.length.toNat - 1 := by omega
    unfold RadioPacket.payload
    conv_lhs => rw [hsucc]
    rw [List.take_succ_eq_append_getElem (by omega), List.take_succ_eq_append_getElem hhigh,
      List.append_assoc]
    simp only [hmid, List.cons_append, List.nil_append]
  have hcount : ((p.length.toNat : Int) - 2).toNat = p.length.toNat - 2 := by omega
  unfold RadioPacket.Accepted Crc16.apply CrcCorrect
  rw [if_pos (by omega), hcount, p.receivedCrc_eq hlen hhigh hlow, hpayload, ← UInt16.toNat_inj,
    bigEndian_toNat]
  constructor
  · intro h
    exact ⟨_, _, _, rfl, h.symm⟩
  · rintro ⟨body, high, low, heq, hcrc⟩
    obtain ⟨hbody, hbytes⟩ := List.append_inj' heq rfl
    obtain ⟨hfirst, hbytes⟩ := List.cons.inj hbytes
    rw [hbody, hfirst, (List.cons.inj hbytes).1]
    exact hcrc.symm

/-- **Only CRC-correct packets have an effect exactly from two bytes on.** -/
theorem onlyCrcCorrect_iff (crc : Crc16) (p : RadioPacket) :
    OnlyCrcCorrect crc p ↔ 2 ≤ p.length.toNat := by
  constructor
  · intro h
    have hcount := (h.prefixes ⟨epoch, true, 6, 0⟩ 0 ground []) (p.length.toNat - 2)
    have hmem : ((p.length.toNat : Int) - 2) ∈
        (receiveChecked crc ⟨epoch, true, 6, 0⟩ 0 ground p []).crcCounts := by
      unfold receiveChecked
      dsimp only
      split_ifs <;> exact List.mem_singleton.mpr rfl
    have hbounds := hcount hmem
    omega
  · intro hlen
    have hiff := accepted_iff crc p hlen
    refine ⟨fun env count headerValues time hopened hheader => ?_,
      fun env count headerValues time hbad =>
        receiveChecked_dropped (fun h => hbad (hiff.mp h)) env count headerValues time,
      fun env count headerValues time n hn => ?_⟩
    · constructor
      · intro h
        by_contra hbad
        have hdropped := (receiveChecked_dropped (fun ha => hbad (hiff.mp ha)) env count
          headerValues time).1
        rw [hdropped] at h
        cases h
      · intro h
        exact receiveChecked_accepted (hiff.mpr h) hopened hheader count headerValues time
    · have hcounts : (receiveChecked crc env count headerValues p time).crcCounts =
          [(p.length.toNat : Int) - 2] := by
        unfold receiveChecked
        dsimp only
        split_ifs <;> rfl
      rw [hcounts, List.mem_singleton] at hn
      omega

/-- A packet that is too short for a CRC is accepted if `crc16` gives 0 for its negative count. -/
theorem accepted_short_iff (crc : Crc16) (p : RadioPacket) (hlen : p.length.toNat < 2) :
    p.Accepted crc ↔ crc.negative p.data (p.length.toNat - 2) = 0 := by
  unfold RadioPacket.Accepted Crc16.apply
  rw [if_neg (by omega), p.receivedCrc_short (by omega)]

/-- One bit of the division by `0x1021`. -/
def crcBit (crc : UInt16) : UInt16 :=
  if crc &&& 0x8000 = 0 then crc <<< 1 else crc <<< 1 ^^^ 0x1021

def crcByte (crc : UInt16) (b : UInt8) : UInt16 := crcBit^[8] (crc ^^^ b.toUInt16 <<< 8)

/-- A CRC whose loop over the bytes does not run for a negative count. -/
def crcXmodem : Crc16 where
  ofBytes := fun bytes => bytes.foldl crcByte 0
  negative := fun _ _ => 0

/-- An empty packet is saved, published and forwarded. -/
theorem empty_packet_accepted :
    let p : RadioPacket := { length := 0, data := [], within := by decide }
    (receiveChecked crcXmodem ⟨epoch, true, 6, 0⟩ 0 ground p (cstr "01-01-1970 08:00:00")).reception =
        .saved (p.received ⟨epoch, true, 6, 0⟩ (cstr "01-01-1970 08:00:00") 0 ground) ∧
      (receiveChecked crcXmodem ⟨epoch, true, 6, 0⟩ 0 ground p
        (cstr "01-01-1970 08:00:00")).crcCounts = [-2] ∧
      ¬ ∀ (crc : Crc16) (p : RadioPacket), OnlyCrcCorrect crc p := by
  intro p
  have haccepted : p.Accepted crcXmodem := (accepted_short_iff crcXmodem p (by decide)).mpr rfl
  have hcounts : (receiveChecked crcXmodem ⟨epoch, true, 6, 0⟩ 0 ground p
      (cstr "01-01-1970 08:00:00")).crcCounts = [-2] := by
    unfold receiveChecked
    dsimp only
    split_ifs <;> rfl
  refine ⟨receiveChecked_accepted haccepted rfl (by decide) _ _ _, hcounts, ?_⟩
  intro h
  have hbounds := (h crcXmodem p).prefixes ⟨epoch, true, 6, 0⟩ 0 ground
    (cstr "01-01-1970 08:00:00") (-2) (by rw [hcounts]; exact List.mem_singleton.mpr rfl)
  exact absurd hbounds.1 (by decide)

end CspTerm.Downlink
