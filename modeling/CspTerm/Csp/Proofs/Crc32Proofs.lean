import CspTerm.Csp.Crc32

/-!
# What the checksum of packets guarantees

The table computes the division by the Castagnoli polynomial. So a damaged packet passes the check
only if at least four of its bits are wrong, and a damage within 32 bits in a row changes the
checksum.
-/

namespace CspTerm.Csp

/-! ## The table -/

theorem crcTab_get (i : Fin 256) :
    (crcTab.get i).toBitVec = (Crc.shift castagnoli)^[8] (BitVec.ofNat 32 i.val) := by
  revert i
  decide +kernel

theorem castagnoli_constant : castagnoli.getLsbD (32 - 1) = true := by decide

theorem castagnoli_parity : Crc.parity castagnoli = true := by decide +kernel

theorem crcIndex_val (x : UInt32) : (crcIndex x).val = x.toNat % 2 ^ 8 := by
  show (x &&& 0xFF).toNat = _
  rw [UInt32.toNat_and]
  exact Nat.and_two_pow_sub_one_eq_mod x.toNat 8

/-- **One look into the table is eight steps of the division.** -/
theorem crcStep_toBitVec (crc : UInt32) (b : UInt8) :
    (crcStep crc b).toBitVec
      = Crc.register castagnoli crc.toBitVec (Crc.bits b.toBitVec) := by
  have hx : crc.toBitVec ^^^ b.toBitVec.setWidth 32 = (crc ^^^ b.toUInt32).toBitVec := by simp
  have hindex : ((crc ^^^ b.toUInt32).toBitVec.setWidth 8).setWidth 32
      = BitVec.ofNat 32 (crcIndex (crc ^^^ b.toUInt32)).val := by
    apply BitVec.eq_of_toNat_eq
    rw [crcIndex_val, BitVec.toNat_setWidth, BitVec.toNat_setWidth, BitVec.toNat_ofNat,
      UInt32.toNat_toBitVec]
  have hshift : (crc ^^^ b.toUInt32).toBitVec >>> 8 = crc.toBitVec >>> 8 := by
    rw [← hx]
    apply BitVec.eq_of_getLsbD_eq
    intro i _
    simp
  rw [Crc.register_eq_iterate_shift castagnoli _ (by simp), Crc.word_bits_eq_setWidth,
    Crc.length_bits, hx, Crc.iterate_shift_eq castagnoli _ 8, hindex, hshift, ← crcTab_get]
  simp [crcStep]

theorem foldl_crcStep_toBitVec (crc : UInt32) (data : List UInt8) :
    (data.foldl crcStep crc).toBitVec
      = Crc.register castagnoli crc.toBitVec (messageBits data) := by
  induction data generalizing crc with
  | nil => rfl
  | cons b data ih =>
    rw [List.foldl_cons, ih, crcStep_toBitVec, ← Crc.register_append]
    rfl

/-- **The loop over the table divides by the Castagnoli polynomial**, one bit after the other. -/
theorem cspCrc32Memory_toBitVec (data : List UInt8) :
    (cspCrc32Memory data).toBitVec
      = Crc.register castagnoli 0xFFFFFFFF (messageBits data) ^^^ 0xFFFFFFFF := by
  rw [cspCrc32Memory, UInt32.toBitVec_xor, foldl_crcStep_toBitVec]
  rfl

/-! ## Distances -/

theorem length_messageBits (data : List UInt8) : (messageBits data).length = 8 * data.length := by
  induction data with
  | nil => rfl
  | cons b data ih =>
    rw [messageBits, List.flatMap_cons, List.length_append, Crc.length_bits, List.length_cons]
    rw [messageBits] at ih
    omega

/-- The distance counts the bits of the error. -/
theorem count_zipWith_messageBits {x y : List UInt8} (h : x.length = y.length) :
    (List.zipWith xor (messageBits x) (messageBits y)).count true = bitDistance x y := by
  induction x generalizing y with
  | nil => simp [messageBits, bitDistance]
  | cons a x ih =>
    rcases y with _ | ⟨b, y⟩
    · simp at h
    · have hrec := ih (y := y) (by simpa using h)
      rw [messageBits, messageBits, List.flatMap_cons, List.flatMap_cons,
        List.zipWith_append (by simp), List.count_append, ← Crc.bits_xor]
      simp only [bitDistance, List.zipWith_cons_cons, List.sum_cons] at hrec ⊢
      rw [← hrec]
      rfl

theorem bitDistance_append {x y : List UInt8} (h : x.length = y.length) (u v : List UInt8) :
    bitDistance (x ++ u) (y ++ v) = bitDistance x y + bitDistance u v := by
  rw [bitDistance, List.zipWith_append h, List.sum_append]
  rfl

theorem bitDistance_reverse {x y : List UInt8} (h : x.length = y.length) :
    bitDistance x.reverse y.reverse = bitDistance x y := by
  rw [bitDistance, ← List.reverse_zipWith h, List.sum_reverse]
  rfl

theorem messageBits_bytes32 (x : UInt32) : messageBits (bytes32 x) = Crc.bits x.toBitVec := by
  simp [messageBits, bytes32, Crc.bits, List.range_succ]

/-- The order in which the bytes of the checksums are sent does not matter. -/
theorem bitDistance_checksums (a b : UInt32) :
    bitDistance (bytes32 (cspHton32 a)) (bytes32 (cspHton32 b))
      = (Crc.bits (a ^^^ b).toBitVec).count true := by
  have hlen : (bytes32 a).length = (bytes32 b).length := rfl
  rw [bytes32_cspHton32, bytes32_cspHton32, bitDistance_reverse hlen,
    ← count_zipWith_messageBits hlen, messageBits_bytes32, messageBits_bytes32, ← Crc.bits_xor,
    UInt32.toBitVec_xor]

/-! ## What the check notices -/

theorem castagnoli_avoids :
    Crc.avoids castagnoli (Crc.unit true) 8224 (Crc.unit true) = true := by decide +kernel

theorem eq_of_bitDistance_eq_zero {x y : List UInt8} (hlen : x.length = y.length)
    (h : bitDistance x y = 0) : x = y := by
  induction x generalizing y with
  | nil => exact (List.length_eq_zero_iff.mp hlen.symm).symm
  | cons a x ih =>
    rcases y with _ | ⟨b, y⟩
    · simp at hlen
    · rw [bitDistance, List.zipWith_cons_cons, List.sum_cons] at h
      have hbyte := Crc.eq_zero_of_count_bits (Nat.eq_zero_of_add_eq_zero_right h)
      have hab : a = b := UInt8.eq_of_toBitVec_eq (BitVec.xor_eq_zero_iff.mp hbyte)
      rw [hab, ih (by simpa using hlen) (Nat.eq_zero_of_add_eq_zero_left h)]

/-- The bytes before the checksum of a packet that is long enough for one. -/
theorem checkedBytes_eq {packet : CspPacket} {includeHeader : Bool}
    (h : 4 ≤ packet.length.toNat) :
    checkedBytes packet includeHeader
      = crcInput packet includeHeader (packet.length.toNat - 4)
        ++ packet.payload.drop (packet.length.toNat - 4) := by
  have hpayload : packet.payload = packet.data.val.take (packet.length.toNat - 4)
      ++ packet.payload.drop (packet.length.toNat - 4) := by
    rw [CspPacket.payload]
    conv_lhs => rw [← List.take_append_drop (packet.length.toNat - 4)
      (packet.data.val.take packet.length.toNat), List.take_take, Nat.min_eq_left (by omega)]
  rw [checkedBytes, crcInput, List.append_assoc, ← hpayload]

/-- A packet passes the check exactly if its last four bytes are the checksum of the rest. -/
theorem cspCrc32Verify_eq_some_iff {packet q : CspPacket} {includeHeader : Bool} :
    cspCrc32Verify packet includeHeader = some q ↔
      4 ≤ packet.length.toNat ∧
        packet.payload.drop (packet.length.toNat - 4) = bytes32 (cspHton32
          (cspCrc32Memory (crcInput packet includeHeader (packet.length.toNat - 4)))) ∧
        q = { packet with length := packet.length - 4 } := by
  have hshort : packet.length < 4 ↔ ¬ 4 ≤ packet.length.toNat := by
    rw [UInt16.lt_iff_toNat_lt, Nat.not_le]
    rfl
  unfold cspCrc32Verify
  by_cases h4 : 4 ≤ packet.length.toNat
  · rw [if_neg (fun h => hshort.mp h h4)]
    dsimp only
    split
    · rename_i hne
      exact ⟨nofun, fun h => absurd h.2.1 hne⟩
    · rename_i heq
      rw [Option.some.injEq]
      exact ⟨fun h => ⟨h4, not_not.mp heq, h.symm⟩, fun h => h.2.2.symm⟩
  · rw [if_pos (hshort.mpr h4)]
    exact ⟨nofun, fun h => absurd h.1 h4⟩

theorem length_crcInput (packet : CspPacket) (includeHeader : Bool) {n : Nat}
    (h : n ≤ cspBufferSize) :
    (crcInput packet includeHeader n).length = (if includeHeader then 4 else 0) + n := by
  have hd := packet.data.property
  cases includeHeader <;> simp [crcInput] <;> omega

/-- What is added to the register before and after the loop cancels out of two checksums. -/
theorem cspCrc32Memory_xor (x y : List UInt8) :
    (cspCrc32Memory x ^^^ cspCrc32Memory y).toBitVec
      = Crc.register castagnoli 0xFFFFFFFF (messageBits x)
        ^^^ Crc.register castagnoli 0xFFFFFFFF (messageBits y) := by
  have hcancel : ∀ a b m : BitVec 32, (a ^^^ m) ^^^ (b ^^^ m) = a ^^^ b := fun a b m => by
    calc (a ^^^ m) ^^^ (b ^^^ m) = (a ^^^ b) ^^^ (m ^^^ m) := by ac_rfl
      _ = a ^^^ b := by rw [BitVec.xor_self, BitVec.xor_zero]
  rw [UInt32.toBitVec_xor, cspCrc32Memory_toBitVec, cspCrc32Memory_toBitVec, hcancel]

/-- Messages with their checksums behind them agree, or differ in at least four bits. -/
theorem bitDistance_checksummed {x y : List UInt8} (hlen : x.length = y.length)
    (hmax : x.length ≤ 1024) (hne : x ≠ y) :
    4 ≤ bitDistance (x ++ bytes32 (cspHton32 (cspCrc32Memory x)))
      (y ++ bytes32 (cspHton32 (cspCrc32Memory y))) := by
  have hbits : (messageBits x).length = (messageBits y).length := by
    rw [length_messageBits, length_messageBits, hlen]
  have hreg : Crc.register castagnoli 0 (List.zipWith xor (messageBits x) (messageBits y))
      = (cspCrc32Memory x ^^^ cspCrc32Memory y).toBitVec := by
    rw [cspCrc32Memory_xor, Crc.register_xor_register castagnoli _ hbits]
  have hzero := (Crc.register_eq_iff castagnoli_constant _ _).mp hreg
  have hpos : 0 < bitDistance x y :=
    Nat.pos_of_ne_zero fun h => hne (eq_of_bitDistance_eq_zero hlen h)
  rw [bitDistance_append hlen, bitDistance_checksums]
  by_contra hlt
  refine Crc.register_ne_zero_of_count_le_three (n := 8224) (by decide) castagnoli_constant
    castagnoli_parity ?_ ?_ ?_ ?_ hzero
  · intro d hd hlast
    exact Crc.ne_of_avoids castagnoli_avoids hd hlast.le
  · rw [List.length_append, List.length_zipWith, hbits, Nat.min_self, Crc.length_bits,
      length_messageBits]
    omega
  · rw [List.count_append, count_zipWith_messageBits hlen]
    omega
  · rw [List.count_append, count_zipWith_messageBits hlen]
    omega

/-- **Damage.** Of two packets of one length that pass the check, either no bit differs or at least
four do, wherever these are: in the header, in the data or in the checksum. -/
theorem cspCrc32Verify_distance {p q p' q' : CspPacket} {includeHeader : Bool}
    (hlen : p.length = q.length) (hmax : p.length.toNat ≤ cspBufferSize)
    (hp : cspCrc32Verify p includeHeader = some p') (hq : cspCrc32Verify q includeHeader = some q')
    (hne : checkedBytes p includeHeader ≠ checkedBytes q includeHeader) :
    4 ≤ bitDistance (checkedBytes p includeHeader) (checkedBytes q includeHeader) := by
  obtain ⟨h4, hcrc, -⟩ := cspCrc32Verify_eq_some_iff.mp hp
  obtain ⟨h4', hcrc', -⟩ := cspCrc32Verify_eq_some_iff.mp hq
  have hsize : cspBufferSize = 1024 := rfl
  have hl := length_crcInput p includeHeader (show p.length.toNat - 4 ≤ cspBufferSize by omega)
  have hl' := length_crcInput q includeHeader
    (show q.length.toNat - 4 ≤ cspBufferSize by rw [← hlen]; omega)
  rw [checkedBytes_eq h4, checkedBytes_eq h4', hcrc, hcrc'] at hne ⊢
  apply bitDistance_checksummed
  · rw [hl, hl', hlen]
  · rw [hl]
    cases includeHeader <;> simp <;> omega
  · intro h
    rw [h] at hne
    exact hne rfl

theorem cspCrc32Verify_distance_byte :
    let packet (b : UInt8) : CspPacket := cspCrc32Append
      { CspPacket.zero with length := 1, data := CspPacket.zero.data.put 0 [b] } false
    4 ≤ bitDistance (checkedBytes (packet 1) false) (checkedBytes (packet 2) false) := by
  intro packet
  have hone : (cspCrc32Verify (packet 1) false).isSome = true := by decide +kernel
  have htwo : (cspCrc32Verify (packet 2) false).isSome = true := by decide +kernel
  exact cspCrc32Verify_distance rfl (by decide +kernel) (Option.some_get hone).symm
    (Option.some_get htwo).symm (by decide +kernel)

/-- **Bursts.** If the covered bits of two messages differ only within 32 bits in a row, their
checksums are different. -/
theorem cspCrc32Memory_burst {x y : List UInt8} {a u v b : List Bool}
    (hx : messageBits x = a ++ u ++ b) (hy : messageBits y = a ++ v ++ b)
    (hlen : u.length = v.length) (hle : u.length ≤ 32) (hne : u ≠ v) :
    cspCrc32Memory x ≠ cspCrc32Memory y := by
  intro hcrc
  have herr : ∀ l : List Bool, List.zipWith xor l l = List.replicate l.length false := by
    intro l
    simp [List.zipWith_self, List.map_const']
  have hreg := cspCrc32Memory_xor x y
  rw [hcrc, UInt32.xor_self, hx, hy, Crc.register_xor_register castagnoli _ (by simp [hlen]),
    List.zipWith_append (by simp [hlen]), List.zipWith_append rfl, herr, herr] at hreg
  refine Crc.register_burst_ne_zero castagnoli_constant (e := List.zipWith xor u v) ?_ ?_ a.length
    b.length hreg.symm
  · rw [List.length_zipWith, hlen, Nat.min_self]
    omega
  · by_contra hfalse
    refine hne (List.ext_getElem hlen ?_)
    intro i hu hv
    have hi : i < (List.zipWith xor u v).length := by simp [hu, hv]
    have hbit : (List.zipWith xor u v)[i] ≠ true := fun h => hfalse (h ▸ List.getElem_mem hi)
    rw [List.getElem_zipWith] at hbit
    simpa using hbit

theorem cspCrc32Memory_burst_byte : cspCrc32Memory [1, 2, 3] ≠ cspCrc32Memory [1, 5, 3] :=
  cspCrc32Memory_burst (a := messageBits [1]) (u := messageBits [2]) (v := messageBits [5])
    (b := messageBits [3]) rfl rfl rfl (by decide) (by decide)

theorem crcInput_push {packet : CspPacket} {includeHeader : Bool} {src : List UInt8}
    (h : packet.length.toNat + src.length ≤ cspBufferSize) :
    crcInput (packet.push src) includeHeader packet.length.toNat
      = crcInput packet includeHeader packet.length.toNat := by
  have hput := packet.data.take_put_left h
  rw [crcInput, crcInput]
  simp only [CspPacket.push, hput]

/-- **What is appended passes the check**, and comes off again: the packet is as it was before. -/
theorem cspCrc32Verify_append {packet : CspPacket} {includeHeader : Bool}
    (h : packet.length.toNat + 4 ≤ cspBufferSize) :
    ∃ q, cspCrc32Verify (cspCrc32Append packet includeHeader) includeHeader = some q ∧
      q.length = packet.length ∧ q.id = packet.id ∧ q.payload = packet.payload := by
  have hlen : (cspCrc32Append packet includeHeader).length.toNat = packet.length.toNat + 4 :=
    CspPacket.length_push h
  have hback : (cspCrc32Append packet includeHeader).length - 4 = packet.length :=
    UInt16.add_sub_cancel packet.length 4
  refine ⟨_, cspCrc32Verify_eq_some_iff.mpr ⟨by omega, ?_, rfl⟩, hback, rfl, ?_⟩
  · rw [hlen, Nat.add_sub_cancel]
    unfold cspCrc32Append
    rw [CspPacket.payload_push h, crcInput_push h]
    apply List.drop_left'
    exact CspPacket.length_payload (by omega)
  · rw [CspPacket.payload, hback]
    exact packet.data.take_put_left h

end CspTerm.Csp
