import CspTerm.Csp.Proofs.Crc32Proofs
import CspTerm.Csp.Proofs.Sha1Proofs
import CspTerm.Csp.Security

/-!
# What the security checks let through

The receiver accepts exactly the packets that a sender with the same keys makes with these flags, and
gets the message back. The key stream repeats its first block, and a packet that is too short for
what its flags promise is not noticed.
-/

namespace CspTerm.Csp

/-! ## The key stream -/

theorem length_cspXteaEncryptBlock (key : CspKey) (block : List UInt8) :
    (cspXteaEncryptBlock key block).length = xteaBlockSize := rfl

/-- The key stream of the blocks from `k` on, whose first counter is given. -/
def streamFrom (key : CspKey) (iv0 iv1 : UInt32) (counter : List UInt8) (i : Nat) : UInt8 :=
  if i < xteaBlockSize then (cspXteaEncryptBlock key counter).getD i 0
  else (cspXteaEncryptBlock key
    (xteaCounter iv0 (iv1 + UInt32.ofNat (i / xteaBlockSize - 1)))).getD (i % xteaBlockSize) 0

/-- One block later, the counter is the one that was made at the end of this block. -/
theorem streamFrom_add (key : CspKey) (iv0 iv1 : UInt32) (counter : List UInt8) (i : Nat) :
    streamFrom key iv0 iv1 counter (i + xteaBlockSize)
      = streamFrom key iv0 (iv1 + 1) (xteaCounter iv0 iv1) i := by
  rw [streamFrom, if_neg (by omega), streamFrom, Nat.add_div_right _ (by decide),
    Nat.add_mod_right]
  split
  · next h =>
    rw [Nat.div_eq_of_lt h, Nat.mod_eq_of_lt h]
    simp
  · next h =>
    have hpos : 0 < i / xteaBlockSize := Nat.div_pos (by omega) (by decide)
    have hcounter : iv1 + UInt32.ofNat (i / xteaBlockSize + 1 - 1)
        = iv1 + 1 + UInt32.ofNat (i / xteaBlockSize - 1) := by
      obtain ⟨q, hq⟩ := Nat.exists_eq_succ_of_ne_zero hpos.ne'
      rw [hq, Nat.succ_eq_add_one, Nat.add_sub_cancel, Nat.add_sub_cancel, UInt32.ofNat_add,
        UInt32.add_assoc, UInt32.add_comm 1]
      rfl
    rw [hcounter]

theorem streamFrom_eq_keyStream (key : CspKey) (iv0 iv1 : UInt32) :
    streamFrom key iv0 iv1 (xteaCounter iv0 iv1) = keyStream key iv0 iv1 := by
  funext i
  rw [streamFrom, keyStream]
  split
  · next h =>
    rw [Nat.div_eq_of_lt h, Nat.mod_eq_of_lt h]
    simp
  · rfl

theorem cspXteaXorByte_eq (stream : Nat → UInt8) {dst src : List UInt8}
    (hlen : dst.length = src.length) (h : ∀ i, i < src.length → src.getD i 0 = stream i) :
    cspXteaXorByte dst src = StreamCipher.mask stream dst := by
  apply List.ext_getElem?
  intro i
  rw [StreamCipher.getElem?_mask]
  by_cases hi : i < src.length
  · rw [← h i hi]
    simp [cspXteaXorByte, hi, hlen]
  · simp [cspXteaXorByte, hlen, Nat.not_lt.mp hi]

/-- **The loop over the blocks masks the text**, whatever the number of rounds that are left. -/
theorem xteaBlocks_eq (key : CspKey) (iv0 : UInt32) (blocks : Nat) (iv1 : UInt32)
    (counter plain : List UInt8) (h : plain.length ≤ blocks * xteaBlockSize) :
    xteaBlocks key iv0 blocks iv1 counter plain
      = StreamCipher.mask (streamFrom key iv0 iv1 counter) plain := by
  induction blocks generalizing iv1 counter plain with
  | zero =>
    have hnil : plain = [] := List.length_eq_zero_iff.mp (by omega)
    rw [hnil, xteaBlocks, StreamCipher.mask_nil]
  | succ blocks ih =>
    rw [Nat.succ_mul] at h
    have hblock := length_cspXteaEncryptBlock key counter
    rw [xteaBlocks]
    generalize hn : (if plain.length < xteaBlockSize then plain.length else xteaBlockSize) = n
    have hmin : n = min plain.length xteaBlockSize := by
      rw [← hn]
      split <;> omega
    have hfirst : cspXteaXorByte (plain.take n) ((cspXteaEncryptBlock key counter).take n)
        = StreamCipher.mask (streamFrom key iv0 iv1 counter) (plain.take n) := by
      apply cspXteaXorByte_eq
      · rw [List.length_take, List.length_take, hblock]
        omega
      · intro i hi
        rw [List.length_take, hblock] at hi
        rw [streamFrom, if_pos (by omega), List.getD_eq_getElem?_getD,
          List.getElem?_take_of_lt (by omega), List.getD_eq_getElem?_getD]
    have hrest : (plain.drop n).length ≤ blocks * xteaBlockSize := by
      rw [List.length_drop]
      omega
    conv_rhs => rw [← List.take_append_drop n plain, StreamCipher.mask_append]
    simp only [hfirst, ih _ _ _ hrest, List.length_take]
    congr 1
    by_cases hlast : plain.length ≤ xteaBlockSize
    · have hnil : plain.drop n = [] := List.drop_eq_nil_of_le (by omega)
      rw [hnil, StreamCipher.mask_nil, StreamCipher.mask_nil]
    · have hfull : min n plain.length = xteaBlockSize := by omega
      simp only [hfull, streamFrom_add]

/-- **XTEA in counter mode masks a text** with a stream that depends on the key, the vector and the
position. -/
theorem cspXteaEncrypt_eq (key : CspKey) (plain : List UInt8) (iv0 iv1 : UInt32) :
    cspXteaEncrypt key plain iv0 iv1 = StreamCipher.mask (keyStream key iv0 iv1) plain := by
  rw [cspXteaEncrypt, xteaBlocks_eq _ _ _ _ _ _ (by simp only [xteaBlockSize]; omega),
    streamFrom_eq_keyStream]

/-- The first two blocks are masked with the same bytes. -/
theorem keyStream_add (key : CspKey) (iv0 iv1 : UInt32) {i : Nat} (h : i < xteaBlockSize) :
    keyStream key iv0 iv1 (i + xteaBlockSize) = keyStream key iv0 iv1 i := by
  rw [keyStream, keyStream, Nat.add_div_right _ (by decide), Nat.add_mod_right, Nat.div_eq_of_lt h]

/-- **The key stream is used twice.** The difference of the first two blocks of a text shows in its
cipher, whatever the key and the nonce are. -/
theorem cspXteaEncrypt_reuse (key : CspKey) (plain : List UInt8) (iv0 iv1 : UInt32) {i : Nat}
    (hblock : i < xteaBlockSize) (hi : i + xteaBlockSize < plain.length) :
    (cspXteaEncrypt key plain iv0 iv1).getD i 0
        ^^^ (cspXteaEncrypt key plain iv0 iv1).getD (i + xteaBlockSize) 0
      = plain.getD i 0 ^^^ plain.getD (i + xteaBlockSize) 0 := by
  rw [cspXteaEncrypt_eq]
  exact StreamCipher.mask_reuse (keyStream_add key iv0 iv1 hblock).symm
    (Nat.lt_of_le_of_lt (Nat.le_add_right ..) hi) hi

theorem cspXteaEncrypt_reuse_zero :
    let cipher := cspXteaEncrypt CspKeys.zero.xtea (List.replicate 9 0) 0 0
    cipher.getD 0 0 ^^^ cipher.getD 8 0 = 0 :=
  cspXteaEncrypt_reuse CspKeys.zero.xtea (List.replicate 9 0) 0 0 (i := 0) (by decide) (by decide)

/-! ## Sending -/

theorem length_hmac_take (key message : List UInt8) :
    ((Sha1.hmac Sha1.hash sha1BlockSize key message).take cspHmacLength).length = 4 := by
  rw [List.length_take, Sha1.hmac, Sha1.hash, Sha1.length_digest]
  rfl

theorem CspKey.ne_nil (key : CspKey) : key.val ≠ [] := by
  have h := key.property
  intro hnil
  rw [hnil] at h
  cases h

theorem crcInput_data (packet : CspPacket) :
    crcInput packet false packet.length.toNat = packet.payload := rfl

theorem cspHmacAppend_eq (key : CspKey) (packet : CspPacket) :
    cspHmacAppend key packet false = packet.push
      ((Sha1.hmac Sha1.hash sha1BlockSize key.val packet.payload).take cspHmacLength) := by
  rw [cspHmacAppend, cspHmacMemory_eq key.ne_nil, crcInput_data]
  rfl

/-- A packet with this identifier and this payload. -/
structure Carries (packet : CspPacket) (id : CspId) (message : List UInt8) : Prop where
  id : packet.id = id
  payload : packet.payload = message
  length : packet.length.toNat = message.length

theorem Carries.length_le {packet : CspPacket} {id : CspId} {message : List UInt8}
    (h : Carries packet id message) : message.length ≤ cspBufferSize := by
  rw [← h.payload, CspPacket.payload, List.length_take, packet.data.property]
  exact Nat.min_le_right ..

theorem carries_self {packet : CspPacket} (h : packet.length.toNat ≤ cspBufferSize) :
    Carries packet packet.id packet.payload :=
  ⟨rfl, rfl, (CspPacket.length_payload h).symm⟩

theorem carries_push {packet : CspPacket} {src : List UInt8}
    (h : packet.length.toNat + src.length ≤ cspBufferSize) :
    Carries (packet.push src) packet.id (packet.payload ++ src) where
  id := rfl
  payload := CspPacket.payload_push h
  length := by
    rw [CspPacket.length_push h, List.length_append, CspPacket.length_payload (by omega)]

theorem carries_hmac (key : CspKey) {packet : CspPacket}
    (h : packet.length.toNat + 4 ≤ cspBufferSize) :
    Carries (cspHmacAppend key packet false) packet.id (withHmac key packet.payload) := by
  rw [cspHmacAppend_eq]
  exact carries_push (by rwa [length_hmac_take])

theorem carries_crc32 {packet : CspPacket} (h : packet.length.toNat + 4 ≤ cspBufferSize) :
    Carries (cspCrc32Append packet false) packet.id (withCrc32 packet.payload) :=
  carries_push h

/-- A text over the beginning of a data area. -/
theorem CspData.take_put_zero (d : CspData) {text : List UInt8} {n : Nat} (h : n ≤ cspBufferSize)
    (hlen : text.length ≤ n) :
    (d.put 0 text).val.take n = text ++ (d.val.take n).drop text.length := by
  have hput : (d.put 0 text).val = _ := d.put_val (by omega)
  rw [hput, List.take_zero, List.nil_append, Nat.zero_add, List.take_append, List.take_of_length_le
    hlen, List.drop_take]

theorem carries_xtea (key : CspKey) (nonce : UInt32) {packet : CspPacket}
    (h : packet.length.toNat + 4 ≤ cspBufferSize) :
    Carries (xteaAppend key nonce packet) packet.id (withXtea key nonce packet.payload) := by
  have hsize : cspBufferSize = 1024 := rfl
  have hpayload := CspPacket.length_payload (p := packet) (by omega)
  have hlength : (packet.length + 4).toNat = packet.length.toNat + 4 := by
    rw [UInt16.toNat_add]
    show (_ + 4) % _ = _
    omega
  have htext : (packet.data.put packet.length.toNat (bytes32 (cspHton32 nonce))).val.take _ = _ :=
    packet.data.take_put_left h
  have hboth : (packet.data.put packet.length.toNat (bytes32 (cspHton32 nonce))).val.take _ = _ :=
    packet.data.take_put h
  refine ⟨rfl, ?_, ?_⟩
  · show List.take (packet.length + 4).toNat (xteaAppend key nonce packet).data.val = _
    simp only [xteaAppend, htext, cspXteaEncrypt_eq, hlength]
    rw [CspData.take_put_zero _ h (by rw [StreamCipher.length_mask, ← CspPacket.payload]; omega)]
    rw [length_bytes32] at hboth
    rw [hboth, StreamCipher.length_mask, ← CspPacket.payload, List.drop_left, withXtea]
  · rw [withXtea, List.length_append, StreamCipher.length_mask, hpayload]
    exact hlength

theorem length_withHmac (key : CspKey) (message : List UInt8) :
    (withHmac key message).length = message.length + 4 := by
  rw [withHmac, List.length_append, length_hmac_take]

theorem length_withCrc32 (message : List UInt8) :
    (withCrc32 message).length = message.length + 4 := by
  rw [withCrc32, List.length_append, length_bytes32]

theorem length_withXtea (key : CspKey) (nonce : UInt32) (message : List UInt8) :
    (withXtea key nonce message).length = message.length + 4 := by
  rw [withXtea, List.length_append, StreamCipher.length_mask, length_bytes32]

theorem length_stage {g : List UInt8 → List UInt8} (h : ∀ m, (g m).length = m.length + 4) (c : Prop)
    [Decidable c] (m : List UInt8) :
    (if c then g m else m).length = m.length + if c then 4 else 0 := by
  split
  · exact h m
  · rfl

theorem length_protect (keys : CspKeys) (flags : UInt8) (nonce : UInt32) (message : List UInt8) :
    (protect keys flags nonce message).length = message.length + overhead flags := by
  rw [protect, wrap, length_stage (length_withXtea keys.xtea nonce), length_stage length_withCrc32,
    length_stage (length_withHmac keys.hmac), overhead]
  omega

/-- One more function of the sender, if its flag is set. -/
theorem Carries.stage {c : Prop} [Decidable c] {packet : CspPacket} {id : CspId} {m : List UInt8}
    {f : CspPacket → CspPacket} {g : List UInt8 → List UInt8} (h : Carries packet id m)
    (hroom : m.length + (if c then 4 else 0) ≤ cspBufferSize)
    (hstage : ∀ q : CspPacket, q.length.toNat + 4 ≤ cspBufferSize →
      Carries (f q) q.id (g q.payload)) :
    Carries (if c then f packet else packet) id (if c then g m else m) := by
  split
  · next hc =>
    rw [if_pos hc] at hroom
    have hnext := hstage packet (by rw [h.length]; exact hroom)
    rwa [h.payload, h.id] at hnext
  · exact h

/-- **The three functions of the sender, one after the other.** -/
theorem carries_secured (keys : CspKeys) (nonce : UInt32) (address : Fin 32)
    (rtableFindIface : UInt8 → Option CspIface) (flags : UInt8) (packet : CspPacket)
    (h : packet.length.toNat + overhead flags ≤ cspBufferSize) :
    Carries (secured (securityEnv keys nonce address rtableFindIface) flags packet) packet.id
      (protect keys flags nonce packet.payload) := by
  have hpayload := CspPacket.length_payload (p := packet) (by omega)
  rw [overhead] at h
  have hself : Carries packet packet.id packet.payload := carries_self (by omega)
  have hhmac := hself.stage (c := flags &&& cspFhmac ≠ 0) (by omega) fun q => carries_hmac keys.hmac
  have hcrc32 := hhmac.stage (c := flags &&& cspFcrc32 ≠ 0)
    (by rw [length_stage (length_withHmac keys.hmac)]; omega) fun q => carries_crc32
  exact hcrc32.stage (c := flags &&& cspFxtea ≠ 0)
    (by rw [length_stage length_withCrc32, length_stage (length_withHmac keys.hmac)]; omega)
    fun q => carries_xtea keys.xtea nonce

/-! ## Receiving -/

/-- A check that accepts a packet just when there is a message for it, and then makes it the packet's
payload. -/
structure Unwraps (result : Checked CspPacket) (id : CspId)
    (IsMessage : List UInt8 → Prop) : Prop where
  sound : ∀ q, result = .ok q → ∃ m, IsMessage m ∧ Carries q id m
  complete : ∀ m, IsMessage m → ∃ q, result = .ok q ∧ Carries q id m

/-- **One check after the other.** -/
theorem Unwraps.bind {result : Checked CspPacket} {id : CspId}
    {IsMessage : List UInt8 → Prop} {Inner : List UInt8 → List UInt8 → Prop}
    {f : CspPacket → Checked CspPacket} (h : Unwraps result id IsMessage)
    (hf : ∀ w q, Carries q id w → Unwraps (f q) id (Inner w)) :
    Unwraps (result >>= f) id fun m => ∃ w, IsMessage w ∧ Inner w m where
  sound q hq := by
    cases result with
    | error err => exact nomatch hq
    | overrun => exact nomatch hq
    | ok p =>
      obtain ⟨w, hw, hp⟩ := h.sound p rfl
      obtain ⟨m, hm, hcarries⟩ := (hf w p hp).sound q hq
      exact ⟨m, ⟨w, hw, hm⟩, hcarries⟩
  complete m hm := by
    obtain ⟨w, hw, hm⟩ := hm
    obtain ⟨p, rfl, hp⟩ := h.complete w hw
    exact (hf w p hp).complete m hm

variable {packet : CspPacket} {id : CspId} {w : List UInt8}

theorem unwraps_ok (h : Carries packet id w) : Unwraps (.ok packet) id fun m => w = m where
  sound q hq := by
    cases hq
    exact ⟨w, rfl, h⟩
  complete m hm := ⟨packet, rfl, hm ▸ h⟩

theorem unwraps_error (err : Int) {IsMessage : List UInt8 → Prop}
    (h : ∀ m, ¬ IsMessage m) : Unwraps (.error err) id IsMessage where
  sound _ hq := nomatch hq
  complete m hm := absurd hm (h m)

theorem unwraps_overrun {IsMessage : List UInt8 → Prop} (h : ∀ m, ¬ IsMessage m) :
    Unwraps .overrun id IsMessage where
  sound _ hq := nomatch hq
  complete m hm := absurd hm (h m)

theorem Unwraps.congr {result : Checked CspPacket} {P Q : List UInt8 → Prop}
    (h : Unwraps result id P) (hiff : ∀ m, P m ↔ Q m) : Unwraps result id Q :=
  (funext fun m => propext (hiff m) : P = Q) ▸ h

theorem Carries.take_data (h : Carries packet id w) {n : Nat} (hn : n ≤ w.length) :
    packet.data.val.take n = w.take n := by
  have hpayload : packet.data.val.take packet.length.toNat = w := h.payload
  rw [← hpayload, List.take_take, Nat.min_eq_left (by rw [h.length]; exact hn)]

/-- A packet without its last four bytes. -/
theorem Carries.shorten (h : Carries packet id w) (h4 : 4 ≤ w.length) :
    Carries { packet with length := packet.length - 4 } id (w.take (w.length - 4)) := by
  have hle : (4 : UInt16) ≤ packet.length := by
    rw [UInt16.le_iff_toNat_le, h.length]
    exact h4
  have hlength : (packet.length - 4).toNat = w.length - 4 := by
    rw [UInt16.toNat_sub_of_le _ _ hle, h.length]
    rfl
  refine ⟨h.id, ?_, ?_⟩
  · show packet.data.val.take (packet.length - 4).toNat = _
    rw [hlength, h.take_data (Nat.sub_le ..)]
  · rw [List.length_take, Nat.min_eq_left (Nat.sub_le ..)]
    exact hlength

/-- A text of the same length in the place of the payload. -/
theorem Carries.overwrite {text : List UInt8} (h : Carries packet id w)
    (hlen : text.length = w.length) :
    Carries { packet with data := packet.data.put 0 text } id text := by
  have hle := h.length_le
  refine ⟨h.id, ?_, by rw [hlen]; exact h.length⟩
  show (packet.data.put 0 text).val.take packet.length.toNat = text
  rw [h.length, ← hlen, CspData.take_put_zero _ (by omega) le_rfl, List.drop_eq_nil_of_le,
    List.append_nil]
  rw [List.length_take]
  omega

theorem lt_four_iff (h : Carries packet id w) : packet.length < 4 ↔ w.length < 4 := by
  rw [UInt16.lt_iff_toNat_lt, h.length]
  rfl

/-- A check that compares the last four bytes with what they should be. -/
theorem unwraps_trailer {result : Checked CspPacket} (tag : List UInt8 → List UInt8)
    (htag : ∀ m, (tag m).length = 4) (h : Carries packet id w)
    (hresult : ∀ q, result = .ok q ↔ 4 ≤ w.length ∧
      w.drop (w.length - 4) = tag (w.take (w.length - 4)) ∧
      q = { packet with length := packet.length - 4 }) :
    Unwraps result id fun m => w = m ++ tag m where
  sound q hq := by
    obtain ⟨h4, hdrop, rfl⟩ := (hresult q).mp hq
    exact ⟨_, by rw [← hdrop, List.take_append_drop], h.shorten h4⟩
  complete m hm := by
    have hlen : w.length = m.length + 4 := by rw [hm, List.length_append, htag]
    have htake : w.take (w.length - 4) = m := by rw [hlen, Nat.add_sub_cancel, hm, List.take_left]
    have hdrop : w.drop (w.length - 4) = tag m := by
      rw [hlen, Nat.add_sub_cancel, hm, List.drop_left]
    refine ⟨_, (hresult _).mpr ⟨by omega, by rw [htake, hdrop], rfl⟩, ?_⟩
    have hcarries := h.shorten (by omega)
    rwa [htake] at hcarries

theorem unwraps_xteaRemove (key : CspKey) (h : Carries packet id w) :
    Unwraps (xteaRemove key packet) id fun m => ∃ nonce, w = withXtea key nonce m := by
  rw [xteaRemove]
  split
  · next hshort =>
    refine unwraps_overrun fun m hm => ?_
    obtain ⟨nonce, rfl⟩ := hm
    have := (lt_four_iff h).mp hshort
    rw [length_withXtea] at this
    omega
  · next hlong =>
    have h4 : 4 ≤ w.length := not_lt.mp fun hlt => hlong ((lt_four_iff h).mpr hlt)
    have hshort := h.shorten h4
    have htext : packet.data.val.take (packet.length - 4).toNat = w.take (w.length - 4) :=
      hshort.payload
    simp only [htext, h.payload, h.length, cspXteaDecrypt, cspXteaEncrypt_eq]
    generalize hnonce : cspNtoh32 (word32 (w.drop (w.length - 4))) = nonce
    have hlast : bytes32 (cspHton32 nonce) = w.drop (w.length - 4) := by
      rw [← hnonce]
      show bytes32 (cspNtoh32 (cspHton32 _)) = _
      rw [cspNtoh32_cspHton32, bytes32_word32 (by rw [List.length_drop]; omega)]
    have hcarries : Carries _ id (StreamCipher.mask (keyStream key nonce 1) (w.take (w.length - 4))) :=
      hshort.overwrite (StreamCipher.length_mask ..)
    refine ⟨fun q hq => ?_, fun m hm => ?_⟩
    · rw [Checked.ok.injEq] at hq
      rw [← hq]
      refine ⟨_, ⟨nonce, ?_⟩, hcarries⟩
      rw [withXtea, StreamCipher.mask_mask, hlast, List.take_append_drop]
    · obtain ⟨nonce', hm⟩ := hm
      have hlen : w.length - 4 = (StreamCipher.mask (keyStream key nonce' 1) m).length := by
        rw [hm, length_withXtea, Nat.add_sub_cancel, StreamCipher.length_mask]
      have htake : w.take (w.length - 4) = StreamCipher.mask (keyStream key nonce' 1) m := by
        rw [hlen, hm, withXtea, List.take_left]
      have hdrop : w.drop (w.length - 4) = bytes32 (cspHton32 nonce') := by
        rw [hlen, hm, withXtea, List.drop_left]
      have hsame : nonce = nonce' := by
        rw [← cspNtoh32_cspHton32 nonce, bytes32_injective (hlast.trans hdrop),
          cspNtoh32_cspHton32]
      refine ⟨_, rfl, ?_⟩
      rw [htake, hsame, StreamCipher.mask_mask] at hcarries
      rw [htake, hsame, StreamCipher.mask_mask]
      exact hcarries

theorem unwraps_xteaCheck (key : CspKey) (opts : UInt32) (h : Carries packet id w) :
    Unwraps (xteaCheck key opts packet) id fun m =>
      (opts &&& cspSoXteareq ≠ 0 → id.flags &&& cspFxtea ≠ 0) ∧
        ∃ nonce, w = if id.flags &&& cspFxtea ≠ 0 then withXtea key nonce m else m := by
  rw [xteaCheck, h.id]
  split
  · next hflag =>
    refine (unwraps_xteaRemove key h).congr fun m => ⟨fun hw => ⟨fun _ => hflag, hw⟩, And.right⟩
  · next hflag =>
    split
    · next hopts => exact unwraps_error _ fun m hm => hflag (hm.1 hopts)
    · next hopts =>
      exact (unwraps_ok h).congr fun m => ⟨fun hw => ⟨fun ho => absurd ho hopts, 0, hw⟩,
        fun ⟨_, _, hw⟩ => hw⟩

theorem unwraps_crc32Check (h : Carries packet id w) :
    Unwraps (crc32Check packet) id fun m =>
      w = if id.flags &&& cspFcrc32 ≠ 0 then withCrc32 m else m := by
  rw [crc32Check, h.id]
  split
  · refine unwraps_trailer (fun m => bytes32 (cspHton32 (cspCrc32Memory m)))
      (fun _ => rfl) h fun q => ?_
    have hiff : cspCrc32Verify packet false = some q ↔ _ := cspCrc32Verify_eq_some_iff
    have hinput : crcInput packet false (packet.length.toNat - 4) = w.take (w.length - 4) := by
      rw [h.length, ← h.take_data (Nat.sub_le ..)]
      rfl
    rw [hinput, h.payload, h.length] at hiff
    rw [← hiff]
    cases cspCrc32Verify packet false <;> simp
  · exact unwraps_ok h

theorem unwraps_hmacCheck (key : CspKey) (opts : UInt32) (h : Carries packet id w) :
    Unwraps (hmacCheck key opts packet) id fun m =>
      (opts &&& cspSoHmacreq ≠ 0 → id.flags &&& cspFhmac ≠ 0) ∧
        w = if id.flags &&& cspFhmac ≠ 0 then withHmac key m else m := by
  rw [hmacCheck, h.id]
  split
  · next hflag =>
    refine (unwraps_trailer _ (length_hmac_take key.val) h fun q => ?_).congr fun m =>
      ⟨fun hw => ⟨fun _ => hflag, hw⟩, And.right⟩
    have htake := h.take_data (Nat.sub_le w.length 4)
    have hpayload : packet.data.val.take w.length = w := by rw [h.take_data le_rfl, List.take_length]
    simp only [cspHmacVerify, Bool.false_eq_true, if_false, List.nil_append, Nat.zero_add, htake,
      hpayload, cspHmacMemory_eq key.ne_nil, Option.getD_some, h.length, cspHmacLength]
    split
    · next hshort => exact ⟨nofun, fun hq => absurd hq.1 (by omega)⟩
    · next hlong =>
      split
      · next hne => exact ⟨nofun, fun hq => absurd hq.2.1 hne⟩
      · next heq =>
        rw [Checked.ok.injEq]
        exact ⟨fun hq => ⟨by omega, not_not.mp heq, hq.symm⟩, fun hq => hq.2.2.symm⟩
  · next hflag =>
    split
    · next hopts => exact unwraps_error _ fun m hm => hflag (hm.1 hopts)
    · next hopts =>
      exact (unwraps_ok h).congr fun m => ⟨fun hw => ⟨fun ho => absurd ho hopts, hw⟩, And.right⟩

theorem unwraps_rdpCheck (opts : UInt32) (h : Carries packet id w) :
    Unwraps (rdpCheck opts packet) id fun m =>
      (opts &&& cspSoRdpreq ≠ 0 → id.flags &&& cspFrdp ≠ 0) ∧ w = m := by
  rw [rdpCheck, h.id]
  split
  · next hc => exact unwraps_error _ fun m hm => hm.1 hc.2 hc.1
  · next hc =>
    refine (unwraps_ok h).congr fun m => ⟨fun hw => ⟨fun ho hf => hc ⟨hf, ho⟩, hw⟩, And.right⟩

/-- The encryption and the checksum together. -/
theorem unwraps_outer (keys : CspKeys) (opts : UInt32) (h : Carries packet id w) :
    Unwraps (xteaCheck keys.xtea opts packet >>= crc32Check) id fun m =>
      (opts &&& cspSoXteareq ≠ 0 → id.flags &&& cspFxtea ≠ 0) ∧
        ∃ nonce, w = wrap keys id.flags nonce m := by
  refine ((unwraps_xteaCheck keys.xtea opts h).bind fun _ _ => unwraps_crc32Check).congr
    fun m => ⟨?_, ?_⟩
  · rintro ⟨_, ⟨hopts, nonce, hw⟩, rfl⟩
    exact ⟨hopts, nonce, hw⟩
  · rintro ⟨hopts, nonce, hw⟩
    exact ⟨_, ⟨hopts, nonce, hw⟩, rfl⟩

theorem unwraps_cspRouteSecurityCheck (keys : CspKeys) (opts : UInt32)
    (h : Carries packet id w) :
    Unwraps (cspRouteSecurityCheck keys opts packet) id fun m =>
      Admitted opts id.flags ∧ ∃ nonce, w = protect keys id.flags nonce m := by
  refine (((unwraps_outer keys opts h).bind fun _ _ => unwraps_hmacCheck keys.hmac opts).bind
    fun _ _ => unwraps_rdpCheck opts).congr fun m => ⟨?_, ?_⟩
  · rintro ⟨_, ⟨_, ⟨hxtea, nonce, hw⟩, hhmac, rfl⟩, hrdp, rfl⟩
    exact ⟨⟨hxtea, hhmac, hrdp⟩, nonce, hw⟩
  · rintro ⟨⟨hxtea, hhmac, hrdp⟩, nonce, hw⟩
    exact ⟨m, ⟨_, ⟨hxtea, nonce, hw⟩, hhmac, rfl⟩, hrdp, rfl⟩

/-- What `csp_send_direct` passes on. -/
theorem cspSendDirect_passed {env : SendEnv} {idout : CspId} {ifout : Option CspIface}
    {timeout : UInt32} {sent : CspPacket}
    (h : (cspSendDirect env idout packet ifout timeout).2 = some sent) :
    sent = if idout.src = env.address then secured env idout.flags { packet with id := idout }
      else { packet with id := idout } := by
  unfold cspSendDirect at h
  split at h
  · exact nomatch h
  · split at h
    · exact nomatch h
    · dsimp only at h
      generalize (if idout.src = env.address then _ else _ : CspPacket) = passed at h ⊢
      split at h
      · exact nomatch h
      · exact (Option.some.inj h).symm

/-- A node on the way leaves a packet of another node as it is. -/
theorem Relay.forward_eq {relay : Relay} {p q : CspPacket} (hsrc : p.id.src ≠ relay.env.address)
    (h : relay.forward p = some q) : q = p := by
  rw [cspSendDirect_passed h, if_neg hsrc]

theorem forwarded_eq {path : List Relay} {p q : CspPacket}
    (hsrc : ∀ relay ∈ path, p.id.src ≠ relay.env.address) (h : forwarded path p = some q) :
    q = p := by
  induction path with
  | nil => exact (Option.some.inj h).symm
  | cons relay path ih =>
    rw [forwarded, List.foldlM_cons] at h
    obtain ⟨r, hr, hrest⟩ := Option.bind_eq_some_iff.mp h
    rw [Relay.forward_eq (hsrc relay List.mem_cons_self) hr] at hrest
    exact ih (fun relay hrelay => hsrc relay (List.mem_cons_of_mem _ hrelay)) hrest

/-- **From end to end**: what one node sends with any flags, over any other nodes, reaches the socket
of a node with the same keys as it was before, if the flags are the ones that the socket requires. -/
theorem cspSendDirect_delivers {keys : CspKeys} {nonce : UInt32} {address : Fin 32}
    {rtableFindIface : UInt8 → Option CspIface} {idout : CspId} {packet sent received : CspPacket}
    {ifout : Option CspIface} {timeout opts : UInt32} {path : List Relay}
    (hsrc : idout.src = address)
    (hroom : packet.length.toNat + overhead idout.flags ≤ cspBufferSize)
    (hsent : (cspSendDirect (securityEnv keys nonce address rtableFindIface) idout packet ifout
      timeout).2 = some sent)
    (hpath : ∀ relay ∈ path, address ≠ relay.env.address)
    (hreceived : forwarded path sent = some received)
    (hopts : Admitted opts idout.flags) :
    ∃ q, cspRouteSecurityCheck keys opts received = .ok q ∧ q.id = idout ∧
      q.payload = packet.payload ∧ q.length = packet.length := by
  have hpassed := cspSendDirect_passed hsent
  rw [if_pos (show idout.src = (securityEnv keys nonce address rtableFindIface).address from hsrc)]
    at hpassed
  have hcarries := carries_secured keys nonce address rtableFindIface idout.flags
    { packet with id := idout } hroom
  rw [← hpassed] at hcarries
  have hsame := forwarded_eq (fun relay hrelay => by
    rw [hcarries.id]
    exact fun h => hpath relay hrelay (hsrc ▸ h)) hreceived
  rw [hsame]
  obtain ⟨q, hq, hmessage⟩ := (unwraps_cspRouteSecurityCheck keys opts hcarries).complete
    packet.payload ⟨hopts, nonce, rfl⟩
  refine ⟨q, hq, hmessage.id, hmessage.payload, UInt16.toNat_inj.mp ?_⟩
  rw [hmessage.length, CspPacket.length_payload (by omega)]

/-- An interface without a limit takes every packet. -/
theorem cspSendDirect_unlimited (env : SendEnv) (idout : CspId) (packet : CspPacket)
    (nexthop : CspPacket → UInt32 → Int) (timeout : UInt32) :
    (cspSendDirect env idout packet (some { mtu := 0, nexthop := some nexthop }) timeout).2
      = some (if idout.src = env.address then secured env idout.flags { packet with id := idout }
        else { packet with id := idout }) := by
  rw [cspSendDirect]
  dsimp only
  generalize (if idout.src = env.address then _ else _ : CspPacket) = passed
  rw [if_neg fun h => absurd h.1 (by decide)]

/-- Three bytes with all three flags, over one other node. -/
theorem cspSendDirect_delivers_secured :
    let idout : CspId :=
      { CspId.zero with dst := 10, flags := cspFcrc32 ||| cspFhmac ||| cspFxtea }
    let iface : CspIface := { mtu := 0, nexthop := some fun _ _ => cspErrNone }
    let relay : Relay := ⟨securityEnv .zero 77 1 fun _ => none, some iface⟩
    ∃ sent received q,
      (cspSendDirect (securityEnv .zero 77 0 fun _ => none) idout (.carrying idout [1, 2, 3])
        (some iface) 0).2 = some sent ∧
      forwarded [relay] sent = some received ∧
      cspRouteSecurityCheck .zero cspSoXteareq received = .ok q ∧ q.id = idout ∧
      q.payload = [1, 2, 3] ∧ q.length = 3 := by
  intro idout iface relay
  have hsent := cspSendDirect_unlimited (securityEnv .zero 77 0 fun _ => none) idout
    (.carrying idout [1, 2, 3]) (fun _ _ => cspErrNone) 0
  generalize (if idout.src = _ then _ else _ : CspPacket) = sent at hsent
  have hforward := cspSendDirect_unlimited relay.env sent.id sent (fun _ _ => cspErrNone) 0
  generalize (if sent.id.src = _ then _ else _ : CspPacket) = received at hforward
  have hreceived : forwarded [relay] sent = some received := by
    rw [forwarded, List.foldlM_cons, Relay.forward, hforward]
    rfl
  have hroom : (CspPacket.carrying idout [1, 2, 3]).length.toNat + overhead idout.flags
      ≤ cspBufferSize := by decide
  have hpath : ∀ node ∈ [relay], (0 : Fin 32) ≠ node.env.address := by
    intro node hnode
    rw [List.mem_singleton.mp hnode]
    decide
  have hopts : Admitted cspSoXteareq idout.flags := ⟨by decide, by decide, by decide⟩
  obtain ⟨q, hq, hid, hpayload, hlength⟩ :=
    cspSendDirect_delivers rfl hroom hsent hpath hreceived hopts
  rw [CspPacket.payload_carrying (by decide)] at hpayload
  exact ⟨sent, received, q, hsent, hreceived, hq, hid, hpayload, hlength⟩

/-! ## Packets that are too short -/

theorem cspHmacVerify_overrun_iff (key : CspKey) (h : Carries packet id w) :
    cspHmacVerify key packet false = .overrun ↔ w.length < 4 := by
  rw [cspHmacVerify]
  simp only [Bool.false_eq_true, if_false, Nat.zero_add, h.length, cspHmacLength]
  split
  · next hlt => exact ⟨fun _ => hlt, fun _ => rfl⟩
  · next hge =>
    refine ⟨fun herror => ?_, fun hlt => absurd hlt hge⟩
    split at herror <;> exact nomatch herror

/-- The encryption and the checksum leave a packet alone that is too short for the nonce only. -/
theorem outer_overrun_iff (keys : CspKeys) (opts : UInt32) (h : Carries packet id w) :
    (xteaCheck keys.xtea opts packet >>= crc32Check) = .overrun ↔
      id.flags &&& cspFxtea ≠ 0 ∧ w.length < 4 := by
  have hcrc (q : CspPacket) : crc32Check q ≠ .overrun := by
    rw [crc32Check]
    split
    · split <;> exact nofun
    · exact nofun
  rw [xteaCheck, h.id]
  split
  · next hflag =>
    rw [xteaRemove]
    split
    · next hshort => exact ⟨fun _ => ⟨hflag, (lt_four_iff h).mp hshort⟩, fun _ => rfl⟩
    · next hlong =>
      exact ⟨fun hq => absurd hq (hcrc _), fun hq => absurd ((lt_four_iff h).mpr hq.2) hlong⟩
  · next hflag =>
    refine ⟨fun hq => ?_, fun hq => absurd hq.1 hflag⟩
    split at hq
    · exact nomatch hq
    · exact absurd hq (hcrc packet)

/-- The authentication code and the requirement of RDP. -/
theorem inner_overrun_iff (keys : CspKeys) (opts : UInt32) (h : Carries packet id w) :
    (hmacCheck keys.hmac opts packet >>= rdpCheck opts) = .overrun ↔
      id.flags &&& cspFhmac ≠ 0 ∧ w.length < 4 := by
  have hrdp (q : CspPacket) : rdpCheck opts q ≠ .overrun := by
    rw [rdpCheck]
    split <;> exact nofun
  have hbind (r : Checked CspPacket) :
      (r >>= rdpCheck opts) = .overrun ↔ r = .overrun := by
    cases r with
    | error err => exact ⟨nofun, nofun⟩
    | overrun => exact Iff.rfl
    | ok q => exact ⟨fun hq => absurd hq (hrdp q), nofun⟩
  rw [hbind, hmacCheck, h.id]
  split
  · next hflag => rw [cspHmacVerify_overrun_iff _ h]; exact ⟨fun hlt => ⟨hflag, hlt⟩, And.right⟩
  · next hflag =>
    refine ⟨fun hq => ?_, fun hq => absurd hq.1 hflag⟩
    split at hq <;> exact nomatch hq

/-- **Exactly the packets that are shorter than their flags promise are not noticed**: encrypted ones
without room for the nonce, and those that carry too little for an authentication code behind a
checksum and an encryption that are in order. -/
theorem cspRouteSecurityCheck_overrun_iff {keys : CspKeys} {opts : UInt32}
    (h : packet.length.toNat ≤ cspBufferSize) :
    cspRouteSecurityCheck keys opts packet = .overrun ↔
      (packet.id.flags &&& cspFxtea ≠ 0 ∧ packet.length.toNat < 4) ∨
      (packet.id.flags &&& cspFhmac ≠ 0 ∧
        (opts &&& cspSoXteareq ≠ 0 → packet.id.flags &&& cspFxtea ≠ 0) ∧
        ∃ nonce message, message.length < 4 ∧
          packet.payload = wrap keys packet.id.flags nonce message) := by
  have hself := carries_self h
  have houter := unwraps_outer keys opts hself
  have hovers := outer_overrun_iff keys opts hself
  rw [CspPacket.length_payload h] at hovers
  rw [← hovers]
  show (xteaCheck keys.xtea opts packet >>= crc32Check) >>= hmacCheck keys.hmac opts >>= rdpCheck opts
    = .overrun ↔ _
  generalize xteaCheck keys.xtea opts packet >>= crc32Check = result at houter
  cases result with
  | error err =>
    refine ⟨nofun, fun hcase => hcase.elim nofun fun ⟨_, hopts, nonce, m, _, hm⟩ => ?_⟩
    obtain ⟨q, hq, _⟩ := houter.complete m ⟨hopts, nonce, hm⟩
    exact nomatch hq
  | overrun => exact ⟨fun _ => .inl rfl, fun _ => rfl⟩
  | ok q =>
    obtain ⟨m, ⟨hopts, nonce, hm⟩, hcarries⟩ := houter.sound q rfl
    refine (inner_overrun_iff keys opts hcarries).trans ⟨?_, ?_⟩
    · rintro ⟨hflag, hlt⟩
      exact Or.inr ⟨hflag, hopts, nonce, m, hlt, hm⟩
    · rintro (hq | ⟨hflag, _, nonce', m', hlt, hm'⟩)
      · exact nomatch hq
      · obtain ⟨q', hq', hcarries'⟩ := houter.complete m' ⟨hopts, nonce', hm'⟩
        rw [Checked.ok.injEq] at hq'
        rw [← hcarries.length, hq', hcarries'.length]
        exact ⟨hflag, hlt⟩

/-- An encrypted packet of three bytes. -/
theorem cspRouteSecurityCheck_overrun_three :
    let packet := CspPacket.carrying { CspId.zero with flags := cspFxtea } [1, 2, 3]
    cspRouteSecurityCheck .zero cspSoXteareq packet = .overrun :=
  (cspRouteSecurityCheck_overrun_iff (by decide)).mpr (.inl ⟨by decide, by decide⟩)

end CspTerm.Csp
