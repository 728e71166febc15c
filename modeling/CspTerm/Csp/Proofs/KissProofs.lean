import CspTerm.Csp.Kiss
import CspTerm.Csp.Proofs.Crc32Proofs
import CspTerm.Lib.Run

/-!
# Framing on the serial line

Frames that are sent one after the other arrive as the packets that were sent, however the line cuts
them up, if they are not longer than the receiver's limit.
-/

namespace CspTerm.Csp

/-! ## What is sent -/

/-- What a frame holds. -/
def kissImage (p : CspPacket) : List UInt8 :=
  bytes32 (cspHton32 p.id.ext) ++ p.payload ++ bytes32 (cspHton32 (cspCrc32Memory p.payload))

theorem length_kissImage {p : CspPacket} (h : p.length.toNat ≤ cspBufferSize) :
    (kissImage p).length = p.length.toNat + 8 := by
  simp [kissImage, CspPacket.length_payload h]
  omega

theorem cspKissTxLoop_fst {n i : Nat} {p : CspPacket} (h : i + n ≤ 4 + cspBufferSize) :
    (cspKissTxLoop n i p).1 = kissStuffing.stuff ((p.image.drop i).take n) := by
  induction n generalizing i p with
  | zero => simp [cspKissTxLoop]
  | succ n ih =>
    have hi : i < p.image.length := by rw [CspPacket.length_image]; omega
    have hget : p.image.getD i 0 = p.image[i] := by
      rw [List.getD_eq_getElem?_getD, List.getElem?_eq_getElem hi]
      rfl
    have hset : ∀ b : UInt8, (p.setByte i b).image.getD i 0 = b := by
      intro b
      rw [CspPacket.image_setByte, List.getD_eq_getElem?_getD, List.getElem?_set_self hi]
      rfl
    have hrest : ∀ b : UInt8, (p.setByte i b).image.drop (i + 1) = p.image.drop (i + 1) := by
      intro b
      rw [CspPacket.image_setByte, List.drop_set_of_lt (by omega)]
    have hlist : (p.image.drop i).take (n + 1) = p.image[i] :: (p.image.drop (i + 1)).take n := by
      rw [List.drop_eq_getElem_cons hi, List.take_succ_cons]
    rw [hlist, ByteStuffing.stuff_cons, cspKissTxLoop]
    dsimp only
    rw [hget]
    unfold ByteStuffing.unit
    show _ = (if p.image[i] = fend then [fesc, tfend] else
      if p.image[i] = fesc then [fesc, tfesc] else [p.image[i]]) ++ _
    split_ifs with h1 h2
    · rw [ih (by omega), hset, hrest]
      rfl
    · rw [ih (by omega), hset, hrest]
      rfl
    · rw [ih (by omega), hget]
      rfl

/-- **A packet goes out as its identifier, its data and their checksum, stuffed.** -/
theorem cspKissTx_fst {p : CspPacket} (h : p.length.toNat + 4 ≤ cspBufferSize) :
    (cspKissTx p).1 = fend :: tncData :: kissStuffing.stuff (kissImage p) ++ [fend] := by
  have hsize : cspBufferSize = 1024 := rfl
  have hlen : (cspCrc32Append p false).length.toNat = p.length.toNat + 4 :=
    CspPacket.length_push h
  have hlen' : ((cspCrc32Append p false).length + 4).toNat = 4 + (p.length.toNat + 4) := by
    rw [UInt16.toNat_add, hlen]
    show (p.length.toNat + 4 + 4) % 65536 = _
    omega
  have hpayload : (cspCrc32Append p false).payload
      = p.payload ++ bytes32 (cspHton32 (cspCrc32Memory p.payload)) := CspPacket.payload_push h
  rw [CspPacket.payload, hlen] at hpayload
  have himage : ((bytes32 (cspHton32 p.id.ext) ++ (cspCrc32Append p false).data.val).take
      (4 + (p.length.toNat + 4))) = kissImage p := by
    show List.take ((bytes32 (cspHton32 p.id.ext)).length + _) _ = _
    rw [List.take_length_add_append, hpayload, ← List.append_assoc]
    rfl
  unfold cspKissTx
  dsimp only
  rw [cspKissTxLoop_fst (by rw [hlen']; omega), hlen', List.drop_zero, CspPacket.image,
    CspId.ext_ofExt]
  exact congrArg (fun l => fend :: tncData :: kissStuffing.stuff l ++ [fend]) himage

/-! ## One byte -/

variable {alloc : Nat → Option CspPacket}

theorem kissOverflow_of_le {s : KissRx} (h : s.rxLength ≤ kissMtu) : kissOverflow s = s :=
  if_neg (Nat.not_lt.mpr h)

theorem kissOverflow_of_lt {s : KissRx} (h : kissMtu < s.rxLength) :
    kissOverflow s
      = { s with rxError := s.rxError + 1, rxMode := .notStarted, rxLength := 0 } :=
  if_pos h

theorem kissRxByte_started {s : KissRx} (hlen : s.rxLength ≤ kissMtu) (hm : s.rxMode = .started)
    (b : UInt8) : kissRxByte alloc s b = kissStarted s b := by
  unfold kissRxByte
  rw [kissOverflow_of_le hlen]
  simp only [hm]

theorem kissRxByte_escaped {s : KissRx} (hlen : s.rxLength ≤ kissMtu) (hm : s.rxMode = .escaped)
    (b : UInt8) : kissRxByte alloc s b = kissEscape s b := by
  unfold kissRxByte
  rw [kissOverflow_of_le hlen]
  simp only [hm]

theorem kissRxByte_notStarted {s : KissRx} (hlen : s.rxLength ≤ kissMtu)
    (hm : s.rxMode = .notStarted) (b : UInt8) :
    kissRxByte alloc s b = kissNotStarted alloc s b := by
  unfold kissRxByte
  rw [kissOverflow_of_le hlen]
  simp only [hm]

/-- The escape symbol and the byte after it. -/
theorem kissRxByte_fesc {s : KissRx} (hlen : s.rxLength ≤ kissMtu) (hm : s.rxMode = .started)
    (b : UInt8) : kissRxByte alloc (kissRxByte alloc s fesc) b = kissEscape s b := by
  have hesc : kissRxByte alloc s fesc = { s with rxMode := .escaped } := by
    rw [kissRxByte_started hlen hm]
    exact if_pos rfl
  rw [hesc]
  refine (kissRxByte_escaped (s := { s with rxMode := .escaped }) hlen rfl b).trans ?_
  unfold kissEscape
  by_cases h1 : b = tfesc <;> by_cases h2 : b = tfend <;> simp only [h1, h2, if_true, if_false] <;> rfl

/-- A packet that is too long is given up at the next byte, which is then looked at afresh. -/
theorem kissRxByte_overflow {s : KissRx} (h : kissMtu < s.rxLength) (b : UInt8) :
    kissRxByte alloc s b = kissNotStarted alloc
      { s with rxError := s.rxError + 1, rxMode := .notStarted, rxLength := 0 } b := by
  unfold kissRxByte
  rw [kissOverflow_of_lt h]

/-! ## The data of a frame -/

/-- In a frame, and behind the byte that is not data. -/
structure KissRx.InData (s : KissRx) : Prop where
  mode : s.rxMode = .started
  first : s.rxFirst = false
  length_le : s.rxLength ≤ kissMtu

/-- A unit of stuffed data is the byte that it stands for. -/
theorem kissRxByte_unit {s : KissRx} (hs : s.InData) (b : UInt8) :
    (kissStuffing.unit b).foldl (kissRxByte alloc) s = kissPut s b := by
  have hback : ∀ b, { kissPut s b with rxMode := .started } = kissPut s b := by
    intro b
    simp [kissPut, hs.mode]
  apply ByteStuffing.foldl_unit
  · intro h1 h2
    rw [kissRxByte_started hs.length_le hs.mode, kissStarted, if_neg (show ¬b = fesc from h2),
      if_neg (show ¬b = fend from h1), hs.first]
    rfl
  · refine (kissRxByte_fesc hs.length_le hs.mode tfend).trans ?_
    exact hback fend
  · refine (kissRxByte_fesc hs.length_le hs.mode tfesc).trans ?_
    exact hback fesc

theorem take_set_succ (l : List UInt8) {i : Nat} (hi : i < l.length) (b : UInt8) :
    (l.set i b).take (i + 1) = l.take i ++ [b] := by
  rw [List.take_succ_eq_append_getElem (by simpa using hi), List.getElem_set_self,
    List.take_set_of_le (Nat.le_refl i)]

/-- What a list of data bytes leaves in the buffer. -/
theorem foldl_kissPut {s : KissRx} {p : CspPacket} (hp : s.rxPacket = some p) {l : List UInt8}
    (hlen : s.rxLength + l.length ≤ 4 + cspBufferSize) :
    ∃ q : CspPacket,
      l.foldl kissPut s
        = { s with rxPacket := some q, rxLength := s.rxLength + l.length } ∧
      q.image.take (s.rxLength + l.length) = p.image.take s.rxLength ++ l := by
  induction l generalizing s p with
  | nil => exact ⟨p, by simp [← hp], by simp⟩
  | cons b l ih =>
    rw [List.length_cons] at hlen
    have hput : kissPut s b
        = { s with rxPacket := some (p.setByte s.rxLength b), rxLength := s.rxLength + 1 } := by
      rw [kissPut, hp]
      rfl
    have hlen' : (kissPut s b).rxLength + l.length ≤ 4 + cspBufferSize := by
      rw [hput]
      show s.rxLength + 1 + l.length ≤ _
      omega
    obtain ⟨q, hq, himage⟩ := ih (by rw [hput]) hlen'
    have hadd : s.rxLength + 1 + l.length = s.rxLength + (b :: l).length := by
      rw [List.length_cons]; omega
    rw [hput] at hq himage
    simp only [hadd] at hq himage
    refine ⟨q, ?_, ?_⟩
    · rw [List.foldl_cons, hput, hq]
    · rw [himage, CspPacket.image_setByte, take_set_succ _ (by rw [CspPacket.length_image]; omega),
        List.append_assoc, List.singleton_append]

/-! ## Whole frames -/

/-- The receiver has seen the first delimiter of a frame. -/
structure KissRx.Opened (s : KissRx) : Prop where
  mode : s.rxMode = .started
  first : s.rxFirst = true
  length : s.rxLength = 0
  packet : s.rxPacket.isSome = true

/-- The receiver is in front of a frame. -/
def KissRx.Ready (s : KissRx) : Prop :=
  s.rxLength ≤ kissMtu ∧ (s.rxMode = .notStarted ∨ s.Opened)

theorem kissNotStarted_fend (halloc : ∀ n, (alloc n).isSome = true) (s : KissRx) :
    (kissNotStarted alloc s fend).Opened ∧ (kissNotStarted alloc s fend).routed = s.routed ∧
      (kissNotStarted alloc s fend).discarded = s.discarded := by
  unfold kissNotStarted
  rw [if_neg (not_not.mpr rfl)]
  cases hp : s.rxPacket with
  | none =>
    obtain ⟨p, hp'⟩ := Option.isSome_iff_exists.mp (halloc s.gets)
    simp only [Option.isNone_none, if_true, hp', Option.isNone_some, Bool.false_eq_true, if_false]
    exact ⟨⟨rfl, rfl, rfl, rfl⟩, trivial, trivial⟩
  | some p =>
    simp only [Option.isNone_some, Bool.false_eq_true, if_false, hp]
    exact ⟨⟨rfl, rfl, rfl, by simp⟩, trivial, trivial⟩

theorem kissNotStarted_of_ne {b : UInt8} (hb : b ≠ fend) (s : KissRx) :
    kissNotStarted alloc s b = { s with discarded := s.discarded ++ [b] } :=
  if_pos hb

theorem cspKissRx_append (s : KissRx) (l m : List UInt8) :
    cspKissRx alloc s (l ++ m) = cspKissRx alloc (cspKissRx alloc s l) m :=
  List.foldl_append

theorem cspKissRx_singleton (s : KissRx) (b : UInt8) :
    cspKissRx alloc s [b] = kissRxByte alloc s b := rfl

/-- Between two frames, bytes without a delimiter go back to the serial driver. -/
theorem cspKissRx_noise {s : KissRx} (hlen : s.rxLength ≤ kissMtu) (hm : s.rxMode = .notStarted)
    {l : List UInt8} (hl : fend ∉ l) :
    cspKissRx alloc s l = { s with discarded := s.discarded ++ l } := by
  induction l generalizing s with
  | nil => simp [cspKissRx]
  | cons b l ih =>
    rw [List.mem_cons, not_or] at hl
    have hstep : kissRxByte alloc s b = { s with discarded := s.discarded ++ [b] } := by
      rw [kissRxByte_notStarted hlen hm, kissNotStarted_of_ne (Ne.symm hl.1)]
    rw [cspKissRx, List.foldl_cons, hstep]
    refine (ih (s := { s with discarded := s.discarded ++ [b] }) hlen hm hl.2).trans ?_
    simp

/-- **The first delimiter.** -/
theorem kissRxByte_fend_of_ready (halloc : ∀ n, (alloc n).isSome = true) {s : KissRx}
    (hs : s.Ready) :
    (kissRxByte alloc s fend).Opened ∧ (kissRxByte alloc s fend).routed = s.routed ∧
      (kissRxByte alloc s fend).discarded = s.discarded := by
  obtain ⟨hlen, hm | ho⟩ := hs
  · rw [kissRxByte_notStarted hlen hm]
    exact kissNotStarted_fend halloc s
  · rw [kissRxByte_started hlen ho.mode, kissStarted, if_neg (by decide), if_pos rfl,
      if_neg (by rw [ho.length]; decide)]
    exact ⟨ho, rfl, rfl⟩

/-- What the byte behind the first delimiter changes. -/
theorem kissRxByte_tncData {s : KissRx} (hs : s.Opened) :
    kissRxByte alloc s tncData = { s with rxFirst := false } := by
  rw [kissRxByte_started (by rw [hs.length]; exact Nat.zero_le _) hs.mode, kissStarted,
    if_neg (by decide), if_neg (by decide), hs.first]
  rfl

variable (alloc) in
/-- The data of a frame are in the buffer when its last delimiter comes. -/
theorem cspKissRx_stuff {s : KissRx} (hs : s.Opened) {l : List UInt8}
    (hl : l.length ≤ kissMtu + 1) :
    ∃ (t : KissRx) (q : CspPacket), cspKissRx alloc s (tncData :: kissStuffing.stuff l) = t ∧
      t.rxMode = .started ∧ t.rxLength = l.length ∧ t.rxPacket = some q ∧ t.routed = s.routed ∧
      t.discarded = s.discarded ∧ q.image.take l.length = l := by
  obtain ⟨p, hp⟩ := Option.isSome_iff_exists.mp hs.packet
  have hmtu : kissMtu = 256 := rfl
  have hsize : cspBufferSize = 1024 := rfl
  obtain ⟨q, hq, himage⟩ := foldl_kissPut (s := { s with rxFirst := false }) hp (l := l)
    (by show s.rxLength + l.length ≤ _; rw [hs.length]; omega)
  simp only [hs.length, Nat.zero_add, List.take_zero, List.nil_append] at himage
  refine ⟨{ s with rxFirst := false, rxPacket := some q, rxLength := l.length }, q, ?_, hs.mode,
    rfl, rfl, rfl, rfl, himage⟩
  rw [cspKissRx, List.foldl_cons, kissRxByte_tncData hs]
  refine (kissStuffing.foldl_stuff (P := KissRx.InData) (fun t b ht => kissRxByte_unit ht b)
    ?_).trans (hq.trans (by simp [hs.length]))
  intro pre b hpre
  have hlt : pre.length < l.length := by
    have := hpre.length_le
    rw [List.length_append, List.length_singleton] at this
    omega
  obtain ⟨q', hq', -⟩ := foldl_kissPut (s := { s with rxFirst := false }) hp (l := pre)
    (by show s.rxLength + pre.length ≤ _; rw [hs.length]; omega)
  rw [hq']
  refine ⟨hs.mode, rfl, ?_⟩
  show s.rxLength + pre.length ≤ kissMtu
  rw [hs.length]
  omega

/-- A frame that arrived as it was sent passes the check, and what is left is the packet. -/
theorem cspCrc32Verify_kissHeader {p q : CspPacket} (hp : p.length.toNat + 4 ≤ cspBufferSize)
    (himage : q.image.take (kissImage p).length = kissImage p) :
    ∃ r, cspCrc32Verify (kissHeader (kissImage p).length q) false = some r ∧ r.view = p.view := by
  have hsize : cspBufferSize = 1024 := rfl
  have hlen := length_kissImage (show p.length.toNat ≤ cspBufferSize by omega)
  have hpayload := CspPacket.length_payload (show p.length.toNat ≤ cspBufferSize by omega)
  -- the frame is the identifier, the data and the checksum
  rw [hlen, show p.length.toNat + 8 = (bytes32 q.id.ext).length + (p.length.toNat + 4) by
    rw [length_bytes32]; omega, CspPacket.image, List.take_length_add_append, kissImage,
    List.append_assoc] at himage
  obtain ⟨hid, hdata⟩ := List.append_inj himage rfl
  have hext : (kissHeader (kissImage p).length q).id = p.id := by
    show CspId.ofExt (cspNtoh32 q.id.ext) = p.id
    rw [bytes32_injective hid, cspNtoh32_cspHton32, CspId.ofExt_ext]
  have hn : (kissHeader (kissImage p).length q).length.toNat = p.length.toNat + 4 := by
    show (UInt16.ofNat ((kissImage p).length - 4)).toNat = _
    rw [hlen, UInt16.toNat_ofNat']
    omega
  have hback : (kissHeader (kissImage p).length q).length - 4 = p.length := by
    apply UInt16.toNat_inj.mp
    rw [UInt16.toNat_sub_of_le _ _ (by rw [UInt16.le_iff_toNat_le, hn]; exact Nat.le_add_left 4 _),
      hn]
    exact Nat.add_sub_cancel p.length.toNat 4
  have hshort : q.data.val.take p.length.toNat = p.payload := by
    have := congrArg (List.take p.length.toNat) hdata
    rwa [List.take_take, Nat.min_eq_left (by omega), List.take_left' hpayload] at this
  refine ⟨_, cspCrc32Verify_eq_some_iff.mpr ⟨by omega, ?_, rfl⟩, Prod.ext hext ?_⟩
  · rw [CspPacket.payload, crcInput, hn, Nat.add_sub_cancel]
    show (q.data.val.take _).drop _ = bytes32 (cspHton32 (cspCrc32Memory (q.data.val.take _)))
    rw [hdata, hshort]
    exact List.drop_left' hpayload
  · show q.data.val.take ((kissHeader (kissImage p).length q).length - 4).toNat = _
    rw [hback, hshort]
    rfl

/-- **The last delimiter** of a frame that arrived as it was sent. -/
theorem kissEndFrame_kissImage {s : KissRx} {p q : CspPacket} (hq : s.rxPacket = some q)
    (hp : p.length.toNat + 4 ≤ cspBufferSize) (hs : s.rxLength = (kissImage p).length)
    (himage : q.image.take (kissImage p).length = kissImage p) :
    (kissEndFrame s).rxMode = .notStarted ∧ (kissEndFrame s).rxLength = s.rxLength ∧
      (kissEndFrame s).discarded = s.discarded ∧
      (kissEndFrame s).routed.map CspPacket.view = s.routed.map CspPacket.view ++ [p.view] := by
  obtain ⟨r, hr, hview⟩ := cspCrc32Verify_kissHeader hp himage
  have hlong : ¬ s.rxLength < 4 + 4 := by
    rw [hs, length_kissImage (by omega)]
    omega
  unfold kissEndFrame
  rw [if_neg hlong, hq]
  simp only [hs, hr, List.map_append, List.map_cons, List.map_nil, hview, and_self]

/-- A packet that is too long is given up at the next byte. -/
theorem cspKissRx_overflow {s : KissRx} (hs : kissMtu < s.rxLength) {b : UInt8} {l : List UInt8}
    (hb : b ≠ fend) (hl : fend ∉ l) :
    cspKissRx alloc s (b :: l)
      = { s with rxError := s.rxError + 1, rxMode := .notStarted, rxLength := 0,
                 discarded := s.discarded ++ b :: l } := by
  rw [cspKissRx, List.foldl_cons, kissRxByte_overflow hs, kissNotStarted_of_ne hb]
  refine (cspKissRx_noise (Nat.zero_le _) rfl hl).trans ?_
  simp

/-- The delimiter behind it is taken for the first one of the next frame. -/
theorem cspKissRx_overflow_fend (halloc : ∀ n, (alloc n).isSome = true) {s : KissRx}
    (hs : kissMtu < s.rxLength) {l : List UInt8} (hl : fend ∉ l) :
    (cspKissRx alloc s (l ++ [fend])).Opened ∧
      (cspKissRx alloc s (l ++ [fend])).routed = s.routed := by
  rcases l with _ | ⟨b, l⟩
  · rw [List.nil_append, cspKissRx_singleton, kissRxByte_overflow hs]
    obtain ⟨hopened, hrouted, -⟩ := kissNotStarted_fend halloc
      { s with rxError := s.rxError + 1, rxMode := .notStarted, rxLength := 0 }
    exact ⟨hopened, hrouted⟩
  · rw [List.mem_cons, not_or] at hl
    rw [cspKissRx_append, cspKissRx_overflow hs (Ne.symm hl.1) hl.2, cspKissRx_singleton,
      kissRxByte_notStarted (Nat.zero_le _) rfl]
    obtain ⟨hopened, hrouted, -⟩ := kissNotStarted_fend halloc
      { s with rxError := s.rxError + 1, rxMode := .notStarted, rxLength := 0,
               discarded := s.discarded ++ b :: l }
    exact ⟨hopened, hrouted⟩

theorem cspKissRx_frame_split (s : KissRx) {p : CspPacket}
    (hp : p.length.toNat + 4 ≤ cspBufferSize) :
    cspKissRx alloc s (cspKissTx p).1 = cspKissRx alloc (kissRxByte alloc s fend)
      (tncData :: kissStuffing.stuff (kissImage p) ++ [fend]) := by
  rw [cspKissTx_fst hp]
  rfl

/-- **A frame that is not too long**, in front of which the receiver is ready, arrives. -/
theorem cspKissRx_frame_fit (halloc : ∀ n, (alloc n).isSome = true) {s : KissRx} (hs : s.Ready)
    {p : CspPacket} (hp : p.length.toNat ≤ kissMaxPayload) :
    (cspKissRx alloc s (cspKissTx p).1).rxMode = .notStarted ∧
      (cspKissRx alloc s (cspKissTx p).1).rxLength ≤ kissMtu ∧
      (cspKissRx alloc s (cspKissTx p).1).discarded = s.discarded ∧
      (cspKissRx alloc s (cspKissTx p).1).routed.map CspPacket.view
        = s.routed.map CspPacket.view ++ [p.view] := by
  have hmtu : kissMtu = 256 := rfl
  have hmax : kissMaxPayload = 248 := rfl
  have hsize : cspBufferSize = 1024 := rfl
  have hlen := length_kissImage (show p.length.toNat ≤ cspBufferSize by omega)
  obtain ⟨ho, hrouted, hdisc⟩ := kissRxByte_fend_of_ready halloc hs
  obtain ⟨t, q, ht, hmode, hlast, hq, hsame, hdisc', himage⟩ :=
    cspKissRx_stuff alloc ho (l := kissImage p) (by omega)
  rw [cspKissRx_frame_split s (by omega), cspKissRx_append, ht, cspKissRx_singleton,
    kissRxByte_started (by omega) hmode, kissStarted, if_neg (by decide), if_pos rfl,
    if_pos (by omega), ← hrouted, ← hsame, ← hdisc, ← hdisc']
  obtain ⟨hmode', hlast', hdisc'', hend⟩ := kissEndFrame_kissImage hq (by omega) hlast himage
  exact ⟨hmode', by omega, hdisc'', hend⟩

/-- **A frame that is too long** is lost. -/
theorem cspKissRx_frame_long (halloc : ∀ n, (alloc n).isSome = true) {s : KissRx} (hs : s.Ready)
    {p : CspPacket} (hp : p.length.toNat + 4 ≤ cspBufferSize)
    (hlong : kissMaxPayload < p.length.toNat) :
    (cspKissRx alloc s (cspKissTx p).1).Opened ∧
      (cspKissRx alloc s (cspKissTx p).1).routed = s.routed := by
  have hmtu : kissMtu = 256 := rfl
  have hmax : kissMaxPayload = 248 := rfl
  have hlen := length_kissImage (show p.length.toNat ≤ cspBufferSize by omega)
  obtain ⟨ho, hrouted, -⟩ := kissRxByte_fend_of_ready halloc hs
  -- the first 257 bytes fill the receiver, the rest overflows it
  have htake : ((kissImage p).take (kissMtu + 1)).length = kissMtu + 1 := by
    rw [List.length_take]
    omega
  have hsplit : tncData :: kissStuffing.stuff (kissImage p) ++ [fend]
      = (tncData :: kissStuffing.stuff ((kissImage p).take (kissMtu + 1)))
        ++ (kissStuffing.stuff ((kissImage p).drop (kissMtu + 1)) ++ [fend]) := by
    rw [List.cons_append, List.cons_append, ← List.append_assoc, ← ByteStuffing.stuff_append,
      List.take_append_drop]
  obtain ⟨t, -, ht, -, hlast, -, hsame, -⟩ :=
    cspKissRx_stuff alloc ho (l := (kissImage p).take (kissMtu + 1)) htake.le
  obtain ⟨hopened, hrouted'⟩ := cspKissRx_overflow_fend halloc (show kissMtu < t.rxLength by omega)
    (kissStuffing.fend_not_mem_stuff ((kissImage p).drop (kissMtu + 1)))
  rw [cspKissRx_frame_split s hp, hsplit, cspKissRx_append, ht]
  exact ⟨hopened, hrouted'.trans (hsame.trans hrouted)⟩

/-- In front of a frame, the receiver is in front of the next one when the frame is over. -/
theorem cspKissRx_frame (halloc : ∀ n, (alloc n).isSome = true) {s : KissRx} (hs : s.Ready)
    {p : CspPacket} (hp : p.length.toNat + 4 ≤ cspBufferSize) :
    (cspKissRx alloc s (cspKissTx p).1).Ready ∧
      (cspKissRx alloc s (cspKissTx p).1).routed.map CspPacket.view
        = s.routed.map CspPacket.view
          ++ if p.length.toNat ≤ kissMaxPayload then [p.view] else [] := by
  by_cases hfit : p.length.toNat ≤ kissMaxPayload
  · obtain ⟨hmode, hlen, -, hrouted⟩ := cspKissRx_frame_fit halloc hs hfit
    rw [if_pos hfit]
    exact ⟨⟨hlen, .inl hmode⟩, hrouted⟩
  · obtain ⟨hopened, hrouted⟩ := cspKissRx_frame_long halloc hs hp (by omega)
    rw [if_neg hfit, List.append_nil, hrouted]
    exact ⟨⟨by rw [hopened.length]; exact Nat.zero_le _, .inr hopened⟩, rfl⟩

/-! ## Streams -/

theorem foldl_cspKissRx (s : KissRx) (calls : List (List UInt8)) :
    calls.foldl (cspKissRx alloc) s = cspKissRx alloc s calls.flatten := by
  rw [cspKissRx, List.foldl_flatten]
  rfl

theorem cspKissRx_frames (halloc : ∀ n, (alloc n).isSome = true) {s : KissRx} (hs : s.Ready)
    {packets : List CspPacket} (hp : ∀ p ∈ packets, p.length.toNat + 4 ≤ cspBufferSize) :
    (cspKissRx alloc s (kissFrames packets)).routed.map CspPacket.view
      = s.routed.map CspPacket.view
        ++ (packets.filter fun p => p.length.toNat ≤ kissMaxPayload).map CspPacket.view := by
  induction packets generalizing s with
  | nil => simp [kissFrames, cspKissRx]
  | cons p packets ih =>
    obtain ⟨hready, hrouted⟩ := cspKissRx_frame halloc hs (hp p List.mem_cons_self)
    have hrest := ih hready fun q hq => hp q (List.mem_cons_of_mem p hq)
    rw [kissFrames, List.flatMap_cons, cspKissRx_append]
    refine hrest.trans ?_
    rw [hrouted, List.append_assoc, List.filter_cons]
    by_cases hfit : p.length.toNat ≤ kissMaxPayload <;> simp [hfit]

/-- **What the serial line delivers.** Of packets that are sent one after the other, exactly those
of at most 248 bytes arrive, with their identifiers and data and in their order, however the driver
cuts the stream into calls and whatever the buffers held before. The interface takes packets of up
to 256 bytes, and loses the longest ones. -/
theorem kiss_delivers (halloc : ∀ n, (alloc n).isSome = true) {packets : List CspPacket}
    (hp : ∀ p ∈ packets, p.length.toNat + 4 ≤ cspBufferSize) {calls : List (List UInt8)}
    (hcalls : calls.flatten = kissFrames packets) :
    (calls.foldl (cspKissRx alloc) cspKissInit).routed.map CspPacket.view
      = (packets.filter fun p => p.length.toNat ≤ kissMaxPayload).map CspPacket.view := by
  rw [foldl_cspKissRx, hcalls]
  exact cspKissRx_frames halloc ⟨Nat.zero_le _, .inl rfl⟩ hp

/-- Data that need escapes, in two calls, with a packet between them that is too long. -/
theorem kiss_delivers_escapes :
    let p := CspPacket.carrying { CspId.zero with src := 1, dst := 10 } [1, fend, 2, fesc, tfend]
    let long := CspPacket.carrying { CspId.zero with src := 2 } (List.replicate 249 fend)
    let q := CspPacket.carrying { CspId.zero with src := 3 } [tfesc, fend]
    let frames := kissFrames [p, long, q]
    ([frames.take 9, frames.drop 9].foldl (cspKissRx fun _ => some CspPacket.zero)
      cspKissInit).routed.map CspPacket.view = [p.view, q.view] := by
  intro p long q frames
  have hlong : long.length.toNat = 249 := CspPacket.length_carrying_replicate (by decide)
  have hroom : ∀ r ∈ [p, long, q], r.length.toNat + 4 ≤ cspBufferSize := by
    simp only [List.forall_mem_cons, List.not_mem_nil, false_implies, implies_true, and_true, hlong]
    exact ⟨by decide, by decide, by decide⟩
  have hfits : [p, long, q].filter (fun r => r.length.toNat ≤ kissMaxPayload) = [p, q] := by
    simp only [List.filter_cons, hlong]
    rfl
  have hcalls : [frames.take 9, frames.drop 9].flatten = frames := by
    simp [frames, List.take_append_drop]
  exact (kiss_delivers (fun _ => rfl) hroom hcalls).trans (congrArg (List.map CspPacket.view) hfits)

/-- **Text between frames.** What is on the line between the frames goes back to the serial driver,
byte by byte, and disturbs no packet. -/
theorem kiss_delivers_among_text (halloc : ∀ n, (alloc n).isSome = true)
    {items : List (List UInt8 × CspPacket)}
    (hitems : ∀ i ∈ items, fend ∉ i.1 ∧ i.2.length.toNat ≤ kissMaxPayload)
    {calls : List (List UInt8)}
    (hcalls : calls.flatten = items.flatMap fun i => i.1 ++ (cspKissTx i.2).1) :
    (calls.foldl (cspKissRx alloc) cspKissInit).routed.map CspPacket.view
        = items.map (fun i => i.2.view) ∧
      (calls.foldl (cspKissRx alloc) cspKissInit).discarded = items.flatMap (·.1) := by
  have hrun : ∀ s : KissRx, s.rxMode = .notStarted → s.rxLength ≤ kissMtu →
      (cspKissRx alloc s (items.flatMap fun i => i.1 ++ (cspKissTx i.2).1)).routed.map
          CspPacket.view = s.routed.map CspPacket.view ++ items.map (fun i => i.2.view) ∧
        (cspKissRx alloc s (items.flatMap fun i => i.1 ++ (cspKissTx i.2).1)).discarded
          = s.discarded ++ items.flatMap (·.1) := by
    clear hcalls
    induction items with
    | nil => simp [cspKissRx]
    | cons i items ih =>
      intro s hm hlen
      obtain ⟨htext, hfit⟩ := hitems i List.mem_cons_self
      have hnoise : cspKissRx alloc s i.1 = _ := cspKissRx_noise hlen hm htext
      obtain ⟨hmode, hlast, hdisc, hrouted⟩ :=
        cspKissRx_frame_fit halloc (s := cspKissRx alloc s i.1)
          (by rw [hnoise]; exact ⟨hlen, .inl hm⟩) hfit
      obtain ⟨h1, h2⟩ := ih (fun j hj => hitems j (List.mem_cons_of_mem i hj)) _ hmode hlast
      rw [List.flatMap_cons, List.append_assoc, cspKissRx_append, cspKissRx_append, h1, h2, hrouted,
        hdisc, hnoise]
      simp
  rw [foldl_cspKissRx, hcalls]
  simpa [cspKissInit] using hrun cspKissInit rfl (Nat.zero_le _)

/-- Text in front of a packet and between two. -/
theorem kiss_delivers_among_lines :
    let p := CspPacket.carrying { CspId.zero with src := 1, dst := 10 } [1, fend, 2, fesc, tfend]
    let q := CspPacket.carrying { CspId.zero with src := 3 } [tfesc, fend]
    let stream := [0x4F, 0x4B] ++ (cspKissTx p).1 ++ [0x0D, 0x0A, fesc] ++ (cspKissTx q).1
    let calls := [stream.take 9, stream.drop 9]
    (calls.foldl (cspKissRx fun _ => some CspPacket.zero) cspKissInit).routed.map CspPacket.view
        = [p.view, q.view] ∧
      (calls.foldl (cspKissRx fun _ => some CspPacket.zero) cspKissInit).discarded
        = [0x4F, 0x4B, 0x0D, 0x0A, fesc] := by
  intro p q stream calls
  have hitems : ∀ i ∈ [(([0x4F, 0x4B] : List UInt8), p), ([0x0D, 0x0A, fesc], q)],
      fend ∉ i.1 ∧ i.2.length.toNat ≤ kissMaxPayload := by
    simp only [List.forall_mem_cons, List.not_mem_nil, false_implies, implies_true, and_true]
    exact ⟨⟨by decide, by decide⟩, by decide, by decide⟩
  exact kiss_delivers_among_text (fun _ => rfl) hitems (by simp [calls, stream])

end CspTerm.Csp
