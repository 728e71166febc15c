import CspTerm.Csp.Proofs.KissProofs

/-!
# The serial line after noise

What comes over the line never takes the receiver out of its buffer, and after at most one frame the
receiver is in step with the sender again.
-/

namespace CspTerm.Csp

variable {alloc : Nat → Option CspPacket}

/-! ## Finding the place again -/

/-- From `s` to `t`, at most `n` packets were given to the router. -/
def KissRx.Gives (s t : KissRx) (n : Nat) : Prop :=
  ∃ junk, t.routed = s.routed ++ junk ∧ junk.length ≤ n

theorem KissRx.Gives.of_eq {s t : KissRx} (h : t.routed = s.routed) (n : Nat) : s.Gives t n :=
  ⟨[], by simp [h], Nat.zero_le n⟩

theorem kissEndFrame_gives {s : KissRx} (hp : s.rxPacket.isSome = true) :
    s.Gives (kissEndFrame s) 1 ∧ (kissEndFrame s).rxMode = .notStarted ∧
      (kissEndFrame s).rxLength = s.rxLength := by
  obtain ⟨p, hp⟩ := Option.isSome_iff_exists.mp hp
  unfold kissEndFrame
  rw [hp]
  split_ifs
  · exact ⟨.of_eq rfl 1, rfl, rfl⟩
  · cases hv : cspCrc32Verify (kissHeader s.rxLength p) false with
    | none => simp only [hv]; exact ⟨.of_eq rfl 1, trivial, trivial⟩
    | some r => simp only [hv]; exact ⟨⟨[r], rfl, Nat.le_refl 1⟩, trivial, trivial⟩

/-- Within stuffed data that may not be those of a frame of its own: no packet comes of them, and the
receiver is not in the middle of an escape. -/
structure KissRx.Astray (s t : KissRx) : Prop where
  same : t.routed = s.routed
  packet : t.rxPacket.isSome = true
  mode : (t.rxMode = .started ∧ t.rxFirst = false ∧ t.rxLength ≤ kissMtu + 1) ∨
    (t.rxMode = .notStarted ∧ t.rxLength = 0)

variable (alloc) in
theorem cspKissRx_unit_astray {s t : KissRx} (ht : s.Astray t) (b : UInt8) :
    s.Astray (cspKissRx alloc t (kissStuffing.unit b)) ∧
      ((cspKissRx alloc t (kissStuffing.unit b)).rxMode = .started →
        0 < (cspKissRx alloc t (kissStuffing.unit b)).rxLength) := by
  have hfree : fend ∉ kissStuffing.unit b := kissStuffing.fend_not_mem_unit b
  obtain ⟨hmode, hfirst, hlen⟩ | ⟨hmode, hlen⟩ := ht.mode
  · by_cases hle : t.rxLength ≤ kissMtu
    · have hput : cspKissRx alloc t (kissStuffing.unit b) = kissPut t b :=
        kissRxByte_unit ⟨hmode, hfirst, hle⟩ b
      rw [hput]
      exact ⟨⟨ht.same, by simpa [kissPut] using ht.packet,
        .inl ⟨hmode, hfirst, Nat.succ_le_succ hle⟩⟩, fun _ => Nat.succ_pos _⟩
    · obtain ⟨d, l, hunit⟩ : ∃ d l, kissStuffing.unit b = d :: l := by
        unfold ByteStuffing.unit
        split_ifs
        · exact ⟨_, _, rfl⟩
        · exact ⟨_, _, rfl⟩
        · exact ⟨_, _, rfl⟩
      rw [hunit, List.mem_cons, not_or] at hfree
      rw [hunit, cspKissRx_overflow (by omega) (Ne.symm hfree.1) hfree.2]
      refine ⟨⟨ht.same, ht.packet, .inr ⟨rfl, rfl⟩⟩, ?_⟩
      intro h
      cases h
  · rw [cspKissRx_noise (by omega) hmode hfree]
    exact ⟨⟨ht.same, ht.packet, .inr ⟨hmode, hlen⟩⟩, fun h => by rw [hmode] at h; cases h⟩

/-- Wherever in a frame the receiver believes to be, behind the next frame it is in front of one. -/
theorem cspKissRx_started (halloc : ∀ n, (alloc n).isSome = true) {s : KissRx}
    (hm : s.rxMode = .started) (hp : s.rxPacket.isSome = true) (hlen : s.rxLength ≤ kissMtu)
    {l : List UInt8} (hl : l ≠ []) :
    (cspKissRx alloc s (tncData :: kissStuffing.stuff l ++ [fend])).Ready ∧
      s.Gives (cspKissRx alloc s (tncData :: kissStuffing.stuff l ++ [fend])) 1 := by
  obtain ⟨b, l, rfl⟩ := List.exists_cons_of_ne_nil hl
  have htnc : s.Astray (kissRxByte alloc s tncData) := by
    rw [kissRxByte_started hlen hm, kissStarted, if_neg (by decide), if_neg (by decide)]
    cases hf : s.rxFirst with
    | true => exact ⟨rfl, hp, .inl ⟨hm, rfl, Nat.le_succ_of_le hlen⟩⟩
    | false => exact ⟨rfl, by simpa [kissPut] using hp, .inl ⟨hm, hf, Nat.succ_le_succ hlen⟩⟩
  have hfirst := cspKissRx_unit_astray alloc htnc b
  obtain ⟨t, ht⟩ : ∃ t, t = cspKissRx alloc (cspKissRx alloc (kissRxByte alloc s tncData)
    (kissStuffing.unit b)) (kissStuffing.stuff l) := ⟨_, rfl⟩
  obtain ⟨hastray, hpos⟩ : s.Astray t ∧ (t.rxMode = .started → 0 < t.rxLength) := by
    rw [ht]
    exact kissStuffing.foldl_stuff_inv
      (P := fun t => s.Astray t ∧ (t.rxMode = .started → 0 < t.rxLength))
      (fun t d ht => cspKissRx_unit_astray alloc ht.1 d) hfirst l
  have hsplit : cspKissRx alloc s (tncData :: kissStuffing.stuff (b :: l) ++ [fend])
      = kissRxByte alloc t fend := by
    rw [ht, cspKissRx_append, cspKissRx_singleton, ByteStuffing.stuff_cons, ← cspKissRx_append]
    rfl
  rw [hsplit]
  have hopen : ∀ u : KissRx, u.routed = s.routed →
      (kissNotStarted alloc u fend).Ready ∧ s.Gives (kissNotStarted alloc u fend) 1 := by
    intro u hu
    obtain ⟨hopened, hrouted, -⟩ := kissNotStarted_fend halloc u
    exact ⟨⟨by rw [hopened.length]; exact Nat.zero_le _, .inr hopened⟩, .of_eq (hrouted.trans hu) 1⟩
  by_cases hle : t.rxLength ≤ kissMtu
  · obtain ⟨hmode, -, -⟩ | ⟨hmode, -⟩ := hastray.mode
    · rw [kissRxByte_started hle hmode, kissStarted, if_neg (by decide), if_pos rfl,
        if_pos (hpos hmode)]
      obtain ⟨⟨junk, hjunk, hone⟩, hmode', hlast⟩ := kissEndFrame_gives hastray.packet
      exact ⟨⟨by omega, .inl hmode'⟩, junk, hastray.same ▸ hjunk, hone⟩
    · rw [kissRxByte_notStarted hle hmode]
      exact hopen t hastray.same
  · rw [kissRxByte_overflow (by omega)]
    exact hopen _ hastray.same

/-- Data without a delimiter between frames, and then a delimiter. -/
theorem cspKissRx_notStarted (halloc : ∀ n, (alloc n).isSome = true) {s : KissRx}
    (hm : s.rxMode = .notStarted) (hlen : s.rxLength ≤ kissMtu) {l : List UInt8} (hl : fend ∉ l) :
    (cspKissRx alloc s (l ++ [fend])).Ready ∧
      (cspKissRx alloc s (l ++ [fend])).routed = s.routed := by
  rw [cspKissRx_append, cspKissRx_noise hlen hm hl, cspKissRx_singleton,
    kissRxByte_notStarted (s := { s with discarded := s.discarded ++ l }) hlen hm]
  obtain ⟨hopened, hrouted, -⟩ := kissNotStarted_fend halloc
    { s with discarded := s.discarded ++ l }
  exact ⟨⟨by rw [hopened.length]; exact Nat.zero_le _, .inr hopened⟩, hrouted⟩

/-- **Whatever state the receiver is in, behind the next frame it is in front of one**, and at most
one packet came of that frame and of what was there before it. -/
theorem cspKissRx_resync (halloc : ∀ n, (alloc n).isSome = true) {s : KissRx}
    (hpacket : s.rxMode = .started ∨ s.rxMode = .escaped → s.rxPacket.isSome = true)
    {p : CspPacket} (hp : p.length.toNat + 4 ≤ cspBufferSize) :
    (cspKissRx alloc s (cspKissTx p).1).Ready ∧ s.Gives (cspKissRx alloc s (cspKissTx p).1) 1 := by
  have hne : kissImage p ≠ [] := by
    rw [← List.length_pos_iff, length_kissImage (by omega)]
    omega
  have hfree : fend ∉ tncData :: kissStuffing.stuff (kissImage p) := by
    rw [List.mem_cons, not_or]
    exact ⟨by decide, kissStuffing.fend_not_mem_stuff _⟩
  rw [cspKissRx_frame_split s hp]
  have hopened : ∀ u : KissRx, u.Opened → u.routed = s.routed →
      (cspKissRx alloc u (tncData :: kissStuffing.stuff (kissImage p) ++ [fend])).Ready ∧
        s.Gives (cspKissRx alloc u (tncData :: kissStuffing.stuff (kissImage p) ++ [fend])) 1 := by
    intro u hu hsame
    obtain ⟨hready, junk, hjunk, hone⟩ := cspKissRx_started halloc hu.mode hu.packet
      (by rw [hu.length]; exact Nat.zero_le _) hne
    exact ⟨hready, junk, hsame ▸ hjunk, hone⟩
  by_cases hle : s.rxLength ≤ kissMtu
  · cases hmode : s.rxMode with
    | notStarted =>
      rw [kissRxByte_notStarted hle hmode]
      obtain ⟨ho, hrouted, -⟩ := kissNotStarted_fend halloc s
      exact hopened _ ho hrouted
    | started =>
      rw [kissRxByte_started hle hmode, kissStarted, if_neg (by decide), if_pos rfl]
      split_ifs
      · obtain ⟨⟨junk, hjunk, hone⟩, hmode', hlast⟩ := kissEndFrame_gives (hpacket (.inl hmode))
        obtain ⟨hready, hrouted⟩ := cspKissRx_notStarted halloc hmode' (by omega) hfree
        exact ⟨hready, junk, hrouted.trans hjunk, hone⟩
      · exact cspKissRx_started halloc hmode (hpacket (.inl hmode)) hle hne
    | escaped =>
      rw [kissRxByte_escaped hle hmode]
      exact cspKissRx_started halloc (s := { s with rxMode := .started }) rfl
        (hpacket (.inr hmode)) hle hne
    | skipFrame =>
      have hstep : kissRxByte alloc s fend = { s with rxMode := .notStarted } := by
        unfold kissRxByte
        rw [kissOverflow_of_le hle]
        simp only [hmode, if_true]
      rw [hstep]
      obtain ⟨hready, hrouted⟩ := cspKissRx_notStarted halloc
        (s := { s with rxMode := .notStarted }) rfl hle hfree
      exact ⟨hready, .of_eq hrouted 1⟩
  · rw [kissRxByte_overflow (by omega)]
    obtain ⟨ho, hrouted, -⟩ := kissNotStarted_fend halloc
      { s with rxError := s.rxError + 1, rxMode := .notStarted, rxLength := 0 }
    exact hopened _ ho hrouted

/-! ## What always holds -/

theorem kissOverflow_ok {s : KissRx} (hs : s.Ok alloc) :
    (kissOverflow s).Ok alloc ∧ (kissOverflow s).rxLength ≤ kissMtu := by
  by_cases hle : s.rxLength ≤ kissMtu
  · rw [kissOverflow_of_le hle]
    exact ⟨hs, hle⟩
  · rw [kissOverflow_of_lt (by omega)]
    exact ⟨⟨Nat.zero_le _, by simp, hs.taken, hs.checked⟩, Nat.zero_le _⟩

theorem kissNotStarted_ok {s : KissRx} (hs : s.Ok alloc) (b : UInt8) (hm : s.rxMode = .notStarted) :
    (kissNotStarted alloc s b).Ok alloc := by
  by_cases hb : b = fend
  · subst hb
    unfold kissNotStarted
    rw [if_neg (not_not.mpr rfl)]
    cases hp : s.rxPacket with
    | some p =>
      have htaken := hs.taken
      rw [hp] at htaken
      simp only [Option.isNone_some, Bool.false_eq_true, if_false, hp]
      exact ⟨Nat.zero_le _, by simp, htaken, hs.checked⟩
    | none =>
      have htaken := hs.taken
      rw [hp] at htaken
      have hsum : kissTaken alloc (s.gets + 1)
          = s.routed.length + (alloc s.gets).toList.length := by
        rw [kissTaken, List.range_succ, List.countP_append, ← kissTaken, htaken]
        cases h : alloc s.gets <;> simp [h]
      cases halloc : alloc s.gets with
      | none =>
        simp only [Option.isNone_none, if_true]
        exact ⟨hs.length_le, by simp, by simpa [halloc] using hsum, hs.checked⟩
      | some p =>
        simp only [Option.isNone_none, if_true, Option.isNone_some, Bool.false_eq_true, if_false]
        exact ⟨Nat.zero_le _, by simp, by simpa [halloc] using hsum, hs.checked⟩
  · rw [kissNotStarted_of_ne hb]
    exact ⟨hs.length_le, by simp [hm], hs.taken, hs.checked⟩

theorem kissPut_ok {s : KissRx} (hs : s.Ok alloc) (hle : s.rxLength ≤ kissMtu) (b : UInt8) :
    (kissPut s b).Ok alloc := by
  refine ⟨Nat.succ_le_succ hle, ?_, ?_, hs.checked⟩
  · intro hm
    simpa [kissPut] using hs.packet hm
  · refine hs.taken.trans ?_
    cases hp : s.rxPacket <;> simp [kissPut, hp]

/-- What the check says about a packet that it lets through. -/
theorem checked_of_cspCrc32Verify {n : Nat} (hn : n ≤ kissMtu) {q r : CspPacket}
    (h : cspCrc32Verify (kissHeader n q) false = some r) : r.length.toNat ≤ kissMaxPayload ∧
      (r.data.val.drop r.length.toNat).take 4 = bytes32 (cspHton32 (cspCrc32Memory r.payload)) := by
  have hmtu : kissMtu = 256 := rfl
  have hmax : kissMaxPayload = 248 := rfl
  obtain ⟨h4, hcrc, rfl⟩ := cspCrc32Verify_eq_some_iff.mp h
  have hlen : (kissHeader n q).length.toNat = n - 4 := by
    show (UInt16.ofNat (n - 4)).toNat = _
    rw [UInt16.toNat_ofNat']
    omega
  have hback : ((kissHeader n q).length - 4).toNat = n - 4 - 4 := by
    rw [UInt16.toNat_sub_of_le _ _ (by rw [UInt16.le_iff_toNat_le]; exact h4), hlen]
    rfl
  refine ⟨by rw [hback]; omega, ?_⟩
  rw [CspPacket.payload, hlen, List.drop_take, show n - 4 - (n - 4 - 4) = 4 by omega] at hcrc
  rw [CspPacket.payload, hback]
  exact hcrc

theorem kissEndFrame_ok {s : KissRx} (hs : s.Ok alloc) (hle : s.rxLength ≤ kissMtu)
    (hm : s.rxMode = .started) : (kissEndFrame s).Ok alloc := by
  obtain ⟨p, hp⟩ := Option.isSome_iff_exists.mp (hs.packet (.inl hm))
  have htaken := hs.taken
  rw [hp] at htaken
  unfold kissEndFrame
  split_ifs
  · exact ⟨hs.length_le, by simp, hs.taken, hs.checked⟩
  · rw [hp]
    cases hv : cspCrc32Verify (kissHeader s.rxLength p) false with
    | none =>
      simp only [hv]
      exact ⟨hs.length_le, by simp, htaken, hs.checked⟩
    | some r =>
      simp only [hv]
      refine ⟨hs.length_le, by simp, htaken.trans (by simp), ?_⟩
      intro q hq
      rcases List.mem_append.mp hq with hq | hq
      · exact hs.checked q hq
      · obtain rfl := List.mem_singleton.mp hq
        exact checked_of_cspCrc32Verify hle hv

theorem kissRxByte_ok {s : KissRx} (hs : s.Ok alloc) (b : UInt8) : (kissRxByte alloc s b).Ok alloc := by
  obtain ⟨hok, hle⟩ := kissOverflow_ok hs
  unfold kissRxByte
  generalize kissOverflow s = t at hok hle
  cases hm : t.rxMode with
  | notStarted =>
    simp only [hm]
    exact kissNotStarted_ok hok b hm
  | started =>
    simp only [hm]
    unfold kissStarted
    split_ifs
    · exact ⟨hok.length_le, fun _ => hok.packet (.inl hm), hok.taken, hok.checked⟩
    · exact kissEndFrame_ok hok hle hm
    · exact hok
    · exact ⟨hok.length_le, hok.packet, hok.taken, hok.checked⟩
    · exact kissPut_ok hok hle b
  | escaped =>
    simp only [hm]
    have hback : ∀ u : KissRx, u.Ok alloc → u.rxMode = .escaped →
        ({ u with rxMode := .started } : KissRx).Ok alloc := fun u hu hmode =>
      ⟨hu.length_le, fun _ => hu.packet (.inr hmode), hu.taken, hu.checked⟩
    unfold kissEscape
    by_cases h1 : b = tfesc
    · have hne : ¬ tfesc = tfend := by decide
      simp only [h1, if_true, if_neg hne]
      exact hback _ (kissPut_ok hok hle fesc) hm
    · simp only [if_neg h1]
      split_ifs
      · exact hback _ (kissPut_ok hok hle fend) hm
      · exact hback _ hok hm
  | skipFrame =>
    simp only [hm]
    split_ifs
    · exact ⟨hok.length_le, by simp, hok.taken, hok.checked⟩
    · exact hok

/-- **Whatever comes over the line**, the receiver stays within its buffer, has a buffer when it
writes, loses none, and gives the router only packets that agree with their checksums. -/
theorem kiss_ok (alloc : Nat → Option CspPacket) (calls : List (List UInt8)) :
    (calls.foldl (cspKissRx alloc) cspKissInit).Ok alloc := by
  rw [foldl_cspKissRx, cspKissRx]
  refine Run.foldl_inv (P := fun _ _ => True) (I := KissRx.Ok alloc)
    (fun s b hs _ => kissRxByte_ok hs b) ?_ (Run.guarded_of_forall fun _ _ => trivial)
  exact ⟨Nat.zero_le _, by simp [cspKissInit], rfl, by simp [cspKissInit]⟩

/-- **Noise costs at most one packet.** After anything at all, of the packets that are sent then all
but the first one arrive as if nothing had happened before. Behind what the noise yielded by itself,
at most one packet comes of its end and the first frame. -/
theorem kiss_resync (halloc : ∀ n, (alloc n).isSome = true) (noise : List (List UInt8))
    {first : CspPacket} {packets : List CspPacket}
    (hp : ∀ p ∈ first :: packets, p.length.toNat + 4 ≤ cspBufferSize) :
    ∃ junk : List (CspId × List UInt8), junk.length ≤ 1 ∧
      (cspKissRx alloc (noise.foldl (cspKissRx alloc) cspKissInit)
          (kissFrames (first :: packets))).routed.map CspPacket.view
        = (noise.foldl (cspKissRx alloc) cspKissInit).routed.map CspPacket.view ++ junk
          ++ (packets.filter fun p => p.length.toNat ≤ kissMaxPayload).map CspPacket.view := by
  have hok := kiss_ok alloc noise
  generalize noise.foldl (cspKissRx alloc) cspKissInit = s at hok
  obtain ⟨hready, junk, hjunk, hone⟩ :=
    cspKissRx_resync halloc hok.packet (hp first List.mem_cons_self)
  have hrest := cspKissRx_frames halloc hready fun q hq => hp q (List.mem_cons_of_mem first hq)
  refine ⟨junk.map CspPacket.view, by rwa [List.length_map], ?_⟩
  rw [kissFrames, List.flatMap_cons, cspKissRx_append]
  refine hrest.trans ?_
  rw [hjunk, List.map_append]

/-- A frame that breaks off within an escape, and then three packets. -/
theorem kiss_resync_escape :
    let first := CspPacket.carrying { CspId.zero with src := 1, dst := 10 } [1, fend, 2, fesc, tfend]
    let long := CspPacket.carrying { CspId.zero with src := 2 } (List.replicate 249 fend)
    let q := CspPacket.carrying { CspId.zero with src := 3 } [tfesc, fend]
    ∃ junk : List (CspId × List UInt8), junk.length ≤ 1 ∧
      (cspKissRx (fun _ => some CspPacket.zero)
          ([[fend, 1], [2, fesc]].foldl (cspKissRx fun _ => some CspPacket.zero) cspKissInit)
          (kissFrames [first, long, q])).routed.map CspPacket.view = junk ++ [q.view] := by
  intro first long q
  have hlong : long.length.toNat = 249 := CspPacket.length_carrying_replicate (by decide)
  have hroom : ∀ r ∈ [first, long, q], r.length.toNat + 4 ≤ cspBufferSize := by
    simp only [List.forall_mem_cons, List.not_mem_nil, false_implies, implies_true, and_true, hlong]
    exact ⟨by decide, by decide, by decide⟩
  have hfits : [long, q].filter (fun r => r.length.toNat ≤ kissMaxPayload) = [q] := by
    simp only [List.filter_cons, hlong]
    rfl
  obtain ⟨junk, hjunk, hrouted⟩ :=
    kiss_resync (fun _ => rfl : ∀ n, (some CspPacket.zero).isSome = true) [[fend, 1], [2, fesc]] hroom
  rw [hfits] at hrouted
  exact ⟨junk, hjunk, hrouted⟩

end CspTerm.Csp
