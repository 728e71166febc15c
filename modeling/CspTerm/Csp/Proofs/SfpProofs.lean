import CspTerm.Csp.Sfp

/-!
# Fragmentation and reassembly

What the receiver says is complete is what was sent, whatever became of single pieces on the way.
-/

namespace CspTerm.Csp

theorem cspSfpHeaderRemove_add {payload added : List UInt8} {h : SfpHeader}
    (hadd : cspSfpHeaderAdd payload h = some added) :
    cspSfpHeaderRemove added = some (payload, h) := by
  obtain ⟨bytes, hbytes⟩ : ∃ bytes,
      bytes = bytes32 (cspHton32 h.offset) ++ bytes32 (cspHton32 h.totalsize) := ⟨_, rfl⟩
  have hlen : bytes.length = sfpHeaderSize := by
    rw [hbytes]
    rfl
  rw [cspSfpHeaderAdd, ← hbytes] at hadd
  split_ifs at hadd
  obtain rfl := Option.some.inj hadd
  have hsize : (payload ++ bytes).length - sfpHeaderSize = payload.length := by
    rw [List.length_append, hlen, Nat.add_sub_cancel]
  have hroom : ¬ (payload ++ bytes).length < sfpHeaderSize := by
    rw [List.length_append, hlen]
    omega
  have h0 : bytes.take 4 = bytes32 (cspHton32 h.offset) := by rw [hbytes]; rfl
  have h4 : (bytes.drop 4).take 4 = bytes32 (cspHton32 h.totalsize) := by rw [hbytes]; rfl
  rw [cspSfpHeaderRemove, if_neg hroom, hsize, List.drop_left, List.take_left]
  simp only [h0, h4, word32_bytes32, cspNtoh32_cspHton32]

/-! ## Pieces -/

section

variable {gets takes : Nat → Bool} {malloc : UInt32 → Option (Nat → UInt8)} {data : List UInt8}
  {mtu : Nat}

/-- A piece that leaves room for the header gets one. -/
theorem exists_sfpPiece (hfits : mtu + sfpHeaderSize ≤ cspBufferSize) (c : Nat) :
    ∃ p, sfpPiece data mtu c = some p := by
  have hroom : ((data.drop c).take (min (data.length - c) mtu)).length + sfpHeaderSize
      ≤ cspBufferSize := by
    rw [List.length_take]
    omega
  rw [sfpPiece, cspSfpHeaderAdd, if_pos hroom]
  exact ⟨_, rfl⟩

/-- What the receiver reads in a piece. -/
theorem cspSfpHeaderRemove_sfpPiece {c : Nat} {p : SfpPacket} (h : sfpPiece data mtu c = some p) :
    p.ffrag = true ∧ cspSfpHeaderRemove p.payload
      = some ((data.drop c).take (min (data.length - c) mtu),
        { offset := UInt32.ofNat c, totalsize := UInt32.ofNat data.length }) := by
  obtain ⟨payload, hadd, rfl⟩ := Option.map_eq_some_iff.mp h
  exact ⟨rfl, cspSfpHeaderRemove_add hadd⟩

/-- One round of the sender. -/
theorem cspSfpSendLoop_succ (rounds : Nat) {count : Nat} (hlt : count < data.length) :
    cspSfpSendLoop gets takes data mtu (rounds + 1) count = ([], .error (-1)) ∨
    (sfpPiece data mtu count = none ∧
      cspSfpSendLoop gets takes data mtu (rounds + 1) count = ([], .overrun)) ∨
    ∃ p, sfpPiece data mtu count = some p ∧
      cspSfpSendLoop gets takes data mtu (rounds + 1) count =
        let rest := cspSfpSendLoop gets takes data mtu rounds (count + min (data.length - count) mtu)
        (p :: rest.1, rest.2) := by
  rw [cspSfpSendLoop, if_pos hlt]
  by_cases hget : mtu > cspBufferSize ∨ gets count = false
  · exact .inl (if_pos hget)
  rw [if_neg hget]
  cases hpiece : sfpPiece data mtu count with
  | none => exact .inr (.inl ⟨rfl, rfl⟩)
  | some p =>
    cases htakes : takes count with
    | true => exact .inr (.inr ⟨p, rfl, rfl⟩)
    | false => exact .inl rfl

theorem cspSfpSendLoop_end (rounds : Nat) {count : Nat} (h : data.length ≤ count) :
    cspSfpSendLoop gets takes data mtu rounds count = ([], .ok ()) := by
  cases rounds with
  | zero => rw [cspSfpSendLoop, if_pos h]
  | succ rounds => rw [cspSfpSendLoop, if_neg (Nat.not_lt.mpr h)]

/-- The packets that a call sends are pieces at multiples of the size. -/
theorem mem_cspSfpSendLoop {rounds count : Nat} {p : SfpPacket} (hcount : count % mtu = 0)
    (hp : p ∈ (cspSfpSendLoop gets takes data mtu rounds count).1) :
    ∃ c, c % mtu = 0 ∧ c < data.length ∧ sfpPiece data mtu c = some p := by
  induction rounds generalizing count with
  | zero => cases hp
  | succ rounds ih =>
    by_cases hlt : count < data.length
    · rcases cspSfpSendLoop_succ rounds hlt with heq | ⟨_, heq⟩ | ⟨packet, hpiece, heq⟩
      · rw [heq] at hp
        cases hp
      · rw [heq] at hp
        cases hp
      · rw [heq] at hp
        rcases List.mem_cons.mp hp with rfl | hp
        · exact ⟨count, hcount, hlt, hpiece⟩
        · by_cases hfull : mtu ≤ data.length - count
          · rw [Nat.min_eq_right hfull] at hp
            exact ih (by rw [Nat.add_mod_right]; exact hcount) hp
          · -- the last piece
            rw [cspSfpSendLoop_end _ (by omega)] at hp
            cases hp
    · rw [cspSfpSendLoop_end _ (Nat.not_lt.mp hlt)] at hp
      cases hp

/-! ## Any sequence of pieces -/

/-- The memory `m` is as long as the data, and begins with their first `n` bytes. -/
structure Memory.Begins (m : Memory) (data : List UInt8) (n : Nat) : Prop where
  size : m.size = data.length
  bytes : ∀ i < n, m.bytes i = data.getD i 0

/-- The first `n` bytes of the data are in their place. -/
def SfpRx.Filled (s : SfpRx) (data : List UInt8) (n : Nat) : Prop :=
  (s.dataout = none ∧ n = 0) ∨ ∃ m, s.dataout = some m ∧ m.Begins data n

variable (mtu) in
/-- A piece that leaves no hole. -/
theorem Memory.Begins.write {m : Memory} {c n : Nat} (hm : m.Begins data n) (hc : c ≤ n)
    (hlt : c < data.length) :
    ∃ m', m.write c ((data.drop c).take (min (data.length - c) mtu)) = some m' ∧
      m'.Begins data (max n (c + min (data.length - c) mtu)) := by
  have hroom : c + ((data.drop c).take (min (data.length - c) mtu)).length ≤ m.size := by
    rw [List.length_take, List.length_drop, hm.size]
    omega
  rw [Memory.write, if_pos hroom]
  refine ⟨_, rfl, hm.size, fun i hi => ?_⟩
  dsimp only
  by_cases hci : c ≤ i
  · rw [if_pos hci, List.getD_eq_getElem?_getD, List.getElem?_take]
    by_cases hsize : i - c < min (data.length - c) mtu
    · have hlt : i < data.length := by omega
      rw [if_pos hsize, List.getElem?_drop, Nat.add_sub_cancel' hci, List.getElem?_eq_getElem hlt,
        List.getD_eq_getElem?_getD, List.getElem?_eq_getElem hlt]
      rfl
    · rw [if_neg hsize]
      exact hm.bytes i (by omega)
  · rw [if_neg hci]
    exact hm.bytes i (by omega)

variable (malloc) in
/-- **One piece** that leaves no hole: the receiver is done, or goes on with more bytes in their place,
unless there is no memory. -/
theorem cspSfpRecv_piece (packets : List SfpPacket) (hlen : data.length < 2 ^ 31) {s : SfpRx}
    {n c : Nat} {p : SfpPacket} (hpiece : sfpPiece data mtu c = some p) (hs : s.Filled data n)
    (hc : c ≤ n) (hlt : c < data.length) (hlast : c ≤ s.lastByte.toNat + 1)
    (hbound : s.lastByte.toNat ≤ data.length) :
    (malloc (UInt32.ofNat data.length) = none ∧
        (cspSfpRecv malloc s (p :: packets)).2 = .error (-1)) ∨
      ∃ s' : SfpRx, s'.Filled data (max n (c + min (data.length - c) mtu)) ∧
        s'.lastByte.toNat = c + min (data.length - c) mtu ∧
        s'.datasize = UInt32.ofNat data.length ∧
        cspSfpRecv malloc s (p :: packets) =
          if data.length ≤ c + min (data.length - c) mtu then (s', .ok packets)
          else cspSfpRecv malloc s' packets := by
  have hoffset : (UInt32.ofNat c).toNat = c := by rw [UInt32.toNat_ofNat']; omega
  have htotal : (UInt32.ofNat data.length).toNat = data.length := by rw [UInt32.toNat_ofNat']; omega
  have hsize : ((data.drop c).take (min (data.length - c) mtu)).length
      = min (data.length - c) mtu := by
    rw [List.length_take, List.length_drop]
    omega
  have hend : (UInt32.ofNat c + UInt32.ofNat (min (data.length - c) mtu)).toNat
      = c + min (data.length - c) mtu := by
    rw [UInt32.toNat_add, UInt32.toNat_ofNat', UInt32.toNat_ofNat']
    omega
  have hnohole : ¬ UInt32.ofNat c > s.lastByte + 1 := by
    have hone : (s.lastByte + 1).toNat = s.lastByte.toNat + 1 := by
      rw [UInt32.toNat_add]
      show (_ + 1) % _ = _
      omega
    rw [gt_iff_lt, UInt32.lt_iff_toNat_lt, hone, hoffset]
    omega
  have hcomplete : UInt32.ofNat c + UInt32.ofNat (min (data.length - c) mtu)
      ≥ UInt32.ofNat data.length ↔ data.length ≤ c + min (data.length - c) mtu := by
    rw [ge_iff_le, UInt32.le_iff_toNat_le, hend, htotal]
  obtain ⟨hffrag, hremove⟩ := cspSfpHeaderRemove_sfpPiece hpiece
  rw [cspSfpRecv, hffrag, hremove]
  simp only [Bool.not_true, Bool.false_eq_true, if_false, hsize, hnohole, hoffset, htotal, hcomplete]
  rcases hs with ⟨hnone, rfl⟩ | ⟨m, hm, hbegins⟩
  · rw [hnone, Option.none_or]
    cases hmalloc : malloc (UInt32.ofNat data.length) with
    | none => exact .inl ⟨rfl, rfl⟩
    | some bytes =>
      have hfresh : (Memory.mk data.length bytes).Begins data 0 :=
        ⟨rfl, fun i hi => absurd hi (Nat.not_lt_zero i)⟩
      obtain ⟨m', hwrite, hbegins⟩ := hfresh.write mtu hc hlt
      simp only [Option.map_some, hwrite]
      exact .inr ⟨_, .inr ⟨m', rfl, hbegins⟩, hend, rfl, rfl⟩
  · obtain ⟨m', hwrite, hmore⟩ := hbegins.write mtu hc hlt
    rw [hm]
    simp only [Option.some_or, hwrite]
    exact .inr ⟨_, .inr ⟨m', rfl, hmore⟩, hend, rfl, rfl⟩

/-- The memory that was allocated holds the data and nothing else, and the receiver says how many
bytes these are. -/
def SfpRx.Complete (s : SfpRx) (data : List UInt8) : Prop :=
  s.datasize = UInt32.ofNat data.length ∧ ∃ m, s.dataout = some m ∧ m.Begins data data.length

theorem SfpRx.Filled.complete {s : SfpRx} (h : s.Filled data data.length) (hne : data ≠ [])
    (hsize : s.datasize = UInt32.ofNat data.length) : s.Complete data :=
  ⟨hsize, h.resolve_left fun hnone => hne (List.length_eq_zero_iff.mp hnone.2)⟩

theorem cspSfpRecv_of_pieces (hmtu : 2 ≤ mtu) (hlen : data.length < 2 ^ 31) {s : SfpRx} {n : Nat}
    (hs : s.Filled data n) (hln : s.lastByte.toNat ≤ n) (hn : n ≤ data.length)
    (hlast : s.lastByte.toNat % mtu = 0) {packets rest : List SfpPacket}
    (hpackets : ∀ p ∈ packets, ∃ c, c % mtu = 0 ∧ c < data.length ∧ sfpPiece data mtu c = some p)
    (hdone : (cspSfpRecv malloc s packets).2 = .ok rest) :
    (cspSfpRecv malloc s packets).1.Complete data := by
  induction packets generalizing s n with
  | nil => cases hdone
  | cons p packets ih =>
    rw [List.forall_mem_cons] at hpackets
    obtain ⟨⟨c, hc, hlt, hpiece⟩, hrest⟩ := hpackets
    have hne : data ≠ [] := List.ne_nil_of_length_pos (Nat.zero_lt_of_lt hlt)
    by_cases hhole : s.lastByte.toNat + 1 < c
    · -- the receiver gives up
      have hgt : UInt32.ofNat c > s.lastByte + 1 := by
        rw [gt_iff_lt, UInt32.lt_iff_toNat_lt, UInt32.toNat_add, UInt32.toNat_ofNat']
        show (_ + 1) % _ < _
        omega
      obtain ⟨hffrag, hremove⟩ := cspSfpHeaderRemove_sfpPiece hpiece
      rw [cspSfpRecv, hffrag, hremove] at hdone
      simp only [Bool.not_true, Bool.false_eq_true, if_false, if_pos hgt] at hdone
      cases hdone
    have hle : c ≤ s.lastByte.toNat := by
      by_contra hgt
      have heq : c = s.lastByte.toNat + 1 := by omega
      -- both are multiples of the size of a piece
      rw [heq, Nat.add_mod, hlast, Nat.zero_add, Nat.mod_mod, Nat.mod_eq_of_lt hmtu] at hc
      cases hc
    obtain ⟨-, herror⟩ | ⟨s', hfilled, hlast', hsize, heq⟩ := cspSfpRecv_piece malloc packets
      hlen hpiece hs (hle.trans hln) hlt (hle.trans (Nat.le_succ _)) (hln.trans hn)
    · rw [herror] at hdone
      cases hdone
    · rw [heq] at hdone ⊢
      split_ifs at hdone ⊢ with hcomplete
      · rw [Nat.max_eq_right (by omega), Nat.le_antisymm (by omega) hcomplete] at hfilled
        exact hfilled.complete hne hsize
      · have hfull : min (data.length - c) mtu = mtu := by omega
        refine ih hfilled ?_ ?_ ?_ hrest hdone
        · rw [hlast']
          exact Nat.le_max_right _ _
        · omega
        · rw [hlast', hfull, Nat.add_mod_right]
          exact hc

/-- **What is complete is right.** The packets may be pieces of the data in any order, some of them
missing and some of them several times; if the receiver says that the data are complete, they are
all in memory. Pieces of a single byte are excluded: the receiver lets a hole of one byte pass. -/
theorem sfp_never_mixes (hmtu : 2 ≤ mtu) (hlen : data.length < 2 ^ 31)
    {packets rest : List SfpPacket} (hpackets : ∀ p ∈ packets, p ∈ (cspSfpSend gets takes data mtu).1)
    (hdone : (cspSfpRecv malloc sfpStart packets).2 = .ok rest) :
    (cspSfpRecv malloc sfpStart packets).1.Complete data :=
  cspSfpRecv_of_pieces hmtu hlen (n := 0) (.inl ⟨rfl, rfl⟩) le_rfl (Nat.zero_le _) (Nat.zero_mod _)
    (fun p hp => mem_cspSfpSendLoop (Nat.zero_mod _) (hpackets p hp)) hdone

/-- The first piece comes twice. -/
theorem sfp_never_mixes_twice :
    let pieces := [0, 0, 2].filterMap (sfpPiece [1, 2, 3] 2)
    (cspSfpRecv (fun _ => some fun _ => 0) sfpStart pieces).1.Complete [1, 2, 3] := by
  intro pieces
  have hpackets : ∀ p ∈ pieces, p ∈ (cspSfpSend (fun _ => true) (fun _ => true) [1, 2, 3] 2).1 := by
    decide
  have hdone : (cspSfpRecv (fun _ => some fun _ => 0) sfpStart pieces).2 = .ok [] := by decide
  exact sfp_never_mixes (by decide) (by decide) hpackets hdone

/-- The piece in the middle is missing, and its byte is what was in memory. -/
example :
    let s := cspSfpRecv (fun _ => some fun _ => 7) sfpStart ([0, 2].filterMap (sfpPiece [1, 2, 3] 1))
    s.2 = .ok [] ∧ s.1.dataout.map (fun m => m.bytes 1) = some 7 := by decide

/-! ## All pieces in order -/

theorem cspSfpSendLoop_ne_overrun (hfits : mtu + sfpHeaderSize ≤ cspBufferSize) (rounds count : Nat) :
    (cspSfpSendLoop gets takes data mtu rounds count).2 ≠ .overrun := by
  induction rounds generalizing count with
  | zero =>
    rw [cspSfpSendLoop]
    split_ifs <;> exact nofun
  | succ rounds ih =>
    by_cases hlt : count < data.length
    · rcases cspSfpSendLoop_succ rounds hlt with heq | ⟨hnone, _⟩ | ⟨_, _, heq⟩
      · rw [heq]
        exact nofun
      · obtain ⟨p, hp⟩ := exists_sfpPiece hfits count
        rw [hnone] at hp
        cases hp
      · rw [heq]
        exact ih _
    · rw [cspSfpSendLoop_end _ (Nat.not_lt.mp hlt)]
      exact nofun

theorem cspSfpRecv_loop (hmtu : 0 < mtu) (hlen : data.length < 2 ^ 31)
    (hmalloc : ∀ n, (malloc n).isSome = true) {s : SfpRx} {rounds count : Nat}
    {more : List SfpPacket} (hs : s.Filled data count) (hlast : s.lastByte.toNat = count)
    (hlt : count < data.length)
    (hsent : (cspSfpSendLoop gets takes data mtu rounds count).2 = .ok ()) :
    ∃ s' : SfpRx, cspSfpRecv malloc s ((cspSfpSendLoop gets takes data mtu rounds count).1 ++ more)
      = (s', .ok more) ∧ s'.Complete data := by
  induction rounds generalizing s count with
  | zero =>
    rw [cspSfpSendLoop, if_neg (Nat.not_le.mpr hlt)] at hsent
    cases hsent
  | succ rounds ih =>
    have hne : data ≠ [] := List.ne_nil_of_length_pos (Nat.zero_lt_of_lt hlt)
    rcases cspSfpSendLoop_succ rounds hlt with hround | ⟨_, hround⟩ | ⟨p, hpiece, hround⟩
    · rw [hround] at hsent
      cases hsent
    · rw [hround] at hsent
      cases hsent
    · rw [hround] at hsent ⊢
      dsimp only at hsent ⊢
      rw [List.cons_append]
      obtain ⟨hnone, -⟩ | ⟨s', hfilled, hlast', hsize, heq⟩ := cspSfpRecv_piece malloc
        ((cspSfpSendLoop gets takes data mtu rounds (count + min (data.length - count) mtu)).1 ++ more)
        hlen hpiece hs le_rfl hlt (by omega) (by omega)
      · have := hmalloc (UInt32.ofNat data.length)
        rw [hnone] at this
        cases this
      · rw [Nat.max_eq_right (by omega)] at hfilled
        rw [heq]
        split_ifs with hcomplete
        · -- the sender was at its end too
          rw [Nat.le_antisymm (by omega) hcomplete] at hfilled
          rw [cspSfpSendLoop_end _ hcomplete]
          exact ⟨s', rfl, hfilled.complete hne hsize⟩
        · exact ih hfilled hlast' (Nat.lt_of_not_le hcomplete) hsent

/-- With the longest MTU that `csp_buffer_get` takes, the header leaves the packet. -/
example (data : List UInt8) (h : data.length = 1024) :
    cspSfpSend (fun _ => true) (fun _ => true) data 1024 = ([], .overrun) := by
  have hnone : sfpPiece data 1024 0 = none := by
    simp [sfpPiece, cspSfpHeaderAdd, h, sfpHeaderSize, cspBufferSize]
  rw [cspSfpSend, h, cspSfpSendLoop, if_pos (by omega), if_neg (by decide), hnone]

end

end CspTerm.Csp
