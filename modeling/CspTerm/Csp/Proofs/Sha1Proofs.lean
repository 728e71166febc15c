import CspTerm.Csp.Sha1

/-!
# The hash computes SHA-1

The loops of five steps are the steps of the standard, and the hash of a message does not depend on
how the message was cut into pieces.
-/

namespace CspTerm.Csp

/-! ## Words -/

theorem rol_one (x : UInt32) : rol x 1 = Sha1.rotl 1 x := by
  apply UInt32.eq_of_toBitVec_eq
  simp [rol, Sha1.rotl, BitVec.rotateLeft_def]

theorem rol_five (x : UInt32) : rol x 5 = Sha1.rotl 5 x := by
  apply UInt32.eq_of_toBitVec_eq
  simp [rol, Sha1.rotl, BitVec.rotateLeft_def]

theorem rol_thirty (x : UInt32) : rol x 30 = Sha1.rotl 30 x := by
  apply UInt32.eq_of_toBitVec_eq
  simp [rol, Sha1.rotl, BitVec.rotateLeft_def]

theorem load32h_eq (buf : List UInt8) (t : Nat) : load32h buf (4 * t) = Sha1.word buf t := by
  apply UInt32.eq_of_toBitVec_eq
  apply BitVec.eq_of_getLsbD_eq
  intro i hi
  show _ = BitVec.getLsbD (w := 8 + 8 + 8 + 8) (_ ++ _) i
  rw [BitVec.getLsbD_append, BitVec.getLsbD_append, BitVec.getLsbD_append]
  interval_cases i <;> simp [load32h]

theorem store32h_eq (x : UInt32) : store32h x = Sha1.bigEndian 4 x.toNat := by
  simp [store32h, Sha1.bigEndian, List.range_succ, ← UInt8.toNat_inj, Nat.shiftRight_eq_div_pow]

theorem storeWords_eq : storeWords = Sha1.digest := by
  funext s
  simp only [storeWords, Sha1.digest, store32h_eq]

theorem store64h_eq (x : UInt64) : store64h x = Sha1.bigEndian 8 x.toNat := by
  simp [store64h, Sha1.bigEndian, List.range_succ, ← UInt8.toNat_inj, Nat.shiftRight_eq_div_pow]

theorem f0_eq : f0 = Sha1.ch := by
  funext x y z
  apply UInt32.eq_of_toBitVec_eq
  apply BitVec.eq_of_getLsbD_eq
  intro i hi
  simp only [f0, Sha1.ch, UInt32.toBitVec_xor, UInt32.toBitVec_and, UInt32.toBitVec_not,
    BitVec.getLsbD_xor, BitVec.getLsbD_and, BitVec.getLsbD_not, hi, decide_true, Bool.true_and]
  cases x.toBitVec.getLsbD i <;> cases z.toBitVec.getLsbD i <;> simp

theorem f2_eq : f2 = Sha1.maj := by
  funext x y z
  apply UInt32.eq_of_toBitVec_eq
  apply BitVec.eq_of_getLsbD_eq
  intro i _
  simp only [f2, Sha1.maj, UInt32.toBitVec_xor, UInt32.toBitVec_and, UInt32.toBitVec_or,
    BitVec.getLsbD_xor, BitVec.getLsbD_and, BitVec.getLsbD_or]
  cases x.toBitVec.getLsbD i <;> cases y.toBitVec.getLsbD i <;> simp

/-! ## Compression -/

/-- **The loop fills in the schedule.** -/
theorem expand_eq (buf : List UInt8) (i : Nat) :
    expand buf i = (List.range (16 + i)).map (Sha1.schedule buf) := by
  induction i with
  | zero =>
    rw [expand]
    apply List.map_congr_left
    intro t ht
    rw [Sha1.schedule, if_pos (List.mem_range.mp ht), load32h_eq]
  | succ i ih =>
    have hget (t : Nat) (ht : t < 16 + i) : (expand buf i).getD t 0 = Sha1.schedule buf t := by
      rw [ih, List.getD_eq_getElem?_getD, List.getElem?_map, List.getElem?_range ht]
      rfl
    have hnext : Sha1.schedule buf (16 + i) = Sha1.rotl 1 (Sha1.schedule buf (i + 13) ^^^
        Sha1.schedule buf (i + 8) ^^^ Sha1.schedule buf (i + 2) ^^^ Sha1.schedule buf i) := by
      rw [Sha1.schedule, if_neg (by omega), show 16 + i - 3 = i + 13 by omega,
        show 16 + i - 8 = i + 8 by omega, show 16 + i - 14 = i + 2 by omega,
        show 16 + i - 16 = i by omega]
    rw [expand, hget _ (by omega), hget _ (by omega), hget _ (by omega), hget _ (by omega), rol_one,
      ← hnext, ← Nat.add_assoc, List.range_succ, List.map_append, ← ih]
    rfl

theorem getD_expand (buf : List UInt8) {t : Nat} (h : t < 80) :
    (expand buf 64).getD t 0 = Sha1.schedule buf t := by
  rw [expand_eq, List.getD_eq_getElem?_getD, List.getElem?_map, List.getElem?_range h]
  rfl

/-- The steps from `i` on use `f` and `k`. -/
structure Uses (f : UInt32 → UInt32 → UInt32 → UInt32) (k : UInt32) (i n : Nat) : Prop where
  function : ∀ t, i ≤ t → t < i + n → Sha1.function t = f
  constant : ∀ t, i ≤ t → t < i + n → Sha1.constant t = k
  bounded : i + n ≤ 80

/-- A step in the words of the source. -/
theorem step_eq {f : UInt32 → UInt32 → UInt32 → UInt32} {k : UInt32} {i n t : Nat}
    (h : Uses f k i n) (hi : i ≤ t) (hn : t < i + n) (buf : List UInt8) (s : Sha1Words) :
    Sha1.step buf t s
      = { a := (ff f k ((expand buf 64).getD t 0) s.a s.b s.c s.d s.e).1
          b := s.a
          c := (ff f k ((expand buf 64).getD t 0) s.a s.b s.c s.d s.e).2
          d := s.c
          e := s.d } := by
  have hbound := h.bounded
  rw [Sha1.step, ff, getD_expand _ (by omega), h.function t hi hn, h.constant t hi hn, rol_five,
    rol_thirty]
  congr 1
  rw [UInt32.add_assoc, UInt32.add_comm k, ← UInt32.add_assoc]

/-- **Five steps bring each variable back to its place.** -/
theorem fiveSteps_eq {f : UInt32 → UInt32 → UInt32 → UInt32} {k : UInt32} {i : Nat}
    (h : Uses f k i 5) (buf : List UInt8) (s : Sha1Words) :
    fiveSteps f k (expand buf 64) i (Sha1.steps buf s i) = Sha1.steps buf s (i + 5) := by
  simp only [Sha1.steps]
  rw [step_eq h (by omega) (by omega), step_eq h (by omega) (by omega),
    step_eq h (by omega) (by omega), step_eq h (by omega) (by omega),
    step_eq h (by omega) (by omega)]
  rfl

theorem Uses.sub {f : UInt32 → UInt32 → UInt32 → UInt32} {k : UInt32} {i n j m : Nat}
    (h : Uses f k i n) (hi : i ≤ j) (hm : j + m ≤ i + n) : Uses f k j m where
  function t h1 h2 := h.function t (by omega) (by omega)
  constant t h1 h2 := h.constant t (by omega) (by omega)
  bounded := hm.trans h.bounded

theorem round_eq {f : UInt32 → UInt32 → UInt32 → UInt32} {k : UInt32} {i : Nat}
    (h : Uses f k i 20) (buf : List UInt8) (s : Sha1Words) :
    round f k (expand buf 64) i (Sha1.steps buf s i) = Sha1.steps buf s (i + 20) := by
  rw [round, fiveSteps_eq (h.sub (by omega) (by omega)), fiveSteps_eq (h.sub (by omega) (by omega)),
    fiveSteps_eq (h.sub (by omega) (by omega)), fiveSteps_eq (h.sub (by omega) (by omega))]

theorem uses_f0 : Uses f0 0x5a827999 0 20 where
  function t _ h := by rw [Sha1.function, if_pos (by omega), f0_eq]
  constant t _ h := by rw [Sha1.constant, if_pos (by omega)]
  bounded := by omega

theorem uses_f1 : Uses f1 0x6ed9eba1 20 20 where
  function t _ h := by rw [Sha1.function, if_neg (by omega), if_pos (by omega)]; rfl
  constant t _ h := by rw [Sha1.constant, if_neg (by omega), if_pos (by omega)]
  bounded := by omega

theorem uses_f2 : Uses f2 0x8f1bbcdc 40 20 where
  function t _ h := by
    rw [Sha1.function, if_neg (by omega), if_neg (by omega), if_pos (by omega), f2_eq]
  constant t _ h := by
    rw [Sha1.constant, if_neg (by omega), if_neg (by omega), if_pos (by omega)]
  bounded := by omega

theorem uses_f3 : Uses f3 0xca62c1d6 60 20 where
  function t _ h := by
    rw [Sha1.function, if_neg (by omega), if_neg (by omega), if_neg (by omega)]; rfl
  constant t _ h := by
    rw [Sha1.constant, if_neg (by omega), if_neg (by omega), if_neg (by omega)]
  bounded := by omega

theorem cspSha1Compress_eq : cspSha1Compress = Sha1.compress := by
  funext s buf
  have hrounds : round f3 0xca62c1d6 (expand buf 64) 60 (round f2 0x8f1bbcdc (expand buf 64) 40
      (round f1 0x6ed9eba1 (expand buf 64) 20 (round f0 0x5a827999 (expand buf 64) 0 s)))
        = Sha1.steps buf s 80 := by
    rw [show s = Sha1.steps buf s 0 from rfl, round_eq uses_f0, round_eq uses_f1, round_eq uses_f2,
      round_eq uses_f3]
    rfl
  rw [cspSha1Compress, Sha1.compress, hrounds]

/-! ## Messages in pieces -/

/-- What a state says about the message so far. -/
def CspSha1State.progress (sha1 : CspSha1State) : BlockStream.Progress UInt8 Sha1.Words :=
  ⟨sha1.state, sha1.buf⟩

/-- The number of bits that a state has taken in. -/
def CspSha1State.bits (sha1 : CspSha1State) : UInt64 :=
  sha1.length + UInt64.ofNat (sha1.curlen * 8)

theorem add_uInt64_ofNat (x : UInt64) (a b : Nat) :
    x + UInt64.ofNat a + UInt64.ofNat b = x + UInt64.ofNat (a + b) := by
  rw [UInt64.ofNat_add, UInt64.add_assoc]

theorem CspSha1State.bits_compress {sha1 : CspSha1State} {n : Nat}
    (h : sha1.curlen + n = sha1BlockSize) (block : List UInt8) :
    (sha1.compress block).bits = sha1.bits + UInt64.ofNat (8 * n) := by
  have hlength := sha1.length.toNat_lt
  apply UInt64.toNat_inj.mp
  simp only [CspSha1State.bits, CspSha1State.compress, CspSha1State.curlen, List.length_nil,
    UInt64.toNat_add, UInt64.toNat_mul, UInt64.toNat_ofNat'] at *
  simp only [UInt64.toNat_ofNat]
  omega

/-- **A piece of a message**: whole blocks are taken at once, the rest goes through the buffer. -/
theorem cspSha1Process_spec (sha1 : CspSha1State) (data : List UInt8) :
    (cspSha1Process sha1 data).progress
        = BlockStream.feed sha1BlockSize Sha1.compress sha1.progress data ∧
      (cspSha1Process sha1 data).bits = sha1.bits + UInt64.ofNat (8 * data.length) := by
  fun_induction cspSha1Process sha1 data with
  | case1 sha1 => exact ⟨rfl, by simp⟩
  | case2 sha1 data _ hblock ih =>
    have htake : (data.take sha1BlockSize).length = sha1BlockSize := by
      rw [List.length_take, Nat.min_eq_left hblock.2]
    have hempty : sha1.buf = [] := List.length_eq_zero_iff.mp hblock.1
    refine ⟨?_, ?_⟩
    · have hfeed := BlockStream.feed_full Sha1.compress sha1.progress sha1.room
        (l := data.take sha1BlockSize) (by rw [htake, CspSha1State.progress, hempty]; rfl)
      conv_rhs => rw [← List.take_append_drop sha1BlockSize data, BlockStream.feed_append, hfeed]
      rw [ih.1]
      simp only [CspSha1State.progress, hempty, List.nil_append, CspSha1State.compress,
        cspSha1Compress_eq]
    · rw [ih.2, CspSha1State.bits_compress (n := sha1BlockSize) (by rw [hblock.1, Nat.zero_add]),
        add_uInt64_ofNat, List.length_drop, ← Nat.mul_add, Nat.add_sub_cancel' hblock.2]
  | case3 sha1 data _ hblock n _ buf hfull ih =>
    have htake : (data.take n).length = n := by rw [List.length_take]; omega
    have hlen : sha1.curlen + n = sha1BlockSize := by
      rw [← hfull, List.length_append, htake, CspSha1State.curlen]
    refine ⟨?_, ?_⟩
    · have hfeed := BlockStream.feed_full Sha1.compress sha1.progress sha1.room
        (l := data.take n) (by rw [htake]; exact hlen)
      conv_rhs => rw [← List.take_append_drop n data, BlockStream.feed_append, hfeed]
      rw [ih.1]
      simp only [CspSha1State.progress, CspSha1State.compress, cspSha1Compress_eq, buf]
    · rw [ih.2, CspSha1State.bits_compress hlen, add_uInt64_ofNat, List.length_drop, ← Nat.mul_add,
        Nat.add_sub_cancel' (by omega)]
  | case4 sha1 data _ hblock n _ buf hfull ih =>
    have htake : (data.take n).length = n := by rw [List.length_take]; omega
    have hbuf : buf.length = sha1.curlen + n := by
      rw [List.length_append, htake, CspSha1State.curlen]
    refine ⟨?_, ?_⟩
    · have hfeed := BlockStream.feed_short Sha1.compress sha1.progress (l := data.take n)
        (n := sha1BlockSize) (by
          have hroom : sha1.curlen < sha1BlockSize := sha1.room
          rw [htake]
          show sha1.curlen + n < _
          omega)
      conv_rhs => rw [← List.take_append_drop n data, BlockStream.feed_append, hfeed]
      rw [ih.1]
      rfl
    · rw [ih.2, CspSha1State.bits, CspSha1State.bits, CspSha1State.curlen, hbuf, add_uInt64_ofNat,
        add_uInt64_ofNat, List.length_drop]
      congr 2
      omega

/-- The length at the end of the padding is that of the whole message. -/
theorem cspSha1Done_eq (sha1 : CspSha1State) :
    cspSha1Done sha1 = Sha1.digest (BlockStream.feed sha1BlockSize Sha1.compress sha1.progress
      ([0x80] ++ List.replicate (Sha1.zeros sha1.curlen) 0
        ++ Sha1.bigEndian 8 sha1.bits.toNat)).state := by
  have hroom : sha1.curlen < 64 := sha1.room
  have hbuf : (sha1.buf ++ [0x80]).length = sha1.curlen + 1 := by
    rw [List.length_append, CspSha1State.curlen]; rfl
  simp only [cspSha1Done, storeWords_eq, store64h_eq, cspSha1Compress_eq, hbuf]
  rw [← CspSha1State.bits]
  congr 1
  split
  · -- the padding fills this block and the next one
    have hzeros : Sha1.zeros sha1.curlen = (sha1BlockSize - (sha1.curlen + 1)) + 56 := by
      rw [Sha1.zeros, sha1BlockSize]; omega
    have hfirst := BlockStream.feed_full Sha1.compress sha1.progress sha1.room
      (l := [0x80] ++ List.replicate (sha1BlockSize - (sha1.curlen + 1)) 0) (by
        simp only [CspSha1State.progress, List.length_append, List.length_singleton,
          List.length_replicate, CspSha1State.curlen, sha1BlockSize] at *
        omega)
    have hsecond (state : Sha1.Words) := BlockStream.feed_full (n := sha1BlockSize) Sha1.compress
      ⟨state, []⟩ (l := List.replicate 56 0 ++ Sha1.bigEndian 8 sha1.bits.toNat)
      (Nat.zero_lt_succ _) (by simp [Sha1.length_bigEndian])
    rw [hzeros, List.replicate_add, ← List.append_assoc, List.append_assoc ([0x80] ++ _),
      BlockStream.feed_append, hfirst, hsecond, List.append_assoc sha1.buf]
    rfl
  · have hzeros : Sha1.zeros sha1.curlen = 56 - (sha1.curlen + 1) := by rw [Sha1.zeros]; omega
    rw [BlockStream.feed_full Sha1.compress sha1.progress sha1.room (by
      simp only [CspSha1State.progress, List.length_append, List.length_singleton, hzeros,
        List.length_replicate, CspSha1State.curlen, Sha1.length_bigEndian, sha1BlockSize] at *
      omega)]
    simp only [hbuf, hzeros, CspSha1State.progress, List.append_assoc]

theorem cspSha1_foldl (pieces : List (List UInt8)) (sha1 : CspSha1State) :
    (pieces.foldl cspSha1Process sha1).progress
        = BlockStream.feed sha1BlockSize Sha1.compress sha1.progress pieces.flatten ∧
      (pieces.foldl cspSha1Process sha1).bits
        = sha1.bits + UInt64.ofNat (8 * pieces.flatten.length) := by
  induction pieces generalizing sha1 with
  | nil => exact ⟨rfl, by simp⟩
  | cons data pieces ih =>
    obtain ⟨hprogress, hbits⟩ := cspSha1Process_spec sha1 data
    obtain ⟨hrest, hcount⟩ := ih (cspSha1Process sha1 data)
    rw [List.foldl_cons, List.flatten_cons]
    refine ⟨?_, ?_⟩
    · rw [hrest, hprogress, BlockStream.feed_append]
    · rw [hcount, hbits, add_uInt64_ofNat, List.length_append, Nat.mul_add]

/-- **A message may come in any pieces**: the hash is that of the message. -/
theorem cspSha1Done_pieces (pieces : List (List UInt8)) :
    cspSha1Done (pieces.foldl cspSha1Process cspSha1Init) = Sha1.hash pieces.flatten := by
  obtain ⟨hprogress, hbits⟩ := cspSha1_foldl pieces cspSha1Init
  generalize hend : pieces.foldl cspSha1Process cspSha1Init = sha1 at *
  generalize pieces.flatten = message at *
  have hcurlen : Sha1.zeros sha1.curlen = Sha1.zeros message.length := by
    have hwaiting := congrArg (fun p => p.waiting.length) hprogress
    rw [show cspSha1Init.progress = ⟨Sha1.initial, []⟩ from rfl,
      BlockStream.feed_eq Sha1.compress (by decide)] at hwaiting
    simp only [CspSha1State.progress, List.length_drop] at hwaiting
    simp only [Sha1.zeros, CspSha1State.curlen, hwaiting, sha1BlockSize]
    omega
  have hlength : Sha1.bigEndian 8 sha1.bits.toNat = Sha1.bigEndian 8 (8 * message.length) := by
    rw [hbits, ← Sha1.bigEndian_mod 8 (8 * message.length)]
    simp [CspSha1State.bits, cspSha1Init, CspSha1State.curlen]
  rw [cspSha1Done_eq, hprogress, hcurlen, hlength, ← BlockStream.feed_append, ← List.append_assoc,
    ← List.append_assoc, ← Sha1.pad]
  rw [show cspSha1Init.progress = ⟨Sha1.initial, []⟩ from rfl,
    BlockStream.feed_eq_of_dvd Sha1.compress (by decide) _ (Sha1.dvd_length_pad message)]
  rfl

theorem cspSha1Memory_eq (msg : List UInt8) : cspSha1Memory msg = Sha1.hash msg := by
  simpa [cspSha1Memory] using cspSha1Done_pieces [msg]

/-! ## Authentication codes -/

theorem HmacState.foldl_process (hmac : HmacState) (pieces : List (List UInt8)) :
    pieces.foldl cspHmacProcess hmac
      = { hmac with md := pieces.foldl cspSha1Process hmac.md } := by
  induction pieces generalizing hmac with
  | nil => rfl
  | cons data pieces ih => rw [List.foldl_cons, ih, List.foldl_cons]; rfl

theorem cspHmacInit_done {key : List UInt8} (h : key ≠ []) (pieces : List (List UInt8)) :
    ∃ hmac, cspHmacInit key = some hmac ∧ cspHmacDone (pieces.foldl cspHmacProcess hmac)
      = Sha1.hmac Sha1.hash sha1BlockSize key pieces.flatten := by
  have hlen : ¬ key.length < 1 := by
    have := List.length_pos_iff.mpr h
    omega
  have hinner (k : List UInt8) := cspSha1Done_pieces (k :: pieces)
  have houter (k isha : List UInt8) := cspSha1Done_pieces [k, isha]
  simp only [List.foldl_cons, List.foldl_nil, List.flatten_cons, List.flatten_nil,
    List.append_nil] at hinner houter
  refine ⟨_, by rw [cspHmacInit, if_neg hlen], ?_⟩
  rw [HmacState.foldl_process, cspHmacDone]
  simp only [hinner, houter, cspSha1Memory_eq, gt_iff_lt]
  rfl

theorem cspHmacMemory_eq {key : List UInt8} (h : key ≠ []) (data : List UInt8) :
    cspHmacMemory key data = some (Sha1.hmac Sha1.hash sha1BlockSize key data) := by
  obtain ⟨hmac, hinit, hdone⟩ := cspHmacInit_done h [data]
  rw [List.flatten_cons, List.flatten_nil, List.append_nil] at hdone
  rw [cspHmacMemory, hinit, ← hdone]
  rfl

/-- **The authentication code** of a message in any pieces is the hash of a hash, each behind its own
key. An empty key is refused. -/
theorem cspHmac_pieces (key : List UInt8) (pieces : List (List UInt8)) :
    (cspHmacInit key).map (fun hmac => cspHmacDone (pieces.foldl cspHmacProcess hmac))
      = if key = [] then none
        else some (Sha1.hmac Sha1.hash sha1BlockSize key pieces.flatten) := by
  split
  · next hkey =>
    subst hkey
    rfl
  · next hkey =>
    obtain ⟨hmac, hinit, hdone⟩ := cspHmacInit_done hkey pieces
    rw [hinit, Option.map_some, hdone]

end CspTerm.Csp
