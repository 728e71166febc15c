import CspTerm.Csp.Proofs.CanProofs

/-!
# What the CAN interface never does

Frames may be lost, repeated and reordered, and the receiver may run out of elements or buffers: what
it delivers is a packet that was sent. Frames that no one sent do no more than fill an element.
-/

namespace CspTerm.Csp

/-! ## Frames of packets -/

/-- A frame of the packet: the first one, or one for the bytes from `c` on. -/
inductive IsFrameOf (conn : CfpConn) (p : CspPacket) : CanFrame → Prop
  | begin : IsFrameOf conn p (canBeginFrame conn p)
  | more (c : Nat) (hc : c % 8 = 2) (hlt : c < p.length.toNat) : IsFrameOf conn p (canMoreFrame conn p c)

theorem isFrameOf_of_mem_cspCanTxMore {conn : CfpConn} {p : CspPacket} {frame : CanFrame}
    {rounds c : Nat} (hc : c < p.length.toNat → c % 8 = 2)
    (h : frame ∈ cspCanTxMore conn p rounds c) : IsFrameOf conn p frame := by
  induction rounds generalizing c with
  | zero => cases h
  | succ rounds ih =>
    by_cases hlt : c < p.length.toNat
    · rw [cspCanTxMore, if_pos hlt] at h
      rcases List.mem_cons.mp h with rfl | h
      · exact .more c (hc hlt) hlt
      · have := hc hlt
        exact ih (by omega) h
    · rw [cspCanTxMore, if_neg hlt] at h
      cases h

theorem CanTransmission.isFrameOf {t : CanTransmission} {frame : CanFrame} (h : frame ∈ t.frames) :
    IsFrameOf t.conn t.packet frame := by
  rcases List.mem_cons.mp h with rfl | h
  · exact .begin
  · exact isFrameOf_of_mem_cspCanTxMore (by omega) h

theorem IsFrameOf.conn {conn : CfpConn} {p : CspPacket} {frame : CanFrame}
    (h : IsFrameOf conn p frame) : frame.id.conn = conn := by
  cases h <;> rfl

/-! ## Frames out of order -/

/-- A MORE frame that is not the next one frees the element. -/
theorem canRun_moreFrame_of_ne {p : CspPacket} {c c' : Nat} {e : PbufElement} {input : CanInput}
    {conn : CfpConn} (hp : p.length.toNat ≤ cspBufferSize) (he : Partway p c e) (hc : c % 8 = 2)
    (hc' : c' % 8 = 2) (hlt : c' < p.length.toNat) (hne : c' ≠ c)
    (hframe : input.frame = canMoreFrame conn p c') : canRun (some e) input = (none, none) := by
  obtain ⟨-, hlt', hremain, q, hpacket, -⟩ := he
  have hsize : cspBufferSize = 1024 := rfl
  have htype : input.frame.id.type = .more := by rw [hframe]; rfl
  have hval : input.frame.id.remain.val = (p.length.toNat - c' - min 8 (p.length.toNat - c') + 7) / 8 := by
    rw [hframe]
    exact cfpRemain_val (by omega)
  have hmismatch : UInt32.ofNat input.frame.id.remain.val ≠ e.remain - 1 := by
    intro h
    have hone : (1 : UInt32) ≤ e.remain := by
      rw [UInt32.le_iff_toNat_le, hremain]
      show 1 ≤ _
      omega
    have h := congrArg UInt32.toNat h
    rw [UInt32.toNat_sub_of_le _ _ hone, UInt32.toNat_ofNat', hval, hremain] at h
    change _ % _ = _ / 8 - 1 at h
    omega
  have hswitch : canSwitch { e with lastUsed := input.now } input = .dropped 1 := by
    simp only [canSwitch, htype, hpacket]
    rw [canData, if_pos hmismatch]
    rfl
  rw [canRun_some, hswitch]
  rfl

/-- A BEGIN frame for which there is no buffer. -/
theorem canRun_beginFrame_of_none {p : CspPacket} {input : CanInput} {conn : CfpConn}
    (hframe : input.frame = canBeginFrame conn p) (hbuffer : input.buffer = none) :
    canRun none input = (none, none) := by
  have htype : input.frame.id.type = .begin := by rw [hframe]; rfl
  have hswitch : canSwitch (pbufNew input) input = .dropped 1 := by
    simp only [canSwitch, htype, canBegin, pbufNew, hbuffer, Option.or_none, ite_self]
  rw [canRun_begin htype, hswitch]
  rfl

/-- Any frame of a packet, when some or none of its bytes are there. -/
theorem canRun_isFrameOf {p : CspPacket} {conn : CfpConn} {o : Option PbufElement} {input : CanInput}
    (hp : p.length.toNat ≤ cspBufferSize) (hframe : IsFrameOf conn p input.frame)
    (ho : ∀ e, o = some e → ∃ c, c % 8 = 2 ∧ Partway p c e) :
    (∃ e, canRun o input = (some e, none) ∧ ∃ c, c % 8 = 2 ∧ Partway p c e) ∨
      (∃ q, canRun o input = (none, some q) ∧ q.view = p.view) ∨ canRun o input = (none, none) := by
  generalize hf : input.frame = frame at hframe
  cases hframe with
  | begin =>
    by_cases hbuffer : ((o.bind PbufElement.packet).or input.buffer).isSome = true
    · obtain ⟨hmore, hlast⟩ := canRun_beginFrame hp hf hbuffer
      by_cases hlt : 2 < p.length.toNat
      · obtain ⟨e, hrun, he⟩ := hmore hlt
        exact .inl ⟨e, hrun, 2, rfl, he⟩
      · exact .inr (.inl (hlast (by omega)))
    · -- an element always has a packet, so there is none
      refine .inr (.inr ?_)
      rcases o with _ | e
      · refine canRun_beginFrame_of_none hf ?_
        simpa using hbuffer
      · obtain ⟨c, -, he⟩ := ho e rfl
        obtain ⟨q, hq, -⟩ := he.packet
        simp [hq] at hbuffer
  | more c' hc' hlt' =>
    rcases o with _ | e
    · exact .inr (.inr (canRun_more (by rw [hf]; rfl)))
    · obtain ⟨c, hc, he⟩ := ho e rfl
      by_cases heq : c' = c
      · subst heq
        obtain ⟨hmore, hlast⟩ := canRun_moreFrame hp he hf
        by_cases hlt : c' + 8 < p.length.toNat
        · obtain ⟨e', hrun, he'⟩ := hmore hlt
          exact .inl ⟨e', hrun, c' + 8, by omega, he'⟩
        · exact .inr (.inl (hlast (by omega)))
      · exact .inr (.inr (canRun_moreFrame_of_ne hp he hc hc' hlt' heq hf))

/-! ## Loss, repetition and reordering -/

/-- The element has the first bytes of a packet that was sent under its identifiers. -/
def PbufElement.IsOf (sent : List CanTransmission) (e : PbufElement) : Prop :=
  ∃ t ∈ sent, t.conn = e.cfpid.conn ∧ ∃ c, c % 8 = 2 ∧ Partway t.packet c e

/-- What a frame does to an element that has part of a packet that was sent. -/
theorem canRun_isOf {sent : List CanTransmission} {o : Option PbufElement} {input : CanInput}
    {t : CanTransmission} (hp : t.packet.length.toNat ≤ cspBufferSize)
    (ht : t ∈ sent) (hunique : ∀ u ∈ sent, u.conn = t.conn → u = t)
    (hframe : IsFrameOf t.conn t.packet input.frame)
    (ho : ∀ e, o = some e → e.IsOf sent ∧ e.cfpid.conn = input.frame.id.conn) :
    (∀ e, (canRun o input).1 = some e → e.IsOf sent) ∧
      ∀ q, (canRun o input).2 = some q → q.view = t.packet.view := by
  have hpart : ∀ e, o = some e → ∃ c, c % 8 = 2 ∧ Partway t.packet c e := by
    intro e he
    obtain ⟨⟨u, hu, huconn, c, hc, hpart⟩, hkey⟩ := ho e he
    rw [hunique u hu (huconn.trans (hkey.trans hframe.conn))] at hpart
    exact ⟨c, hc, hpart⟩
  have hkey : ∀ e, (canRun o input).1 = some e → t.conn = e.cfpid.conn := by
    intro e he
    have hrun : e.cfpid.conn = input.frame.id.conn :=
      canSessions.run_key o input e (fun e he => (ho e he).2) he
    exact hframe.conn.symm.trans hrun.symm
  obtain ⟨e, hrun, hc⟩ | ⟨q, hrun, hq⟩ | hrun := canRun_isFrameOf hp hframe hpart
  · rw [hrun] at hkey ⊢
    refine ⟨?_, nofun⟩
    intro e' he'
    obtain rfl := Option.some.inj he'
    exact ⟨t, ht, hkey e rfl, hc⟩
  · rw [hrun]
    refine ⟨nofun, ?_⟩
    intro q' hq'
    obtain rfl := Option.some.inj hq'
    exact hq
  · rw [hrun]
    exact ⟨nofun, nofun⟩

/-- What holds while frames of `sent` arrive. -/
structure CanRx.Sound (sent : List CanTransmission) (s : CanRx) : Prop where
  pbuf : ∀ i e, s.pbuf i = some e → e.IsOf sent
  routed : ∀ r ∈ s.routed, ∃ t ∈ sent, r.1 = t.conn ∧ r.2.view = t.packet.view

theorem CanRx.Sound.idle {sent : List CanTransmission} {s : CanRx} (hs : s.Sound sent)
    (now : UInt32) : (cspCanPbufCleanup s now).Sound sent := by
  refine ⟨?_, hs.routed⟩
  intro i e he
  exact hs.pbuf i e (Option.filter_eq_some_iff.mp he).1

theorem CanRx.Sound.frame {sent : List CanTransmission} {s : CanRx} {input : CanInput}
    (hs : s.Sound sent) (hp : ∀ t ∈ sent, t.packet.length.toNat ≤ cspBufferSize)
    (hunique : ∀ t ∈ sent, ∀ u ∈ sent, u.conn = t.conn → u = t)
    (hframe : ∃ t ∈ sent, input.frame ∈ t.frames) : (cspCanProcessFrame s input).Sound sent := by
  obtain ⟨t, ht, hmem⟩ := hframe
  have hisFrame := CanTransmission.isFrameOf hmem
  obtain ⟨hpbuf, hrouted⟩ := cspCanProcessFrame_eq s input
  have hrun : ∀ o : Option PbufElement,
      (∀ e, o = some e → e.IsOf sent ∧ canSessions.keyOf e = canSessions.inputKey input) →
      (∀ e, (canSessions.run o input).1 = some e → e.IsOf sent) ∧
        ∀ q, (canSessions.run o input).2 = some q → q.view = t.packet.view :=
    fun o ho => canRun_isOf (hp t ht) ht (hunique t ht) hisFrame ho
  obtain ⟨hall, hout⟩ := Demux.step_forall hs.pbuf hrun
  refine ⟨by rw [hpbuf]; exact hall, ?_⟩
  intro r hr
  rw [hrouted, List.mem_append] at hr
  rcases hr with hr | hr
  · exact hs.routed r hr
  · rw [Option.mem_toList, Option.map_eq_some_iff] at hr
    obtain ⟨q, hq, rfl⟩ := hr
    exact ⟨t, ht, hisFrame.conn, hout q hq⟩

/-- **A packet arrives as it was sent or not at all.** Frames may be lost, repeated, delayed and
reordered; elements may be given up and buffers may be missing. -/
theorem can_never_mixes {events : List CanEvent} {sent : List CanTransmission}
    (hp : ∀ t ∈ sent, t.packet.length.toNat ≤ cspBufferSize)
    (hunique : ∀ t ∈ sent, ∀ u ∈ sent, u.conn = t.conn → u = t)
    (hframes : ∀ i ∈ canInputs events, ∃ t ∈ sent, i.frame ∈ t.frames) :
    ∀ r ∈ (events.foldl CanRx.step cspCanInit).routed,
      ∃ t ∈ sent, r.1 = t.conn ∧ r.2.view = t.packet.view := by
  have hguard : Run.Guarded CanRx.step
      (fun _ e => ∀ i, e = .frame i → ∃ t ∈ sent, i.frame ∈ t.frames) cspCanInit events := by
    refine Run.guarded_const_iff.mpr ?_
    rintro e he i rfl
    exact hframes i (List.mem_filterMap.mpr ⟨_, he, rfl⟩)
  have hsound : (events.foldl CanRx.step cspCanInit).Sound sent := by
    refine Run.foldl_inv (I := fun s => CanRx.Sound sent s) ?_ ⟨nofun, nofun⟩ hguard
    intro s e hs he
    unfold CanRx.step
    split
    · exact hs
    · cases e with
      | frame input => exact hs.frame hp hunique (he input rfl)
      | idle now => exact hs.idle now
  exact hsound.routed

/-- Two frames are swapped, one is repeated and one is lost; one packet arrives. -/
theorem can_never_mixes_lossy :
    let t : CanTransmission :=
      { mac := 255, ident := 7,
        packet := .carrying { CspId.zero with src := 1, dst := 10 } ((List.range 20).map UInt8.ofNat) }
    let u : CanTransmission :=
      { mac := 255, ident := 8,
        packet := .carrying { CspId.zero with src := 1, dst := 10 } (List.replicate 12 255) }
    let frames :=
      [canBeginFrame t.conn t.packet, canMoreFrame t.conn t.packet 10, canMoreFrame t.conn t.packet 2,
        canBeginFrame u.conn u.packet, canBeginFrame t.conn t.packet, canMoreFrame t.conn t.packet 2,
        canMoreFrame u.conn u.packet 10, canMoreFrame t.conn t.packet 10,
        canMoreFrame t.conn t.packet 18]
    let events := frames.map fun f => CanEvent.frame { frame := f, now := 0, buffer := some .zero }
    let routed := (events.foldl CanRx.step cspCanInit).routed
    routed.length = 1 ∧ ∀ r ∈ routed, ∃ v ∈ [t, u], r.1 = v.conn ∧ r.2.view = v.packet.view := by
  intro t u frames events routed
  have hp : ∀ v ∈ [t, u], v.packet.length.toNat ≤ cspBufferSize := by
    rw [List.forall_mem_cons, List.forall_mem_singleton]
    exact ⟨by decide, by decide⟩
  have hunique : ∀ v ∈ [t, u], ∀ v' ∈ [t, u], v'.conn = v.conn → v' = v := by
    have hne : t.conn ≠ u.conn := by decide
    simp [hne, hne.symm]
  have hinputs : canInputs events
      = frames.map fun f => { frame := f, now := 0, buffer := some .zero } := rfl
  have hframes : ∀ i ∈ canInputs events, ∃ v ∈ [t, u], i.frame ∈ v.frames := by
    have ht : t.frames = [canBeginFrame t.conn t.packet, canMoreFrame t.conn t.packet 2,
      canMoreFrame t.conn t.packet 10, canMoreFrame t.conn t.packet 18] := rfl
    have hu : u.frames = [canBeginFrame u.conn u.packet, canMoreFrame u.conn u.packet 2,
      canMoreFrame u.conn u.packet 10] := rfl
    rw [hinputs]
    refine List.forall_mem_map.mpr fun f hf => ?_
    simp only [List.mem_cons, List.not_mem_nil, or_false, exists_eq_or_imp, exists_eq_left, ht, hu]
    simp only [frames, List.mem_cons, List.not_mem_nil, or_false] at hf
    tauto
  exact ⟨by decide +kernel, can_never_mixes hp hunique hframes⟩

/-! ## Frames of any kind -/

/-- What holds of an element, whatever the frames are. -/
structure PbufElement.Ok (e : PbufElement) : Prop where
  packet : ∃ q, e.packet = some q ∧ e.rxCount.toNat < q.length.toNat
  stored : e.rxCount.toNat ≤ cspBufferSize
  /-- The frames that are still allowed have at most eight bytes each. -/
  bound : e.rxCount.toNat + 8 * e.remain.toNat ≤ 2042

theorem canStore_ok {e e' : PbufElement} {q : CspPacket} {frame : CanFrame} {offset : Nat}
    {errors : UInt32} (hpos : (1 : UInt32) ≤ e.remain)
    (hfit : e.rxCount.toNat + (frame.data.length - offset) ≤ q.length.toNat)
    (hbound : e.rxCount.toNat + (frame.data.length - offset) + 8 * (e.remain.toNat - 1) ≤ 2042)
    (h : (canStore e q frame offset errors).element = some e') : e'.Ok := by
  have hlen := q.length.toNat_lt
  have hcount : (e.rxCount + UInt16.ofNat (frame.data.length - offset)).toNat
      = e.rxCount.toNat + (frame.data.length - offset) := by
    rw [UInt16.toNat_add, UInt16.toNat_ofNat']
    omega
  unfold canStore at h
  dsimp only at h
  split_ifs at h with hend hne
  obtain rfl := Option.some.inj h
  have hne' : (e.rxCount + UInt16.ofNat (frame.data.length - offset)).toNat ≠ q.length.toNat :=
    fun heq => hne (UInt16.toNat_inj.mp heq)
  refine ⟨⟨_, rfl, ?_⟩, ?_, ?_⟩
  · show (e.rxCount + UInt16.ofNat (frame.data.length - offset)).toNat < q.length.toNat
    omega
  · show (e.rxCount + UInt16.ofNat (frame.data.length - offset)).toNat ≤ cspBufferSize
    omega
  · show (e.rxCount + UInt16.ofNat (frame.data.length - offset)).toNat
      + 8 * (e.remain - 1).toNat ≤ 2042
    rw [hcount, UInt32.toNat_sub_of_le _ _ hpos]
    exact hbound

/-- The number of remaining frames in a frame is below 256, so an element that accepts the frame
expects at least one. -/
theorem canData_ok {e e' : PbufElement} {q : CspPacket} {frame : CanFrame} {offset : Nat}
    {errors : UInt32}
    (hbound : 1 ≤ e.remain.toNat →
      e.rxCount.toNat + (frame.data.length - offset) + 8 * (e.remain.toNat - 1) ≤ 2042)
    (h : (canData e q frame offset errors).element = some e') : e'.Ok := by
  unfold canData at h
  split_ifs at h with hmatch hfit
  · cases h
  · cases h
  · have hpos : 1 ≤ e.remain.toNat := ?_
    · exact canStore_ok (UInt32.le_iff_toNat_le.mpr hpos) (Nat.le_of_not_gt hfit) (hbound hpos) h
    have hval := congrArg UInt32.toNat (not_not.mp hmatch)
    have hlt := frame.id.remain.isLt
    have hone : (1 : UInt32).toNat = 1 := rfl
    rw [UInt32.toNat_ofNat', UInt32.toNat_sub, hone] at hval
    have := e.remain.toNat_lt
    omega

theorem canRun_ok {o : Option PbufElement} {e' : PbufElement} {input : CanInput}
    (ho : ∀ e, o = some e → e.Ok) (h : (canRun o input).1 = some e') : e'.Ok := by
  have hdlc := input.frame.dlc_le
  have hbegin : ∀ element, (canBegin element input).element = some e' → e'.Ok := by
    intro element h
    unfold canBegin at h
    by_cases hlen : input.frame.data.length < cfpOverhead
    · rw [if_pos hlen] at h
      cases h
    · rw [if_neg hlen] at h
      cases hp : element.packet.or input.buffer with
      | none => rw [hp] at h; cases h
      | some q =>
        rw [hp] at h
        refine canData_ok (fun _ => ?_) h
        have hlt := input.frame.id.remain.isLt
        have hremain : (UInt32.ofNat input.frame.id.remain.val + 1).toNat
            = input.frame.id.remain.val + 1 := by
          rw [UInt32.toNat_add, UInt32.toNat_ofNat']
          show (_ + 1) % _ = _
          omega
        show 0 + (input.frame.data.length - 6)
          + 8 * ((UInt32.ofNat input.frame.id.remain.val + 1).toNat - 1) ≤ 2042
        omega
  rcases o with _ | e
  · cases ht : input.frame.id.type with
    | begin =>
      rw [canRun_begin ht] at h
      simp only [canSwitch, ht] at h
      exact hbegin _ h
    | more =>
      rw [canRun_more ht] at h
      cases h
  · rw [canRun_some] at h
    obtain ⟨⟨q, hq, -⟩, -, hbound⟩ := ho e rfl
    cases ht : input.frame.id.type with
    | begin =>
      simp only [canSwitch, ht] at h
      exact hbegin _ h
    | more =>
      simp only [canSwitch, ht, hq] at h
      refine canData_ok (fun hpos => ?_) h
      show e.rxCount.toNat + (input.frame.data.length - 0) + 8 * (e.remain.toNat - 1) ≤ 2042
      change 1 ≤ e.remain.toNat at hpos
      omega

/-- What holds of the receiver after any events. -/
structure CanRx.Ok (s : CanRx) : Prop where
  element : ∀ i e, s.pbuf i = some e → e.Ok
  /-- Elements have different senders, destinations or identification numbers. -/
  distinct : ∀ i j e e', s.pbuf i = some e → s.pbuf j = some e' → e.cfpid.conn = e'.cfpid.conn → i = j

theorem CanRx.Ok.frame {s : CanRx} (hs : s.Ok) (input : CanInput) :
    (cspCanProcessFrame s input).Ok := by
  obtain ⟨hpbuf, -⟩ := cspCanProcessFrame_eq s input
  have hdistinct : Demux.Distinct canSessions s.pbuf := hs.distinct
  have hrun : ∀ o : Option PbufElement,
      (∀ e, o = some e → e.Ok ∧ canSessions.keyOf e = canSessions.inputKey input) →
      (∀ e, (canSessions.run o input).1 = some e → e.Ok) ∧
        ∀ q, (canSessions.run o input).2 = some q → True :=
    fun o ho => ⟨fun e he => canRun_ok (fun e he => (ho e he).1) he, fun _ _ => trivial⟩
  refine ⟨?_, ?_⟩
  · rw [hpbuf]
    exact (Demux.step_forall hs.element hrun).1
  · rw [hpbuf]
    exact hdistinct.step input

theorem CanRx.Ok.idle {s : CanRx} (hs : s.Ok) (now : UInt32) : (cspCanPbufCleanup s now).Ok := by
  have hkept : ∀ i e, (cspCanPbufCleanup s now).pbuf i = some e → s.pbuf i = some e :=
    fun i e he => (Option.filter_eq_some_iff.mp he).1
  exact ⟨fun i e he => hs.element i e (hkept i e he), fun i j e e' hi hj =>
    hs.distinct i j e e' (hkept i e hi) (hkept j e' hj)⟩

theorem CanRx.Ok.step {s : CanRx} (hs : s.Ok) (event : CanEvent) : (s.step event).Ok := by
  unfold CanRx.step
  split
  · exact hs
  · cases event with
    | frame input => exact hs.frame input
    | idle now => exact hs.idle now

/-- **Whatever comes from the bus**, every element that is in use has a packet which is not complete,
with no more than 1024 bytes in its buffer; its sender, destination and number are its own; and no
more than 2042 bytes are ever copied into it. This is so until data are copied past the end of a
buffer, for which a frame must have begun a packet of more than 1024 bytes. -/
theorem can_ok (events : List CanEvent) :
    ((events.foldl CanRx.step cspCanInit).overrun = false →
      (events.foldl CanRx.step cspCanInit).Ok) ∧
    ((events.foldl CanRx.step cspCanInit).overrun = true →
      ∃ i ∈ canInputs events, i.frame.Overlong) := by
  have hok : (events.foldl CanRx.step cspCanInit).Ok :=
    Run.foldl_inv (I := CanRx.Ok) (P := fun _ _ => True) (fun _ e hs _ => hs.step e) ⟨nofun, nofun⟩
      (Run.guarded_of_forall fun _ _ => trivial)
  refine ⟨fun _ => hok, ?_⟩
  intro hoverrun
  by_contra hnone
  have hshort : (events.foldl CanRx.step cspCanInit).Short :=
    short_run short_init fun i hi hlong => hnone ⟨i, hi, hlong⟩
  rw [hshort.overrun] at hoverrun
  cases hoverrun

/-- A packet of 1042 bytes is put together until the buffer ends. -/
example :
    let begin : CanFrame :=
      { id := { src := 1, dst := 10, type := .begin, remain := 130, id := 0 }
        data := [0, 0, 0, 0, 4, 18, 0, 0], dlc_le := by decide }
    let more (remain : Fin 256) : CanFrame :=
      { id := { begin.id with type := .more, remain := remain }, data := List.replicate 8 0,
        dlc_le := by decide }
    let frames := begin :: (List.range 130).map fun k => more (Fin.ofNat 256 (129 - k))
    let events := frames.map fun f => CanEvent.frame { frame := f, now := 0, buffer := some .zero }
    (events.foldl CanRx.step cspCanInit).overrun = true := by
  decide +kernel

end CspTerm.Csp
