import CspTerm.Csp.Can
import CspTerm.Csp.Kiss

/-!
# Fragmentation on the CAN bus

Packets whose frames are mixed up with each other arrive as they were sent, if at no time more than
ten of them are under way. Frames that are lost, repeated or out of order cost packets but never
change one.
-/

namespace CspTerm.Csp

/-! ## One element -/

theorem canData_cfpid {element e : PbufElement} {packet : CspPacket} {frame : CanFrame} {offset : Nat}
    {errors : UInt32} (h : (canData element packet frame offset errors).element = some e) :
    e.cfpid = element.cfpid := by
  unfold canData at h
  split_ifs at h
  · cases h
  · cases h
  · unfold canStore at h
    dsimp only at h
    split_ifs at h
    · obtain rfl := Option.some.inj h
      rfl

theorem canBegin_cfpid {element e : PbufElement} {input : CanInput}
    (h : (canBegin element input).element = some e) : e.cfpid = element.cfpid := by
  unfold canBegin at h
  by_cases hlen : input.frame.data.length < cfpOverhead
  · rw [if_pos hlen] at h
    cases h
  · rw [if_neg hlen] at h
    cases hp : element.packet.or input.buffer with
    | none => rw [hp] at h; cases h
    | some packet =>
      rw [hp] at h
      have := canData_cfpid h
      exact this

theorem canSwitch_cfpid {element e : PbufElement} {input : CanInput}
    (h : (canSwitch element input).element = some e) : e.cfpid = element.cfpid := by
  unfold canSwitch at h
  cases ht : input.frame.id.type with
  | begin =>
    simp only [ht] at h
    exact canBegin_cfpid h
  | more =>
    simp only [ht] at h
    cases hp : element.packet with
    | none =>
      simp only [hp] at h
      obtain rfl := Option.some.inj h
      rfl
    | some packet =>
      simp only [hp] at h
      exact canData_cfpid h

theorem canRun_some (element : PbufElement) (input : CanInput) :
    canRun (some element) input
      = ((canSwitch { element with lastUsed := input.now } input).element,
        (canSwitch { element with lastUsed := input.now } input).routed) := rfl

theorem canRun_begin {input : CanInput} (h : input.frame.id.type = .begin) :
    canRun none input
      = ((canSwitch (pbufNew input) input).element, (canSwitch (pbufNew input) input).routed) := by
  simp only [canRun, h, if_true]

theorem canRun_more {input : CanInput} (h : input.frame.id.type = .more) :
    canRun none input = (none, none) := by
  simp [canRun, h]

/-- The elements are sessions of the connections of their frames. -/
def canSessions : Demux.Sessions CfpConn PbufElement CanInput CspPacket :=
  { keyOf := fun e => e.cfpid.conn
    inputKey := fun i => i.frame.id.conn
    opens := fun i => i.frame.id.type == .begin
    run := canRun
    run_key := by
      intro s a s' hs hrun
      rcases s with _ | e
      · cases ht : a.frame.id.type with
        | begin =>
          rw [canRun_begin ht] at hrun
          rw [canSwitch_cfpid hrun]
          rfl
        | more =>
          rw [canRun_more ht] at hrun
          cases hrun
      · rw [canRun_some] at hrun
        rw [canSwitch_cfpid hrun]
        exact hs e rfl
    run_none := by
      intro a ha
      cases ht : a.frame.id.type with
      | begin => simp [ht] at ha
      | more => exact canRun_more ht }

/-- **The receiver is a table of sessions.** -/
theorem cspCanProcessFrame_eq (s : CanRx) (input : CanInput) :
    (cspCanProcessFrame s input).pbuf = (Demux.step canSessions s.pbuf input).1 ∧
      (cspCanProcessFrame s input).routed = s.routed ++
        ((Demux.step canSessions s.pbuf input).2.map (input.frame.id.conn, ·)).toList := by
  have hfind : Demux.find canSessions s.pbuf (canSessions.inputKey input)
      = pbufFind s.pbuf input.frame.id := rfl
  have hfree : Demux.free s.pbuf = pbufFree s.pbuf := rfl
  unfold cspCanProcessFrame Demux.step
  rw [hfind, hfree]
  cases hf : pbufFind s.pbuf input.frame.id with
  | some i =>
    obtain ⟨e, he, -⟩ := Demux.find_eq_some (hfind.trans hf)
    simp only [he]
    exact ⟨rfl, rfl⟩
  | none =>
    cases ht : input.frame.id.type with
    | begin =>
      have hopens : canSessions.opens input = true := by simp [canSessions, ht]
      have hrun : canSessions.run none input
          = ((canSwitch (pbufNew input) input).element, (canSwitch (pbufNew input) input).routed) :=
        canRun_begin ht
      simp only [hopens, if_true, hrun]
      cases pbufFree s.pbuf with
      | none => simp
      | some i => exact ⟨rfl, rfl⟩
    | more =>
      have hopens : canSessions.opens input = false := by simp [canSessions, ht]
      simp [hopens]

theorem canInputs_frame (input : CanInput) (events : List CanEvent) :
    canInputs (.frame input :: events) = input :: canInputs events := rfl

theorem canInputs_idle (now : UInt32) (events : List CanEvent) :
    canInputs (.idle now :: events) = canInputs events := rfl

theorem cspCanPbufCleanup_of_patient {s : CanRx} {now : UInt32} (h : s.Patient (.idle now)) :
    cspCanPbufCleanup s now = s := by
  have hkeep : ∀ i, ((s.pbuf i).filter fun e => !decide (now - e.lastUsed > pbufTimeoutMs))
      = s.pbuf i := by
    intro i
    cases hi : s.pbuf i with
    | none => rfl
    | some e =>
      have := h i e hi
      simp [Option.filter, this]
  unfold cspCanPbufCleanup
  simp only [hkeep]

/-! ## Packets that fit their buffers -/

/-- The packets that are under way fit their buffers, and so did those before. -/
structure CanRx.Short (s : CanRx) : Prop where
  overrun : s.overrun = false
  length_le : ∀ i e q, s.pbuf i = some e → e.packet = some q → q.length.toNat ≤ cspBufferSize

/-- What a frame may do with its element if the packets are to fit. -/
structure CanResult.Short (r : CanResult) : Prop where
  overrun : r.overrun = false
  length_le : ∀ e q, r.element = some e → e.packet = some q → q.length.toNat ≤ cspBufferSize

theorem canData_short {element : PbufElement} {packet : CspPacket} {frame : CanFrame}
    {offset : Nat} {errors : UInt32} (h : packet.length.toNat ≤ cspBufferSize) :
    (canData element packet frame offset errors).Short := by
  unfold canData
  split_ifs with hmatch hfit
  · exact ⟨rfl, nofun⟩
  · exact ⟨rfl, nofun⟩
  · unfold canStore
    rw [if_neg (by omega)]
    dsimp only
    split_ifs
    · refine ⟨rfl, ?_⟩
      rintro e q he hq
      obtain rfl := Option.some.inj he
      obtain rfl := Option.some.inj hq
      exact h
    · exact ⟨rfl, nofun⟩

theorem canSwitch_short {element : PbufElement} {input : CanInput}
    (h : ∀ q, element.packet = some q → q.length.toNat ≤ cspBufferSize)
    (hframe : ¬ input.frame.Overlong) : (canSwitch element input).Short := by
  unfold canSwitch
  cases ht : input.frame.id.type with
  | begin =>
    dsimp only
    unfold canBegin
    by_cases hlen : input.frame.data.length < cfpOverhead
    · rw [if_pos hlen]
      exact ⟨rfl, nofun⟩
    · rw [if_neg hlen]
      cases element.packet.or input.buffer with
      | none => exact ⟨rfl, nofun⟩
      | some packet =>
        refine canData_short ?_
        by_contra hlong
        exact hframe ⟨ht, Nat.le_of_not_lt hlen, Nat.lt_of_not_le hlong⟩
  | more =>
    dsimp only
    cases hp : element.packet with
    | none =>
      refine ⟨rfl, ?_⟩
      rintro e q he hq
      obtain rfl := Option.some.inj he
      rw [hp] at hq
      cases hq
    | some packet => exact canData_short (h packet hp)

theorem CanRx.Short.apply {s : CanRx} {r : CanResult} (hs : s.Short) (hr : r.Short)
    (i : Fin pbufElements) (conn : CfpConn) : (s.apply i conn r).Short := by
  refine ⟨?_, ?_⟩
  · show (s.overrun || r.overrun) = false
    rw [hs.overrun, hr.overrun]
    rfl
  · intro j e q he hq
    change Function.update s.pbuf i r.element j = some e at he
    by_cases hj : j = i
    · subst hj
      rw [Function.update_self] at he
      exact hr.length_le e q he hq
    · rw [Function.update_of_ne hj] at he
      exact hs.length_le j e q he hq

theorem CanRx.Short.frame {s : CanRx} {input : CanInput} (hs : s.Short)
    (hframe : ¬ input.frame.Overlong) : (cspCanProcessFrame s input).Short := by
  unfold cspCanProcessFrame
  cases pbufFind s.pbuf input.frame.id with
  | some i =>
    dsimp only
    cases he : s.pbuf i with
    | none => exact hs
    | some e =>
      have hpacket : ∀ q, e.packet = some q → q.length.toNat ≤ cspBufferSize :=
        fun q hq => hs.length_le i e q he hq
      have hresult : (canSwitch { e with lastUsed := input.now } input).Short :=
        canSwitch_short hpacket hframe
      exact hs.apply hresult i _
  | none =>
    cases input.frame.id.type with
    | begin =>
      dsimp only
      cases pbufFree s.pbuf with
      | none => exact ⟨hs.overrun, hs.length_le⟩
      | some i =>
        have hpacket : ∀ q, (pbufNew input).packet = some q → q.length.toNat ≤ cspBufferSize :=
          fun q hq => nomatch hq
        exact hs.apply (canSwitch_short hpacket hframe) i _
    | more => exact ⟨hs.overrun, hs.length_le⟩

theorem CanRx.Short.idle {s : CanRx} (hs : s.Short) (now : UInt32) :
    (cspCanPbufCleanup s now).Short := by
  refine ⟨hs.overrun, ?_⟩
  intro i e q he hq
  exact hs.length_le i e q (Option.filter_eq_some_iff.mp he).1 hq

theorem CanRx.step_frame {s : CanRx} (hs : s.overrun = false) (input : CanInput) :
    s.step (.frame input) = cspCanProcessFrame s input :=
  if_neg (by rw [hs]; exact Bool.false_ne_true)

theorem CanRx.step_idle {s : CanRx} (hs : s.overrun = false) (now : UInt32) :
    s.step (.idle now) = cspCanPbufCleanup s now :=
  if_neg (by rw [hs]; exact Bool.false_ne_true)

theorem CanRx.Short.step {s : CanRx} {event : CanEvent} (hs : s.Short)
    (h : ∀ input, event = .frame input → ¬ input.frame.Overlong) : (s.step event).Short := by
  cases event with
  | frame input =>
    rw [CanRx.step_frame hs.overrun]
    exact hs.frame (h input rfl)
  | idle now =>
    rw [CanRx.step_idle hs.overrun]
    exact hs.idle now

theorem forall_canInputs {P : CanInput → Prop} {event : CanEvent} {events : List CanEvent}
    (h : ∀ i ∈ canInputs (event :: events), P i) :
    (∀ input, event = .frame input → P input) ∧ ∀ i ∈ canInputs events, P i := by
  cases event with
  | frame input =>
    rw [canInputs_frame, List.forall_mem_cons] at h
    refine ⟨?_, h.2⟩
    rintro i he
    cases he
    exact h.1
  | idle now => exact ⟨nofun, h⟩

/-- Data go past the end of a buffer only after a frame has begun a packet that does not fit it. -/
theorem short_run {s : CanRx} {events : List CanEvent} (hs : s.Short)
    (h : ∀ i ∈ canInputs events, ¬ i.frame.Overlong) : (events.foldl CanRx.step s).Short := by
  induction events generalizing s with
  | nil => exact hs
  | cons event events ih =>
    obtain ⟨hevent, hrest⟩ := forall_canInputs h
    exact ih (hs.step hevent) hrest

theorem short_init : cspCanInit.Short := ⟨rfl, nofun⟩

/-- What comes of a run in which no element is given up for its age, if all packets fit. -/
theorem routed_eq_outputs {s : CanRx} {events : List CanEvent} (hs : s.Short)
    (hframes : ∀ i ∈ canInputs events, ¬ i.frame.Overlong)
    (h : Run.Guarded CanRx.step CanRx.Patient s events) :
    (events.foldl CanRx.step s).routed
      = s.routed ++ Demux.outputs canSessions s.pbuf (canInputs events) := by
  induction events generalizing s with
  | nil => simp [canInputs, Demux.outputs]
  | cons e events ih =>
    obtain ⟨hevent, hrest⟩ := forall_canInputs hframes
    rw [List.foldl_cons, ih (hs.step hevent) hrest h.2]
    cases e with
    | frame input =>
      obtain ⟨hpbuf, hrouted⟩ := cspCanProcessFrame_eq s input
      rw [CanRx.step_frame hs.overrun, canInputs_frame, Demux.outputs, ← List.append_assoc, hpbuf,
        hrouted]
      rfl
    | idle now => rw [CanRx.step_idle hs.overrun, canInputs_idle, cspCanPbufCleanup_of_patient h.1]

/-! ## A packet on its way -/

/-- The first `c` bytes of `p` are in the packet `q`. -/
structure CarriesPart (p q : CspPacket) (c : Nat) : Prop where
  id : q.id = p.id
  length : q.length = p.length
  data : q.data.val.take c = p.payload.take c

/-- The element has `c` bytes of `p`, and more are to come. -/
structure Partway (p : CspPacket) (c : Nat) (e : PbufElement) : Prop where
  count : e.rxCount.toNat = c
  lt : c < p.length.toNat
  remain : e.remain.toNat = (p.length.toNat - c + 7) / 8
  packet : ∃ q, e.packet = some q ∧ CarriesPart p q c

theorem CarriesPart.view {p q : CspPacket} (h : CarriesPart p q p.length.toNat) : q.view = p.view := by
  have hpayload : q.payload = p.payload := by
    rw [CspPacket.payload, h.length, h.data, CspPacket.payload, List.take_take, Nat.min_self]
  rw [CspPacket.view, CspPacket.view, h.id, hpayload]

theorem CarriesPart.put {p q : CspPacket} {c b : Nat} (h : CarriesPart p q c)
    (hp : p.length.toNat ≤ cspBufferSize) (hb : c + b ≤ p.length.toNat) :
    CarriesPart p { q with data := q.data.put c ((p.payload.drop c).take b) } (c + b) := by
  have hpayload := CspPacket.length_payload hp
  have hlen : ((p.payload.drop c).take b).length = b := by
    rw [List.length_take, List.length_drop]
    omega
  refine ⟨h.id, h.length, ?_⟩
  have htake : (q.data.put c ((p.payload.drop c).take b)).val.take
      (c + ((p.payload.drop c).take b).length) = _ := q.data.take_put (by omega)
  rw [hlen, h.data, ← List.take_add] at htake
  exact htake

/-- The copying of `b` bytes behind the first `c`. -/
theorem canStore_carriesPart {p q : CspPacket} {e : PbufElement} {frame : CanFrame}
    {offset c b : Nat} (errors : UInt32) (hp : p.length.toNat ≤ cspBufferSize) (hcount : e.rxCount.toNat = c)
    (hq : CarriesPart p q c) (hdata : frame.data.drop offset = (p.payload.drop c).take b)
    (hb : c + b ≤ p.length.toNat) :
    (c + b < p.length.toNat → ∃ q' : CspPacket, CarriesPart p q' (c + b) ∧
        canStore e q frame offset errors =
          { element := some
              { e with
                remain := e.remain - 1, rxCount := e.rxCount + UInt16.ofNat b, packet := some q' }
            routed := none, errors := errors, overrun := false }) ∧
      (c + b = p.length.toNat → ∃ q' : CspPacket, q'.view = p.view ∧
        canStore e q frame offset errors =
          { element := none, routed := some q', errors := errors, overrun := false }) := by
  have hsize : cspBufferSize = 1024 := rfl
  have hpayload := CspPacket.length_payload hp
  have hlen : frame.data.length - offset = b := by
    rw [← List.length_drop, hdata, List.length_take, List.length_drop]
    omega
  have hsum : (e.rxCount + UInt16.ofNat b).toNat = c + b := by
    rw [UInt16.toNat_add, hcount, UInt16.toNat_ofNat']
    omega
  have hput := hq.put hp hb
  have hend : e.rxCount + UInt16.ofNat b ≠ q.length ↔ c + b ≠ p.length.toNat := by
    rw [hq.length, ne_eq, ne_eq, ← UInt16.toNat_inj, hsum]
  unfold canStore
  rw [hlen, hdata, hcount, if_neg (by omega)]
  dsimp only
  constructor
  · intro hlt
    rw [if_pos (hend.mpr (by omega))]
    exact ⟨_, hput, rfl⟩
  · intro heq
    rw [if_neg fun h => hend.mp h heq]
    exact ⟨_, CarriesPart.view (heq ▸ hput), rfl⟩

/-! ## The frames of a packet -/

theorem cfpRemain_val {n : Nat} (h : n < 256) : (cfpRemain n).val = n := Nat.mod_eq_of_lt h

/-- The element after `b` more bytes, when these are not all. -/
theorem Partway.of_store {p q : CspPacket} {c b : Nat} {e : PbufElement} (hcount : e.rxCount.toNat = c)
    (hb : c + b < p.length.toNat) (hlength : p.length.toNat ≤ cspBufferSize)
    (hremain : e.remain.toNat = (p.length.toNat - (c + b) + 7) / 8 + 1)
    (hq : CarriesPart p q (c + b)) :
    Partway p (c + b)
      { e with
        remain := e.remain - 1, rxCount := e.rxCount + UInt16.ofNat b, packet := some q } := by
  have hsize : cspBufferSize = 1024 := rfl
  refine ⟨?_, hb, ?_, q, rfl, hq⟩
  · show (e.rxCount + UInt16.ofNat b).toNat = c + b
    rw [UInt16.toNat_add, hcount, UInt16.toNat_ofNat']
    omega
  · show (e.remain - 1).toNat = _
    have hone : (1 : UInt32) ≤ e.remain := by
      rw [UInt32.le_iff_toNat_le, hremain]
      exact Nat.le_add_left 1 _
    rw [UInt32.toNat_sub_of_le _ _ hone, hremain]
    rfl

/-- A frame with the right number of remaining frames and no more data than are missing. -/
theorem canData_eq_canStore {element : PbufElement} {packet : CspPacket} {frame : CanFrame}
    {offset : Nat} {errors : UInt32} (hremain : element.remain.toNat = frame.id.remain.val + 1)
    (hfit : element.rxCount.toNat + (frame.data.length - offset) ≤ packet.length.toNat) :
    canData element packet frame offset errors = canStore element packet frame offset errors := by
  have hmatch : UInt32.ofNat frame.id.remain.val = element.remain - 1 := by
    have hlt := frame.id.remain.isLt
    have hone : (1 : UInt32) ≤ element.remain := by
      rw [UInt32.le_iff_toNat_le, hremain]
      exact Nat.le_add_left 1 _
    apply UInt32.toNat_inj.mp
    rw [UInt32.toNat_sub_of_le _ _ hone, hremain, UInt32.toNat_ofNat']
    show _ = frame.id.remain.val + 1 - 1
    omega
  rw [canData, if_neg (not_not_intro hmatch), if_neg (by omega)]

/-- The next frame of a packet: it has `b` more bytes. -/
theorem canData_carriesPart {p q : CspPacket} {e : PbufElement} {frame : CanFrame}
    {offset c b : Nat} (errors : UInt32) (hp : p.length.toNat ≤ cspBufferSize) (hcount : e.rxCount.toNat = c)
    (hq : CarriesPart p q c) (hdata : frame.data.drop offset = (p.payload.drop c).take b)
    (hb : c + b ≤ p.length.toNat) (hremain : e.remain.toNat = frame.id.remain.val + 1)
    (hrest : frame.id.remain.val = (p.length.toNat - (c + b) + 7) / 8) :
    (c + b < p.length.toNat → ∃ e' : PbufElement, Partway p (c + b) e' ∧
        canData e q frame offset errors =
          { element := some e', routed := none, errors := errors, overrun := false }) ∧
      (c + b = p.length.toNat → ∃ q' : CspPacket, q'.view = p.view ∧
        canData e q frame offset errors =
          { element := none, routed := some q', errors := errors, overrun := false }) := by
  have hlen : frame.data.length - offset = b := by
    have hpayload := CspPacket.length_payload hp
    rw [← List.length_drop, hdata, List.length_take, List.length_drop]
    omega
  have hfit : e.rxCount.toNat + (frame.data.length - offset) ≤ q.length.toNat := by
    rw [hcount, hlen, hq.length]
    exact hb
  obtain ⟨hmore, hlast⟩ := canStore_carriesPart errors hp hcount hq hdata hb
  rw [canData_eq_canStore hremain hfit]
  refine ⟨?_, hlast⟩
  intro hlt
  obtain ⟨q', hq', heq⟩ := hmore hlt
  exact ⟨_, Partway.of_store hcount hlt hp (by rw [hremain, hrest]) hq', heq⟩

/-- The next MORE frame. -/
theorem canRun_moreFrame {p : CspPacket} {c : Nat} {e : PbufElement} {input : CanInput}
    {conn : CfpConn} (hp : p.length.toNat ≤ cspBufferSize) (he : Partway p c e)
    (hframe : input.frame = canMoreFrame conn p c) :
    (c + 8 < p.length.toNat → ∃ e', canRun (some e) input = (some e', none) ∧ Partway p (c + 8) e') ∧
      (p.length.toNat ≤ c + 8 → ∃ q, canRun (some e) input = (none, some q) ∧ q.view = p.view) := by
  obtain ⟨hcount, hlt, hremain, q, hpacket, hq⟩ := he
  have hsize : cspBufferSize = 1024 := rfl
  obtain ⟨b, hb⟩ : ∃ b, b = min 8 (p.length.toNat - c) := ⟨_, rfl⟩
  have hdata : input.frame.data.drop 0 = (p.payload.drop c).take b := by rw [hframe, hb]; rfl
  have hrest : input.frame.id.remain.val = (p.length.toNat - (c + b) + 7) / 8 := by
    have hval : input.frame.id.remain.val = (p.length.toNat - c - b + 7) / 8 := by
      rw [hframe, hb]
      exact cfpRemain_val (by omega)
    omega
  have htype : input.frame.id.type = .more := by rw [hframe]; rfl
  have hrun : canSwitch { e with lastUsed := input.now } input
      = canData { e with lastUsed := input.now } q input.frame 0 0 := by
    simp only [canSwitch, htype, hpacket]
  obtain ⟨hmore, hlast⟩ := canData_carriesPart (e := { e with lastUsed := input.now }) 0
    hp hcount hq hdata (by omega) (by show e.remain.toNat = _; omega) hrest
  rw [canRun_some, hrun]
  constructor
  · intro h
    obtain ⟨e', he', heq⟩ := hmore (by omega)
    have hb8 : b = 8 := by omega
    rw [heq]
    exact ⟨e', rfl, hb8 ▸ he'⟩
  · intro h
    obtain ⟨q', hq', heq⟩ := hlast (by omega)
    rw [heq]
    exact ⟨q', rfl, hq'⟩

/-- What a BEGIN frame makes of a buffer: nothing of the packet is in it yet. -/
theorem canHeader_carriesPart {p q : CspPacket} {conn : CfpConn} :
    CarriesPart p (canHeader q (canBeginFrame conn p)) 0 := by
  have hid : (canBeginFrame conn p).data.take 4 = bytes32 (cspHton32 p.id.ext) := rfl
  have hlength : ((canBeginFrame conn p).data.drop 4).take 2 = bytes16 (cspHton16 p.length) :=
    rfl
  refine ⟨?_, ?_, ?_⟩
  · show CspId.ofExt (cspNtoh32 (word32 ((canBeginFrame conn p).data.take 4))) = p.id
    rw [hid, word32_bytes32, cspNtoh32_cspHton32, CspId.ofExt_ext]
  · show cspNtoh16 (word16 (((canBeginFrame conn p).data.drop 4).take 2)) = p.length
    rw [hlength, word16_bytes16, cspNtoh16_cspHton16]
  · rw [List.take_zero, List.take_zero]

/-- The first frame, whatever the element had before. -/
theorem canSwitch_beginFrame {p : CspPacket} {element : PbufElement} {input : CanInput}
    {conn : CfpConn} (hp : p.length.toNat ≤ cspBufferSize)
    (hframe : input.frame = canBeginFrame conn p)
    (hbuffer : (element.packet.or input.buffer).isSome = true) :
    (2 < p.length.toNat → ∃ e', (canSwitch element input).element = some e' ∧
        (canSwitch element input).routed = none ∧ Partway p 2 e') ∧
      (p.length.toNat ≤ 2 → ∃ q, (canSwitch element input).element = none ∧
        (canSwitch element input).routed = some q ∧ q.view = p.view) := by
  have hsize : cspBufferSize = 1024 := rfl
  obtain ⟨b, hb⟩ : ∃ b, b = min 2 p.length.toNat := ⟨_, rfl⟩
  have htype : input.frame.id.type = .begin := by rw [hframe]; rfl
  have hlong : ¬ input.frame.data.length < cfpOverhead := by
    rw [hframe]
    exact Nat.not_lt.mpr (Nat.le_add_left _ _)
  obtain ⟨q, hq⟩ := Option.isSome_iff_exists.mp hbuffer
  have hdata : input.frame.data.drop cfpOverhead = (p.payload.drop 0).take b := by
    rw [hframe, hb]
    rfl
  have hrest : input.frame.id.remain.val = (p.length.toNat - (0 + b) + 7) / 8 := by
    have hval : input.frame.id.remain.val = (p.length.toNat + 6 - 1) / 8 := by
      rw [hframe]
      exact cfpRemain_val (by show (_ + 6 - 1) / 8 < _; omega)
    omega
  have hremain : (UInt32.ofNat input.frame.id.remain.val + 1).toNat = input.frame.id.remain.val + 1 := by
    have := input.frame.id.remain.isLt
    rw [UInt32.toNat_add, UInt32.toNat_ofNat']
    show (_ + 1) % _ = _
    omega
  have hpart : CarriesPart p (canHeader q input.frame) 0 := by
    rw [hframe]
    exact canHeader_carriesPart
  unfold canSwitch
  simp only [htype]
  unfold canBegin
  rw [if_neg hlong, hq]
  dsimp only
  obtain ⟨hmore, hlast⟩ := canData_carriesPart
    (e :=
      { element with
        packet := some (canHeader q input.frame), rxCount := 0,
        remain := UInt32.ofNat input.frame.id.remain.val + 1 })
    (c := 0) (b := b) _ hp rfl hpart hdata (by omega) hremain hrest
  constructor
  · intro h
    obtain ⟨e', he', heq⟩ := hmore (by omega)
    have hb2 : 0 + b = 2 := by omega
    rw [heq]
    exact ⟨e', rfl, rfl, hb2 ▸ he'⟩
  · intro h
    obtain ⟨q', hq', heq⟩ := hlast (by omega)
    rw [heq]
    exact ⟨q', rfl, rfl, hq'⟩

theorem canRun_beginFrame {p : CspPacket} {o : Option PbufElement} {input : CanInput} {conn : CfpConn}
    (hp : p.length.toNat ≤ cspBufferSize) (hframe : input.frame = canBeginFrame conn p)
    (hbuffer : ((o.bind PbufElement.packet).or input.buffer).isSome = true) :
    (2 < p.length.toNat → ∃ e', canRun o input = (some e', none) ∧ Partway p 2 e') ∧
      (p.length.toNat ≤ 2 → ∃ q, canRun o input = (none, some q) ∧ q.view = p.view) := by
  obtain ⟨element, hrun, hpacket⟩ : ∃ element, canRun o input
      = ((canSwitch element input).element, (canSwitch element input).routed) ∧
        element.packet = o.bind PbufElement.packet := by
    cases o with
    | none => exact ⟨pbufNew input, canRun_begin (by rw [hframe]; rfl), rfl⟩
    | some e => exact ⟨_, canRun_some e input, rfl⟩
  rw [← hpacket] at hbuffer
  obtain ⟨hmore, hlast⟩ := canSwitch_beginFrame hp hframe hbuffer
  rw [hrun]
  constructor
  · intro h
    obtain ⟨e', helement, hrouted, he'⟩ := hmore h
    exact ⟨e', by rw [helement, hrouted], he'⟩
  · intro h
    obtain ⟨q, helement, hrouted, hq⟩ := hlast h
    exact ⟨q, by rw [helement, hrouted], hq⟩

/-! ## Frames mixed up with each other -/

/-- The frames of a packet that is on its way complete it. -/
theorem solo_cspCanTxMore {p : CspPacket} {conn : CfpConn} {rounds c : Nat} {e : PbufElement}
    {inputs : List CanInput} (rest : List CanInput) (hp : p.length.toNat ≤ cspBufferSize)
    (he : Partway p c e)
    (hrounds : p.length.toNat ≤ c + rounds)
    (hframes : inputs.map CanInput.frame = cspCanTxMore conn p rounds c) :
    ∃ q : CspPacket, q.view = p.view ∧
      Demux.solo canSessions (some e) (inputs ++ rest) = q :: Demux.solo canSessions none rest := by
  induction rounds generalizing c e inputs with
  | zero => exact absurd he.lt (Nat.not_lt.mpr hrounds)
  | succ rounds ih =>
    rw [cspCanTxMore, if_pos he.lt] at hframes
    obtain ⟨i, is, rfl, hi, his⟩ := List.map_eq_cons_iff.mp hframes
    obtain ⟨hmore, hlast⟩ := canRun_moreFrame hp he hi
    show ∃ q : CspPacket, q.view = p.view ∧ (canRun (some e) i).2.toList
      ++ Demux.solo canSessions (canRun (some e) i).1 (is ++ rest) = _
    by_cases hlt : c + 8 < p.length.toNat
    · obtain ⟨e', hrun, he'⟩ := hmore hlt
      rw [Nat.min_eq_left (by omega)] at his
      obtain ⟨q, hq, hsolo⟩ := ih he' (by omega) his
      refine ⟨q, hq, ?_⟩
      rw [hrun, hsolo]
      rfl
    · obtain ⟨q, hrun, hq⟩ := hlast (by omega)
      have hend : is = [] := by
        have hpos := he.lt
        rw [Nat.min_eq_right (by omega), Nat.add_sub_cancel' hpos.le] at his
        cases rounds <;> simpa [cspCanTxMore] using his
      refine ⟨q, hq, ?_⟩
      rw [hrun, hend]
      rfl

theorem solo_cspCanTx {p : CspPacket} {mac : UInt8} {ident : Fin 1024} {o : Option PbufElement}
    {inputs : List CanInput} (rest : List CanInput) (hp : p.length.toNat ≤ cspBufferSize)
    (hbuffer : ∀ i ∈ inputs, i.buffer.isSome = true)
    (hframes : inputs.map CanInput.frame = cspCanTx mac ident p) :
    ∃ q : CspPacket, q.view = p.view ∧
      Demux.solo canSessions o (inputs ++ rest) = q :: Demux.solo canSessions none rest := by
  obtain ⟨i, is, rfl, hi, his⟩ := List.map_eq_cons_iff.mp hframes
  obtain ⟨hmore, hlast⟩ := canRun_beginFrame (o := o) hp hi
    (by rw [Option.isSome_or, hbuffer i List.mem_cons_self, Bool.or_true])
  show ∃ q : CspPacket, q.view = p.view ∧ (canRun o i).2.toList
    ++ Demux.solo canSessions (canRun o i).1 (is ++ rest) = _
  by_cases hlt : 2 < p.length.toNat
  · obtain ⟨e', hrun, he'⟩ := hmore hlt
    rw [Nat.min_eq_left hlt.le] at his
    obtain ⟨q, hq, hsolo⟩ := solo_cspCanTxMore rest hp he' (by omega) his
    refine ⟨q, hq, ?_⟩
    rw [hrun, hsolo]
    rfl
  · obtain ⟨q, hrun, hq⟩ := hlast (by omega)
    have hend : is = [] := by
      rw [Nat.min_eq_right (by omega)] at his
      cases h : p.length.toNat <;> simpa [h, cspCanTxMore] using his
    refine ⟨q, hq, ?_⟩
    rw [hrun, hend]
    rfl

/-- A packet that is sent, to the MAC address `mac` and under the number `ident`. -/
structure CanTransmission where
  mac : UInt8
  ident : Fin 1024
  packet : CspPacket

def CanTransmission.conn (t : CanTransmission) : CfpConn := cfpConn t.mac t.ident t.packet

def CanTransmission.frames (t : CanTransmission) : List CanFrame := cspCanTx t.mac t.ident t.packet

theorem type_of_mem_cspCanTxMore {conn : CfpConn} {p : CspPacket} {frame : CanFrame}
    {rounds c : Nat} (h : frame ∈ cspCanTxMore conn p rounds c) : frame.id.type = .more := by
  induction rounds generalizing c with
  | zero => cases h
  | succ rounds ih =>
    rw [cspCanTxMore] at h
    split_ifs at h
    · rcases List.mem_cons.mp h with rfl | h
      · rfl
      · exact ih h
    · cases h

/-- A frame of a packet that fits a buffer announces no more than that. -/
theorem CanTransmission.not_overlong {t : CanTransmission} {frame : CanFrame}
    (hp : t.packet.length.toNat ≤ cspBufferSize) (h : frame ∈ t.frames) : ¬ frame.Overlong := by
  rintro ⟨htype, -, hlong⟩
  rcases List.mem_cons.mp h with rfl | h
  · rw [canHeader_carriesPart.length] at hlong
    omega
  · rw [type_of_mem_cspCanTxMore h] at htype
    cases htype

theorem solo_transmissions {ts : List CanTransmission} {inputs : List CanInput}
    (hp : ∀ t ∈ ts, t.packet.length.toNat ≤ cspBufferSize)
    (hbuffer : ∀ i ∈ inputs, i.buffer.isSome = true)
    (hframes : inputs.map CanInput.frame = ts.flatMap CanTransmission.frames) :
    (Demux.solo canSessions none inputs).map CspPacket.view = ts.map (·.packet.view) := by
  induction ts generalizing inputs with
  | nil =>
    rw [List.map_eq_nil_iff.mp hframes]
    rfl
  | cons t ts ih =>
    rw [List.flatMap_cons, List.map_eq_append_iff] at hframes
    obtain ⟨is, rest, rfl, his, hrest⟩ := hframes
    rw [List.forall_mem_append] at hbuffer
    rw [List.forall_mem_cons] at hp
    obtain ⟨q, hq, hsolo⟩ := solo_cspCanTx (o := none) rest hp.1 hbuffer.1 his
    rw [hsolo, List.map_cons, hq, ih hp.2 hbuffer.2 hrest, List.map_cons]

/-- **Packets arrive, however their frames are mixed up.** The frames of each connection come in the
order in which they were sent; those of different connections come in any order. If there is room
whenever a packet begins and none takes so long that it is given up, then the packets of each
connection arrive, in their order and as they were sent. -/
theorem can_delivers {events : List CanEvent} {ts : List CanTransmission}
    (hp : ∀ t ∈ ts, t.packet.length.toNat ≤ cspBufferSize)
    (hframes : ∀ conn, ((canInputs events).map CanInput.frame).filter (·.id.conn = conn)
      = (ts.filter (·.conn = conn)).flatMap CanTransmission.frames)
    (hbuffer : ∀ i ∈ canInputs events, i.buffer.isSome = true)
    (hroom : Run.Guarded (Demux.idealStep canSessions) (Demux.Fits canSessions pbufElements)
      (fun _ => none) (canInputs events))
    (hpatient : Run.Guarded CanRx.step CanRx.Patient cspCanInit events) (conn : CfpConn) :
    ((events.foldl CanRx.step cspCanInit).routed.filter (·.1 = conn)).map (·.2.view)
      = (ts.filter (·.conn = conn)).map (·.packet.view) := by
  have hshort : ∀ i ∈ canInputs events, ¬ i.frame.Overlong := by
    intro i hi
    have hmem : i.frame ∈ ((canInputs events).map CanInput.frame).filter
        (·.id.conn = i.frame.id.conn) :=
      List.mem_filter.mpr ⟨List.mem_map_of_mem hi, decide_eq_true rfl⟩
    rw [hframes] at hmem
    obtain ⟨t, ht, hframe⟩ := List.mem_flatMap.mp hmem
    exact CanTransmission.not_overlong (hp t (List.mem_filter.mp ht).1) hframe
  have hsolo : (((events.foldl CanRx.step cspCanInit).routed.filter (·.1 = conn)).map Prod.snd)
      = Demux.solo canSessions none ((canInputs events).filter (·.frame.id.conn = conn)) := by
    rw [routed_eq_outputs short_init hshort hpatient]
    exact Demux.outputs_of_key hroom conn
  have hconn : ((canInputs events).filter (·.frame.id.conn = conn)).map CanInput.frame
      = (ts.filter (·.conn = conn)).flatMap CanTransmission.frames := by
    rw [← hframes conn, List.filter_map]
    rfl
  have hviews := solo_transmissions (fun t ht => hp t (List.mem_filter.mp ht).1)
    (fun i hi => hbuffer i (List.mem_filter.mp hi).1) hconn
  rw [← hsolo, List.map_map] at hviews
  exact hviews

/-- The frames of two packets on two connections, mixed up with each other. -/
theorem can_delivers_interleaved :
    let t : CanTransmission :=
      { mac := 255, ident := 7,
        packet := .carrying { CspId.zero with src := 1, dst := 10 } ((List.range 20).map UInt8.ofNat) }
    let u : CanTransmission :=
      { mac := 255, ident := 8,
        packet := .carrying { CspId.zero with src := 1, dst := 10 } (List.replicate 12 255) }
    let frames :=
      [canBeginFrame t.conn t.packet, canBeginFrame u.conn u.packet, canMoreFrame t.conn t.packet 2,
        canMoreFrame u.conn u.packet 2, canMoreFrame t.conn t.packet 10,
        canMoreFrame u.conn u.packet 10, canMoreFrame t.conn t.packet 18]
    let events := frames.map fun f => CanEvent.frame { frame := f, now := 0, buffer := some .zero }
    let routed := (events.foldl CanRx.step cspCanInit).routed
    (routed.filter (·.1 = t.conn)).map (·.2.view) = [t.packet.view] ∧
      (routed.filter (·.1 = u.conn)).map (·.2.view) = [u.packet.view] := by
  intro t u frames events routed
  have hp : ∀ t' ∈ [t, u], t'.packet.length.toNat ≤ cspBufferSize := by
    rw [List.forall_mem_cons, List.forall_mem_singleton]
    exact ⟨by decide, by decide⟩
  have hframes (conn : CfpConn) :
      ((canInputs events).map CanInput.frame).filter (·.id.conn = conn)
        = ([t, u].filter (·.conn = conn)).flatMap CanTransmission.frames := by
    by_cases ht : t.conn = conn
    · rw [← ht]
      rfl
    · by_cases hu : u.conn = conn
      · rw [← hu]
        rfl
      · have hmore (v : CanTransmission) (c : Nat) :
            (canMoreFrame v.conn v.packet c).id.conn = v.conn := rfl
        have hbegin (v : CanTransmission) : (canBeginFrame v.conn v.packet).id.conn = v.conn := rfl
        have hsame : (canInputs events).map CanInput.frame = frames := rfl
        rw [hsame]
        simp [frames, hmore, hbegin, ht, hu]
  have hinputs : canInputs events
      = frames.map fun f => { frame := f, now := 0, buffer := some .zero } := rfl
  have hbuffer : ∀ i ∈ canInputs events, i.buffer.isSome = true := by
    rw [hinputs]
    exact List.forall_mem_map.mpr fun _ _ => rfl
  have hroom : Run.Guarded (Demux.idealStep canSessions) (Demux.Fits canSessions pbufElements)
      (fun _ => none) (canInputs events) := by
    refine Demux.guarded_fits (S := {t.conn, u.conn}) (by decide) ?_ nofun
    have hconns : ∀ c ∈ frames.map (·.id.conn), c ∈ ({t.conn, u.conn} : Finset CfpConn) := by
      decide
    rw [hinputs]
    exact List.forall_mem_map.mpr fun f hf => hconns _ (List.mem_map_of_mem hf)
  have hpatient : Run.Guarded CanRx.step CanRx.Patient cspCanInit events :=
    ⟨trivial, trivial, trivial, trivial, trivial, trivial, trivial, trivial⟩
  have hrouted (conn : CfpConn) : (routed.filter (·.1 = conn)).map (·.2.view)
      = ([t, u].filter (·.conn = conn)).map (·.packet.view) :=
    can_delivers hp hframes hbuffer hroom hpatient conn
  exact ⟨hrouted t.conn, hrouted u.conn⟩

end CspTerm.Csp
