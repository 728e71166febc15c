import CspTerm.Csp.Rdp
import CspTerm.Lib.SelectiveRepeat
import CspTerm.Lib.Serial
import CspTerm.Lib.Run

/-!
# What the calls of the reliable protocol do

Each direction of a connection is a selective repeat transport with numbers that do not wrap around
(`stream`). Every call on one side, as the code has it with its numbers of 16 bits, is a row of steps
of these transports, as long as nothing that arrives is more than 2^15 numbers old.
-/

namespace CspTerm.Csp.Rdp

open SelectiveRepeat

/-! ## Numbers -/

/-- `v` is what the counter shows when it should be `x`. -/
def Reads (v : UInt16) (x : Int) : Prop := Serial.Reads v.toBitVec x

theorem Reads.add {u v : UInt16} {x y : Int} (hv : Reads v x) (hu : Reads u y) :
    Reads (v + u) (x + y) := Serial.Reads.add hv hu

theorem Reads.sub {u v : UInt16} {x y : Int} (hv : Reads v x) (hu : Reads u y) :
    Reads (v - u) (x - y) := Serial.Reads.sub hv hu

theorem reads_ofNat (n : Nat) : Reads (UInt16.ofNat n) n := Serial.reads_ofNat n

theorem reads_one : Reads 1 1 := reads_ofNat 1

theorem Reads.of_eq {v : UInt16} {x y : Int} (hv : Reads v x) (h : x = y) : Reads v y := h ▸ hv

theorem Reads.eq {u v : UInt16} {x : Int} (hv : Reads v x) (hu : Reads u x) : v = u :=
  UInt16.eq_of_toBitVec_eq (hv.trans hu.symm)

theorem Reads.eq_iff {u v : UInt16} {x y : Int} (hv : Reads v x) (hu : Reads u y)
    (hlt : x < y + 2 ^ 16) (hgt : y < x + 2 ^ 16) : v = u ↔ x = y := by
  rw [← UInt16.toBitVec_inj]
  exact Serial.Reads.eq_iff hv hu hlt hgt

theorem cspRdpSeqBetween_iff {seq start last : UInt16} {x a b : Int} (hseq : Reads seq x)
    (hstart : Reads start a) (hlast : Reads last b) (hab : a ≤ b) (hspan : b < a + 2 ^ 16)
    (hbelow : b < x + 2 ^ 16) (habove : x < a + 2 ^ 16) :
    cspRdpSeqBetween seq start last = true ↔ a ≤ x ∧ x ≤ b :=
  Serial.between_iff hseq hstart hlast hab hspan hbelow habove

theorem cspRdpSeqBefore_iff {seq cmp : UInt16} {x y : Int} (hseq : Reads seq x)
    (hcmp : Reads cmp y) (hlt : x - y < 2 ^ 15) (hle : -2 ^ 15 ≤ x - y) :
    cspRdpSeqBefore seq cmp = true ↔ x < y := by
  have hbefore : cspRdpSeqBefore seq cmp = Serial.before seq.toBitVec cmp.toBitVec := by
    rw [cspRdpSeqBefore, Serial.before, decide_eq_decide, Int16.lt_iff_toInt_lt]
    rfl
  rw [hbefore]
  exact Serial.before_iff hseq hcmp (by omega) (by omega)

/-- The ends of the windows, which are computed with 32 bits. -/
theorem RdpConn.toUInt16_add (x : UInt16) (y : UInt32) :
    (x.toUInt32 + y * 2).toUInt16 = x + UInt16.ofNat (2 * y.toNat) := by
  apply UInt16.toNat_inj.mp
  simp only [UInt32.toNat_toUInt16, UInt32.toNat_add, UInt32.toNat_mul, UInt16.toNat_toUInt32,
    UInt16.toNat_add, UInt16.toNat_ofNat']
  have h32 : (2 : UInt32).toNat = 2 := rfl
  rw [h32]
  omega

theorem RdpConn.toUInt16_sub (x : UInt16) (y : UInt32) :
    (x.toUInt32 - 1 - y * 2).toUInt16 = x - 1 - UInt16.ofNat (2 * y.toNat) := by
  apply UInt16.toNat_inj.mp
  simp only [UInt32.toNat_toUInt16, UInt32.toNat_sub, UInt32.toNat_mul, UInt16.toNat_toUInt32,
    UInt16.toNat_sub, UInt16.toNat_ofNat']
  have h32 : (2 : UInt32).toNat = 2 := rfl
  have h1 : (1 : UInt32).toNat = 1 := rfl
  have h1' : (1 : UInt16).toNat = 1 := rfl
  rw [h32, h1, h1']
  omega

/-! ## The two directions -/

/-- The packets from `c` to `d`, as a transport with numbers that do not wrap around. -/
def stream (c d : RdpConn) : State (List UInt8) :=
  { sent := c.sent
    una := c.acked
    queue := {n | ∃ e ∈ c.txQueue, e.packet.syn = false ∧ e.packet.position = n}
    next := d.accepted
    early := {n | ∃ p ∈ d.rxQueue, p.position = n}
    passed := d.passed
    alive := c.connState = .open ∧ d.connState = .open }

/-- What a packet says is true, and stays true, when `f` is the direction it goes and `b` the other
one. The counters of its sender start at `bc`, those of the other side at `bd`. -/
structure Truthful (w : Nat) (bc bd : Int) (f b : State (List UInt8)) (p : RdpPacket) : Prop where
  syn : p.syn = true → Reads p.seqNr bc ∧ p.rst = false
  seqNr : p.syn = false → Reads p.seqNr (bc + 1 + p.position)
  ackNr : p.syn = false → Reads p.ackNr (bd + p.acked) ∧ p.acked ≤ b.next
  data : p.syn = false → p.eak = false → p.data ≠ [] → f.sent[p.position]? = some p.data
  eack : p.eak = true → b.alive → ∀ nr ∈ eackNumbers p.data,
    ∃ n : Nat, Reads nr (bd + 1 + n) ∧ p.acked ≤ n ∧ n ≤ p.acked + w ∧ b.Received n

/-- What holds of a side `c` of a connection with the other side `d`. -/
structure Linked (w : Nat) (bc bd : Int) (c d : RdpConn) : Prop where
  state : c.connState = .open → c.state ≠ .closed ∧ c.state ≠ .synSent
  sndNxt : Reads c.sndNxt (bc + 1 + c.sent.length)
  sndUna : c.state = .open ∨ c.sent ≠ [] → Reads c.sndUna (bc + 1 + c.acked)
  sndIss : Reads c.sndIss bc
  rcvCur : Reads c.rcvCur (bd + c.accepted)
  rcvIrs : Reads c.rcvIrs bd
  window : c.opt.windowSize.toNat = w
  lag : c.sent.length ≤ c.acked + 2 ^ 15
  txQueue : ∀ e ∈ c.txQueue, Truthful w bc bd (stream c d) (stream d c) e.packet ∧
    e.packet.eak = false ∧ e.packet.rst = false ∧
    (e.packet.syn = false →
      e.packet.ack = true ∧ c.sent[e.packet.position]? = some e.packet.data)
  rxQueue : ∀ p ∈ c.rxQueue, Reads p.seqNr (bd + 1 + p.position) ∧ d.sent[p.position]? = some p.data
  rxNodup : (c.rxQueue.map (·.position)).Nodup
  out : ∀ p ∈ c.out, Truthful w bc bd (stream c d) (stream d c) p

section

variable {w : Nat} {bc bd : Int} {lossy : Prop} {c c' c'' d : RdpConn} {env : RdpEnv}

/-- A state of both sides, and the invariants of both directions. -/
structure At (w : Nat) (bc bd : Int) (lossy : Prop) (c d : RdpConn) : Prop where
  linked : Linked w bc bd c d
  forth : Inv w lossy (stream c d)
  back : Inv w lossy (stream d c)

/-- The side `c` goes on to `c'`. -/
structure Advances (w : Nat) (bc bd : Int) (lossy : Prop) (c d c' : RdpConn) : Prop where
  linked : Linked w bc bd c' d
  forth : Moves w lossy (stream c d) (stream c' d)
  back : Moves w lossy (stream d c) (stream d c')

/-- No early packet is the one that is waited for. -/
def Settled (s : State (List UInt8)) : Prop := s.next ∉ s.early

/-- A call takes the side `c` to `c'`. -/
structure Goes (w : Nat) (bc bd : Int) (lossy : Prop) (c d c' : RdpConn) : Prop
    extends Advances w bc bd lossy c d c' where
  settled : Settled (stream d c) → Settled (stream d c')

theorem Advances.at (h : At w bc bd lossy c d) (hg : Advances w bc bd lossy c d c') :
    At w bc bd lossy c' d :=
  ⟨hg.linked, h.forth.moves hg.forth, h.back.moves hg.back⟩

theorem Advances.trans (h₁ : Advances w bc bd lossy c d c') (h₂ : Advances w bc bd lossy c' d c'') :
    Advances w bc bd lossy c d c'' :=
  ⟨h₂.linked, h₁.forth.trans h₂.forth, h₁.back.trans h₂.back⟩

theorem Goes.trans (h₁ : Goes w bc bd lossy c d c') (h₂ : Goes w bc bd lossy c' d c'') :
    Goes w bc bd lossy c d c'' :=
  ⟨h₁.toAdvances.trans h₂.toAdvances, h₂.settled ∘ h₁.settled⟩

theorem Goes.refl (h : Linked w bc bd c d) : Goes w bc bd lossy c d c := ⟨⟨h, .refl, .refl⟩, id⟩

/-- A call that the directions do not notice. -/
theorem Goes.quiet (h : Linked w bc bd c' d) (hforth : stream c' d = stream c d)
    (hback : stream d c' = stream d c) : Goes w bc bd lossy c d c' :=
  ⟨⟨h, hforth ▸ .refl, hback ▸ .refl⟩, hback ▸ id⟩

theorem getElem?_of_prefix {l l' : List (List UInt8)} (h : l <+: l') {n : Nat} {x : List UInt8}
    (hx : l[n]? = some x) : l'[n]? = some x := by
  obtain ⟨rest, rfl⟩ := h
  rw [List.getElem?_append_left (List.getElem?_eq_some_iff.mp hx).1]
  exact hx

/-- What was true when it was said stays true. -/
theorem Truthful.moves {f f' b b' : State (List UInt8)} {p : RdpPacket}
    (h : Truthful w bc bd f b p) (hf : Moves w lossy f f') (hb : Moves w lossy b b') :
    Truthful w bc bd f' b' p := by
  refine ⟨h.syn, h.seqNr, ?_, ?_, ?_⟩
  · exact fun hp => ⟨(h.ackNr hp).1, (h.ackNr hp).2.trans hb.next_le⟩
  · exact fun hp he hd => getElem?_of_prefix hf.sent_prefix (h.data hp he hd)
  · intro he halive nr hnr
    obtain ⟨n, hn, hge, hle, hreceived⟩ := h.eack he (hb.alive halive) nr hnr
    exact ⟨n, hn, hge, hle, hb.received halive hreceived⟩

/-- What the other side said, and what it has, is not changed by a call on this side. -/
theorem Linked.other (h : Linked w bd bc d c) (hg : Advances w bc bd lossy c d c') :
    Linked w bd bc d c' := by
  have hprefix : c.sent <+: c'.sent := hg.forth.sent_prefix
  refine { h with txQueue := ?_, rxQueue := ?_, out := ?_ }
  · exact fun e he => ⟨(h.txQueue e he).1.moves hg.back hg.forth, (h.txQueue e he).2⟩
  · exact fun p hp => ⟨(h.rxQueue p hp).1, getElem?_of_prefix hprefix (h.rxQueue p hp).2⟩
  · exact fun p hp => (h.out p hp).moves hg.back hg.forth

/-! ## Packets that go out -/

theorem eackNumbers_flatMap (numbers : List UInt16) :
    eackNumbers (numbers.flatMap fun nr => bytes16 (cspHton16 nr)) = numbers := by
  induction numbers with
  | nil => rfl
  | cons nr numbers ih =>
    rw [List.flatMap_cons]
    show cspNtoh16 (word16 (bytes16 (cspHton16 nr)))
      :: eackNumbers (numbers.flatMap fun nr => bytes16 (cspHton16 nr)) = _
    rw [word16_bytes16, cspNtoh16_cspHton16, ih]

theorem Goes.put {p : RdpPacket} (h : Linked w bc bd c d)
    (hp : Truthful w bc bd (stream c d) (stream d c) p) : Goes w bc bd lossy c d (c.put p) := by
  refine .quiet { h with out := ?_ } rfl rfl
  intro q hq
  rcases List.mem_append.mp hq with hq | hq
  · exact h.out q hq
  · rw [List.mem_singleton.mp hq]
    exact hp

/-- The same with a copy for the queue, as for SYN messages. -/
theorem Goes.keepSyn {e : RdpElement} (h : Linked w bc bd c d)
    (hp : Truthful w bc bd (stream c d) (stream d c) e.packet) (hsyn : e.packet.syn = true)
    (heak : e.packet.eak = false) :
    Goes w bc bd lossy c d { c with txQueue := c.txQueue ++ [e] } := by
  have hqueue : stream { c with txQueue := c.txQueue ++ [e] } d = stream c d := by
    have hset : {n | ∃ e' ∈ c.txQueue ++ [e], e'.packet.syn = false ∧ e'.packet.position = n}
        = {n | ∃ e' ∈ c.txQueue, e'.packet.syn = false ∧ e'.packet.position = n} := by
      ext n
      constructor
      · rintro ⟨e', he', hsyn', hn⟩
        rcases List.mem_append.mp he' with he' | he'
        · exact ⟨e', he', hsyn', hn⟩
        · rw [List.mem_singleton.mp he', hsyn] at hsyn'
          cases hsyn'
      · rintro ⟨e', he', hsyn', hn⟩
        exact ⟨e', List.mem_append_left _ he', hsyn', hn⟩
    unfold stream
    rw [hset]
  refine .quiet ?_ hqueue rfl
  refine { h with txQueue := ?_, out := ?_ }
  · rw [hqueue]
    intro e' he'
    rcases List.mem_append.mp he' with he' | he'
    · exact h.txQueue e' he'
    · rw [List.mem_singleton.mp he', hsyn]
      exact ⟨hp, heak, (hp.syn hsyn).2, nofun⟩
  · rw [hqueue]
    exact h.out

/-- The packet of `csp_rdp_send_cmp`. -/
def cmpPacket (c : RdpConn) (data : Option (List UInt8)) (flags : RdpFlags) (seqNr ackNr : UInt16) :
    RdpPacket :=
  { toRdpFlags := flags, seqNr := seqNr, ackNr := ackNr, pri := min c.pri cspPrioHigh,
    data := data.getD [], position := c.sent.length, acked := c.accepted }

theorem goes_sendCmp {data : Option (List UInt8)} {flags : RdpFlags} {seqNr ackNr : UInt16}
    (h : Linked w bc bd c d) (heak : flags.syn = true → flags.eak = false)
    (hp : Truthful w bc bd (stream c d) (stream d c) (cmpPacket c data flags seqNr ackNr)) :
    Goes w bc bd lossy c d (cspRdpSendCmp env c data flags seqNr ackNr) := by
  obtain ⟨kept, hkept⟩ : ∃ kept, kept =
      if flags.syn && c.txQueue.length < cspRdpMaxWindow then
        { c with
          txQueue := c.txQueue ++
            [{ packet := cmpPacket c data flags seqNr ackNr, timestamp := env.now, quarantine := 0 }] }
      else c := ⟨_, rfl⟩
  have hkeep : Goes w bc bd lossy c d kept := by
    rw [hkept]
    split_ifs with hsyn
    · rw [Bool.and_eq_true] at hsyn
      exact .keepSyn h hp hsyn.1 (heak hsyn.1)
    · exact .refl h
  have hput : Goes w bc bd lossy kept d (kept.put (cmpPacket c data flags seqNr ackNr)) :=
    .put hkeep.linked (hp.moves hkeep.forth hkeep.back)
  have hstamp : Goes w bc bd lossy (kept.put (cmpPacket c data flags seqNr ackNr)) d
      { kept.put (cmpPacket c data flags seqNr ackNr) with
        rcvLsa := ackNr, ackTimestamp := env.now } :=
    .quiet { hput.linked with } rfl rfl
  have heq : cspRdpSendCmp env c data flags seqNr ackNr =
      if (data.isNone || flags.syn) && !env.buffer then c
      else if env.takes (cmpPacket c data flags seqNr ackNr) then
        if flags.ack then
          { kept.put (cmpPacket c data flags seqNr ackNr) with
            rcvLsa := ackNr, ackTimestamp := env.now }
        else kept.put (cmpPacket c data flags seqNr ackNr)
      else kept := by
    rw [hkept]
    rfl
  rw [heq]
  split_ifs
  · exact .refl h
  · exact hkeep.trans (hput.trans hstamp)
  · exact hkeep.trans hput
  · exact hkeep

/-- The messages with the current numbers. -/
theorem goes_sendCurrent {flags : RdpFlags} (h : Linked w bc bd c d) (hsyn : flags.syn = false)
    (heak : flags.eak = false) :
    Goes w bc bd lossy c d (cspRdpSendCmp env c none flags c.sndNxt c.rcvCur) := by
  refine goes_sendCmp h (fun hf => by rw [hsyn] at hf; cases hf) ⟨?_, ?_, ?_, ?_, ?_⟩
  · intro hf
    rw [show (cmpPacket c none flags c.sndNxt c.rcvCur).syn = flags.syn from rfl, hsyn] at hf
    cases hf
  · exact fun _ => h.sndNxt
  · exact fun _ => ⟨h.rcvCur, le_rfl⟩
  · exact fun _ _ hd => absurd rfl hd
  · intro hf
    rw [show (cmpPacket c none flags c.sndNxt c.rcvCur).eak = flags.eak from rfl, heak] at hf
    cases hf

/-- The SYN/ACK message. -/
theorem goes_sendSynAck (h : Linked w bc bd c d) : Goes w bc bd lossy c d
    (cspRdpSendCmp env c none { ack := true, syn := true } c.sndIss c.rcvIrs) := by
  refine goes_sendCmp h (fun _ => rfl) ⟨?_, nofun, nofun, nofun, nofun⟩
  exact fun _ => ⟨h.sndIss, rfl⟩

theorem goes_sendEack (h : At w bc bd lossy c d) :
    Goes w bc bd lossy c d (cspRdpSendEack env c) := by
  unfold cspRdpSendEack
  split_ifs
  · exact .refl h.linked
  · refine goes_sendCmp h.linked nofun ⟨nofun, ?_, ?_, nofun, ?_⟩
    · exact fun _ => h.linked.sndNxt
    · exact fun _ => ⟨h.linked.rcvCur, le_rfl⟩
    · intro _ _ nr hnr
      have hnumbers : nr ∈ c.rxQueue.map (·.seqNr) := by
        rw [← eackNumbers_flatMap (c.rxQueue.map (·.seqNr)), List.flatMap_map]
        exact hnr
      obtain ⟨p, hp, rfl⟩ := List.mem_map.mp hnumbers
      have hearly := h.back.early p.position ⟨p, hp, rfl⟩
      have hwindow := h.back.window
      refine ⟨p.position, (h.linked.rxQueue p hp).1, hearly.1, ?_, .inr ⟨p, hp, rfl⟩⟩
      have hlt : p.position < (stream d c).sent.length := hearly.2
      have hnext : (stream d c).next = c.accepted := rfl
      show p.position ≤ c.accepted + w
      omega

theorem goes_checkAck (h : Linked w bc bd c d) :
    Goes w bc bd lossy c d (cspRdpCheckAck env c) := by
  unfold cspRdpCheckAck
  dsimp only
  split_ifs
  · exact goes_sendCurrent h rfl rfl
  · exact .refl h

/-! ## Closing -/

theorem goes_cspRdpClose (h : Linked w bc bd c d) (hstate : c.state ≠ .closed) :
    (cspRdpClose env c).2 = true → Goes w bc bd lossy c d (cspRdpClose env c).1 := by
  have hwait : Linked w bc bd { c with state := .closeWait, timestamp := env.now } d :=
    { h with
      state := fun _ => ⟨nofun, nofun⟩
      sndUna := fun hs => h.sndUna (.inr (hs.resolve_left nofun)) }
  have hgo : Goes w bc bd lossy c d { c with state := .closeWait, timestamp := env.now } :=
    .quiet hwait rfl rfl
  intro hagain
  unfold cspRdpClose at hagain ⊢
  cases hs : c.state with
  | closed => exact absurd hs hstate
  | closeWait => rw [hs] at hagain; cases hagain
  | synSent => exact hgo.trans (goes_sendCurrent hwait rfl rfl)
  | synRcvd => exact hgo.trans (goes_sendCurrent hwait rfl rfl)
  | «open» => exact hgo.trans (goes_sendCurrent hwait rfl rfl)

/-- A side that is closed for good gives up its queues. -/
theorem goes_closed {state : RdpState} (h : Linked w bc bd c d) (hstate : state ≠ .open) :
    Goes w bc bd lossy c d
    (cspRdpFlushAll { c with state := state, connState := .closed, readQueue := fun _ => [] }) := by
  have hforth : stream (cspRdpFlushAll
      { c with state := state, connState := .closed, readQueue := fun _ => [] }) d
      = { stream c d with queue := ∅, early := (stream c d).early, alive := False } := by
    simp [stream, cspRdpFlushAll]
  have hback : stream d (cspRdpFlushAll
      { c with state := state, connState := .closed, readQueue := fun _ => [] })
      = { stream d c with queue := (stream d c).queue, early := ∅, alive := False } := by
    simp [stream, cspRdpFlushAll]
  have hmove : Moves w lossy (stream c d) _ := .single (.quit _ ∅ (stream c d).early le_rfl)
  have hmove' : Moves w lossy (stream d c) _ :=
    .single (.quit _ (stream d c).queue ∅ (Set.empty_subset _))
  rw [← hforth] at hmove
  rw [← hback] at hmove'
  have hsettled : Settled (stream d (cspRdpFlushAll
      { c with state := state, connState := .closed, readQueue := fun _ => [] })) := by
    rw [Settled, hback]
    exact Set.notMem_empty _
  refine ⟨⟨?_, hmove, hmove'⟩, fun _ => hsettled⟩
  exact { h with
    state := nofun
    sndUna := fun hs => h.sndUna (.inr (hs.resolve_left hstate))
    txQueue := nofun
    rxQueue := nofun
    rxNodup := .nil
    out := fun p hp => (h.out p hp).moves hmove hmove' }

theorem goes_cspClose (h : Linked w bc bd c d) : Goes w bc bd lossy c d (cspClose env c) := by
  unfold cspClose
  by_cases hclosed : c.connState = .closed
  · rw [if_pos hclosed]
    exact .refl h
  rw [if_neg hclosed]
  have hopen : c.connState = .open := by
    cases hc : c.connState with
    | closed => exact absurd hc hclosed
    | «open» => rfl
  have hcases : (∃ c', cspRdpClose env c = (c', true)) ∨
      ∃ state, cspRdpClose env c = ({ c with state := state }, false) ∧ state ≠ .open := by
    unfold cspRdpClose
    cases hs : c.state with
    | closed => exact .inr ⟨c.state, rfl, by rw [hs]; exact nofun⟩
    | closeWait => exact .inr ⟨.closed, rfl, nofun⟩
    | _ => exact .inl ⟨_, rfl⟩
  rcases hcases with ⟨c', hc'⟩ | ⟨state, hc', hstate⟩
  · have hgo : (cspRdpClose env c).2 = true → Goes w bc bd lossy c d (cspRdpClose env c).1 :=
      goes_cspRdpClose h (h.state hopen).1
    rw [hc'] at hgo
    simp only [hc']
    exact hgo rfl
  · simp only [hc']
    exact goes_closed h hstate

theorem Linked.enqueue {prio : Fin 4} {packet : Option (List UInt8)} (h : Linked w bc bd c d)
    (hc : c.enqueue prio packet = some c') : Goes w bc bd lossy c d c' := by
  unfold RdpConn.enqueue at hc
  split_ifs at hc
  obtain rfl := Option.some.inj hc
  exact .quiet { h with } rfl rfl

theorem goes_discardClose (h : Linked w bc bd c d) :
    Goes w bc bd lossy c d (discardClose env c) := by
  unfold discardClose
  split_ifs
  · cases hc : c.enqueue lastRxq none with
    | none => exact .refl h
    | some c' => exact h.enqueue hc
  · exact goes_cspClose h

/-! ## Acknowledgements that come in -/

/-- What is known of a packet that is not a SYN message. -/
structure Arrives (w : Nat) (bc bd : Int) (c d : RdpConn) (p : RdpPacket) : Prop where
  syn : p.syn = false
  truthful : Truthful w bd bc (stream d c) (stream c d) p
  fresh : Fresh c p

theorem Arrives.reads {p : RdpPacket} (hp : Arrives w bc bd c d p) :
    Reads (p.ackNr + 1) (bc + 1 + p.acked) :=
  ((hp.truthful.ackNr hp.syn).1.add reads_one).of_eq (by omega)

theorem goes_storeAck {p : RdpPacket} (h : Linked w bc bd c d) (hp : Arrives w bc bd c d p) :
    Goes w bc bd lossy c d (c.storeAck p) := by
  have hmove : Moves w lossy (stream c d) (stream (c.storeAck p) d) :=
    .single (.ack (stream c d) p.acked (hp.truthful.ackNr hp.syn).2)
  refine ⟨⟨?_, hmove, .refl⟩, id⟩
  refine { h with sndUna := fun _ => hp.reads, lag := hp.fresh.acked, txQueue := ?_, out := ?_ }
  · exact fun e he => ⟨(h.txQueue e he).1.moves hmove .refl, (h.txQueue e he).2⟩
  · exact fun q hq => (h.out q hq).moves hmove .refl

theorem eackQuicken_packet (e : RdpElement) (numbers : List UInt16) :
    (numbers.foldl (eackQuicken env c) e).packet = e.packet := by
  induction numbers generalizing e with
  | nil => rfl
  | cons nr numbers ih =>
    rw [List.foldl_cons, ih]
    unfold eackQuicken
    split_ifs <;> rfl

/-- A call that takes packets from the queue for retransmission or stamps those that stay. -/
theorem goes_txQueue {queue : List RdpElement} (h : Linked w bc bd c d)
    (hmem : ∀ e' ∈ queue, Truthful w bc bd (stream c d) (stream d c) e'.packet ∧
      e'.packet.eak = false ∧ e'.packet.rst = false ∧
      (e'.packet.syn = false →
        e'.packet.ack = true ∧ c.sent[e'.packet.position]? = some e'.packet.data))
    (hkept : (stream c d).alive → ∀ e ∈ c.txQueue, e.packet.syn = false →
      (∃ e' ∈ queue, e'.packet.syn = false ∧ e'.packet.position = e.packet.position) ∨
        (stream c d).Received e.packet.position) :
    Goes w bc bd lossy c d { c with txQueue := queue } := by
  have hmove : Moves w lossy (stream c d) (stream { c with txQueue := queue } d) := by
    refine .single (.drop _ _ ?_)
    rintro halive n ⟨e, he, hsyn, rfl⟩
    exact hkept halive e he hsyn
  refine ⟨⟨?_, hmove, .refl⟩, id⟩
  refine { h with txQueue := ?_, out := ?_ }
  · exact fun e' he' => ⟨(hmem e' he').1.moves hmove .refl, (hmem e' he').2⟩
  · exact fun p hp => (h.out p hp).moves hmove .refl

/-- An extended acknowledgement takes only packets from the queue that the other side has. -/
theorem goes_flushEack {p : RdpPacket} (h : At w bc bd lossy c d) (hp : Arrives w bc bd c d p)
    (heak : p.eak = true) (hw : w < 2 ^ 14) :
    Goes w bc bd lossy c d (cspRdpFlushEack env c p.data) := by
  have hmem : ∀ e ∈ c.txQueue, (eackNumbers p.data).contains e.packet.seqNr = false →
      ∃ e' ∈ (cspRdpFlushEack env c p.data).txQueue, e'.packet = e.packet := by
    intro e he hnot
    refine ⟨(eackNumbers p.data).foldl (eackQuicken env c) e, List.mem_filterMap.mpr ⟨e, he, ?_⟩,
      eackQuicken_packet e _⟩
    rw [hnot]
    rfl
  refine goes_txQueue h.linked ?_ ?_
  · intro e' he'
    obtain ⟨e, he, heq⟩ := List.mem_filterMap.mp he'
    split_ifs at heq
    rw [← Option.some.inj heq, eackQuicken_packet]
    exact h.linked.txQueue e he
  · intro halive e he hsyn
    cases hin : (eackNumbers p.data).contains e.packet.seqNr with
    | false =>
      obtain ⟨e', he', hpacket⟩ := hmem e he hin
      exact .inl ⟨e', he', by rw [hpacket, hsyn], by rw [hpacket]⟩
    | true =>
      obtain ⟨n, hread, hge, hle, hreceived⟩ := hp.truthful.eack heak halive _
        (List.contains_iff_mem.mp hin)
      have hseq := (h.linked.txQueue e he).1.seqNr hsyn
      have hlt := (List.getElem?_eq_some_iff.mp ((h.linked.txQueue e he).2.2.2 hsyn).2).1
      have hfresh := hp.fresh.acked
      have hacked : p.acked ≤ d.accepted := (hp.truthful.ackNr hp.syn).2
      by_cases hn : n < e.packet.position + 2 ^ 16
      · have heq := (hseq.eq_iff hread (by omega) (by omega)).mp rfl
        have heq : e.packet.position = n := by omega
        exact .inr (heq ▸ hreceived)
      · -- an element that is left over from long ago
        refine .inr (.inl ?_)
        show e.packet.position < d.accepted
        omega

/-! ## Data that comes in -/

/-- The receiver goes on by one packet: it is in none of the queues any more. -/
theorem advances_next {queue : List RdpPacket} {readQueue : Fin 4 → List (Option (List UInt8))}
    {passed : List (List UInt8)} {socket : Bool} {c' : RdpConn} (h : Linked w bc bd c d)
    (hc' : c' =
      { c with
        rxQueue := queue, readQueue := readQueue, passed := passed, socket := socket
        rcvCur := c.rcvCur + 1, accepted := c.accepted + 1 })
    (hsub : ∀ p ∈ queue, p ∈ c.rxQueue) (hnodup : (queue.map (·.position)).Nodup)
    (hback : Moves w lossy (stream d c) (stream d c')) : Advances w bc bd lossy c d c' := by
  subst hc'
  refine ⟨?_, .refl, hback⟩
  refine { h with rcvCur := ?_, txQueue := ?_, rxQueue := ?_, rxNodup := hnodup, out := ?_ }
  · refine (h.rcvCur.add reads_one).of_eq ?_
    push_cast
    omega
  · exact fun e he => ⟨(h.txQueue e he).1.moves .refl hback, (h.txQueue e he).2⟩
  · exact fun p hp => h.rxQueue p (hsub p hp)
  · exact fun p hp => (h.out p hp).moves .refl hback

/-- What `csp_rdp_receive_data` does. -/
theorem receiveData_cases (env : RdpEnv) (c : RdpConn) (p : RdpPacket) :
    (∃ socket, cspRdpReceiveData env c p = ({ c with socket := socket }, false) ∧
        ((c.socket = true ∧ env.backlog = false) ∨ cspRxQueueLength ≤ (c.readQueue p.pri).length)) ∨
      cspRdpReceiveData env c p =
        ({ c with
            socket := false
            readQueue := Function.update c.readQueue p.pri (c.readQueue p.pri ++ [some p.data])
            passed := c.passed ++ [p.data] }, true) := by
  unfold cspRdpReceiveData RdpConn.enqueue
  dsimp only
  by_cases hsocket : (c.socket && !env.backlog) = true
  · rw [if_pos hsocket]
    simp only [Bool.and_eq_true, Bool.not_eq_true'] at hsocket
    exact .inl ⟨c.socket, rfl, .inl hsocket⟩
  · rw [if_neg hsocket]
    by_cases hroom : (c.readQueue p.pri).length < cspRxQueueLength
    · rw [if_pos hroom]
      exact .inr rfl
    · rw [if_neg hroom]
      exact .inl ⟨false, rfl, .inr (Nat.le_of_not_lt hroom)⟩

theorem receiveData_rcvCur (c : RdpConn) (p : RdpPacket) :
    (cspRdpReceiveData env c p).1.rcvCur = c.rcvCur := by
  rcases receiveData_cases env c p with ⟨socket, heq, -⟩ | heq <;> rw [heq]

theorem receiveData_rxQueue (c : RdpConn) (p : RdpPacket) :
    (cspRdpReceiveData env c p).1.rxQueue = c.rxQueue := by
  rcases receiveData_cases env c p with ⟨socket, heq, -⟩ | heq <;> rw [heq]

/-- The next packet, from the network or from the queue, with what is left in the queue. It may be lost
only in a lossy transport. -/
theorem advances_receive (env : RdpEnv) {p : RdpPacket} {queue : List RdpPacket}
    (h : Linked w bc bd c d)
    (hdata : d.sent[c.accepted]? = some p.data) (hsub : ∀ q ∈ queue, q ∈ c.rxQueue)
    (hnodup : (queue.map (·.position)).Nodup)
    (hearly : {n | ∃ q ∈ queue, q.position = n} = (stream d c).early \ {c.accepted})
    (hok : (cspRdpReceiveData env { c with rxQueue := queue } p).2 = true ∨ lossy) :
    Advances w bc bd lossy c d
      { (cspRdpReceiveData env { c with rxQueue := queue } p).1 with
        rcvCur := (cspRdpReceiveData env { c with rxQueue := queue } p).1.rcvCur + 1
        accepted := (cspRdpReceiveData env { c with rxQueue := queue } p).1.accepted + 1 } := by
  rcases receiveData_cases env { c with rxQueue := queue } p with ⟨socket, heq, -⟩ | heq
  · rw [heq] at hok ⊢
    have hlossy : lossy := hok.resolve_left nofun
    have hlt : c.accepted < d.sent.length := (List.getElem?_eq_some_iff.mp hdata).1
    refine advances_next h rfl hsub hnodup ?_
    have hmove : Moves w lossy (stream d c) _ := .single (.skip _ hlossy hlt)
    change Moves w lossy (stream d c)
      { stream d c with next := c.accepted + 1, early := (stream d c).early \ {c.accepted} } at hmove
    rw [← hearly] at hmove
    exact hmove
  · rw [heq]
    refine advances_next h rfl hsub hnodup ?_
    have hmove : Moves w lossy (stream d c) _ := .single (.pass _ p.data hdata)
    change Moves w lossy (stream d c)
      { stream d c with
        next := c.accepted + 1, early := (stream d c).early \ {c.accepted}
        passed := c.passed ++ [p.data] } at hmove
    rw [← hearly] at hmove
    exact hmove

/-! ## The queue for early packets -/

theorem rxQueueTake_some {seqNr : UInt16} {n : Nat} {queue rest : List RdpPacket} {p : RdpPacket}
    (h : rxQueueTake seqNr n queue = (some p, rest)) :
    (p :: rest).Perm queue ∧ p.seqNr = seqNr := by
  induction n generalizing queue with
  | zero => cases h
  | succ n ih =>
    cases queue with
    | nil => cases h
    | cons q queue =>
      rw [rxQueueTake] at h
      split_ifs at h with hseq
      · obtain ⟨hp, rfl⟩ := Prod.mk.inj h
        obtain rfl := Option.some.inj hp
        exact ⟨.refl _, hseq⟩
      · obtain ⟨hperm, hp⟩ := ih h
        exact ⟨hperm.trans (List.perm_append_singleton q queue), hp⟩

theorem rxQueueTake_none {seqNr : UInt16} {n : Nat} {queue rest : List RdpPacket}
    (h : rxQueueTake seqNr n queue = (none, rest)) (hn : n ≤ queue.length) :
    rest.Perm queue ∧ ∀ p ∈ queue.take n, p.seqNr ≠ seqNr := by
  induction n generalizing queue with
  | zero =>
    obtain ⟨-, rfl⟩ := Prod.mk.inj h
    exact ⟨.refl _, nofun⟩
  | succ n ih =>
    cases queue with
    | nil => exact absurd hn (Nat.not_succ_le_zero n)
    | cons q queue =>
      rw [rxQueueTake] at h
      split_ifs at h with hseq
      · cases (Prod.mk.inj h).1
      · have hn : n ≤ queue.length := Nat.le_of_succ_le_succ hn
        obtain ⟨hperm, hne⟩ := ih h (by rw [List.length_append]; omega)
        rw [List.take_append_of_le_length hn] at hne
        refine ⟨hperm.trans (List.perm_append_singleton q queue), ?_⟩
        rw [List.take_succ_cons]
        exact List.forall_mem_cons.mpr ⟨hseq, hne⟩

theorem cspRdpSeqInRxQueue_perm {seqNr : UInt16} {n : Nat} {queue rest : List RdpPacket} {found : Bool}
    (h : cspRdpSeqInRxQueue seqNr n queue = (found, rest)) : rest.Perm queue := by
  induction n generalizing queue with
  | zero =>
    obtain ⟨-, rfl⟩ := Prod.mk.inj h
    exact .refl _
  | succ n ih =>
    cases queue with
    | nil =>
      obtain ⟨-, rfl⟩ := Prod.mk.inj h
      exact .refl _
    | cons q queue =>
      rw [cspRdpSeqInRxQueue] at h
      split_ifs at h
      · obtain ⟨-, rfl⟩ := Prod.mk.inj h
        exact List.perm_append_singleton q queue
      · exact (ih h).trans (List.perm_append_singleton q queue)

theorem cspRdpSeqInRxQueue_false {seqNr : UInt16} {n : Nat} {queue rest : List RdpPacket}
    (h : cspRdpSeqInRxQueue seqNr n queue = (false, rest)) (hn : n ≤ queue.length) :
    ∀ p ∈ queue.take n, p.seqNr ≠ seqNr := by
  induction n generalizing queue with
  | zero => exact nofun
  | succ n ih =>
    cases queue with
    | nil => exact nofun
    | cons q queue =>
      rw [cspRdpSeqInRxQueue] at h
      split_ifs at h with hseq
      · cases (Prod.mk.inj h).1
      · have hn : n ≤ queue.length := Nat.le_of_succ_le_succ hn
        have hne := ih h (by rw [List.length_append]; omega)
        rw [List.take_append_of_le_length hn] at hne
        rw [List.take_succ_cons]
        exact List.forall_mem_cons.mpr ⟨hseq, hne⟩

/-- The order of the queue does not matter. -/
theorem goes_perm {queue : List RdpPacket} (h : Linked w bc bd c d) (hperm : queue.Perm c.rxQueue) :
    Goes w bc bd lossy c d { c with rxQueue := queue } := by
  have hback : stream d { c with rxQueue := queue } = stream d c := by
    have hset : {n | ∃ p ∈ queue, p.position = n} = {n | ∃ p ∈ c.rxQueue, p.position = n} := by
      ext n
      simp only [Set.mem_ofPred_eq, hperm.mem_iff]
    unfold stream
    rw [hset]
  refine .quiet ?_ rfl hback
  refine { h with txQueue := ?_, rxQueue := ?_, rxNodup := ?_, out := ?_ }
  · rw [hback]
    exact h.txQueue
  · exact fun p hp => h.rxQueue p (hperm.mem_iff.mp hp)
  · exact ((hperm.map _).nodup_iff).mpr h.rxNodup
  · rw [hback]
    exact h.out

/-! ## Data -/

/-- An early packet whose number comes next. -/
theorem position_eq_accepted {p : RdpPacket} (h : At w bc bd lossy c d) (hw : w < 2 ^ 14)
    (hp : p ∈ c.rxQueue) : p.seqNr = c.rcvCur + 1 ↔ p.position = c.accepted := by
  have hearly := h.back.early p.position ⟨p, hp, rfl⟩
  have hge : c.accepted ≤ p.position := hearly.1
  have hlt : p.position < d.sent.length := hearly.2
  have hwindow : d.sent.length ≤ c.accepted + w + 1 := h.back.window
  rw [(h.linked.rxQueue p hp).1.eq_iff (h.linked.rcvCur.add reads_one) (by omega) (by omega)]
  omega

/-- What is left in the queue when the packet that comes next was taken out of it. -/
theorem early_of_perm {p : RdpPacket} {queue : List RdpPacket} (h : Linked w bc bd c d)
    (hperm : (p :: queue).Perm c.rxQueue) (hp : p.position = c.accepted) :
    (queue.map (·.position)).Nodup ∧
      {n | ∃ q ∈ queue, q.position = n} = (stream d c).early \ {c.accepted} := by
  have hnodup := ((hperm.map (·.position)).nodup_iff).mpr h.rxNodup
  rw [List.map_cons, List.nodup_cons, hp] at hnodup
  refine ⟨hnodup.2, ?_⟩
  ext n
  constructor
  · rintro ⟨q, hq, rfl⟩
    refine ⟨⟨q, hperm.mem_iff.mp (List.mem_cons_of_mem p hq), rfl⟩, ?_⟩
    exact fun heq : q.position = c.accepted =>
      hnodup.1 (heq ▸ List.mem_map.mpr ⟨q, hq, rfl⟩)
  · rintro ⟨⟨q, hq, rfl⟩, hne⟩
    rcases List.mem_cons.mp (hperm.mem_iff.mpr hq) with rfl | hq
    · exact absurd hp hne
    · exact ⟨q, hq, rfl⟩

/-- There is room for all early packets in the user's queues. -/
def HasRoom (c : RdpConn) : Prop :=
  c.socket = false ∧ ∀ prio, (c.readQueue prio).length + c.rxQueue.length ≤ cspRxQueueLength

theorem HasRoom.receive {p : RdpPacket} {queue : List RdpPacket} (h : HasRoom c)
    (hlen : queue.length + 1 = c.rxQueue.length) :
    (cspRdpReceiveData env { c with rxQueue := queue } p).2 = true ∧
      HasRoom (cspRdpReceiveData env { c with rxQueue := queue } p).1 := by
  rcases receiveData_cases env { c with rxQueue := queue } p with
    ⟨-, -, ⟨hsocket, -⟩ | hfull⟩ | heq
  · exact absurd (h.1.symm.trans hsocket) nofun
  · have := h.2 p.pri
    have hfull : cspRxQueueLength ≤ (c.readQueue p.pri).length := hfull
    omega
  · rw [heq]
    refine ⟨rfl, rfl, ?_⟩
    intro prio
    have hprio := h.2 prio
    show (Function.update c.readQueue p.pri (c.readQueue p.pri ++ [some p.data]) prio).length
      + queue.length ≤ cspRxQueueLength
    by_cases heq : prio = p.pri
    · subst heq
      rw [Function.update_self, List.length_append, List.length_singleton]
      omega
    · rw [Function.update_of_ne heq]
      omega

/-- The flush passes on whatever has become due. -/
theorem advances_flush {rounds : Nat} (h : At w bc bd lossy c d) (hw : w < 2 ^ 14)
    (hroom : HasRoom c ∨ lossy) (hrounds : c.rxQueue.length ≤ rounds) :
    Advances w bc bd lossy c d (cspRdpRxQueueFlush env rounds c) ∧
      Settled (stream d (cspRdpRxQueueFlush env rounds c)) := by
  induction rounds generalizing c with
  | zero =>
    refine ⟨(Goes.refl h.linked).toAdvances, ?_⟩
    rintro ⟨p, hp, -⟩
    have hp : p ∈ c.rxQueue := hp
    rw [List.length_eq_zero_iff.mp (Nat.le_zero.mp hrounds)] at hp
    cases hp
  | succ rounds ih =>
    rw [cspRdpRxQueueFlush]
    rcases htake : rxQueueTake (c.rcvCur + 1) c.rxQueue.length c.rxQueue with ⟨_ | p, queue⟩
    · obtain ⟨hperm, hne⟩ := rxQueueTake_none htake le_rfl
      have hgo : Goes w bc bd lossy c d { c with rxQueue := queue } := goes_perm h.linked hperm
      rw [List.take_length] at hne
      refine ⟨hgo.toAdvances, ?_⟩
      rintro ⟨p, hp, hposition⟩
      have hp := hperm.mem_iff.mp hp
      exact hne p hp ((position_eq_accepted h hw hp).mpr hposition)
    · obtain ⟨hperm, hseq⟩ := rxQueueTake_some htake
      have hp : p ∈ c.rxQueue := hperm.mem_iff.mp List.mem_cons_self
      have hposition := (position_eq_accepted h hw hp).mp hseq
      obtain ⟨hnodup, hearly⟩ := early_of_perm h.linked hperm hposition
      have hlen : queue.length + 1 = c.rxQueue.length := hperm.length_eq
      have hdata := (h.linked.rxQueue p hp).2
      rw [hposition] at hdata
      have hok : (cspRdpReceiveData env { c with rxQueue := queue } p).2 = true ∨ lossy :=
        hroom.imp_left fun hr => (hr.receive hlen).1
      have hnext := advances_receive env h.linked hdata
        (fun q hq => hperm.mem_iff.mp (List.mem_cons_of_mem p hq)) hnodup hearly hok
      obtain ⟨hrest, hsettled⟩ := ih (hnext.at h) (hroom.imp_left fun hr => (hr.receive hlen).2)
        (by
          show (cspRdpReceiveData env { c with rxQueue := queue } p).1.rxQueue.length ≤ rounds
          rw [receiveData_rxQueue]
          show queue.length ≤ rounds
          omega)
      exact ⟨hnext.trans hrest, hsettled⟩

/-- A packet in the window is one that has not come yet. -/
theorem accepted_le_position {p : RdpPacket} (h : At w bc bd lossy c d) (hw : w < 2 ^ 14)
    (hpos : 0 < w) (hp : Arrives w bc bd c d p) (hlt : p.position < d.sent.length)
    (hwindow : c.seqInWindow p.seqNr = true) : c.accepted ≤ p.position := by
  have hread := hp.truthful.seqNr hp.syn
  have hsent : d.sent.length ≤ c.accepted + w + 1 := h.back.window
  have hfresh := hp.fresh.position
  rw [RdpConn.seqInWindow, RdpConn.toUInt16_add, h.linked.window,
    cspRdpSeqBetween_iff hread (h.linked.rcvCur.add reads_one)
      (h.linked.rcvCur.add (reads_ofNat _)) (by push_cast; omega) (by push_cast; omega)
      (by push_cast; omega) (by push_cast; omega)] at hwindow
  omega

/-- The numbers in a queue to which an element was added. -/
theorem setOf_mem_append_singleton {α : Type} {l : List α} {a : α} {R : α → Nat → Prop} {k : Nat}
    (hk : ∀ n, R a n ↔ k = n) :
    {n | ∃ x ∈ l ++ [a], R x n} = insert k {n | ∃ x ∈ l, R x n} := by
  ext n
  simp only [List.mem_append, List.mem_singleton, Set.mem_insert_iff, Set.mem_ofPred_eq]
  constructor
  · rintro ⟨x, hx | rfl, hR⟩
    · exact .inr ⟨x, hx, hR⟩
    · exact .inl ((hk n).mp hR).symm
  · rintro (rfl | ⟨x, hx, hR⟩)
    · exact ⟨a, .inr rfl, (hk _).mpr rfl⟩
    · exact ⟨x, .inl hx, hR⟩

/-- A number that the search does not find is not that of an early packet. -/
theorem position_ne_of_not_found {p : RdpPacket} {queue : List RdpPacket} (h : Linked w bc bd c d)
    (hp : Arrives w bc bd c d p)
    (hfind : cspRdpSeqInRxQueue p.seqNr c.rxQueue.length c.rxQueue = (false, queue))
    {q : RdpPacket} (hq : q ∈ queue) : q.position ≠ p.position := by
  intro heq
  have hmem := (cspRdpSeqInRxQueue_perm hfind).mem_iff.mp hq
  have hread := (h.rxQueue q hmem).1
  rw [heq] at hread
  exact cspRdpSeqInRxQueue_false hfind le_rfl q (by rwa [List.take_length])
    (hread.eq (hp.truthful.seqNr hp.syn))

/-- One more early packet. -/
theorem goes_keep {p : RdpPacket} (h : Linked w bc bd c d)
    (hread : Reads p.seqNr (bd + 1 + p.position)) (hdata : d.sent[p.position]? = some p.data)
    (hlt : c.accepted < p.position) (hne : ∀ q ∈ c.rxQueue, q.position ≠ p.position) :
    Goes w bc bd lossy c d { c with rxQueue := c.rxQueue ++ [p] } := by
  have hmove : Moves w lossy (stream d c) (stream d { c with rxQueue := c.rxQueue ++ [p] }) := by
    have hkeep : Moves w lossy (stream d c) _ :=
      .single (.keep _ p.position hlt (List.getElem?_eq_some_iff.mp hdata).1)
    have hset := setOf_mem_append_singleton (l := c.rxQueue) (a := p) (R := fun q n => q.position = n)
      fun _ => Iff.rfl
    unfold stream at hkeep ⊢
    rw [hset]
    exact hkeep
  refine ⟨⟨?_, .refl, hmove⟩, ?_⟩
  · refine { h with txQueue := ?_, rxQueue := ?_, rxNodup := ?_, out := ?_ }
    · exact fun e he => ⟨(h.txQueue e he).1.moves .refl hmove, (h.txQueue e he).2⟩
    · intro q hq
      rcases List.mem_append.mp hq with hq | hq
      · exact h.rxQueue q hq
      · rw [List.mem_singleton.mp hq]
        exact ⟨hread, hdata⟩
    · rw [List.map_append, List.map_singleton, List.nodup_append]
      refine ⟨h.rxNodup, List.nodup_singleton _, ?_⟩
      rintro n hn m hm rfl
      obtain ⟨q, hq, rfl⟩ := List.mem_map.mp hn
      exact hne q hq (List.mem_singleton.mp hm)
    · exact fun q hq => (h.out q hq).moves .refl hmove
  · rintro hsettled ⟨q, hq, hposition⟩
    rcases List.mem_append.mp hq with hq | hq
    · exact hsettled ⟨q, hq, hposition⟩
    · rw [List.mem_singleton.mp hq] at hposition
      exact absurd hposition (Nat.ne_of_gt hlt)

/-- The packet is put into the queue for early packets. -/
theorem goes_rxQueueAdd {p : RdpPacket} (h : At w bc bd lossy c d) (hp : Arrives w bc bd c d p)
    (hdata : d.sent[p.position]? = some p.data) (hlt : c.accepted < p.position) :
    Goes w bc bd lossy c d (cspRdpRxQueueAdd c p).1 := by
  unfold cspRdpRxQueueAdd
  rcases hfind : cspRdpSeqInRxQueue p.seqNr c.rxQueue.length c.rxQueue with ⟨_ | _, queue⟩
  · have hgo : Goes w bc bd lossy c d { c with rxQueue := queue } :=
      goes_perm h.linked (cspRdpSeqInRxQueue_perm hfind)
    dsimp only
    split_ifs
    · exact hgo.trans (goes_keep hgo.linked (hp.truthful.seqNr hp.syn) hdata hlt
        fun _ => position_ne_of_not_found h.linked hp hfind)
    · exact hgo
  · exact goes_perm h.linked (cspRdpSeqInRxQueue_perm hfind)

/-- A control message leaves the queues of the receiver alone. -/
theorem sendCmp_frame (env : RdpEnv) (c : RdpConn) (data : Option (List UInt8)) (flags : RdpFlags)
    (seqNr ackNr : UInt16) :
    (cspRdpSendCmp env c data flags seqNr ackNr).socket = c.socket ∧
      (cspRdpSendCmp env c data flags seqNr ackNr).readQueue = c.readQueue ∧
      (cspRdpSendCmp env c data flags seqNr ackNr).rxQueue = c.rxQueue := by
  unfold cspRdpSendCmp
  dsimp only
  split_ifs <;> exact ⟨rfl, rfl, rfl⟩

theorem HasRoom.checkAck (h : HasRoom c) : HasRoom (cspRdpCheckAck env c) := by
  unfold cspRdpCheckAck
  dsimp only
  split_ifs
  · obtain ⟨hsocket, hread, hrx⟩ := sendCmp_frame env c none { ack := true } c.sndNxt c.rcvCur
    rw [HasRoom, hsocket, hread, hrx]
    exact h
  · exact h

/-- The packet that is waited for. -/
theorem goes_inSequence {p : RdpPacket} (h : At w bc bd lossy c d) (hw : w < 2 ^ 14)
    (hdata : d.sent[c.accepted]? = some p.data) (hseq : p.seqNr = c.rcvCur + 1)
    (hsettled : Settled (stream d c)) (hroom : Room c ∨ lossy)
    (hok : (cspRdpReceiveData env c p).2 = true) {c₁ : RdpConn}
    (hc₁ : c₁ = cspRdpCheckAck env
      { (cspRdpReceiveData env c p).1 with
        rcvCur := p.seqNr, accepted := (cspRdpReceiveData env c p).1.accepted + 1 }) :
    Goes w bc bd lossy c d (cspRdpRxQueueFlush env c₁.rxQueue.length c₁) := by
  have hearly : {n | ∃ q ∈ c.rxQueue, q.position = n} = (stream d c).early \ {c.accepted} :=
    (Set.sdiff_singleton_eq_self hsettled).symm
  have hnext : Advances w bc bd lossy c d
      { (cspRdpReceiveData env c p).1 with
        rcvCur := (cspRdpReceiveData env c p).1.rcvCur + 1
        accepted := (cspRdpReceiveData env c p).1.accepted + 1 } :=
    advances_receive env h.linked hdata (fun _ => id) h.linked.rxNodup hearly (.inl hok)
  have hcur : (cspRdpReceiveData env c p).1.rcvCur + 1 = p.seqNr := by
    rw [receiveData_rcvCur, hseq]
  rw [hcur] at hnext
  have hsend : Goes w bc bd lossy _ d (cspRdpCheckAck env _) := goes_checkAck hnext.linked
  have hcheck := hnext.trans hsend.toAdvances
  rw [← hc₁] at hcheck
  have hroom₁ : HasRoom c₁ ∨ lossy := by
    refine hroom.imp_left fun hr => ?_
    rw [hc₁]
    refine HasRoom.checkAck ?_
    rcases receiveData_cases env c p with ⟨socket, heq, -⟩ | heq
    · rw [heq] at hok
      cases hok
    · rw [heq]
      refine ⟨rfl, ?_⟩
      intro prio
      have hprio := hr prio
      show (Function.update c.readQueue p.pri (c.readQueue p.pri ++ [some p.data]) prio).length
        + c.rxQueue.length ≤ cspRxQueueLength
      by_cases heq : prio = p.pri
      · subst heq
        rw [Function.update_self, List.length_append, List.length_singleton]
        omega
      · rw [Function.update_of_ne heq]
        omega
  obtain ⟨hflush, hsettled₁⟩ :
      Advances w bc bd lossy c₁ d (cspRdpRxQueueFlush env c₁.rxQueue.length c₁) ∧ _ :=
    advances_flush (hcheck.at h) hw hroom₁ le_rfl
  exact ⟨hcheck.trans hflush, fun _ => hsettled₁⟩

theorem goes_newPacketData {p : RdpPacket} (h : At w bc bd lossy c d) (hw : w < 2 ^ 14)
    (hpos : 0 < w) (hp : Arrives w bc bd c d p) (hdata : d.sent[p.position]? = some p.data)
    (hwindow : c.seqInWindow p.seqNr = true) (hsettled : Settled (stream d c))
    (hroom : Room c ∨ lossy) : Goes w bc bd lossy c d (newPacketData env c p) := by
  have hlt : p.position < d.sent.length := (List.getElem?_eq_some_iff.mp hdata).1
  have hle := accepted_le_position h hw hpos hp hlt hwindow
  have hsent : d.sent.length ≤ c.accepted + w + 1 := h.back.window
  have hseq : p.seqNr = c.rcvCur + 1 ↔ p.position = c.accepted := by
    rw [(hp.truthful.seqNr hp.syn).eq_iff (h.linked.rcvCur.add reads_one) (by omega) (by omega)]
    omega
  unfold newPacketData
  by_cases hnext : p.seqNr = c.rcvCur + 1
  · rw [if_neg (not_not_intro hnext)]
    rw [hseq.mp hnext] at hdata
    rcases hreceive : cspRdpReceiveData env c p with ⟨c', _ | _⟩
    · rcases receiveData_cases env c p with ⟨socket, heq, -⟩ | heq
      · obtain ⟨rfl, -⟩ := Prod.mk.inj (hreceive.symm.trans heq)
        exact .quiet { h.linked with } rfl rfl
      · cases (Prod.mk.inj (hreceive.symm.trans heq)).2
    · refine goes_inSequence h hw hdata hnext hsettled hroom (by rw [hreceive]) ?_
      rw [hreceive]
  · rw [if_pos hnext]
    have hne : p.position ≠ c.accepted := fun heq => hnext (hseq.mpr heq)
    have hadd := goes_rxQueueAdd h hp hdata (by omega)
    rcases hresult : cspRdpRxQueueAdd c p with ⟨c', _ | _⟩
    · rw [hresult] at hadd
      exact hadd
    · rw [hresult] at hadd
      exact hadd.trans (goes_sendEack (hadd.at h))

/-! ## The state machine -/

theorem goes_newPacketReset {p : RdpPacket} (h : Linked w bc bd c d) (hp : Arrives w bc bd c d p) :
    Goes w bc bd lossy c d (newPacketReset env c p) := by
  unfold newPacketReset
  obtain ⟨c₁, hc₁⟩ : ∃ c₁, c₁ = if p.ack then c.storeAck p else c := ⟨_, rfl⟩
  have hack : Goes w bc bd lossy c d c₁ := by
    rw [hc₁]
    split_ifs
    · exact goes_storeAck h hp
    · exact .refl h
  rw [← hc₁]
  dsimp only
  split_ifs
  · exact hack.trans (goes_cspClose hack.linked)
  · have hwait : Linked w bc bd { c₁ with state := .closeWait, timestamp := env.now } d :=
      { hack.linked with
        state := fun _ => ⟨nofun, nofun⟩
        sndUna := fun hs => hack.linked.sndUna (.inr (hs.resolve_left nofun)) }
    have hgo : Goes w bc bd lossy c₁ d { c₁ with state := .closeWait, timestamp := env.now } :=
      .quiet hwait rfl rfl
    have hsend : Goes w bc bd lossy _ d
        (cspRdpSendCmp env { c₁ with state := .closeWait, timestamp := env.now } none
          { ack := true, rst := true } c₁.sndNxt c₁.rcvCur) :=
      goes_sendCurrent hwait rfl rfl
    exact hack.trans (hgo.trans (hsend.trans (goes_discardClose hsend.linked)))
  · exact hack

theorem goes_newPacketOpen {p : RdpPacket} (h : At w bc bd lossy c d) (hw : w < 2 ^ 14)
    (hpos : 0 < w) (hp : Truthful w bd bc (stream d c) (stream c d) p) (hfresh : Fresh c p)
    (hsettled : Settled (stream d c)) (hroom : Room c ∨ lossy) :
    Goes w bc bd lossy c d (newPacketOpen env c p) := by
  unfold newPacketOpen
  by_cases hsyn : (p.syn || !p.ack) = true
  · rw [if_pos hsyn]
    split_ifs
    · exact goes_discardClose h.linked
    · exact .refl h.linked
  rw [if_neg hsyn]
  have hp : Arrives w bc bd c d p := ⟨by simp at hsyn; exact hsyn.1, hp, hfresh⟩
  by_cases hwindow : c.seqInWindow p.seqNr = true
  swap
  · rw [if_pos (by simpa using hwindow)]
    split_ifs
    · exact goes_sendSynAck h.linked
    · exact goes_sendEack h
  rw [if_neg (by simpa using hwindow)]
  by_cases hack : c.ackInWindow p.ackNr = true
  swap
  · rw [if_pos (by simpa using hack)]
    exact .refl h.linked
  rw [if_neg (by simpa using hack)]
  by_cases hrcvd : c.state = .synRcvd ∧ p.ackNr ≠ c.sndIss
  · rw [if_pos hrcvd]
    exact goes_discardClose h.linked
  rw [if_neg hrcvd]
  dsimp only
  have hstore : Goes w bc bd lossy c d (c.storeAck p) := goes_storeAck h.linked hp
  have hopen : Goes w bc bd lossy (c.storeAck p) d { c.storeAck p with state := .open } :=
    .quiet { hstore.linked with state := fun _ => ⟨nofun, nofun⟩, sndUna := fun _ => hp.reads } rfl rfl
  have hgo := hstore.trans hopen
  have hp' : Arrives w bc bd { c.storeAck p with state := .open } d p :=
    ⟨hp.syn, hp.truthful.moves hgo.back hgo.forth, ⟨hp.fresh.position, hp.fresh.acked⟩⟩
  split_ifs with heak hdata hdata
  · exact hgo
  · exact hgo.trans (goes_flushEack (hgo.at h) hp' heak hw)
  · exact hgo
  · refine hgo.trans (goes_newPacketData (hgo.at h) hw hpos hp' ?_ hwindow (hgo.settled hsettled)
      hroom)
    exact hp.truthful.data hp.syn (by simpa using heak) hdata

theorem goes_newPacketCloseWait {p : RdpPacket} (h : Linked w bc bd c d)
    (hp : Truthful w bd bc (stream d c) (stream c d) p) (hfresh : Fresh c p) :
    Goes w bc bd lossy c d (newPacketCloseWait env c p) := by
  unfold newPacketCloseWait
  split_ifs with hsyn hack
  · exact .refl h
  · exact .refl h
  · have hstore : Goes w bc bd lossy c d (c.storeAck p) :=
      goes_storeAck h ⟨by simp at hsyn; exact hsyn.1, hp, hfresh⟩
    exact hstore.trans (goes_sendCurrent hstore.linked rfl rfl)

theorem goes_cspRdpNewPacket {p : RdpPacket} (h : At w bc bd lossy c d) (hw : w < 2 ^ 14)
    (hpos : 0 < w) (hopen : c.connState = .open)
    (hp : Truthful w bd bc (stream d c) (stream c d) p) (hfresh : Fresh c p)
    (hsettled : Settled (stream d c)) (hroom : Room c ∨ lossy) :
    Goes w bc bd lossy c d (cspRdpNewPacket env c p) := by
  unfold cspRdpNewPacket
  obtain ⟨hclosed, hsynSent⟩ := h.linked.state hopen
  split_ifs with hrst
  · refine goes_newPacketReset h.linked ⟨?_, hp, hfresh⟩
    cases hsyn : p.syn with
    | false => rfl
    | true => rw [(hp.syn hsyn).2] at hrst; cases hrst
  · cases hs : c.state with
    | closed => exact absurd hs hclosed
    | synSent => exact absurd hs hsynSent
    | synRcvd => exact goes_newPacketOpen h hw hpos hp hfresh hsettled hroom
    | «open» => exact goes_newPacketOpen h hw hpos hp hfresh hsettled hroom
    | closeWait => exact goes_newPacketCloseWait h.linked hp hfresh

/-! ## Timeouts -/

/-- An element whose number is not behind `snd_una` stays in the queue. -/
theorem timeoutElement_eq (env : RdpEnv) (c : RdpConn) (e : RdpElement) :
    timeoutElement env c e = none ∧ cspRdpSeqBefore e.packet.seqNr c.sndUna = true ∨
      ∃ e', timeoutElement env c e = some e' ∧ (e'.packet = e.packet ∨
        e'.packet = { e.packet with ackNr := c.rcvCur, acked := c.accepted }) := by
  unfold timeoutElement
  split_ifs with hbefore
  · exact .inl ⟨rfl, hbefore⟩
  · exact .inr ⟨_, rfl, .inr rfl⟩
  · exact .inr ⟨e, rfl, .inl rfl⟩

theorem timeoutPacket_some {e : RdpElement} {p : RdpPacket} (h : timeoutPacket env c e = some p) :
    p = { e.packet with ackNr := c.rcvCur, acked := c.accepted } := by
  unfold timeoutPacket at h
  dsimp only at h
  split_ifs at h
  exact (Option.some.inj h).symm

/-- An element with a new acknowledgement. -/
theorem Linked.stamped {e : RdpElement} (h : Linked w bc bd c d) (he : e ∈ c.txQueue) :
    Truthful w bc bd (stream c d) (stream d c)
      { e.packet with ackNr := c.rcvCur, acked := c.accepted } := by
  obtain ⟨ht, heak, -⟩ := h.txQueue e he
  refine ⟨ht.syn, ht.seqNr, fun _ => ⟨h.rcvCur, le_rfl⟩, ht.data, ?_⟩
  intro hp
  rw [show e.packet.eak = true from hp] at heak
  cases heak

theorem goes_messageTimeouts (h : At w bc bd lossy c d) :
    Goes w bc bd lossy c d (messageTimeouts env c) := by
  have hqueue : Goes w bc bd lossy c d
      { c with txQueue := c.txQueue.filterMap (timeoutElement env c) } := by
    refine goes_txQueue h.linked ?_ ?_
    · intro e' he'
      obtain ⟨e, he, heq⟩ := List.mem_filterMap.mp he'
      obtain ⟨ht, hflags⟩ := h.linked.txQueue e he
      rcases timeoutElement_eq env c e with ⟨hnone, -⟩ | ⟨e'', hsome, hpacket⟩
      · rw [hnone] at heq
        cases heq
      · obtain rfl := Option.some.inj (hsome.symm.trans heq)
        rcases hpacket with hpacket | hpacket <;> rw [hpacket]
        · exact ⟨ht, hflags⟩
        · exact ⟨h.linked.stamped he, hflags⟩
    · intro halive e he hsyn
      obtain ⟨ht, -, -, hlt⟩ := h.linked.txQueue e he
      rcases timeoutElement_eq env c e with ⟨-, hbefore⟩ | ⟨e', hsome, hpacket⟩
      · -- only packets that are acknowledged are behind `snd_una`
        refine .inr (.inl ?_)
        have hlt := (List.getElem?_eq_some_iff.mp (hlt hsyn).2).1
        have hlag := h.linked.lag
        have hsent : c.sent ≠ [] := List.ne_nil_of_length_pos (Nat.zero_lt_of_lt hlt)
        have hacked : c.acked ≤ d.accepted := h.forth.una_le
        by_cases hold : c.acked ≤ e.packet.position + 2 ^ 15
        · rw [cspRdpSeqBefore_iff (ht.seqNr hsyn) (h.linked.sndUna (.inr hsent)) (by omega)
            (by omega)] at hbefore
          show e.packet.position < d.accepted
          omega
        · show e.packet.position < d.accepted
          omega
      · refine .inl ⟨e', List.mem_filterMap.mpr ⟨e, he, hsome⟩, ?_, ?_⟩
        · rcases hpacket with hpacket | hpacket <;> rw [hpacket] <;> exact hsyn
        · rcases hpacket with hpacket | hpacket <;> rw [hpacket]
  have hout : Linked w bc bd (messageTimeouts env c) d := by
    refine { hqueue.linked with out := ?_ }
    intro p hp
    rcases List.mem_append.mp hp with hp | hp
    · exact hqueue.linked.out p hp
    · obtain ⟨e, he, heq⟩ := List.mem_filterMap.mp hp
      rw [timeoutPacket_some heq]
      exact (h.linked.stamped he).moves hqueue.forth hqueue.back
  exact hqueue.trans (.quiet hout rfl rfl)

theorem goes_cspRdpCheckTimeouts (h : At w bc bd lossy c d) :
    Goes w bc bd lossy c d (cspRdpCheckTimeouts env c) := by
  unfold cspRdpCheckTimeouts
  dsimp only
  split_ifs
  · exact goes_cspClose h.linked
  · exact goes_cspClose h.linked
  · exact .refl h.linked
  · have hgo : Goes w bc bd lossy c d (messageTimeouts env c) := goes_messageTimeouts h
    exact hgo.trans (goes_checkAck hgo.linked)

/-! ## The user's calls -/

/-- The test of `csp_rdp_send` is a window of `w` packets behind the first one. -/
theorem At.send_window (h : At w bc bd lossy c d) (hw : w < 2 ^ 14) (hstate : c.state = .open)
    (hafter : ¬ cspRdpSeqAfter c.sndNxt (c.sndUna + c.opt.windowSize.toUInt16) = true) :
    c.sent.length ≤ c.acked + w := by
  have hlag := h.linked.lag
  have hacked : c.acked ≤ d.accepted := h.forth.una_le
  have hnext : d.accepted ≤ c.sent.length := h.forth.next_le
  have hsize : c.opt.windowSize.toUInt16 = UInt16.ofNat w := by
    rw [← h.linked.window]
    rfl
  have hlast : Reads (c.sndUna + c.opt.windowSize.toUInt16) (bc + 1 + c.acked + w) := by
    rw [hsize]
    exact (h.linked.sndUna (.inl hstate)).add (reads_ofNat w)
  rw [cspRdpSeqAfter, cspRdpSeqBefore_iff hlast h.linked.sndNxt (by omega) (by omega)] at hafter
  omega

/-- Data goes into the queue under the next position. -/
theorem moves_queued {element : RdpElement} {seqNr : UInt16} {data : List UInt8}
    (hwindow : c.sent.length ≤ c.acked + w) (hsyn : element.packet.syn = false)
    (hposition : element.packet.position = c.sent.length) :
    Moves w lossy (stream c d)
      (stream { c with
        txQueue := c.txQueue ++ [element]
        sndNxt := seqNr
        sent := c.sent ++ [data] } d) := by
  have hsend : Moves w lossy (stream c d) _ := .single (.send _ data hwindow)
  have hset := setOf_mem_append_singleton (l := c.txQueue) (a := element) (k := c.sent.length)
    (R := fun e n => e.packet.syn = false ∧ e.packet.position = n)
    fun n => by rw [hsyn, hposition]; exact and_iff_right rfl
  unfold stream at hsend ⊢
  rw [hset]
  exact hsend

/-- A packet that RDP takes has the next number, which is in the window. -/
theorem goes_cspRdpSend {data : List UInt8} {p : RdpPacket} (h : At w bc bd lossy c d)
    (hw : w < 2 ^ 14) (hsend : cspRdpSend env c data = some (c', p)) :
    Goes w bc bd lossy c d c' ∧ Truthful w bc bd (stream c' d) (stream d c') p := by
  unfold cspRdpSend at hsend
  split_ifs at hsend with hstate hafter hbuffer hroom
  obtain ⟨rfl, rfl⟩ := Prod.mk.inj (Option.some.inj hsend)
  have hwindow := h.send_window hw (not_not.mp hstate) hafter
  obtain ⟨p, hp⟩ : ∃ p : RdpPacket, p =
      { ack := true, seqNr := c.sndNxt, ackNr := c.rcvCur, pri := c.pri, data := data,
        position := c.sent.length, acked := c.accepted } := ⟨_, rfl⟩
  obtain ⟨element, helement⟩ : ∃ element : RdpElement,
      element = { packet := p, timestamp := env.now, quarantine := 0 } := ⟨_, rfl⟩
  have hpacket : element.packet = p := by rw [helement]
  obtain ⟨c₁, hc₁⟩ : ∃ c₁, c₁ =
      { c with
        txQueue := c.txQueue ++ [element]
        sndNxt := c.sndNxt + 1
        sent := c.sent ++ [data] } := ⟨_, rfl⟩
  rw [← hp, ← helement, ← hc₁]
  have hmove : Moves w lossy (stream c d) (stream c₁ d) := by
    rw [hc₁]
    exact moves_queued hwindow (by rw [hpacket, hp]) (by rw [hpacket, hp])
  have hback : stream d c₁ = stream d c := by rw [hc₁]; rfl
  have hdata : (c.sent ++ [data])[c.sent.length]? = some data := List.getElem?_concat_length
  have htruth : Truthful w bc bd (stream c₁ d) (stream d c₁) p := by
    rw [hback, hp, hc₁]
    exact ⟨nofun, fun _ => h.linked.sndNxt, fun _ => ⟨h.linked.rcvCur, le_rfl⟩,
      fun _ _ _ => hdata, nofun⟩
  refine ⟨⟨⟨?_, hmove, hback ▸ .refl⟩, hback ▸ id⟩, htruth⟩
  have hold : ∀ q, Truthful w bc bd (stream c d) (stream d c) q →
      Truthful w bc bd (stream c₁ d) (stream d c₁) q := fun q hq => hq.moves hmove (hback ▸ .refl)
  subst hc₁
  refine { h.linked with
    sndNxt := ?_, sndUna := fun _ => h.linked.sndUna (.inl (not_not.mp hstate)), lag := ?_,
    txQueue := ?_, out := fun q hq => hold q (h.linked.out q hq) }
  · refine (h.linked.sndNxt.add reads_one).of_eq ?_
    rw [List.length_append, List.length_singleton]
    push_cast
    omega
  · rw [List.length_append, List.length_singleton]
    show c.sent.length + 1 ≤ c.acked + 2 ^ 15
    omega
  · intro e he
    rcases List.mem_append.mp he with he | he
    · obtain ⟨ht, heak, hrst, hflags⟩ := h.linked.txQueue e he
      exact ⟨hold _ ht, heak, hrst, fun hsyn =>
        ⟨(hflags hsyn).1, getElem?_of_prefix (List.prefix_append ..) (hflags hsyn).2⟩⟩
    · rw [List.mem_singleton.mp he, hpacket]
      rw [hp] at htruth ⊢
      exact ⟨htruth, rfl, rfl, fun _ => ⟨rfl, hdata⟩⟩

theorem goes_cspSend {pri : Fin 4} {data : List UInt8} (h : At w bc bd lossy c d)
    (hw : w < 2 ^ 14) : Goes w bc bd lossy c d (cspSend env c pri data) := by
  have hpri : Goes w bc bd lossy c d { c with pri := pri } := .quiet { h.linked with } rfl rfl
  unfold cspSend
  dsimp only
  split_ifs
  · exact hpri
  · cases hsend : cspRdpSend env { c with pri := pri } data with
    | none => exact hpri
    | some r =>
      obtain ⟨c₁, p⟩ := r
      obtain ⟨hgo, hp⟩ := goes_cspRdpSend (hpri.at h) hw hsend
      dsimp only
      split_ifs
      · exact hpri.trans (hgo.trans (.put hgo.linked hp))
      · exact hpri.trans hgo

theorem goes_cspRead (h : Linked w bc bd c d) : Goes w bc bd lossy c d (cspRead env c) := by
  unfold cspRead
  split_ifs
  · exact .refl h
  · cases (List.finRange 4).find? fun prio => !(c.readQueue prio).isEmpty with
    | none => exact .refl h
    | some prio =>
      have hread : Goes w bc bd lossy c d
          { c with readQueue := Function.update c.readQueue prio (c.readQueue prio).tail } :=
        .quiet { h with } rfl rfl
      exact hread.trans (goes_checkAck hread.linked)

end

end CspTerm.Csp.Rdp
