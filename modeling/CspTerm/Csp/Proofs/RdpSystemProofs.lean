import CspTerm.Csp.Proofs.RdpProofs
import Mathlib.Order.Interval.Finset.Nat

/-!
# Reliable connections over a network that loses, repeats and reorders packets

Whatever the network does, each side gets what the other one sent, in order, without anything twice
and without anything changed. Nothing is left out as long as the user's queues have room.
-/

namespace CspTerm.Csp.Rdp

open SelectiveRepeat

@[simp] theorem Side.other_other (i : Side) : i.other.other = i := by cases i <;> rfl

theorem Side.other_ne (i : Side) : i.other ≠ i := by cases i <;> exact nofun

/-! ## One event -/

/-- What holds of both sides, for counters that start at `b`. -/
structure Coupled (w : Nat) (b : Side → Int) (lossy : Prop) (s : RdpSystem) : Prop where
  at_ : ∀ i, At w (b i) (b i.other) lossy (s i) (s i.other)
  settled : ∀ i, Settled (stream (s i.other) (s i))

section

variable {w : Nat} {b : Side → Int} {lossy : Prop} {s : RdpSystem}

theorem Coupled.goes {i : Side} {c' : RdpConn} (h : Coupled w b lossy s)
    (hg : Goes w (b i) (b i.other) lossy (s i) (s i.other) c') :
    Coupled w b lossy (Function.update s i c') := by
  have hself : Function.update s i c' i = c' := Function.update_self ..
  have hother : Function.update s i c' i.other = s i.other := Function.update_of_ne i.other_ne ..
  have hi := hg.toAdvances.at (h.at_ i)
  have hj := h.at_ i.other
  rw [Side.other_other] at hj
  have hlinked := hj.linked.other hg.toAdvances
  have hsides : ∀ j, j = i ∨ j = i.other := by
    intro j
    cases i <;> cases j <;> simp [Side.other]
  refine ⟨?_, ?_⟩
  · intro j
    rcases hsides j with rfl | rfl
    · rw [hself, hother]
      exact hi
    · rw [Side.other_other, hself, hother]
      exact ⟨hlinked, hi.back, hi.forth⟩
  · intro j
    rcases hsides j with rfl | rfl
    · rw [hself, hother]
      exact hg.settled (h.settled j)
    · have hsettled := h.settled i.other
      rw [Side.other_other] at hsettled
      rw [Side.other_other, hself, hother]
      exact hsettled

/-- **One event** on one of the sides. -/
theorem Coupled.step {e : Side × RdpEvent} (h : Coupled w b lossy s) (hw : w < 2 ^ 14) (hpos : 0 < w)
    (hpossible : s.Possible e) (hroom : s.Roomy e ∨ lossy) : Coupled w b lossy (s.step e) := by
  obtain ⟨i, e⟩ := e
  refine h.goes ?_
  show Goes w (b i) (b i.other) lossy (s i) (s i.other) ((s i).handle e)
  have hi := h.at_ i
  cases e with
  | arrive env p =>
    obtain ⟨hout, hfresh⟩ := hpossible
    show Goes _ _ _ _ _ _ (if (s i).connState = .closed then s i else cspRdpNewPacket env (s i) p)
    split_ifs with hclosed
    · exact .refl hi.linked
    · have hopen : (s i).connState = .open := by
        cases hc : (s i).connState with
        | closed => exact absurd hc hclosed
        | «open» => rfl
      have htruth := (h.at_ i.other).linked.out p hout
      rw [Side.other_other] at htruth
      exact goes_cspRdpNewPacket hi hw hpos hopen htruth hfresh (h.settled i) hroom
  | send env pri data => exact goes_cspSend hi hw
  | read env => exact goes_cspRead hi.linked
  | timeouts env =>
    show Goes _ _ _ _ _ _ (if (s i).connState = .closed then s i else cspRdpCheckTimeouts env (s i))
    split_ifs
    · exact .refl hi.linked
    · exact goes_cspRdpCheckTimeouts hi
  | close env => exact goes_cspClose hi.linked

/-- What the other side has not taken yet is in a queue, with its data. -/
theorem Coupled.held {i : Side} (h : Coupled w b lossy s) (hopen : ∀ j, (s j).connState = .open)
    {n : Nat} (hge : (s i.other).accepted ≤ n) {data : List UInt8} (hn : (s i).sent[n]? = some data) :
    (∃ e ∈ (s i).txQueue, e.packet.syn = false ∧ e.packet.position = n ∧ e.packet.data = data) ∨
      ∃ p ∈ (s i.other).rxQueue, p.position = n ∧ p.data = data := by
  have hat := h.at_ i
  have hlt := (List.getElem?_eq_some_iff.mp hn).1
  have hheld := hat.forth.held ⟨hopen i, hopen i.other⟩ n hge hlt
  rcases hheld with ⟨e, he, hsyn, hposition⟩ | ⟨p, hp, hposition⟩
  · have hdata := ((hat.linked.txQueue e he).2.2.2 hsyn).2
    rw [hposition, hn] at hdata
    exact .inl ⟨e, he, hsyn, hposition, (Option.some.inj hdata).symm⟩
  · have hdata := ((h.at_ i.other).linked.rxQueue p hp).2
    rw [Side.other_other, hposition, hn] at hdata
    exact .inr ⟨p, hp, hposition, (Option.some.inj hdata).symm⟩

/-- The packet that the other side waits for is sent again when it is due. -/
theorem Coupled.missing {i : Side} (h : Coupled w b lossy s) (hopen : ∀ j, (s j).connState = .open)
    {data : List UInt8} (hmissing : (s i).sent[(s i.other).accepted]? = some data) :
    ∃ e ∈ (s i).txQueue, e.packet.syn = false ∧ e.packet.position = (s i.other).accepted ∧
      e.packet.data = data := by
  refine (h.held hopen le_rfl hmissing).resolve_right ?_
  rintro ⟨p, hp, hposition, -⟩
  have hsettled := h.settled i.other
  rw [Side.other_other] at hsettled
  exact hsettled ⟨p, hp, hposition⟩

/-- It is not too old, with the latest acknowledgement. -/
theorem Coupled.fresh {i : Side} {p : RdpPacket} (h : Coupled w b lossy s) (hw : w < 2 ^ 14)
    (hposition : p.position = (s i.other).accepted) (hacked : p.acked = (s i).accepted) :
    Fresh (s i.other) p := by
  have hsent : (s i.other).sent.length ≤ (s i).accepted + w + 1 := (h.at_ i).back.window
  exact ⟨by omega, by omega⟩

theorem step_timeouts {i : Side} {env : RdpEnv} (hopen : (s i).connState = .open) :
    s.step (i, .timeouts env) = Function.update s i (cspRdpCheckTimeouts env (s i)) := by
  show Function.update s i (if (s i).connState = .closed then s i
    else cspRdpCheckTimeouts env (s i)) = _
  rw [if_neg (by rw [hopen]; exact nofun)]

theorem step_arrive {i : Side} {env : RdpEnv} {p : RdpPacket} (hopen : (s i).connState = .open) :
    s.step (i, .arrive env p) = Function.update s i (cspRdpNewPacket env (s i) p) := by
  show Function.update s i (if (s i).connState = .closed then s i
    else cspRdpNewPacket env (s i) p) = _
  rw [if_neg (by rw [hopen]; exact nofun)]

end

/-! ## What goes over the network -/

theorem testBit_flags : ∀ rst eak ack syn : Bool,
    let flags := (rst.toNat + 2 * eak.toNat + 4 * ack.toNat + 8 * syn.toNat).toUInt8.toNat
    flags.testBit 0 = rst ∧ flags.testBit 1 = eak ∧ flags.testBit 2 = ack ∧
      flags.testBit 3 = syn := by
  decide

theorem ofBytes_bytes (h : RdpHeader) : RdpHeader.ofBytes h.bytes = h := by
  obtain ⟨⟨syn, ack, eak, rst⟩, seqNr, ackNr⟩ := h
  obtain ⟨hrst, heak, hack, hsyn⟩ := testBit_flags rst eak ack syn
  have hseq (h : RdpHeader) : (h.bytes.drop 1).take 2 = bytes16 (cspHton16 h.seqNr) := rfl
  have hacknr (h : RdpHeader) : (h.bytes.drop 3).take 2 = bytes16 (cspHton16 h.ackNr) := rfl
  rw [RdpHeader.ofBytes, hseq, hacknr]
  simp only [word16_bytes16, cspNtoh16_cspHton16]
  rw [RdpHeader.bytes, List.getD_cons_zero]
  simp only [hrst, heak, hack, hsyn]

/-- A header comes off a packet as it was put on. -/
theorem cspRdpHeaderRef_add (payload : List UInt8) (h : RdpHeader) :
    cspRdpHeaderRef (cspRdpHeaderAdd payload h) = h ∧
      cspRdpHeaderRemove (cspRdpHeaderAdd payload h) = payload := by
  have hlen : (cspRdpHeaderAdd payload h).length - rdpHeaderSize = payload.length := by
    rw [cspRdpHeaderAdd, List.length_append]
    exact Nat.add_sub_cancel ..
  rw [cspRdpHeaderRef, cspRdpHeaderRemove, hlen, cspRdpHeaderAdd, List.drop_left, List.take_left]
  exact ⟨ofBytes_bytes h, rfl⟩

theorem bytes_options (o : RdpOptions) : RdpOptions.ofBytes o.bytes = o := by
  have hdata : ∀ i, data32 o.bytes i
      = cspNtoh32 (word32 ((o.bytes.drop (4 * i)).take 4)) := fun _ => rfl
  unfold RdpOptions.ofBytes
  rw [hdata, hdata, hdata, hdata, hdata, hdata]
  have h0 : (o.bytes.drop (4 * 0)).take 4 = bytes32 (cspHton32 o.windowSize) := rfl
  have h1 : (o.bytes.drop (4 * 1)).take 4 = bytes32 (cspHton32 o.connTimeout) := rfl
  have h2 : (o.bytes.drop (4 * 2)).take 4 = bytes32 (cspHton32 o.packetTimeout) := rfl
  have h3 : (o.bytes.drop (4 * 3)).take 4 = bytes32 (cspHton32 o.delayedAcks) := rfl
  have h4 : (o.bytes.drop (4 * 4)).take 4 = bytes32 (cspHton32 o.ackTimeout) := rfl
  have h5 : (o.bytes.drop (4 * 5)).take 4 = bytes32 (cspHton32 o.ackDelayCount) := rfl
  simp only [h0, h1, h2, h3, h4, h5, word32_bytes32, cspNtoh32_cspHton32]

/-! ## The opening -/

theorem reads_toNat (v : UInt16) : Reads v v.toNat :=
  ((BitVec.ofInt_natCast 16 v.toNat).trans (BitVec.ofNat_toNat 16 v.toBitVec)).symm

/-- A SYN message that goes out is in the queue for retransmission as well. -/
theorem sendCmp_syn {env : RdpEnv} {c : RdpConn} {data : Option (List UInt8)} {flags : RdpFlags}
    {seqNr ackNr : UInt16} {p : RdpPacket} (hsyn : flags.syn = true) (hqueue : c.txQueue = [])
    (hout : c.out = []) (hp : p ∈ (cspRdpSendCmp env c data flags seqNr ackNr).out) :
    p = cmpPacket c data flags seqNr ackNr ∧ ∃ rcvLsa ackTimestamp,
      cspRdpSendCmp env c data flags seqNr ackNr =
        { c with
          rcvLsa := rcvLsa, ackTimestamp := ackTimestamp
          txQueue := [{ packet := p, timestamp := env.now, quarantine := 0 }], out := [p] } := by
  have hroom : (flags.syn && decide (c.txQueue.length < cspRdpMaxWindow)) = true := by
    rw [hsyn, hqueue]
    rfl
  have heq : cspRdpSendCmp env c data flags seqNr ackNr =
      if (data.isNone || flags.syn) && !env.buffer then c
      else
        let kept : RdpConn := { c with
          txQueue := c.txQueue ++
            [{ packet := cmpPacket c data flags seqNr ackNr, timestamp := env.now, quarantine := 0 }] }
        if env.takes (cmpPacket c data flags seqNr ackNr) then
          if flags.ack then
            { kept.put (cmpPacket c data flags seqNr ackNr) with
              rcvLsa := ackNr, ackTimestamp := env.now }
          else kept.put (cmpPacket c data flags seqNr ackNr)
        else kept := by
    unfold cspRdpSendCmp
    dsimp only
    rw [if_pos hroom]
    rfl
  rw [heq] at hp ⊢
  dsimp only at hp ⊢
  split_ifs at hp ⊢
  · rw [hout] at hp
    cases hp
  · have hp : p ∈ c.out ++ [cmpPacket c data flags seqNr ackNr] := hp
    rw [hout, List.nil_append, List.mem_singleton] at hp
    refine ⟨hp, ackNr, env.now, ?_⟩
    rw [hp]
    simp [RdpConn.put, hqueue, hout]
  · have hp : p ∈ c.out ++ [cmpPacket c data flags seqNr ackNr] := hp
    rw [hout, List.nil_append, List.mem_singleton] at hp
    refine ⟨hp, c.rcvLsa, c.ackTimestamp, ?_⟩
    rw [hp]
    simp [RdpConn.put, hqueue, hout]
  · have hp : p ∈ c.out := hp
    rw [hout] at hp
    cases hp

/-- The client after its SYN message, in terms of that message. -/
theorem Opening.connecting_eq {o : Opening} (h : o.Valid) :
    (o.syn.syn = true ∧ o.syn.eak = false ∧ o.syn.rst = false ∧ o.syn.seqNr = o.connect.rand ∧
        o.syn.data = o.opt.bytes) ∧
      ∃ rcvLsa ackTimestamp, o.connecting =
        { cspRdpAllocate o.opt false o.clientPri o.clientTime with
          sndIss := o.connect.rand, sndNxt := o.connect.rand + 1, sndUna := o.connect.rand
          state := .synSent, rcvLsa := rcvLsa, ackTimestamp := ackTimestamp
          txQueue := [{ packet := o.syn, timestamp := o.connect.now, quarantine := 0 }]
          out := [o.syn] } := by
  have hsyn := h.syn
  unfold connecting cspRdpConnect cspRdpSendSyn at hsyn ⊢
  split_ifs at hsyn ⊢
  · cases hsyn
  · obtain ⟨hp, rcvLsa, ackTimestamp, heq⟩ := sendCmp_syn rfl rfl rfl hsyn
    refine ⟨?_, rcvLsa, ackTimestamp, heq⟩
    rw [hp]
    exact ⟨rfl, rfl, rfl, rfl, rfl⟩

/-- The server after its answer. -/
theorem Opening.accepting_eq {o : Opening} (h : o.Valid) :
    (o.synAck.syn = true ∧ o.synAck.ack = true ∧ o.synAck.eak = false ∧ o.synAck.rst = false ∧
        o.synAck.seqNr = o.accept.rand ∧ o.synAck.ackNr = o.connect.rand) ∧
      ∃ rcvLsa ackTimestamp, o.accepting =
        { cspRdpAllocate o.serverOpt true o.serverPri o.serverTime with
          sndIss := o.accept.rand, sndNxt := o.accept.rand + 1, sndUna := o.accept.rand
          rcvCur := o.connect.rand, rcvIrs := o.connect.rand, opt := o.opt
          state := .synRcvd, rcvLsa := rcvLsa, ackTimestamp := ackTimestamp
          txQueue := [{ packet := o.synAck, timestamp := o.accept.now, quarantine := 0 }]
          out := [o.synAck] } := by
  obtain ⟨⟨hsyn, heak, hrst, hseq, hdata⟩, -⟩ := Opening.connecting_eq h
  have hout := h.synAck
  have hclosed : o.accepting = newPacketClosed o.accept
      (cspRdpAllocate o.serverOpt true o.serverPri o.serverTime) o.syn := by
    unfold accepting cspRdpNewPacket
    rw [hrst]
    rfl
  rw [hclosed] at hout ⊢
  unfold newPacketClosed at hout ⊢
  rw [hsyn, hdata, bytes_options, hseq] at hout ⊢
  obtain ⟨hp, rcvLsa, ackTimestamp, heq⟩ := sendCmp_syn rfl rfl rfl hout
  refine ⟨?_, rcvLsa, ackTimestamp, heq⟩
  rw [hp]
  exact ⟨rfl, rfl, rfl, rfl, rfl, rfl⟩

/-- Where the counters of both sides start. -/
def Opening.base (o : Opening) : Side → Int
  | .client => o.connect.rand.toNat
  | .server => o.accept.rand.toNat

theorem Truthful.of_syn {w : Nat} {bc bd : Int} {f b : State (List UInt8)} {p : RdpPacket}
    (hsyn : p.syn = true) (hrst : p.rst = false) (heak : p.eak = false) (hseq : Reads p.seqNr bc) :
    Truthful w bc bd f b p := by
  refine ⟨fun _ => ⟨hseq, hrst⟩, ?_, ?_, ?_, ?_⟩
  · exact fun h => nomatch hsyn.symm.trans h
  · exact fun h => nomatch hsyn.symm.trans h
  · exact fun h => nomatch hsyn.symm.trans h
  · exact fun h => nomatch heak.symm.trans h

/-- A side that has sent and received nothing but SYN messages. -/
theorem Linked.opening {w : Nat} {bc bd : Int} {c d : RdpConn} {p : RdpPacket} {timestamp : UInt32}
    (hstate : c.state ≠ .closed ∧ c.state ≠ .synSent) (hsent : c.sent = []) (hacked : c.acked = 0)
    (haccepted : c.accepted = 0) (hiss : Reads c.sndIss bc) (hnxt : c.sndNxt = c.sndIss + 1)
    (huna : c.state = .open → c.sndUna = c.sndIss + 1) (hcur : Reads c.rcvCur bd)
    (hirs : Reads c.rcvIrs bd) (hwindow : c.opt.windowSize.toNat = w)
    (hqueue : c.txQueue = [{ packet := p, timestamp := timestamp, quarantine := 0 }])
    (hrx : c.rxQueue = []) (hout : c.out = [p]) (hsyn : p.syn = true) (hrst : p.rst = false)
    (heak : p.eak = false) (hseq : Reads p.seqNr bc) : Linked w bc bd c d := by
  have hnext : Reads (c.sndIss + 1) (bc + 1) := hiss.add reads_one
  refine ⟨fun _ => hstate, ?_, ?_, hiss, ?_, hirs, hwindow, ?_, ?_, ?_, ?_, ?_⟩
  · rw [hnxt, hsent]
    exact hnext.of_eq (by simp)
  · rintro (hs | hs)
    · rw [huna hs, hacked]
      exact hnext.of_eq (by simp)
    · exact absurd hsent hs
  · rw [haccepted]
    exact hcur.of_eq (by simp)
  · rw [hsent]
    exact Nat.zero_le _
  · rw [hqueue]
    intro e he
    rw [List.mem_singleton.mp he]
    exact ⟨.of_syn hsyn hrst heak hseq, heak, hrst, fun h => nomatch hsyn.symm.trans h⟩
  · rw [hrx]
    exact nofun
  · rw [hrx]
    exact .nil
  · rw [hout]
    intro q hq
    rw [List.mem_singleton.mp hq]
    exact .of_syn hsyn hrst heak hseq

/-- The client before its last message of the opening. -/
def Opening.finishing (o : Opening) : RdpConn :=
  { o.connecting with
    rcvCur := o.synAck.seqNr, rcvIrs := o.synAck.seqNr, rcvLsa := o.synAck.seqNr - 1
    sndUna := o.synAck.ackNr + 1, ackTimestamp := o.finish.now, state := .open }

theorem Opening.linked_finishing {o : Opening} (h : o.Valid) (d : RdpConn) :
    Linked o.opt.windowSize.toNat (o.base .client) (o.base .server) o.finishing d ∧
      o.finishing.sent = [] ∧ o.finishing.acked = 0 ∧ o.finishing.accepted = 0 ∧
      o.finishing.rxQueue = [] ∧ o.finishing.passed = [] := by
  obtain ⟨⟨hsyn, heak, hrst, hseq, -⟩, rcvLsa, ackTimestamp, hconnecting⟩ := o.connecting_eq h
  obtain ⟨⟨-, -, -, -, hseq', hack'⟩, -⟩ := o.accepting_eq h
  have hserver : Reads o.synAck.seqNr (o.base .server) := by
    rw [hseq']
    exact reads_toNat _
  have hclient : Reads o.syn.seqNr (o.base .client) := by
    rw [hseq]
    exact reads_toNat _
  unfold finishing
  rw [hconnecting]
  refine ⟨?_, rfl, rfl, rfl, rfl, rfl⟩
  exact .opening ⟨nofun, nofun⟩ rfl rfl rfl (reads_toNat _) rfl (fun _ => by rw [hack']) hserver
    hserver rfl rfl rfl rfl hsyn hrst heak hclient

theorem Opening.linked_accepting {o : Opening} (h : o.Valid) (d : RdpConn) :
    Linked o.opt.windowSize.toNat (o.base .server) (o.base .client) o.accepting d ∧
      o.accepting.sent = [] ∧ o.accepting.acked = 0 ∧ o.accepting.accepted = 0 ∧
      o.accepting.rxQueue = [] ∧ o.accepting.passed = [] := by
  obtain ⟨⟨hsyn, -, heak, hrst, hseq, -⟩, rcvLsa, ackTimestamp, haccepting⟩ := o.accepting_eq h
  have hserver : Reads o.synAck.seqNr (o.base .server) := by
    rw [hseq]
    exact reads_toNat _
  rw [haccepting]
  refine ⟨?_, rfl, rfl, rfl, rfl, rfl⟩
  exact .opening ⟨nofun, nofun⟩ rfl rfl rfl (reads_toNat _) rfl nofun (reads_toNat _)
    (reads_toNat _) rfl rfl rfl rfl hsyn hrst heak hserver

theorem stream_initial (w : Nat) (lossy : Prop) {c d : RdpConn} (hsent : c.sent = [])
    (hacked : c.acked = 0) (haccepted : d.accepted = 0) (hrx : d.rxQueue = [])
    (hpassed : d.passed = []) : Inv w lossy (stream c d) ∧ Settled (stream c d) := by
  have hearly : (stream c d).early = ∅ := by
    simp [stream, hrx]
  refine ⟨.initial hsent hacked haccepted hearly hpassed, ?_⟩
  rw [Settled, hearly]
  exact Set.notMem_empty _

/-- The connection after its opening. -/
theorem Opening.coupled {o : Opening} (h : o.Valid) (lossy : Prop) :
    Coupled o.opt.windowSize.toNat o.base lossy o.system := by
  obtain ⟨s, hs⟩ : ∃ s : RdpSystem, s = fun
    | .client => o.finishing
    | .server => o.accepting := ⟨_, rfl⟩
  obtain ⟨hc, hcsent, hcacked, hcaccepted, hcrx, hcpassed⟩ := o.linked_finishing h o.accepting
  obtain ⟨hd, hdsent, hdacked, hdaccepted, hdrx, hdpassed⟩ := o.linked_accepting h o.finishing
  have hforth (lossy) := stream_initial o.opt.windowSize.toNat lossy hcsent
    hcacked hdaccepted hdrx hdpassed
  have hback (lossy) := stream_initial o.opt.windowSize.toNat lossy hdsent
    hdacked hcaccepted hcrx hcpassed
  have hcoupled : Coupled o.opt.windowSize.toNat o.base lossy s := by
    subst hs
    refine ⟨?_, ?_⟩
    · rintro (_ | _)
      · exact ⟨hc, (hforth lossy).1, (hback lossy).1⟩
      · exact ⟨hd, (hback lossy).1, (hforth lossy).1⟩
    · rintro (_ | _)
      · exact (hback lossy).2
      · exact (hforth lossy).2
  have hgoes : Goes o.opt.windowSize.toNat (o.base .client) (o.base .server) lossy o.finishing
      o.accepting (o.system .client) := by
    obtain ⟨⟨hsyn', hack', -, hrst', -, -⟩, -⟩ := o.accepting_eq h
    obtain ⟨-, rcvLsa, ackTimestamp, hconnecting⟩ := o.connecting_eq h
    have hstate : o.connecting.state = .synSent := by rw [hconnecting]
    have heq : o.system .client =
        if o.finishing.opt.delayedAcks = 0 then
          cspRdpSendCmp o.finish o.finishing none { ack := true } o.finishing.sndNxt
            o.finishing.rcvCur
        else o.finishing := by
      show cspRdpNewPacket o.finish o.connecting o.synAck = _
      unfold cspRdpNewPacket newPacketSynSent
      simp only [hrst', hstate, hsyn', hack', Bool.and_self, if_true]
      rfl
    rw [heq]
    split_ifs
    · exact goes_sendCurrent hc rfl rfl
    · exact .refl hc
  have hsystem : o.system = Function.update s .client (o.system .client) := by
    funext i
    subst hs
    cases i <;> rfl
  rw [hsystem]
  refine hcoupled.goes (i := .client) ?_
  subst hs
  exact hgoes

/-! ## Runs -/

/-- **Every run** from the opening of a connection. -/
theorem Opening.coupled_run {o : Opening} (h : o.Valid) {lossy : Prop}
    {events : List (Side × RdpEvent)}
    (hrun : Run.Guarded RdpSystem.step (fun s e => s.Possible e ∧ (s.Roomy e ∨ lossy)) o.system
      events) :
    Coupled o.opt.windowSize.toNat o.base lossy (events.foldl RdpSystem.step o.system) := by
  refine Run.foldl_inv (I := Coupled o.opt.windowSize.toNat o.base lossy) ?_ (o.coupled h lossy) hrun
  intro s e hs he
  exact hs.step h.window_lt h.window_pos he.1 he.2

theorem Opening.coupled_possible {o : Opening} (h : o.Valid) {events : List (Side × RdpEvent)}
    (hrun : Run.Guarded RdpSystem.step RdpSystem.Possible o.system events) :
    Coupled o.opt.windowSize.toNat o.base True (events.foldl RdpSystem.step o.system) :=
  o.coupled_run h (hrun.mono fun _ _ he => ⟨he, .inr trivial⟩)

/-- What a call meets when everything is in order. -/
def RdpEnv.good (now : UInt32) : RdpEnv :=
  { now := now, rand := 7, buffer := true, takes := fun _ => true, backlog := true }

/-- A connection with a window of two packets. -/
def Opening.two : Opening :=
  let opt : RdpOptions :=
    { windowSize := 2, connTimeout := 10000, packetTimeout := 1000, delayedAcks := 0,
      ackTimeout := 0, ackDelayCount := 0 }
  { opt := opt, connect := .good 0, accept := .good 0, finish := .good 0, clientPri := cspPrioHigh,
    serverPri := cspPrioHigh, clientTime := 0, serverTime := 0, serverOpt := opt
    syn :=
      { syn := true, seqNr := 7, ackNr := 0, pri := cspPrioHigh, data := opt.bytes, position := 0,
        acked := 0 }
    synAck :=
      { syn := true, ack := true, seqNr := 7, ackNr := 7, pri := cspPrioHigh, data := [],
        position := 0, acked := 0 } }

theorem Opening.two_valid : Opening.two.Valid :=
  ⟨List.mem_cons_self, List.mem_cons_self, by decide, by decide⟩

/-- The acknowledgement of the client arrives, and it sends a packet. -/
def twoEvents : List (Side × RdpEvent) :=
  [(.server, .arrive (.good 0)
      { ack := true, seqNr := 8, ackNr := 7, pri := cspPrioHigh, data := [], position := 0,
        acked := 0 }),
    (.client, .send (.good 0) cspPrioHigh [1])]

theorem possible_twoEvents :
    Run.Guarded RdpSystem.step RdpSystem.Possible Opening.two.system twoEvents :=
  ⟨⟨List.mem_of_getElem? (i := 1) rfl, by decide, by decide⟩, trivial, trivial⟩

/-- The client sends one more packet, which arrives before the other one, and that one comes twice. -/
def lateEvents : List (Side × RdpEvent) :=
  let first : RdpPacket :=
    { ack := true, seqNr := 8, ackNr := 7, pri := cspPrioHigh, data := [1], position := 0,
      acked := 0 }
  let second : RdpPacket :=
    { ack := true, seqNr := 9, ackNr := 7, pri := cspPrioHigh, data := [2, 3], position := 1,
      acked := 0 }
  twoEvents ++
    [(.client, .send (.good 0) cspPrioHigh [2, 3]), (.server, .arrive (.good 0) second),
      (.server, .arrive (.good 0) first), (.server, .arrive (.good 0) first)]

theorem possible_lateEvents :
    Run.Guarded RdpSystem.step RdpSystem.Possible Opening.two.system lateEvents :=
  ⟨⟨List.mem_of_getElem? (i := 1) rfl, by decide, by decide⟩, trivial, trivial,
    ⟨List.mem_of_getElem? (i := 3) rfl, by decide, by decide⟩,
    ⟨List.mem_of_getElem? (i := 2) rfl, by decide, by decide⟩,
    ⟨List.mem_of_getElem? (i := 2) rfl, by decide, by decide⟩, trivial⟩

/-- **Nothing comes twice, changed or out of order**, in either direction, whatever the network does
with the packets and whenever the queues are full. -/
theorem rdp_in_order {o : Opening} (h : o.Valid) {events : List (Side × RdpEvent)}
    (hrun : Run.Guarded RdpSystem.step RdpSystem.Possible o.system events) (i : Side) :
    ((events.foldl RdpSystem.step o.system) i.other).passed.Sublist
      ((events.foldl RdpSystem.step o.system) i).sent :=
  (((o.coupled_possible h hrun).at_ i).forth.sublist).trans (List.take_sublist _ _)

theorem rdp_in_order_late :
    let s := lateEvents.foldl RdpSystem.step Opening.two.system
    (s .server).passed = [[1], [2, 3]] ∧ (s .server).passed.Sublist (s .client).sent :=
  ⟨rfl, rdp_in_order Opening.two_valid possible_lateEvents .client⟩

/-- **Nothing is left out** as long as the user's queues have room: what the user was given is the
beginning of what the other side sent. -/
theorem rdp_complete {o : Opening} (h : o.Valid) {events : List (Side × RdpEvent)}
    (hrun : Run.Guarded RdpSystem.step (fun s e => s.Possible e ∧ s.Roomy e) o.system events)
    (i : Side) :
    ((events.foldl RdpSystem.step o.system) i.other).passed <+:
      ((events.foldl RdpSystem.step o.system) i).sent := by
  have hcoupled : Coupled o.opt.windowSize.toNat o.base False
      (events.foldl RdpSystem.step o.system) :=
    o.coupled_run h (hrun.mono fun _ _ he => ⟨he.1, .inl he.2⟩)
  have hpassed := (hcoupled.at_ i).forth.passed not_false
  rw [show ((events.foldl RdpSystem.step o.system) i.other).passed = _ from hpassed]
  exact List.take_prefix _ _

/-- The packet arrives. -/
theorem rdp_complete_two :
    let events := twoEvents ++ [(.server, .arrive (.good 0)
      { ack := true, seqNr := 8, ackNr := 7, pri := cspPrioHigh, data := [1], position := 0,
        acked := 0 })]
    ((events.foldl RdpSystem.step Opening.two.system) .server).passed <+:
      ((events.foldl RdpSystem.step Opening.two.system) .client).sent := by
  intro events
  have hrun : Run.Guarded RdpSystem.step (fun s e => s.Possible e ∧ s.Roomy e) Opening.two.system
      events :=
    ⟨⟨⟨List.mem_of_getElem? (i := 1) rfl, by decide, by decide⟩, show ∀ prio : Fin 4, _ < _ by decide⟩,
      ⟨trivial, trivial⟩,
      ⟨⟨List.mem_of_getElem? (i := 2) rfl, by decide, by decide⟩, show ∀ prio : Fin 4, _ < _ by decide⟩,
      trivial⟩
  exact rdp_complete Opening.two_valid hrun .client

/-- **The window**: no side is more than a window and one packet ahead of the other, and the queue for
early packets holds less than that. -/
theorem rdp_window {o : Opening} (h : o.Valid) {events : List (Side × RdpEvent)}
    (hrun : Run.Guarded RdpSystem.step RdpSystem.Possible o.system events) (i : Side)
    {s : RdpSystem} (hs : s = events.foldl RdpSystem.step o.system) :
    (s i).sent.length ≤ (s i.other).accepted + o.opt.windowSize.toNat + 1 ∧
      (s i.other).rxQueue.length ≤ o.opt.windowSize.toNat := by
  have hcoupled := o.coupled_possible h hrun
  rw [← hs] at hcoupled
  have hforth := (hcoupled.at_ i).forth
  have hwindow : (s i).sent.length ≤ (s i.other).accepted + o.opt.windowSize.toNat + 1 :=
    hforth.window
  refine ⟨hwindow, ?_⟩
  have hnodup := (hcoupled.at_ i.other).linked.rxNodup
  have hsettled := hcoupled.settled i.other
  rw [Side.other_other] at hsettled
  have hsub : ((s i.other).rxQueue.map (·.position)).toFinset ⊆
      Finset.Ioo (s i.other).accepted (s i).sent.length := by
    intro n hn
    obtain ⟨p, hp, hposition⟩ := List.mem_map.mp (List.mem_toFinset.mp hn)
    have hearly := hforth.early n ⟨p, hp, hposition⟩
    have hne : n ≠ (s i.other).accepted := fun heq => hsettled ⟨p, hp, hposition.trans heq⟩
    exact Finset.mem_Ioo.mpr ⟨Nat.lt_of_le_of_ne hearly.1 hne.symm, hearly.2⟩
  have hcard := Finset.card_le_card hsub
  rw [List.toFinset_card_of_nodup hnodup, List.length_map, Nat.card_Ioo] at hcard
  omega

theorem rdp_window_two :
    let s := twoEvents.foldl RdpSystem.step Opening.two.system
    (s .client).sent.length ≤ (s .server).accepted + 3 ∧ (s .server).rxQueue.length ≤ 2 :=
  rdp_window Opening.two_valid possible_twoEvents .client rfl

/-! ## Progress -/

section

variable {w : Nat} {bc bd : Int} {lossy : Prop} {c d : RdpConn} {env : RdpEnv}

theorem sendCmp_progress {data : Option (List UInt8)} {flags : RdpFlags} {seqNr ackNr : UInt16} :
    (cspRdpSendCmp env c data flags seqNr ackNr).accepted = c.accepted ∧
      ∀ p ∈ c.out, p ∈ (cspRdpSendCmp env c data flags seqNr ackNr).out := by
  unfold cspRdpSendCmp
  dsimp only
  split_ifs <;> refine ⟨rfl, fun p hp => ?_⟩ <;> first
    | exact hp
    | exact List.mem_append_left _ hp

theorem checkAck_progress : (cspRdpCheckAck env c).accepted = c.accepted ∧
    ∀ p ∈ c.out, p ∈ (cspRdpCheckAck env c).out := by
  unfold cspRdpCheckAck
  dsimp only
  split_ifs
  · exact sendCmp_progress
  · exact ⟨rfl, fun _ => id⟩

theorem flush_accepted_le {rounds : Nat} :
    c.accepted ≤ (cspRdpRxQueueFlush env rounds c).accepted := by
  induction rounds generalizing c with
  | zero => exact le_rfl
  | succ rounds ih =>
    rw [cspRdpRxQueueFlush]
    rcases rxQueueTake (c.rcvCur + 1) c.rxQueue.length c.rxQueue with ⟨_ | p, queue⟩
    · exact le_rfl
    · refine le_trans ?_ ih
      show c.accepted ≤ (cspRdpReceiveData env { c with rxQueue := queue } p).1.accepted + 1
      rcases receiveData_cases env { c with rxQueue := queue } p with
        ⟨socket, heq, -⟩ | heq <;> rw [heq] <;> exact Nat.le_succ _

/-- A packet that is due is sent again, with the latest acknowledgement. -/
theorem timeouts_resend {e : RdpElement} (h : At w bc bd lossy c d) (he : e ∈ c.txQueue)
    (hsyn : e.packet.syn = false) (hacked : c.acked ≤ e.packet.position)
    (hstate : c.state = .open) (hsocket : c.socket = false)
    (hdue : cspRdpTimeAfter env.now (e.timestamp + c.opt.packetTimeout) = true)
    (hbuffer : env.buffer = true) (htakes : ∀ p, env.takes p = true) :
    { e.packet with ackNr := c.rcvCur, acked := c.accepted } ∈ (cspRdpCheckTimeouts env c).out := by
  obtain ⟨ht, -, -, hflags⟩ := h.linked.txQueue e he
  have hlt := (List.getElem?_eq_some_iff.mp (hflags hsyn).2).1
  have hlag := h.linked.lag
  have hafter : ¬ cspRdpSeqBefore e.packet.seqNr c.sndUna = true := by
    rw [cspRdpSeqBefore_iff (ht.seqNr hsyn) (h.linked.sndUna (.inl hstate)) (by omega) (by omega)]
    omega
  have hpacket : timeoutPacket env c e
      = some { e.packet with ackNr := c.rcvCur, acked := c.accepted } := by
    unfold timeoutPacket
    rw [if_neg hafter, if_pos hdue]
    dsimp only
    rw [hbuffer, htakes]
    rfl
  have hout : { e.packet with ackNr := c.rcvCur, acked := c.accepted }
      ∈ (messageTimeouts env c).out :=
    List.mem_append_right _ (List.mem_filterMap.mpr ⟨e, he, hpacket⟩)
  unfold cspRdpCheckTimeouts
  rw [hsocket, hstate]
  exact checkAck_progress.2 _ hout

theorem newPacketData_accepts {p : RdpPacket} (hseq : p.seqNr = c.rcvCur + 1)
    (hroom : (c.readQueue p.pri).length < cspRxQueueLength)
    (hbacklog : c.socket = false ∨ env.backlog = true) :
    c.accepted < (newPacketData env c p).accepted := by
  unfold newPacketData
  rw [if_neg (not_not_intro hseq)]
  rcases receiveData_cases env c p with ⟨socket, heq, ⟨hsocket, hfull⟩ | hfull⟩ | heq
  · rw [hsocket, hfull] at hbacklog
    simp at hbacklog
  · exact absurd hroom (Nat.not_lt.mpr hfull)
  · rw [heq]
    refine Nat.lt_of_lt_of_le ?_ flush_accepted_le
    rw [checkAck_progress.1]
    exact Nat.lt_succ_self _

/-- The packet that is waited for is accepted. -/
theorem newPacket_accepts (env : RdpEnv) {p : RdpPacket} (h : At w bc bd lossy c d) (hw : w < 2 ^ 14)
    (hpos : 0 < w) (hp : Arrives w bc bd c d p) (hstate : c.state = .open)
    (hposition : p.position = c.accepted) (hge : c.acked ≤ p.acked)
    (hle : p.acked ≤ c.sent.length) (hack : p.ack = true)
    (heak : p.eak = false) (hrst : p.rst = false) (hdata : p.data ≠ [])
    (hroom : (c.readQueue p.pri).length < cspRxQueueLength)
    (hbacklog : c.socket = false ∨ env.backlog = true) :
    c.accepted < (cspRdpNewPacket env c p).accepted := by
  have hread := hp.truthful.seqNr hp.syn
  have hackRead := (hp.truthful.ackNr hp.syn).1
  have hlag := h.linked.lag
  have hseq : p.seqNr = c.rcvCur + 1 :=
    (hread.of_eq (by omega : bd + 1 + (p.position : Int) = bd + c.accepted + 1)).eq
      (h.linked.rcvCur.add reads_one)
  have hinWindow : c.seqInWindow p.seqNr = true := by
    rw [RdpConn.seqInWindow, RdpConn.toUInt16_add, h.linked.window,
      cspRdpSeqBetween_iff hread (h.linked.rcvCur.add reads_one)
        (h.linked.rcvCur.add (reads_ofNat _)) (by push_cast; omega) (by push_cast; omega)
        (by push_cast; omega) (by push_cast; omega)]
    push_cast
    omega
  have hackWindow : c.ackInWindow p.ackNr = true := by
    rw [RdpConn.ackInWindow, RdpConn.toUInt16_sub, h.linked.window,
      cspRdpSeqBetween_iff hackRead
        (((h.linked.sndUna (.inl hstate)).sub reads_one).sub (reads_ofNat _))
        (h.linked.sndNxt.sub reads_one) (by push_cast; omega) (by push_cast; omega)
        (by push_cast; omega) (by push_cast; omega)]
    push_cast
    omega
  have hnew : cspRdpNewPacket env c p
      = newPacketData env { c.storeAck p with state := .open } p := by
    unfold cspRdpNewPacket newPacketOpen
    rw [hrst, hstate]
    simp only [hp.syn, hack, hinWindow, hackWindow, heak, hdata, Bool.not_true, Bool.or_self,
      Bool.false_eq_true, if_false, reduceCtorEq, false_and]
  rw [hnew]
  exact newPacketData_accepts (c := { c.storeAck p with state := .open }) hseq hroom hbacklog

end

end CspTerm.Csp.Rdp
