import CspTerm.Csp.Conn
import CspTerm.Csp.Memory

/-!
# The reliable datagram protocol (`csp_rdp.c`)

A connection with the RDP flag numbers its packets, keeps them until they are acknowledged and sends
them again when that takes too long. The receiver passes packets on in their order and keeps those
that come early. Every call is one atomic step, and `csp_get_ms` does not move on in it.
-/

namespace CspTerm.Csp.Rdp

/-- `CSP_RDP_MAX_WINDOW`: the places in the queue for retransmission; the one for early packets has
twice as many. -/
abbrev cspRdpMaxWindow : Nat := 20

/-- `CSP_PRIO_HIGH`. -/
def cspPrioHigh : Fin 4 := ⟨1, by decide⟩

/-! ## Headers -/

structure RdpFlags where
  syn : Bool := false
  ack : Bool := false
  eak : Bool := false
  rst : Bool := false
deriving DecidableEq, Repr

structure RdpHeader extends RdpFlags where
  seqNr : UInt16
  ackNr : UInt16
deriving DecidableEq, Repr

/-- The five bytes of `rdp_header_t`. -/
def RdpHeader.bytes (h : RdpHeader) : List UInt8 :=
  (h.rst.toNat + 2 * h.eak.toNat + 4 * h.ack.toNat + 8 * h.syn.toNat).toUInt8 ::
    (bytes16 (cspHton16 h.seqNr) ++ bytes16 (cspHton16 h.ackNr))

def RdpHeader.ofBytes (l : List UInt8) : RdpHeader :=
  let flags := (l.getD 0 0).toNat
  { rst := flags.testBit 0, eak := flags.testBit 1, ack := flags.testBit 2, syn := flags.testBit 3
    seqNr := cspNtoh16 (word16 ((l.drop 1).take 2))
    ackNr := cspNtoh16 (word16 ((l.drop 3).take 2)) }

/-- `sizeof(rdp_header_t)`. -/
def rdpHeaderSize : Nat := 5

/-- The header goes behind the data of a packet. -/
def cspRdpHeaderAdd (payload : List UInt8) (h : RdpHeader) : List UInt8 := payload ++ h.bytes

def cspRdpHeaderRef (payload : List UInt8) : RdpHeader :=
  .ofBytes (payload.drop (payload.length - rdpHeaderSize))

def cspRdpHeaderRemove (payload : List UInt8) : List UInt8 :=
  payload.take (payload.length - rdpHeaderSize)

/-! ## Comparing numbers and times that wrap around -/

def cspRdpSeqBetween (seq start last : UInt16) : Bool := last - start ≥ seq - start

def cspRdpSeqBefore (seq cmp : UInt16) : Bool := (seq - cmp).toInt16 < 0

def cspRdpSeqAfter (seq cmp : UInt16) : Bool := cspRdpSeqBefore cmp seq

def cspRdpTimeBefore (time cmp : UInt32) : Bool := (time - cmp).toInt32 < 0

def cspRdpTimeAfter (time cmp : UInt32) : Bool := cspRdpTimeBefore cmp time

/-! ## Connections -/

/-- The six options of `csp_rdp_set_opt`, which the first packet of a connection carries. -/
structure RdpOptions where
  windowSize : UInt32
  connTimeout : UInt32
  packetTimeout : UInt32
  delayedAcks : UInt32
  ackTimeout : UInt32
  ackDelayCount : UInt32
deriving DecidableEq, Repr

def RdpOptions.bytes (o : RdpOptions) : List UInt8 :=
  [o.windowSize, o.connTimeout, o.packetTimeout, o.delayedAcks, o.ackTimeout,
    o.ackDelayCount].flatMap fun x => bytes32 (cspHton32 x)

/-- `csp_ntoh32(packet->data32[i])`. -/
def data32 (data : List UInt8) (i : Nat) : UInt32 := cspNtoh32 (word32 ((data.drop (4 * i)).take 4))

def RdpOptions.ofBytes (data : List UInt8) : RdpOptions :=
  { windowSize := data32 data 0, connTimeout := data32 data 1, packetTimeout := data32 data 2,
    delayedAcks := data32 data 3, ackTimeout := data32 data 4, ackDelayCount := data32 data 5 }

/-- A packet of the protocol: header and data. -/
structure RdpPacket extends RdpHeader where
  pri : Fin 4
  data : List UInt8
  /-- The numbers behind `seqNr` and `ackNr`, counted from the first packet of the connection: how many
  packets went before this one, and how many are acknowledged. No code reads them. -/
  position : Nat
  acked : Nat

/-- `rdp_packet_t`: a packet in the queue for retransmission. -/
structure RdpElement where
  packet : RdpPacket
  timestamp : UInt32
  quarantine : UInt32

structure RdpConn where
  connState : ConnState
  state : RdpState
  sndNxt : UInt16
  sndUna : UInt16
  sndIss : UInt16
  rcvCur : UInt16
  rcvIrs : UInt16
  rcvLsa : UInt16
  opt : RdpOptions
  ackTimestamp : UInt32
  /-- When the connection was opened, or began to close. -/
  timestamp : UInt32
  txQueue : List RdpElement
  rxQueue : List RdpPacket
  /-- `conn->rx_queue`: what the user has not read yet. -/
  readQueue : Fin 4 → List (Option (List UInt8))
  /-- Whether the connection still has to be posted to its socket. -/
  socket : Bool
  /-- `idout.pri`. -/
  pri : Fin 4
  /-- The packets that the interface took, those that `csp_rdp_send` took, those that went to the
  user's queues, and how often `rcv_cur` went on and how far `snd_una` is. No code reads them. -/
  out : List RdpPacket
  sent : List (List UInt8)
  passed : List (List UInt8)
  accepted : Nat
  acked : Nat

/-- What a call meets: the time, a random number, whether there are buffers, what the interface takes
and whether the socket's queue has a place for the connection. -/
structure RdpEnv where
  now : UInt32
  rand : UInt16
  buffer : Bool
  takes : RdpPacket → Bool
  backlog : Bool

/-- `csp_conn_enqueue_packet` for the queue `prio`. -/
def RdpConn.enqueue (conn : RdpConn) (prio : Fin 4) (packet : Option (List UInt8)) :
    Option RdpConn :=
  if (conn.readQueue prio).length < cspRxQueueLength then
    some
      { conn with
        readQueue := Function.update conn.readQueue prio (conn.readQueue prio ++ [packet]) }
  else none

/-- `csp_send_direct` of a packet of the connection. -/
def RdpConn.put (conn : RdpConn) (packet : RdpPacket) : RdpConn :=
  { conn with out := conn.out ++ [packet] }

/-! ## Control messages -/

def cspRdpSendCmp (env : RdpEnv) (conn : RdpConn) (data : Option (List UInt8)) (flags : RdpFlags)
    (seqNr ackNr : UInt16) : RdpConn :=
  let packet : RdpPacket :=
    { toRdpFlags := flags, seqNr := seqNr, ackNr := ackNr, pri := min conn.pri cspPrioHigh,
      data := data.getD [], position := conn.sent.length, acked := conn.accepted }
  if (data.isNone || flags.syn) && !env.buffer then conn
  else
    -- a copy of SYN messages is kept
    let conn :=
      if flags.syn && conn.txQueue.length < cspRdpMaxWindow then
        { conn with
          txQueue := conn.txQueue ++ [{ packet := packet, timestamp := env.now, quarantine := 0 }] }
      else conn
    if env.takes packet then
      if flags.ack then { conn.put packet with rcvLsa := ackNr, ackTimestamp := env.now }
      else conn.put packet
    else conn

/-- `csp_rdp_send_eack`: the numbers of all early packets. -/
def cspRdpSendEack (env : RdpEnv) (conn : RdpConn) : RdpConn :=
  if !env.buffer then conn
  else
    cspRdpSendCmp env conn (some (conn.rxQueue.flatMap fun p => bytes16 (cspHton16 p.seqNr)))
      { ack := true, eak := true } conn.sndNxt conn.rcvCur

def cspRdpSendSyn (env : RdpEnv) (conn : RdpConn) : RdpConn :=
  if !env.buffer then conn
  else cspRdpSendCmp env conn (some conn.opt.bytes) { syn := true } conn.sndIss 0

/-! ## Received data -/

/-- `csp_rdp_receive_data`, and whether there was room. -/
def cspRdpReceiveData (env : RdpEnv) (conn : RdpConn) (packet : RdpPacket) : RdpConn × Bool :=
  if conn.socket && !env.backlog then (conn, false)
  else
    let conn := { conn with socket := false }
    match conn.enqueue packet.pri (some packet.data) with
    | none => (conn, false)
    | some conn => ({ conn with passed := conn.passed ++ [packet.data] }, true)

/-- The search of the queue for a number: packets are taken from the front and put back behind, up to
`n` of them. -/
def rxQueueTake (seqNr : UInt16) : Nat → List RdpPacket → Option RdpPacket × List RdpPacket
  | 0, queue => (none, queue)
  | _ + 1, [] => (none, [])
  | n + 1, packet :: queue =>
    if packet.seqNr = seqNr then (some packet, queue) else rxQueueTake seqNr n (queue ++ [packet])

/-- `csp_rdp_rx_queue_flush`. A packet that cannot be passed on is lost. -/
def cspRdpRxQueueFlush (env : RdpEnv) : Nat → RdpConn → RdpConn
  | 0, conn => conn
  | rounds + 1, conn =>
    match rxQueueTake (conn.rcvCur + 1) conn.rxQueue.length conn.rxQueue with
    | (none, queue) => { conn with rxQueue := queue }
    | (some packet, queue) =>
      let conn := (cspRdpReceiveData env { conn with rxQueue := queue } packet).1
      cspRdpRxQueueFlush env rounds
        { conn with rcvCur := conn.rcvCur + 1, accepted := conn.accepted + 1 }

/-- `csp_rdp_seq_in_rx_queue`, and the queue after it, which is turned as far as the search went. -/
def cspRdpSeqInRxQueue (seqNr : UInt16) : Nat → List RdpPacket → Bool × List RdpPacket
  | 0, queue => (false, queue)
  | _ + 1, [] => (false, [])
  | n + 1, packet :: queue =>
    if packet.seqNr = seqNr then (true, queue ++ [packet])
    else cspRdpSeqInRxQueue seqNr n (queue ++ [packet])

/-- `csp_rdp_rx_queue_add`, and whether the packet is in the queue now. -/
def cspRdpRxQueueAdd (conn : RdpConn) (packet : RdpPacket) : RdpConn × Bool :=
  match cspRdpSeqInRxQueue packet.seqNr conn.rxQueue.length conn.rxQueue with
  | (true, queue) => ({ conn with rxQueue := queue }, false)
  | (false, queue) =>
    if queue.length < 2 * cspRdpMaxWindow then ({ conn with rxQueue := queue ++ [packet] }, true)
    else ({ conn with rxQueue := queue }, false)

/-! ## Acknowledgements -/

/-- The numbers in an extended acknowledgement. -/
def eackNumbers : List UInt8 → List UInt16
  | a :: b :: data => cspNtoh16 (word16 [a, b]) :: eackNumbers data
  | _ => []

/-- A number that is greater than the element's makes its retransmission due. -/
def eackQuicken (env : RdpEnv) (conn : RdpConn) (e : RdpElement) (nr : UInt16) : RdpElement :=
  if nr > e.packet.seqNr && cspRdpTimeAfter env.now e.quarantine then
    { e with
      timestamp := env.now - conn.opt.packetTimeout - 1
      quarantine := env.now + conn.opt.packetTimeout / 2 }
  else e

def cspRdpFlushEack (env : RdpEnv) (conn : RdpConn) (data : List UInt8) : RdpConn :=
  let numbers := eackNumbers data
  { conn with
    txQueue := conn.txQueue.filterMap fun e =>
      if numbers.contains e.packet.seqNr then none
      else some (numbers.foldl (eackQuicken env conn) e) }

def cspRdpShouldAck (env : RdpEnv) (conn : RdpConn) : Bool :=
  if conn.opt.delayedAcks = 0 then conn.rcvLsa != conn.rcvCur
  else
    cspRdpTimeAfter env.now (conn.ackTimestamp + conn.opt.ackTimeout) ||
      cspRdpSeqAfter conn.rcvCur (conn.rcvLsa.toUInt32 + conn.opt.ackDelayCount).toUInt16

/-- `csp_rdp_check_ack`: an acknowledgement goes out only if all queues have room for two windows. -/
def cspRdpCheckAck (env : RdpEnv) (conn : RdpConn) : RdpConn :=
  let avail := (List.finRange 4).all fun prio =>
    2 * conn.opt.windowSize.toInt32.toInt < cspRxQueueLength - (conn.readQueue prio).length
  if avail && cspRdpShouldAck env conn then
    cspRdpSendCmp env conn none { ack := true } conn.sndNxt conn.rcvCur
  else conn

/-! ## Opening and closing -/

/-- `csp_rdp_close`, and whether it answers `CSP_ERR_AGAIN`. -/
def cspRdpClose (env : RdpEnv) (conn : RdpConn) : RdpConn × Bool :=
  match conn.state with
  | .closed => (conn, false)
  | .closeWait => ({ conn with state := .closed }, false)
  | _ =>
    (cspRdpSendCmp env { conn with state := .closeWait, timestamp := env.now } none
      { ack := true, rst := true } conn.sndNxt conn.rcvCur, true)

def cspRdpFlushAll (conn : RdpConn) : RdpConn := { conn with txQueue := [], rxQueue := [] }

/-- `csp_close` on a connection with the RDP flag. -/
def cspClose (env : RdpEnv) (conn : RdpConn) : RdpConn :=
  if conn.connState = .closed then conn
  else
    match cspRdpClose env conn with
    | (conn, true) => conn
    | (conn, false) =>
      cspRdpFlushAll { conn with connState := .closed, readQueue := fun _ => [] }

/-- A connection after `csp_conn_new` and `csp_rdp_allocate`; for one that comes in, `socket` is the
socket it has to be posted to. -/
def cspRdpAllocate (opt : RdpOptions) (socket : Bool) (pri : Fin 4) (now : UInt32) : RdpConn :=
  { connState := .open, state := .closed, sndNxt := 0, sndUna := 0, sndIss := 0, rcvCur := 0,
    rcvIrs := 0, rcvLsa := 0, opt := opt, ackTimestamp := 0, timestamp := now, txQueue := [],
    rxQueue := [], readQueue := fun _ => [], socket := socket, pri := pri, out := [], sent := [],
    passed := [], accepted := 0, acked := 0 }

/-- `csp_rdp_connect` up to the point where it waits for the answer. -/
def cspRdpConnect (env : RdpEnv) (opt : RdpOptions) (conn : RdpConn) : RdpConn :=
  cspRdpSendSyn env
    { conn with
      opt := opt, ackTimestamp := env.now, sndIss := env.rand, sndNxt := env.rand + 1,
      sndUna := env.rand, state := .synSent }

/-! ## Sending -/

/-- `csp_rdp_send`. `none` when the packet is refused or the window does not open in time. -/
def cspRdpSend (env : RdpEnv) (conn : RdpConn) (data : List UInt8) : Option (RdpConn × RdpPacket) :=
  if conn.state ≠ .open then none
  else if cspRdpSeqAfter conn.sndNxt (conn.sndUna + conn.opt.windowSize.toUInt16) then none
  else if !env.buffer then none
  else if conn.txQueue.length < cspRdpMaxWindow then
    let packet : RdpPacket :=
      { ack := true, seqNr := conn.sndNxt, ackNr := conn.rcvCur, pri := conn.pri, data := data,
        position := conn.sent.length, acked := conn.accepted }
    some
      ({ conn with
          txQueue := conn.txQueue ++ [{ packet := packet, timestamp := env.now, quarantine := 0 }]
          sndNxt := conn.sndNxt + 1
          sent := conn.sent ++ [data] },
        packet)
  else none

/-- `csp_send_prio`. -/
def cspSend (env : RdpEnv) (conn : RdpConn) (pri : Fin 4) (data : List UInt8) : RdpConn :=
  let conn := { conn with pri := pri }
  if conn.connState = .closed then conn
  else
    match cspRdpSend env conn data with
    | none => conn
    | some (conn, packet) => if env.takes packet then conn.put packet else conn

/-- What a read takes: the first entry of the most urgent queue that has one. -/
def cspRead (env : RdpEnv) (conn : RdpConn) : RdpConn :=
  if conn.connState = .closed then conn
  else
    match (List.finRange 4).find? fun prio => !(conn.readQueue prio).isEmpty with
    | none => conn
    | some prio =>
      cspRdpCheckAck env
        { conn with
          readQueue := Function.update conn.readQueue prio (conn.readQueue prio).tail }

/-! ## Timeouts -/

/-- What becomes of an element of the queue for retransmission. -/
def timeoutElement (env : RdpEnv) (conn : RdpConn) (e : RdpElement) : Option RdpElement :=
  if cspRdpSeqBefore e.packet.seqNr conn.sndUna then none
  else if cspRdpTimeAfter env.now (e.timestamp + conn.opt.packetTimeout) then
    some
      { e with
        packet := { e.packet with ackNr := conn.rcvCur, acked := conn.accepted }
        timestamp := env.now }
  else some e

/-- The packet that is sent again for an element. -/
def timeoutPacket (env : RdpEnv) (conn : RdpConn) (e : RdpElement) : Option RdpPacket :=
  if cspRdpSeqBefore e.packet.seqNr conn.sndUna then none
  else if cspRdpTimeAfter env.now (e.timestamp + conn.opt.packetTimeout) then
    let packet := { e.packet with ackNr := conn.rcvCur, acked := conn.accepted }
    if env.buffer && env.takes packet then some packet else none
  else none

/-- The loop over the queue for retransmission. -/
def messageTimeouts (env : RdpEnv) (conn : RdpConn) : RdpConn :=
  { conn with
    txQueue := conn.txQueue.filterMap (timeoutElement env conn)
    out := conn.out ++ conn.txQueue.filterMap (timeoutPacket env conn) }

def cspRdpCheckTimeouts (env : RdpEnv) (conn : RdpConn) : RdpConn :=
  let late := cspRdpTimeAfter env.now (conn.timestamp + conn.opt.connTimeout)
  if conn.socket && late then cspClose env conn
  else if conn.state = .closeWait then if late then cspClose env conn else conn
  else cspRdpCheckAck env (messageTimeouts env conn)

/-! ## The state machine -/

/-- `discard_close`: the user is woken up, or the connection that no user has is closed. -/
def discardClose (env : RdpEnv) (conn : RdpConn) : RdpConn :=
  if !conn.socket then (conn.enqueue lastRxq none).getD conn else cspClose env conn

/-- `snd_una = ack_nr + 1`. -/
def RdpConn.storeAck (conn : RdpConn) (p : RdpPacket) : RdpConn :=
  { conn with sndUna := p.ackNr + 1, acked := p.acked }

def newPacketReset (env : RdpEnv) (conn : RdpConn) (p : RdpPacket) : RdpConn :=
  let conn := if p.ack then conn.storeAck p else conn
  if conn.state = .closeWait ∨ conn.state = .closed then cspClose env conn
  else if p.seqNr = conn.rcvCur + 1 then
    let conn := { conn with state := .closeWait, timestamp := env.now }
    discardClose env
      (cspRdpSendCmp env conn none { ack := true, rst := true } conn.sndNxt conn.rcvCur)
  else conn

def newPacketClosed (env : RdpEnv) (conn : RdpConn) (p : RdpPacket) : RdpConn :=
  if !p.syn then
    discardClose env (cspRdpSendCmp env conn none { rst := true } conn.sndNxt conn.rcvCur)
  else
    let conn :=
      { conn with
        sndIss := env.rand, sndNxt := env.rand + 1, sndUna := env.rand
        rcvCur := p.seqNr, rcvIrs := p.seqNr, rcvLsa := p.seqNr
        opt := .ofBytes p.data
        state := .synRcvd }
    cspRdpSendCmp env conn none { ack := true, syn := true } conn.sndIss conn.rcvIrs

def newPacketSynSent (env : RdpEnv) (conn : RdpConn) (p : RdpPacket) : RdpConn :=
  if p.syn && p.ack then
    let conn :=
      { conn with
        rcvCur := p.seqNr, rcvIrs := p.seqNr, rcvLsa := p.seqNr - 1, sndUna := p.ackNr + 1
        ackTimestamp := env.now
        state := .open }
    if conn.opt.delayedAcks = 0 then
      cspRdpSendCmp env conn none { ack := true } conn.sndNxt conn.rcvCur
    else conn
  else if p.ack then cspRdpSendCmp env conn none { rst := true } conn.sndNxt conn.rcvCur
  else discardClose env conn

/-- The two ends of the range of sequence numbers that the receiver takes, and of the one for
acknowledgements. -/
def RdpConn.seqInWindow (conn : RdpConn) (seqNr : UInt16) : Bool :=
  cspRdpSeqBetween seqNr (conn.rcvCur + 1)
    (conn.rcvCur.toUInt32 + conn.opt.windowSize * 2).toUInt16

def RdpConn.ackInWindow (conn : RdpConn) (ackNr : UInt16) : Bool :=
  cspRdpSeqBetween ackNr (conn.sndUna.toUInt32 - 1 - conn.opt.windowSize * 2).toUInt16
    (conn.sndNxt - 1)

/-- A packet with data in an open connection. -/
def newPacketData (env : RdpEnv) (conn : RdpConn) (p : RdpPacket) : RdpConn :=
  if p.seqNr ≠ conn.rcvCur + 1 then
    match cspRdpRxQueueAdd conn p with
    | (conn, true) => cspRdpSendEack env conn
    | (conn, false) => conn
  else
    match cspRdpReceiveData env conn p with
    | (conn, false) => conn
    | (conn, true) =>
      let conn :=
        cspRdpCheckAck env { conn with rcvCur := p.seqNr, accepted := conn.accepted + 1 }
      cspRdpRxQueueFlush env conn.rxQueue.length conn

def newPacketOpen (env : RdpEnv) (conn : RdpConn) (p : RdpPacket) : RdpConn :=
  if p.syn || !p.ack then
    if p.seqNr ≠ conn.rcvIrs then discardClose env conn else conn
  else if !conn.seqInWindow p.seqNr then
    if conn.state = .synRcvd then
      cspRdpSendCmp env conn none { ack := true, syn := true } conn.sndIss conn.rcvIrs
    else cspRdpSendEack env conn
  else if !conn.ackInWindow p.ackNr then conn
  else if conn.state = .synRcvd ∧ p.ackNr ≠ conn.sndIss then discardClose env conn
  else
    let conn := { conn.storeAck p with state := .open }
    if p.eak then if p.data = [] then conn else cspRdpFlushEack env conn p.data
    else if p.data = [] then conn
    else newPacketData env conn p

def newPacketCloseWait (env : RdpEnv) (conn : RdpConn) (p : RdpPacket) : RdpConn :=
  if p.syn || !p.ack then conn
  else if !conn.ackInWindow p.ackNr then conn
  else
    cspRdpSendCmp env (conn.storeAck p) none { ack := true, rst := true } conn.sndNxt conn.rcvCur

/-- `csp_rdp_new_packet`. -/
def cspRdpNewPacket (env : RdpEnv) (conn : RdpConn) (p : RdpPacket) : RdpConn :=
  if p.rst then newPacketReset env conn p
  else
    match conn.state with
    | .closed => newPacketClosed env conn p
    | .synSent => newPacketSynSent env conn p
    | .synRcvd => newPacketOpen env conn p
    | .open => newPacketOpen env conn p
    | .closeWait => newPacketCloseWait env conn p

/-! ## Two sides -/

inductive Side
  | client
  | server
deriving DecidableEq, Repr

def Side.other : Side → Side
  | client => server
  | server => client

abbrev RdpSystem := Side → RdpConn

/-- What happens to one of the sides. -/
inductive RdpEvent
  | arrive (env : RdpEnv) (p : RdpPacket)
  | send (env : RdpEnv) (pri : Fin 4) (data : List UInt8)
  | read (env : RdpEnv)
  | timeouts (env : RdpEnv)
  | close (env : RdpEnv)

/-- The calls that the router and the user make. A closed connection gets no packets. -/
def RdpConn.handle (conn : RdpConn) : RdpEvent → RdpConn
  | .arrive env p => if conn.connState = .closed then conn else cspRdpNewPacket env conn p
  | .send env pri data => cspSend env conn pri data
  | .read env => cspRead env conn
  | .timeouts env => if conn.connState = .closed then conn else cspRdpCheckTimeouts env conn
  | .close env => cspClose env conn

def RdpSystem.step (s : RdpSystem) (e : Side × RdpEvent) : RdpSystem :=
  Function.update s e.1 ((s e.1).handle e.2)

/-- A packet of the other side whose numbers are not too old. -/
structure Fresh (c : RdpConn) (p : RdpPacket) : Prop where
  position : c.accepted ≤ p.position + 2 ^ 15
  acked : c.sent.length ≤ p.acked + 2 ^ 15

/-- What arrives was sent by the other side, any number of times and in any order, and is not too
old. -/
def RdpSystem.Possible (s : RdpSystem) : Side × RdpEvent → Prop
  | (i, .arrive _ p) => p ∈ (s i.other).out ∧ Fresh (s i) p
  | _ => True

/-- The user's queues have room for a packet and for all early ones. -/
def Room (c : RdpConn) : Prop :=
  ∀ prio, (c.readQueue prio).length + c.rxQueue.length < cspRxQueueLength

def RdpSystem.Roomy (s : RdpSystem) : Side × RdpEvent → Prop
  | (i, .arrive _ _) => Room (s i)
  | _ => True

/-! ## The opening of a connection -/

/-- What the three calls meet that open a connection, and the two messages between them. -/
structure Opening where
  opt : RdpOptions
  connect : RdpEnv
  accept : RdpEnv
  finish : RdpEnv
  clientPri : Fin 4
  serverPri : Fin 4
  clientTime : UInt32
  serverTime : UInt32
  serverOpt : RdpOptions
  syn : RdpPacket
  synAck : RdpPacket

def Opening.connecting (o : Opening) : RdpConn :=
  cspRdpConnect o.connect o.opt (cspRdpAllocate o.opt false o.clientPri o.clientTime)

def Opening.accepting (o : Opening) : RdpConn :=
  cspRdpNewPacket o.accept (cspRdpAllocate o.serverOpt true o.serverPri o.serverTime) o.syn

/-- Both sides when the client has the answer of the server. -/
def Opening.system (o : Opening) : RdpSystem
  | .client => cspRdpNewPacket o.finish o.connecting o.synAck
  | .server => o.accepting

structure Opening.Valid (o : Opening) : Prop where
  syn : o.syn ∈ o.connecting.out
  synAck : o.synAck ∈ o.accepting.out
  window_pos : 0 < o.opt.windowSize.toNat
  window_lt : o.opt.windowSize.toNat < 2 ^ 14

end CspTerm.Csp.Rdp
