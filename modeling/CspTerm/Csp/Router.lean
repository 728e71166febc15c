import CspTerm.Csp.Conn

/-!
# The router (`csp_route.c`, `csp_udp.c`, `csp_rdp.c`)

The router takes packets from the network side and delivers them to connections. What the security
checks and RDP's sequence numbers decide about a packet is part of the router's input.
-/

namespace CspTerm.Csp

/-- What RDP's header says about a packet, as far as connections and buffers are concerned. -/
inductive RdpVerdict
  | reset (inSequence : Bool)
  | syn
  /-- An acknowledgement without data that is in order. -/
  | ack
  /-- To be discarded, the connection staying open. -/
  | drop
  /-- To be discarded, the connection being closed. -/
  | invalid
  | early
  | data
deriving DecidableEq, Repr

/-- What the router meets while it works on one packet. -/
structure RouteOutcome where
  /-- Whether the interface takes a packet that is for another node. -/
  forwarded : Bool
  secure : Bool
  rdp : RdpVerdict

def cspConnEnqueuePacket (s : CspStack) (i : Fin cspConnMax) (packet : Option CspPacket) :
    Option CspStack :=
  ((s.conns i).rxQueue.enqueue packet).map fun r => s.setConn i { s.conns i with rxQueue := r }

/-- The queueing of a connection to its socket: `none` if the accept queue is full. -/
def postToSocket (s : CspStack) (i : Fin cspConnMax) : Option CspStack :=
  if s.backlog.length < backlogLength then
    some { s.setConn i { s.conns i with socket := false } with backlog := s.backlog ++ [i] }
  else none

def cspUdpNewPacket (s : CspStack) (i : Fin cspConnMax) (packet : CspPacket) : CspStack :=
  match cspConnEnqueuePacket s i (some packet) with
  | none => cspBufferFree s
  | some s =>
    if (s.conns i).socket then (postToSocket s i).getD (cspClose s i) else s

/-- `csp_rdp_receive_data`, and whether it returns `CSP_ERR_NONE`. -/
def cspRdpReceiveData (s : CspStack) (i : Fin cspConnMax) (packet : CspPacket) : CspStack × Bool :=
  match if (s.conns i).socket then postToSocket s i else some s with
  | none => (s, false)
  | some s =>
    match cspConnEnqueuePacket s i (some packet) with
    | none => (s, false)
    | some s => (s, true)

/-- The label `discard_close`: user space is woken by a NULL pointer, or has not got the connection
yet. -/
def rdpDiscardClose (s : CspStack) (i : Fin cspConnMax) : CspStack :=
  cspBufferFree
    (if (s.conns i).socket then cspClose s i else (cspConnEnqueuePacket s i none).getD s)

def CspStack.setRdpState (s : CspStack) (i : Fin cspConnMax) (r : RdpState) : CspStack :=
  s.setConn i { s.conns i with rdpState := r }

/-- The states `RDP_SYN_RCVD` and `RDP_OPEN`: a packet that passes the checks opens the connection. -/
def rdpOpenPacket (s : CspStack) (i : Fin cspConnMax) (packet : CspPacket) :
    RdpVerdict → CspStack
  | .invalid => rdpDiscardClose s i
  | .ack => cspBufferFree (s.setRdpState i .open)
  -- kept in RDP's own queue until the gap is filled
  | .early => (s.setRdpState i .open).handOver
  | .data =>
    match cspRdpReceiveData (s.setRdpState i .open) i packet with
    | (s, true) => s
    | (s, false) => cspBufferFree s
  | _ => cspBufferFree s

def cspRdpNewPacket (s : CspStack) (i : Fin cspConnMax) (packet : CspPacket) (v : RdpVerdict) :
    CspStack :=
  match v with
  | .reset inSequence =>
    if (s.conns i).rdpState = .closeWait ∨ (s.conns i).rdpState = .closed then
      cspClose (cspBufferFree s) i
    else if inSequence then rdpDiscardClose (s.setRdpState i .closeWait) i
    else cspBufferFree s
  | v =>
    match (s.conns i).rdpState with
    | .closed =>
      if v = .syn then cspBufferFree (s.setRdpState i .synRcvd) else rdpDiscardClose s i
    | .synSent =>
      if v = .ack then cspBufferFree (s.setRdpState i .open)
      else if v = .drop then cspBufferFree s
      else rdpDiscardClose s i
    | .synRcvd | .open => rdpOpenPacket s i packet v
    | .closeWait => cspBufferFree s

/-- The identifier of the answers on a new connection. -/
def answerId (address : Fin 32) (id : CspId) : CspId :=
  { pri := id.pri, src := address, dst := id.src, dport := id.sport, sport := id.dport,
    flags := id.flags }

/-- The delivery of a packet to a connection by the transport layer. -/
def transportNewPacket (s : CspStack) (i : Fin cspConnMax) (packet : CspPacket) (v : RdpVerdict) :
    CspStack :=
  if packet.id.rdp then cspRdpNewPacket s i packet v else cspUdpNewPacket s i packet

/-- `csp_route_work` on a packet that is in the router's hands. -/
def cspRouteWork (s : CspStack) (packet : CspPacket) (o : RouteOutcome) : CspStack :=
  if packet.id.dst ≠ s.address ∧ packet.id.dst ≠ cspBroadcastAddr then
    if o.forwarded then s.handOver else cspBufferFree s
  else
    match cspConnFind s packet.id.sameConn with
    | some i => if o.secure then transportNewPacket s i packet o.rdp else cspBufferFree s
    | none =>
      if packet.id.dport.val ≥ cspAny then cspBufferFree s
      else if !o.secure then cspBufferFree s
      else
        match cspConnNew packet.id (answerId s.address packet.id) s with
        | none => cspBufferFree s
        | some (i, s) =>
          transportNewPacket (s.setConn i { s.conns i with socket := true }) i packet o.rdp

/-- The router asks for a new connection: the packet is for this node and for a port with a socket,
it passes the security checks, and it belongs to no open connection. -/
def NeedsConn (s : CspStack) (packet : CspPacket) (o : RouteOutcome) : Prop :=
  (packet.id.dst = s.address ∨ packet.id.dst = cspBroadcastAddr) ∧
    cspConnFind s packet.id.sameConn = none ∧ packet.id.dport.val < cspAny ∧ o.secure = true

instance (s : CspStack) (packet : CspPacket) (o : RouteOutcome) :
    Decidable (NeedsConn s packet o) :=
  inferInstanceAs (Decidable (_ ∧ _))

/-- `csp_conn_check_timeouts` for one slot whose time is up: an RDP connection that nobody has
accepted or that is in `RDP_CLOSE_WAIT` is closed. -/
def cspConnTimeout (s : CspStack) (i : Fin cspConnMax) : CspStack :=
  if (s.conns i).state = .open ∧ (s.conns i).idin.rdp = true ∧
      ((s.conns i).socket = true ∨ (s.conns i).rdpState = .closeWait) then
    cspClose s i
  else s

/-- One packet that `csp_rdp_rx_queue_flush` takes from RDP's own queue to the connection, and whether
it is lost: the result of `csp_rdp_receive_data` is ignored, so without room for the packet nobody
has it any more. -/
def rdpRelease (s : CspStack) (i : Fin cspConnMax) (packet : CspPacket) : CspStack × Bool :=
  if (s.conns i).state = .open ∧ (s.conns i).rdpState = .open ∧ 0 < s.network then
    match cspRdpReceiveData s.takeOver i packet with
    | (s, received) => (s, !received)
  else (s, false)

/-- If RDP has an early packet for the connection, there is room for it in the receive queue, and in
the accept queue if the connection still has to be posted. -/
def EarlyFits (s : CspStack) (i : Fin cspConnMax) (packet : CspPacket) : Prop :=
  (s.conns i).state = .open ∧ (s.conns i).rdpState = .open ∧ 0 < s.network →
    ((s.conns i).socket = true → s.backlog.length < backlogLength) ∧
      ((s.conns i).rxQueue.queue packet.id.pri).length < cspRxQueueLength

instance (s : CspStack) (i : Fin cspConnMax) (packet : CspPacket) :
    Decidable (EarlyFits s i packet) :=
  inferInstanceAs (Decidable (_ → _))

end CspTerm.Csp
