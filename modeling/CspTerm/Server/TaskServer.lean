import CspTerm.Server.Handlers

/-!
# The server task (`task_server.c`)

The machine interleaves the server with the router and the rest of the network layer. The server
takes one step at a time: it accepts, reads, handles a packet, closes the connection inside the
switch and closes it once more after the loop.
-/

namespace CspTerm.Server

open CspTerm.Csp

inductive Pc
  | accept
  | read (i : Fin cspConnMax)
  /-- With a packet in hand that was read when the connection's identifier was `id`. -/
  | handle (i : Fin cspConnMax) (id : CspId) (packet : CspPacket)
  | closeInner (i : Fin cspConnMax)
  | closeOuter (i : Fin cspConnMax)

def Pc.conn : Pc → Option (Fin cspConnMax)
  | .accept => none
  | .read i | .handle i _ _ | .closeInner i | .closeOuter i => some i

def Pc.inHand : Pc → Nat
  | .handle .. => 1
  | _ => 0

/-- If the server is about to hand a packet to a handler, the connection's slot and the identifier
under which the packet was read satisfy `Q`. -/
def Pc.Serving (Q : Fin cspConnMax → CspId → Prop) : Pc → Prop
  | .handle i id _ => Q i id
  | _ => True

instance {Q : Fin cspConnMax → CspId → Prop} [∀ i id, Decidable (Q i id)] :
    (pc : Pc) → Decidable (pc.Serving Q)
  | .handle i id _ => inferInstanceAs (Decidable (Q i id))
  | .accept | .read _ | .closeInner _ | .closeOuter _ => .isTrue trivial

/-- A downlink packet as `receive_packet` records it. -/
structure Downlink where
  /-- The identifier of the connection that the packet was read from. -/
  idin : CspId
  header : HeaderValues
deriving DecidableEq, Repr

/-- The state of the station's network side. -/
structure ServerState where
  csp : CspStack
  pc : Pc
  /-- The connections that were given to FTP tasks. -/
  ftp : List (Fin cspConnMax)
  /-- How each packet obtained from `csp_read` was released, newest first. No code reads this. -/
  ledger : List (List BufferUse)
  /-- The downlink packets recorded so far, newest first. No code reads this. -/
  downlinks : List Downlink
  /-- How many buffers RDP has left behind. No code reads this. -/
  lost : Nat

/-- The state in which the server first waits for a connection. -/
def ServerState.init (address : Fin 32) (sport : Fin 32) : ServerState :=
  { csp := cspSocket (cspInit address sport), pc := .accept, ftp := [], ledger := [],
    downlinks := [], lost := 0 }

/-- The `switch` on the destination port. -/
def dispatch (o : Outcomes) (i : Fin cspConnMax) (packet : CspPacket) (h : Hand) :
    Option HeaderValues × Hand :=
  if (h.csp.conns i).idin.dport = myPort then receivePacket o h
  else if (h.csp.conns i).idin.dport = rePort then (none, replyData o h)
  else if (h.csp.conns i).idin.dport = pingRxPort then (none, receiveData h)
  else if (h.csp.conns i).idin.dport = csptermPortRparam then (none, h.release o.object)
  else if (h.csp.conns i).idin.dport = csptermPortGscript then (none, h.release o.object)
  else (none, cspServiceHandler o i packet h)

def taskServer (s : ServerState) (o : Outcomes) : ServerState :=
  match s.pc with
  | .accept =>
    match cspAccept s.csp with
    | none => s
    | some (i, csp) =>
      if (csp.conns i).idin.dport = csptermPortFtp then { s with csp := csp, ftp := i :: s.ftp }
      else { s with csp := csp, pc := .read i }
  | .read i =>
    match cspRead s.csp i with
    | (none, csp) => { s with csp := csp, pc := .closeOuter i }
    | (some packet, csp) => { s with csp := csp, pc := .handle i (s.csp.conns i).idin packet }
  | .handle i id packet =>
    match dispatch o i packet { csp := s.csp, uses := [] } with
    | (header, h) =>
      { s with
        csp := h.csp, pc := .closeInner i, ledger := h.uses :: s.ledger,
        downlinks := header.toList.map (fun v => { idin := id, header := v }) ++ s.downlinks }
  | .closeInner i => { s with csp := cspClose s.csp i, pc := .read i }
  | .closeOuter i => { s with csp := cspClose s.csp i, pc := .accept }

/-- The steps of the station's network side. -/
inductive Label
  | server (o : Outcomes)
  /-- The router works on a packet. -/
  | route (packet : CspPacket) (o : RouteOutcome)
  /-- RDP gives up on the connection of a slot. -/
  | timeout (i : Fin cspConnMax)
  | release (i : Fin cspConnMax) (packet : CspPacket)
  | take
  | give
  /-- `csp_rdp_send_cmp`, which has got a buffer for a SYN, takes another one for the copy that is to
  be kept. Without one it returns and leaves the SYN behind. -/
  | cloneSyn
  /-- RDP puts a packet back into its queue for retransmission. The user's task may have filled the
  queue meanwhile; the result is ignored. -/
  | requeue (room : Bool)
  /-- An FTP task takes a packet from its connection and frees it. -/
  | ftpRead (i : Fin cspConnMax)
  | ftpClose (i : Fin cspConnMax)

/-- A buffer of the network side that nobody has any more. -/
def ServerState.lose (s : ServerState) : ServerState :=
  { s with csp := s.csp.takeOver, lost := s.lost + 1 }

/-- One step. A label that has nothing to work on changes nothing. -/
def step (s : ServerState) : Label → ServerState
  | .server o => taskServer s o
  | .route packet o =>
    if s.csp.network = 0 then s
    else { s with csp := cspRouteWork s.csp.takeOver packet o }
  | .timeout i => { s with csp := cspConnTimeout s.csp i }
  | .release i packet =>
    match rdpRelease s.csp i packet with
    | (csp, lost) => { s with csp := csp, lost := s.lost + lost.toNat }
  | .take =>
    if s.csp.free = 0 then s
    else { s with csp := { s.csp.handOver with free := s.csp.free - 1 } }
  | .give =>
    if s.csp.network = 0 then s
    else { s with csp := cspBufferFree s.csp.takeOver }
  | .cloneSyn =>
    if s.csp.network = 0 then s
    else if s.csp.free = 0 then s.lose
    else { s with csp := { s.csp.handOver with free := s.csp.free - 1 } }
  | .requeue room => if s.csp.network = 0 ∨ room = true then s else s.lose
  | .ftpRead i =>
    if i ∈ s.ftp then
      match cspRead s.csp i with
      | (none, csp) => { s with csp := csp }
      | (some _, csp) => { s with csp := cspBufferFree csp }
    else s
  | .ftpClose i =>
    if i ∈ s.ftp then { s with csp := cspClose s.csp i, ftp := s.ftp.erase i } else s

/-! ## Recording downlink packets -/

/-- Every downlink packet is recorded under the connection it was read from. -/
def OwnHeaders (s : ServerState) : Prop := ∀ d ∈ s.downlinks,
  d.header.src = d.idin.src ∧ d.header.dst = d.idin.dst ∧ d.header.sport = d.idin.sport ∧
    d.header.dport = d.idin.dport

/-- If this step hands a packet with a right checksum to `receive_packet`, the connection opened
last in the slot that the header values are read from has the addresses and ports of the connection
being served. -/
def HeaderSlotMatches (s : ServerState) : Label → Prop
  | .server o => s.pc.Serving fun i id =>
      (s.csp.conns i).idin.dport = myPort ∧ o.crc = true →
        (lastOpened s.csp.openings headerSlot).sameConn id = true
  | _ => True

/-! ## Conserving buffers and connections -/

/-- The server waits, no connection waits for it, and RDP has none that it is opening or closing. -/
def Idle (s : ServerState) : Prop :=
  s.pc = .accept ∧ s.csp.backlog = [] ∧
    ∀ i, (s.csp.conns i).state = .open → (s.csp.conns i).idin.rdp = false

/-- Every packet obtained from `csp_read` was released once; and when the server is idle, each
buffer is free or with the network, and each slot but that of the server's socket is closed. -/
def Conserved (s : ServerState) : Prop :=
  (∀ uses ∈ s.ledger, uses.length = 1) ∧
    (Idle s → s.csp.free + s.csp.network = cspBuffers ∧ closedSlots s.csp = {listener}ᶜ)

/-- This step does not serve a packet on port 15 or 17, and serves one on port 16 only while
`csp_connect` fails: a lock is not obtained or no slot is closed. RDP has room for each packet that
it moves, and a buffer for the copy of each SYN. -/
def Releases (s : ServerState) : Label → Prop
  | .server o => s.pc.Serving fun i _ =>
      (s.csp.conns i).idin.dport ≠ myPort ∧ (s.csp.conns i).idin.dport ≠ pingRxPort ∧
        ((s.csp.conns i).idin.dport = rePort → o.connect = false ∨ closedSlots s.csp = ∅)
  | .release i packet => EarlyFits s.csp i packet
  | .cloneSyn => s.csp.free ≠ 0
  | .requeue room => room = true
  | .route .. | .timeout _ | .take | .give | .ftpRead _ | .ftpClose _ => True

instance (s : ServerState) : (l : Label) → Decidable (Releases s l)
  | .server _ => inferInstanceAs (Decidable (Pc.Serving _ s.pc))
  | .release i packet => inferInstanceAs (Decidable (EarlyFits s.csp i packet))
  | .cloneSyn => inferInstanceAs (Decidable (_ ≠ _))
  | .requeue room => inferInstanceAs (Decidable (room = true))
  | .route .. | .timeout _ | .take | .give | .ftpRead _ | .ftpClose _ => .isTrue trivial

/-- No packet is for the FTP port. -/
def NotFtp : Label → Prop
  | .route packet _ => packet.id.dport ≠ csptermPortFtp
  | _ => True

instance : (l : Label) → Decidable (NotFtp l)
  | .route packet _ => inferInstanceAs (Decidable (packet.id.dport ≠ csptermPortFtp))
  | .server _ | .timeout _ | .release .. | .take | .give | .cloneSyn | .requeue _ | .ftpRead _
  | .ftpClose _ => .isTrue trivial

end CspTerm.Server
