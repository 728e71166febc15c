import CspTerm.Csp.Types
import CspTerm.Lib.RoundRobin

/-!
# The connection pool (`csp_conn.c`, `csp_io.c`)

The network layer keeps ten connection slots and 1024 packet buffers. Every call on them is one
atomic step, so the locks of the pool are free whenever they are taken.

A buffer is free, in the receive queues of a connection, in the hands of a task, or on the network
side: with the interfaces, the router and RDP, which take and give back buffers of their own accord.
What RDP keeps for reordering and retransmission counts as the network's; what it loses is nobody's.
-/

namespace CspTerm.Csp

/-! ## Constants (`csp_autoconfig.h`, `csp_types.h`) -/

abbrev cspConnMax : Nat := 10

/-- `CSP_RX_QUEUE_LENGTH`: `CSP_CONN_QUEUE_LENGTH` over the four priorities. -/
abbrev cspRxQueueLength : Nat := 25

/-- `CSP_ANY`: the first port that no socket is bound to. -/
def cspAny : Nat := 32

def cspBroadcastAddr : Fin 32 := ⟨31, by omega⟩

def cspFrdp : UInt8 := 0x02

def cspPrioNorm : Fin 4 := ⟨2, by omega⟩

/-- `CSP_RX_QUEUES - 1`. -/
def lastRxq : Fin 4 := ⟨3, by omega⟩

def cspBuffers : Nat := 1024

/-- The places in the accept queue of the server's socket. -/
def backlogLength : Nat := 10

def CspId.rdp (id : CspId) : Bool := id.flags &&& cspFrdp != 0

/-! ## Receive queues -/

/-- The receive queues of a connection: one for each priority, of packet pointers that may be NULL.
The event queue has as many places as they have together and holds one event for each pointer, so
it is never full before them. -/
structure RxQueues where
  queue : Fin 4 → List (Option CspPacket)
  event : Nat
  length_le : ∀ prio, (queue prio).length ≤ cspRxQueueLength
  event_eq : event = ∑ prio, (queue prio).length

def RxQueues.empty : RxQueues :=
  { queue := fun _ => [], event := 0, length_le := by simp, event_eq := by simp }

def RxQueues.buffers (r : RxQueues) : Nat := ∑ prio, (r.queue prio).countP Option.isSome

@[simp] theorem RxQueues.buffers_empty : RxQueues.empty.buffers = 0 := rfl

/-- The queue for a pointer: that of the packet's priority (`csp_conn_get_rxq`), the last one for
NULL. -/
def rxqOf (packet : Option CspPacket) : Fin 4 := packet.elim lastRxq fun p => p.id.pri

/-- `csp_conn_enqueue_packet`. -/
def RxQueues.enqueue (r : RxQueues) (packet : Option CspPacket) : Option RxQueues :=
  if h : (r.queue (rxqOf packet)).length < cspRxQueueLength then
    some
      { queue := Function.update r.queue (rxqOf packet) (r.queue (rxqOf packet) ++ [packet])
        event := r.event + 1
        length_le := fun prio => by
          by_cases hp : prio = rxqOf packet
          · subst hp
            simp only [Function.update_self, List.length_append, List.length_singleton]
            omega
          · rw [Function.update_of_ne hp]; exact r.length_le prio
        event_eq := by
          have hsum := RoundRobin.sum_update_add List.length r.queue (rxqOf packet)
            (r.queue (rxqOf packet) ++ [packet])
          rw [List.length_append, List.length_singleton, ← r.event_eq] at hsum
          omega }
  else none

/-- What `csp_read` takes from the queues: one event, and the first pointer of the most urgent queue
that has one. -/
def RxQueues.dequeue (r : RxQueues) : Option (Option CspPacket × RxQueues) :=
  match h : RoundRobin.next (fun prio => !(r.queue prio).isEmpty) lastRxq with
  | none => none
  | some prio =>
    some ((r.queue prio).head?.join,
      { queue := Function.update r.queue prio (r.queue prio).tail
        event := r.event - 1
        length_le := fun q => by
          by_cases hq : q = prio
          · subst hq
            simp only [Function.update_self, List.length_tail]
            exact (Nat.sub_le _ 1).trans (r.length_le q)
          · rw [Function.update_of_ne hq]; exact r.length_le q
        event_eq := by
          have hne : r.queue prio ≠ [] := by simpa using RoundRobin.free_of_next h
          have hpos := List.length_pos_iff.mpr hne
          have hsum := RoundRobin.sum_update_add List.length r.queue prio (r.queue prio).tail
          rw [List.length_tail, ← r.event_eq] at hsum
          omega })

theorem RxQueues.buffers_enqueue {r r' : RxQueues} {packet : Option CspPacket}
    (h : r.enqueue packet = some r') : r'.buffers = r.buffers + packet.toList.length := by
  unfold enqueue at h
  split at h
  · obtain rfl := Option.some.inj h
    have hsum := RoundRobin.sum_update_add (List.countP Option.isSome) r.queue (rxqOf packet)
      (r.queue (rxqOf packet) ++ [packet])
    rw [List.countP_append] at hsum
    have hp : List.countP Option.isSome [packet] = packet.toList.length := by cases packet <;> rfl
    simp only [buffers] at hsum ⊢
    omega
  · cases h

theorem RxQueues.enqueue_empty (packet : Option CspPacket) :
    (RxQueues.empty.enqueue packet).isSome = true := by
  simp [enqueue, empty, cspRxQueueLength]

theorem RxQueues.buffers_dequeue {r r' : RxQueues} {packet : Option CspPacket}
    (h : r.dequeue = some (packet, r')) : r'.buffers + packet.toList.length = r.buffers := by
  unfold dequeue at h
  split at h
  · cases h
  · rename_i prio hnext
    obtain ⟨rfl, rfl⟩ := Prod.mk.inj (Option.some.inj h)
    have hne : r.queue prio ≠ [] := by simpa using RoundRobin.free_of_next hnext
    obtain ⟨x, xs, hx⟩ := List.exists_cons_of_ne_nil hne
    have hsum := RoundRobin.sum_update_add (List.countP Option.isSome) r.queue prio
      (r.queue prio).tail
    have hp : (r.queue prio).countP Option.isSome
        = (r.queue prio).tail.countP Option.isSome + ((r.queue prio).head?.join).toList.length := by
      rw [hx]
      cases x <;> simp
    simp only [buffers] at hsum ⊢
    omega

/-! ## Connections -/

inductive ConnState
  | closed
  | open
deriving DecidableEq, Repr

inductive ConnType
  | client
  | server
deriving DecidableEq, Repr

inductive RdpState
  | closed
  | synSent
  | synRcvd
  | open
  | closeWait
deriving DecidableEq, Repr

/-- `struct csp_conn_s`. -/
structure CspConn where
  type : ConnType
  state : ConnState
  idin : CspId
  idout : CspId
  rxQueue : RxQueues
  /-- Whether the connection still has to be posted to the server's socket. -/
  socket : Bool
  rdpState : RdpState

/-- A slot after `csp_conn_init`. -/
def CspConn.zero : CspConn :=
  { type := .client, state := .closed, idin := .zero, idout := .zero, rxQueue := .empty,
    socket := false, rdpState := .closed }

structure CspStack where
  address : Fin 32
  conns : Fin cspConnMax → CspConn
  lastGiven : Fin cspConnMax
  /-- The source port given last, as an offset from the first ephemeral port. -/
  sport : Fin 32
  /-- The queue of the server's socket: connections that wait for `csp_accept`. -/
  backlog : List (Fin cspConnMax)
  /-- `csp_buffer_remaining`. -/
  free : Nat
  /-- The buffers on the network side. -/
  network : Nat
  /-- The slots that `csp_conn_new` filled and the identifiers it put there, newest first. No code
  reads this. -/
  openings : List (Fin cspConnMax × CspId)

/-- The identifier that `csp_conn_new` last put into slot `i`; slots start out zero. -/
def lastOpened (openings : List (Fin cspConnMax × CspId)) (i : Fin cspConnMax) : CspId :=
  ((openings.find? fun e => e.1 == i).map (·.2)).getD .zero

def closedSlots (s : CspStack) : Finset (Fin cspConnMax) :=
  Finset.univ.filter fun i => (s.conns i).state = .closed

def CspStack.setConn (s : CspStack) (i : Fin cspConnMax) (c : CspConn) : CspStack :=
  { s with conns := Function.update s.conns i c }

/-- `csp_buffer_free` of a packet in the caller's hands. -/
def cspBufferFree (s : CspStack) : CspStack := { s with free := s.free + 1 }

def CspStack.handOver (s : CspStack) : CspStack := { s with network := s.network + 1 }

def CspStack.takeOver (s : CspStack) : CspStack := { s with network := s.network - 1 }

/-! ## `csp_conn.c` -/

def cspConnFlushRxQueue (s : CspStack) (i : Fin cspConnMax) : CspStack :=
  { s.setConn i { s.conns i with rxQueue := .empty } with
    free := s.free + (s.conns i).rxQueue.buffers }

def cspConnAllocate (type : ConnType) (s : CspStack) : Option (Fin cspConnMax × CspStack) :=
  (RoundRobin.next (fun i => (s.conns i).state == .closed) s.lastGiven).map fun i =>
    (i, { s.setConn i { s.conns i with state := .open, socket := false, type := type } with
          lastGiven := i })

/-- The slot that `csp_conn_allocate` gives out next: the first closed one after the last given. -/
def nextSlot (s : CspStack) : Option (Fin cspConnMax) :=
  RoundRobin.next (fun i => (s.conns i).state == .closed) s.lastGiven

def cspConnNew (idin idout : CspId) (s : CspStack) : Option (Fin cspConnMax × CspStack) :=
  (cspConnAllocate .client s).map fun (i, s) =>
    (i, cspConnFlushRxQueue
      { s.setConn i { s.conns i with idin := idin, idout := idout } with
        openings := (i, idin) :: s.openings } i)

/-- The open client connection whose `idin` satisfies the test. -/
def cspConnFind (s : CspStack) (test : CspId → Bool) : Option (Fin cspConnMax) :=
  (List.finRange cspConnMax).find? fun i =>
    (s.conns i).state != .closed && (s.conns i).type == .client && test (s.conns i).idin

/-- Agreement under `CSP_ID_CONN_MASK`. -/
def CspId.sameConn (a b : CspId) : Bool :=
  a.src == b.src && a.dst == b.dst && a.dport == b.dport && a.sport == b.sport

/-- `csp_rdp_close`, and whether it answers `CSP_ERR_AGAIN`. Its reset message is the network's. -/
def cspRdpClose (c : CspConn) : CspConn × Bool :=
  match c.rdpState with
  | .closed => (c, false)
  | .closeWait => ({ c with rdpState := .closed }, false)
  | _ => ({ c with rdpState := .closeWait }, true)

def cspClose (s : CspStack) (i : Fin cspConnMax) : CspStack :=
  let c := s.conns i
  if c.state = .closed then s
  else
    let (c, again) := if c.idin.rdp || c.idout.rdp then cspRdpClose c else (c, false)
    if again then s.setConn i c
    else cspConnFlushRxQueue (s.setConn i { c with state := .closed }) i

def ephemeralPort (k : Fin 32) : Fin 64 := ⟨32 + k.val, by omega⟩

/-- The identifier of the packets that come in on a connection to port `dport` of `dest`. -/
def incomingId (address : Fin 32) (prio : Fin 4) (dest : Fin 32) (dport : Fin 64) (k : Fin 32) :
    CspId :=
  { pri := prio, dst := address, src := dest, sport := dport, dport := ephemeralPort k, flags := 0 }

def outgoingId (address : Fin 32) (prio : Fin 4) (dest : Fin 32) (dport : Fin 64) (k : Fin 32) :
    CspId :=
  { pri := prio, dst := dest, src := address, dport := dport, sport := ephemeralPort k, flags := 0 }

/-- `csp_connect` without options; `locked` says whether its locks are obtained in time. The search
starts after the port given last; ten connections never use up the 32 ephemeral ports. -/
def cspConnect (prio : Fin 4) (dest : Fin 32) (dport : Fin 64) (locked : Bool) (s : CspStack) :
    Option (Fin cspConnMax) × CspStack :=
  if !locked then (none, s)
  else
    let unused := fun k => (cspConnFind s fun idin => idin.dport == ephemeralPort k).isNone
    match RoundRobin.next unused s.sport with
    | none => (none, s)
    | some k =>
      let s := { s with sport := k }
      match cspConnNew (incomingId s.address prio dest dport k)
          (outgoingId s.address prio dest dport k) s with
      | none => (none, s)
      | some (i, s) => (some i, s)

/-- What `csp_conn_get_header_values` writes to its five bytes. -/
structure HeaderValues where
  dst : Fin 32
  src : Fin 32
  sport : Fin 64
  dport : Fin 64
  flags : UInt8
deriving DecidableEq, Repr

def CspId.headerValues (id : CspId) : HeaderValues :=
  { dst := id.dst, src := id.src, sport := id.sport, dport := id.dport, flags := id.flags }

def headerSlot : Fin cspConnMax := 2

def cspConnGetHeaderValues (s : CspStack) : HeaderValues := (s.conns headerSlot).idin.headerValues

/-! ## `csp_io.c` -/

/-- The network layer after `csp_buffer_init` and `csp_init`. -/
def cspInit (address : Fin 32) (sport : Fin 32) : CspStack :=
  { address := address, conns := fun _ => .zero, lastGiven := 0, sport := sport, backlog := [],
    free := cspBuffers, network := 0, openings := [] }

/-- `csp_socket` and `csp_listen`: the socket itself takes a slot of the pool. -/
def cspSocket (s : CspStack) : CspStack := ((cspConnAllocate .server s).map (·.2)).getD s

/-- The slot that the server's socket takes. -/
def listener : Fin cspConnMax := 1

def cspAccept (s : CspStack) : Option (Fin cspConnMax × CspStack) :=
  match s.backlog with
  | [] => none
  | i :: backlog => some (i, { s with backlog := backlog })

def cspRead (s : CspStack) (i : Fin cspConnMax) : Option CspPacket × CspStack :=
  if (s.conns i).state ≠ .open then (none, s)
  else
    match (s.conns i).rxQueue.dequeue with
    | none => (none, s)
    | some (packet, r) => (packet, s.setConn i { s.conns i with rxQueue := r })

/-- `csp_send`: whether the packet was sent; `taken` says whether RDP and the interface take it. -/
def cspSend (s : CspStack) (i : Fin cspConnMax) (taken : Bool) : Bool :=
  (s.conns i).state == .open && (!(s.conns i).idout.rdp || (s.conns i).rdpState == .open) && taken

end CspTerm.Csp
