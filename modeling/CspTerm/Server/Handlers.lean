import CspTerm.Csp.Router

/-!
# The handlers of the server (`task_server.c`, `receive_packet.c`, `csp_service_handler.c`)

A handler is given a packet and has to release it once: to free it, or to hand it over by a
successful `csp_send`. `Hand` is what a handler works on; it records the releases.
-/

namespace CspTerm.Server

open CspTerm.Csp

/-! ## Ports and addresses -/

def myPort : Fin 64 := ⟨15, by omega⟩

def rePort : Fin 64 := ⟨16, by omega⟩

def pingRxPort : Fin 64 := ⟨17, by omega⟩

def reDestPort : Fin 64 := ⟨15, by omega⟩

def destAddr : Fin 32 := ⟨23, by omega⟩

def csptermPortRparam : Fin 64 := ⟨7, by omega⟩

def csptermPortFtp : Fin 64 := ⟨9, by omega⟩

def csptermPortGscript : Fin 64 := ⟨22, by omega⟩

/-! ## Releasing a packet -/

/-- The two ways to release a packet. -/
inductive BufferUse
  | freed
  | handedOver
deriving DecidableEq, Repr

/-- The network layer while a handler works, and what it did with its packet so far. -/
structure Hand where
  csp : CspStack
  uses : List BufferUse

def Hand.free (h : Hand) : Hand := { csp := cspBufferFree h.csp, uses := h.uses ++ [.freed] }

/-- `if (!csp_send(conn, packet, timeout)) csp_buffer_free(packet)`. -/
def Hand.sendOrFree (h : Hand) (i : Fin cspConnMax) (taken : Bool) : Hand :=
  if cspSend h.csp i taken then { csp := h.csp.handOver, uses := h.uses ++ [.handedOver] }
  else h.free

def Hand.release (h : Hand) : BufferUse → Hand
  | .freed => h.free
  | .handedOver => { csp := h.csp.handOver, uses := h.uses ++ [.handedOver] }

structure Outcomes where
  /-- Whether the checksum at the end of a downlink packet is right. -/
  crc : Bool
  /-- Whether `csp_connect` obtains its locks in time. -/
  connect : Bool
  /-- Whether the transport and the interface take the packet. -/
  send : Bool
  cmp : Bool
  /-- The task list: `none` if there is no memory for it, else what becomes of each of the packets
  it is split into. -/
  tasks : Option (List Bool)
  /-- How the handlers that come as objects only release the packet: `rparam_service_handler` and
  `gscript_service_handler` do so once. -/
  object : BufferUse

/-! ## The handlers -/

/-- `receive_packet`, and the header values it works with if the checksum is right. What it does
with files, the status FIFO and MCS never touches the network layer. -/
def receivePacket (o : Outcomes) (h : Hand) : Option HeaderValues × Hand :=
  if !o.crc then (none, h) else (some (cspConnGetHeaderValues h.csp), h)

/-- `Receive_data`: it only prints a message. -/
def receiveData (h : Hand) : Hand := h

def replyData (o : Outcomes) (h : Hand) : Hand :=
  match cspConnect cspPrioNorm destAddr reDestPort o.connect h.csp with
  | (none, csp) => { h with csp := csp }.free
  | (some i, csp) => { h with csp := csp }.sendOrFree i o.send

/-- The packets of the task list after the first: each gets a buffer of its own. -/
def sendTaskList (i : Fin cspConnMax) : List Bool → CspStack → CspStack
  | [], s => s
  | taken :: rest, s =>
    if s.free = 0 then s
    else if cspSend s i taken then
      sendTaskList i rest { s.handOver with free := s.free - 1 }
    else sendTaskList i rest s

def cspServiceHandler (o : Outcomes) (i : Fin cspConnMax) (packet : CspPacket) (h : Hand) : Hand :=
  match (h.csp.conns i).idin.dport.val with
  | 0 => if o.cmp then h.sendOrFree i o.send else h.free
  | 1 => h.sendOrFree i o.send
  | 2 =>
    if packet.length ≠ 1 ∨ packet.data.val.head? ≠ some 0x55 then h.free
    else
      match o.tasks with
      -- no memory, or an empty list: the request itself is sent back
      | none | some [] => h.sendOrFree i o.send
      | some (first :: rest) =>
        let h := h.sendOrFree i first
        { h with csp := sendTaskList i rest h.csp }
  | 3 | 5 | 6 => h.sendOrFree i o.send
  | _ => h.free

end CspTerm.Server
