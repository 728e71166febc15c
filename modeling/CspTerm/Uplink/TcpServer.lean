import CspTerm.Uplink.SendPacket

/-!
# The MCS server (`tcp_server.c`)

The server stores what one `recv` delivers as one file and sends that file: it keeps nothing from
one `recv` to the next.
-/

namespace CspTerm.Uplink

open CspTerm.Csp

variable {τ : Type}

/-- `sizeof msg_buffer`: what one `recv` delivers at most. -/
def msgBufferSize : Nat := 1024

/-- One result of `recv` on a client's connection, with the surroundings it meets. -/
structure Delivery (τ : Type) where
  msg : List UInt8
  env : UplinkEnv τ
  openReceived : Bool
  /-- The number of bytes that `fwrite` takes. -/
  fwriteReceived : Nat
  buffer : Option CspPacket

/-- The branch of `tcp_server` that handles received bytes. When the file does not open, the server
logs that and closes it nevertheless, which C leaves undefined for a NULL pointer. -/
def tcpServerMessage (s : Station τ) (d : Delivery τ) : Ending (UplinkResult τ) :=
  if d.openReceived then sendPacket d.env s (some (d.msg.take d.fwriteReceived)) d.buffer
  else .undefined

/-- The requests that reach `send_packet_execute` while the server works on a sequence of
deliveries, and the state it leaves. -/
def tcpServerRun (s : Station τ) :
    List (Delivery τ) → Ending (List (McsPacketHeader × List UInt8) × Station τ)
  | [] => .returned ([], s)
  | d :: ds =>
    match tcpServerMessage s d with
    | .exited => .exited
    | .undefined => .undefined
    | .returned r =>
      match tcpServerRun r.station ds with
      | .exited => .exited
      | .undefined => .undefined
      | .returned (us, s') => .returned (r.requests ++ us, s')

/-! ## Segmentation -/

/-- A message of MCS: the four header bytes before the length, and a payload that the length field
can count. -/
structure McsMessage where
  head : List UInt8
  payload : List UInt8
  head_length : head.length = 4
  payload_length : payload.length < 65536

def McsMessage.header (m : McsMessage) : List UInt8 :=
  m.head ++ [(m.payload.length / 256).toUInt8, (m.payload.length % 256).toUInt8]

def McsMessage.bytes (m : McsMessage) : List UInt8 := m.header ++ m.payload

/-- The files are stored, and packet buffers are there. -/
def Delivery.Stored (d : Delivery τ) : Prop :=
  d.openReceived = true ∧ d.msg.length ≤ d.fwriteReceived ∧ d.buffer.isSome

/-- The request that a message stands for. -/
def McsMessage.request (m : McsMessage) : McsPacketHeader × List UInt8 :=
  ((decodeParameters m.header).header, m.payload)

/-- Delivered as `chunks`, the messages become one request each, in order and with their own header
and payload, whatever else the server meets. -/
def SegmentationSafe (s : Station τ) (ms : List McsMessage) (chunks : List (List UInt8)) : Prop :=
  ∀ ds : List (Delivery τ), ds.map (·.msg) = chunks → (∀ d ∈ ds, d.Stored) →
    ∃ s', tcpServerRun s ds = .returned (ms.map (·.request), s')

end CspTerm.Uplink
