import CspTerm.Station
import CspTerm.Uplink.McsFile

/-!
# Sending uplink packets (`send_packet.c`)

`send_packet_execute` carries out one uplink request: a packet for the satellite goes out through
`csp_sendto`, a request for an address above 15 is a command to the ground station. It is reached
from `send_packet`, which reads an MCS file, and from `send_packet_struct`, which the GUI calls.

The LNA switching is compiled out (`AUTO_LNA` is 0).
-/

namespace CspTerm.Uplink

open CString CspTerm.Csp CspTerm.Gui CspTerm.Radio

/-- The arguments of one `csp_sendto`, with the length and the bytes of the packet. -/
structure CspSendto where
  prio : UInt8
  dest : UInt8
  dport : UInt8
  srcPort : UInt8
  opts : UInt32
  timeout : UInt32
  length : UInt16
  payload : List UInt8
deriving DecidableEq, Repr

/-- What an uplink request does outside its own memory, in order. -/
inductive UplinkEvent where
  /-- `send_packet_execute` is entered with this header and these payload bytes. -/
  | request (header : McsPacketHeader) (payload : List UInt8)
  | cspSendto (call : CspSendto)
  | mcsSatSel (satNoSel : UInt32)
  | mcsSatRead
  | updatetle
  | ax100SetRxFreq (freq : UInt32)
  | ax100SetTxFreq (freq : UInt32)
  /-- These bytes are appended to the file at `path`. -/
  | archive (path : CStr) (bytes : List UInt8)
  | notifyUplink (origin path : CStr) (bytes : Nat) (success : Int)
  | cspBufferFree
deriving DecidableEq, Repr

/-- The event is the action that a request asks for: a transmission or a ground command. -/
def UplinkEvent.isAction : UplinkEvent → Bool
  | .cspSendto _ | .mcsSatSel _ | .mcsSatRead | .updatetle | .ax100SetRxFreq _
  | .ax100SetTxFreq _ => true
  | .request .. | .archive .. | .notifyUplink .. | .cspBufferFree => false

/-- The surroundings of an uplink request. -/
structure UplinkEnv (τ : Type) extends StationEnv τ where
  /-- The result of `csp_sendto`: 0 or a negative error code. -/
  cspSendto : CspSendto → Int
  /-- The data area of the packet after `csp_sendto`, whose interface may work in place. -/
  afterSendto : CspSendto → CspData → CspData
  getTime : CStr
  openSent : Bool
  /-- The number of payload bytes that `fwrite` takes. -/
  fwriteSent : Nat

/-- Where the `payload` argument of `send_packet_execute` points. -/
inductive Payload where
  | packetData
  /-- Memory of the caller, with these bytes. -/
  | caller (bytes : List UInt8)
deriving DecidableEq, Repr

/-- The first `len` bytes behind the pointer. -/
def Payload.read (payload : Payload) (packet : CspPacket) (len : Nat) : List UInt8 :=
  match payload with
  | .packetData => packet.data.val.take len
  | .caller bytes => bytes.take len

/-- The state in the middle of `send_packet_execute`, after the request has been acted on. -/
structure Dispatched (τ : Type) where
  success : Int
  consumed : Bool
  packet : CspPacket
  station : Station τ
  events : List UplinkEvent

structure UplinkResult (τ : Type) where
  ret : Int
  consumed : Bool
  station : Station τ
  events : List UplinkEvent

variable {τ : Type}

def sendtoCall (header : McsPacketHeader) (packet : CspPacket) : CspSendto :=
  { prio := header.priority, dest := header.dst, dport := header.dstPort,
    srcPort := header.srcPort, opts := 0, timeout := 1000, length := packet.length,
    payload := packet.payload }

/-- The branch for addresses up to 15. Only result `-1` of `csp_sendto` counts as a failure. -/
def sendToSatellite (env : UplinkEnv τ) (s : Station τ) (header : McsPacketHeader)
    (packet : CspPacket) : Dispatched τ :=
  let call := sendtoCall header packet
  let failed := env.cspSendto call = -1
  { success := if failed then 0 else 1
    consumed := ¬ failed
    packet := { packet with data := env.afterSendto call packet.data }
    station := s
    events := [.cspSendto call] }

/-- The frequency in bytes 1 to 4 of a ground command. -/
def commandFreq (payload : List UInt8) : UInt32 :=
  ((payload.getD 1 0).toUInt32 <<< 24) + ((payload.getD 2 0).toUInt32 <<< 16) +
    ((payload.getD 3 0).toUInt32 <<< 8) + (payload.getD 4 0).toUInt32

/-- The `switch` over the first payload byte: the ground commands. -/
def groundCommand (env : UplinkEnv τ) (s : Station τ) (packet : CspPacket)
    (payload : List UInt8) : Dispatched τ :=
  let done (success : Int) (d : Doppler τ) (events : List UplinkEvent) : Dispatched τ :=
    { success := success, consumed := false, packet := packet,
      station := { s with doppler := d }, events := events }
  match payload with
  | [] => done 1 s.doppler []
  | 0x01 :: args =>
    -- without an argument nothing is selected, and nothing is reported either
    match args with
    | [] => done 1 s.doppler []
    | no :: _ =>
      let (ok, d) := mcsSatSel env.toDopplerEnv s.doppler no.toUInt32
      done (if ok ≠ 1 then 0 else 1) d [.mcsSatSel no.toUInt32]
  | 0x00 :: _ => done 1 s.doppler [.mcsSatRead]
  | 0x06 :: _ =>
    let (_, d) := Radio.updatetle env.toDopplerEnv s.doppler
    done 1 d [.updatetle]
  | 0x02 :: _ =>
    if payload.length ≥ 5 then
      let freq := commandFreq payload
      -- a refused frequency is only logged
      let (_, radio) := ax100SetRxFreq env.toDopplerEnv s.doppler.radio 29 1000 freq
      done 1 { s.doppler with radio := radio } [.ax100SetRxFreq freq]
    else done 0 s.doppler []
  | 0x03 :: _ =>
    if payload.length ≥ 5 then
      let freq := commandFreq payload
      let (_, radio) := ax100SetTxFreq env.toDopplerEnv s.doppler.radio 29 1000 freq
      done 1 { s.doppler with radio := radio } [.ax100SetTxFreq freq]
    else done 0 s.doppler []
  | _ :: _ => done 1 s.doppler []

/-- The branch on the destination address. The third branch of the source, for an address that is
neither up to 15 nor above, cannot be reached. -/
def dispatch (env : UplinkEnv τ) (s : Station τ) (header : McsPacketHeader) (packet : CspPacket)
    (payload : List UInt8) : Dispatched τ :=
  if header.dst ≤ 15 then sendToSatellite env s header packet
  else groundCommand env s packet payload

def sentPath (time : CStr) : CStr :=
  (cstr "/home/rai/Desktop/GS_Server_Folder/Sent_To_MCS/" ++ time ++ cstr ".bin").take 199

/-- `send_packet_execute`; a `none` is a NULL pointer. -/
def sendPacketExecute (env : UplinkEnv τ) (s : Station τ) (origin : Option CStr)
    (header : Option McsPacketHeader) (packet : Option CspPacket) (payload : Option Payload)
    (payloadLen : Nat) : UplinkResult τ :=
  match header, packet, payload with
  | some header, some packet, some payload =>
    let packet := { packet with length := payloadLen.toUInt16 }
    let bytes := payload.read packet payloadLen
    let d := dispatch env s header packet bytes
    let path := sentPath env.getTime
    let archived := (payload.read d.packet payloadLen).take env.fwriteSent
    let archive := if env.openSent then [UplinkEvent.archive path archived] else []
    let origin := origin.getD (cstr "UNKNOWN")
    let gui := guiBackendNotifyUplink d.station.gui env.clock (some origin) (some path)
      payloadLen d.success
    { ret := if d.success ≠ 0 then 0 else -1
      consumed := d.consumed
      station := { d.station with gui := gui }
      events := [.request header bytes] ++ d.events ++ archive ++
        [.notifyUplink origin path payloadLen d.success] }
  | _, _, _ => { ret := -1, consumed := false, station := s, events := [] }

/-- The end of both callers: a packet that was not consumed is freed. -/
def UplinkResult.release (r : UplinkResult τ) : UplinkResult τ :=
  { r with events := if r.consumed then r.events else r.events ++ [.cspBufferFree] }

/-- `send_packet`, on the contents of the file; `buffer` is the result of `csp_buffer_get`. -/
def sendPacket (env : UplinkEnv τ) (s : Station τ) (file : Option (List UInt8))
    (buffer : Option CspPacket) : Ending (UplinkResult τ) :=
  match buffer with
  | none => .returned { ret := -1, consumed := false, station := s, events := [] }
  | some packet =>
    match processMcsFile file packet.data with
    | .exited => .exited
    | .undefined => .undefined
    | .returned (1, some fields, data) =>
      let packet := { packet with length := UInt16.ofInt (atoi fields.dataLength), data := data }
      .returned (sendPacketExecute env s (some (cstr "MCS")) (some fields.header) (some packet)
        (some .packetData) packet.length.toNat).release
    | .returned _ =>
      .returned { ret := -1, consumed := false, station := s, events := [.cspBufferFree] }

/-- `sizeof(packet->data)`: the data area is declared as an array of no elements. -/
def sizeofPacketData : Nat := 0

/-- `send_packet_struct`; `payload` holds the `payload_len` bytes of the caller. -/
def sendPacketStruct (env : UplinkEnv τ) (s : Station τ) (origin : Option CStr)
    (header : Option McsPacketHeader) (payload : Option (List UInt8))
    (buffer : Option CspPacket) : UplinkResult τ :=
  match header, payload with
  | some header, some payload =>
    match buffer with
    | none => { ret := -1, consumed := false, station := s, events := [] }
    | some packet =>
      if payload.length > sizeofPacketData then
        { ret := -1, consumed := false, station := s, events := [.cspBufferFree] }
      else
        let packet := { packet with
          data := packet.data.store payload, length := payload.length.toUInt16 }
        (sendPacketExecute env s origin (some header) (some packet)
          (some (.caller payload)) payload.length).release
  | _, _ => { ret := -1, consumed := false, station := s, events := [] }

/-! ## Observations -/

def UplinkEvent.action? (e : UplinkEvent) : Option UplinkEvent := if e.isAction then some e else none

def UplinkEvent.sendto? : UplinkEvent → Option CspSendto
  | .cspSendto call => some call
  | _ => none

def UplinkEvent.report? : UplinkEvent → Option Int
  | .notifyUplink _ _ _ success => some success
  | _ => none

def UplinkEvent.request? : UplinkEvent → Option (McsPacketHeader × List UInt8)
  | .request header payload => some (header, payload)
  | _ => none

/-- The transmission or ground command that was carried out. -/
def UplinkResult.actions (r : UplinkResult τ) : List UplinkEvent := r.events.filterMap (·.action?)

def UplinkResult.sendtos (r : UplinkResult τ) : List CspSendto := r.events.filterMap (·.sendto?)

def UplinkResult.reports (r : UplinkResult τ) : List Int := r.events.filterMap (·.report?)

def UplinkResult.requests (r : UplinkResult τ) : List (McsPacketHeader × List UInt8) :=
  r.events.filterMap (·.request?)

end CspTerm.Uplink
