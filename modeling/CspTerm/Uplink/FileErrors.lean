import CspTerm.Archive.FileNames
import CspTerm.Lib.Descriptors
import CspTerm.Radio.TleStore
import CspTerm.Uplink.Ownership
import CspTerm.Uplink.Requests
import CspTerm.Uplink.TcpServer

/-!
# When a file operation fails (`tcp_server.c`, `send_packet.c`, `process_mcs_file.c`)

The way of an MCS message through the station, with the outcome of every file operation on it:
`tcp_server` stores the message, `send_packet` has `process_mcs_file` read it back, and
`send_packet_execute` archives what it sent; a command to the ground station can update the element
sets, which have a file of their own. The console command `send_packet` sends the latest message
again.
-/

namespace CspTerm.Uplink

open CString CspTerm.Csp CspTerm.Radio CspTerm.Gui CspTerm.Archive Descriptors

/-! ## Calls and their file operations -/

/-- How a call ends, and what it did with files until then. -/
structure Traced (α : Type) where
  ending : Ending α
  ops : List (FileOp Int)

/-- One call after the other. -/
def Traced.andThen {α β : Type} (c : Traced α) (f : α → Traced β) : Traced β :=
  match c.ending with
  | .returned a => { ending := (f a).ending, ops := c.ops ++ (f a).ops }
  | .exited => { ending := .exited, ops := c.ops }
  | .undefined => { ending := .undefined, ops := c.ops }

/-! ## `process_mcs_file` -/

/-- What the operations on the opened file come to: the position that `ftell` tells at its end, and
the bytes that each of the two `fread` calls delivers. -/
structure McsFileRead where
  fd : Int
  ftell : Int
  header : List UInt8
  payload : List UInt8
  header_length : header.length ≤ mcsHeaderSize
  payload_length : payload.length ≤ (toInt32 ftell - mcsHeaderSize).toNat

/-- `size`. -/
def McsFileRead.size (f : McsFileRead) : Int := toInt32 f.ftell

/-- `header_buffer` after `fread`: where nothing is delivered, it keeps what was there. -/
def McsFileRead.headerBuffer (f : McsFileRead) (headerBuffer : List UInt8) : List UInt8 :=
  f.header ++ headerBuffer.drop f.header.length

def processMcsFileIo (fs1 : Option McsFileRead) (headerBuffer : List UInt8) (data : CspData) :
    Traced (Int × Option McsFields × CspData) :=
  match fs1 with
  | none => { ending := .exited, ops := session none }
  | some fs1 =>
    if fs1.size ≤ mcsHeaderSize then
      { ending := .returned (0, none, data), ops := session (some fs1.fd) }
    else if fs1.header.length < 1 then
      { ending := .returned (0, none, data), ops := session (some fs1.fd) }
    else if cspBufferSize < fs1.payload.length then
      { ending := .undefined, ops := [.opened (some fs1.fd), .used (some fs1.fd)] }
    else if fs1.payload.length < 1 then
      { ending := .returned (0, none, data), ops := session (some fs1.fd) }
    else
      { ending := .returned (1, some (decodeParameters (fs1.headerBuffer headerBuffer)),
          data.store fs1.payload)
        ops := session (some fs1.fd) }

/-- A file of these bytes that can be read without an error. -/
def McsFileRead.ofBytes (fd : Int) (bytes : List UInt8) (h : bytes.length < 2 ^ 31) :
    McsFileRead where
  fd := fd
  ftell := bytes.length
  header := bytes.take mcsHeaderSize
  payload := bytes.drop mcsHeaderSize
  header_length := List.length_take_le _ _
  payload_length := by
    rw [toInt32_of_range (by omega) (by omega), List.length_drop]
    omega

/-! ## `send_packet_execute` -/

/-- The station while the element sets have a meaning. -/
structure DefinedStation where
  station : Station (Option TleState)
  defined : station.doppler.tle.isSome

/-- The surroundings of `send_packet_execute`, with the files that it opens. -/
structure ExecuteIo where
  rparamSetUint32 : RparamSet → Int
  clock : Timespec
  cspSendto : CspSendto → Int
  afterSendto : CspSendto → CspData → CspData
  getTime : CStr
  sentFd : Option Int
  fwriteSent : Nat
  tleFd : Int
  tle : TleDownload

def ExecuteIo.env (io : ExecuteIo) : UplinkEnv (Option TleState) where
  toDopplerEnv := tleEnv io.rparamSetUint32 io.tle
  clock := io.clock
  cspSendto := io.cspSendto
  afterSendto := io.afterSendto
  getTime := io.getTime
  openSent := io.sentFd.isSome
  fwriteSent := io.fwriteSent

/-- The results after which the element sets have a meaning. -/
def keepMeaning :
    Ending (UplinkResult (Option TleState)) → Ending (UplinkResult (Option TleState))
  | .returned r => if r.station.doppler.tle.isSome then .returned r else .undefined
  | .exited => .exited
  | .undefined => .undefined

/-- The element id that a ground command has `tleupdate` called with, if it has it called. -/
def GroundCommand.elementId (satNo : UInt32) : GroundCommand → Option Int
  | .satSel no => some (satParameters (satSelected satNo no)).elementId
  | .tleUpdate => some 0
  | .satRead | .setRxFreq _ | .setTxFreq _ => none

/-- The element id of the update that a request makes, if it makes one. -/
def updateRequested (satNo : UInt32) (header : McsPacketHeader) (payload : List UInt8) :
    Option Int :=
  if header.dst ≤ 15 then none
  else (requestedCommand payload).bind (GroundCommand.elementId satNo)

/-- The file operations of `tleupdate`: a file that did not open is closed, too. -/
def tleupdateOps (io : ExecuteIo) : List (FileOp Int) :=
  if io.tle.opened then session (some io.tleFd) else [.opened none, .closed none]

/-- `send_packet_execute`, up to the update of the element sets if that has no meaning. -/
def sendPacketExecuteIo (io : ExecuteIo) (s : DefinedStation) (origin : Option CStr)
    (header : Option McsPacketHeader) (packet : Option CspPacket) (payload : Option Payload)
    (payloadLen : Nat) : Traced (UplinkResult (Option TleState)) :=
  let r := sendPacketExecute io.env s.station origin header packet payload payloadLen
  match header, packet, payload with
  | some header, some packet, some payload =>
    let packet := { packet with length := payloadLen.toUInt16 }
    let update := (updateRequested s.station.doppler.satNo header
      (payload.read packet payloadLen)).elim [] fun _ => tleupdateOps io
    if r.station.doppler.tle.isSome then
      { ending := .returned r, ops := update ++ session io.sentFd }
    else { ending := .undefined, ops := update }
  | _, _, _ => { ending := .returned r, ops := [] }

/-! ## `send_packet` -/

/-- The surroundings of `send_packet`: the buffer it gets, what comes of the file, and the bytes that
are in `header_buffer` before anything is read. -/
structure SendPacketIo extends ExecuteIo where
  buffer : Option CspPacket
  file : Option McsFileRead
  headerBuffer : List UInt8
  headerBuffer_length : headerBuffer.length = mcsHeaderSize

/-- `fopen`, which opens nothing without a name. -/
def fopenRead (name : CStr) (file : Option McsFileRead) : Option McsFileRead :=
  if name = [] then none else file

def refusedResult (s : DefinedStation) (events : List UplinkEvent) :
    UplinkResult (Option TleState) :=
  { ret := -1, consumed := false, station := s.station, events := events }

/-- What `send_packet` goes on to do with the result of `process_mcs_file`. -/
def sendProcessed (io : SendPacketIo) (s : DefinedStation) (packet : CspPacket) :
    Int × Option McsFields × CspData → Traced (UplinkResult (Option TleState))
  | (1, some fields, data) =>
    let packet := { packet with length := UInt16.ofInt (atoi fields.dataLength), data := data }
    let c := sendPacketExecuteIo io.toExecuteIo s (some (cstr "MCS")) (some fields.header)
      (some packet) (some .packetData) packet.length.toNat
    { ending := c.ending.map UplinkResult.release, ops := c.ops }
  | _ => { ending := .returned (refusedResult s [.cspBufferFree]), ops := [] }

def sendPacketIo (io : SendPacketIo) (s : DefinedStation) (mcsUplinkFilename : CStr) :
    Traced (UplinkResult (Option TleState)) :=
  match io.buffer with
  | none => { ending := .returned (refusedResult s []), ops := [] }
  | some packet =>
    (processMcsFileIo (fopenRead mcsUplinkFilename io.file) io.headerBuffer packet.data).andThen
      (sendProcessed io s packet)

/-! ## `tcp_server` and the console -/

/-- The station and `fr_name`, the file of the latest message. -/
structure ServerState extends DefinedStation where
  frName : CStr

/-- Before the first message has arrived `fr_name` is empty. -/
def ServerState.init : ServerState :=
  { station := .init (some .init), defined := rfl, frName := [] }

/-- One message: what `recv` delivered, the time, whether the file for it opens and how many bytes it
takes, and the surroundings in which it is sent. -/
structure MessageIo extends SendPacketIo where
  msgBuffer : List UInt8
  time : CStr
  receivedFd : Option Int
  fwriteReceived : Nat

/-- The same message in a world where what was stored can be read back. -/
def MessageIo.delivery (m : MessageIo) : Delivery (Option TleState) where
  msg := m.msgBuffer
  env := m.env
  openReceived := m.receivedFd.isSome
  fwriteReceived := m.fwriteReceived
  buffer := m.buffer

/-- The branch of `tcp_server` that handles received bytes. -/
def tcpServerMessageIo (s : ServerState) (m : MessageIo) : Traced (UplinkResult (Option TleState)) :=
  match m.receivedFd with
  -- the file is closed whether it was opened or not
  | none => { ending := .undefined, ops := [.opened none, .closed none] }
  | some fd =>
    let c := sendPacketIo m.toSendPacketIo s.toDefinedStation (mcsFile m.time)
    { ending := c.ending, ops := session (some fd) ++ c.ops }

/-- `retransmit_packet`, the console command `send_packet`. -/
def retransmitPacketIo (s : ServerState) (io : SendPacketIo) :
    Traced (UplinkResult (Option TleState)) :=
  sendPacketIo io s.toDefinedStation s.frName

inductive ServerStep where
  | message (m : MessageIo)
  | retransmit (io : SendPacketIo)

def serverStep (s : ServerState) : ServerStep → Traced (UplinkResult (Option TleState))
  | .message m => tcpServerMessageIo s m
  | .retransmit io => retransmitPacketIo s io

def ServerStep.io : ServerStep → SendPacketIo
  | .message m => m.toSendPacketIo
  | .retransmit io => io

/-- The file that `send_packet` is to read, if it opens. -/
def ServerStep.file (s : ServerState) : ServerStep → Option McsFileRead
  | .message m => fopenRead (mcsFile m.time) m.file
  | .retransmit io => fopenRead s.frName io.file

/-! ## Staying up -/

/-- The file opens, is larger than a header, and both of its parts can be read. -/
def Processable (file : Option McsFileRead) : Prop :=
  ∃ f, file = some f ∧ mcsHeaderSize < f.size ∧ f.header ≠ [] ∧ f.payload ≠ []

/-- A call of the two functions returns to its loop, applies no operation to a file that did not
open, releases the buffer that it got, and answers `-1` when the file cannot be processed. -/
structure StaysUp (io : SendPacketIo) (file : Option McsFileRead)
    (c : Traced (UplinkResult (Option TleState))) : Prop where
  returns : ∃ r, c.ending = .returned r
  files : Sound c.ops
  buffers : ReleasedOnce io.env io.buffer (c.ending.map (·.events))
  answers : ∀ r, c.ending = .returned r → ¬ Processable file → r.ret = -1

/-- `tleupdate` has a meaning: its file opens, and if it goes on to search, the lines that it finds
are in buffers of at most the size of the arrays, and `KepCheck` then reads characters of its table
only. -/
structure UpdateDefined (dl : TleDownload) (elementid : UInt32) (t : TleState) : Prop where
  opened : dl.opened = true
  buffers : dl.err = false → elementid ≠ 0 → ∀ g ∈ dl.lines,
    strstr g.text (match0 elementid) ∨ strstr g.text (match1 elementid) → g.len ≤ tleLineSize
  table : dl.err = false → elementid ≠ 0 → ∀ t', searchLines elementid dl.lines t = some t' →
    t'.tle1.val.takeWhile (· ≠ 0) ≠ [] → ReadsInTable t'.tle1.val ∧ ReadsInTable t'.tle2.val

/-- The update of the element sets that a request makes, if it makes one, has a meaning. -/
def UpdateMeaningful (io : ExecuteIo) (s : DefinedStation) (header : McsPacketHeader)
    (payload : List UInt8) : Prop :=
  ∀ elementId, updateRequested s.station.doppler.satNo header payload = some elementId →
    ∀ t, s.station.doppler.tle = some t → UpdateDefined io.tle (UInt32.ofInt elementId) t

/-- The packet that `send_packet` makes of the file. -/
def McsFileRead.packet (f : McsFileRead) (headerBuffer : List UInt8) (buffer : CspPacket) :
    CspPacket :=
  { buffer with
    length := (headerByte (f.headerBuffer headerBuffer) 5).toUInt16
    data := buffer.data.store f.payload }

/-- The file can be sent from this buffer: it opens and fits the buffer, and if it has a request,
that one is for the satellite and `csp_sendto` takes the packet or fails with `-1`, or it is for the
ground station and the update of the element sets that it makes, if any, has a meaning. -/
structure Sendable (io : SendPacketIo) (s : DefinedStation) (file : Option McsFileRead)
    (buffer : CspPacket) : Prop where
  opens : file.isSome
  fits : ∀ f, file = some f → mcsHeaderSize < f.size → f.header ≠ [] →
    f.payload.length ≤ cspBufferSize
  request : ∀ f, file = some f → Processable file →
    let header := (decodeParameters (f.headerBuffer io.headerBuffer)).header
    let packet := f.packet io.headerBuffer buffer
    (header.dst ≤ 15 → FailsWithMinusOne io.env (sendtoCall header packet)) ∧
      UpdateMeaningful io.toExecuteIo s header packet.payload

/-- The file for a message opens, and what is sent can be sent from the buffer, if there is one. -/
def Survivable (s : ServerState) (a : ServerStep) : Prop :=
  (∀ m, a = .message m → m.receivedFd.isSome) ∧
  ∀ buffer, a.io.buffer = some buffer →
    Sendable a.io s.toDefinedStation (a.file s) buffer

end CspTerm.Uplink
