import CspTerm.Downlink.McsSocket
import CspTerm.Rotator.SerialPort

/-!
# The open descriptors of the station

The functions that open files and sockets while the station works: for every command to the rotator,
every message of MCS and every downlink packet. A label of the machine is one call of one of them,
with all that it reads and what its calls return, the descriptors included.
-/

namespace CspTerm

open CString CspTerm.Csp CspTerm.Rotator CspTerm.Uplink CspTerm.Downlink Descriptors

inductive StationCall where
  | serialRead (env : SerialReadEnv)
  | serialSetAzEl (s : RotatorState) (azi ele : Int) (env : SerialEnv)
  | processMcsFile (fs1 : Option McsFileRead) (headerBuffer : List UInt8) (data : CspData)
  | receivePacket (crc : Crc16) (io : ReceiveIo) (count : UInt32) (headerValues : HeaderValues)
      (p : RadioPacket) (time : CStr)
  | sendPacketExecute (io : ExecuteIo) (s : DefinedStation) (origin : Option CStr)
      (header : Option McsPacketHeader) (packet : Option CspPacket) (payload : Option Payload)
      (payloadLen : Nat)
  | downlinkClient (io : DownlinkIo)

/-- How the call ends, with the variables of `downlink_client` that it leaves, and what it does with
files and sockets. -/
def StationCall.run (g : McsSocket) : StationCall → Traced McsSocket
  | .serialRead env => { ending := .returned g, ops := (Rotator.serialRead env).2 }
  | .serialSetAzEl s azi ele env =>
    { ending := .returned g, ops := (Rotator.serialSetAzEl s azi ele env).fileOps env }
  | .processMcsFile fs1 headerBuffer data =>
    let c := processMcsFileIo fs1 headerBuffer data
    { ending := c.ending.map fun _ => g, ops := c.ops }
  | .receivePacket crc io count headerValues p time =>
    receivePacketIo crc io count headerValues p time g
  | .sendPacketExecute io s origin header packet payload payloadLen =>
    let c := sendPacketExecuteIo io s origin header packet payload payloadLen
    { ending := c.ending.map fun _ => g, ops := c.ops }
  | .downlinkClient io =>
    { ending := .returned (downlinkClientIo g io).1, ops := (downlinkClientIo g io).2 }

/-! ## The machine -/

/-- The open descriptors of the process, and the variables of `downlink_client`. -/
structure Process where
  fds : Finset Int
  client : McsSocket

/-- One call; there is no state after a call that does not return. -/
def Process.step (p : Option Process) (c : StationCall) : Option Process :=
  p.bind fun p =>
    match (c.run p.client).ending with
    | .returned g => some { fds := after p.fds (c.run p.client).ops, client := g }
    | .exited | .undefined => none

/-- Next to the descriptors `base`, the socket to MCS is open if `ret` is 0, and nothing else. -/
def HeldOnly (base : Finset Int) (g : McsSocket) (fds : Finset Int) : Prop :=
  Disjoint base g.held ∧ fds = base ∪ g.held

/-- The process is there, and its descriptors are conserved. -/
def Conserved (base : Finset Int) : Option Process → Prop
  | none => False
  | some p => HeldOnly base p.client p.fds

/-- The kernel hands out descriptors that are not in use. -/
def KernelContract (p : Option Process) (c : StationCall) : Prop :=
  ∀ q, p = some q → Unused q.fds (c.run q.client).ops

/-! ## The calls that conserve -/

/-- No socket can be made for a new connection; or there is a connection or a new one is made, and
the file does not open. -/
def DownlinkConserves (g : McsSocket) (io : DownlinkIo) : Prop :=
  (g.ret = true ∧ io.socketFd < 0) ∨
    (g.ret = true → 0 < io.inetPton ∧ 0 ≤ io.connect) ∧ io.fileFd = none

/-- What each of the calls has to meet: a serial port that opens can be configured; the file of a
message opens and fits the packet buffer; a packet with a correct CRC has a file that does not open,
or takes its header, and the rest of the call conserves and has a meaning; the update of the element
sets has one. -/
def StationCall.Conserves (g : McsSocket) : StationCall → Prop
  | .serialRead env => 0 ≤ env.openFd → setInterface env.tcgetattr env.tcsetattr = 0
  | .serialSetAzEl s azi ele env =>
    ¬ s.tooClose azi ele → 0 ≤ env.openFd → setInterface env.tcgetattr env.tcsetattr = 0
  | .processMcsFile fs1 _ _ =>
    ∃ f, fs1 = some f ∧
      (mcsHeaderSize < f.size → f.header ≠ [] → f.payload.length ≤ cspBufferSize)
  | .receivePacket crc io _ headerValues p _ =>
    crc.apply p.data (p.length.toNat - 2) = p.receivedCrc → io.fileFd.isSome →
      io.fwriteHeader ≠ 0 ∧ DownlinkConserves g io.downlink ∧ headerValues.flags = 0
  | .sendPacketExecute io s _ header packet payload payloadLen =>
    ∀ h p l, header = some h → packet = some p → payload = some l →
      UpdateMeaningful io s h (l.read { p with length := payloadLen.toUInt16 } payloadLen)
  | .downlinkClient io => DownlinkConserves g io

/-- The call that the process makes conserves. -/
def CallConserves (p : Option Process) (c : StationCall) : Prop :=
  ∀ q, p = some q → c.Conserves q.client

end CspTerm
