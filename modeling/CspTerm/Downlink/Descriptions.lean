import CspTerm.Archive.FileNames
import CspTerm.Downlink.ReceivePacket
import CspTerm.Gui.HandleCommand
import CspTerm.Lib.Json

/-!
# The descriptions of a downlink packet (`receive_packet.c`)

The variant of `receive_packet` that checks a CRC describes an accepted packet in several places: in
the six header bytes of the saved file, in a JSON message of type `telemetry` and in one of type
`packet`. It makes no call of `gui_backend_notify_downlink`, which would tell the GUI, and nothing
else does.

`crc16` is a parameter: it comes from a header that the repository does not contain.
-/

namespace CspTerm.Downlink

open CString CspTerm.Csp CspTerm.Gui CspTerm.Archive

variable {τ δ : Type}

/-! ## Printing -/

/-- `snprintf` with the format of both messages, into 256 bytes. -/
def statusJson (type timestamp : CStr) (src dst dport sport length : Nat) : CStr :=
  strncpyCut 256 <|
    cstr "\x7b\"type\":\"" ++ type ++ cstr "\",\"timestamp\":\"" ++ timestamp ++
      cstr "\",\"src\":" ++ fmtNat src ++ cstr ",\"dst\":" ++ fmtNat dst ++
      cstr ",\"dport\":" ++ fmtNat dport ++ cstr ",\"sport\":" ++ fmtNat sport ++
      cstr ",\"length\":" ++ fmtNat length ++ cstr "\x7d"

/-- What `%s` prints for a number in place of a string: the C library prints `(null)` for 0, and
reads memory that the program does not have for another small number. -/
def printAsString (address : Nat) : Option CStr :=
  if address = 0 then some (cstr "(null)") else none

/-! ## `receive_packet` -/

/-- The clock, whether the file opens, and how many bytes its two `fwrite` calls take. -/
structure ReceiveEnv where
  clock : ClockTime
  opened : Bool
  fwriteHeader : Nat
  fwriteData : Nat
deriving DecidableEq

/-- What becomes of a saved packet: the file with its two parts, the messages that are published,
and the `file_type` that `downlink_client` gets. The second message is `none` where C gives the call
no meaning. -/
structure Received where
  path : CStr
  header : List UInt8
  data : List UInt8
  telemetry : CStr
  fileType : Nat
  packet : Option CStr
deriving DecidableEq

inductive Reception where
  /-- The CRC does not match. -/
  | dropped
  | notSaved
  | saved (r : Received)
  /-- C gives the call no meaning. -/
  | undefined
deriving DecidableEq

/-- The CRC at the end of the packet; `none` if it is read beyond the data area. -/
def receivedCrc (packet : CspPacket) : Option UInt16 :=
  let length := packet.length.toNat
  if 2 ≤ length then do
    let high ← packet.data.val[length - 2]?
    let low ← packet.data.val[length - 1]?
    return high.toUInt16 <<< 8 ||| low.toUInt16
  else some 0

/-- The file of a saved packet, and its messages. -/
def received (env : ReceiveEnv) (timeStringRecv : CStr) (count : UInt32)
    (headerValues : HeaderValues) (packet : CspPacket) : Received :=
  let src := headerValues.src.val
  let dst := headerValues.dst.val
  let sport := headerValues.sport.val
  let dport := headerValues.dport.val
  let length := packet.length.toNat
  { path := downlinkFile timeStringRecv count
    header := (cspHeader headerValues packet.length).take env.fwriteHeader
    data := packet.payload.take env.fwriteData
    telemetry := statusJson (cstr "telemetry") timeStringRecv src dst dport sport length
    fileType := if dst < 20 then 1 else 0
    -- the arguments start with `header_values[4]`, and the ports are in another order
    packet := (printAsString headerValues.flags.toNat).map fun timestamp =>
      statusJson (cstr "packet") timestamp src dst sport dport length }

/-- `receive_packet` with this timestamp: what becomes of the packet, and the file counter. -/
def receivePacketAt (crc16 : List UInt8 → Int → UInt16) (env : ReceiveEnv) (count : UInt32)
    (headerValues : HeaderValues) (packet : CspPacket) (timeStringRecv : CStr) :
    Reception × UInt32 :=
  match receivedCrc packet with
  | none => (.undefined, count)
  | some receivedCrc =>
    if crc16 packet.data.val (packet.length.toNat - 2) ≠ receivedCrc then (.dropped, count)
    else if !env.opened ∨ env.fwriteHeader = 0 then (.notSaved, count + 1)
    else (.saved (received env timeStringRecv count headerValues packet), count + 1)

def receivePacket (crc16 : List UInt8 → Int → UInt16) (env : ReceiveEnv) (count : UInt32)
    (headerValues : HeaderValues) (packet : CspPacket) : Reception × UInt32 :=
  (getTime env.clock).elim (.undefined, count)
    (receivePacketAt crc16 env count headerValues packet)

/-! ## Agreement -/

/-- What is told about a packet. -/
structure PacketInfo where
  src : Nat
  dst : Nat
  dport : Nat
  sport : Nat
  length : Nat
deriving DecidableEq, Repr

def packetInfo (headerValues : HeaderValues) (length : UInt16) : PacketInfo where
  src := headerValues.src
  dst := headerValues.dst
  dport := headerValues.dport
  sport := headerValues.sport
  length := length.toNat

def PacketInfo.members (type timestamp : CStr) (i : PacketInfo) : List (Json.Text × Json.Value) :=
  [(cstr "type", .string type), (cstr "timestamp", .string timestamp),
    (cstr "src", .number (fmtNat i.src)), (cstr "dst", .number (fmtNat i.dst)),
    (cstr "dport", .number (fmtNat i.dport)), (cstr "sport", .number (fmtNat i.sport)),
    (cstr "length", .number (fmtNat i.length))]

/-- The text is complete JSON that tells this about a packet. -/
def Tells (text type timestamp : CStr) (i : PacketInfo) : Prop :=
  Json.Denotes text (.object (i.members type timestamp)) ∧ text.getLast? = some 125

/-- The newest event of a downlink packet in the ring. -/
def newestDownlink (b : GuiBackend τ δ) : Option GuiBackendEvent :=
  (newestEvents b.station.gui guiBackendMaxEvents).reverse.find? (·.type = .downlink)

/-- `LAST_DOWNLINK` and the newest event tell this about a packet; they have no ports. -/
def GuiTells (b : GuiBackend τ δ) (i : PacketInfo) : Prop :=
  (b.lastDownlinkSrc.toNat = i.src ∧ b.lastDownlinkDst.toNat = i.dst ∧
    b.lastDownlinkBytes = i.length) ∧
  ∃ e, newestDownlink b = some e ∧ e.detail = strncpyCut 256
    (cstr "src=" ++ fmtNat i.src ++ cstr " dst=" ++ fmtNat i.dst ++ cstr " bytes=" ++
      fmtNat i.length)

/-- All descriptions of a saved packet agree: the file, the two messages with one timestamp, and
what the GUI is left with. -/
def DescriptionsAgree (r : Received) (b : GuiBackend τ δ) : Prop :=
  ∃ (headerValues : HeaderValues) (length : UInt16) (timestamp : CStr),
    r.header = cspHeader headerValues length ∧
      Tells r.telemetry (cstr "telemetry") timestamp (packetInfo headerValues length) ∧
      (∃ text ∈ r.packet, Tells text (cstr "packet") timestamp (packetInfo headerValues length)) ∧
      GuiTells b (packetInfo headerValues length)

end CspTerm.Downlink
