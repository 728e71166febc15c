import CspTerm.Downlink.CrcCheck
import CspTerm.Downlink.DownlinkClient
import CspTerm.Downlink.StatusPublisher
import CspTerm.Uplink.FileErrors

/-!
# The descriptors of the downlink (`downlink_client.c`, `receive_packet.c`)

`downlink_client` keeps its socket from one call to the next, and `ret` tells whether there is one.
`receive_packet` saves a packet in a file, publishes it through a FIFO and has `downlink_client`
forward the file.
-/

namespace CspTerm.Downlink

open CString CspTerm.Csp CspTerm.Archive CspTerm.Uplink Descriptors

/-! ## `downlink_client` -/

/-- The file-scope variables: `ret`, which is 0 or 1 (`true`), and `sock`. -/
structure McsSocket where
  ret : Bool
  sock : Int
deriving DecidableEq, Repr

def McsSocket.init : McsSocket := { ret := true, sock := 0 }

/-- The results of the calls that `downlink_client` makes; `sends` has one for each block that
`fread` delivers. -/
structure DownlinkIo where
  socketFd : Int
  inetPton : Int
  connect : Int
  fileFd : Option Int
  sends : List Int
deriving DecidableEq, Repr

/-- The first part: whether the function goes on, the variables, and the operations. The socket is
not closed where it returns. -/
def setupConnection (g : McsSocket) (io : DownlinkIo) : Bool × McsSocket × List (FileOp Int) :=
  if g.ret then
    let sock := io.socketFd
    if sock < 0 then (false, { g with sock := sock }, [.opened none])
    else if io.inetPton ≤ 0 then (false, { g with sock := sock }, [.opened (some sock)])
    else if io.connect < 0 then
      (false, { g with sock := sock }, [.opened (some sock), .used (some sock)])
    else (true, { ret := false, sock := sock }, [.opened (some sock), .used (some sock)])
  else (true, g, [])

/-- The loop over the blocks of the file. -/
def sendBlocksIo (g : McsSocket) : List Int → McsSocket × List (FileOp Int)
  | [] => (g, [])
  | sent :: sends =>
    if sent < 0 then ({ g with ret := true }, [.used (some g.sock), .closed (some g.sock)])
    else
      let (g', ops) := sendBlocksIo g sends
      (g', .used (some g.sock) :: ops)

/-- The second part. The file is not closed. -/
def sendFileIo (g : McsSocket) (io : DownlinkIo) : McsSocket × List (FileOp Int) :=
  match io.fileFd with
  | none => (g, [.opened none])
  | some fs =>
    let (g, ops) := sendBlocksIo g io.sends
    (g, [.opened (some fs), .used (some fs)] ++ ops)

def downlinkClientIo (g : McsSocket) (io : DownlinkIo) : McsSocket × List (FileOp Int) :=
  let (connected, g, ops) := setupConnection g io
  if connected then
    let (g, ops') := sendFileIo g io
    (g, ops ++ ops')
  else (g, ops)

/-- The sockets that the variables stand for. -/
def McsSocket.held (g : McsSocket) : Finset Int := if g.ret then ∅ else {g.sock}

/-! ## `receive_packet` -/

/-- The calls of `open` in one `status_publisher_send`, and the descriptor that they may give. -/
structure PublishIo where
  opens : Nat → OpenOutcome
  fd : Int

def publishOps (io : PublishIo) : List (FileOp Int) :=
  session (if openFifo io.opens 0 5 then some io.fd else none)

/-- The surroundings of `receive_packet`: its file, the two messages, and the forwarding. -/
structure ReceiveIo where
  clock : ClockTime
  fileFd : Option Int
  fwriteHeader : Nat
  fwriteData : Nat
  telemetry : PublishIo
  downlink : DownlinkIo
  packet : PublishIo

def ReceiveIo.env (io : ReceiveIo) : ReceiveEnv where
  clock := io.clock
  opened := io.fileFd.isSome
  fwriteHeader := io.fwriteHeader
  fwriteData := io.fwriteData

/-- `receive_packet` with this timestamp. The file is not closed when its header is not written. -/
def receivePacketIo (crc : Crc16) (io : ReceiveIo) (count : UInt32) (headerValues : HeaderValues)
    (p : RadioPacket) (timeStringRecv : CStr) (g : McsSocket) : Traced McsSocket :=
  match (receiveChecked crc io.env count headerValues p timeStringRecv).reception with
  | .dropped => { ending := .returned g, ops := [] }
  | .notSaved =>
    { ending := .returned g
      ops := .opened io.fileFd :: io.fileFd.toList.map fun fd => .used (some fd) }
  | .saved r =>
    let (g, ops) := downlinkClientIo g io.downlink
    let ops := session io.fileFd ++ publishOps io.telemetry ++ ops
    if r.packet.isSome then { ending := .returned g, ops := ops ++ publishOps io.packet }
    else { ending := .undefined, ops := ops }
  | .undefined => { ending := .undefined, ops := [] }

/-! ## The same call, by what it forwards -/

/-- The results of `send` for the blocks from the `i`th on. -/
def sendResults (send : Nat → Option Nat) : Nat → List (List UInt8) → List Int
  | _, [] => []
  | i, _ :: blocks => (send i).elim (-1) Nat.cast :: sendResults send (i + 1) blocks

/-- What the calls of `downlink_client` return, with these descriptors. -/
def DownlinkCall.io (c : DownlinkCall) (s : Forwarding) (socketFd fileFd : Nat) : DownlinkIo where
  socketFd := if c.socket then socketFd else -1
  inetPton := if s.clientAddr.isSome then 1 else 0
  connect := if c.connect then 0 else -1
  fileFd := c.file.map fun _ => (fileFd : Int)
  sends := c.file.elim [] fun content => sendResults c.send 0 (freadBlocks content)

end CspTerm.Downlink
