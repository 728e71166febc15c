import CspTerm.Lib.Run
import Mathlib.Data.List.Infix

/-!
# Forwarding to MCS (`downlink_client.c`, `tcp_server.c`)

`downlink_client` sends a file to the TCP server of MCS. It keeps its connection from one call to the
next and opens a new one only after `send` has failed; the address it connects to is that of the
client which connected to `tcp_server` last.

One step is a client that connects to `tcp_server`, or a call of `downlink_client`, during which
clients can connect too. Every connection keeps what was put on it and which files were sent on it.
-/

namespace CspTerm.Downlink

/-- `LENGTH` in `downlink_client.c`. -/
def downlinkLength : Nat := 32768

/-! ## State -/

/-- A file that was sent, and the client that was the last one to have connected then. -/
structure SentFile where
  content : List UInt8
  client : Option UInt32
deriving DecidableEq, Repr

/-- A connection to the MCS server at `addr`. -/
structure McsConnection where
  addr : UInt32
  bytes : List UInt8
  files : List SentFile
deriving DecidableEq, Repr

def McsConnection.opened (addr : UInt32) : McsConnection :=
  { addr := addr, bytes := [], files := [] }

/-- The variables that the two functions share. `client_addr` is a dotted address or empty, and
`sock` is in use as long as `ret` is 0, so that `none` stands for `ret == 1`. -/
structure Forwarding where
  clientAddr : Option UInt32
  sock : Option McsConnection
  closed : List McsConnection
deriving DecidableEq, Repr

def Forwarding.init : Forwarding := { clientAddr := none, sock := none, closed := [] }

/-- The outcomes of one call: whether `socket` and `connect` succeed, the clients that connect to
`tcp_server` between the copy of the address and the opening of the file, the content of the file if
it opens, and what each `send` returns: how many bytes of the block it takes, or `none` if it
fails. -/
structure DownlinkCall where
  socket : Bool
  connect : Bool
  arrivals : List UInt32
  file : Option (List UInt8)
  send : Nat → Option Nat

inductive ForwardingStep where
  /-- `tcp_server` accepts a client. -/
  | accept (addr : UInt32)
  | call (c : DownlinkCall)

/-! ## Steps -/

/-- `strcpy(client_addr, inet_ntoa(addr_remote.sin_addr))`. -/
def Forwarding.accept (s : Forwarding) (addr : UInt32) : Forwarding :=
  { s with clientAddr := some addr }

/-- The first part of `downlink_client`; `none` if the function returns in it. An empty address is
refused by `inet_pton`. -/
def connectMcs (s : Forwarding) (c : DownlinkCall) : Option McsConnection :=
  match s.sock with
  | some conn => some conn
  | none =>
    if c.socket then
      match s.clientAddr with
      | none => none
      | some destServerAddress => if c.connect then some (.opened destServerAddress) else none
    else none

/-- The blocks that `fread` delivers. -/
def freadBlocks : List UInt8 → List (List UInt8)
  | [] => []
  | b :: content =>
    (b :: content).take downlinkLength :: freadBlocks ((b :: content).drop downlinkLength)
termination_by content => content.length
decreasing_by
  rw [List.length_drop, List.length_cons, downlinkLength]
  omega

/-- The loop that sends the blocks: what is put on the connection, and whether `send` failed. -/
def sendBlocks (send : Nat → Option Nat) : Nat → List (List UInt8) → List UInt8 × Bool
  | _, [] => ([], false)
  | i, block :: blocks =>
    match send i with
    | none => ([], true)
    | some taken =>
      let (bytes, failed) := sendBlocks send (i + 1) blocks
      (block.take taken ++ bytes, failed)

/-- The second part of `downlink_client`, on connection `conn`. -/
def sendFile (s : Forwarding) (c : DownlinkCall) (conn : McsConnection) : Forwarding :=
  match c.file with
  | none => { s with sock := some conn }
  | some content =>
    let (bytes, failed) := sendBlocks c.send 0 (freadBlocks content)
    let conn := { conn with
      bytes := conn.bytes ++ bytes
      files := conn.files ++ [{ content := content, client := s.clientAddr }] }
    if failed then { s with sock := none, closed := s.closed ++ [conn] }
    else { s with sock := some conn }

def downlinkClient (s : Forwarding) (c : DownlinkCall) : Forwarding :=
  let conn := connectMcs s c
  let s := c.arrivals.foldl Forwarding.accept s
  conn.elim s (sendFile s c)

def Forwarding.step (s : Forwarding) : ForwardingStep → Forwarding
  | .accept addr => s.accept addr
  | .call c => downlinkClient s c

/-! ## Whole files, to the current client -/

def McsConnection.contents (conn : McsConnection) : List (List UInt8) := conn.files.map (·.content)

/-- The connection carries its files, one after another. -/
def McsConnection.Whole (conn : McsConnection) : Prop := conn.bytes = conn.contents.flatten

/-- The connection carries its files, the last one up to some point. -/
def McsConnection.Cut (conn : McsConnection) : Prop :=
  ∃ files last part, conn.contents = files ++ [last] ∧ part <+: last ∧
    conn.bytes = files.flatten ++ part

/-- Every file was sent while the connection was one to the client that had connected last. -/
def McsConnection.Addressed (conn : McsConnection) : Prop :=
  ∀ f ∈ conn.files, f.client = some conn.addr

/-- The connection in use carries whole files, those closed after a failed `send` may end in a part
of one, and all files went to the client of the time. -/
structure Forwarding.Faithful (s : Forwarding) : Prop where
  inUse : ∀ conn, s.sock = some conn → conn.Whole ∧ conn.Addressed
  closed : ∀ conn ∈ s.closed, conn.Cut ∧ conn.Addressed

/-- `send` takes every block whole until it fails, or takes a part of one and fails on the next. -/
def SendsInOrder (send : Nat → Option Nat) : Nat → List (List UInt8) → Prop
  | _, [] => True
  | i, block :: blocks =>
    ∀ taken, send i = some taken →
      (block.length ≤ taken ∧ SendsInOrder send (i + 1) blocks) ∨
        (blocks ≠ [] ∧ send (i + 1) = none)

/-- The client that connected last when the call opens its file. -/
def Forwarding.lastClient (s : Forwarding) (c : DownlinkCall) : Option UInt32 :=
  c.arrivals.getLast?.or s.clientAddr

/-- The address that the call sends to: that of the connection in use, or the one it copies. -/
def Forwarding.target (s : Forwarding) : Option UInt32 :=
  s.sock.elim s.clientAddr fun conn => some conn.addr

/-- The call has a connection, and its file opens. -/
def Forwarding.Sends (s : Forwarding) (c : DownlinkCall) (content : List UInt8) : Prop :=
  (s.sock = none → c.socket ∧ s.clientAddr.isSome ∧ c.connect) ∧ c.file = some content

/-- If the call sends its file, it does so to the client that connected last, and no short `send`
goes unnoticed. -/
def Forwarding.Forwards (s : Forwarding) : ForwardingStep → Prop
  | .accept _ => True
  | .call c => ∀ content, s.Sends c content →
      s.lastClient c = s.target ∧ SendsInOrder c.send 0 (freadBlocks content)

end CspTerm.Downlink
