import CspTerm.Gui.LineBuffer
import CspTerm.Lib.Run
import Mathlib.Data.Finset.Basic
import Mathlib.Data.List.FinRange

/-!
# The client table of the GUI backend (`gui_backend_thread`)

The thread keeps eight client slots and serves them in a loop: `select` on the listening socket and
the descriptors of the used slots, a status broadcast once a second, one `accept` into the first free
slot, and one `recv` for each readable client. One turn of the loop is one step here. What the
commands and the messages to the clients do beyond the table is a parameter, on a state `σ`.

The state also records the accepted descriptors that are not closed yet, and the calls of `recv`.
-/

namespace CspTerm.Gui

variable {σ : Type}

def guiBackendMaxClients : Nat := 8

/-- `struct gui_backend_client`, with the first `size` bytes of its buffer. -/
structure GuiBackendClient where
  fd : Int
  buffer : List UInt8
deriving DecidableEq, Repr

def GuiBackendClient.size (client : GuiBackendClient) : Nat := client.buffer.length

def GuiBackendClient.free : GuiBackendClient := { fd := -1, buffer := [] }

/-- One call of `recv`: the bytes in the buffer before it, the length it was given (a `size_t`), and
the bytes it delivered. -/
structure RecvCall where
  size : Nat
  room : Nat
  received : Nat
deriving DecidableEq, Repr

/-- What the thread does to the rest of the program. -/
structure GuiEffects (σ : Type) where
  /-- `gui_backend_handle_command` for a client and a line. -/
  handleCommand : Int → σ → List UInt8 → σ
  /-- `ERROR Input too long`. -/
  inputTooLong : Int → σ → σ
  /-- `OK CONNECTED gui-backend`. -/
  connected : Int → σ → σ
  /-- `gui_backend_emit_status_to_all`, for the descriptors of the used slots. -/
  emitStatus : List Int → σ → σ

/-- The local variables of `gui_backend_thread`. -/
structure ClientTable (σ : Type) where
  clients : Fin guiBackendMaxClients → GuiBackendClient
  lastBroadcast : Int
  running : Bool
  state : σ
  opened : Finset Int
  recvs : List RecvCall

def ClientTable.init (s : σ) : ClientTable σ where
  clients := fun _ => .free
  lastBroadcast := 0
  running := true
  state := s
  opened := ∅
  recvs := []

/-- What `select` returns; the ready descriptors are among the watched ones. -/
inductive SelectResult where
  | timeout
  | interrupted
  | failed
  | ready (server : Bool) (readable : List Int)
deriving DecidableEq, Repr

/-- The outcomes of the calls in one turn of the loop: `accepted` is what `accept` returns, and
`arrived i` are the bytes that wait for the client in slot `i`, none of them at the end of its
stream, or `none` if its `recv` fails. -/
structure LoopTurn where
  select : SelectResult
  now : Int
  accepted : Int
  arrived : Fin guiBackendMaxClients → Option (List UInt8)

/-- The descriptors of the used slots. -/
def ClientTable.watched (s : ClientTable σ) : List Int :=
  ((List.finRange guiBackendMaxClients).map fun i => (s.clients i).fd).filter (0 ≤ ·)

def ClientTable.setClient (s : ClientTable σ) (i : Fin guiBackendMaxClients)
    (client : GuiBackendClient) : ClientTable σ :=
  { s with clients := Function.update s.clients i client }

/-- The first slot with `fd < 0`. -/
def ClientTable.freeSlot (s : ClientTable σ) : Option (Fin guiBackendMaxClients) :=
  (List.finRange guiBackendMaxClients).find? fun i => (s.clients i).fd < 0

/-- `accept` on the listening socket. A client that finds no free slot is closed again. -/
def guiBackendAccept (fx : GuiEffects σ) (clientFd : Int) (s : ClientTable σ) : ClientTable σ :=
  if clientFd < 0 then s
  else match s.freeSlot with
    | some slot =>
      { s.setClient slot { fd := clientFd, buffer := [] } with
        state := fx.connected clientFd s.state
        opened := insert clientFd s.opened }
    | none => s

def guiBackendCloseClient (i : Fin guiBackendMaxClients) (s : ClientTable σ) : ClientTable σ :=
  if 0 ≤ (s.clients i).fd then
    { s.setClient i .free with opened := s.opened.erase (s.clients i).fd }
  else s

/-- `sizeof(client->buffer) - client->size`, a `size_t`. -/
def recvRoom (client : GuiBackendClient) : Nat :=
  (guiBackendBufferSize + 2 ^ 64 - client.size) % 2 ^ 64

/-- The turn of one client: `recv` delivers what has arrived, up to the length it was given, and the
client is closed when it delivers nothing. -/
def guiBackendServeClient (fx : GuiEffects σ) (readfds : List Int)
    (arrived : Fin guiBackendMaxClients → Option (List UInt8)) (s : ClientTable σ)
    (i : Fin guiBackendMaxClients) : ClientTable σ :=
  let client := s.clients i
  if 0 ≤ client.fd ∧ client.fd ∈ readfds then
    let received := ((arrived i).getD []).take (recvRoom client)
    let s := { s with recvs :=
      s.recvs ++ [{ size := client.size, room := recvRoom client, received := received.length }] }
    if received = [] then guiBackendCloseClient i s
    else
      let served := guiBackendReceive (fx.handleCommand client.fd) (fx.inputTooLong client.fd)
        { buffer := client.buffer, state := s.state } received
      { s.setClient i { client with buffer := served.buffer } with state := served.state }
  else s

/-- The end of the thread after a failed `select`. -/
def guiBackendShutdown (s : ClientTable σ) : ClientTable σ :=
  (List.finRange guiBackendMaxClients).foldl (fun s i => guiBackendCloseClient i s)
    { s with running := false }

/-- One turn of the loop of `gui_backend_thread`. -/
def guiBackendTurn (fx : GuiEffects σ) (s : ClientTable σ) (turn : LoopTurn) : ClientTable σ :=
  if s.running then
    let watched := s.watched
    let s := if turn.now - s.lastBroadcast ≥ 1 then
        { s with state := fx.emitStatus watched s.state, lastBroadcast := turn.now }
      else s
    match turn.select with
    | .timeout => s
    | .interrupted => s
    | .failed => guiBackendShutdown s
    | .ready server readable =>
      let readfds := watched.filter (· ∈ readable)
      let s := if server then guiBackendAccept fx turn.accepted s else s
      (List.finRange guiBackendMaxClients).foldl
        (guiBackendServeClient fx readfds turn.arrived) s
  else s

/-! ## The invariant -/

/-- A slot of the table: free with nothing in its buffer, or used with room in it. -/
structure GuiBackendClient.WellFormed (client : GuiBackendClient) : Prop where
  free : client.fd < 0 → client.size = 0
  used : 0 ≤ client.fd → client.size < guiBackendBufferSize

/-- The slots hold exactly the open descriptors, each in one slot. -/
structure ClientTable.WellFormed (s : ClientTable σ) : Prop where
  slots : ∀ i, (s.clients i).WellFormed
  distinct : ∀ i j, 0 ≤ (s.clients i).fd → (s.clients i).fd = (s.clients j).fd → i = j
  isOpen : ∀ i, 0 ≤ (s.clients i).fd → (s.clients i).fd ∈ s.opened
  hasSlot : ∀ fd ∈ s.opened, 0 ≤ fd ∧ ∃ i, (s.clients i).fd = fd

/-- `recv` was asked for at least one byte, and for no more than the buffer had room for. -/
def RecvCall.Safe (call : RecvCall) : Prop :=
  1 ≤ call.room ∧ call.size + call.room ≤ guiBackendBufferSize ∧ call.received ≤ call.room

/-- If `accept` is called, it does not return a descriptor that is open. -/
def ClientTable.Fresh (s : ClientTable σ) (turn : LoopTurn) : Prop :=
  ∀ readable, turn.select = .ready true readable → turn.accepted ∉ s.opened

end CspTerm.Gui
