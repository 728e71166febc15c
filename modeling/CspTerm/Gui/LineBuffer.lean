import CspTerm.Gui.State
import CspTerm.Lib.Lines

/-!
# From bytes to command lines (`gui_backend.c`)

The receive step of `gui_backend_thread` appends what `recv` delivers to the client's buffer. If the
buffer is full then, it is emptied and the client is told; otherwise `gui_backend_process_buffer`
hands the complete lines to the command handler and keeps the rest.

The handler and the effect of the error message are parameters, on a state `σ`.
-/

namespace CspTerm.Gui

open CString

variable {σ : Type}

def newline : UInt8 := 10

def carriageReturn : UInt8 := 13

def memchr (b : UInt8) (bytes : List UInt8) : Option Nat := bytes.findIdx? (· == b)

theorem lt_of_memchr {b : UInt8} {bytes : List UInt8} {k : Nat} (h : memchr b bytes = some k) :
    k < bytes.length := (List.findIdx?_eq_some_iff_getElem.mp h).1

/-- The text of a line: one trailing CR is dropped. -/
def stripCr (line : List UInt8) : List UInt8 :=
  if line.getLast? = some carriageReturn then line.dropLast else line

/-- The loop of `gui_backend_process_buffer` on the bytes from `processed` on: the state after the
handler has seen the lines, and the bytes that are left. The handler gets the bytes of the array
`line` before the NUL that ends it. -/
def guiBackendProcessLines (handle : σ → List UInt8 → σ) (s : σ) (bytes : List UInt8) :
    σ × List UInt8 :=
  match h : memchr newline bytes with
  | none => (s, bytes)
  | some k =>
    let lineLength := if k ≥ guiBackendBufferSize then guiBackendBufferSize - 1 else k
    guiBackendProcessLines handle (handle s (stripCr (bytes.take lineLength))) (bytes.drop (k + 1))
termination_by bytes.length
decreasing_by
  have := lt_of_memchr h
  rw [List.length_drop]
  omega

/-- A connected client: the first `size` bytes of its buffer, and the state its commands work on. -/
structure GuiClient (σ : Type) where
  buffer : List UInt8
  state : σ
deriving DecidableEq, Repr

def guiBackendProcessBuffer (handle : σ → List UInt8 → σ) (client : GuiClient σ) : GuiClient σ :=
  let (s, rest) := guiBackendProcessLines handle client.state client.buffer
  { buffer := rest, state := s }

/-- The receive step of `gui_backend_thread`, for a `recv` that delivered `received`; `tooLong` is
the effect of the message `ERROR Input too long`. -/
def guiBackendReceive (handle : σ → List UInt8 → σ) (tooLong : σ → σ) (client : GuiClient σ)
    (received : List UInt8) : GuiClient σ :=
  let buffer := client.buffer ++ received
  if buffer.length ≥ guiBackendBufferSize then { buffer := [], state := tooLong client.state }
  else guiBackendProcessBuffer handle { client with buffer := buffer }

/-! ## The lines of a stream -/

/-- What happens to the lines of a client. -/
inductive LineAction where
  /-- The line is handed to `gui_backend_handle_command`. -/
  | command (line : List UInt8)
  | tooLong
deriving DecidableEq, Repr

/-- A client whose commands are only recorded, with all bytes it has sent. -/
structure RecordedClient where
  client : GuiClient (List LineAction)
  stream : List UInt8
deriving DecidableEq, Repr

def RecordedClient.init : RecordedClient :=
  { client := { buffer := [], state := [] }, stream := [] }

def RecordedClient.step (r : RecordedClient) (received : List UInt8) : RecordedClient where
  client := guiBackendReceive (fun as line => as ++ [.command line]) (fun as => as ++ [.tooLong])
    r.client received
  stream := r.stream ++ received

/-- `recv` delivers at least one byte and no more than the buffer has room for. -/
def RecordedClient.Receivable (r : RecordedClient) (received : List UInt8) : Prop :=
  1 ≤ received.length ∧ received.length ≤ guiBackendBufferSize - r.client.buffer.length

/-- What is to happen to a line: it is a command if it fits the buffer with its terminator. -/
def lineAction (line : List UInt8) : LineAction :=
  if line.length + 1 < guiBackendBufferSize then .command (stripCr line) else .tooLong

/-- What is to happen to the lines of a stream, with the unfinished line counted as too long as soon
as it cannot fit any more. -/
def streamActions (stream : List UInt8) : List LineAction :=
  (Lines.lines newline stream).map lineAction ++
    if guiBackendBufferSize ≤ (Lines.rest newline stream).length then [.tooLong] else []

/-- The actions so far are those of the lines sent so far. -/
def RecordedClient.Faithful (r : RecordedClient) : Prop :=
  r.client.state = streamActions r.stream

/-- The pieces of the stream that are handled by its lines: one that does not fill the buffer, or
fills it with a single line or a part of one; and, while an over-long line is unfinished, one that
neither ends that line nor fills the buffer again. -/
def RecordedClient.Segmentable (r : RecordedClient) (received : List UInt8) : Prop :=
  if (Lines.rest newline r.stream).length < guiBackendBufferSize then
    r.client.buffer.length + received.length < guiBackendBufferSize ∨
      newline ∉ (r.client.buffer ++ received).dropLast
  else newline ∉ received ∧ r.client.buffer.length + received.length < guiBackendBufferSize

end CspTerm.Gui
