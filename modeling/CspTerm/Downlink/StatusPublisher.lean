import CspTerm.Lib.CString
import CspTerm.Lib.Lines
import CspTerm.Lib.Run

/-!
# The status FIFO (`status_publisher.c`)

`status_publisher_send` opens the FIFO, writes a message and then a newline, and closes it again. A
label of the machine is one call with what `open` and `write` come to in it.
-/

namespace CspTerm.Downlink

open CString

/-! ## `write_all` -/

/-- What one `write` comes to: it takes the first `n` bytes, it is interrupted (`EINTR`), or it fails
otherwise (`EAGAIN`, `EPIPE`). -/
inductive WriteOutcome where
  | wrote (n : Nat)
  | eintr
  | error
deriving DecidableEq, Repr

/-- `write_all(fd, buf, len)`: the bytes that the FIFO takes, and the result; `none` while the call
still tries. -/
def writeAll : List UInt8 → List WriteOutcome → List UInt8 × Option Int
  | [], _ => ([], some 0)
  | _ :: _, [] => ([], none)
  | b :: buf, .wrote n :: outcomes =>
    if n = 0 then ([], some (-1))
    else
      let (written, ret) := writeAll ((b :: buf).drop n) outcomes
      ((b :: buf).take n ++ written, ret)
  | b :: buf, .eintr :: outcomes => writeAll (b :: buf) outcomes
  | _ :: _, .error :: _ => ([], some (-1))

/-! ## `status_publisher_send` -/

/-- What one `open` comes to; `retry` is `ENXIO` or `EAGAIN`. -/
inductive OpenOutcome where
  | opened
  | retry
  | error
deriving DecidableEq, Repr

/-- The loop around `open` from attempt `i`, with `k` attempts left: whether it gets a descriptor. -/
def openFifo (opens : Nat → OpenOutcome) : Nat → Nat → Bool
  | _, 0 => false
  | i, k + 1 =>
    match opens i with
    | .opened => true
    | .retry => openFifo opens (i + 1) k
    | .error => false

/-- A call of `status_publisher_send`. -/
structure PublishCall where
  json : CStr
  opens : Nat → OpenOutcome
  /-- The outcomes of the writes of the message, and of those of the newline. -/
  message : List WriteOutcome
  newline : List WriteOutcome

/-- `status_publisher_send`: the bytes that the FIFO takes. -/
def statusPublisherSend (c : PublishCall) : List UInt8 :=
  if !openFifo c.opens 0 5 then []
  else
    let (written, ret) := writeAll c.json c.message
    -- the result of the second call is not looked at
    if ret = some 0 then written ++ (writeAll (cstr "\n") c.newline).1 else written

/-! ## The stream -/

/-- What a reader of the FIFO has seen, and the messages of the calls so far. -/
structure FifoStream where
  seen : List UInt8
  messages : List CStr
deriving DecidableEq

def FifoStream.init : FifoStream := { seen := [], messages := [] }

def publishStep (s : FifoStream) (c : PublishCall) : FifoStream :=
  { seen := s.seen ++ statusPublisherSend c, messages := s.messages ++ [c.json] }

/-- A message with its newline. -/
def record (message : CStr) : CStr := message ++ [10]

/-- The reader has seen whole records of some of the messages, in their order. -/
def WholeRecords (s : FifoStream) : Prop :=
  ∃ kept : List CStr, kept.Sublist s.messages ∧ s.seen = (kept.map record).flatten

/-- `PIPE_BUF`. -/
def pipeBuf : Nat := 4096

/-- A message without a newline, which a non-blocking FIFO takes as a whole or not at all. -/
structure PublishCall.Admissible (c : PublishCall) : Prop where
  noNewline : (10 : UInt8) ∉ c.json
  fits : c.json.length ≤ pipeBuf
  message : ∀ n, .wrote n ∈ c.message → n = c.json.length
  newline : ∀ n, .wrote n ∈ c.newline → n = 1

/-- The first outcome that is no interruption is that the bytes are taken. -/
def Takes (outcomes : List WriteOutcome) : Prop :=
  ∃ n, outcomes.find? (· ≠ .eintr) = some (.wrote n)

/-- If the FIFO opens and takes a message that is not empty, it takes the newline, too. -/
def PublishCall.NewlineFollows (c : PublishCall) : Prop :=
  openFifo c.opens 0 5 = true → c.json ≠ [] → Takes c.message → Takes c.newline

end CspTerm.Downlink
