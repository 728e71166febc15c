import CspTerm.Gui.LineBuffer

/-!
# The buffer of a client in memory (`gui_backend.c`)

`gui_backend_process_buffer` with its search from an offset, its copy of each line and the `memmove`
behind the loop, and the `recv` before it, on the whole array of a client. Bytes behind `size` are
left over from earlier lines. The handler uses the client to send to it only, so the buffer and
`size` do not change during the loop.
-/

namespace CspTerm.Gui

open CString

variable {σ : Type}

/-- `char buffer[GUI_BACKEND_BUFFER_SIZE]`. -/
def GuiBuffer : Type := { bytes : List UInt8 // bytes.length = guiBackendBufferSize }
deriving DecidableEq

def GuiBuffer.zero : GuiBuffer := ⟨List.replicate guiBackendBufferSize 0, List.length_replicate⟩

/-- `memmove` of `src` to `buffer + off`, for a `src` that fits there. -/
def GuiBuffer.write (buffer : GuiBuffer) (off : Nat) (src : List UInt8) : GuiBuffer :=
  ⟨(buffer.val.take off ++ src ++ buffer.val.drop (off + src.length)).take guiBackendBufferSize, by
    have := buffer.property
    simp only [List.length_take, List.length_append, List.length_drop]
    omega⟩

/-- `struct gui_backend_client`; `size` never exceeds the array. -/
structure GuiClientArray where
  fd : Int
  buffer : GuiBuffer
  size : Nat
  size_le : size ≤ guiBackendBufferSize
deriving DecidableEq

/-- The bytes of the buffer that count. -/
def GuiClientArray.used (client : GuiClientArray) : List UInt8 := client.buffer.val.take client.size

/-- The array `line`, up to the NUL behind it, for the bytes that `memcpy` puts there. -/
def lineArray (copied : List UInt8) : List UInt8 :=
  let line := copied ++ [0]
  if 0 < copied.length ∧ line.getD (copied.length - 1) 0 = carriageReturn then
    line.set (copied.length - 1) 0
  else line

/-- The loop of `gui_backend_process_buffer` from the offset `processed` on, with at most `fuel` tests
of its condition: the last offset, and the state after the handler has seen the lines. -/
def GuiClientArray.processLoop (handle : σ → CStr → σ) (client : GuiClientArray) :
    Nat → Nat → σ → Option (Nat × σ)
  | 0, _, _ => none
  | fuel + 1, processed, s =>
    if processed < client.size then
      match memchr newline ((client.buffer.val.drop processed).take (client.size - processed)) with
      | none => some (processed, s)
      | some k =>
        let newlineAt := processed + k
        let lineLength := newlineAt - processed
        let lineLength :=
          if lineLength ≥ guiBackendBufferSize then guiBackendBufferSize - 1 else lineLength
        let line := lineArray ((client.buffer.val.drop processed).take lineLength)
        -- the handler is given a pointer to `line`, and reads up to its first NUL
        client.processLoop handle fuel (newlineAt + 1) (handle s (line.takeWhile (· ≠ 0)))
    else some (processed, s)

/-- `memmove` of the bytes from `processed` on to the beginning of the buffer. -/
def GuiClientArray.discard (client : GuiClientArray) (processed : Nat) : GuiClientArray where
  fd := client.fd
  buffer := client.buffer.write 0
    ((client.buffer.val.drop processed).take (client.size - processed))
  size := client.size - processed
  size_le := (Nat.sub_le _ _).trans client.size_le

/-- `gui_backend_process_buffer`. `none` if its loop does not end, or ends behind the bytes that
count, from where `size` would wrap. -/
def GuiClientArray.processBuffer (handle : σ → CStr → σ) (client : GuiClientArray) (s : σ) :
    Option (GuiClientArray × σ) := do
  let (processed, s) ← client.processLoop handle (client.size + 1) 0 s
  if 0 < processed then
    if client.size < processed then none else return (client.discard processed, s)
  else return (client, s)

/-- `recv` into the rest of the buffer. -/
def GuiClientArray.recv (client : GuiClientArray) (received : List UInt8) : GuiClientArray :=
  let received := received.take (guiBackendBufferSize - client.size)
  { fd := client.fd
    buffer := client.buffer.write client.size received
    size := client.size + received.length
    size_le := by
      have := client.size_le
      rw [List.length_take]
      omega }

/-- The receive step of `gui_backend_thread`. -/
def GuiClientArray.receive (handle : σ → CStr → σ) (tooLong : σ → σ) (client : GuiClientArray)
    (received : List UInt8) (s : σ) : Option (GuiClientArray × σ) :=
  let client := client.recv received
  if client.size ≥ guiBackendBufferSize then
    some ({ client with size := 0, size_le := Nat.zero_le _ }, tooLong s)
  else client.processBuffer handle s

/-- A client on a slot of the table that `gui_backend_thread` has just taken for it. -/
def GuiClientArray.connected (fd : Int) (buffer : GuiBuffer) : GuiClientArray where
  fd := fd
  buffer := buffer
  size := 0
  size_le := Nat.zero_le _

/-- A handler of strings on the bytes of a line: it reads up to the first NUL. -/
def upToNul (handle : σ → CStr → σ) (s : σ) (line : List UInt8) : σ :=
  handle s (line.takeWhile (· ≠ 0))

/-- The array holds the bytes of the client, and its commands have left the same state. -/
def GuiClientArray.Refines (p : GuiClientArray × σ) (client : GuiClient σ) : Prop :=
  p.1.used = client.buffer ∧ p.2 = client.state

/-! ## The splitter -/

/-- What the handler is to see of a line: without one trailing CR, and up to a NUL in it. -/
def commandText (line : List UInt8) : CStr := (stripCr line).takeWhile (· ≠ 0)

/-- What the handler is to see of the complete lines among these bytes, in their order. -/
def commandLines (bytes : List UInt8) : List CStr := (Lines.lines newline bytes).map commandText

/-- `gui_backend_process_buffer` returns; the handler has seen the complete lines, each once, and the
bytes behind the last newline are left. -/
def GuiClientArray.SplitsLines (handle : σ → CStr → σ) (client : GuiClientArray) (s : σ) : Prop :=
  ∃ client', client.processBuffer handle s =
      some (client', (commandLines client.used).foldl handle s) ∧
    client'.used = Lines.rest newline client.used ∧
    client'.size = (Lines.rest newline client.used).length

/-- Both calls return, and leave the same state, the same bytes and the same count of them. -/
def SameEffect (a b : Option (GuiClientArray × σ)) : Prop :=
  ∃ p q, a = some p ∧ b = some q ∧ p.2 = q.2 ∧ p.1.fd = q.1.fd ∧ p.1.used = q.1.used ∧
    p.1.size = q.1.size

end CspTerm.Gui
