import CspTerm.Csp.Types
import CspTerm.Lib.Run

/-!
# The buffer pool (`csp_buffer.c`)

There is a fixed number of buffers, and a queue of the free ones. Each buffer counts its references.
The queue has a lock, but the count of a buffer has none, so a call is not one step when several
threads use the pool.
-/

namespace CspTerm.Csp

/-- Where a thread is. -/
inductive BufferCall (count : Nat)
  | idle
  /-- `csp_buffer_get`, behind the queue and before the count. -/
  | taken (b : Fin count)
  /-- `csp_buffer_free`, which has seen that this is the last reference. -/
  | last (b : Fin count)
  /-- `csp_buffer_free`, which has seen that there are more references. -/
  | shared (b : Fin count)
  /-- `csp_buffer_free`, behind the count and before the queue. -/
  | returning (b : Fin count)

inductive BufferReport
  /-- `csp_buffer_get` has returned the buffer. -/
  | got
  /-- `csp_buffer_free` has dropped the last reference to it. -/
  | freed
deriving DecidableEq

/-- The pool with the threads `θ`. -/
structure BufferPool (θ : Type) (count : Nat) where
  /-- `csp_buffers`: the free ones. -/
  buffers : List (Fin count)
  refcount : Fin count → Nat
  calls : θ → BufferCall count
  /-- What happened so far. -/
  history : List (Fin count × BufferReport)

inductive BufferEvent (θ : Type) (count : Nat)
  /-- A thread calls `csp_buffer_get`. -/
  | get (t : θ) (bufSize : Nat)
  /-- A thread calls `csp_buffer_free`. -/
  | free (t : θ) (b : Fin count)
  /-- A thread goes on. -/
  | run (t : θ)

variable {θ : Type} [DecidableEq θ] {count : Nat}

/-- `csp_buffer_init`. -/
def BufferPool.initial (θ : Type) (count : Nat) : BufferPool θ count :=
  { buffers := List.finRange count, refcount := fun _ => 0, calls := fun _ => .idle, history := [] }

def BufferPool.setCall (s : BufferPool θ count) (t : θ) (call : BufferCall count) :
    BufferPool θ count :=
  { s with calls := fun t' => if t' = t then call else s.calls t' }

def BufferPool.setRefcount (s : BufferPool θ count) (b : Fin count) (n : Nat) :
    BufferPool θ count :=
  { s with refcount := fun b' => if b' = b then n else s.refcount b' }

def BufferPool.report (s : BufferPool θ count) (b : Fin count) (report : BufferReport) :
    BufferPool θ count :=
  { s with history := s.history ++ [(b, report)] }

/-- `csp_queue_enqueue` without a timeout. -/
def BufferPool.enqueue (s : BufferPool θ count) (b : Fin count) : BufferPool θ count :=
  if s.buffers.length < count then { s with buffers := s.buffers ++ [b] } else s

/-- `csp_buffer_get` up to the queue. -/
def BufferPool.get (s : BufferPool θ count) (t : θ) (bufSize : Nat) : BufferPool θ count :=
  if cspBufferSize < bufSize then s
  else
    match s.buffers with
    | [] => s
    | b :: rest => { s with buffers := rest }.setCall t (.taken b)

/-- `csp_buffer_free` up to the test of the count. -/
def BufferPool.free (s : BufferPool θ count) (t : θ) (b : Fin count) : BufferPool θ count :=
  if s.refcount b = 0 then s
  else if 1 < s.refcount b then s.setCall t (.shared b)
  else s.setCall t (.last b)

def BufferPool.runThread (s : BufferPool θ count) (t : θ) : BufferPool θ count :=
  match s.calls t with
  | .idle => s
  | .taken b => ((s.setRefcount b (s.refcount b + 1)).report b .got).setCall t .idle
  | .last b => ((s.setRefcount b 0).report b .freed).setCall t (.returning b)
  | .shared b => (s.setRefcount b (s.refcount b - 1)).setCall t .idle
  | .returning b => (s.enqueue b).setCall t .idle

/-- A thread in a call calls nothing else. -/
def BufferPool.step (s : BufferPool θ count) : BufferEvent θ count → BufferPool θ count
  | .get t bufSize =>
    match s.calls t with
    | .idle => s.get t bufSize
    | _ => s
  | .free t b =>
    match s.calls t with
    | .idle => s.free t b
    | _ => s
  | .run t => s.runThread t

/-- The buffer that a call is about. -/
def BufferCall.buffer : BufferCall count → Option (Fin count)
  | .idle => none
  | .taken b => some b
  | .last b => some b
  | .shared b => some b
  | .returning b => some b

/-- No buffer is freed while another call is busy with it. It may be freed twice, and by anybody. -/
def BufferPool.Apart (s : BufferPool θ count) : BufferEvent θ count → Prop
  | .free _ b => ∀ t, (s.calls t).buffer ≠ some b
  | _ => True

/-- What happened to one buffer. -/
def BufferPool.historyOf (s : BufferPool θ count) (b : Fin count) : List BufferReport :=
  (s.history.filter fun report => report.1 = b).map Prod.snd

end CspTerm.Csp
