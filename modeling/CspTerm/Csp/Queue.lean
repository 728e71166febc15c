import CspTerm.Lib.Fifo
import CspTerm.Lib.Run

/-!
# Queues (`arch/posix/pthread_queue.c`, `arch/posix/csp_queue.c`)

A queue is a ring of items with a mutex. A call that finds the queue full (or empty) waits on a
condition until it is woken up or its time is over. Any number of threads call at the same time; what a
call does while it has the mutex is one step.
-/

namespace CspTerm.Csp

/-! ## The ring -/

structure PthreadQueue (α : Type) (size : Nat) where
  buffer : Vector α size
  items : Nat
  /-- `in`: where the next item goes. -/
  into : Nat
  /-- `out`: where the next item comes from. -/
  out : Nat

/-- `pthread_queue_create`: nothing is said about the contents of the memory. -/
def pthreadQueueCreate {α : Type} {size : Nat} (memory : Vector α size) : PthreadQueue α size :=
  { buffer := memory, items := 0, into := 0, out := 0 }

variable {α : Type} {size : Nat} [NeZero size]

/-- The copy into the ring. -/
def PthreadQueue.store (queue : PthreadQueue α size) (value : α) : PthreadQueue α size :=
  { queue with
    buffer := queue.buffer.set (Fin.ofNat size queue.into) value
    items := queue.items + 1
    into := (queue.into + 1) % size }

/-- The copy out of the ring. -/
def PthreadQueue.fetch (queue : PthreadQueue α size) : α × PthreadQueue α size :=
  (Ring.cell queue.buffer queue.out,
    { queue with items := queue.items - 1, out := (queue.out + 1) % size })

/-! ## Calls -/

/-- Where a thread is. -/
inductive QueueCall (α : Type)
  | idle
  /-- Before the mutex, to test whether the queue is full. -/
  | enqueue (value : α)
  /-- In `pthread_cond_timedwait` on `cond_full`. -/
  | waitFull (value : α)
  /-- Behind the mutex, before the broadcast on `cond_empty`. -/
  | notifyEmpty
  | dequeue
  /-- In `pthread_cond_timedwait` on `cond_empty`. -/
  | waitEmpty
  /-- Before the broadcast on `cond_full`. -/
  | notifyFull

/-- What a broadcast on `cond_empty` does to a thread. -/
def QueueCall.wakeEmpty : QueueCall α → QueueCall α
  | .waitEmpty => .dequeue
  | call => call

/-- What a broadcast on `cond_full` does to a thread. -/
def QueueCall.wakeFull : QueueCall α → QueueCall α
  | .waitFull value => .enqueue value
  | call => call

/-- A queue with the threads `θ`, and the values that were put into it and taken out of it so far, each
with the thread that did it. -/
structure QueueSystem (θ α : Type) (size : Nat) where
  queue : PthreadQueue α size
  calls : θ → QueueCall α
  stored : List (θ × α)
  fetched : List (θ × α)

inductive QueueEvent (θ α : Type)
  /-- A thread calls `pthread_queue_enqueue`. -/
  | enqueue (t : θ) (value : α)
  /-- A thread calls `pthread_queue_dequeue`. -/
  | dequeue (t : θ)
  /-- A thread goes on: it gets the mutex, or makes its broadcast. -/
  | run (t : θ)
  /-- A wait ends without a broadcast. -/
  | wake (t : θ)
  /-- A wait is over: the call returns `PTHREAD_QUEUE_FULL` or `PTHREAD_QUEUE_EMPTY`. -/
  | timeout (t : θ)

variable {θ : Type} [DecidableEq θ]

def QueueSystem.setCall (s : QueueSystem θ α size) (t : θ) (call : QueueCall α) :
    QueueSystem θ α size :=
  { s with calls := fun t' => if t' = t then call else s.calls t' }

def QueueSystem.runThread (s : QueueSystem θ α size) (t : θ) : QueueSystem θ α size :=
  match s.calls t with
  | .enqueue value =>
    if s.queue.items = size then s.setCall t (.waitFull value)
    else
      { s with queue := s.queue.store value, stored := s.stored ++ [(t, value)] }.setCall t .notifyEmpty
  | .notifyEmpty => { s with calls := fun t' => (s.calls t').wakeEmpty }.setCall t .idle
  | .dequeue =>
    if s.queue.items = 0 then s.setCall t .waitEmpty
    else
      let (value, queue) := s.queue.fetch
      { s with queue := queue, fetched := s.fetched ++ [(t, value)] }.setCall t .notifyFull
  | .notifyFull => { s with calls := fun t' => (s.calls t').wakeFull }.setCall t .idle
  | _ => s

def QueueSystem.step (s : QueueSystem θ α size) : QueueEvent θ α → QueueSystem θ α size
  | .enqueue t value =>
    match s.calls t with
    | .idle => s.setCall t (.enqueue value)
    | _ => s
  | .dequeue t =>
    match s.calls t with
    | .idle => s.setCall t .dequeue
    | _ => s
  | .run t => s.runThread t
  | .wake t =>
    match s.calls t with
    | .waitFull value => s.setCall t (.enqueue value)
    | .waitEmpty => s.setCall t .dequeue
    | _ => s
  | .timeout t =>
    match s.calls t with
    | .waitFull _ => s.setCall t .idle
    | .waitEmpty => s.setCall t .idle
    | _ => s

/-- A new queue that nobody uses. -/
def QueueSystem.initial (θ : Type) (memory : Vector α size) : QueueSystem θ α size :=
  { queue := pthreadQueueCreate memory, calls := fun _ => .idle, stored := [], fetched := [] }

/-! ## Deadlines -/

/-- `struct timespec`, with as many nanoseconds as there are in a second at most. -/
structure PthreadQueue.Timespec where
  sec : Nat
  nsec : Nat
  valid : nsec < 1000000000

def PthreadQueue.Timespec.nanoseconds (ts : PthreadQueue.Timespec) : Nat :=
  1000000000 * ts.sec + ts.nsec

/-- The time at which a call with a timeout in milliseconds gives up. -/
def queueDeadline (now : PthreadQueue.Timespec) (timeout : UInt32) : PthreadQueue.Timespec :=
  let sec := timeout / 1000
  let nsec := (timeout - 1000 * sec) * 1000000
  { sec := now.sec + sec.toNat + if now.nsec + nsec.toNat > 1000000000 then 1 else 0
    nsec := (now.nsec + nsec.toNat) % 1000000000
    valid := Nat.mod_lt _ (by decide) }

end CspTerm.Csp
