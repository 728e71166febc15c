import CspTerm.Csp.Types
import CspTerm.Lib.Run
import Mathlib.Algebra.BigOperators.Fin

/-!
# The way into the router (`csp_qfifo.c`)

There is a queue of packets for each priority, and one queue of events that says how often the router
should look for a packet. Interfaces write from several threads, and the two queues that a write
touches are not touched at once; only the router reads.
-/

namespace CspTerm.Csp

/-- `CSP_ROUTE_FIFOS`. -/
abbrev cspRouteFifos : Nat := 4
/-- `CSP_FIFO_INPUT`: the length of each queue, that of the events included. -/
abbrev cspFifoInput : Nat := 100

/-- `csp_qfifo_t`, for interfaces of type `ι`. -/
structure QfifoElement (ι : Type) where
  interface : ι
  packet : CspPacket
deriving DecidableEq

variable {ι : Type}

def QfifoElement.fifo (e : QfifoElement ι) : Fin cspRouteFifos := e.packet.id.pri

structure Qfifo (ι : Type) where
  fifos : Fin cspRouteFifos → List (QfifoElement ι)
  /-- The number of events in the queue of events. -/
  events : Nat
  /-- The number of threads that have put a packet into its queue and not yet the event for it. -/
  notifying : Nat
  /-- The router has taken an event, and will look into the queue of this priority next. -/
  prio : Option Nat
  /-- What was accepted so far, in the order of acceptance. -/
  accepted : List (QfifoElement ι)
  /-- What was dropped because its queue was full. -/
  dropped : List (QfifoElement ι)
  /-- What the router got, in its order. -/
  handed : List (QfifoElement ι)
  /-- The number of events for which there was no room. -/
  lost : Nat
  /-- The number of times that the router found no packet. -/
  spurious : Nat

def Qfifo.initial : Qfifo ι :=
  { fifos := fun _ => [], events := 0, notifying := 0, prio := none, accepted := [],
    dropped := [], handed := [], lost := 0, spurious := 0 }

inductive QfifoEvent (ι : Type)
  /-- The first half of `csp_qfifo_write`. -/
  | write (e : QfifoElement ι)
  /-- The second half: the event. -/
  | notify
  /-- The first half of `csp_qfifo_read`: the router waits for an event, in vain if there is none. -/
  | take
  /-- One turn of the loop that follows. -/
  | look

def Qfifo.setFifo (s : Qfifo ι) (p : Fin cspRouteFifos) (l : List (QfifoElement ι)) : Qfifo ι :=
  { s with fifos := fun p' => if p' = p then l else s.fifos p' }

def Qfifo.write (s : Qfifo ι) (e : QfifoElement ι) : Qfifo ι :=
  if (s.fifos e.fifo).length < cspFifoInput then
    { s with notifying := s.notifying + 1, accepted := s.accepted ++ [e] }.setFifo e.fifo
      (s.fifos e.fifo ++ [e])
  else { s with dropped := s.dropped ++ [e] }

/-- The loop of `csp_qfifo_read` at one priority. -/
def Qfifo.look (s : Qfifo ι) (prio : Nat) : Qfifo ι :=
  if h : prio < cspRouteFifos then
    match s.fifos ⟨prio, h⟩ with
    | [] => { s with prio := some (prio + 1) }
    | e :: rest => { s with prio := none, handed := s.handed ++ [e] }.setFifo ⟨prio, h⟩ rest
  else { s with prio := none, spurious := s.spurious + 1 }

def Qfifo.step (s : Qfifo ι) : QfifoEvent ι → Qfifo ι
  | .write e => s.write e
  | .notify =>
    if s.notifying = 0 then s
    else if s.events < cspFifoInput then
      { s with notifying := s.notifying - 1, events := s.events + 1 }
    -- the result of `csp_queue_enqueue` is not looked at
    else { s with notifying := s.notifying - 1, lost := s.lost + 1 }
  | .take =>
    if s.prio = none ∧ 0 < s.events then { s with events := s.events - 1, prio := some 0 } else s
  | .look =>
    match s.prio with
    | none => s
    | some prio => s.look prio

/-- The number of packets that wait, in the queues from this priority on. -/
def Qfifo.waiting (s : Qfifo ι) (prio : Nat) : Nat :=
  ((List.finRange cspRouteFifos).map fun p => if prio ≤ p.val then (s.fifos p).length else 0).sum

end CspTerm.Csp
