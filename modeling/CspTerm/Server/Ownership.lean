import CspTerm.Server.TaskServer

/-!
# Whose connection is in a slot

A slot is used by one connection after the other, and the server knows a connection by its slot
only. Here the connections of a slot are numbered, and the accept queue and the server remember the
number of the connection that they were given. No code reads these numbers.
-/

namespace CspTerm.Server

open CspTerm.Csp

/-- How many connections `csp_conn_new` has put into the slot so far: the number of the last. -/
def generation (s : CspStack) (i : Fin cspConnMax) : Nat := s.openings.countP (·.1 == i)

structure OwnerState where
  base : ServerState
  /-- The connections in the accept queue, as they were when they were posted. -/
  posted : List Nat
  /-- The connection that the server accepted last. -/
  served : Nat

def OwnerState.init (address sport : Fin 32) : OwnerState :=
  { base := .init address sport, posted := [], served := 0 }

/-- The step is the server's `csp_accept`. -/
def Accepting (s : ServerState) (l : Label) : Prop :=
  (∃ o, l = .server o) ∧ s.pc.conn = none

instance (s : ServerState) : (l : Label) → Decidable (Accepting s l)
  | .server o => decidable_of_iff (s.pc.conn = none)
      ⟨fun h => ⟨⟨o, rfl⟩, h⟩, fun h => h.2⟩
  | .route .. | .timeout _ | .release .. | .take | .give | .cloneSyn | .requeue _ | .ftpRead _
  | .ftpClose _ => .isFalse fun h => nomatch h.1

/-- One step of the machine, with the numbers. A step other than `csp_accept` only adds to the
accept queue. -/
def ownerStep (s : OwnerState) (l : Label) : OwnerState :=
  let base := step s.base l
  if Accepting s.base l then
    { base := base, posted := s.posted.tail, served := s.posted.headD s.served }
  else
    let waiting := s.base.csp.backlog.length
    { base := base, posted := s.posted ++ (base.csp.backlog.drop waiting).map (generation base.csp),
      served := s.served }

/-! ## Sparing other connections -/

/-- The step that the server is about to take on its slot reads no packet and flushes none. -/
def Pc.TakesNothing (csp : CspStack) : Pc → Prop
  | .accept | .handle .. => True
  | .read i => (cspRead csp i).1 = none
  | .closeInner i | .closeOuter i =>
    ((cspClose csp i).conns i).rxQueue.buffers = (csp.conns i).rxQueue.buffers

instance (csp : CspStack) : (pc : Pc) → Decidable (pc.TakesNothing csp)
  | .accept | .handle .. => .isTrue trivial
  | .read i => inferInstanceAs (Decidable ((cspRead csp i).1 = none))
  | .closeInner i | .closeOuter i => inferInstanceAs
      (Decidable (((cspClose csp i).conns i).rxQueue.buffers = (csp.conns i).rxQueue.buffers))

/-- If the slot that the server works on has another connection by now than the one that it
accepted, this step of the server takes no packet from it. -/
def Spares (s : OwnerState) : Label → Prop
  | .server _ => ∀ i, s.base.pc.conn = some i → generation s.base.csp i ≠ s.served →
      s.base.pc.TakesNothing s.base.csp
  | .route .. | .timeout _ | .release .. | .take | .give | .cloneSyn | .requeue _ | .ftpRead _
  | .ftpClose _ => True

instance (s : OwnerState) : (l : Label) → Decidable (Spares s l)
  | .server _ => inferInstanceAs (Decidable (∀ _, _))
  | .route .. | .timeout _ | .release .. | .take | .give | .cloneSyn | .requeue _ | .ftpRead _
  | .ftpClose _ => .isTrue trivial

/-- The slot that the next connection gets is not one that the server still works on, nor one that
waits in the accept queue for an earlier connection. -/
def NextSlotUnclaimed (s : ServerState) : Prop :=
  ∀ i, nextSlot s.csp = some i → s.pc.conn ≠ some i ∧ i ∉ s.csp.backlog

instance (s : ServerState) : Decidable (NextSlotUnclaimed s) := inferInstanceAs (Decidable (∀ _, _))

/-- If this step opens a connection, for a packet that the router works on or for the reply to a
packet on port 16, nobody claims the slot that it gets. -/
def OpensElsewhere (s : ServerState) : Label → Prop
  | .route packet o => s.csp.network ≠ 0 → NeedsConn s.csp packet o → NextSlotUnclaimed s
  | .server o => s.pc.Serving fun i _ =>
      (s.csp.conns i).idin.dport = rePort ∧ o.connect = true → NextSlotUnclaimed s
  | .timeout _ | .release .. | .take | .give | .cloneSyn | .requeue _ | .ftpRead _ | .ftpClose _ =>
    True

instance (s : ServerState) : (l : Label) → Decidable (OpensElsewhere s l)
  | .route .. => inferInstanceAs (Decidable (_ → _ → _))
  | .server _ => inferInstanceAs (Decidable (Pc.Serving _ s.pc))
  | .timeout _ | .release .. | .take | .give | .cloneSyn | .requeue _ | .ftpRead _ | .ftpClose _ =>
    .isTrue trivial

end CspTerm.Server
