import CspTerm.Csp.Router

/-!
# The connection pool: what every call keeps

`Sound` holds of the pool in every run: no buffer is lost between the accounts, closed slots hold
none, the server's own socket stays where it is, and a slot carries the identifier that was put
there last. `Attended` says that somebody looks after every open connection.
-/

namespace CspTerm.Csp

/-- The buffers that the pool itself accounts for. -/
def CspStack.accounted (s : CspStack) : Nat :=
  s.free + s.network + ∑ i, (s.conns i).rxQueue.buffers

def listenerConn : CspConn := { CspConn.zero with state := .open, type := .server }

/-- The pool accounts for `t` buffers, and every connection was opened for an identifier with `P`. -/
structure CspStack.Sound (P : CspId → Prop) (t : Nat) (s : CspStack) : Prop where
  account : s.accounted = t
  socket : s.conns listener = listenerConn
  closed_empty : ∀ i, (s.conns i).state = .closed → (s.conns i).rxQueue.buffers = 0
  backlog_ne : ∀ i ∈ s.backlog, i ≠ listener
  idin_eq : ∀ i, (s.conns i).idin = lastOpened s.openings i
  idin_prop : ∀ i, P (s.conns i).idin
  rdp_eq : ∀ i, (s.conns i).idin.rdp = (s.conns i).idout.rdp

variable {P : CspId → Prop} {t t' : Nat} {s s' : CspStack} {i j : Fin cspConnMax} {c : CspConn}

@[simp] theorem setConn_conns_self : (s.setConn i c).conns i = c := Function.update_self ..

theorem setConn_conns_of_ne (h : j ≠ i) : (s.setConn i c).conns j = s.conns j :=
  Function.update_of_ne h ..

@[simp] theorem setConn_backlog : (s.setConn i c).backlog = s.backlog := rfl

@[simp] theorem setConn_openings : (s.setConn i c).openings = s.openings := rfl

@[simp] theorem setConn_free : (s.setConn i c).free = s.free := rfl

@[simp] theorem setConn_network : (s.setConn i c).network = s.network := rfl

@[simp] theorem lastOpened_cons (id : CspId) (l : List (Fin cspConnMax × CspId)) :
    lastOpened ((i, id) :: l) j = if i = j then id else lastOpened l j := by
  by_cases h : i = j <;> simp [lastOpened, h]

/-! ## Soundness -/

namespace CspStack.Sound

/-- A call that changes one slot, other than the socket's, and the accounts along with it. -/
theorem update (h : s.Sound P t) (hi : i ≠ listener)
    (hconns : s'.conns = Function.update s.conns i c)
    (hacc : s'.free + s'.network + c.rxQueue.buffers + t
      = s.free + s.network + (s.conns i).rxQueue.buffers + t')
    (hclosed : c.state = .closed → c.rxQueue.buffers = 0)
    (hback : ∀ j ∈ s'.backlog, j ≠ listener)
    (hid : c.idin = lastOpened s'.openings i)
    (hopen : ∀ j, j ≠ i → lastOpened s'.openings j = lastOpened s.openings j)
    (hP : P c.idin) (hrdp : c.idin.rdp = c.idout.rdp) : s'.Sound P t' := by
  have hne : ∀ j, j ≠ i → s'.conns j = s.conns j := fun j hj => by
    rw [hconns, Function.update_of_ne hj]
  have hself : s'.conns i = c := by rw [hconns, Function.update_self]
  refine ⟨?_, ?_, fun j => ?_, hback, fun j => ?_, fun j => ?_, fun j => ?_⟩
  · have hsum := RoundRobin.sum_update_add (fun c : CspConn => c.rxQueue.buffers) s.conns i c
    rw [← hconns] at hsum
    have := h.account
    simp only [accounted] at this ⊢
    omega
  · rw [hne _ (Ne.symm hi), h.socket]
  all_goals by_cases hj : j = i
  · subst hj; rw [hself]; exact hclosed
  · rw [hne j hj]; exact h.closed_empty j
  · subst hj; rw [hself]; exact hid
  · rw [hne j hj, hopen j hj]; exact h.idin_eq j
  · subst hj; rw [hself]; exact hP
  · rw [hne j hj]; exact h.idin_prop j
  · subst hj; rw [hself]; exact hrdp
  · rw [hne j hj]; exact h.rdp_eq j

theorem frame (h : s.Sound P t) (hconns : s'.conns = s.conns) (hopen : s'.openings = s.openings)
    (hback : ∀ j ∈ s'.backlog, j ∈ s.backlog)
    (hacc : s'.free + s'.network + t = s.free + s.network + t') : s'.Sound P t' := by
  refine ⟨?_, by rw [hconns, h.socket], by rw [hconns]; exact h.closed_empty,
    fun j hj => h.backlog_ne j (hback j hj), by rw [hconns, hopen]; exact h.idin_eq,
    by rw [hconns]; exact h.idin_prop, by rw [hconns]; exact h.rdp_eq⟩
  have := h.account
  simp only [accounted, hconns] at this ⊢
  omega

theorem setConn (h : s.Sound P t) (hi : i ≠ listener)
    (hrx : c.rxQueue = (s.conns i).rxQueue) (hid : c.idin = (s.conns i).idin)
    (hout : c.idout = (s.conns i).idout) (hst : c.state = .closed → (s.conns i).state = .closed) :
    (s.setConn i c).Sound P t := by
  refine h.update hi rfl (by rw [hrx]; rfl) (fun hc => ?_) h.backlog_ne ?_ (fun _ _ => rfl) ?_ ?_
  · rw [hrx]; exact h.closed_empty i (hst hc)
  · rw [hid]; exact h.idin_eq i
  · rw [hid]; exact h.idin_prop i
  · rw [hid, hout]; exact h.rdp_eq i

theorem bufferFree (h : s.Sound P t) : (cspBufferFree s).Sound P (t + 1) :=
  h.frame rfl rfl (fun _ => id) (by simp only [cspBufferFree]; omega)

theorem handOver (h : s.Sound P t) : s.handOver.Sound P (t + 1) :=
  h.frame rfl rfl (fun _ => id) (by simp only [CspStack.handOver]; omega)

/-- The queues of a slot are flushed while it is being closed. -/
theorem flush_closing (h : s.Sound P t) (hi : i ≠ listener) (r : RdpState) :
    (cspConnFlushRxQueue (s.setConn i { s.conns i with rdpState := r, state := .closed }) i).Sound
      P t := by
  refine h.update hi (c := { s.conns i with rdpState := r, state := .closed, rxQueue := .empty })
    ?_ ?_ (fun _ => rfl) h.backlog_ne (h.idin_eq i) (fun _ _ => rfl) (h.idin_prop i) (h.rdp_eq i)
  · simp [cspConnFlushRxQueue, CspStack.setConn]
  · simp only [cspConnFlushRxQueue, setConn_conns_self, setConn_free, setConn_network,
      RxQueues.buffers_empty]
    omega

end CspStack.Sound

/-- What `csp_conn_new` does: a closed slot other than the last given is opened for the identifier,
its queues empty. -/
theorem cspConnNew_eq {idin idout : CspId} (h : cspConnNew idin idout s = some (i, s')) :
    (s.conns i).state = .closed ∧
      s' = { s.setConn i
              { s.conns i with state := .open, socket := false, type := .client, idin := idin,
                               idout := idout, rxQueue := .empty } with
              lastGiven := i, free := s.free + (s.conns i).rxQueue.buffers,
              openings := (i, idin) :: s.openings } := by
  simp only [cspConnNew, cspConnAllocate, Option.map_map, Option.map_eq_some_iff,
    Function.comp_apply, Prod.mk.injEq] at h
  obtain ⟨k, hk, rfl, rfl⟩ := h
  refine ⟨by simpa using RoundRobin.free_of_next hk, ?_⟩
  simp [cspConnFlushRxQueue, CspStack.setConn]

theorem cspConnNew_eq_none_iff {idin idout : CspId} :
    cspConnNew idin idout s = none ↔ closedSlots s = ∅ := by
  simp only [cspConnNew, cspConnAllocate, Option.map_eq_none_iff, RoundRobin.next_eq_none_iff,
    closedSlots, Finset.filter_eq_empty_iff, Finset.mem_univ, true_implies]
  exact forall_congr' fun i => by simp

/-- What `csp_close` does to an open slot: RDP may ask for more time, else the slot is closed and its
queues are flushed. -/
theorem cspClose_cases (s : CspStack) (i : Fin cspConnMax) :
    (s.conns i).state = .closed ∧ cspClose s i = s ∨
    (s.conns i).state = .open ∧ (∃ c : CspConn, c = { s.conns i with rdpState := .closeWait } ∧
      ((s.conns i).idin.rdp || (s.conns i).idout.rdp) = true ∧ cspClose s i = s.setConn i c) ∨
    (s.conns i).state = .open ∧ ∃ r : RdpState, cspClose s i
      = cspConnFlushRxQueue (s.setConn i { s.conns i with rdpState := r, state := .closed }) i := by
  by_cases hst : (s.conns i).state = .closed
  · exact .inl ⟨hst, by simp [cspClose, hst]⟩
  have hopen : (s.conns i).state = .open := by
    cases h : (s.conns i).state with
    | closed => exact absurd h hst
    | «open» => rfl
  by_cases hrdp : ((s.conns i).idin.rdp || (s.conns i).idout.rdp) = true
  · cases hr : (s.conns i).rdpState
    case closed => exact .inr (.inr ⟨hopen, .closed, by simp [cspClose, hst, hrdp, cspRdpClose, hr]⟩)
    case closeWait =>
      exact .inr (.inr ⟨hopen, .closed, by simp [cspClose, hst, hrdp, cspRdpClose, hr]⟩)
    all_goals
      exact .inr (.inl ⟨hopen, _, rfl, hrdp, by simp [cspClose, hst, hrdp, cspRdpClose, hr]⟩)
  · exact .inr (.inr ⟨hopen, (s.conns i).rdpState, by simp [cspClose, hst, hrdp]⟩)

theorem postToSocket_eq (h : postToSocket s i = some s') :
    s' = { s.setConn i { s.conns i with socket := false } with backlog := s.backlog ++ [i] } := by
  unfold postToSocket at h
  split at h
  · exact (Option.some.inj h).symm
  · cases h

theorem cspAccept_eq (h : cspAccept s = some (i, s')) :
    ∃ rest, s.backlog = i :: rest ∧ s' = { s with backlog := rest } := by
  unfold cspAccept at h
  split at h
  · cases h
  · rename_i k rest hb
    obtain ⟨rfl, rfl⟩ := Prod.mk.inj (Option.some.inj h)
    exact ⟨rest, hb, rfl⟩

theorem cspRead_cases {packet : Option CspPacket} (h : cspRead s i = (packet, s')) :
    packet = none ∧ s' = s ∨
    (s.conns i).state = .open ∧ ∃ r, (s.conns i).rxQueue.dequeue = some (packet, r) ∧
      s' = s.setConn i { s.conns i with rxQueue := r } := by
  unfold cspRead at h
  split at h
  · obtain ⟨rfl, rfl⟩ := Prod.mk.inj h
    exact .inl ⟨rfl, rfl⟩
  · rename_i hopen
    split at h <;> obtain ⟨rfl, rfl⟩ := Prod.mk.inj h
    · exact .inl ⟨rfl, rfl⟩
    · rename_i r hd
      exact .inr ⟨not_not.mp hopen, r, hd, rfl⟩

theorem cspSocket_cspInit (address sport : Fin 32) :
    cspSocket (cspInit address sport) =
      { (cspInit address sport).setConn listener listenerConn with lastGiven := listener } := by
  have hnext : RoundRobin.next (fun i => ((cspInit address sport).conns i).state == .closed)
      (cspInit address sport).lastGiven = some listener := RoundRobin.next_eq_probe_zero rfl
  simp only [cspSocket, cspConnAllocate, hnext, Option.map_some, Option.getD_some]
  rfl

namespace CspStack.Sound

theorem close (h : s.Sound P t) (hi : i ≠ listener) : (cspClose s i).Sound P t := by
  rcases cspClose_cases s i with ⟨-, he⟩ | ⟨hopen, c, rfl, -, he⟩ | ⟨-, r, he⟩ <;> rw [he]
  · exact h
  · exact h.setConn hi rfl rfl rfl id
  · exact h.flush_closing hi r

theorem connNew {idin idout : CspId} (h : s.Sound P t) (hP : P idin) (hrdp : idin.rdp = idout.rdp)
    (hn : cspConnNew idin idout s = some (i, s')) : i ≠ listener ∧ s'.Sound P t := by
  obtain ⟨hclosed, rfl⟩ := cspConnNew_eq hn
  have hi : i ≠ listener := by
    rintro rfl
    rw [h.socket] at hclosed
    exact absurd hclosed (by decide)
  refine ⟨hi, h.update hi rfl ?_ (fun _ => rfl) h.backlog_ne (by simp) (fun j hj => ?_) hP
    hrdp⟩
  · simp only [setConn_network, RxQueues.buffers_empty]
    omega
  · simp [Ne.symm hj]

/-- A pointer enters the queues of an open connection, and with it the packet it points to. -/
theorem enqueue {packet : Option CspPacket} (h : s.Sound P t) (hi : i ≠ listener)
    (hopen : (s.conns i).state = .open) (he : cspConnEnqueuePacket s i packet = some s') :
    s'.Sound P (t + packet.toList.length) := by
  obtain ⟨r, hr, rfl⟩ := Option.map_eq_some_iff.mp he
  refine h.update hi rfl ?_ (fun hc => ?_) h.backlog_ne (h.idin_eq i) (fun _ _ => rfl)
    (h.idin_prop i) (h.rdp_eq i)
  · have := RxQueues.buffers_enqueue hr
    simp only [setConn_free, setConn_network]
    omega
  · rw [hopen] at hc
    cases hc

theorem post (h : s.Sound P t) (hi : i ≠ listener) (hp : postToSocket s i = some s') :
    s'.Sound P t := by
  obtain rfl := postToSocket_eq hp
  refine h.update hi rfl (Nat.add_right_cancel_iff.mpr rfl) (h.closed_empty i) (fun j hj => ?_)
    (h.idin_eq i) (fun _ _ => rfl) (h.idin_prop i) (h.rdp_eq i)
  rcases List.mem_append.mp hj with hj | hj
  · exact h.backlog_ne j hj
  · rwa [List.mem_singleton.mp hj]

theorem accept (h : s.Sound P t) (ha : cspAccept s = some (i, s')) :
    i ≠ listener ∧ s'.Sound P t := by
  obtain ⟨rest, hb, rfl⟩ := cspAccept_eq ha
  refine ⟨h.backlog_ne i (by simp [hb]), h.frame rfl rfl ?_ rfl⟩
  intro j hj
  rw [hb]
  exact List.mem_cons_of_mem i hj

theorem read {packet : Option CspPacket} (h : s.Sound P t) (hi : i ≠ listener)
    (hr : cspRead s i = (packet, s')) : ∃ n, t = n + packet.toList.length ∧ s'.Sound P n := by
  rcases cspRead_cases hr with ⟨rfl, rfl⟩ | ⟨hopen, r, hd, rfl⟩
  · exact ⟨t, rfl, h⟩
  · have hb := RxQueues.buffers_dequeue hd
    have hle := RoundRobin.le_sum (fun c : CspConn => c.rxQueue.buffers) s.conns i
    have hacc := h.account
    simp only [accounted] at hacc
    refine ⟨t - packet.toList.length, by omega, h.update hi rfl ?_ (fun hc => ?_) h.backlog_ne
      (h.idin_eq i) (fun _ _ => rfl) (h.idin_prop i) (h.rdp_eq i)⟩
    · simp only [setConn_free, setConn_network]
      omega
    · rw [hopen] at hc
      cases hc

theorem init (address sport : Fin 32) (hP : P .zero) :
    (cspSocket (cspInit address sport)).Sound P cspBuffers := by
  rw [cspSocket_cspInit]
  have hconn : ∀ i, ((cspInit address sport).setConn listener listenerConn).conns i = .zero ∨
      ((cspInit address sport).setConn listener listenerConn).conns i = listenerConn := fun i => by
    by_cases hi : i = listener
    · subst hi; exact .inr setConn_conns_self
    · exact .inl (setConn_conns_of_ne hi)
  have hrx : ∀ i, (((cspInit address sport).setConn listener listenerConn).conns i).rxQueue
      = .empty := fun i => by rcases hconn i with h | h <;> rw [h] <;> rfl
  have hid : ∀ i, (((cspInit address sport).setConn listener listenerConn).conns i).idin
      = .zero := fun i => by rcases hconn i with h | h <;> rw [h] <;> rfl
  have hout : ∀ i, (((cspInit address sport).setConn listener listenerConn).conns i).idout
      = .zero := fun i => by rcases hconn i with h | h <;> rw [h] <;> rfl
  refine ⟨?_, ?_, ?_, ?_, hid, ?_, ?_⟩
  · show cspBuffers + 0 + ∑ i, _ = cspBuffers
    rw [Finset.sum_eq_zero fun i _ => by rw [hrx, RxQueues.buffers_empty]]
    rfl
  · exact setConn_conns_self (s := cspInit address sport) (i := listener) (c := listenerConn)
  · intro i _
    rw [hrx, RxQueues.buffers_empty]
  · intro i hi
    exact absurd hi List.not_mem_nil
  · intro i
    exact (hid i).symm ▸ hP
  · intro i
    rw [hid, hout]

end CspStack.Sound

/-! ## Attendance -/

/-- RDP still has to open or to close the connection. -/
def CspConn.Waiting (c : CspConn) : Prop :=
  c.idin.rdp = true ∧ (c.socket = true ∨ c.rdpState = .closeWait)

/-- Every open connection is the server's socket, or a task is busy with it, or it waits to be
accepted, or it waits for RDP. -/
def CspStack.Attended (busy : Fin cspConnMax → Prop) (s : CspStack) : Prop :=
  ∀ i, (s.conns i).state = .open →
    i = listener ∨ busy i ∨ i ∈ s.backlog ∨ (s.conns i).Waiting

namespace CspStack.Attended

variable {busy busy' : Fin cspConnMax → Prop}

theorem mono (hb : ∀ i, busy i → busy' i) (h : s.Attended busy) : s.Attended busy' := by
  intro i hi
  rcases h i hi with h | h | h | h
  exacts [.inl h, .inr (.inl (hb i h)), .inr (.inr (.inl h)), .inr (.inr (.inr h))]

theorem update (h : s.Attended busy) (hconns : s'.conns = Function.update s.conns i c)
    (hback : ∀ j ∈ s.backlog, j ∈ s'.backlog)
    (hc : c.state = .open → i = listener ∨ busy' i ∨ i ∈ s'.backlog ∨ c.Waiting)
    (hb : ∀ j, j ≠ i → busy j → busy' j) : s'.Attended busy' := by
  intro j hj
  by_cases hji : j = i
  · subst hji
    rw [hconns, Function.update_self] at hj ⊢
    exact hc hj
  · rw [hconns, Function.update_of_ne hji] at hj ⊢
    rcases h j hj with h | h | h | h
    exacts [.inl h, .inr (.inl (hb j hji h)), .inr (.inr (.inl (hback j h))), .inr (.inr (.inr h))]

/-- A slot whose attendance cannot get worse. -/
theorem setConn (h : s.Attended busy) (hst : c.state = .open → (s.conns i).state = .open)
    (hw : (s.conns i).Waiting → c.Waiting) : (s.setConn i c).Attended busy := by
  refine h.update rfl (fun _ => id) (fun hc => ?_) (fun _ _ => id)
  rcases h i (hst hc) with h | h | h | h
  exacts [.inl h, .inr (.inl h), .inr (.inr (.inl h)), .inr (.inr (.inr (hw h)))]

/-- Closing a connection releases the task that is busy with it. -/
theorem close (h : s.Attended busy) (hb : ∀ j, j ≠ i → busy j → busy' j)
    (hrdp : (s.conns i).idin.rdp = (s.conns i).idout.rdp) :
    (cspClose s i).Attended busy' := by
  rcases cspClose_cases s i with ⟨hst, he⟩ | ⟨hopen, c, rfl, hr, he⟩ | ⟨-, r, he⟩ <;> rw [he]
  · refine h.update (i := i) (c := s.conns i) (Function.update_eq_self ..).symm (fun _ => id)
      (fun hc => ?_) hb
    rw [hst] at hc
    cases hc
  · refine h.update rfl (fun _ => id) (fun _ => .inr (.inr (.inr ⟨?_, .inr rfl⟩))) hb
    simpa [hrdp] using hr
  · refine h.update (i := i)
      (c := { s.conns i with rdpState := r, state := .closed, rxQueue := .empty }) ?_ (fun _ => id)
      (fun hc => ?_) hb
    · simp [cspConnFlushRxQueue, CspStack.setConn]
    · cases hc

end CspStack.Attended

end CspTerm.Csp
