import CspTerm.Gui.ClientTable
import CspTerm.Gui.Proofs.LineBufferProofs

/-!
# The client table is well formed in every reachable state

Accepting, serving and closing a client each keep the invariant. What carries it through a receive
step is that the residual of `gui_backend_process_buffer` is no longer than what was in the buffer.
-/

namespace CspTerm.Gui

open Lines

variable {σ : Type}

theorem setClient_clients_self (s : ClientTable σ) (i : Fin guiBackendMaxClients)
    (client : GuiBackendClient) : (s.setClient i client).clients i = client := by
  unfold ClientTable.setClient
  exact Function.update_self ..

theorem setClient_clients_of_ne (s : ClientTable σ) {i j : Fin guiBackendMaxClients}
    (h : j ≠ i) (client : GuiBackendClient) :
    (s.setClient i client).clients j = s.clients j := by
  unfold ClientTable.setClient
  exact Function.update_of_ne h ..

/-- The invariant only sees the slots and the open descriptors. -/
theorem ClientTable.WellFormed.congr {s s' : ClientTable σ} (h : s.WellFormed)
    (hc : s'.clients = s.clients) (ho : s'.opened = s.opened) : s'.WellFormed where
  slots := by rw [hc]; exact h.slots
  distinct := by rw [hc]; exact h.distinct
  isOpen := by rw [hc, ho]; exact h.isOpen
  hasSlot := by rw [hc, ho]; exact h.hasSlot

theorem free_wellFormed : GuiBackendClient.free.WellFormed where
  free := fun _ => rfl
  used := fun h => absurd h (by decide)

theorem free_fd_neg : ¬ 0 ≤ GuiBackendClient.free.fd := by decide

theorem init_wellFormed (s : σ) : (ClientTable.init s).WellFormed where
  slots := fun _ => free_wellFormed
  distinct := fun _ _ h => absurd h free_fd_neg
  isOpen := fun _ h => absurd h free_fd_neg
  hasSlot := fun _ h => absurd h (Finset.notMem_empty _)

/-- Another client in one slot, and other open descriptors: the table is well formed if the client is,
shares its descriptor with no other slot, and the open descriptors are again those of the slots. -/
theorem ClientTable.WellFormed.setSlot {s : ClientTable σ} (h : s.WellFormed)
    {i : Fin guiBackendMaxClients} {client : GuiBackendClient} {opened : Finset Int}
    (hclient : client.WellFormed) (hother : ∀ j ≠ i, 0 ≤ client.fd → (s.clients j).fd ≠ client.fd)
    (hopen : 0 ≤ client.fd → client.fd ∈ opened)
    (hkeep : ∀ j ≠ i, 0 ≤ (s.clients j).fd → (s.clients j).fd ∈ opened)
    (hslot : ∀ fd ∈ opened, 0 ≤ fd ∧ (client.fd = fd ∨ ∃ j ≠ i, (s.clients j).fd = fd)) :
    ({ s.setClient i client with opened := opened } : ClientTable σ).WellFormed := by
  constructor
  · intro j
    dsimp only
    by_cases hj : j = i
    · subst hj
      rwa [setClient_clients_self]
    · rw [setClient_clients_of_ne s hj]
      exact h.slots j
  · intro j k
    dsimp only
    by_cases hj : j = i
    · subst hj
      rw [setClient_clients_self]
      intro hpos he
      by_contra hk
      rw [setClient_clients_of_ne s (Ne.symm hk)] at he
      exact hother k (Ne.symm hk) hpos he.symm
    · rw [setClient_clients_of_ne s hj]
      by_cases hk : k = i
      · subst hk
        rw [setClient_clients_self]
        intro hpos he
        exact absurd he (hother j hj (he ▸ hpos))
      · rw [setClient_clients_of_ne s hk]
        exact h.distinct j k
  · intro j
    dsimp only
    by_cases hj : j = i
    · subst hj
      rwa [setClient_clients_self]
    · rw [setClient_clients_of_ne s hj]
      exact hkeep j hj
  · intro fd hmem
    obtain ⟨hpos, rfl | ⟨j, hj, rfl⟩⟩ := hslot fd hmem
    · exact ⟨hpos, i, by rw [setClient_clients_self]⟩
    · exact ⟨hpos, j, by rw [setClient_clients_of_ne s hj]⟩

/-! ## Accepting and closing -/

theorem fd_neg_of_freeSlot {s : ClientTable σ} {slot : Fin guiBackendMaxClients}
    (h : s.freeSlot = some slot) : (s.clients slot).fd < 0 := by
  have := List.find?_some h
  simpa using this

/-- A new descriptor in a free slot. -/
theorem insert_wellFormed {s : ClientTable σ} (h : s.WellFormed) {slot : Fin guiBackendMaxClients}
    {clientFd : Int} (hfd : 0 ≤ clientFd) (hfree : (s.clients slot).fd < 0)
    (hnew : clientFd ∉ s.opened) :
    ({ s.setClient slot { fd := clientFd, buffer := [] } with
      opened := insert clientFd s.opened } : ClientTable σ).WellFormed := by
  refine h.setSlot ⟨fun _ => rfl, fun _ => Nat.zero_lt_succ _⟩ ?_ ?_ ?_ ?_
  · rintro i - - rfl
    exact hnew (h.isOpen i hfd)
  · intro _
    exact Finset.mem_insert_self _ _
  · intro i _ hpos
    exact Finset.mem_insert_of_mem (h.isOpen i hpos)
  · intro fd hmem
    rcases Finset.mem_insert.mp hmem with rfl | hold
    · exact ⟨hfd, Or.inl rfl⟩
    · obtain ⟨hpos, i, rfl⟩ := h.hasSlot fd hold
      refine ⟨hpos, Or.inr ⟨i, ?_, rfl⟩⟩
      rintro rfl
      omega

theorem accept_wellFormed (fx : GuiEffects σ) {s : ClientTable σ} (h : s.WellFormed)
    {clientFd : Int} (hnew : clientFd ∉ s.opened) : (guiBackendAccept fx clientFd s).WellFormed := by
  unfold guiBackendAccept
  split
  · exact h
  · rename_i hfd
    split
    · rename_i slot hslot
      exact (insert_wellFormed h (by omega) (fd_neg_of_freeSlot hslot) hnew).congr rfl rfl
    · exact h

theorem close_wellFormed {s : ClientTable σ} (h : s.WellFormed) (i : Fin guiBackendMaxClients) :
    (guiBackendCloseClient i s).WellFormed := by
  unfold guiBackendCloseClient
  split
  · refine h.setSlot free_wellFormed ?_ ?_ ?_ ?_
    · intro _ _ hfree
      exact absurd hfree free_fd_neg
    · intro hfree
      exact absurd hfree free_fd_neg
    · intro j hj hpos
      refine Finset.mem_erase.mpr ⟨?_, h.isOpen j hpos⟩
      intro he
      exact hj (h.distinct j i hpos he)
    · intro fd hmem
      obtain ⟨hne, hold⟩ := Finset.mem_erase.mp hmem
      obtain ⟨hfd, j, rfl⟩ := h.hasSlot fd hold
      refine ⟨hfd, Or.inr ⟨j, ?_, rfl⟩⟩
      rintro rfl
      exact hne rfl
  · exact h

theorem close_recvs (s : ClientTable σ) (i : Fin guiBackendMaxClients) :
    (guiBackendCloseClient i s).recvs = s.recvs := by
  unfold guiBackendCloseClient
  split <;> rfl

theorem accept_recvs (fx : GuiEffects σ) (clientFd : Int) (s : ClientTable σ) :
    (guiBackendAccept fx clientFd s).recvs = s.recvs := by
  unfold guiBackendAccept
  split
  · rfl
  · split <;> rfl

/-! ## Serving a client -/

/-- **What a receive step leaves in the buffer.** -/
theorem size_receive_lt (handle : σ → List UInt8 → σ) (tooLong : σ → σ) (client : GuiClient σ)
    (received : List UInt8) :
    (guiBackendReceive handle tooLong client received).buffer.length < guiBackendBufferSize := by
  unfold guiBackendReceive guiBackendProcessBuffer
  dsimp only
  split
  · simp [guiBackendBufferSize]
  · rename_i hlt
    have hlen : (client.buffer ++ received).length < guiBackendBufferSize := by omega
    dsimp only
    rw [processLines_eq handle client.state (by omega)]
    have := length_rest_le newline (client.buffer ++ received)
    dsimp only
    omega

theorem recvRoom_eq {client : GuiBackendClient} (h : client.size < guiBackendBufferSize) :
    recvRoom client = guiBackendBufferSize - client.size := by
  unfold recvRoom guiBackendBufferSize at *
  omega

/-- Another buffer in a used slot, with its descriptor kept. -/
theorem setBuffer_wellFormed {s : ClientTable σ} (h : s.WellFormed) {i : Fin guiBackendMaxClients}
    (hpos : 0 ≤ (s.clients i).fd) {buffer : List UInt8}
    (hlen : buffer.length < guiBackendBufferSize) :
    (s.setClient i { s.clients i with buffer := buffer }).WellFormed := by
  refine h.setSlot ⟨fun hneg => absurd hpos (not_le.mpr hneg), fun _ => hlen⟩ ?_ (h.isOpen i) ?_ ?_
  · intro j hj hfd he
    exact hj (h.distinct i j hfd he.symm).symm
  · intro j _
    exact h.isOpen j
  · intro fd hmem
    obtain ⟨hnonneg, j, hj⟩ := h.hasSlot fd hmem
    refine ⟨hnonneg, ?_⟩
    by_cases hji : j = i
    · exact Or.inl (hji ▸ hj)
    · exact Or.inr ⟨j, hji, hj⟩

/-- The table is well formed, and every `recv` so far was safe. -/
def ClientTable.Sound (s : ClientTable σ) : Prop := s.WellFormed ∧ ∀ call ∈ s.recvs, call.Safe

theorem serve_sound (fx : GuiEffects σ) (readfds : List Int)
    (arrived : Fin guiBackendMaxClients → Option (List UInt8)) {s : ClientTable σ} (h : s.Sound)
    (i : Fin guiBackendMaxClients) : (guiBackendServeClient fx readfds arrived s i).Sound := by
  obtain ⟨hwf, hsafe⟩ := h
  unfold guiBackendServeClient
  dsimp only
  split
  · rename_i hused
    have hsize := (hwf.slots i).used hused.1
    have hroom := recvRoom_eq hsize
    have hcall : ∀ call ∈ s.recvs ++ [⟨(s.clients i).size, recvRoom (s.clients i),
        (((arrived i).getD []).take (recvRoom (s.clients i))).length⟩], RecvCall.Safe call := by
      intro call hmem
      rcases List.mem_append.mp hmem with hold | hnew
      · exact hsafe call hold
      · obtain rfl := List.mem_singleton.mp hnew
        refine ⟨?_, ?_, List.length_take_le _ _⟩
        · dsimp only
          omega
        · dsimp only
          omega
    split
    · refine ⟨close_wellFormed ?_ i, ?_⟩
      · exact hwf.congr rfl rfl
      · rw [close_recvs]
        exact hcall
    · exact ⟨(setBuffer_wellFormed hwf hused.1 (size_receive_lt _ _ _ _)).congr rfl rfl, hcall⟩
  · exact ⟨hwf, hsafe⟩

/-! ## Turns and runs -/

theorem serveAll_sound (fx : GuiEffects σ) (readfds : List Int)
    (arrived : Fin guiBackendMaxClients → Option (List UInt8))
    (slots : List (Fin guiBackendMaxClients)) {s : ClientTable σ} (h : s.Sound) :
    (slots.foldl (guiBackendServeClient fx readfds arrived) s).Sound := by
  induction slots generalizing s with
  | nil => exact h
  | cons i slots ih => exact ih (serve_sound fx readfds arrived h i)

theorem closeAll_sound (slots : List (Fin guiBackendMaxClients)) {s : ClientTable σ}
    (h : s.Sound) : (slots.foldl (fun s i => guiBackendCloseClient i s) s).Sound := by
  induction slots generalizing s with
  | nil => exact h
  | cons i slots ih =>
    refine ih ⟨close_wellFormed h.1 i, ?_⟩
    rw [close_recvs]
    exact h.2

theorem turn_sound (fx : GuiEffects σ) {s : ClientTable σ} {turn : LoopTurn} (h : s.Sound)
    (hfresh : s.Fresh turn) : (guiBackendTurn fx s turn).Sound := by
  unfold guiBackendTurn
  split
  · dsimp only
    generalize hs' : (if turn.now - s.lastBroadcast ≥ 1 then
      { s with state := fx.emitStatus s.watched s.state, lastBroadcast := turn.now } else s) = s'
    obtain ⟨hc, ho, hr⟩ : s'.clients = s.clients ∧ s'.opened = s.opened ∧ s'.recvs = s.recvs := by
      rw [← hs']
      split <;> exact ⟨rfl, rfl, rfl⟩
    have h' : s'.Sound := ⟨h.1.congr hc ho, by rw [hr]; exact h.2⟩
    split
    · exact h'
    · exact h'
    · exact closeAll_sound _ ⟨h'.1.congr rfl rfl, h'.2⟩
    · rename_i server readable hselect
      refine serveAll_sound fx _ _ _ ?_
      split
      · rename_i hserver
        subst hserver
        refine ⟨accept_wellFormed fx h'.1 (by rw [ho]; exact hfresh readable hselect), ?_⟩
        rw [accept_recvs]
        exact h'.2
      · exact h'
  · exact h

/-- **The GUI client table is well formed in every reachable state**, and `recv` is always asked for
at least one byte and never writes past the client's buffer. -/
theorem clientTable_wellFormed (fx : GuiEffects σ) (start : σ) (turns : List LoopTurn)
    (hfresh : Run.Guarded (guiBackendTurn fx) ClientTable.Fresh (ClientTable.init start) turns) :
    (turns.foldl (guiBackendTurn fx) (ClientTable.init start)).WellFormed ∧
      ∀ call ∈ (turns.foldl (guiBackendTurn fx) (ClientTable.init start)).recvs, call.Safe :=
  Run.foldl_inv (I := ClientTable.Sound) (fun _ _ h hf => turn_sound fx h hf)
    ⟨init_wellFormed start, fun _ h => absurd h List.not_mem_nil⟩ hfresh

/-- A client connects on descriptor 5 and sends a command. -/
theorem clientTable_wellFormed_ping :
    ([⟨.ready true [], 0, 5, fun _ => none⟩,
        ⟨.ready false [5], 0, -1, fun _ => some [80, 73, 78, 71, 10]⟩].foldl
      (guiBackendTurn ⟨fun _ s _ => s, fun _ s => s, fun _ s => s, fun _ s => s⟩)
      (ClientTable.init ())).WellFormed := by
  refine (clientTable_wellFormed _ () [_, _] ?_).1
  refine ⟨fun _ _ => Finset.notMem_empty 5, ?_, trivial⟩
  intro _ h
  cases h

end CspTerm.Gui
