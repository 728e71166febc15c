import CspTerm.Csp.Queue

/-!
# What a queue does for its threads

Whatever the threads do, values come out in the order in which they went in, and no thread sleeps
while there is something to do for it, except shortly before a broadcast.
-/

namespace CspTerm.Csp

variable {θ α : Type} [DecidableEq θ] {size : Nat} [NeZero size]

/-! ## The ring -/

/-- The queue holds these values. -/
structure PthreadQueue.Holds (queue : PthreadQueue α size) (l : List α) : Prop where
  ring : Ring.Queues queue.buffer queue.out l
  items : queue.items = l.length
  into : queue.into % size = (queue.out + l.length) % size

theorem holds_create (memory : Vector α size) : (pthreadQueueCreate memory).Holds [] :=
  ⟨Ring.Queues.nil _ _, rfl, rfl⟩

theorem PthreadQueue.Holds.store {queue : PthreadQueue α size} {l : List α} (h : queue.Holds l)
    (hroom : queue.items ≠ size) (value : α) : (queue.store value).Holds (l ++ [value]) := by
  have hlt : l.length < size := by
    have := h.ring.room
    have := h.items
    omega
  have hcell : Fin.ofNat size queue.into = Fin.ofNat size (queue.out + l.length) :=
    Fin.ext h.into
  refine ⟨?_, ?_, ?_⟩
  · show Ring.Queues (queue.buffer.set (Fin.ofNat size queue.into) value) _ _
    simp only [hcell]
    exact h.ring.snoc hlt value
  · rw [List.length_append, ← h.items]
    rfl
  · show (queue.into + 1) % size % size = _
    rw [Nat.mod_mod, Nat.add_mod, h.into, ← Nat.add_mod, List.length_append, List.length_singleton,
      Nat.add_assoc]
    rfl

theorem PthreadQueue.Holds.fetch {queue : PthreadQueue α size} {value : α} {l : List α}
    (h : queue.Holds (value :: l)) : queue.fetch.1 = value ∧ queue.fetch.2.Holds l := by
  have hitems := h.items
  rw [List.length_cons] at hitems
  refine ⟨h.ring.head, h.ring.tail.congr ?_, ?_, ?_⟩
  · show _ = (queue.out + 1) % size % size
    rw [Nat.mod_mod]
  · show queue.items - 1 = _
    omega
  · show queue.into % size = ((queue.out + 1) % size + l.length) % size
    rw [h.into, Nat.mod_add_mod, List.length_cons]
    congr 1
    omega

/-! ## The threads -/

/-- What is in the queue is what was put into it and not taken out of it. -/
def QueueSystem.Ordered (s : QueueSystem θ α size) : Prop :=
  ∃ l, s.queue.Holds l ∧ s.stored.map Prod.snd = s.fetched.map Prod.snd ++ l

/-- Whoever waits does so for a reason, or is about to be woken up. -/
structure QueueSystem.Awake (s : QueueSystem θ α size) : Prop where
  full : ∀ t value, s.calls t = .waitFull value →
    s.queue.items = size ∨ ∃ t', s.calls t' = .notifyFull
  empty : ∀ t, s.calls t = .waitEmpty → s.queue.items = 0 ∨ ∃ t', s.calls t' = .notifyEmpty

variable {s : QueueSystem θ α size}

theorem QueueSystem.Ordered.setCall (h : s.Ordered) (t : θ) (call : QueueCall α) :
    (s.setCall t call).Ordered := h

theorem QueueSystem.Ordered.runThread (h : s.Ordered) (t : θ) : (s.runThread t).Ordered := by
  obtain ⟨l, hl, hstored⟩ := h
  rw [QueueSystem.runThread]
  split
  · next value _ =>
    split
    · exact ⟨l, hl, hstored⟩
    · next hroom =>
      refine ⟨l ++ [value], hl.store hroom value, ?_⟩
      show (s.stored ++ [(t, value)]).map Prod.snd = _
      rw [List.map_append, hstored, List.append_assoc]
      rfl
  · exact ⟨l, hl, hstored⟩
  · split
    · exact ⟨l, hl, hstored⟩
    · next hitems =>
      cases l with
      | nil => exact absurd hl.items hitems
      | cons value l =>
        obtain ⟨hvalue, hrest⟩ := hl.fetch
        refine ⟨l, hrest, ?_⟩
        show s.stored.map Prod.snd = (s.fetched ++ [(t, s.queue.fetch.1)]).map Prod.snd ++ l
        rw [hstored, hvalue, List.map_append, List.append_assoc]
        rfl
  · exact ⟨l, hl, hstored⟩
  · exact ⟨l, hl, hstored⟩

/-- **One step keeps the order.** -/
theorem QueueSystem.Ordered.step (h : s.Ordered) (e : QueueEvent θ α) : (s.step e).Ordered := by
  cases e with
  | enqueue t value => rw [QueueSystem.step]; split <;> exact h
  | dequeue t => rw [QueueSystem.step]; split <;> exact h
  | run t => exact h.runThread t
  | wake t => rw [QueueSystem.step]; split <;> exact h
  | timeout t => rw [QueueSystem.step]; split <;> exact h

omit [NeZero size] in
theorem setCall_of_ne {t t' : θ} (h : t' ≠ t) (call : QueueCall α) :
    (s.setCall t call).calls t' = s.calls t' :=
  if_neg h

omit [NeZero size] in
theorem setCall_self (t : θ) (call : QueueCall α) : (s.setCall t call).calls t = call := if_pos rfl

@[simp] theorem QueueCall.wakeEmpty_eq_waitFull {call : QueueCall α} {value : α} :
    call.wakeEmpty = .waitFull value ↔ call = .waitFull value := by
  cases call <;> simp [QueueCall.wakeEmpty]

@[simp] theorem QueueCall.wakeFull_eq_waitEmpty {call : QueueCall α} :
    call.wakeFull = .waitEmpty ↔ call = .waitEmpty := by
  cases call <;> simp [QueueCall.wakeFull]

@[simp] theorem QueueCall.wakeEmpty_ne (call : QueueCall α) : call.wakeEmpty ≠ .waitEmpty := by
  cases call <;> simp [QueueCall.wakeEmpty]

@[simp] theorem QueueCall.wakeFull_ne (call : QueueCall α) (value : α) :
    call.wakeFull ≠ .waitFull value := by
  cases call <;> simp [QueueCall.wakeFull]

omit [NeZero size] in
/-- A step of thread `t`: the broadcasts of the others stay ahead, and so do the waits. -/
theorem QueueSystem.Awake.update (h : s.Awake) {s' : QueueSystem θ α size} {t : θ}
    (hold : s.calls t ≠ .notifyFull ∧ s.calls t ≠ .notifyEmpty)
    (hcalls : ∀ t', t' ≠ t → s'.calls t' = s.calls t')
    (hfull : s.queue.items = size → s'.queue.items = size ∨ s'.calls t = .notifyFull)
    (hempty : s.queue.items = 0 → s'.queue.items = 0 ∨ s'.calls t = .notifyEmpty)
    (hwaitFull : ∀ value, s'.calls t = .waitFull value → s'.queue.items = size)
    (hwaitEmpty : s'.calls t = .waitEmpty → s'.queue.items = 0) : s'.Awake where
  full t' value hwait := by
    by_cases ht : t' = t
    · exact Or.inl (hwaitFull value (ht ▸ hwait))
    · rw [hcalls t' ht] at hwait
      rcases h.full t' value hwait with hitems | ⟨u, hu⟩
      · exact (hfull hitems).imp_right fun hcall => ⟨t, hcall⟩
      · have hne : u ≠ t := fun heq => hold.1 (heq ▸ hu)
        exact Or.inr ⟨u, (hcalls u hne).trans hu⟩
  empty t' hwait := by
    by_cases ht : t' = t
    · exact Or.inl (hwaitEmpty (ht ▸ hwait))
    · rw [hcalls t' ht] at hwait
      rcases h.empty t' hwait with hitems | ⟨u, hu⟩
      · exact (hempty hitems).imp_right fun hcall => ⟨t, hcall⟩
      · have hne : u ≠ t := fun heq => hold.2 (heq ▸ hu)
        exact Or.inr ⟨u, (hcalls u hne).trans hu⟩

omit [NeZero size] in
theorem QueueSystem.Awake.setCall (h : s.Awake) {t : θ} {call : QueueCall α}
    (hold : s.calls t ≠ .notifyFull ∧ s.calls t ≠ .notifyEmpty)
    (hfull : ∀ value, call = .waitFull value → s.queue.items = size)
    (hempty : call = .waitEmpty → s.queue.items = 0) : (s.setCall t call).Awake := by
  refine h.update hold (fun t' ht => setCall_of_ne ht call) Or.inl Or.inl ?_ ?_
  · intro value hwait
    exact hfull value ((setCall_self t call).symm.trans hwait)
  · intro hwait
    exact hempty ((setCall_self t call).symm.trans hwait)

omit [NeZero size] in
/-- A broadcast by thread `t`, which changes the calls of all threads by `wake`. Whoever goes on
waiting does so because of another broadcast. -/
theorem QueueSystem.Awake.broadcast (h : s.Awake) {t : θ} {wake : QueueCall α → QueueCall α}
    (hnotifyFull : wake .notifyFull = .notifyFull)
    (hnotifyEmpty : wake .notifyEmpty = .notifyEmpty)
    (hfull : ∀ call value, wake call = .waitFull value →
      call = .waitFull value ∧ s.calls t ≠ .notifyFull)
    (hempty : ∀ call, wake call = .waitEmpty → call = .waitEmpty ∧ s.calls t ≠ .notifyEmpty) :
    ({ s with calls := fun t' => wake (s.calls t') }.setCall t .idle).Awake where
  full t' value hwait := by
    have ht : t' ≠ t := by
      rintro rfl
      rw [setCall_self] at hwait
      cases hwait
    rw [setCall_of_ne ht] at hwait
    obtain ⟨hcall, hold⟩ := hfull _ value hwait
    refine (h.full t' value hcall).imp_right ?_
    rintro ⟨u, hu⟩
    have hne : u ≠ t := fun heq => hold (heq ▸ hu)
    refine ⟨u, (setCall_of_ne hne _).trans ?_⟩
    show wake (s.calls u) = _
    rw [hu, hnotifyFull]
  empty t' hwait := by
    have ht : t' ≠ t := by
      rintro rfl
      rw [setCall_self] at hwait
      cases hwait
    rw [setCall_of_ne ht] at hwait
    obtain ⟨hcall, hold⟩ := hempty _ hwait
    refine (h.empty t' hcall).imp_right ?_
    rintro ⟨u, hu⟩
    have hne : u ≠ t := fun heq => hold (heq ▸ hu)
    refine ⟨u, (setCall_of_ne hne _).trans ?_⟩
    show wake (s.calls u) = _
    rw [hu, hnotifyEmpty]

theorem QueueSystem.Awake.runThread (h : s.Awake) (t : θ) : (s.runThread t).Awake := by
  rw [QueueSystem.runThread]
  split
  · next value hcall =>
    split
    · next hitems => exact h.setCall (by simp [hcall]) (fun _ _ => hitems) nofun
    · next hroom =>
      -- whoever waits for room has a broadcast ahead already
      refine h.update (t := t) (by simp [hcall]) (fun t' ht => setCall_of_ne ht _)
        (fun hitems => absurd hitems hroom) (fun _ => Or.inr (setCall_self t _)) ?_ ?_
      · intro value hwait
        exact nomatch (setCall_self t _).symm.trans hwait
      · intro hwait
        exact nomatch (setCall_self t _).symm.trans hwait
  · next hcall =>
    -- the broadcast on `cond_empty`
    exact h.broadcast rfl rfl
      (fun _ _ hwait => ⟨QueueCall.wakeEmpty_eq_waitFull.mp hwait, by simp [hcall]⟩)
      (fun _ hwait => absurd hwait (QueueCall.wakeEmpty_ne _))
  · next hcall =>
    split
    · next hitems => exact h.setCall (by simp [hcall]) nofun (fun _ => hitems)
    · next hsome =>
      refine h.update (t := t) (by simp [hcall]) (fun t' ht => setCall_of_ne ht _)
        (fun _ => Or.inr (setCall_self t _)) (fun hitems => absurd hitems hsome) ?_ ?_
      · intro value hwait
        exact nomatch (setCall_self t _).symm.trans hwait
      · intro hwait
        exact nomatch (setCall_self t _).symm.trans hwait
  · next hcall =>
    -- the broadcast on `cond_full`
    exact h.broadcast rfl rfl (fun _ _ hwait => absurd hwait (QueueCall.wakeFull_ne _ _))
      (fun _ hwait => ⟨QueueCall.wakeFull_eq_waitEmpty.mp hwait, by simp [hcall]⟩)
  · exact h

/-- **One step leaves nobody asleep without a reason.** -/
theorem QueueSystem.Awake.step (h : s.Awake) (e : QueueEvent θ α) : (s.step e).Awake := by
  cases e with
  | enqueue t value =>
    rw [QueueSystem.step]
    split
    · next hcall => exact h.setCall (by simp [hcall]) nofun nofun
    · exact h
  | dequeue t =>
    rw [QueueSystem.step]
    split
    · next hcall => exact h.setCall (by simp [hcall]) nofun nofun
    · exact h
  | run t => exact h.runThread t
  | wake t =>
    rw [QueueSystem.step]
    split
    · next hcall => exact h.setCall (by simp [hcall]) nofun nofun
    · next hcall => exact h.setCall (by simp [hcall]) nofun nofun
    · exact h
  | timeout t =>
    rw [QueueSystem.step]
    split
    · next hcall => exact h.setCall (by simp [hcall]) nofun nofun
    · next hcall => exact h.setCall (by simp [hcall]) nofun nofun
    · exact h

/-! ## Deadlines -/

theorem queueDeadline_nsec (timeout : UInt32) :
    ((timeout - 1000 * (timeout / 1000)) * 1000000).toNat = timeout.toNat % 1000 * 1000000 := by
  have htimeout := timeout.toNat_lt
  have hdiv : (timeout / 1000).toNat = timeout.toNat / 1000 := by rw [UInt32.toNat_div]; rfl
  have hmul : (1000 * (timeout / 1000)).toNat = 1000 * (timeout.toNat / 1000) := by
    rw [UInt32.toNat_mul, hdiv]
    show 1000 * _ % _ = _
    omega
  have hle : 1000 * (timeout / 1000) ≤ timeout := by
    rw [UInt32.le_iff_toNat_le, hmul]
    omega
  rw [UInt32.toNat_mul, UInt32.toNat_sub_of_le _ _ hle, hmul]
  show _ * 1000000 % _ = _
  omega

/-- **Deadlines are right but for one nanosecond**: when the sum of the nanoseconds is one second, the
second gets lost. -/
theorem queueDeadline_nanoseconds (now : PthreadQueue.Timespec) (timeout : UInt32) :
    (queueDeadline now timeout).nanoseconds
        + (if now.nsec + timeout.toNat % 1000 * 1000000 = 1000000000 then 1000000000 else 0)
      = now.nanoseconds + 1000000 * timeout.toNat := by
  have hnow := now.valid
  have hdiv : (timeout / 1000).toNat = timeout.toNat / 1000 := by rw [UInt32.toNat_div]; rfl
  simp only [queueDeadline, PthreadQueue.Timespec.nanoseconds, queueDeadline_nsec, hdiv]
  split <;> split <;> omega

/-! ## Runs -/

/-- **First in, first out.** In every run of any threads, the values that were taken out are the first
ones of those that were put in, in their order, and the queue holds the rest of these. -/
theorem queue_in_order (memory : Vector α size) (events : List (QueueEvent θ α)) :
    ∃ l : List α, (events.foldl QueueSystem.step (.initial θ memory)).queue.Holds l ∧
      ((events.foldl QueueSystem.step (.initial θ memory)).stored.map Prod.snd)
        = (events.foldl QueueSystem.step (.initial θ memory)).fetched.map Prod.snd ++ l ∧
      (events.foldl QueueSystem.step (.initial θ memory)).queue.items = l.length ∧
      l.length ≤ size := by
  have hinitial : (QueueSystem.initial θ memory).Ordered := ⟨[], holds_create memory, rfl⟩
  obtain ⟨l, hl, hstored⟩ := Run.foldl_inv (P := fun _ _ => True) (I := QueueSystem.Ordered)
    (fun _ e h _ => h.step e) hinitial (Run.guarded_of_forall fun _ _ => trivial)
  exact ⟨l, hl, hstored, hl.items, hl.ring.room⟩

/-- A thread waits for a value, and another one puts two values in. -/
theorem queue_in_order_two :
    let s := [.dequeue false, .run false, .enqueue true 5, .run true, .run true, .enqueue true 6,
      .run true, .run false].foldl QueueSystem.step (.initial Bool #v[0, 0])
    s.fetched.map Prod.snd = [5] ∧
      ∃ l : List Nat, s.queue.Holds l ∧ s.stored.map Prod.snd = s.fetched.map Prod.snd ++ l ∧
        s.queue.items = l.length ∧ l.length ≤ 2 :=
  ⟨by decide, queue_in_order #v[0, 0] [.dequeue false, .run false, .enqueue true 5, .run true,
    .run true, .enqueue true 6, .run true, .run false]⟩

/-- **No wake-up is lost.** In every run, a thread that waits for room sees a full queue, and one that
waits for a value an empty one, unless another thread is about to make the broadcast that wakes it. -/
theorem queue_awake (memory : Vector α size) (events : List (QueueEvent θ α)) :
    (events.foldl QueueSystem.step (.initial θ memory)).Awake := by
  have hinitial : (QueueSystem.initial θ memory).Awake := ⟨nofun, nofun⟩
  exact Run.foldl_inv (P := fun _ _ => True) (fun _ e h _ => h.step e) hinitial
    (Run.guarded_of_forall fun _ _ => trivial)

theorem queue_awake_one :
    ([.dequeue (), .run ()].foldl QueueSystem.step (.initial Unit #v[0])).Awake :=
  queue_awake #v[0] [.dequeue (), .run ()]

end CspTerm.Csp
