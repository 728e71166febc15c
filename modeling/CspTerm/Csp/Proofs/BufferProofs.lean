import CspTerm.Csp.Buffer
import Mathlib.Data.List.FinRange
import Mathlib.Data.Fintype.Card

/-!
# The buffer pool stays whole

As long as no buffer is freed while another call is busy with it, each buffer is in one place: among
the free ones, with one call, or with whoever got it. So it is not handed out again before it is freed,
however often it is freed.
-/

namespace CspTerm.Csp

variable {θ : Type} {count : Nat} {s : BufferPool θ count}

/-- Where a buffer is. -/
inductive BufferPool.Place (s : BufferPool θ count) (b : Fin count) : Prop
  | free (hmem : b ∈ s.buffers) (hcalls : ∀ t, (s.calls t).buffer ≠ some b)
      (hcount : s.refcount b = 0)
  | held (hmem : b ∉ s.buffers) (hcalls : ∀ t, (s.calls t).buffer ≠ some b)
      (hcount : s.refcount b = 1)
  | busy (t : θ) (hmem : b ∉ s.buffers) (hcalls : ∀ t', (s.calls t').buffer = some b → t' = t)
      (hcall : s.calls t = .taken b ∧ s.refcount b = 0 ∨ s.calls t = .last b ∧ s.refcount b = 1 ∨
        s.calls t = .returning b ∧ s.refcount b = 0)

/-- The history of a buffer: it was got and freed in turns. -/
def BufferPool.Turns (s : BufferPool θ count) (b : Fin count) : Prop :=
  ∃ k, s.historyOf b
    = (List.replicate k [.got, .freed]).flatten ++ if s.refcount b = 0 then [] else [.got]

structure BufferPool.Whole (s : BufferPool θ count) : Prop where
  nodup : s.buffers.Nodup
  place : ∀ b, s.Place b
  turns : ∀ b, s.Turns b

/-! ## Places -/

theorem BufferPool.Place.refcount_le {b : Fin count} (h : s.Place b) : s.refcount b ≤ 1 := by
  cases h with
  | free _ _ hcount => omega
  | held _ _ hcount => omega
  | busy t _ _ hcall => omega

/-- A call that is about a buffer is the only one, and the buffer is not among the free ones. -/
theorem BufferPool.Place.of_call {b : Fin count} (h : s.Place b) {t : θ}
    (hcall : (s.calls t).buffer = some b) :
    b ∉ s.buffers ∧ (∀ t', (s.calls t').buffer = some b → t' = t) ∧
      (s.calls t = .taken b ∧ s.refcount b = 0 ∨ s.calls t = .last b ∧ s.refcount b = 1 ∨
        s.calls t = .returning b ∧ s.refcount b = 0) := by
  cases h with
  | free _ hcalls _ => exact absurd hcall (hcalls t)
  | held _ hcalls _ => exact absurd hcall (hcalls t)
  | busy u hmem hcalls hu =>
    obtain rfl := hcalls t hcall
    exact ⟨hmem, hcalls, hu⟩

/-- What a step of thread `t` does with one buffer says nothing about the others. -/
theorem BufferPool.Place.other {s' : BufferPool θ count} {b : Fin count} (h : s.Place b) (t : θ)
    (hmem : b ∈ s'.buffers ↔ b ∈ s.buffers) (hcount : s'.refcount b = s.refcount b)
    (hcalls : ∀ t', t' ≠ t → s'.calls t' = s.calls t') (hold : (s.calls t).buffer ≠ some b)
    (hnew : (s'.calls t).buffer ≠ some b) : s'.Place b := by
  have hsame : ∀ t', (s'.calls t').buffer = some b ↔ (s.calls t').buffer = some b := by
    intro t'
    by_cases ht : t' = t
    · rw [ht]
      exact iff_of_false hnew hold
    · rw [hcalls t' ht]
  cases h with
  | free hm hc hn => exact .free (hmem.mpr hm) (fun t' => (hsame t').not.mpr (hc t')) (hcount.trans hn)
  | held hm hc hn =>
    exact .held (hmem.not.mpr hm) (fun t' => (hsame t').not.mpr (hc t')) (hcount.trans hn)
  | busy u hm hc hcall =>
    have hu : u ≠ t := by
      rintro rfl
      rcases hcall with ⟨h, -⟩ | ⟨h, -⟩ | ⟨h, -⟩ <;> exact hold (by rw [h]; rfl)
    refine .busy u (hmem.not.mpr hm) (fun t' ht' => hc t' ((hsame t').mp ht')) ?_
    rw [hcalls u hu, hcount]
    exact hcall

/-! ## Histories -/

theorem historyOf_report_self (b : Fin count) (report : BufferReport) :
    (s.report b report).historyOf b = s.historyOf b ++ [report] := by
  simp [BufferPool.historyOf, BufferPool.report]

theorem historyOf_report_of_ne {b b' : Fin count} (h : b' ≠ b) (report : BufferReport) :
    (s.report b report).historyOf b' = s.historyOf b' := by
  simp [BufferPool.historyOf, BufferPool.report, h.symm]

theorem setRefcount_self (b : Fin count) (n : Nat) : (s.setRefcount b n).refcount b = n := if_pos rfl

theorem setRefcount_of_ne {b b' : Fin count} (h : b' ≠ b) (n : Nat) :
    (s.setRefcount b n).refcount b' = s.refcount b' :=
  if_neg h

variable [DecidableEq θ]

theorem BufferPool.setCall_self (t : θ) (call : BufferCall count) :
    (s.setCall t call).calls t = call :=
  if_pos rfl

theorem BufferPool.setCall_of_ne {t t' : θ} (h : t' ≠ t) (call : BufferCall count) :
    (s.setCall t call).calls t' = s.calls t' :=
  if_neg h

/-! ## Steps -/

theorem BufferPool.Whole.get (h : s.Whole) {t : θ} (hidle : s.calls t = .idle) (bufSize : Nat) :
    (s.get t bufSize).Whole := by
  rw [BufferPool.get]
  split
  · exact h
  · split
    · exact h
    · next b rest hbuffers =>
      have hnodup := h.nodup
      rw [hbuffers, List.nodup_cons] at hnodup
      refine ⟨hnodup.2, fun b' => ?_, h.turns⟩
      by_cases hb : b' = b
      · rw [hb]
        cases h.place b with
        | free _ hcalls hcount =>
          refine .busy t hnodup.1 (fun t' ht' => ?_) (Or.inl ⟨BufferPool.setCall_self t _, hcount⟩)
          by_contra hne
          rw [BufferPool.setCall_of_ne hne] at ht'
          exact hcalls t' ht'
        | held hmem _ _ => exact absurd (hbuffers ▸ List.mem_cons_self) hmem
        | busy _ hmem _ _ => exact absurd (hbuffers ▸ List.mem_cons_self) hmem
      · refine (h.place b').other t ?_ rfl (fun t' ht' => BufferPool.setCall_of_ne ht' _) ?_ ?_
        · show b' ∈ rest ↔ b' ∈ s.buffers
          rw [hbuffers, List.mem_cons, or_iff_right hb]
        · rw [hidle]
          exact nofun
        · rw [BufferPool.setCall_self]
          exact fun heq => hb (Option.some.inj heq).symm

theorem BufferPool.Whole.free (h : s.Whole) {t : θ} {b : Fin count} (hidle : s.calls t = .idle)
    (hapart : ∀ t', (s.calls t').buffer ≠ some b) : (s.free t b).Whole := by
  have hle := (h.place b).refcount_le
  rw [BufferPool.free]
  split
  · exact h
  · next hsome =>
    rw [if_neg (Nat.not_lt.mpr hle)]
    refine ⟨h.nodup, fun b' => ?_, h.turns⟩
    by_cases hb : b' = b
    · rw [hb]
      have hmem : b ∉ s.buffers := by
        cases h.place b with
        | free _ _ hcount => exact absurd hcount hsome
        | held hmem _ _ => exact hmem
        | busy _ hmem _ _ => exact hmem
      refine .busy t hmem (fun t' ht' => ?_)
        (Or.inr (Or.inl ⟨BufferPool.setCall_self t _, (show s.refcount b = 1 by omega)⟩))
      by_contra hne
      rw [BufferPool.setCall_of_ne hne] at ht'
      exact hapart t' ht'
    · refine (h.place b').other t Iff.rfl rfl (fun t' ht' => BufferPool.setCall_of_ne ht' _) ?_ ?_
      · rw [hidle]
        exact nofun
      · rw [BufferPool.setCall_self]
        exact fun heq => hb (Option.some.inj heq).symm

/-- When the only call about a buffer has moved on, no other one is about it. -/
theorem setCall_idle_buffer {t : θ} {b : Fin count}
    (hcalls : ∀ t', (s.calls t').buffer = some b → t' = t) (t' : θ) :
    ((s.setCall t .idle).calls t').buffer ≠ some b := by
  by_cases ht : t' = t
  · rw [ht, BufferPool.setCall_self]
    exact nofun
  · rw [BufferPool.setCall_of_ne ht]
    exact fun heq => ht (hcalls t' heq)

/-- A call that changes the count of its buffer, with a report about it. -/
theorem BufferPool.Whole.recount (h : s.Whole) {t : θ} {b : Fin count} {call : BufferCall count}
    {n : Nat} {report : BufferReport} (hold : (s.calls t).buffer = some b)
    (hnew : ∀ b' ≠ b, call.buffer ≠ some b')
    (hplace : (((s.setRefcount b n).report b report).setCall t call).Place b)
    (hturns : ∃ k, s.historyOf b ++ [report]
      = (List.replicate k [.got, .freed]).flatten ++ if n = 0 then [] else [.got]) :
    (((s.setRefcount b n).report b report).setCall t call).Whole := by
  refine ⟨h.nodup, fun b' => ?_, fun b' => ?_⟩
  · by_cases hb : b' = b
    · exact hb ▸ hplace
    · refine (h.place b').other t Iff.rfl (setRefcount_of_ne hb n)
        (fun t' ht' => BufferPool.setCall_of_ne ht' _) ?_ ?_
      · rw [hold]
        exact fun heq => hb (Option.some.inj heq).symm
      · rw [BufferPool.setCall_self]
        exact hnew b' hb
  · show ∃ k, ((s.setRefcount b n).report b report).historyOf b'
      = _ ++ if (s.setRefcount b n).refcount b' = 0 then _ else _
    by_cases hb : b' = b
    · rw [hb, historyOf_report_self, setRefcount_self]
      exact hturns
    · rw [historyOf_report_of_ne hb, setRefcount_of_ne hb]
      exact h.turns b'

theorem BufferPool.Whole.taken (h : s.Whole) {t : θ} {b : Fin count} (hcall : s.calls t = .taken b) :
    (((s.setRefcount b (s.refcount b + 1)).report b .got).setCall t .idle).Whole := by
  have hbuffer : (s.calls t).buffer = some b := by rw [hcall]; rfl
  obtain ⟨hmem, hcalls, hplace⟩ := (h.place b).of_call hbuffer
  have hcount : s.refcount b = 0 := by simpa [hcall] using hplace
  rw [hcount]
  refine h.recount hbuffer (fun _ _ => nofun)
    (.held hmem (setCall_idle_buffer hcalls) (setRefcount_self b 1)) ?_
  obtain ⟨k, hk⟩ := h.turns b
  rw [hcount, if_pos rfl, List.append_nil] at hk
  exact ⟨k, by rw [hk]; rfl⟩

theorem BufferPool.Whole.last (h : s.Whole) {t : θ} {b : Fin count} (hcall : s.calls t = .last b) :
    (((s.setRefcount b 0).report b .freed).setCall t (.returning b)).Whole := by
  have hbuffer : (s.calls t).buffer = some b := by rw [hcall]; rfl
  obtain ⟨hmem, hcalls, hplace⟩ := (h.place b).of_call hbuffer
  have hcount : s.refcount b = 1 := by simpa [hcall] using hplace
  refine h.recount hbuffer (fun b' hb heq => hb (Option.some.inj heq).symm) ?_ ?_
  · refine .busy t hmem (fun t' ht' => ?_)
      (Or.inr (Or.inr ⟨BufferPool.setCall_self t _, setRefcount_self b 0⟩))
    by_contra hne
    rw [BufferPool.setCall_of_ne hne] at ht'
    exact hne (hcalls t' ht')
  · obtain ⟨k, hk⟩ := h.turns b
    rw [hcount, if_neg Nat.one_ne_zero] at hk
    refine ⟨k + 1, ?_⟩
    rw [hk, List.replicate_succ', List.flatten_append, List.append_assoc, if_pos rfl, List.append_nil]
    rfl

theorem BufferPool.Whole.returning (h : s.Whole) {t : θ} {b : Fin count}
    (hcall : s.calls t = .returning b) : ((s.enqueue b).setCall t .idle).Whole := by
  have hbuffer : (s.calls t).buffer = some b := by rw [hcall]; rfl
  obtain ⟨hmem, hcalls, hplace⟩ := (h.place b).of_call hbuffer
  have hcount : s.refcount b = 0 := by simpa [hcall] using hplace
  have hnodup : (b :: s.buffers).Nodup := List.nodup_cons.mpr ⟨hmem, h.nodup⟩
  have hroom : s.buffers.length < count := by
    have hle := hnodup.length_le_card
    rwa [List.length_cons, Fintype.card_fin] at hle
  rw [BufferPool.enqueue, if_pos hroom]
  refine ⟨?_, fun b' => ?_, h.turns⟩
  · show (s.buffers ++ [b]).Nodup
    exact (List.nodup_append_comm.mp hnodup)
  · by_cases hb : b' = b
    · rw [hb]
      exact .free (List.mem_append_right _ List.mem_cons_self) (setCall_idle_buffer hcalls) hcount
    · refine (h.place b').other t ?_ rfl (fun t' ht' => BufferPool.setCall_of_ne ht' _) ?_ ?_
      · show b' ∈ s.buffers ++ [b] ↔ b' ∈ s.buffers
        rw [List.mem_append, List.mem_singleton, or_iff_left hb]
      · rw [hbuffer]
        exact fun heq => hb (Option.some.inj heq).symm
      · rw [BufferPool.setCall_self]
        exact nofun

/-- **One step keeps the pool whole.** -/
theorem BufferPool.Whole.step (h : s.Whole) (event : BufferEvent θ count) (hapart : s.Apart event) :
    (s.step event).Whole := by
  cases event with
  | get t bufSize =>
    rw [BufferPool.step]
    split
    · next hidle => exact h.get hidle bufSize
    · exact h
  | free t b =>
    rw [BufferPool.step]
    split
    · next hidle => exact h.free hidle hapart
    · exact h
  | run t =>
    rw [BufferPool.step, BufferPool.runThread]
    split
    · exact h
    · next b hcall => exact h.taken hcall
    · next b hcall => exact h.last hcall
    · next b hcall =>
      obtain ⟨-, -, hplace⟩ := (h.place b).of_call (t := t) (by rw [hcall]; rfl)
      simp [hcall] at hplace
    · next b hcall => exact h.returning hcall

/-- **The pool stays whole.** In every run of any threads in which no buffer is freed while another call
is busy with it, each buffer is free, or with one call, or with whoever got it; and it was got and
freed in turns, whoever freed it and however often. -/
theorem buffer_whole {events : List (BufferEvent θ count)}
    (h : Run.Guarded BufferPool.step BufferPool.Apart (.initial θ count) events) :
    (events.foldl BufferPool.step (.initial θ count)).Whole := by
  have hinitial : (BufferPool.initial θ count).Whole :=
    ⟨List.nodup_finRange count, fun b => .free (List.mem_finRange b) nofun rfl, fun _ => ⟨0, rfl⟩⟩
  exact Run.foldl_inv (fun _ event hs hapart => hs.step event hapart) hinitial h

/-- A buffer that was got is freed twice, one time after the other. -/
theorem buffer_whole_twice :
    ([.get () 0, .run (), .free () 0, .run (), .run (), .free () 0].foldl BufferPool.step
      (.initial Unit 1)).Whole :=
  buffer_whole
    ⟨trivial, trivial, fun _ => nofun, trivial, trivial, fun _ => nofun, trivial⟩

/-- Two threads that free a buffer at the same time put it into the queue twice. -/
example : ([.get 0 0, .run 0, .get 1 0, .run 1, .free 0 0, .free 1 0, .run 0, .run 1, .run 0,
    .run 1].foldl BufferPool.step (.initial (Fin 2) 2)).buffers = [0, 0] := by
  decide

end CspTerm.Csp
