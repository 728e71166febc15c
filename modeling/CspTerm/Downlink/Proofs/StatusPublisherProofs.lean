import CspTerm.Downlink.StatusPublisher

/-!
# When the status FIFO carries whole lines

A call adds a whole record, nothing, or a message without its newline. In the last case what a reader
has seen does not end with a newline.
-/

namespace CspTerm.Downlink

open CString

/-! ## Writing -/

/-- A buffer that is taken as a whole or not at all. -/
theorem writeAll_eq {buf : List UInt8} (hne : buf ≠ []) {outcomes : List WriteOutcome}
    (h : ∀ n, .wrote n ∈ outcomes → n = buf.length) :
    (Takes outcomes ∧ writeAll buf outcomes = (buf, some 0)) ∨
      (¬ Takes outcomes ∧ (writeAll buf outcomes).1 = [] ∧ (writeAll buf outcomes).2 ≠ some 0) := by
  obtain ⟨b, rest, rfl⟩ := List.exists_cons_of_ne_nil hne
  induction outcomes with
  | nil =>
    refine Or.inr ⟨?_, rfl, by simp [writeAll]⟩
    rintro ⟨n, hn⟩
    cases hn
  | cons o outcomes ih =>
    cases o with
    | wrote n =>
      obtain rfl := h n List.mem_cons_self
      refine Or.inl ⟨⟨_, rfl⟩, ?_⟩
      rw [writeAll, if_neg (by simp), List.drop_length, List.take_length]
      simp [writeAll]
    | eintr =>
      have hskip : Takes (.eintr :: outcomes) ↔ Takes outcomes := Iff.rfl
      rw [hskip, writeAll]
      exact ih fun n hn => h n (List.mem_cons_of_mem _ hn)
    | error =>
      refine Or.inr ⟨?_, rfl, by simp [writeAll]⟩
      rintro ⟨n, hn⟩
      cases hn

/-- What a call adds to the stream. -/
theorem statusPublisherSend_cases {c : PublishCall} (h : c.Admissible) :
    (c.NewlineFollows ∧ (statusPublisherSend c = [] ∨ statusPublisherSend c = record c.json)) ∨
      (¬ c.NewlineFollows ∧ c.json ≠ [] ∧ statusPublisherSend c = c.json) := by
  have hnewline : (Takes c.newline ∧ writeAll (cstr "\n") c.newline = (cstr "\n", some 0)) ∨
      (¬ Takes c.newline ∧ (writeAll (cstr "\n") c.newline).1 = [] ∧
        (writeAll (cstr "\n") c.newline).2 ≠ some 0) := writeAll_eq (by decide) h.newline
  unfold PublishCall.NewlineFollows statusPublisherSend
  cases hopen : openFifo c.opens 0 5 with
  | false =>
    refine Or.inl ⟨fun h => ?_, Or.inl rfl⟩
    cases h
  | true =>
    simp only [Bool.not_true, Bool.false_eq_true, if_false, forall_const]
    by_cases hempty : c.json = []
    · refine Or.inl ⟨fun hne => absurd hempty hne, ?_⟩
      simp only [hempty, writeAll, if_true, List.nil_append]
      rcases hnewline with ⟨-, heq⟩ | ⟨-, hnone, -⟩
      · exact Or.inr (by rw [heq]; rfl)
      · exact Or.inl hnone
    · rcases writeAll_eq hempty h.message with ⟨htakes, hall⟩ | ⟨hnot, hnone, hret⟩
      · simp only [hall, if_true]
        rcases hnewline with ⟨hfollows, heq⟩ | ⟨hmissing, hmissed, -⟩
        · refine Or.inl ⟨fun _ _ => hfollows, Or.inr ?_⟩
          rw [heq]
          rfl
        · refine Or.inr ⟨fun h => hmissing (h hempty htakes), hempty, ?_⟩
          rw [hmissed, List.append_nil]
      · refine Or.inl ⟨fun _ ht => absurd ht hnot, Or.inl ?_⟩
        rw [if_neg hret, hnone]

/-! ## The stream -/

/-- Whole records end with their newline. -/
theorem rest_records (kept : List CStr) : Lines.rest 10 (kept.map record).flatten = [] := by
  induction kept with
  | nil => rfl
  | cons m kept ih =>
    rw [List.map_cons, List.flatten_cons, record, List.append_assoc, List.singleton_append,
      Lines.rest_line, ih]

/-- One call keeps the stream one of whole records exactly if a newline follows its message. -/
theorem wholeRecords_step {s : FifoStream} (hs : WholeRecords s) {c : PublishCall}
    (hc : c.Admissible) : WholeRecords (publishStep s c) ↔ c.NewlineFollows := by
  obtain ⟨kept, hkept, hseen⟩ := hs
  rcases statusPublisherSend_cases hc with ⟨hfollows, hadded⟩ | ⟨hmissing, hne, hadded⟩
  · refine ⟨fun _ => hfollows, fun _ => ?_⟩
    rcases hadded with hadded | hadded
    · refine ⟨kept, hkept.trans (List.sublist_append_left _ _), ?_⟩
      show s.seen ++ statusPublisherSend c = _
      rw [hadded, List.append_nil, hseen]
    · refine ⟨kept ++ [c.json], hkept.append (List.Sublist.refl _), ?_⟩
      show s.seen ++ statusPublisherSend c = _
      rw [hadded, hseen, List.map_append, List.flatten_append]
      simp
  · refine ⟨fun h => ?_, fun h => absurd h hmissing⟩
    obtain ⟨kept', -, hseen'⟩ := h
    have hrest : Lines.rest 10 (s.seen ++ statusPublisherSend c) = [] := by
      show Lines.rest 10 (publishStep s c).seen = []
      rw [hseen', rest_records]
    rw [hadded, Lines.rest_append, hseen, rest_records, List.nil_append,
      Lines.rest_eq_self 10 hc.noNewline] at hrest
    exact absurd hrest hne

/-- **The FIFO carries whole lines in every state of a run exactly if in every call a newline follows
a message that is taken.** -/
theorem wholeRecords_run_iff (calls : List PublishCall) (h : ∀ c ∈ calls, c.Admissible) :
    (∀ pre, pre <+: calls → WholeRecords (pre.foldl publishStep .init)) ↔
      ∀ c ∈ calls, c.NewlineFollows := by
  have hinit : WholeRecords .init := ⟨[], List.Sublist.refl _, rfl⟩
  have hadmissible : Run.Guarded publishStep (fun _ c => c.Admissible) .init calls :=
    Run.guarded_const_iff.mpr h
  have hfollows : Run.Guarded publishStep (fun _ c => c.NewlineFollows) .init calls ↔
      ∀ c ∈ calls, c.NewlineFollows := Run.guarded_const_iff
  rw [← hfollows]
  exact Run.forall_prefix_iff (A := fun _ c => c.Admissible) (I := WholeRecords)
    (J := fun _ => True) (fun _ _ hs _ hc => wholeRecords_step hs hc) (fun _ _ _ _ _ _ => trivial)
    hinit trivial hadmissible

/-- A message whose newline is interrupted once is a whole line. -/
theorem wholeRecords_run_interrupted :
    let c : PublishCall := { json := cstr "\x7b\x7d", opens := fun _ => .opened,
                             message := [.wrote 2], newline := [.eintr, .wrote 1] }
    ∀ pre, pre <+: [c] → WholeRecords (pre.foldl publishStep .init) := by
  intro c
  have hadmissible : ∀ c' ∈ [c], c'.Admissible := by
    intro c' hc'
    obtain rfl := List.mem_singleton.mp hc'
    exact ⟨by decide, by decide, by simp [c, cstr], by simp [c]⟩
  refine (wholeRecords_run_iff [c] hadmissible).mpr ?_
  intro c' hc'
  obtain rfl := List.mem_singleton.mp hc'
  exact fun _ _ _ => ⟨1, rfl⟩

/-- The FIFO has room for a message only: the next message follows it without a newline. -/
theorem messages_glued :
    let full : PublishCall := { json := cstr "\x7b\x7d", opens := fun _ => .opened,
                                message := [.wrote 2], newline := [.error] }
    let next : PublishCall := { full with newline := [.wrote 1] }
    ([full, next].foldl publishStep .init).seen = cstr "\x7b\x7d\x7b\x7d\n" ∧
      ¬ ∀ calls : List PublishCall, (∀ c ∈ calls, c.Admissible) →
        ∀ pre, pre <+: calls → WholeRecords (pre.foldl publishStep .init) := by
  intro full next
  refine ⟨by decide, ?_⟩
  intro h
  have hadmissible : full.Admissible :=
    ⟨by decide, by decide, by simp [full, cstr], by simp [full]⟩
  have hwhole : WholeRecords (publishStep .init full) :=
    h [full] (fun c hc => by rw [List.mem_singleton.mp hc]; exact hadmissible) [full] ⟨[], rfl⟩
  have hinit : WholeRecords .init := ⟨[], List.Sublist.refl _, rfl⟩
  obtain ⟨n, hn⟩ := (wholeRecords_step hinit hadmissible).mp hwhole rfl (by decide) ⟨2, rfl⟩
  cases hn

end CspTerm.Downlink
