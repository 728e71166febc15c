import CspTerm.Gui.LineBuffer
import CspTerm.Lib.Run

/-!
# When GUI commands do not depend on TCP segmentation

A buffer that is not full is split exactly into its lines (`processBuffer_eq`). The full-buffer
check comes before the split and forgets which line it cut, so the actions follow the lines of the
stream only as long as no complete line is in a buffer that fills up, and a line that was too long
is not continued past the buffer or ended.
-/

namespace CspTerm.Gui

open CString Lines

variable {σ : Type}

/-! ## Splitting the buffer -/

theorem memchr_eq_none {b : UInt8} {bytes : List UInt8} (h : b ∉ bytes) : memchr b bytes = none := by
  unfold memchr
  rw [List.findIdx?_eq_none_iff]
  intro x hx
  simpa using fun e : x = b => h (e ▸ hx)

theorem memchr_append {b : UInt8} {x : List UInt8} (hx : b ∉ x) (l : List UInt8) :
    memchr b (x ++ b :: l) = some x.length := by
  induction x with
  | nil => simp [memchr, List.findIdx?_cons]
  | cons a x ih =>
    obtain ⟨ha, hx'⟩ := not_or.mp (List.mem_cons.not.mp hx)
    have ha' : (a == b) = false := by simpa using fun e : a = b => ha e.symm
    have := ih hx'
    unfold memchr at this ⊢
    rw [List.cons_append, List.findIdx?_cons, ha', this]
    rfl

theorem processLines_eq (handle : σ → List UInt8 → σ) (s : σ) {bytes : List UInt8}
    (h : bytes.length ≤ guiBackendBufferSize) :
    guiBackendProcessLines handle s bytes =
      ((lines newline bytes).foldl (fun s line => handle s (stripCr line)) s,
        rest newline bytes) := by
  induction bytes using lineInduction newline generalizing s with
  | hrest l hl =>
    rw [guiBackendProcessLines, memchr_eq_none hl, (lines_eq_nil_iff newline).mpr hl,
      rest_eq_self newline hl]
    rfl
  | hline x l hx ih =>
    simp only [List.length_append, List.length_cons] at h
    have htake : (x ++ newline :: l).take x.length = x := List.take_left
    have hdrop : (x ++ newline :: l).drop (x.length + 1) = l := by
      rw [← List.drop_drop, List.drop_left, List.drop_one, List.tail_cons]
    rw [guiBackendProcessLines]
    split
    · rename_i hnone
      rw [memchr_append hx] at hnone
      cases hnone
    · rename_i k hk
      obtain rfl : x.length = k := Option.some.inj ((memchr_append hx l).symm.trans hk)
      rw [if_neg (by omega)]
      dsimp only
      rw [htake, hdrop, ih _ (by omega), lines_line newline hx, rest_line]
      rfl

theorem foldl_record (as : List LineAction) (ls : List (List UInt8)) :
    ls.foldl (fun as line => as ++ [.command (stripCr line)]) as =
      as ++ ls.map fun line => .command (stripCr line) := by
  induction ls generalizing as with
  | nil => simp
  | cons l ls ih => simp [ih]

/-! ## The lines of a stream -/

/-- The lines of a stream that is shorter than the buffer are commands. -/
theorem map_lineAction_of_lt {l : List UInt8} (h : l.length < guiBackendBufferSize) :
    (lines newline l).map lineAction =
      (lines newline l).map fun line => .command (stripCr line) := by
  refine List.map_congr_left ?_
  intro line hline
  have := length_lt_of_mem_lines newline hline
  unfold lineAction
  rw [if_pos (by omega)]

theorem streamActions_of_lt {l : List UInt8} (h : l.length < guiBackendBufferSize) :
    streamActions l = (lines newline l).map fun line => .command (stripCr line) := by
  have := length_rest_le newline l
  unfold streamActions
  rw [if_neg (by omega), List.append_nil, map_lineAction_of_lt h]

theorem streamActions_append (a b : List UInt8) :
    streamActions (a ++ b) =
      (lines newline a).map lineAction ++ streamActions (rest newline a ++ b) := by
  unfold streamActions
  rw [lines_append, rest_append, List.map_append, List.append_assoc]

theorem streamActions_line {x : List UInt8} (hx : newline ∉ x) (l : List UInt8) :
    streamActions (x ++ newline :: l) = lineAction x :: streamActions l := by
  unfold streamActions
  rw [lines_line newline hx, rest_line]
  rfl

theorem streamActions_of_notMem {l : List UInt8} (h : newline ∉ l)
    (hl : guiBackendBufferSize ≤ l.length) : streamActions l = [.tooLong] := by
  unfold streamActions
  rw [(lines_eq_nil_iff newline).mpr h, rest_eq_self newline h, if_pos hl]
  rfl

/-- A full buffer is one line that is too long, unless a newline comes before its last byte. -/
theorem streamActions_full_iff {l : List UInt8} (h : l.length = guiBackendBufferSize) :
    streamActions l = [.tooLong] ↔ newline ∉ l.dropLast := by
  have hne : l ≠ [] := by
    rintro rfl
    cases h
  have hlen : l.dropLast.length = guiBackendBufferSize - 1 := by rw [List.length_dropLast, h]
  have hl : l.dropLast ++ [l.getLast hne] = l := List.dropLast_append_getLast hne
  constructor
  · intro hact hmem
    obtain ⟨x, l', hx, hsplit⟩ := exists_first_line newline hmem
    have hxlen := congrArg List.length hsplit
    simp only [List.length_append, List.length_cons, hlen] at hxlen
    rw [← hl, hsplit, List.append_assoc, List.cons_append] at hact
    unfold streamActions lineAction at hact
    rw [lines_line newline hx, List.map_cons, if_pos (by omega)] at hact
    cases hact
  · intro hnot
    by_cases hlast : l.getLast hne = newline
    · rw [← hl, hlast]
      unfold streamActions lineAction
      rw [lines_line newline hnot, rest_line]
      simp [hlen, guiBackendBufferSize]
    · refine streamActions_of_notMem ?_ (Nat.le_of_eq h.symm)
      rw [← hl]
      simp [hnot, Ne.symm hlast]

/-! ## The receive step -/

/-- What the buffer holds: the unfinished line, or, if that is too long already, some bytes of it. -/
def RecordedClient.Buffered (r : RecordedClient) : Prop :=
  if (rest newline r.stream).length < guiBackendBufferSize then
    r.client.buffer = rest newline r.stream
  else newline ∉ r.client.buffer ∧ r.client.buffer.length < guiBackendBufferSize

theorem step_of_lt {r : RecordedClient} {c : List UInt8}
    (h : r.client.buffer.length + c.length < guiBackendBufferSize) :
    (r.step c).client =
      { buffer := rest newline (r.client.buffer ++ c)
        state := r.client.state ++ streamActions (r.client.buffer ++ c) } := by
  have hlen : (r.client.buffer ++ c).length < guiBackendBufferSize := by
    rw [List.length_append]
    exact h
  unfold RecordedClient.step guiBackendReceive guiBackendProcessBuffer
  dsimp only
  rw [if_neg (by omega), processLines_eq _ _ (by omega), foldl_record, streamActions_of_lt hlen]

theorem step_of_full {r : RecordedClient} {c : List UInt8}
    (h : guiBackendBufferSize ≤ r.client.buffer.length + c.length) :
    (r.step c).client = { buffer := [], state := r.client.state ++ [.tooLong] } := by
  unfold RecordedClient.step guiBackendReceive
  dsimp only
  rw [if_pos (by rw [List.length_append]; exact h)]

theorem step_stream (r : RecordedClient) (c : List UInt8) : (r.step c).stream = r.stream ++ c := rfl

/-- While the unfinished line still fits, the step is faithful if the buffer does not fill up, or
fills up with one line that is too long. -/
theorem faithful_step_iff_of_lt {r : RecordedClient} {c : List UInt8} (hI : r.Faithful)
    (hb : r.client.buffer = rest newline r.stream)
    (ht : (rest newline r.stream).length < guiBackendBufferSize) (hA : r.Receivable c) :
    (r.step c).Faithful ↔ r.client.buffer.length + c.length < guiBackendBufferSize ∨
      newline ∉ (r.client.buffer ++ c).dropLast := by
  have hstate : r.client.state = (lines newline r.stream).map lineAction := by
    rw [hI, streamActions, if_neg (by omega), List.append_nil]
  have hnew : streamActions (r.stream ++ c) =
      r.client.state ++ streamActions (r.client.buffer ++ c) := by
    rw [streamActions_append, hstate, hb]
  unfold RecordedClient.Faithful
  rw [step_stream, hnew]
  by_cases hlt : r.client.buffer.length + c.length < guiBackendBufferSize
  · rw [step_of_lt hlt]
    exact ⟨fun _ => Or.inl hlt, fun _ => rfl⟩
  · have hfull : (r.client.buffer ++ c).length = guiBackendBufferSize := by
      have := hA.2
      rw [← hb] at ht
      rw [List.length_append]
      omega
    rw [step_of_full (by omega)]
    show _ ++ _ = _ ++ _ ↔ _
    rw [List.append_cancel_left_eq, eq_comm, streamActions_full_iff hfull]
    exact ⟨Or.inr, fun h => h.resolve_left hlt⟩

theorem tooLong_notMem_streamActions {l : List UInt8} (h : l.length < guiBackendBufferSize) :
    LineAction.tooLong ∉ streamActions l := by
  rw [streamActions_of_lt h]
  intro hmem
  obtain ⟨line, -, hline⟩ := List.mem_map.mp hmem
  cases hline

/-- A step that ends an over-long line is not faithful: the line is counted once already, and the
step takes its tail for a command, or counts it again. -/
theorem not_faithful_step_of_newline {r : RecordedClient} {c : List UInt8} (hI : r.Faithful)
    (hb : newline ∉ r.client.buffer) (ht : guiBackendBufferSize ≤ (rest newline r.stream).length)
    (hA : r.Receivable c) (hc : newline ∈ c) : ¬ (r.step c).Faithful := by
  have hstate : r.client.state = (lines newline r.stream).map lineAction ++ [.tooLong] := by
    rw [hI, streamActions, if_pos ht]
  obtain ⟨y, l, hy, rfl⟩ := exists_first_line newline hc
  have hty : newline ∉ rest newline r.stream ++ y := by simp [sep_notMem_rest newline r.stream, hy]
  have hby : newline ∉ r.client.buffer ++ y := by simp [hb, hy]
  have hlen := hA.2
  simp only [List.length_append, List.length_cons] at hlen
  have hl : l.length < guiBackendBufferSize := by omega
  have hnew : streamActions (rest newline r.stream ++ (y ++ newline :: l)) =
      .tooLong :: streamActions l := by
    rw [← List.append_assoc, streamActions_line hty, lineAction,
      if_neg (by rw [List.length_append]; omega)]
  intro h
  unfold RecordedClient.Faithful at h
  rw [step_stream, streamActions_append, hnew] at h
  by_cases hlt : r.client.buffer.length + (y ++ newline :: l).length < guiBackendBufferSize
  · rw [step_of_lt hlt, hstate, ← List.append_assoc r.client.buffer, streamActions_line hby] at h
    have hlens := congrArg List.length h
    simp only [List.length_append, List.length_cons, List.length_nil] at hlens
    omega
  · rw [step_of_full (by omega), hstate] at h
    have hlong : [.tooLong] = streamActions l := by
      simpa only [List.append_assoc, List.append_cancel_left_eq, List.cons_append,
        List.nil_append, List.cons.injEq, true_and] using h
    refine tooLong_notMem_streamActions hl ?_
    rw [← hlong]
    exact List.mem_singleton.mpr rfl

/-- While an over-long line is unfinished, the step is faithful only if it adds nothing. -/
theorem faithful_step_iff_of_long {r : RecordedClient} {c : List UInt8} (hI : r.Faithful)
    (hb : newline ∉ r.client.buffer) (ht : guiBackendBufferSize ≤ (rest newline r.stream).length)
    (hA : r.Receivable c) :
    (r.step c).Faithful ↔
      newline ∉ c ∧ r.client.buffer.length + c.length < guiBackendBufferSize := by
  by_cases hc : newline ∈ c
  · have hno := not_faithful_step_of_newline hI hb ht hA hc
    exact ⟨fun h => absurd h hno, fun h => absurd hc h.1⟩
  · have hstate : r.client.state = (lines newline r.stream).map lineAction ++ [.tooLong] := by
      rw [hI, streamActions, if_pos ht]
    have hnew : streamActions (rest newline r.stream ++ c) = [.tooLong] :=
      streamActions_of_notMem (by simp [sep_notMem_rest newline r.stream, hc])
        (by rw [List.length_append]; omega)
    unfold RecordedClient.Faithful
    rw [step_stream, streamActions_append, hnew]
    by_cases hlt : r.client.buffer.length + c.length < guiBackendBufferSize
    · have hnone : streamActions (r.client.buffer ++ c) = [] := by
        rw [streamActions_of_lt (by rw [List.length_append]; exact hlt),
          (lines_eq_nil_iff newline).mpr (by simp [hb, hc])]
        rfl
      rw [step_of_lt hlt, hnone, List.append_nil]
      exact ⟨fun _ => ⟨hc, hlt⟩, fun _ => hstate⟩
    · rw [step_of_full (by omega), hstate]
      refine ⟨fun h => ?_, fun h => absurd h.2 hlt⟩
      have := congrArg List.length h
      simp at this

/-- **The faithful steps are the segmentable ones.** -/
theorem faithful_step_iff {r : RecordedClient} {c : List UInt8} (hI : r.Faithful)
    (hJ : r.Buffered) (hA : r.Receivable c) : (r.step c).Faithful ↔ r.Segmentable c := by
  unfold RecordedClient.Segmentable
  unfold RecordedClient.Buffered at hJ
  by_cases ht : (rest newline r.stream).length < guiBackendBufferSize
  · rw [if_pos ht] at hJ ⊢
    exact faithful_step_iff_of_lt hI hJ ht hA
  · rw [if_neg ht] at hJ ⊢
    exact faithful_step_iff_of_long hI hJ.1 (by omega) hA

/-- The faithful steps keep the relation between the buffer and the unfinished line. -/
theorem buffered_step {r : RecordedClient} {c : List UInt8} (hJ : r.Buffered)
    (hA : r.Receivable c) (hP : r.Segmentable c) : (r.step c).Buffered := by
  unfold RecordedClient.Segmentable at hP
  unfold RecordedClient.Buffered at hJ ⊢
  rw [step_stream, rest_append]
  by_cases ht : (rest newline r.stream).length < guiBackendBufferSize
  · rw [if_pos ht] at hJ hP
    rw [← hJ]
    by_cases hlt : r.client.buffer.length + c.length < guiBackendBufferSize
    · have hle := length_rest_le newline (r.client.buffer ++ c)
      rw [List.length_append] at hle
      rw [if_pos (by omega), step_of_lt hlt]
    · have hnot := hP.resolve_left hlt
      have hne : r.client.buffer ++ c ≠ [] := by
        intro hnil
        have := hA.1
        simp_all
      have hfull : (r.client.buffer ++ c).length = guiBackendBufferSize := by
        have := hA.2
        rw [← hJ] at ht
        rw [List.length_append]
        omega
      have hl := List.dropLast_append_getLast hne
      rw [step_of_full (by omega)]
      by_cases hlast : (r.client.buffer ++ c).getLast hne = newline
      · rw [← hl, hlast, rest_line]
        simp [guiBackendBufferSize]
      · have hmem : newline ∉ r.client.buffer ++ c := by
          rw [← hl]
          simp [hnot, Ne.symm hlast]
        rw [rest_eq_self newline hmem, if_neg (by omega)]
        simp [guiBackendBufferSize]
  · rw [if_neg ht] at hJ hP
    have hbc : newline ∉ r.client.buffer ++ c := by simp [hJ.1, hP.1]
    have htc : newline ∉ rest newline r.stream ++ c := by
      simp [sep_notMem_rest newline r.stream, hP.1]
    rw [rest_eq_self newline htc, step_of_lt hP.2, rest_eq_self newline hbc,
      if_neg (by rw [List.length_append]; omega)]
    exact ⟨hbc, by rw [List.length_append]; exact hP.2⟩

theorem buffered_init : RecordedClient.init.Buffered := by
  unfold RecordedClient.Buffered
  rw [if_pos (by decide)]
  rfl

/-- **When GUI commands do not depend on TCP segmentation.** For every sequence of `recv` results
that the buffer can take: after each of them the actions are those of the lines sent so far, if and
only if each piece is segmentable in the state it arrives in. -/
theorem faithful_run_iff {cs : List (List UInt8)}
    (hA : Run.Guarded RecordedClient.step (fun r c => r.Receivable c) RecordedClient.init cs) :
    (∀ pre, pre <+: cs → (pre.foldl RecordedClient.step RecordedClient.init).Faithful) ↔
      Run.Guarded RecordedClient.step (fun r c => r.Segmentable c) RecordedClient.init cs :=
  Run.forall_prefix_iff (I := RecordedClient.Faithful) (J := RecordedClient.Buffered)
    (fun _ _ hI hJ hA => faithful_step_iff hI hJ hA)
    (fun _ _ hI hJ hA h => buffered_step hJ hA ((faithful_step_iff hI hJ hA).mp h))
    rfl buffered_init hA

/-- A `PING` that arrives in two pieces. -/
theorem faithful_ping :
    let first := RecordedClient.init.step (cstr "PI")
    first.Faithful ∧ (first.step (cstr "NG\r\n")).Faithful := by
  have hbuffer : (RecordedClient.init.step (cstr "PI")).client.buffer = cstr "PI" := by
    rw [step_of_lt (by decide)]
    rfl
  have hA : Run.Guarded RecordedClient.step (fun r c => r.Receivable c) RecordedClient.init
      [cstr "PI", cstr "NG\r\n"] := by
    refine ⟨⟨by decide, by decide⟩, ⟨by decide, ?_⟩, trivial⟩
    rw [hbuffer]
    decide
  have hfirst : RecordedClient.init.Segmentable (cstr "PI") := by
    unfold RecordedClient.Segmentable
    rw [if_pos (by decide)]
    exact .inl (by decide)
  have hsecond : (RecordedClient.init.step (cstr "PI")).Segmentable (cstr "NG\r\n") := by
    unfold RecordedClient.Segmentable
    rw [if_pos (by decide), hbuffer]
    exact .inl (by decide)
  have hrun := (faithful_run_iff hA).mpr ⟨hfirst, hsecond, trivial⟩
  exact ⟨hrun [cstr "PI"] ⟨_, rfl⟩, hrun _ List.prefix_rfl⟩

/-- A `PING` that arrives together with 1019 bytes of the next command is never handled. -/
theorem pipelined_command_lost :
    RecordedClient.init.Receivable (cstr "PING\n" ++ List.replicate 1019 65) ∧
      ¬ (RecordedClient.init.step (cstr "PING\n" ++ List.replicate 1019 65)).Faithful := by
  have hlen : (cstr "PING\n" ++ List.replicate 1019 65).length = guiBackendBufferSize := by
    rw [List.length_append, List.length_replicate]
    rfl
  have hne : List.replicate 1019 (65 : UInt8) ≠ [] := fun h =>
    absurd (congrArg List.length h) (by rw [List.length_replicate]; decide)
  refine ⟨⟨by rw [hlen]; decide, Nat.le_of_eq hlen⟩, ?_⟩
  intro h
  unfold RecordedClient.Faithful at h
  rw [step_of_full (by rw [hlen]; exact Nat.le_add_left _ _)] at h
  refine (streamActions_full_iff hlen).mp h.symm ?_
  rw [List.dropLast_append_of_ne_nil hne]
  exact List.mem_append_left _ (by decide)

end CspTerm.Gui
