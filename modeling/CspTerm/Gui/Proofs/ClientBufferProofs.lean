import CspTerm.Gui.ClientBuffer
import CspTerm.Gui.Proofs.LineBufferProofs

/-!
# The client buffer as a line splitter

From an offset `processed`, the loop sees the bytes between it and `size`; it hands over the lines
among them and stops at the offset of their rest (`processLoop_spec`). The `memmove` makes that rest
the new contents, so a buffer that is filled and split in two pieces has seen the lines of both.
-/

namespace CspTerm.Gui

open CString Lines

variable {σ : Type}

/-! ## The array -/

theorem GuiClientArray.length_used (client : GuiClientArray) :
    client.used.length = client.size := by
  have hbuffer := client.buffer.property
  have hsize := client.size_le
  unfold GuiClientArray.used
  rw [List.length_take]
  omega

/-- What is written is read back, behind what was in front of it. -/
theorem GuiBuffer.take_write (buffer : GuiBuffer) {off : Nat} {src : List UInt8}
    (hfit : off + src.length ≤ guiBackendBufferSize) :
    (buffer.write off src).val.take (off + src.length) = buffer.val.take off ++ src := by
  have hlen : (buffer.val.take off ++ src).length = off + src.length := by
    have hbuffer := buffer.property
    rw [List.length_append, List.length_take]
    omega
  show ((buffer.val.take off ++ src ++ _).take guiBackendBufferSize).take _ = _
  rw [List.take_take, Nat.min_eq_left hfit, ← hlen, List.take_left]

theorem GuiClientArray.used_recv {client : GuiClientArray} {received : List UInt8}
    (hfit : client.size + received.length ≤ guiBackendBufferSize) :
    (client.recv received).used = client.used ++ received := by
  have hall : received.take (guiBackendBufferSize - client.size) = received :=
    List.take_of_length_le (by omega)
  unfold GuiClientArray.recv GuiClientArray.used
  dsimp only
  rw [hall, GuiBuffer.take_write _ hfit]

theorem GuiClientArray.drop_used (client : GuiClientArray) (processed : Nat) :
    client.used.drop processed =
      (client.buffer.val.drop processed).take (client.size - processed) := List.drop_take

theorem GuiClientArray.used_discard (client : GuiClientArray) (processed : Nat) :
    (client.discard processed).used = client.used.drop processed := by
  have hlen : (client.used.drop processed).length = client.size - processed := by
    rw [List.length_drop, client.length_used]
  have hfit : 0 + (client.used.drop processed).length ≤ guiBackendBufferSize := by
    have := client.size_le
    omega
  have hwrite := client.buffer.take_write hfit
  unfold GuiClientArray.discard
  rw [← client.drop_used]
  show (client.buffer.write 0 (client.used.drop processed)).val.take (client.size - processed) = _
  rwa [hlen, Nat.zero_add, List.take_zero, List.nil_append] at hwrite

/-! ## A line -/

/-- The NUL that `process_buffer` writes over a trailing CR, or behind the line, ends what the handler
is to see of the line. -/
theorem lineArray_text (line : List UInt8) :
    (lineArray line).takeWhile (· ≠ 0) = commandText line := by
  have hend : ∀ bytes rest : List UInt8,
      (bytes ++ 0 :: rest).takeWhile (· ≠ 0) = bytes.takeWhile (· ≠ 0) := by
    intro bytes rest
    induction bytes with
    | nil => rfl
    | cons b bytes ih =>
      rw [List.cons_append, List.takeWhile_cons, List.takeWhile_cons, ih]
  unfold lineArray commandText stripCr
  rcases List.eq_nil_or_concat line with rfl | ⟨front, b, rfl⟩
  · rfl
  · have hlast : (front ++ [b] ++ [0]).getD ((front ++ [b]).length - 1) 0 = b := by
      simp
    have hset : (front ++ [b] ++ [0]).set ((front ++ [b]).length - 1) 0 = front ++ 0 :: [0] := by
      simp
    have hpos : 0 < (front ++ [b]).length := by simp
    rw [List.concat_eq_append, List.getLast?_concat]
    dsimp only
    rw [hlast, hset, List.dropLast_concat]
    by_cases hb : b = carriageReturn
    · rw [if_pos ⟨hpos, hb⟩, if_pos (congrArg some hb), hend]
    · rw [if_neg fun h => hb h.2, if_neg fun h => hb (Option.some.inj h), hend]

/-! ## The loop -/

/-- One pass of the loop: the first line behind the offset is handed over, and the offset moves
behind its newline. -/
theorem GuiClientArray.processLoop_line (handle : σ → CStr → σ) {client : GuiClientArray}
    {processed : Nat} {x l : List UInt8} (hx : newline ∉ x)
    (hsplit : client.used.drop processed = x ++ newline :: l) (fuel : Nat) (s : σ) :
    client.processLoop handle (fuel + 1) processed s =
      client.processLoop handle fuel (processed + x.length + 1) (handle s (commandText x)) := by
  have hlen := congrArg List.length hsplit
  rw [List.length_drop, client.length_used, List.length_append, List.length_cons] at hlen
  have hline : (client.buffer.val.drop processed).take x.length = x := by
    have htake : (client.used.drop processed).take x.length = x := by
      rw [hsplit, List.take_left]
    rwa [client.drop_used, List.take_take, Nat.min_eq_left (by omega)] at htake
  have hshort : ¬ x.length ≥ guiBackendBufferSize := by
    have := client.size_le
    omega
  rw [GuiClientArray.processLoop, ← client.drop_used, if_pos (by omega), hsplit, memchr_append hx]
  dsimp only
  rw [Nat.add_sub_cancel_left, if_neg hshort, hline, lineArray_text]

/-- The loop stops where no newline is left. -/
theorem GuiClientArray.processLoop_rest (handle : σ → CStr → σ) {client : GuiClientArray}
    {processed : Nat} (hrest : newline ∉ client.used.drop processed) (fuel : Nat) (s : σ) :
    client.processLoop handle (fuel + 1) processed s = some (processed, s) := by
  rw [GuiClientArray.processLoop, ← client.drop_used, memchr_eq_none hrest]
  split_ifs
  · rfl
  · rfl

/-- From an offset on, the loop hands over the complete lines behind it, and stops at their rest. -/
theorem GuiClientArray.processLoop_spec (handle : σ → CStr → σ) (client : GuiClientArray)
    {fuel processed : Nat} (hle : processed ≤ client.size) (hfuel : client.size - processed < fuel)
    (s : σ) : ∃ last, client.processLoop handle fuel processed s =
        some (last, (commandLines (client.used.drop processed)).foldl handle s) ∧
      last ≤ client.size ∧ client.used.drop last = rest newline (client.used.drop processed) := by
  induction fuel generalizing processed s with
  | zero => omega
  | succ fuel ih =>
    by_cases hmem : newline ∈ client.used.drop processed
    · obtain ⟨x, l, hx, hsplit⟩ := exists_first_line newline hmem
      have hlen := congrArg List.length hsplit
      rw [List.length_drop, client.length_used, List.length_append, List.length_cons] at hlen
      have hnext : client.used.drop (processed + x.length + 1) = l := by
        rw [Nat.add_assoc, ← List.drop_drop, hsplit, ← List.drop_drop, List.drop_left,
          List.drop_one, List.tail_cons]
      have hlines : commandLines (client.used.drop processed) = commandText x :: commandLines l := by
        unfold commandLines
        rw [hsplit, lines_line newline hx, List.map_cons]
      have hnextLe : processed + x.length + 1 ≤ client.size := by omega
      obtain ⟨last, hloop, hlast, hrest⟩ := ih hnextLe (by omega) (handle s (commandText x))
      refine ⟨last, ?_, hlast, ?_⟩
      · rw [processLoop_line handle hx hsplit, hloop, hnext, hlines, List.foldl_cons]
      · rw [hrest, hnext, hsplit, rest_line]
    · have hnone : commandLines (client.used.drop processed) = [] := by
        unfold commandLines
        rw [(lines_eq_nil_iff newline).mpr hmem, List.map_nil]
      refine ⟨processed, ?_, hle, (rest_eq_self newline hmem).symm⟩
      rw [processLoop_rest handle hmem, hnone, List.foldl_nil]

/-! ## The buffer -/

/-- `gui_backend_process_buffer` splits whatever its buffer holds, and keeps the descriptor. -/
theorem GuiClientArray.processBuffer_spec (handle : σ → CStr → σ) (client : GuiClientArray)
    (s : σ) : ∃ client', client.processBuffer handle s =
        some (client', (commandLines client.used).foldl handle s) ∧
      client'.used = rest newline client.used ∧ client'.fd = client.fd := by
  obtain ⟨last, hloop, hto, hrest⟩ := client.processLoop_spec handle (Nat.zero_le _)
    (Nat.lt_succ_of_le (Nat.sub_le client.size 0)) s
  rw [List.drop_zero] at hloop hrest
  unfold GuiClientArray.processBuffer
  rw [hloop]
  simp only [Option.bind_eq_bind, Option.bind_some]
  by_cases hlast : 0 < last
  · rw [if_pos hlast, if_neg (by omega)]
    exact ⟨_, rfl, (client.used_discard last).trans hrest, rfl⟩
  · obtain rfl : last = 0 := by omega
    rw [if_neg hlast]
    exact ⟨client, rfl, hrest, rfl⟩

theorem GuiClientArray.splitsLines (handle : σ → CStr → σ) (client : GuiClientArray) (s : σ) :
    client.SplitsLines handle s := by
  obtain ⟨client', hcall, hused, -⟩ := client.processBuffer_spec handle s
  exact ⟨client', hcall, hused, by rw [← hused, client'.length_used]⟩

/-- In memory, `gui_backend_process_buffer` is the splitter on the bytes that count, for a handler
that reads up to a NUL. -/
theorem GuiClientArray.processBuffer_refines (handle : σ → CStr → σ) (client : GuiClientArray)
    (s : σ) : ∃ p, client.processBuffer handle s = some p ∧
      Refines p (guiBackendProcessBuffer (upToNul handle) { buffer := client.used, state := s }) := by
  obtain ⟨client', hcall, hused, -⟩ := client.processBuffer_spec handle s
  have hsize : client.used.length ≤ guiBackendBufferSize := by
    rw [client.length_used]
    exact client.size_le
  refine ⟨_, hcall, ?_⟩
  unfold guiBackendProcessBuffer Refines
  rw [processLines_eq _ _ hsize, commandLines, List.foldl_map]
  exact ⟨hused, rfl⟩

/-- The receive step in memory is the receive step on the bytes that count. -/
theorem GuiClientArray.receive_refines (handle : σ → CStr → σ) (tooLong : σ → σ)
    {p : GuiClientArray × σ} {client : GuiClient σ} {received : List UInt8} (hp : Refines p client)
    (hroom : client.buffer.length + received.length ≤ guiBackendBufferSize) :
    ∃ p', p.1.receive handle tooLong received p.2 = some p' ∧
      Refines p' (guiBackendReceive (upToNul handle) tooLong client received) := by
  obtain ⟨array, s⟩ := p
  obtain ⟨bytes, state⟩ := client
  obtain ⟨rfl, rfl⟩ : array.used = bytes ∧ s = state := hp
  rw [array.length_used] at hroom
  have hused := used_recv hroom
  have hsize : (array.recv received).size = (array.used ++ received).length := by
    rw [← hused, GuiClientArray.length_used]
  unfold GuiClientArray.receive guiBackendReceive
  dsimp only
  rw [hsize]
  by_cases hfull : (array.used ++ received).length ≥ guiBackendBufferSize
  · rw [if_pos hfull, if_pos hfull]
    exact ⟨_, rfl, rfl, rfl⟩
  · rw [if_neg hfull, if_neg hfull, ← hused]
    exact processBuffer_refines handle _ s

/-- **The client in memory refines the client as a list of bytes**: for every sequence of pieces that
`recv` can deliver, every step returns, and the state and the bytes at the end are those of the
list. -/
theorem GuiClientArray.run_refines (handle : σ → CStr → σ) (tooLong : σ → σ)
    {p : GuiClientArray × σ} {client : GuiClient σ} {cs : List (List UInt8)} (hp : Refines p client)
    (hroom : Run.Guarded (guiBackendReceive (upToNul handle) tooLong) (fun client c =>
      client.buffer.length + c.length ≤ guiBackendBufferSize) client cs) :
    ∃ p', cs.foldlM (fun p c => p.1.receive handle tooLong c p.2) p = some p' ∧
      Refines p' (cs.foldl (guiBackendReceive (upToNul handle) tooLong) client) := by
  have hstep : ∀ (p : GuiClientArray × σ) (client : GuiClient σ) (c : List UInt8),
      Refines p client → client.buffer.length + c.length ≤ guiBackendBufferSize →
      ∃ p', p.1.receive handle tooLong c p.2 = some p' ∧
        Refines p' (guiBackendReceive (upToNul handle) tooLong client c) := by
    intro p client c hp hroom
    exact receive_refines handle tooLong hp hroom
  exact Run.foldlM_refines hstep hp hroom

/-! ## The splitter -/

theorem commandLines_append (a b : List UInt8) :
    commandLines (a ++ b) = commandLines a ++ commandLines (rest newline a ++ b) := by
  unfold commandLines
  rw [lines_append, List.map_append]

/-- Two pieces that fit the buffer together have the effect of both at once. -/
theorem GuiClientArray.sameEffect_pieces (handle : σ → CStr → σ) {client : GuiClientArray}
    {c₁ c₂ : List UInt8} (hfit : client.size + c₁.length + c₂.length < guiBackendBufferSize)
    (s : σ) : SameEffect
      (((client.recv c₁).processBuffer handle s).bind fun (client, s) =>
        (client.recv c₂).processBuffer handle s)
      ((client.recv (c₁ ++ c₂)).processBuffer handle s) := by
  have hfirst : (client.recv c₁).used = client.used ++ c₁ := used_recv (by omega)
  have hboth : (client.recv (c₁ ++ c₂)).used = client.used ++ (c₁ ++ c₂) :=
    used_recv (by rw [List.length_append]; omega)
  obtain ⟨mid, hmid, hmidUsed, hmidFd⟩ := (client.recv c₁).processBuffer_spec handle s
  rw [hfirst] at hmid hmidUsed
  have hmidSize : mid.size ≤ client.size + c₁.length := by
    have hle := length_rest_le newline (client.used ++ c₁)
    rwa [← hmidUsed, mid.length_used, List.length_append, client.length_used] at hle
  have hsecond : (mid.recv c₂).used = rest newline (client.used ++ c₁) ++ c₂ := by
    rw [used_recv (by omega), hmidUsed]
  obtain ⟨last, hlast, hlastUsed, hlastFd⟩ := (mid.recv c₂).processBuffer_spec handle
    ((commandLines (client.used ++ c₁)).foldl handle s)
  obtain ⟨once, honce, honceUsed, honceFd⟩ := (client.recv (c₁ ++ c₂)).processBuffer_spec handle s
  rw [hsecond, ← List.foldl_append, ← commandLines_append, List.append_assoc] at hlast
  rw [hboth] at honce
  have hused : last.used = once.used := by
    rw [hlastUsed, honceUsed, hsecond, hboth, ← rest_append, List.append_assoc]
  refine ⟨(last, _), (once, _), ?_, honce, rfl, ?_, hused, ?_⟩
  · rw [hmid, Option.bind_some]
    exact hlast
  · exact hlastFd.trans (hmidFd.trans honceFd.symm)
  · rw [← last.length_used, ← once.length_used, hused]

/-- **`gui_backend_process_buffer` is an incremental line splitter**, for every contents of the buffer
and every piece that fits behind it; how the piece is cut makes no difference. -/
theorem processBuffer_incremental (handle : σ → CStr → σ) {client : GuiClientArray} {r : List UInt8}
    (hr : client.used = r) {c : List UInt8} (hfit : r.length + c.length < guiBackendBufferSize)
    (s : σ) :
    ((client.recv c).used = r ++ c ∧ (client.recv c).SplitsLines handle s) ∧
      ∀ c₁ c₂, c = c₁ ++ c₂ → SameEffect
        (((client.recv c₁).processBuffer handle s).bind fun (client, s) =>
          (client.recv c₂).processBuffer handle s)
        ((client.recv c).processBuffer handle s) := by
  rw [← hr, client.length_used] at hfit
  refine ⟨⟨?_, (client.recv c).splitsLines handle s⟩, ?_⟩
  · rw [GuiClientArray.used_recv (by omega), hr]
  · rintro c₁ c₂ rfl
    rw [List.length_append] at hfit
    exact GuiClientArray.sameEffect_pieces handle (by omega) s

/-- The end of one command, a whole one, and the beginning of the next. -/
theorem processBuffer_incremental_ping :
    ∃ client', (((GuiClientArray.connected 5 .zero).recv (cstr "PI")).recv
        (cstr "NG\r\nSTATUS\nHE")).processBuffer (fun lines line => lines ++ [line]) [] =
        some (client', [cstr "PING", cstr "STATUS"]) ∧
      client'.used = cstr "HE" ∧ client'.size = 2 := by
  have hr : ((GuiClientArray.connected 5 .zero).recv (cstr "PI")).used = cstr "PI" :=
    GuiClientArray.used_recv (by decide)
  have hfit : (cstr "PI").length + (cstr "NG\r\nSTATUS\nHE").length < guiBackendBufferSize := by
    decide
  obtain ⟨⟨hused, client', hcall, hrest, hsize⟩, -⟩ :=
    processBuffer_incremental (fun lines line => lines ++ [line]) hr hfit []
  rw [hused] at hcall hrest hsize
  have hlines : commandLines (cstr "PI" ++ cstr "NG\r\nSTATUS\nHE") =
      [cstr "PING", cstr "STATUS"] := by decide
  have htail : rest newline (cstr "PI" ++ cstr "NG\r\nSTATUS\nHE") = cstr "HE" := by decide
  rw [hlines] at hcall
  rw [htail] at hrest hsize
  exact ⟨client', hcall, hrest, hsize⟩

end CspTerm.Gui
