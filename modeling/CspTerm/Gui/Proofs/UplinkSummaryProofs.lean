import CspTerm.Gui.UplinkSummary
import CspTerm.Gui.Proofs.EventsProofs
import CspTerm.Lib.FieldWidth

/-!
# When the uplink summary is that of the newest event

The summary is what the last first section stored, and the newest event is what the last second
section appended, so the two agree exactly when these are sections of calls with the same report.
-/

namespace CspTerm.Gui

open CString Interleaving

variable {ι : Type}

/-! ## The text of the event -/

theorem strncpyCut_of_lt {size : Nat} {s : CStr} (h : s.length < size) : strncpyCut size s = s :=
  List.take_of_length_le (by omega)

/-- Both outcomes are words of seven letters. -/
theorem length_outcome (success : Int) :
    (if success ≠ 0 then cstr "success" else cstr "failure").length = 7 := by
  split <;> rfl

theorem uplinkDetail_eq {bytes : Nat} (h : bytes < 2 ^ 64) (success : Int) :
    uplinkDetail bytes success =
      (if success ≠ 0 then cstr "success" else cstr "failure") ++
        (cstr " bytes=" ++ fmtNat bytes) := by
  have hnum : (fmtNat bytes).length ≤ 20 := length_fmtNat_le (by decide) (by omega)
  have hlabel : (cstr " bytes=").length = 7 := rfl
  rw [uplinkDetail, List.append_assoc, strncpyCut_of_lt]
  rw [List.length_append, List.length_append, length_outcome, hlabel]
  omega

/-- The text tells the byte count and the outcome. -/
theorem uplinkDetail_inj {m n : Nat} (hm : m < 2 ^ 64) (hn : n < 2 ^ 64) {a b : Int} :
    uplinkDetail m a = uplinkDetail n b ↔ m = n ∧ (a ≠ 0 ↔ b ≠ 0) := by
  rw [uplinkDetail_eq hm, uplinkDetail_eq hn]
  have hwords : cstr "success" ≠ cstr "failure" := by decide
  constructor
  · intro h
    have hlen := (length_outcome a).trans (length_outcome b).symm
    obtain ⟨hword, htail⟩ := List.append_inj h hlen
    refine ⟨fmtNat_injective (List.append_cancel_left htail), ?_⟩
    by_cases ha : a ≠ 0 <;> by_cases hb : b ≠ 0
    · exact ⟨fun _ => hb, fun _ => ha⟩
    · rw [if_pos ha, if_neg hb] at hword
      exact absurd hword hwords
    · rw [if_neg ha, if_pos hb] at hword
      exact absurd hword.symm hwords
    · exact ⟨fun h => absurd h ha, fun h => absurd h hb⟩
  · rintro ⟨rfl, hsucc⟩
    simp only [hsucc]

theorem strncpyCut_uplinkDetail (bytes : Nat) (success : Int) :
    strncpyCut 256 (uplinkDetail bytes success) = uplinkDetail bytes success :=
  strncpyCut_of_lt (length_strncpyCut_lt _ (by decide))

theorem uplinkType_eq_iff {a b : Int} : uplinkType a = uplinkType b ↔ (a ≠ 0 ↔ b ≠ 0) := by
  unfold uplinkType
  by_cases ha : a ≠ 0 <;> by_cases hb : b ≠ 0 <;> simp [ha, hb]

/-! ## The newest event -/

/-- **An event that was just pushed is the last one of the ring.** -/
theorem getLast?_newestEvents_push (g : GuiBackendState) (c : EventCall) :
    (newestEvents (c.push g) guiBackendMaxEvents).getLast? = some c.event := by
  have hle : g.count.val ≤ guiBackendMaxEvents := Nat.le_of_lt_succ g.count.isLt
  have hcell : ∀ i, i % guiBackendMaxEvents = (g.start.val + g.count.val) % guiBackendMaxEvents →
      Ring.cell (g.events.set (Fin.ofNat guiBackendMaxEvents (g.start.val + g.count.val)) c.event) i
        = c.event := by
    intro i hi
    rw [Ring.cell_set, if_pos hi.symm]
  unfold EventCall.push guiBackendPushEvent newestEvents
  dsimp only
  split_ifs with hc
  · rw [Nat.min_eq_right (by dsimp only; omega), List.range_succ, List.map_append,
      List.map_singleton, List.getLast?_concat]
    refine congrArg some (hcell _ ?_)
    dsimp only
    congr 1
    omega
  · have hfull : g.count.val = guiBackendMaxEvents := by omega
    have hstart : (g.start + 1).val = (g.start.val + 1) % guiBackendMaxEvents := Fin.val_add ..
    have hmin : min guiBackendMaxEvents g.count.val = 63 + 1 := by rw [hfull, Nat.min_self]
    dsimp only
    rw [hmin, List.range_succ, List.map_append, List.map_singleton, List.getLast?_concat]
    refine congrArg some (hcell _ ?_)
    rw [hstart, hfull]
    simp only [guiBackendMaxEvents]
    omega

/-- The event of a call. -/
def UplinkNotice.event (n : UplinkNotice) : GuiBackendEvent where
  type := uplinkType n.success
  timestamp := n.clock
  origin := strncpyCut 32 (n.origin.getD (cstr "UNKNOWN"))
  summary := cstr "Uplink transmission"
  detail := uplinkDetail n.bytes.toNat n.success

/-- The arguments of its `gui_backend_push_event`. -/
def UplinkNotice.call (n : UplinkNotice) : EventCall where
  now := n.clock
  type := uplinkType n.success
  origin := n.origin.getD (cstr "UNKNOWN")
  summary := cstr "Uplink transmission"
  detail := uplinkDetail n.bytes.toNat n.success

theorem run_event (g : GuiBackendState) (n : UplinkNotice) :
    UplinkSection.run g (.event n) = n.call.push g := rfl

theorem event_call (n : UplinkNotice) : n.call.event = n.event := by
  unfold UplinkNotice.call EventCall.event UplinkNotice.event
  rw [strncpyCut_uplinkDetail]
  rfl

theorem newestUplink_run_event (g : GuiBackendState) (n : UplinkNotice) :
    (UplinkSection.run g (.event n)).newestUplink = some n.event := by
  have hlast := getLast?_newestEvents_push g n.call
  rw [event_call] at hlast
  obtain ⟨es, hes⟩ := List.getLast?_eq_some_iff.mp hlast
  unfold GuiBackendState.newestUplink
  rw [run_event, hes, List.reverse_append, List.reverse_singleton, List.singleton_append,
    List.find?_cons_of_pos]
  exact decide_eq_true rfl

/-! ## The order of the sections -/

theorem runSections_concat (g : GuiBackendState) (l : List (ι × UplinkSection))
    (x : ι × UplinkSection) :
    runSections g (l ++ [x]) = UplinkSection.run (runSections g l) x.2 := by
  unfold runSections
  rw [List.foldl_append]
  rfl

theorem filterMap_concat_some {α β : Type} {f : α → Option β} {l : List α} {x : α} {y : β}
    (h : f x = some y) : (l ++ [x]).filterMap f = l.filterMap f ++ [y] := by
  rw [List.filterMap_append, List.filterMap_cons_some h, List.filterMap_nil]

theorem filterMap_concat_none {α β : Type} {f : α → Option β} {l : List α} {x : α}
    (h : f x = none) : (l ++ [x]).filterMap f = l.filterMap f := by
  rw [List.filterMap_append, List.filterMap_cons_none h, List.filterMap_nil, List.append_nil]

/-- What a first section stores. -/
theorem run_summary (g : GuiBackendState) (n : UplinkNotice) :
    (UplinkSection.run g (.summary n)).lastUplinkBytes = n.bytes.toNat ∧
      (UplinkSection.run g (.summary n)).lastUplinkSuccess = n.success ∧
      (UplinkSection.run g (.summary n)).lastUplinkOrigin =
        n.origin.elim g.lastUplinkOrigin (strncpyCut 32) := by
  unfold UplinkSection.run
  exact ⟨rfl, rfl, rfl⟩

/-- A second section leaves the summary as it is. -/
theorem run_event_summary (g : GuiBackendState) (n : UplinkNotice) :
    (UplinkSection.run g (.event n)).lastUplinkBytes = g.lastUplinkBytes ∧
      (UplinkSection.run g (.event n)).lastUplinkSuccess = g.lastUplinkSuccess ∧
      (UplinkSection.run g (.event n)).lastUplinkOrigin = g.lastUplinkOrigin := by
  unfold UplinkSection.run guiBackendPushEvent
  dsimp only
  split_ifs <;> exact ⟨rfl, rfl, rfl⟩

/-- The summary is that of the call that stored it last. -/
theorem runSections_summary (g : GuiBackendState) (l : List (ι × UplinkSection)) :
    (runSections g l).lastUplinkBytes =
        (summaries l).getLast?.elim g.lastUplinkBytes (·.bytes.toNat) ∧
      (runSections g l).lastUplinkSuccess =
        (summaries l).getLast?.elim g.lastUplinkSuccess (·.success) ∧
      (runSections g l).lastUplinkOrigin = lastOrigin g l := by
  induction l using List.reverseRecOn with
  | nil => exact ⟨rfl, rfl, rfl⟩
  | append_singleton l x ih =>
    rw [runSections_concat]
    rcases x with ⟨i, n | n⟩
    · have hs : summaries (l ++ [(i, UplinkSection.summary n)]) = summaries l ++ [n] :=
        filterMap_concat_some rfl
      obtain ⟨hb, hsucc, ho⟩ := run_summary (runSections g l) n
      unfold lastOrigin
      rw [hs, hb, hsucc, ho, List.getLast?_concat, Option.elim_some, Option.elim_some]
      refine ⟨rfl, rfl, ?_⟩
      cases horigin : n.origin with
      | none =>
        rw [filterMap_concat_none horigin]
        exact ih.2.2
      | some o =>
        rw [filterMap_concat_some horigin, List.getLast?_concat, Option.elim_some, Option.elim_some]
    · have hs : summaries (l ++ [(i, UplinkSection.event n)]) = summaries l :=
        filterMap_concat_none rfl
      obtain ⟨hb, hsucc, ho⟩ := run_event_summary (runSections g l) n
      unfold lastOrigin
      rw [hs, hb, hsucc, ho]
      exact ih

/-- The newest event of an uplink is that of the call that appended its event last. -/
theorem runSections_newestUplink (g : GuiBackendState) {l : List (ι × UplinkSection)}
    {b : UplinkNotice} (hb : (events l).getLast? = some b) :
    (runSections g l).newestUplink = some b.event := by
  induction l using List.reverseRecOn with
  | nil => cases hb
  | append_singleton l x ih =>
    rw [runSections_concat]
    rcases x with ⟨i, n | n⟩
    · have he : events (l ++ [(i, UplinkSection.summary n)]) = events l :=
        filterMap_concat_none rfl
      rw [he] at hb
      exact ih hb
    · have he : events (l ++ [(i, UplinkSection.event n)]) = events l ++ [n] :=
        filterMap_concat_some rfl
      rw [he, List.getLast?_concat] at hb
      obtain rfl := Option.some.inj hb
      exact newestUplink_run_event _ _

theorem exists_getLast? {α β : Type} {l : List α} {f : α → Option β} {x : α} {y : β} (hx : x ∈ l)
    (hy : f x = some y) : ∃ z, (l.filterMap f).getLast? = some z := by
  have hmem : y ∈ l.filterMap f := List.mem_filterMap.mpr ⟨x, hx, hy⟩
  exact ⟨_, List.getLast?_eq_some_getLast (List.ne_nil_of_mem hmem)⟩

/-- What the summary reports against what the newest event does, from the last section of each
kind. -/
theorem summaryCurrent_iff_of_last (g : GuiBackendState) {l : List (ι × UplinkSection)}
    {a b : UplinkNotice} (ha : (summaries l).getLast? = some a)
    (hb : (events l).getLast? = some b) :
    (runSections g l).SummaryCurrent ↔
      a.bytes = b.bytes ∧ (a.success ≠ 0 ↔ b.success ≠ 0) ∧
        strncpyCut 32 (lastOrigin g l) = strncpyCut 32 (b.origin.getD (cstr "UNKNOWN")) := by
  obtain ⟨hbytes, hsuccess, horigin⟩ := runSections_summary g l
  rw [ha, Option.elim_some] at hbytes hsuccess
  have hcurrent : (runSections g l).SummaryCurrent ↔ (runSections g l).Summarizes b.event := by
    unfold GuiBackendState.SummaryCurrent
    rw [runSections_newestUplink g hb]
    constructor
    · rintro ⟨e, he, hs⟩
      obtain rfl := Option.some.inj he
      exact hs
    · exact fun hs => ⟨b.event, rfl, hs⟩
  rw [hcurrent]
  unfold GuiBackendState.Summarizes UplinkNotice.event
  dsimp only
  rw [hbytes, hsuccess, horigin, uplinkDetail_inj b.bytes.toNat_lt a.bytes.toNat_lt,
    uplinkType_eq_iff, UInt64.toNat_inj]
  constructor
  · rintro ⟨ho, ⟨hbb, hss⟩, -⟩
    exact ⟨hbb.symm, hss.symm, ho.symm⟩
  · rintro ⟨hbb, hss, ho⟩
    exact ⟨ho.symm, ⟨hbb.symm, hss.symm⟩, hss.symm⟩

variable [DecidableEq ι]

/-- **When the uplink summary is consistent with the event log.** For every interleaving of the
locked sections of any number of calls, by any number of threads: once all calls have returned,
`LAST_UPLINK` reports what the newest event of an uplink does if and only if the last sections of
both kinds report the same. -/
theorem summaryCurrent_iff (g : GuiBackendState) {calls : ι → List UplinkNotice}
    {l : List (ι × UplinkSection)} (h : Interleaves (fun i => notifyProgram (calls i)) l)
    (hcalls : ∃ i, calls i ≠ []) : (runSections g l).SummaryCurrent ↔ SameLast g l := by
  obtain ⟨i, hi⟩ := hcalls
  obtain ⟨n, hn⟩ := List.exists_mem_of_ne_nil _ hi
  have hprogram : ∀ s ∈ [UplinkSection.summary n, .event n], (i, s) ∈ l := fun s hs =>
    h.mem_iff.mpr (List.mem_flatMap.mpr ⟨n, hn, hs⟩)
  obtain ⟨a, ha⟩ : ∃ a, (summaries l).getLast? = some a :=
    exists_getLast? (hprogram (.summary n) List.mem_cons_self) rfl
  obtain ⟨b, hb⟩ : ∃ b, (events l).getLast? = some b :=
    exists_getLast? (hprogram (.event n) (List.mem_cons_of_mem _ List.mem_cons_self)) rfl
  rw [summaryCurrent_iff_of_last g ha hb]
  unfold SameLast
  rw [ha, hb]
  constructor
  · exact fun hs => ⟨a, rfl, b, rfl, hs⟩
  · rintro ⟨_, ha', _, hb', hs⟩
    obtain rfl := Option.mem_some_iff.mp ha'
    obtain rfl := Option.mem_some_iff.mp hb'
    exact hs

def mcsNotice : UplinkNotice where
  origin := some (cstr "MCS")
  filePath := some (cstr "mcs.bin")
  bytes := 10
  success := 1
  clock := ⟨0, 0⟩

def consoleNotice : UplinkNotice where
  origin := some (cstr "CONSOLE")
  filePath := none
  bytes := 20
  success := 0
  clock := ⟨1, 0⟩

/-- Two calls that do not overlap. -/
theorem summaryCurrent_in_turn : (runSections .init [(false, .summary mcsNotice),
    (false, .event mcsNotice), (true, .summary consoleNotice),
    (true, .event consoleNotice)]).SummaryCurrent := by
  have hl : Interleaves (fun i => notifyProgram [if i then consoleNotice else mcsNotice])
      [(false, .summary mcsNotice), (false, .event mcsNotice), (true, .summary consoleNotice),
        (true, .event consoleNotice)] := by
    rintro (_ | _) <;> rfl
  exact (summaryCurrent_iff .init hl ⟨true, List.cons_ne_nil _ _⟩).mpr
    ⟨consoleNotice, rfl, consoleNotice, rfl, rfl, Iff.rfl, rfl⟩

/-- The console reports a failed uplink between the two sections of the MCS thread: the newest event
is the success of the MCS uplink, and `LAST_UPLINK` the failure. -/
theorem summary_overtaken :
    Interleaves (fun i => notifyProgram [if i then consoleNotice else mcsNotice])
        [(false, .summary mcsNotice), (true, .summary consoleNotice),
          (true, .event consoleNotice), (false, .event mcsNotice)] ∧
      ¬ (runSections .init [(false, .summary mcsNotice), (true, .summary consoleNotice),
          (true, .event consoleNotice), (false, .event mcsNotice)]).SummaryCurrent := by
  refine ⟨by rintro (_ | _) <;> rfl, ?_⟩
  intro h
  have hsame := (summaryCurrent_iff_of_last .init rfl rfl).mp h
  exact absurd hsame.1 (show consoleNotice.bytes ≠ mcsNotice.bytes by decide)

end CspTerm.Gui
