import CspTerm.Gui.PassReports
import CspTerm.Gui.Proofs.StatusTextProofs

/-!
# When every pass of the schedule is reported

A text that denotes the entries is at least as long as they are when printed. What the snapshot holds
is the beginning of the printed schedule, or the empty array, so nothing shorter will do.
-/

namespace CspTerm.Gui

open CString Calendar

variable {τ δ : Type}

/-! ## Lengths -/

theorem length_passText (p : GuiBackendPass) : (passText p).length = passLength p := by
  have h1 : (cstr "\x7b\"name\":\"").length = 9 := rfl
  have h2 : (cstr "\",\"aos\":\"").length = 9 := rfl
  have h3 : (cstr "\",\"los\":\"").length = 9 := rfl
  have h4 : (cstr "\",\"duration_sec\":").length = 17 := rfl
  have h5 : (cstr ",\"peak_elevation_deg\":").length = 22 := rfl
  have h6 : (cstr "\x7d").length = 1 := rfl
  simp only [passText, passLength, List.length_append, h1, h2, h3, h4, h5, h6]
  omega

theorem length_printItems (passes : List GuiBackendPass) :
    (Json.printItems (passes.map passDocument)).length =
      (passes.map passLength).sum + (passes.length - 1) := by
  induction passes with
  | nil => rfl
  | cons p rest ih =>
    rw [printItems_cons, List.length_append, List.length_append, ih, length_passText,
      List.map_cons, List.sum_cons, List.length_cons]
    have hcomma : (cstr ",").length = 1 := rfl
    rcases rest with _ | ⟨q, rest⟩
    · simp
    · simp only [reduceCtorEq, if_false, hcomma, List.length_cons]
      omega

theorem length_scheduleText (passes : List GuiBackendPass) :
    (scheduleText passes).length = scheduleLength passes := by
  rw [scheduleText, Json.print, List.length_cons, List.length_append, length_printItems,
    List.length_singleton, scheduleLength]
  omega

/-! ## Entries -/

/-- The entry of a pass is what is printed for it, when its times are printed. -/
theorem passEntry_eq_some_iff (p : GuiBackendPass) (v : Json.Value) : passEntry p = some v ↔
    (gmtime p.aosUtc).isSome = true ∧ (gmtime p.losUtc).isSome = true ∧ passDocument p = v := by
  unfold passEntry passDocument isoUtc
  cases gmtime p.aosUtc with
  | none => simp
  | some aos =>
    cases gmtime p.losUtc with
    | none => simp
    | some los => simp

theorem forall₂_passEntry_iff (passes : List GuiBackendPass) (entries : List Json.Value) :
    List.Forall₂ (fun p v => passEntry p = some v) passes entries ↔
      entries = passes.map passDocument ∧ ∀ p ∈ passes,
        (gmtime p.aosUtc).isSome = true ∧ (gmtime p.losUtc).isSome = true := by
  induction passes generalizing entries with
  | nil => simp
  | cons p rest ih =>
    rcases entries with _ | ⟨v, entries⟩
    · simp
    · rw [List.forall₂_cons, ih, passEntry_eq_some_iff, List.map_cons, List.cons.injEq,
        List.forall_mem_cons]
      constructor
      · rintro ⟨⟨haos, hlos, rfl⟩, rfl, hrest⟩
        exact ⟨⟨rfl, rfl⟩, ⟨haos, hlos⟩, hrest⟩
      · rintro ⟨⟨rfl, rfl⟩, ⟨haos, hlos⟩, hrest⟩
        exact ⟨⟨haos, hlos, rfl⟩, rfl, hrest⟩

theorem plain_of_printable_passDocument {p : GuiBackendPass}
    (h : Json.Printable (passDocument p)) : Json.Plain p.name.val := by
  cases h with
  | object hms =>
    cases hms with
    | cons _ hname _ =>
      cases hname with
      | string hplain => exact hplain

/-! ## The schedule -/

/-- The text of the snapshot is no longer than the printed schedule, and shorter when that is cut. -/
theorem length_passesJson (passes : List GuiBackendPass) :
    (passesJson passes).length < passesJsonSize := by
  by_cases hne : passes = []
  · subst hne
    decide
  · rw [passesJson_eq hne]
    split_ifs
    · exact lt_of_le_of_lt (List.length_take_le _ _) (by decide)
    · decide

/-- A schedule that fits is printed whole. -/
theorem passesJson_of_fits {passes : List GuiBackendPass}
    (h : scheduleLength passes < passesJsonSize) : passesJson passes = scheduleText passes := by
  by_cases hne : passes = []
  · subst hne
    rw [scheduleText, List.map_nil, Json.print, Json.printItems]
    rfl
  · have hmem : (93 : UInt8) ∈ scheduleText passes := by
      rw [scheduleText, Json.print]
      simp
    rw [passesJson_eq hne, List.take_of_length_le (by rw [length_scheduleText]; omega), if_pos hmem]

/-- The snapshot prints the schedule that was taken over. -/
theorem snapshot_passesJson (env : BackendEnv τ) (b : GuiBackend τ δ) {passes : List GuiBackendPass}
    (hcount : passes.length ≤ guiBackendMaxPasses) :
    ((b.updatePassSchedule passes).snapshot env).passesJson = passesJson passes := by
  show passesJson (passes.take guiBackendMaxPasses) = _
  rw [List.take_of_length_le hcount]

/-- **Every pass of the schedule is reported exactly when the schedule fits.** -/
theorem reportsEveryPass_iff (env : BackendEnv τ) (b : GuiBackend τ δ)
    (passes : List GuiBackendPass) (hcount : passes.length ≤ guiBackendMaxPasses) :
    ReportsEveryPass ((b.updatePassSchedule passes).snapshot env).passesJson passes ↔
      ScheduleFits passes := by
  rw [snapshot_passesJson env b hcount]
  constructor
  · rintro ⟨entries, hentries, hdenotes⟩
    obtain ⟨rfl, htimes⟩ := (forall₂_passEntry_iff passes entries).mp hentries
    obtain ⟨hle, hprintable⟩ := Json.length_print_le hdenotes
    have hlength : (Json.print (.array (passes.map passDocument))).length = scheduleLength passes :=
      length_scheduleText passes
    have hfits : scheduleLength passes < passesJsonSize :=
      lt_of_le_of_lt (hlength ▸ hle) (length_passesJson passes)
    have hwhole := congrArg List.length (passesJson_of_fits hfits)
    rw [length_scheduleText, ← hlength] at hwhole
    refine ⟨hfits, fun p hp => ⟨?_, htimes p hp⟩⟩
    cases hprintable hwhole with
    | array hitems =>
      have hp' := Json.printableItems_iff.mp hitems (passDocument p) (List.mem_map_of_mem hp)
      exact plain_of_printable_passDocument hp'
  · rintro ⟨hfits, hpasses⟩
    refine ⟨passes.map passDocument, (forall₂_passEntry_iff passes _).mpr
      ⟨rfl, fun p hp => (hpasses p hp).2⟩, ?_⟩
    rw [passesJson_of_fits hfits]
    apply Json.denotes_print
    apply Json.Printable.array
    apply Json.printableItems_iff.mpr
    intro v hv
    obtain ⟨p, hp, rfl⟩ := List.mem_map.mp hv
    exact printable_passDocument (hpasses p hp).1

/-- A schedule of two passes is reported. -/
theorem reportsEveryPass_two :
    let p : GuiBackendPass := { name := .copy 32 (cstr "VELOX-II"), aosUtc := 1700000000,
                                losUtc := 1700000600, durationSec := 600, peakElevationDeg := 45 }
    ReportsEveryPass (((.init () : GuiBackend Unit Int).updatePassSchedule [p, p]).snapshot
      constBackendEnv).passesJson [p, p] := by
  intro p
  have hp : Json.Plain p.name.val ∧ (gmtime p.aosUtc).isSome = true ∧
      (gmtime p.losUtc).isSome = true :=
    ⟨by unfold Json.Plain; decide +kernel, by decide +kernel, by decide +kernel⟩
  have hfits : ScheduleFits [p, p] :=
    ⟨by decide +kernel, fun q hq => by
      obtain rfl | hq := List.mem_cons.mp hq
      · exact hp
      · exact List.mem_singleton.mp hq ▸ hp⟩
  exact (reportsEveryPass_iff constBackendEnv (.init ()) [p, p] (by decide)).mpr hfits

/-- A schedule of five passes is reported as an empty array. -/
theorem five_passes_reported_as_none :
    let p : GuiBackendPass := { name := .copy 32 (cstr "VELOX-II"), aosUtc := 1700000000,
                                losUtc := 1700000600, durationSec := 600, peakElevationDeg := 45 }
    let passes := List.replicate 5 p
    let b : GuiBackend Unit Int := .init ()
    ((b.updatePassSchedule passes).snapshot constBackendEnv).passesJson = cstr "[]" ∧
      ¬ ∀ (env : BackendEnv Unit) (b : GuiBackend Unit Int) (passes : List GuiBackendPass),
        passes.length ≤ guiBackendMaxPasses →
          ReportsEveryPass ((b.updatePassSchedule passes).snapshot env).passesJson passes := by
  intro p passes b
  have hempty : passesJson passes = cstr "[]" := by decide +kernel
  have htext : ((b.updatePassSchedule passes).snapshot constBackendEnv).passesJson = cstr "[]" := by
    rw [snapshot_passesJson constBackendEnv b (by decide), hempty]
  refine ⟨htext, ?_⟩
  intro h
  obtain ⟨entries, hentries, hdenotes⟩ := h constBackendEnv b passes (by decide)
  obtain ⟨rfl, -⟩ := (forall₂_passEntry_iff passes entries).mp hentries
  have hle := (Json.length_print_le hdenotes).1
  have hlength : (Json.print (.array (passes.map passDocument))).length = scheduleLength passes :=
    length_scheduleText passes
  have hlong : (cstr "[]").length < scheduleLength passes := by decide +kernel
  rw [htext, hlength] at hle
  omega

end CspTerm.Gui
