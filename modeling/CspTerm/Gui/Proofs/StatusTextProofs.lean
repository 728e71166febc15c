import CspTerm.Gui.Framing
import CspTerm.Gui.Proofs.EventsProofs

/-!
# The status report is a document

The text of a report is the printed form of its document as long as nothing in it is cut off and no
string in it needs an escape. The schedule is printed into an array of its own first; what is cut
off there is the end of the whole text.
-/

namespace CspTerm.Gui

open CString Calendar

variable {τ δ : Type}

/-! ## Numbers and strings -/

theorem digitChar_isDigit {d : Nat} (h : d < 10) : Json.IsDigit (digitChar d) := by
  have hall : ∀ d < 10, 48 ≤ digitChar d ∧ digitChar d ≤ 57 := by decide
  exact hall d h

theorem fmtNat_isDigit {n : Nat} : ∀ b ∈ fmtNat n, Json.IsDigit b := by
  intro b hb
  obtain ⟨d, hd, rfl⟩ := List.mem_map.mp hb
  exact digitChar_isDigit (Radix.lt_of_mem_digits (by decide) hd)

theorem digits_head_ne_zero {n : Nat} (hn : n ≠ 0) {d : Nat}
    (h : (Radix.digits 10 n).head? = some d) : d ≠ 0 := by
  rw [Radix.digits, if_neg hn, List.head?_reverse] at h
  have hne : Nat.digits 10 n ≠ [] := Nat.digits_ne_nil_iff_ne_zero.mpr hn
  rw [List.getLast?_eq_some_getLast hne] at h
  rw [← Option.some.inj h]
  exact Nat.getLast_digit_ne_zero 10 hn

theorem isNatural_fmtNat (n : Nat) : Json.IsNatural (fmtNat n) := by
  refine ⟨?_, fmtNat_isDigit, ?_⟩
  · simpa [fmtNat] using Radix.digits_ne_nil 10 n
  · intro h
    by_cases hn : n = 0
    · subst hn
      rfl
    · rw [fmtNat, List.head?_map, Option.map_eq_some_iff] at h
      obtain ⟨d, hd, h48⟩ := h
      have hlt : d < 10 := Radix.lt_of_mem_digits (by decide) (List.mem_of_mem_head? hd)
      have hall : ∀ d < 10, digitChar d = 48 → d = 0 := by decide
      exact absurd (hall d hlt h48) (digits_head_ne_zero hn hd)

theorem isNumber_fmtInt (z : Int) : Json.IsNumber (fmtInt z) := by
  unfold fmtInt
  split_ifs
  · exact .negative (isNatural_fmtNat _)
  · exact .natural (isNatural_fmtNat _)

theorem plain_fmtNat (n : Nat) : Json.Plain (fmtNat n) := by
  intro b hb
  obtain ⟨d, hd, rfl⟩ := List.mem_map.mp hb
  have hall : ∀ d < 10, 32 ≤ digitChar d ∧ digitChar d ≠ 34 ∧ digitChar d ≠ 92 := by decide
  exact hall d (Radix.lt_of_mem_digits (by decide) hd)

theorem plain_fmtInt (z : Int) : Json.Plain (fmtInt z) := by
  unfold fmtInt
  split_ifs
  · intro b hb
    rcases List.mem_cons.mp hb with rfl | h
    · decide
    · exact plain_fmtNat _ b h
  · exact plain_fmtNat _

theorem plain_fmt02 (n : Nat) : Json.Plain (fmt02 n) := by
  have hall : ∀ d < 10, 32 ≤ digitChar d ∧ digitChar d ≠ 34 ∧ digitChar d ≠ 92 := by decide
  intro b hb
  simp only [fmt02, List.mem_cons, List.not_mem_nil, or_false] at hb
  rcases hb with rfl | rfl
  · exact hall _ (Nat.mod_lt _ (by decide))
  · exact hall _ (Nat.mod_lt _ (by decide))

/-- A fixed text of printable characters other than the quote and the backslash. -/
theorem plain_text {l : List Char}
    (h : (l.all fun c => 32 ≤ c.toNat && c.toNat < 127 && c.toNat != 34 && c.toNat != 92) = true) :
    Json.Plain (cstr (String.ofList l)) := by
  intro b hb
  rw [cstr_ofList] at hb
  obtain ⟨c, hc, rfl⟩ := List.mem_map.mp hb
  have hchar := List.all_eq_true.mp h c hc
  simp only [Bool.and_eq_true, decide_eq_true_iff, bne_iff_ne] at hchar
  obtain ⟨⟨⟨h32, h127⟩, h34⟩, h92⟩ := hchar
  have hbyte : c.toNat.toUInt8.toNat = c.toNat := by
    show c.toNat % 2 ^ 8 = c.toNat
    omega
  refine ⟨UInt8.le_iff_toNat_le.mpr ?_, fun he => h34 ?_, fun he => h92 ?_⟩
  · rw [hbyte]
    exact h32
  · rw [← hbyte, he]
    rfl
  · rw [← hbyte, he]
    rfl

theorem plain_isoText (tm : Tm) : Json.Plain (isoText tm) := by
  have h1 : Json.Plain (cstr "-") := plain_text rfl
  have h2 : Json.Plain (cstr "T") := plain_text rfl
  have h3 : Json.Plain (cstr ":") := plain_text rfl
  have h := (plain_fmtInt tm.year).append h1
  have h := (((h.append (plain_fmt02 tm.month)).append h1).append (plain_fmt02 tm.day)).append h2
  exact (((h.append (plain_fmt02 tm.hour)).append h3).append
    (plain_fmt02 tm.minute)).append h3 |>.append (plain_fmt02 tm.second)

theorem plain_isoUtc (seconds : Int) : Json.Plain (isoUtc seconds) := by
  unfold isoUtc
  cases gmtime seconds with
  | none => exact fun b hb => (nomatch hb)
  | some tm => exact (plain_isoText tm).append (plain_text rfl)

theorem plain_modeToString (mode : GuiBackendMode) :
    Json.Plain (guiBackendModeToString mode) := by
  cases mode <;> exact plain_text rfl

/-! ## The documents -/

theorem boolText_eq (flag : Bool) : Json.boolText flag = boolText flag := by
  cases flag <;> rfl

theorem print_passDocument (p : GuiBackendPass) : Json.print (passDocument p) = passText p := by
  simp only [passText, passDocument, Json.print, Json.printMembers, List.append_assoc,
    List.cons_append, List.nil_append]
  rfl

section

variable [CDouble δ] (snap : GuiBackendSnapshot δ)

theorem print_stationDocument :
    Json.print (stationDocument snap) =
      cstr "\x7b\"name\":\"" ++ snap.stationName ++
        cstr "\",\"mode\":\"" ++ guiBackendModeToString snap.stationMode ++
        cstr "\",\"emergency_stop\":" ++ boolText snap.emergencyStopEngaged ++
        cstr ",\"lat\":" ++ CDouble.fmt 6 snap.stationLat ++
        cstr ",\"lon\":" ++ CDouble.fmt 6 snap.stationLon ++
        cstr ",\"alt_m\":" ++ CDouble.fmt 1 snap.stationAltM ++
        cstr ",\"true_north_deg\":" ++ CDouble.fmt 2 snap.stationTrueNorthDeg ++
        cstr ",\"time_utc\":\"" ++ snap.utcIso ++
        cstr "\",\"time_local\":\"" ++ snap.localIso ++ cstr "\"\x7d" := by
  simp only [stationDocument, Json.print, Json.printMembers, boolText_eq, List.append_assoc,
    List.cons_append, List.nil_append]
  rfl

theorem print_antennaDocument :
    Json.print (antennaDocument snap) =
      cstr "\x7b\"az_deg\":" ++ CDouble.fmt 2 snap.antenna.azDeg ++
        cstr ",\"el_deg\":" ++ CDouble.fmt 2 snap.antenna.elDeg ++
        cstr ",\"last_command_success\":" ++ boolText (snap.antenna.lastCommandSuccess ≠ 0) ++
        cstr "\x7d" := by
  simp only [antennaDocument, Json.print, Json.printMembers, boolText_eq, List.append_assoc,
    List.cons_append]
  rfl

omit [CDouble δ] in
theorem print_rfDocument :
    Json.print (rfDocument snap) =
      cstr "\x7b\"tx_hz\":" ++ fmtInt snap.rf.txFreqHz ++
        cstr ",\"rx_hz\":" ++ fmtInt snap.rf.rxFreqHz ++ cstr "\x7d" := by
  simp only [rfDocument, Json.print, Json.printMembers, List.append_assoc, List.cons_append]
  rfl

theorem print_satelliteDocument :
    Json.print (satelliteDocument snap) =
      cstr "\x7b\"norad\":" ++ fmtNat snap.sat.noradId.toNat ++
        cstr ",\"lat_deg\":" ++ CDouble.fmt 3 snap.sat.latDeg ++
        cstr ",\"lon_deg\":" ++ CDouble.fmt 3 snap.sat.lonDeg ++
        cstr ",\"alt_km\":" ++ CDouble.fmt 2 snap.sat.altKm ++
        cstr ",\"velocity_km_s\":" ++ CDouble.fmt 3 snap.sat.velocityKmS ++
        cstr ",\"range_km\":" ++ CDouble.fmt 2 snap.sat.rangeKm ++
        cstr ",\"range_rate_km_s\":" ++ CDouble.fmt 3 snap.sat.rangeRateKmS ++
        cstr ",\"tle_age_sec\":" ++ fmtInt snap.tleAgeSec ++ cstr "\x7d" := by
  simp only [satelliteDocument, Json.print, Json.printMembers, List.append_assoc,
    List.cons_append]
  rfl

theorem print_statusDocument (messageType : CStr) (passes : List GuiBackendPass) :
    Json.print (statusDocument snap messageType passes) =
      cstr "\x7b\"type\":\"" ++ messageType ++
        cstr "\",\"station\":" ++ Json.print (stationDocument snap) ++
        cstr ",\"antenna\":" ++ Json.print (antennaDocument snap) ++
        cstr ",\"rf\":" ++ Json.print (rfDocument snap) ++
        cstr ",\"satellite\":" ++ Json.print (satelliteDocument snap) ++
        cstr ",\"passes\":" ++ Json.print (.array (passes.map passDocument)) ++
        cstr ",\"faults\":[]\x7d" := by
  simp only [statusDocument, Json.print.eq_5, Json.print.eq_4, Json.print.eq_3, Json.printMembers,
    Json.printItems, List.append_assoc, List.cons_append, List.nil_append]
  rfl

/-- **The text of a report is its document**, if the schedule in it is. -/
theorem statusText_eq (messageType : CStr) {passes : List GuiBackendPass}
    (hpasses : snap.passesJson = Json.print (.array (passes.map passDocument)))
    (hfaults : snap.faultsJson = cstr "[]") :
    statusText snap messageType =
      Json.print (statusDocument snap messageType passes) ++ cstr "\n" := by
  -- the pieces of the format string cross the borders of the documents
  have h1 : cstr "\",\"station\":\x7b\"name\":\"" =
      cstr "\",\"station\":" ++ cstr "\x7b\"name\":\"" := by
    decide
  have h2 : cstr "\"\x7d,\"antenna\":\x7b\"az_deg\":" =
      cstr "\"\x7d" ++ (cstr ",\"antenna\":" ++ cstr "\x7b\"az_deg\":") := by decide
  have h3 : cstr "\x7d,\"rf\":\x7b\"tx_hz\":" =
      cstr "\x7d" ++ (cstr ",\"rf\":" ++ cstr "\x7b\"tx_hz\":") := by decide
  have h4 : cstr "\x7d,\"satellite\":\x7b\"norad\":" =
      cstr "\x7d" ++ (cstr ",\"satellite\":" ++ cstr "\x7b\"norad\":") := by decide
  have h5 : cstr "\x7d,\"passes\":" = cstr "\x7d" ++ cstr ",\"passes\":" := by decide
  have h6 : cstr ",\"faults\":" ++ (cstr "[]" ++ cstr "\x7d\n") =
      cstr ",\"faults\":[]\x7d" ++ cstr "\n" := by decide
  simp only [print_statusDocument, print_stationDocument, print_antennaDocument, print_rfDocument,
    print_satelliteDocument]
  unfold statusText
  rw [hpasses, hfaults]
  generalize Json.print (.array (passes.map passDocument)) = schedule
  simp only [h1, h2, h3, h4, h5, h6, List.append_assoc, ne_eq]

omit [CDouble δ] in
theorem printable_passDocument {p : GuiBackendPass} (h : Json.Plain p.name.val) :
    Json.Printable (passDocument p) :=
  .object <|
    .cons (plain_text rfl) (.string h) <|
    .cons (plain_text rfl) (.string (plain_isoUtc _)) <|
    .cons (plain_text rfl) (.string (plain_isoUtc _)) <|
    .cons (plain_text rfl) (.number (.natural (isNatural_fmtNat _))) <|
    .cons (plain_text rfl) (.number (.natural (isNatural_fmtNat _))) .nil

omit [CDouble δ] in
theorem printable_int (z : Int) : Json.Printable (.number (fmtInt z)) := .number (isNumber_fmtInt z)

omit [CDouble δ] in
theorem printable_rfDocument : Json.Printable (rfDocument snap) :=
  .object <|
    .cons (plain_text rfl) (printable_int _) <|
    .cons (plain_text rfl) (printable_int _) .nil

variable (hfmt : ∀ precision (x : δ), Json.IsNumber (CDouble.fmt precision x))

include hfmt

theorem printable_double (precision : Nat) (x : δ) :
    Json.Printable (.number (CDouble.fmt precision x)) := .number (hfmt precision x)

theorem printable_stationDocument (hname : Json.Plain snap.stationName)
    (hutc : Json.Plain snap.utcIso) (hlocal : Json.Plain snap.localIso) :
    Json.Printable (stationDocument snap) :=
  .object <|
    .cons (plain_text rfl) (.string hname) <|
    .cons (plain_text rfl) (.string (plain_modeToString _)) <|
    .cons (plain_text rfl) (.bool _) <|
    .cons (plain_text rfl) (printable_double hfmt _ _) <|
    .cons (plain_text rfl) (printable_double hfmt _ _) <|
    .cons (plain_text rfl) (printable_double hfmt _ _) <|
    .cons (plain_text rfl) (printable_double hfmt _ _) <|
    .cons (plain_text rfl) (.string hutc) <|
    .cons (plain_text rfl) (.string hlocal) .nil

theorem printable_antennaDocument : Json.Printable (antennaDocument snap) :=
  .object <|
    .cons (plain_text rfl) (printable_double hfmt _ _) <|
    .cons (plain_text rfl) (printable_double hfmt _ _) <|
    .cons (plain_text rfl) (.bool _) .nil

theorem printable_satelliteDocument : Json.Printable (satelliteDocument snap) :=
  .object <|
    .cons (plain_text rfl) (.number (.natural (isNatural_fmtNat _))) <|
    .cons (plain_text rfl) (printable_double hfmt _ _) <|
    .cons (plain_text rfl) (printable_double hfmt _ _) <|
    .cons (plain_text rfl) (printable_double hfmt _ _) <|
    .cons (plain_text rfl) (printable_double hfmt _ _) <|
    .cons (plain_text rfl) (printable_double hfmt _ _) <|
    .cons (plain_text rfl) (printable_double hfmt _ _) <|
    .cons (plain_text rfl) (printable_int _) .nil

/-- The document can be printed if its strings need no escapes. -/
theorem printable_statusDocument {messageType : CStr} {passes : List GuiBackendPass}
    (htype : Json.Plain messageType) (hname : Json.Plain snap.stationName)
    (hutc : Json.Plain snap.utcIso) (hlocal : Json.Plain snap.localIso)
    (hpasses : ∀ p ∈ passes, Json.Plain p.name.val) :
    Json.Printable (statusDocument snap messageType passes) := by
  have hschedule : Json.PrintableItems (passes.map passDocument) := by
    refine Json.printableItems_iff.mpr ?_
    intro v hv
    obtain ⟨p, hp, rfl⟩ := List.mem_map.mp hv
    exact printable_passDocument (hpasses p hp)
  exact .object <|
    .cons (plain_text rfl) (.string htype) <|
    .cons (plain_text rfl) (printable_stationDocument snap hfmt hname hutc hlocal) <|
    .cons (plain_text rfl) (printable_antennaDocument snap hfmt) <|
    .cons (plain_text rfl) (printable_rfDocument snap) <|
    .cons (plain_text rfl) (printable_satelliteDocument snap hfmt) <|
    .cons (plain_text rfl) (.array hschedule) <|
    .cons (plain_text rfl) (.array .nil) .nil

end

/-! ## The schedule -/

theorem printItems_cons (p : GuiBackendPass) (rest : List GuiBackendPass) :
    Json.printItems ((p :: rest).map passDocument) =
      (passText p ++ if rest = [] then [] else cstr ",") ++
        Json.printItems (rest.map passDocument) := by
  cases rest with
  | nil => simp [Json.printItems, print_passDocument]
  | cons q rest =>
    rw [List.map_cons, List.map_cons, Json.printItems, print_passDocument, if_neg (by simp),
      List.append_assoc]
    rfl

/-- What stops the loop fills the array, and the closing bracket has no room then: the array has the
beginning of the whole text. -/
theorem printPasses_eq (passes : List GuiBackendPass) {written : CStr}
    (h : written.length < passesJsonSize) :
    snprintfBehind (printPasses written passes) (cstr "]") =
      (written ++ (Json.printItems (passes.map passDocument) ++ cstr "]")).take
        (passesJsonSize - 1) := by
  induction passes generalizing written with
  | nil =>
    rw [printPasses, snprintfBehind, List.map_nil, Json.printItems, List.nil_append,
      List.take_append, List.take_of_length_le (l := written) (by omega)]
    congr 2
    omega
  | cons p rest ih =>
    rw [printItems_cons, List.append_assoc]
    simp only [printPasses]
    generalize htext : (passText p ++ if rest = [] then [] else cstr ",") = text
    split_ifs with hfull
    · have hlen : (snprintfBehind written text).length = passesJsonSize - 1 := by
        rw [snprintfBehind, List.length_append, List.length_take]
        omega
      rw [snprintfBehind, hlen, show passesJsonSize - (passesJsonSize - 1) - 1 = 0 from rfl,
        List.take_zero, List.append_nil, List.take_append, List.take_of_length_le (by omega),
        List.take_append_of_le_length (by omega), snprintfBehind]
      congr 2
      omega
    · rw [ih (by rw [List.length_append]; omega), List.append_assoc]

theorem passesJson_eq {passes : List GuiBackendPass} (h : passes ≠ []) :
    passesJson passes =
      if (93 : UInt8) ∈ (scheduleText passes).take (passesJsonSize - 1) then
        (scheduleText passes).take (passesJsonSize - 1)
      else cstr "[]" := by
  have htext : scheduleText passes =
      cstr "[" ++ (Json.printItems (passes.map passDocument) ++ cstr "]") := by
    rw [scheduleText, Json.print]
    rfl
  unfold passesJson
  rw [if_neg h, printPasses_eq passes (by decide), ← htext]

/-- A reportable schedule is printed as an array of its passes, or as the empty array. -/
theorem passesJson_of_reportable {passes : List GuiBackendPass} (h : ScheduleReportable passes) :
    ∃ listed, (listed = passes ∨ listed = []) ∧ (∀ p ∈ listed, Json.Plain p.name.val) ∧
      passesJson passes = Json.print (.array (listed.map passDocument)) := by
  have hempty : Json.print (.array (([] : List GuiBackendPass).map passDocument)) = cstr "[]" := by
    simp only [List.map_nil, Json.print, Json.printItems]
    rfl
  by_cases hne : passes = []
  · subst hne
    exact ⟨[], Or.inl rfl, fun p hp => (nomatch hp), hempty.symm⟩
  · rw [passesJson_eq hne]
    rcases h with ⟨hfits, hplain⟩ | hcut
    · have hmem : (93 : UInt8) ∈ scheduleText passes := by
        rw [scheduleText, Json.print]
        simp
      refine ⟨passes, Or.inl rfl, hplain, ?_⟩
      rw [List.take_of_length_le (by omega), if_pos hmem]
      rfl
    · exact ⟨[], Or.inr rfl, fun p hp => (nomatch hp), by rw [if_neg hcut, hempty]⟩

/-! ## Reports -/

theorem plain_localIso (env : BackendEnv τ) (b : GuiBackend τ δ)
    (h : Json.Plain b.lastStatusLocal.val) : Json.Plain (b.snapshot env).localIso := by
  have hlocaltime : ∀ seconds, Json.Plain ((env.localtime seconds).elim [] isoText) := by
    intro seconds
    cases env.localtime seconds with
    | none => exact fun b hb => (nomatch hb)
    | some tm => exact plain_isoText tm
  unfold GuiBackend.snapshot
  dsimp only
  split
  · exact h
  · exact hlocaltime _

/-- **A report that fits and needs no escapes is a document.** -/
theorem isReport_of_reportable [CDouble δ]
    (hfmt : ∀ precision (x : δ), Json.IsNumber (CDouble.fmt precision x)) {env : BackendEnv τ}
    {b : GuiBackend τ δ} {messageType : CStr} (htype : Json.Plain messageType)
    (hlocal : Json.Plain b.lastStatusLocal.val) (h : Reportable env b messageType) :
    IsReport env b messageType (guiBackendSendFmt (statusText (b.snapshot env) messageType)) := by
  obtain ⟨hfits, hname, hschedule⟩ := h
  obtain ⟨listed, hlisted, hplain, hjson⟩ := passesJson_of_reportable hschedule
  have htext := statusText_eq (b.snapshot env) messageType hjson rfl
  refine ⟨_, (guiBackendSendFmt_of_lt hfits).trans htext, listed, hlisted, ?_⟩
  exact Json.denotes_print
    (printable_statusDocument _ hfmt htype hname (plain_isoUtc _) (plain_localIso env b hlocal)
      hplain)

end CspTerm.Gui
