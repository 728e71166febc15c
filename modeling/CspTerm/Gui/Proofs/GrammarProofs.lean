import CspTerm.Gui.Grammar
import CspTerm.Gui.Proofs.EmergencyProofs

/-!
# Which invalid lines are rejected

Every handler that finds a missing or unreadable argument answers `ERROR` and stops there. The two
commands whose argument is a word take any word, and the numbers that the parser reads are not
quite the documented ones.
-/

namespace CspTerm.Gui

open CString CspTerm.Radio CspTerm.Rotator CspTerm.Uplink CspTerm.Csp

variable {τ δ : Type}

/-! ## Error lines -/

theorem sameControls_refl (b : GuiBackend τ δ) : b.SameControls b :=
  ⟨rfl, rfl, ⟨rfl, rfl, rfl, rfl⟩, rfl, rfl, rfl, rfl, rfl⟩

/-- An answer that begins with `O`, for `OK`, is no error line. -/
theorem not_isErrorLine {message : CStr} (h : message.head? = some 79) : ¬ IsErrorLine message := by
  rintro ⟨reason, rfl, -⟩
  exact absurd (Option.some.inj h) (by decide)

theorem not_rejects {r : CommandResult τ δ} {b : GuiBackend τ δ} {message : CStr}
    {rest : List CStr} (hr : r.messages = message :: rest) (h : message.head? = some 79) :
    ¬ r.Rejects b := by
  rintro ⟨⟨m, hm, he⟩, -⟩
  rw [hr] at hm
  obtain ⟨rfl, -⟩ := List.cons.inj hm
  exact not_isErrorLine h he

theorem rejects_reply {b : GuiBackend τ δ} {message : CStr} (h : IsErrorLine message) :
    (CommandResult.reply b [message]).Rejects b :=
  ⟨⟨message, rfl, h⟩, sameControls_refl b, fun _ hmem => nomatch hmem⟩

/-- A fixed text that begins with `ERROR` and has one newline, at its end. -/
theorem isErrorLine_text {l : List Char}
    (h : l = ['E', 'R', 'R', 'O', 'R', ' '] ++ (l.drop 6).dropLast ++ ['\n'])
    (hline : ((l.drop 6).dropLast.all fun c => c.toNat.toUInt8 != 10) = true) :
    IsErrorLine (cstr (String.ofList l)) := by
  have herror : cstr "ERROR " = ['E', 'R', 'R', 'O', 'R', ' '].map fun c => c.toNat.toUInt8 :=
    cstr_ofList _
  have hnewline : cstr "\n" = ['\n'].map fun c => c.toNat.toUInt8 := cstr_ofList _
  generalize (l.drop 6).dropLast = reason at h hline
  refine ⟨reason.map fun c => c.toNat.toUInt8, ?_, ?_⟩
  · rw [cstr_ofList, h, List.map_append, List.map_append, herror, hnewline]
  · intro hmem
    obtain ⟨c, hc, he⟩ := List.mem_map.mp hmem
    exact bne_iff_ne.mp (List.all_eq_true.mp hline c hc) he

theorem head?_sendFmt {b : UInt8} (text : CStr) :
    (guiBackendSendFmt (b :: text)).head? = some b := rfl

/-! ## The radio -/

/-- A selection that the radio refuses leaves everything as it was exactly if the station was on that
satellite before. -/
theorem mcsSatSel_refused {env : DopplerEnv τ} {d : Doppler τ} {sel : UInt32}
    (h : ¬ AcceptsSat env (satSelected d.satNo sel)) :
    (mcsSatSel env d sel).1 = 0 ∧
      ((mcsSatSel env d sel).2.SameSelection d ↔ d.AlreadyOn env (satSelected d.satNo sel)) := by
  have hret : (mcsSatSel env d sel).1 = 0 := by
    rw [mcsSatSel_result, if_neg h]
  have htruthful := mcsSatSel_truthful_iff env d sel
  unfold SelectionTruthful SelectionSafe at htruthful
  rw [if_neg h, hret] at htruthful
  simpa [hret] using htruthful

theorem serialWrite_notMem_freqWrites (table : UInt16) (freq : UInt32) (bytes : CStr) :
    .serialWrite bytes ∉ freqWrites table freq := by
  unfold freqWrites
  split_ifs <;> simp

theorem serialWrite_notMem_mcsSatSelCalls (env : DopplerEnv τ) (d : Doppler τ) (sel : UInt32)
    (bytes : CStr) : .serialWrite bytes ∉ mcsSatSelCalls env d sel := by
  have htx := serialWrite_notMem_freqWrites ax100V3ParamTx (satTx (satSelected d.satNo sel)) bytes
  have hrx := serialWrite_notMem_freqWrites ax100V3ParamRx (satRx (satSelected d.satNo sel)) bytes
  unfold mcsSatSelCalls
  dsimp only
  split_ifs <;> simp [htx, hrx]

theorem handleSetSat_rejects_iff (env : BackendEnv τ) (b : GuiBackend τ δ) (token : Option CStr) :
    (b.handleSetSat env token).Rejects b ↔ ∀ v, parsed 1 0xFF token = some v →
      ¬ AcceptsSat env.toDopplerEnv (satSelected b.station.doppler.satNo (UInt32.ofInt v)) ∧
        b.station.doppler.AlreadyOn env.toDopplerEnv
          (satSelected b.station.doppler.satNo (UInt32.ofInt v)) := by
  cases token with
  | none =>
    refine ⟨fun _ v hv => (nomatch hv), fun _ => ?_⟩
    exact rejects_reply (isErrorLine_text rfl rfl)
  | some t =>
    simp only [parsed, Option.bind_some]
    unfold GuiBackend.handleSetSat guiBackendHandleSetSat
    cases hp : guiBackendParseLong t 1 0xFF with
    | none =>
      simp only [hp, Option.bind_some, Option.elim_none]
      refine ⟨fun _ v hv => (nomatch hv), fun _ => ?_⟩
      exact rejects_reply (isErrorLine_text rfl rfl)
    | some v =>
      simp only [hp, Option.bind_some, Option.elim_some, Option.some.injEq, forall_eq']
      by_cases hok : AcceptsSat env.toDopplerEnv
          (satSelected b.station.doppler.satNo (UInt32.ofInt v))
      · have hret := mcsSatSel_eq_one_iff.mpr hok
        rw [if_neg (by omega)]
        exact ⟨fun h => absurd h (not_rejects rfl (head?_sendFmt _)), fun h => absurd hok h.1⟩
      · obtain ⟨hret, hsame⟩ := mcsSatSel_refused hok
        rw [if_pos hret]
        refine ⟨fun h => ⟨hok, hsame.mp h.2.1.selection⟩, fun h => ⟨?_, ?_, ?_⟩⟩
        · exact ⟨_, rfl, isErrorLine_text rfl rfl⟩
        · exact ⟨rfl, rfl, hsame.mpr h.2, rfl, rfl, rfl, rfl, rfl⟩
        · exact serialWrite_notMem_mcsSatSelCalls _ _ _

/-- What `SET_TX` and `SET_RX` do with a number that the parser accepts. -/
theorem handleSetFreq_some (env : StationEnv τ) (s : Station τ) {token : CStr} {v : Int}
    (isTx : Bool) (hp : guiBackendParseLong token 0 longMax = some v) :
    ∃ text s', guiBackendHandleSetFreq env s (some token) isTx =
      if Accepts env.toDopplerEnv (if isTx then ax100V3ParamTx else ax100V3ParamRx)
          (UInt32.ofInt v) then ([guiBackendSendFmt (79 :: text)], s')
      else ([cstr "ERROR Frequency configuration failed\n"], s) := by
  unfold guiBackendHandleSetFreq
  cases isTx
  all_goals
    simp only [hp, dopplerSetTxFreq_eq, dopplerSetRxFreq_eq, if_true, if_false,
      Bool.false_eq_true]
    split
    · exact ⟨_, _, rfl⟩
    · exact ⟨[], s, rfl⟩

theorem handleSetFreq_rejects_iff (env : BackendEnv τ) (b : GuiBackend τ δ) (token : Option CStr)
    (isTx : Bool) :
    (b.handleSetFreq env token isTx).Rejects b ↔ ∀ v, parsed 0 longMax token = some v →
      ¬ Accepts env.toDopplerEnv (if isTx then ax100V3ParamTx else ax100V3ParamRx)
        (UInt32.ofInt v) := by
  cases token with
  | none =>
    refine ⟨fun _ v hv => (nomatch hv), fun _ => ?_⟩
    exact rejects_reply (isErrorLine_text rfl rfl)
  | some t =>
    simp only [parsed, Option.bind_some]
    cases hp : guiBackendParseLong t 0 longMax with
    | none =>
      refine ⟨fun _ v hv => (nomatch hv), fun _ => ?_⟩
      simp only [GuiBackend.handleSetFreq, guiBackendHandleSetFreq, hp, Option.bind_some]
      exact rejects_reply (isErrorLine_text rfl rfl)
    | some v =>
      obtain ⟨text, s', hs⟩ := handleSetFreq_some env.toStationEnv b.station isTx hp
      simp only [GuiBackend.handleSetFreq, hs, hp, Option.bind_some, Option.some.injEq, forall_eq']
      by_cases hok : Accepts env.toDopplerEnv (if isTx then ax100V3ParamTx else ax100V3ParamRx)
          (UInt32.ofInt v)
      · simp only [if_pos hok]
        exact ⟨fun h => absurd h (not_rejects rfl (head?_sendFmt _)), fun h => absurd hok h⟩
      · simp only [if_neg hok]
        refine ⟨fun _ => hok, fun _ => ⟨?_, sameControls_refl b, ?_⟩⟩
        · exact ⟨_, rfl, isErrorLine_text rfl rfl⟩
        · exact serialWrite_notMem_freqWrites _ _

/-! ## The other commands -/

theorem handleSetMode_rejects_iff (env : BackendEnv τ) (b : GuiBackend τ δ)
    (token : Option CStr) : (b.handleSetMode env token).Rejects b ↔ token = none := by
  cases token with
  | none => exact ⟨fun _ => rfl, fun _ => rejects_reply (isErrorLine_text rfl rfl)⟩
  | some t =>
    exact ⟨fun h => absurd h (not_rejects rfl (head?_sendFmt _)), fun h => (nomatch h)⟩

theorem handleSetEmergency_rejects_iff (env : BackendEnv τ) (b : GuiBackend τ δ)
    (token : Option CStr) : (b.handleSetEmergency env token).Rejects b ↔ token = none := by
  cases token with
  | none =>
    exact ⟨fun _ => rfl, fun _ => rejects_reply (isErrorLine_text rfl rfl)⟩
  | some t =>
    exact ⟨fun h => absurd h (not_rejects rfl (head?_sendFmt _)), fun h => (nomatch h)⟩

theorem handleSetAzel_rejects_iff [CDouble δ] (env : BackendEnv τ) (b : GuiBackend τ δ)
    (az el : Option CStr) : (b.handleSetAzel env az el).Rejects b ↔
      parsed (-360) 360 az = none ∨ parsed (-90) 180 el = none := by
  have hmissing : (CommandResult.reply b [cstr "ERROR Missing azimuth/elevation\n"]).Rejects b :=
    rejects_reply (isErrorLine_text rfl rfl)
  have hinvalid : (CommandResult.reply b [cstr "ERROR Invalid azimuth/elevation\n"]).Rejects b :=
    rejects_reply (isErrorLine_text rfl rfl)
  unfold GuiBackend.handleSetAzel
  rcases az with _ | t
  · exact ⟨fun _ => Or.inl rfl, fun _ => hmissing⟩
  · rcases el with _ | t'
    · exact ⟨fun _ => Or.inr rfl, fun _ => hmissing⟩
    · simp only [parsed, Option.bind_some]
      cases guiBackendParseLong t (-360) 360 with
      | none => exact ⟨fun _ => Or.inl rfl, fun _ => hinvalid⟩
      | some azimuth =>
        cases guiBackendParseLong t' (-90) 180 with
        | none => exact ⟨fun _ => Or.inr rfl, fun _ => hinvalid⟩
        | some elevation =>
          -- a move is not answered at all
          refine ⟨?_, ?_⟩
          · intro h
            obtain ⟨⟨m, hm, -⟩, -⟩ := h
            exact (nomatch hm)
          · intro h
            rcases h with h | h
            · exact (nomatch h)
            · exact (nomatch h)

theorem handleGetEvents_rejects_iff (b : GuiBackend τ δ) {token : Option CStr}
    (h : token ≠ none) :
    (CommandResult.reply b (guiBackendHandleGetEvents b.station.gui token)).Rejects b ↔
      parsed 1 64 token = none := by
  obtain ⟨t, rfl⟩ := Option.ne_none_iff_exists'.mp h
  simp only [parsed, Option.bind_some, guiBackendHandleGetEvents, Option.elim_some]
  cases hp : guiBackendParseLong t 1 64 with
  | none =>
    exact ⟨fun _ => rfl, fun _ => rejects_reply (isErrorLine_text rfl rfl)⟩
  | some n =>
    exact ⟨fun h => absurd h (not_rejects rfl (head?_sendFmt _)), fun h => (nomatch h)⟩

theorem handleSendPacket_rejects (env : BackendEnv τ) (b : GuiBackend τ δ) (tokens : List CStr) :
    (b.handleSendPacket env tokens).Rejects b := by
  obtain ⟨message, hmem, h⟩ := handleSendPacket_refused env b tokens
  rw [h]
  refine rejects_reply ?_
  simp only [List.mem_cons, List.not_mem_nil, or_false] at hmem
  rcases hmem with rfl | rfl | rfl | rfl
  all_goals exact isErrorLine_text rfl rfl

/-! ## Every line -/

variable [CDouble δ]

theorem handle_rejects_iff (env : BackendEnv τ) (b : GuiBackend τ δ) (command : GuiCommand)
    (cmd : CStr) {args : List CStr} (hinv : ¬ command.Takes args) :
    (b.handle env command (cmd :: args)).Rejects b ↔ command.RejectsInvalid env b args := by
  cases command with
  | ping | help | status | lastUplink | lastDownlink => exact absurd trivial hinv
  | setMode => exact handleSetMode_rejects_iff env b _
  | setEmergency => exact handleSetEmergency_rejects_iff env b _
  | setSat => exact handleSetSat_rejects_iff env b _
  | setTx => exact handleSetFreq_rejects_iff env b _ true
  | setRx => exact handleSetFreq_rejects_iff env b _ false
  | setAzel => exact handleSetAzel_rejects_iff env b _ _
  | sendPacket => exact ⟨fun _ => trivial, fun _ => handleSendPacket_rejects env b _⟩
  | getEvents => exact handleGetEvents_rejects_iff b fun h => hinv (Or.inl h)

/-- **Which invalid lines are rejected.** For every state, all surroundings and every line with a
word in it that is not a sentence of the documented language. -/
theorem invalid_rejected_iff (env : BackendEnv τ) (b : GuiBackend τ δ) {line : CStr}
    (hne : commandTokens line ≠ []) (hinv : ¬ Sentence (commandTokens line)) :
    (guiBackendHandleCommand env b line).Rejects b ↔ RejectsInvalid env b (commandTokens line) := by
  obtain ⟨cmd, args, htokens⟩ := List.exists_cons_of_ne_nil hne
  rw [htokens] at hinv ⊢
  unfold guiBackendHandleCommand
  simp only [htokens]
  cases hcmd : guiCommand cmd with
  | none =>
    refine ⟨fun _ cmd' args' command h hc => ?_, fun _ => ?_⟩
    · obtain ⟨rfl, rfl⟩ := List.cons.inj h
      rw [hcmd] at hc
      exact (nomatch hc)
    · exact rejects_reply (isErrorLine_text rfl rfl)
  | some command =>
    have htakes : ¬ command.Takes args := fun h => hinv ⟨cmd, args, command, rfl, hcmd, h⟩
    refine (handle_rejects_iff env b command cmd htakes).trans ⟨?_, ?_⟩
    · intro h cmd' args' command' heq hc
      obtain ⟨rfl, rfl⟩ := List.cons.inj heq
      rw [hcmd] at hc
      rwa [← Option.some.inj hc]
    · intro h
      exact h cmd args command rfl hcmd

/-- An azimuth of 400 degrees is rejected. -/
theorem invalid_azimuth_rejected :
    (guiBackendHandleCommand constBackendEnv (.init () : GuiBackend Unit Int)
      (cstr "SET_AZEL 400 10")).Rejects (.init ()) := by
  have htokens : commandTokens (cstr "SET_AZEL 400 10") =
      [cstr "SET_AZEL", cstr "400", cstr "10"] := by decide
  have hcmd : guiCommand (cstr "SET_AZEL") = some .setAzel := by decide
  refine (invalid_rejected_iff constBackendEnv _ (by rw [htokens]; simp) ?_).mpr ?_
  · rw [htokens]
    rintro ⟨cmd, args, command, h, hc, ht⟩
    obtain ⟨rfl, rfl⟩ := List.cons.inj h
    obtain rfl : GuiCommand.setAzel = command := Option.some.inj (hcmd.symm.trans hc)
    obtain ⟨⟨t, rfl', v, hv, -, hle⟩, -⟩ := ht
    obtain rfl : cstr "400" = t := Option.some.inj rfl'
    have h400 : documentedNumber (cstr "400") = some 400 := by decide
    obtain rfl : 400 = v := Option.some.inj (h400.symm.trans hv)
    omega
  · rw [htokens]
    intro cmd args command h hc
    obtain ⟨rfl, rfl⟩ := List.cons.inj h
    obtain rfl : GuiCommand.setAzel = command := Option.some.inj (hcmd.symm.trans hc)
    exact Or.inl (by decide)

/-- A misspelt value clears the emergency stop, and is answered with `OK`. -/
theorem misspelt_value_clears_stop :
    let b := commandStep (.init () : GuiBackend Unit Int)
      { env := constBackendEnv, line := cstr "SET_EMERGENCY true" }
    let r := guiBackendHandleCommand constBackendEnv b (cstr "SET_EMERGENCY ture")
    b.emergencyStopEngaged = true ∧ ¬ Sentence (commandTokens (cstr "SET_EMERGENCY ture")) ∧
      r.messages = [cstr "OK SET_EMERGENCY false\n"] ∧ r.backend.emergencyStopEngaged = false ∧
      ¬ r.Rejects b := by
  have htokens : commandTokens (cstr "SET_EMERGENCY ture") =
      [cstr "SET_EMERGENCY", cstr "ture"] := by decide
  have hcmd : guiCommand (cstr "SET_EMERGENCY") = some .setEmergency := by decide
  refine ⟨by decide, ?_, by decide, by decide, ?_⟩
  · rw [htokens]
    rintro ⟨cmd, args, command, h, hc, ht⟩
    obtain ⟨rfl, rfl⟩ := List.cons.inj h
    obtain rfl : GuiCommand.setEmergency = command := Option.some.inj (hcmd.symm.trans hc)
    obtain ⟨t, heq, w, hw, hcase⟩ := ht
    obtain rfl : cstr "ture" = t := Option.some.inj heq
    have hall : ∀ w ∈ emergencyWords, strcaseEq (cstr "ture") w = false := by decide
    rw [hall w hw] at hcase
    exact Bool.false_ne_true hcase
  · intro h
    exact absurd h.2.1.emergencyStop (by decide)

end CspTerm.Gui
