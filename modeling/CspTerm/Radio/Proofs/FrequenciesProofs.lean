import CspTerm.Lib.Run
import CspTerm.Radio.Frequencies
import CspTerm.Uplink.Proofs.SendPacketProofs

/-!
# When the copies of the radio frequency stay the same number

Every command acts on each direction of the link as its request says (`run_link`), so the copies
stay together along a run exactly when each command is harmless in the state it is given in.
-/

namespace CspTerm.Radio

open CString CspTerm.Csp CspTerm.Gui CspTerm.Uplink

variable {τ : Type}

/-! ## The requests -/

theorem mcsSatSel_link (env : DopplerEnv τ) (s : Station τ) (sel : UInt32) (d : Direction) :
    d.link { s with doppler := (mcsSatSel env s.doppler sel).2 } =
      (d.link s).apply ((RadioRequest.select sel).action env s d) := by
  have htx : ∀ n, UInt32.ofInt (satParameters n).tx = satTx n := fun _ => rfl
  have hrx : ∀ n, UInt32.ofInt (satParameters n).rx = satRx n := fun _ => rfl
  rcases mcsSatSel_cases env s.doppler sel with ⟨hok, hs⟩ | ⟨ht, hr, hs⟩ | ⟨ht, hs⟩
  · rw [hs]
    cases d <;>
      simp [Direction.link, Link.apply, RadioRequest.action, Direction.takesSat, Direction.satFreq,
        hok, hok.1, Doppler.select, htx, hrx]
  · have hno : ¬ AcceptsSat env (satSelected s.doppler.satNo sel) := fun h => hr h.2
    rw [hs]
    cases d <;>
      simp [Direction.link, Link.apply, RadioRequest.action, Direction.takesSat, Direction.satFreq,
        ht, hno, Doppler.select, htx]
  · have hno : ¬ AcceptsSat env (satSelected s.doppler.satNo sel) := fun h => ht h.1
    rw [hs]
    cases d <;>
      simp [Direction.link, Link.apply, RadioRequest.action, Direction.takesSat, Direction.satFreq,
        ht, hno, Doppler.select]

theorem ax100SetFreq_link (env : DopplerEnv τ) (s : Station τ) (freq : UInt32) (d' d : Direction) :
    d.link { s with doppler := { s.doppler with
        radio :=
          (ax100SetFreq d'.table env s.doppler.radio ax100V3Address ax100V3Timeout freq).2 } } =
      (d.link s).apply ((RadioRequest.write d' freq).action env s d) := by
  rw [ax100SetFreq_eq]
  by_cases h : Accepts env d'.table freq
  · rw [if_pos h]
    cases d' <;> cases d <;>
      simp_all [Direction.link, Link.apply, RadioRequest.action, Direction.table]
  · have hk : ¬ (d' = d ∧ Accepts env d.table freq) := by
      rintro ⟨rfl, h'⟩
      exact h h'
    simp only [if_neg h, RadioRequest.action, if_neg hk]
    rfl

/-- The effect of `SET_TX` and `SET_RX`. -/
theorem handleSetFreq_link (env : StationEnv τ) (s : Station τ) (token : CStr) (d' d : Direction) :
    d.link (guiBackendHandleSetFreq env s (some token) (d' = .tx)).2 =
      (d.link s).apply (((guiBackendParseLong token 0 longMax).map (RadioRequest.report d')).elim
        .keep (·.action env.toDopplerEnv s d)) := by
  unfold guiBackendHandleSetFreq
  cases hp : guiBackendParseLong token 0 longMax with
  | none => simp [hp, Link.apply]
  | some v =>
    by_cases h : Accepts env.toDopplerEnv d'.table (UInt32.ofInt v) <;> cases d' <;> cases d <;>
      simp_all [dopplerSetTxFreq_eq, dopplerSetRxFreq_eq, Direction.link, Link.apply,
        RadioRequest.action, Direction.table]

theorem handleSetSat_link (env : StationEnv τ) (s : Station τ) (token : CStr) (d : Direction) :
    d.link (guiBackendHandleSetSat env s (some token)).2 =
      (d.link s).apply (((guiBackendParseLong token 1 0xFF).map fun v =>
        RadioRequest.select (UInt32.ofInt v)).elim .keep (·.action env.toDopplerEnv s d)) := by
  unfold guiBackendHandleSetSat
  cases hp : guiBackendParseLong token 1 0xFF with
  | none => simp [hp, Link.apply]
  | some v =>
    simp only [hp, Option.map_some, Option.elim_some]
    rw [← mcsSatSel_link]
    split_ifs
    · rfl
    · cases d <;> simp [Direction.link]

theorem sendPacketExecute_link (env : UplinkEnv τ) (s : Station τ) (origin : Option CStr)
    (header : McsPacketHeader) (packet : CspPacket) (payload : Payload) (payloadLen : Nat)
    (d : Direction) :
    d.link (sendPacketExecute env s origin (some header) (some packet) (some payload)
        payloadLen).station =
      (d.link s).apply ((FreqCommand.uplink origin header packet payload payloadLen).action
        env.toDopplerEnv s d) := by
  have hgui : d.link (sendPacketExecute env s origin (some header) (some packet) (some payload)
      payloadLen).station = d.link (executed env s header packet payload payloadLen).station := by
    cases d <;> simp [Direction.link, sendPacketExecute]
  rw [hgui]
  unfold FreqCommand.action
  by_cases hd : header.dst ≤ 15
  · rw [executed, dispatch_of_le hd]
    simp only [FreqCommand.radioRequest, if_pos hd]
    rfl
  · rw [executed, dispatch_of_not_le hd, groundCommand_station]
    simp only [FreqCommand.radioRequest, if_neg hd]
    cases hc : requestedCommand (payload.read (sized packet payloadLen) payloadLen) with
    | none => rfl
    | some c =>
      cases c with
      | satRead => rfl
      | tleUpdate => cases d <;> rfl
      | satSel no => exact mcsSatSel_link env.toDopplerEnv s no d
      | setRxFreq freq => exact ax100SetFreq_link env.toDopplerEnv s freq .rx d
      | setTxFreq freq => exact ax100SetFreq_link env.toDopplerEnv s freq .tx d

theorem txFreqSet_link (env : StationEnv τ) (s : Station τ) (argv : List CStr) (d : Direction) :
    d.link (txFreqSet env s argv).2 =
      (d.link s).apply ((FreqCommand.txFreqSet argv).action env.toDopplerEnv s d) := by
  rcases argv with _ | ⟨_, _ | ⟨freq, _ | ⟨_, _⟩⟩⟩
  · rfl
  · rfl
  · refine Eq.trans ?_ (ax100SetFreq_link env.toDopplerEnv s (UInt32.ofInt (atoi freq)) .tx d)
    unfold txFreqSet
    dsimp only
    split_ifs <;> rfl
  · rfl

theorem rxFreqSet_link (env : StationEnv τ) (s : Station τ) (argv : List CStr) (d : Direction) :
    d.link (rxFreqSet env s argv).2 =
      (d.link s).apply ((FreqCommand.rxFreqSet argv).action env.toDopplerEnv s d) := by
  rcases argv with _ | ⟨_, _ | ⟨freq, _ | ⟨_, _⟩⟩⟩
  · rfl
  · rfl
  · refine Eq.trans ?_ (ax100SetFreq_link env.toDopplerEnv s (UInt32.ofInt (atoi freq)) .rx d)
    unfold rxFreqSet
    dsimp only
    split_ifs <;> rfl
  · rfl

theorem selSat_link (env : StationEnv τ) (s : Station τ) (argv : List CStr) (d : Direction) :
    d.link (selSat env s argv).2 =
      (d.link s).apply ((FreqCommand.mcsSatSel argv).action env.toDopplerEnv s d) := by
  rcases argv with _ | ⟨_, _ | ⟨no, _ | ⟨_, _⟩⟩⟩
  · rfl
  · rfl
  · refine Eq.trans ?_ (mcsSatSel_link env.toDopplerEnv s (UInt32.ofInt (atoi no)) d)
    unfold selSat
    dsimp only
    split_ifs <;> rfl
  · rfl

/-- **Every command acts on each direction of the link as its request says.** -/
theorem run_link (env : UplinkEnv τ) (s : Station τ) (c : FreqCommand) (d : Direction) :
    d.link (c.run env s) = (d.link s).apply (c.action env.toDopplerEnv s d) := by
  cases c with
  | setTx token =>
    cases token with
    | none => rfl
    | some t => exact handleSetFreq_link env.toStationEnv s t .tx d
  | setRx token =>
    cases token with
    | none => rfl
    | some t => exact handleSetFreq_link env.toStationEnv s t .rx d
  | setSat token =>
    cases token with
    | none => rfl
    | some t => exact handleSetSat_link env.toStationEnv s t d
  | uplink origin header packet payload payloadLen =>
    exact sendPacketExecute_link env s origin header packet payload payloadLen d
  | txFreqSet argv => exact txFreqSet_link env.toStationEnv s argv d
  | rxFreqSet argv => exact rxFreqSet_link env.toStationEnv s argv d
  | mcsSatSel argv => exact selSat_link env.toStationEnv s argv d

theorem satFreq_range (d : Direction) (satNo : UInt32) :
    0 ≤ d.satFreq satNo ∧ d.satFreq satNo < 2 ^ 32 := by
  have hp : satParameters satNo ∈ [lumelite1, lumelite2, lumelite3] := by
    unfold satParameters
    split_ifs <;> simp
  have hall : ∀ p ∈ [lumelite1, lumelite2, lumelite3],
      (0 ≤ p.tx ∧ p.tx < 2 ^ 32) ∧ 0 ≤ p.rx ∧ p.rx < 2 ^ 32 := by decide
  cases d
  · exact (hall _ hp).1
  · exact (hall _ hp).2

theorem action_valid (env : DopplerEnv τ) (s : Station τ) (c : FreqCommand) (d : Direction) :
    (c.action env s d).Valid := by
  unfold FreqCommand.action
  cases c.radioRequest with
  | none => trivial
  | some r =>
    cases r with
    | report d' v =>
      simp only [Option.elim_some, RadioRequest.action]
      split_ifs <;> trivial
    | write d' freq =>
      simp only [Option.elim_some, RadioRequest.action]
      split_ifs <;> trivial
    | select sel => exact satFreq_range d _

/-! ## Runs -/

theorem coherent_step_iff {s : Station τ} (h : Coherent s) (a : FreqCommand × UplinkEnv τ) :
    Coherent (freqStep s a) ↔ FreqHarmless s a := by
  unfold Coherent FreqHarmless freqStep
  refine forall_congr' ?_
  intro d
  rw [run_link]
  exact Link.coherent_apply_iff (h d) (action_valid _ _ _ _)

theorem coherent_init (tle : τ) : Coherent (Station.init tle) := by
  intro d f hf
  cases d <;> cases hf

/-- **When the copies of the radio frequency stay the same number.** For every sequence of the
commands, each with its own outcomes of the radio writes: in all states reached the copies agree in
both directions, if and only if each command is harmless in the state it is given in. -/
theorem coherent_run_iff (tle : τ) (cs : List (FreqCommand × UplinkEnv τ)) :
    (∀ pre, pre <+: cs → Coherent (pre.foldl freqStep (Station.init tle))) ↔
      Run.Guarded freqStep FreqHarmless (Station.init tle) cs :=
  Run.forall_prefix_iff (A := fun _ _ => True) (I := Coherent) (J := fun _ => True)
    (fun _ a h _ _ => coherent_step_iff h a) (fun _ _ _ _ _ _ => trivial)
    (coherent_init tle) trivial (Run.guarded_of_forall fun _ _ => trivial)

/-- Selecting satellite 2 on the console programs the radio and moves the base, and leaves the
frequency that the GUI shows at its initial 0. -/
theorem selection_not_shown :
    let s := freqStep (Station.init ()) (.mcsSatSel [cstr "mcs_sat_sel", cstr "2"], constEnv 0 1)
    s.doppler.radio.tx = some 435999500 ∧ s.doppler.txFreq = 435999500 ∧
      s.gui.rf.txFreqHz = 0 ∧ ¬ Coherent s := by
  refine ⟨by decide, by decide, by decide, ?_⟩
  intro h
  exact absurd (h .tx 435999500 (by decide)).2 (by decide)

end CspTerm.Radio
