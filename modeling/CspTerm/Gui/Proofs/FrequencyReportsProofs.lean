import CspTerm.Gui.FrequencyReports
import CspTerm.Gui.Proofs.FramingProofs
import CspTerm.Gui.Proofs.NumeralsProofs
import CspTerm.Lib.FieldWidth

/-!
# When the acknowledged frequency is the programmed one

A command with a number either is refused by the radio or leaves it, the copy for `STATUS` and the
answer with that number, each cut to the bits of its own type.
-/

namespace CspTerm.Gui

open CString CspTerm.Radio CspTerm.Uplink

variable {τ δ : Type}

/-! ## The three outcomes -/

/-- A word that is no frequency. -/
theorem setFreq_invalid (env : BackendEnv τ) (b : GuiBackend τ δ) (d : Direction) {token : CStr}
    (hp : guiBackendParseLong token 0 longMax = none) :
    (b.setFreq env d token).messages = [cstr "ERROR Invalid frequency\n"] ∧
      (b.setFreq env d token).actuations = [] := by
  simp only [GuiBackend.setFreq, GuiBackend.handleSetFreq, guiBackendHandleSetFreq, hp,
    Option.bind_some, Option.elim_none, and_self]

/-- A frequency that the radio does not take. -/
theorem setFreq_refused (env : BackendEnv τ) (b : GuiBackend τ δ) (d : Direction) {token : CStr}
    {n : Int} (hp : guiBackendParseLong token 0 longMax = some n)
    (hrefused : ¬ Accepts env.toDopplerEnv d.table (UInt32.ofInt n)) :
    (b.setFreq env d token).messages = [cstr "ERROR Frequency configuration failed\n"] ∧
      (b.setFreq env d token).actuations = freqWrites d.table (UInt32.ofInt n) := by
  cases d
  all_goals
    simp only [Direction.table] at hrefused
    simp [GuiBackend.setFreq, GuiBackend.handleSetFreq, guiBackendHandleSetFreq, hp,
      dopplerSetTxFreq_eq, dopplerSetRxFreq_eq, hrefused, Direction.table]

/-- The acknowledgement is not cut. -/
theorem guiBackendSendFmt_okFrequency (d : Direction) {n : Int} (h0 : 0 ≤ n) (hmax : n ≤ longMax) :
    guiBackendSendFmt (okFrequency d n) = okFrequency d n := by
  apply guiBackendSendFmt_of_lt
  unfold longMax at hmax
  have hlen : (fmtInt n).length ≤ 20 + 1 := length_fmtInt_le (by omega) (by omega)
  have hok : (cstr "OK ").length = 3 := rfl
  have hlabel : (directionLabel d).length = 2 := by cases d <;> rfl
  have hblank : (cstr " ").length = 1 := rfl
  have hend : (cstr "\n").length = 1 := rfl
  simp only [okFrequency, List.length_append, hok, hlabel, hblank, hend, guiBackendBufferSize]
  omega

/-- A frequency that the radio takes. -/
theorem setFreq_accepted (env : BackendEnv τ) (b : GuiBackend τ δ) (d : Direction) {token : CStr}
    {n : Int} (hp : guiBackendParseLong token 0 longMax = some n)
    (haccepted : Accepts env.toDopplerEnv d.table (UInt32.ofInt n)) :
    (b.setFreq env d token).messages = [okFrequency d n] ∧
      (b.setFreq env d token).actuations = [.rparamSetUint32
        (freqWrite d.table ax100V3Address ax100V3Timeout (UInt32.ofInt n))] ∧
      d.link (b.setFreq env d token).backend.station =
        { accepted := some (UInt32.ofInt n), base := toInt32 (UInt32.ofInt n).toNat,
          shown := toInt32 n } := by
  obtain ⟨h0, hmax⟩ := parseLong_range hp
  have hmessage := guiBackendSendFmt_okFrequency d h0 hmax
  have hnonzero := haccepted.1
  cases d
  all_goals
    simp only [Direction.table] at haccepted
    simp only [okFrequency, directionLabel] at hmessage
    simp [GuiBackend.setFreq, GuiBackend.handleSetFreq, guiBackendHandleSetFreq, hp,
      dopplerSetTxFreq_eq, dopplerSetRxFreq_eq, haccepted, Direction.table, freqWrites, hnonzero,
      okFrequency, directionLabel, hmessage, Direction.link, -List.append_assoc]

/-! ## Reading the answer and the report -/

theorem okFrequency_injective {d : Direction} {v w : Int} (h : okFrequency d v = okFrequency d w) :
    v = w := by
  simp only [okFrequency, List.append_assoc] at h
  have hfmt := List.append_cancel_left (List.append_cancel_left (List.append_cancel_left h))
  exact fmtInt_injective (List.append_cancel_right hfmt)

/-- A line that is an error is no acknowledgement. -/
theorem okFrequency_ne_error (d : Direction) (v : Int) {message : CStr} (h : IsErrorLine message) :
    message ≠ okFrequency d v := by
  obtain ⟨reason, rfl, -⟩ := h
  intro heq
  have hhead := congrArg List.head? heq
  exact absurd (Option.some.inj hhead) (by decide)

/-- A report shows the frequency that the state keeps for it. -/
theorem shows_iff (env : BackendEnv τ) (b : GuiBackend τ δ) (d : Direction) (v : Int) :
    Shows (b.snapshot env) d v ↔ (d.link b.station).shown = v := by
  have htx : cstr "tx_hz" ≠ cstr "rx_hz" := by decide
  constructor
  · rintro ⟨members, hmembers, hmem⟩
    obtain rfl := Json.Value.object.inj hmembers
    cases d with
    | tx =>
      rcases List.mem_cons.mp hmem with h | h
      · exact (fmtInt_injective (Json.Value.number.inj (Prod.mk.inj h).2)).symm
      · exact absurd (Prod.mk.inj (List.mem_singleton.mp h)).1 htx
    | rx =>
      rcases List.mem_cons.mp hmem with h | h
      · exact absurd (Prod.mk.inj h).1.symm htx
      · exact (fmtInt_injective
          (Json.Value.number.inj (Prod.mk.inj (List.mem_singleton.mp h)).2)).symm
  · rintro rfl
    refine ⟨_, rfl, ?_⟩
    cases d with
    | tx => exact List.mem_cons_self
    | rx => exact List.mem_cons_of_mem _ List.mem_cons_self

/-! ## When the command tells the truth -/

theorem programsAcknowledged_of_error {env : BackendEnv τ} {b : GuiBackend τ δ} {d : Direction}
    {token : CStr} {message : CStr} (hmessages : (b.setFreq env d token).messages = [message])
    (herror : IsErrorLine message)
    (hwrites : ∀ n, baseZeroNumber (token.dropWhile isSpace) = some n → n < 0 ∨ 2 ^ 32 ≤ n →
      (b.setFreq env d token).actuations = []) : ProgramsAcknowledged env b d token := by
  refine ⟨fun v hv => ?_, fun n hn hout => ⟨⟨message, hmessages, herror⟩, hwrites n hn hout⟩⟩
  rw [hmessages] at hv
  exact absurd (List.cons.inj hv).1 (okFrequency_ne_error d v herror)

/-- A frequency that the radio takes is acknowledged as what it is when an `int` holds it. -/
theorem programsAcknowledged_accepted_iff {env : BackendEnv τ} {b : GuiBackend τ δ} {d : Direction}
    {token : CStr} {n : Int} (hp : guiBackendParseLong token 0 longMax = some n)
    (haccepted : Accepts env.toDopplerEnv d.table (UInt32.ofInt n)) :
    ProgramsAcknowledged env b d token ↔ n < 2 ^ 31 := by
  obtain ⟨hmessages, hactuations, hlink⟩ := setFreq_accepted env b d hp haccepted
  obtain ⟨h0, -⟩ := parseLong_range hp
  have hbits := toNat_ofInt n
  have hshown : (d.link (b.setFreq env d token).backend.station).shown = toInt32 n := by rw [hlink]
  constructor
  · intro h
    obtain ⟨-, hlt, -, hshows⟩ := h.acknowledged n hmessages
    have hint := (shows_iff env _ d n).mp (hshows env _ rfl)
    rw [hshown] at hint
    unfold toInt32 at hint
    omega
  · intro hlt
    have hnonzero : (UInt32.ofInt n).toNat ≠ 0 := by
      intro hzero
      exact haccepted.1 (UInt32.toNat_inj.mp hzero)
    have hn : ((UInt32.ofInt n).toNat : Int) = n := by omega
    refine ⟨?_, ?_⟩
    · intro v hv
      obtain rfl : n = v := okFrequency_injective (List.cons.inj (hmessages.symm.trans hv)).1
      refine ⟨by omega, by omega, ⟨_, hn, haccepted, hactuations, by rw [hlink]⟩, ?_⟩
      intro env' b' hrf
      apply (shows_iff env' b' d n).mpr
      have hsame : (d.link b'.station).shown =
          (d.link (b.setFreq env d token).backend.station).shown := by
        cases d <;> simp [Direction.link, hrf]
      rw [hsame, hshown]
      exact toInt32_of_range (by omega) hlt
    · intro m hm hout
      have hread := (guiBackendParseLong_eq_some_iff (by decide) (le_refl _) token n).mp hp
      obtain rfl := Option.some.inj (hm.symm.trans hread.1)
      omega

/-- A frequency that the radio does not take is harmless when it is not written or has 32 bits. -/
theorem programsAcknowledged_refused_iff {env : BackendEnv τ} {b : GuiBackend τ δ} {d : Direction}
    {token : CStr} {n : Int} (hp : guiBackendParseLong token 0 longMax = some n)
    (hrefused : ¬ Accepts env.toDopplerEnv d.table (UInt32.ofInt n)) :
    ProgramsAcknowledged env b d token ↔ n % 2 ^ 32 = 0 ∨ n < 2 ^ 32 := by
  obtain ⟨hmessages, hactuations⟩ := setFreq_refused env b d hp hrefused
  have hread := (guiBackendParseLong_eq_some_iff (by decide) (le_refl _) token n).mp hp
  have hbits := toNat_ofInt n
  have hzero : UInt32.ofInt n = 0 ↔ n % 2 ^ 32 = 0 := by
    rw [← UInt32.toNat_inj]
    show (UInt32.ofInt n).toNat = 0 ↔ _
    omega
  constructor
  · intro h
    by_contra hnot
    rw [not_or, not_lt] at hnot
    have hnone := (h.refused n hread.1 (Or.inr hnot.2)).2
    rw [hactuations, freqWrites, if_neg (fun h0 => hnot.1 (hzero.mp h0))] at hnone
    cases hnone
  · intro h
    apply programsAcknowledged_of_error hmessages (isErrorLine_text rfl rfl)
    intro m hm hout
    obtain rfl := Option.some.inj (hm.symm.trans hread.1)
    rcases h with h | h
    · rw [hactuations, freqWrites, if_pos (hzero.mpr h)]
    · omega

/-- **`SET_TX` and `SET_RX` program what they acknowledge** exactly when the number they are given
fits an `int`, is 0 in 32 bits, or is one of 32 bits that the radio refuses. -/
theorem programsAcknowledged_iff (env : BackendEnv τ) (b : GuiBackend τ δ) (d : Direction)
    (token : CStr) : ProgramsAcknowledged env b d token ↔
      ∀ n, baseZeroNumber (token.dropWhile isSpace) = some n → 0 ≤ n → n ≤ longMax →
        FrequencyFits env d n := by
  have hread : ∀ n, guiBackendParseLong token 0 longMax = some n ↔
      baseZeroNumber (token.dropWhile isSpace) = some n ∧ 0 ≤ n ∧ n ≤ longMax :=
    guiBackendParseLong_eq_some_iff (by decide) (le_refl _) token
  cases hp : guiBackendParseLong token 0 longMax with
  | none =>
    obtain ⟨hmessages, hactuations⟩ := setFreq_invalid env b d hp
    refine ⟨fun _ n hn h0 hmax => ?_, fun _ => ?_⟩
    · rw [(hread n).mpr ⟨hn, h0, hmax⟩] at hp
      cases hp
    · exact programsAcknowledged_of_error hmessages (isErrorLine_text rfl rfl) fun _ _ _ =>
        hactuations
  | some n =>
    obtain ⟨hn, h0, hmax⟩ := (hread n).mp hp
    have honly : (∀ m, baseZeroNumber (token.dropWhile isSpace) = some m → 0 ≤ m → m ≤ longMax →
        FrequencyFits env d m) ↔ FrequencyFits env d n := by
      constructor
      · intro h
        exact h n hn h0 hmax
      · intro h m hm _ _
        rwa [Option.some.inj (hm.symm.trans hn)]
    rw [honly]
    by_cases haccepted : Accepts env.toDopplerEnv d.table (UInt32.ofInt n)
    · rw [programsAcknowledged_accepted_iff hp haccepted]
      have hnonzero : (UInt32.ofInt n).toNat ≠ 0 := fun hzero =>
        haccepted.1 (UInt32.toNat_inj.mp hzero)
      have hbits := toNat_ofInt n
      constructor
      · exact Or.inl
      · rintro (h | h | ⟨-, h⟩)
        · exact h
        · omega
        · exact absurd haccepted h
    · rw [programsAcknowledged_refused_iff hp haccepted]
      constructor
      · rintro (h | h)
        · exact Or.inr (Or.inl h)
        · exact Or.inr (Or.inr ⟨h, haccepted⟩)
      · rintro (h | h | ⟨h, -⟩)
        · exact Or.inr (by omega)
        · exact Or.inl h
        · exact Or.inr h

/-- A number that is 1 in 32 bits is acknowledged as it was given, and the radio is set to 1 Hz. -/
theorem acknowledged_frequency_wraps :
    let b : GuiBackend Unit Int := .init ()
    let r := b.setFreq constBackendEnv .tx (cstr "4294967297")
    r.messages = [cstr "OK TX 4294967297\n"] ∧
      r.actuations =
        [.rparamSetUint32 (freqWrite ax100V3ParamTx ax100V3Address ax100V3Timeout 1)] ∧
      ¬ ∀ (env : BackendEnv Unit) (b : GuiBackend Unit Int) (d : Direction) (token : CStr),
        ProgramsAcknowledged env b d token := by
  intro b r
  have hp : guiBackendParseLong (cstr "4294967297") 0 longMax = some 4294967297 := by decide
  have haccepted : Accepts (constBackendEnv).toDopplerEnv Direction.tx.table
      (UInt32.ofInt 4294967297) := by decide
  obtain ⟨hmessages, hactuations, -⟩ := setFreq_accepted constBackendEnv b .tx hp haccepted
  have hok : okFrequency .tx 4294967297 = cstr "OK TX 4294967297\n" := by decide
  refine ⟨hok ▸ hmessages, hactuations, ?_⟩
  intro h
  have hlt := (programsAcknowledged_accepted_iff hp haccepted).mp (h constBackendEnv b .tx _)
  omega

end CspTerm.Gui
