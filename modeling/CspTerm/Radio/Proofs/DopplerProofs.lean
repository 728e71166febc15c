import CspTerm.Radio.Doppler

/-!
# What the frequency and selection functions do

One lemma for each outcome of a radio write, and from them the three outcomes of `mcs_sat_sel`. The
selection is all-or-nothing and truthful only under the condition of `mcsSatSel_truthful_iff`: the
selected number, the base frequencies and the element set are replaced before the radio is asked,
and a number out of range does not stop the function.
-/

namespace CspTerm.Radio

open CString

variable {τ : Type}

/-! ## One radio write -/

@[simp] theorem accept_tx (r : Ax100) (node : UInt8) (timeout freq : UInt32) :
    r.accept (freqWrite ax100V3ParamTx node timeout freq) = { r with tx := some freq } := rfl

@[simp] theorem accept_rx (r : Ax100) (node : UInt8) (timeout freq : UInt32) :
    r.accept (freqWrite ax100V3ParamRx node timeout freq) = { r with rx := some freq } := rfl

theorem ax100SetFreq_eq (table : UInt16) (env : DopplerEnv τ) (r : Ax100) (freq : UInt32) :
    ax100SetFreq table env r ax100V3Address ax100V3Timeout freq =
      if Accepts env table freq then
        (1, r.accept (freqWrite table ax100V3Address ax100V3Timeout freq))
      else (0, r) := by
  unfold ax100SetFreq
  by_cases h : Accepts env table freq
  · obtain ⟨h0, hp⟩ := h
    rw [if_neg h0, if_neg (by omega), if_pos ⟨h0, hp⟩]
  · rw [if_neg h]
    by_cases h0 : freq = 0
    · rw [if_pos h0]
    · have hp : ¬ 0 < env.rparamSetUint32 (freqWrite table ax100V3Address ax100V3Timeout freq) :=
        fun hp => h ⟨h0, hp⟩
      rw [if_neg h0, if_pos (by omega)]

/-- `ax100_set_tx_freq` at the node and timeout that all callers use. -/
theorem ax100SetTxFreq_eq (env : DopplerEnv τ) (r : Ax100) (freq : UInt32) :
    ax100SetTxFreq env r ax100V3Address ax100V3Timeout freq =
      if Accepts env ax100V3ParamTx freq then (1, { r with tx := some freq }) else (0, r) :=
  ax100SetFreq_eq ax100V3ParamTx env r freq

theorem ax100SetRxFreq_eq (env : DopplerEnv τ) (r : Ax100) (freq : UInt32) :
    ax100SetRxFreq env r ax100V3Address ax100V3Timeout freq =
      if Accepts env ax100V3ParamRx freq then (1, { r with rx := some freq }) else (0, r) :=
  ax100SetFreq_eq ax100V3ParamRx env r freq

theorem dopplerSetTxFreq_eq (env : DopplerEnv τ) (d : Doppler τ) (freq : UInt32) :
    dopplerSetTxFreq env d freq =
      if Accepts env ax100V3ParamTx freq then
        (1, { d with radio := { d.radio with tx := some freq }, txFreq := toInt32 freq.toNat })
      else (0, d) := by
  unfold dopplerSetTxFreq
  rw [ax100SetTxFreq_eq]
  split_ifs <;> rfl

theorem dopplerSetRxFreq_eq (env : DopplerEnv τ) (d : Doppler τ) (freq : UInt32) :
    dopplerSetRxFreq env d freq =
      if Accepts env ax100V3ParamRx freq then
        (1, { d with radio := { d.radio with rx := some freq }, rxFreq := toInt32 freq.toNat })
      else (0, d) := by
  unfold dopplerSetRxFreq
  rw [ax100SetRxFreq_eq]
  split_ifs <;> rfl

/-! ## Satellite selection -/

/-- **The three outcomes of `mcs_sat_sel`.** The selection is made in each of them; the radio has
both frequencies, only the first, or neither. -/
theorem mcsSatSel_cases (env : DopplerEnv τ) (d : Doppler τ) (sel : UInt32) :
    (AcceptsSat env (satSelected d.satNo sel) ∧ mcsSatSel env d sel =
      (1, { d.select env sel with
        radio := { tx := some (satTx (satSelected d.satNo sel))
                   rx := some (satRx (satSelected d.satNo sel)) } })) ∨
    (Accepts env ax100V3ParamTx (satTx (satSelected d.satNo sel)) ∧
      ¬ Accepts env ax100V3ParamRx (satRx (satSelected d.satNo sel)) ∧ mcsSatSel env d sel =
      (0, { d.select env sel with
        radio := { d.radio with tx := some (satTx (satSelected d.satNo sel)) } })) ∨
    (¬ Accepts env ax100V3ParamTx (satTx (satSelected d.satNo sel)) ∧
      mcsSatSel env d sel = (0, d.select env sel)) := by
  have htx : UInt32.ofInt (d.select env sel).txFreq = satTx (satSelected d.satNo sel) := rfl
  have hrx : UInt32.ofInt (d.select env sel).rxFreq = satRx (satSelected d.satNo sel) := rfl
  unfold mcsSatSel
  simp only [ax100SetTxFreq_eq, ax100SetRxFreq_eq, htx, hrx]
  by_cases ht : Accepts env ax100V3ParamTx (satTx (satSelected d.satNo sel))
  · by_cases hr : Accepts env ax100V3ParamRx (satRx (satSelected d.satNo sel))
    · exact Or.inl ⟨⟨ht, hr⟩, by simp [ht, hr]⟩
    · refine Or.inr (Or.inl ⟨ht, hr, ?_⟩)
      simp only [ht, hr, if_true, if_false, one_ne_zero]
      rfl
  · exact Or.inr (Or.inr ⟨ht, by simp [ht]⟩)

/-- The result of `mcs_sat_sel`: whether the radio accepts both frequencies. -/
theorem mcsSatSel_result (env : DopplerEnv τ) (d : Doppler τ) (sel : UInt32) :
    (mcsSatSel env d sel).1 = if AcceptsSat env (satSelected d.satNo sel) then 1 else 0 := by
  rcases mcsSatSel_cases env d sel with ⟨hok, hs⟩ | ⟨-, hrx, hs⟩ | ⟨htx, hs⟩
  · rw [hs, if_pos hok]
  · rw [hs, if_neg fun h => hrx h.2]
  · rw [hs, if_neg fun h => htx h.1]

theorem mcsSatSel_eq_one_iff {env : DopplerEnv τ} {d : Doppler τ} {sel : UInt32} :
    (mcsSatSel env d sel).1 = 1 ↔ AcceptsSat env (satSelected d.satNo sel) := by
  rw [mcsSatSel_result]
  split_ifs with h
  · exact ⟨fun _ => h, fun _ => rfl⟩
  · exact ⟨fun h0 => absurd h0 zero_ne_one, fun hok => absurd hok h⟩

/-- The selection and the elements, whatever the radio does. -/
theorem mcsSatSel_select (env : DopplerEnv τ) (d : Doppler τ) (sel : UInt32) :
    (mcsSatSel env d sel).2.satNo = satSelected d.satNo sel ∧
      (mcsSatSel env d sel).2.tle =
        env.tleupdate (satParameters (satSelected d.satNo sel)).elementId d.tle := by
  rcases mcsSatSel_cases env d sel with ⟨-, hs⟩ | ⟨-, -, hs⟩ | ⟨-, hs⟩
  all_goals
    rw [hs]
    exact ⟨rfl, rfl⟩

/-- The frequencies of a satellite, base and radio. -/
def Doppler.AtFrequenciesOf (d : Doppler τ) (satNo : UInt32) : Prop :=
  d.txFreq = (satParameters satNo).tx ∧ d.rxFreq = (satParameters satNo).rx ∧
    d.radio.tx = some (satTx satNo) ∧ d.radio.rx = some (satRx satNo)

/-- The selection and all frequencies of `d` are those of `d'`. -/
def Doppler.SameSelection (d d' : Doppler τ) : Prop :=
  d.satNo = d'.satNo ∧ d.txFreq = d'.txFreq ∧ d.rxFreq = d'.rxFreq ∧ d.radio = d'.radio

/-- What a call of `mcs_sat_sel` promises: result 1 for a satellite that exists, is now selected
and whose frequencies the radio accepted; result 0 for no change. -/
def SelectionTruthful (env : DopplerEnv τ) (d : Doppler τ) (sel : UInt32) : Prop :=
  ((mcsSatSel env d sel).1 = 1 → 1 ≤ sel ∧ sel ≤ maxSatSize ∧ (mcsSatSel env d sel).2.satNo = sel ∧
    (mcsSatSel env d sel).2.AtFrequenciesOf sel ∧ AcceptsSat env sel) ∧
  ((mcsSatSel env d sel).1 = 0 → (mcsSatSel env d sel).2.SameSelection d)

/-- The station already is on satellite `satNo` as far as the call gets: in its variables, and on
the transmit frequency if the radio accepts that. -/
def Doppler.AlreadyOn (env : DopplerEnv τ) (d : Doppler τ) (satNo : UInt32) : Prop :=
  d.satNo = satNo ∧ d.txFreq = (satParameters satNo).tx ∧ d.rxFreq = (satParameters satNo).rx ∧
    (Accepts env ax100V3ParamTx (satTx satNo) → d.radio.tx = some (satTx satNo))

/-- The calls that keep the promise: a satellite that exists, with a radio that accepts it, or a
radio that refuses when the station was on that satellite before. -/
def SelectionSafe (env : DopplerEnv τ) (d : Doppler τ) (sel : UInt32) : Prop :=
  if AcceptsSat env (satSelected d.satNo sel) then 1 ≤ sel ∧ sel ≤ maxSatSize
  else d.AlreadyOn env (satSelected d.satNo sel)

theorem satSelected_of_le {satNo sel : UInt32} (h : sel ≤ maxSatSize) :
    satSelected satNo sel = sel := if_pos h

/-- **When satellite selection is all-or-nothing and truthful.** -/
theorem mcsSatSel_truthful_iff (env : DopplerEnv τ) (d : Doppler τ) (sel : UInt32) :
    SelectionTruthful env d sel ↔ SelectionSafe env d sel := by
  unfold SelectionTruthful SelectionSafe
  rcases mcsSatSel_cases env d sel with ⟨hok, hs⟩ | ⟨htx, hrx, hs⟩ | ⟨htx, hs⟩
  · rw [hs, if_pos hok]
    constructor
    · intro h
      obtain ⟨h1, h3, -⟩ := h.1 rfl
      exact ⟨h1, h3⟩
    · rintro ⟨h1, h3⟩
      refine ⟨fun _ => ⟨h1, h3, ?_⟩, fun h => absurd h (by simp)⟩
      rw [satSelected_of_le h3] at hok
      simp only [Doppler.select, Doppler.AtFrequenciesOf, satSelected_of_le h3]
      exact ⟨trivial, ⟨trivial, trivial, trivial, trivial⟩, hok⟩
  · rw [hs, if_neg fun h => hrx h.2]
    simp only [zero_ne_one, false_implies, true_and, true_implies, Doppler.SameSelection,
      Doppler.AlreadyOn, Doppler.select, htx]
    constructor
    · rintro ⟨h1, h2, h3, h4⟩
      exact ⟨h1.symm, h2.symm, h3.symm, by rw [← h4]⟩
    · rintro ⟨h1, h2, h3, h4⟩
      exact ⟨h1.symm, h2.symm, h3.symm, by rw [← h4]⟩
  · rw [hs, if_neg fun h => htx h.1]
    simp only [zero_ne_one, false_implies, true_and, true_implies, Doppler.SameSelection,
      Doppler.AlreadyOn, Doppler.select, htx, and_true]
    exact ⟨fun ⟨h1, h2, h3⟩ => ⟨h1.symm, h2.symm, h3.symm⟩,
      fun ⟨h1, h2, h3⟩ => ⟨h1.symm, h2.symm, h3.symm⟩⟩

end CspTerm.Radio
