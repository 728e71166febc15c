import CspTerm.Gui.Commands
import CspTerm.Radio.Link
import CspTerm.Radio.Proofs.DopplerProofs

/-!
# What `SET_SAT` answers

`SET_SAT` answers from the result of `mcs_sat_sel` alone, so its answer is as truthful as that
result.
-/

namespace CspTerm.Gui

open CString CspTerm.Radio

variable {τ : Type}

/-- `SET_SAT` with a token that reads as `sel` answers `OK SATELLITE` only if `sel` is the selected
satellite then. -/
def SetSatTruthful (env : StationEnv τ) (s : Station τ) (sel : UInt32) : Prop :=
  ∀ token, guiBackendParseLong token 1 0xFF = some (sel.toNat : Int) →
    okSatellite sel.toNat ∈ (guiBackendHandleSetSat env s (some token)).1 →
    (guiBackendHandleSetSat env s (some token)).2.doppler.satNo = sel

theorem ofInt_toNat (sel : UInt32) : UInt32.ofInt (sel.toNat : Int) = sel := by
  apply UInt32.toNat_inj.mp
  have hlt := sel.toNat_lt
  have := toNat_ofInt sel.toNat
  omega

theorem okSatellite_ne (value : Int) :
    okSatellite value ≠ cstr "ERROR Unable to select satellite\n" := by
  intro h
  have hhead := congrArg List.head? h
  have hO : (okSatellite value).head? = some 79 := rfl
  rw [hO] at hhead
  exact absurd hhead (by decide)

/-- `SET_SAT` answers `OK SATELLITE` only after `mcs_sat_sel` returned 1. -/
theorem setSat_ok {env : StationEnv τ} {s : Station τ} {token : CStr} {sel : UInt32}
    (hp : guiBackendParseLong token 1 0xFF = some (sel.toNat : Int))
    (hok : okSatellite sel.toNat ∈ (guiBackendHandleSetSat env s (some token)).1) :
    (mcsSatSel env.toDopplerEnv s.doppler sel).1 = 1 ∧
      (guiBackendHandleSetSat env s (some token)).2.doppler =
        (mcsSatSel env.toDopplerEnv s.doppler sel).2 := by
  have hone : (mcsSatSel env.toDopplerEnv s.doppler sel).1 = 0 ∨
      (mcsSatSel env.toDopplerEnv s.doppler sel).1 = 1 := by
    rw [mcsSatSel_result]
    split_ifs
    · exact Or.inr rfl
    · exact Or.inl rfl
  unfold guiBackendHandleSetSat at hok ⊢
  simp only [hp, ofInt_toNat] at hok ⊢
  rcases hone with h0 | h1
  · rw [if_pos h0] at hok
    exact absurd (List.mem_singleton.mp hok) (okSatellite_ne _)
  · rw [if_neg (by omega)]
    exact ⟨h1, rfl⟩

/-- **When satellite selection is all-or-nothing and truthful, `SET_SAT` included.** For every prior
state, every selection and every outcome of the two radio writes. -/
theorem selection_truthful_iff (env : StationEnv τ) (s : Station τ) (sel : UInt32) :
    (SelectionTruthful env.toDopplerEnv s.doppler sel ∧ SetSatTruthful env s sel) ↔
      SelectionSafe env.toDopplerEnv s.doppler sel := by
  rw [← mcsSatSel_truthful_iff]
  refine ⟨fun h => h.1, fun h => ⟨h, ?_⟩⟩
  intro token hp hok
  obtain ⟨h1, hd⟩ := setSat_ok hp hok
  rw [hd]
  exact (h.1 h1).2.2.1

/-- `SET_SAT 4` is answered with success, and satellite 1 stays selected. -/
theorem satellite_four_acknowledged :
    let env : StationEnv Unit :=
      { rparamSetUint32 := fun _ => 1, tleupdate := fun _ tle => tle, clock := ⟨0, 0⟩ }
    (guiBackendHandleSetSat env (Station.init ()) (some (cstr "4"))).1 =
        [cstr "OK SATELLITE 4\n"] ∧
      (guiBackendHandleSetSat env (Station.init ()) (some (cstr "4"))).2.doppler.satNo = 1 ∧
      ¬ SelectionTruthful env.toDopplerEnv (Station.init ()).doppler 4 := by
  refine ⟨by decide, by decide, ?_⟩
  intro h
  exact absurd (h.1 (by decide)).2.1 (by decide)

end CspTerm.Gui
