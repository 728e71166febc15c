import CspTerm.Gui.Framing
import CspTerm.Gui.Grammar
import CspTerm.Lib.Numeral
import CspTerm.Radio.Frequencies

/-!
# The frequency that is acknowledged (`gui_backend.c`, `doppler_freq_correction.c`)

`SET_TX` and `SET_RX` hand a `long` to the radio as a `uint32_t`, keep it as an `int` for `STATUS`,
and print it as it was. This module says when the three are one number.
-/

namespace CspTerm.Gui

open CString CspTerm.Radio CspTerm.Uplink

variable {τ δ : Type}

/-- `is_tx ? "TX" : "RX"`. -/
def directionLabel : Direction → CStr
  | .tx => cstr "TX"
  | .rx => cstr "RX"

/-- The key of the frequency in a report. -/
def directionKey : Direction → CStr
  | .tx => cstr "tx_hz"
  | .rx => cstr "rx_hz"

/-- The acknowledgement `OK TX v` or `OK RX v`. -/
def okFrequency (d : Direction) (v : Int) : CStr :=
  cstr "OK " ++ directionLabel d ++ cstr " " ++ fmtInt v ++ cstr "\n"

/-- `SET_TX` or `SET_RX` with the word `token`. -/
def GuiBackend.setFreq (env : BackendEnv τ) (b : GuiBackend τ δ) (d : Direction) (token : CStr) :
    CommandResult τ δ :=
  b.handleSetFreq env (some token) (d = .tx)

/-- The only call of the radio writes `v`, and the radio takes it. -/
def RadioTakes (env : BackendEnv τ) (r : CommandResult τ δ) (d : Direction) (v : Int) : Prop :=
  ∃ f : UInt32, (f.toNat : Int) = v ∧ Accepts env.toDopplerEnv d.table f ∧
    r.actuations =
      [.rparamSetUint32 (freqWrite d.table ax100V3Address ax100V3Timeout f)] ∧
    (d.link r.backend.station).accepted = some f

/-- A report of the snapshot prints the frequency as `v`. -/
def Shows (snap : GuiBackendSnapshot δ) (d : Direction) (v : Int) : Prop :=
  ∃ members, rfDocument snap = .object members ∧ (directionKey d, .number (fmtInt v)) ∈ members

/-- The command programs the frequency that it acknowledges, and later reports show it until another
command changes it. A number that no 32 unsigned bits hold is refused without a write. -/
structure ProgramsAcknowledged (env : BackendEnv τ) (b : GuiBackend τ δ) (d : Direction)
    (token : CStr) : Prop where
  acknowledged : ∀ v, (b.setFreq env d token).messages = [okFrequency d v] →
    1 ≤ v ∧ v < 2 ^ 32 ∧ RadioTakes env (b.setFreq env d token) d v ∧
      ∀ env' b', b'.station.gui.rf = (b.setFreq env d token).backend.station.gui.rf →
        Shows ((b' : GuiBackend τ δ).snapshot env') d v
  refused : ∀ n, baseZeroNumber (token.dropWhile isSpace) = some n → n < 0 ∨ 2 ^ 32 ≤ n →
    (∃ message, (b.setFreq env d token).messages = [message] ∧ IsErrorLine message) ∧
      (b.setFreq env d token).actuations = []

/-- A number that an `int` holds, one that is 0 in 32 bits, or one of 32 bits that the radio does not
take. -/
def FrequencyFits (env : BackendEnv τ) (d : Direction) (n : Int) : Prop :=
  n < 2 ^ 31 ∨ n % 2 ^ 32 = 0 ∨
    (n < 2 ^ 32 ∧ ¬ Accepts env.toDopplerEnv d.table (UInt32.ofInt n))

end CspTerm.Gui
