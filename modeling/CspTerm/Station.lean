import CspTerm.Gui.State
import CspTerm.Radio.Doppler

/-!
# The ground station

The state that the GUI backend, the MCS uplink and the operator's console share: the radio with the
selected satellite, and what the GUI is told.
-/

namespace CspTerm

open CspTerm.Radio CspTerm.Gui

/-- The frequencies and the selected satellite, and what the GUI is told about them. -/
structure Station (τ : Type) where
  doppler : Doppler τ
  gui : GuiBackendState
deriving DecidableEq, Repr

def Station.init {τ : Type} (tle : τ) : Station τ :=
  { doppler := .init tle, gui := .init }

/-- The surroundings of one command: the radio, the orbital elements and the wall clock. -/
structure StationEnv (τ : Type) extends DopplerEnv τ where
  clock : Timespec

end CspTerm
