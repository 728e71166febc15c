import CspTerm.Gui.HandleCommand

/-!
# What the telemetry says about the rotator (`serial_rotator.c`, `gui_backend.c`)

The backend hears of the rotator only from `serial_set_az_el`. `SET_AZEL` has no answer, so an
operator learns from the event `Rotator command` and from the antenna state whether a command
reached the rotator.
-/

namespace CspTerm.Gui

open CString CspTerm.Rotator

variable {τ δ : Type} [CDouble δ]

/-- One call of `serial_set_az_el`, with the surroundings it meets. -/
structure RotatorCommand (τ : Type) where
  azi : Int
  ele : Int
  env : BackendEnv τ

def RotatorCommand.request (c : RotatorCommand τ) : RotatorRequest :=
  { azi := c.azi, ele := c.ele, env := c.env.serial }

/-- The backend after the call. -/
def rotatorStep (b : GuiBackend τ δ) (c : RotatorCommand τ) : GuiBackend τ δ :=
  let call := c.request.call b.rotator
  { b with rotator := call.state }.notifyOps c.env call.ops

/-- All bytes of the command were written. -/
def WrittenCompletely (b : GuiBackend τ δ) (c : RotatorCommand τ) : Prop :=
  (c.request.call b.rotator).ops.any (SerialOp.commands c.azi c.ele) = true

/-- The call, unless it is suppressed, pushes one event `Rotator command`, and leaves the antenna
state with its angles and with whether the command was written. -/
def ReportsWhatHappened (b : GuiBackend τ δ) (c : RotatorCommand τ) : Prop :=
  ¬ b.rotator.tooClose c.azi c.ele →
    (∃ type detail, (rotatorStep b c).station.gui =
      guiBackendPushEvent b.station.gui c.env.clock type (cstr "ROTATOR") (cstr "Rotator command")
        detail) ∧
    (rotatorStep b c).antenna.azDeg = CDouble.ofInt c.azi ∧
    (rotatorStep b c).antenna.elDeg = CDouble.ofInt c.ele ∧
    ((rotatorStep b c).antenna.lastCommandSuccess ≠ 0 ↔ WrittenCompletely b c)

omit [CDouble δ] in
/-- The outcomes that are reported right: the call is suppressed, or the port opens and takes its
settings and `write` fails with an error or takes the whole command. -/
def ReportableOutcome (b : GuiBackend τ δ) (c : RotatorCommand τ) : Prop :=
  b.rotator.tooClose c.azi c.ele ∨
    (0 ≤ c.env.serial.openFd ∧ c.env.serial.tcgetattr = 0 ∧ c.env.serial.tcsetattr = 0 ∧
      (c.env.serial.write < 0 ∨ c.request.Arrives))

end CspTerm.Gui
