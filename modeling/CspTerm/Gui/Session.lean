import CspTerm.Gui.HandleCommand
import CspTerm.Uplink.Requests

/-!
# Sequences of GUI commands

The lines of all clients reach the command handler one after the other. A run is a list of lines,
each with the surroundings its command meets.
-/

namespace CspTerm.Gui

open CString CspTerm.Rotator CspTerm.Uplink CspTerm.Csp

variable {τ δ : Type} [CDouble δ]

structure CommandLine (τ : Type) where
  env : BackendEnv τ
  line : CStr

def CommandLine.run (a : CommandLine τ) (b : GuiBackend τ δ) : CommandResult τ δ :=
  guiBackendHandleCommand a.env b a.line

def commandStep (b : GuiBackend τ δ) (a : CommandLine τ) : GuiBackend τ δ := (a.run b).backend

/-- What each command of a run actuates. -/
def runActuations (b : GuiBackend τ δ) : List (CommandLine τ) → List (List Actuation)
  | [] => []
  | a :: as => (a.run b).actuations :: runActuations (commandStep b a) as

/-! ## The emergency stop -/

/-- While the emergency stop is engaged, the command actuates nothing. -/
def Inhibited (b : GuiBackend τ δ) (a : CommandLine τ) : Prop :=
  b.emergencyStopEngaged = true → (a.run b).actuations = []

/-- The value that a line gives the emergency stop, if it is a `SET_EMERGENCY` with a value. -/
def emergencyValue (line : CStr) : Option Bool :=
  match commandTokens line with
  | cmd :: value :: _ =>
    if guiCommand cmd = some .setEmergency then some (engageValue value) else none
  | [] | [_] => none

/-- The emergency stop after a line. -/
def emergencyAfter (engaged : Bool) (a : CommandLine τ) : Bool :=
  (emergencyValue a.line).getD engaged

omit [CDouble δ] in
/-- What a status report has in front of the emergency stop. -/
def GuiBackend.statusHead (b : GuiBackend τ δ) (messageType : CStr) : CStr :=
  cstr "\x7b\"type\":\"" ++ messageType ++ cstr "\",\"station\":\x7b\"name\":\"" ++
    b.stationName.val ++ cstr "\",\"mode\":\"" ++ guiBackendModeToString b.stationMode ++
    cstr "\",\"emergency_stop\":"

/-- `STATUS` and telemetry say whether the emergency stop is engaged. -/
structure ReportsStop (b : GuiBackend τ δ) (engaged : Bool) : Prop where
  status : ∀ (env : BackendEnv τ) (line cmd : CStr) (args : List CStr),
    commandTokens line = cmd :: args → guiCommand cmd = some .status →
      ∃ report, (guiBackendHandleCommand env b line).messages =
          [cstr "OK STATUS\n", report, cstr "END\n"] ∧
        b.statusHead (cstr "status") ++ boolText engaged <+: report
  telemetry : ∀ env : BackendEnv τ, ∃ report, guiBackendEmitStatus b env = [report] ∧
    b.statusHead (cstr "telemetry") ++ boolText engaged <+: report

def GuiBackendState.withoutEvents (g : GuiBackendState) : GuiBackendState :=
  { g with events := GuiBackendState.init.events, start := GuiBackendState.init.start,
           count := GuiBackendState.init.count }

def withoutEvents (s : Station τ) : Station τ := { s with gui := s.gui.withoutEvents }

omit [CDouble δ] in
/-- The state without the emergency stop and without the events, which record its changes. -/
def GuiBackend.withoutStop (b : GuiBackend τ δ) : GuiBackend τ δ :=
  { b with emergencyStopEngaged := false, station := withoutEvents b.station }

/-! ## Concrete surroundings -/

/-- Integers for doubles: the decimals are zeros. -/
instance : CDouble Int where
  ofInt := id
  fmt precision x := fmtInt x ++ if precision = 0 then [] else 46 :: List.replicate precision 48

/-- Surroundings in which the radio and the rotator take everything, at the beginning of 1970. -/
def constBackendEnv : BackendEnv Unit where
  toUplinkEnv := constEnv 0 1
  serial := { openFd := 3, tcgetattr := 0, tcsetattr := 0, write := setAzElSize }
  buffer := some .zero
  malloc := true
  now := 0
  utcOffset := fun _ => 0

end CspTerm.Gui
