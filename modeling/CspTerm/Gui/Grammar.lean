import CspTerm.Gui.Session
import CspTerm.Radio.Proofs.DopplerProofs

/-!
# The documented command language

The user guide describes which command lines there are and what numbers look like in them, and says
that every other line is answered with `ERROR` and a reason. This module states the language apart
from the parser, and what it means to reject a line.
-/

namespace CspTerm.Gui

open CString CspTerm.Radio CspTerm.Rotator CspTerm.Uplink CspTerm.Csp

/-! ## The language -/

/-- The number that a word is: decimal, or hexadecimal behind `0x`, with a sign if need be. -/
def documentedNumber (token : CStr) : Option Int :=
  let (negative, digits) := takeSign token
  let (base, digits) :=
    match digits with
    | 48 :: x :: rest => if x = 120 ∨ x = 88 then (16, rest) else (10, digits)
    | [] | [_] | _ :: _ :: _ => (10, digits)
  let (ds, rest) := takeDigits base digits
  if ds = [] ∨ rest ≠ [] then none
  else some (if negative then -(Radix.value base ds : Int) else Radix.value base ds)

/-- There is such a word, and it is a number in the range. -/
def NumberIn (min max : Int) (token : Option CStr) : Prop :=
  ∃ t, token = some t ∧ ∃ v, documentedNumber t = some v ∧ min ≤ v ∧ v ≤ max

/-- There is such a word, and it is one of the listed ones, in upper or lower case. -/
def OneOf (words : List CStr) (token : Option CStr) : Prop :=
  ∃ t, token = some t ∧ ∃ w ∈ words, strcaseEq t w = true

def modeWords : List CStr :=
  [cstr "idle", cstr "tracking", cstr "maintenance", cstr "maint"]

def emergencyWords : List CStr :=
  [cstr "true", cstr "false", cstr "1", cstr "0", cstr "on", cstr "off"]

/-- There is such a word, and it is an even number of hexadecimal digits. -/
def EvenHex (token : Option CStr) : Prop :=
  ∃ t, token = some t ∧ t ≠ [] ∧ t.length % 2 = 0 ∧ ∀ b ∈ t, (hexDigit b).isSome

/-- The arguments that the user guide gives a command. Further words are not looked at. -/
def GuiCommand.Takes (command : GuiCommand) (args : List CStr) : Prop :=
  match command with
  | .ping | .help | .status | .lastUplink | .lastDownlink => True
  | .setMode => OneOf modeWords args[0]?
  | .setEmergency => OneOf emergencyWords args[0]?
  | .setSat => NumberIn 1 255 args[0]?
  | .setTx | .setRx => NumberIn 0 (2 ^ 32 - 1) args[0]?
  | .setAzel => NumberIn (-360) 360 args[0]? ∧ NumberIn (-90) 180 args[1]?
  | .sendPacket =>
    NumberIn 0 3 args[0]? ∧ NumberIn 0 255 args[1]? ∧ NumberIn 0 255 args[2]? ∧
      NumberIn 0 63 args[3]? ∧ NumberIn 0 63 args[4]? ∧ NumberIn 0 1 args[5]? ∧
      NumberIn 0 1 args[6]? ∧ NumberIn 0 1 args[7]? ∧ NumberIn 0 1 args[8]? ∧ EvenHex args[9]?
  | .getEvents => args[0]? = none ∨ NumberIn 1 64 args[0]?

/-- The words are a documented command with documented arguments. -/
def Sentence (tokens : List CStr) : Prop :=
  ∃ cmd args command, tokens = cmd :: args ∧ guiCommand cmd = some command ∧ command.Takes args

/-! ## Rejecting a line -/

variable {τ δ : Type}

/-- A line that begins with `ERROR` and a blank. -/
def IsErrorLine (message : CStr) : Prop :=
  ∃ reason, message = cstr "ERROR " ++ reason ++ cstr "\n" ∧ (10 : UInt8) ∉ reason

/-- What an invalid command must not change. -/
structure GuiBackend.SameControls (b b' : GuiBackend τ δ) : Prop where
  mode : b.stationMode = b'.stationMode
  emergencyStop : b.emergencyStopEngaged = b'.emergencyStopEngaged
  selection : b.station.doppler.SameSelection b'.station.doppler
  rf : b.station.gui.rf = b'.station.gui.rf
  rotator : b.rotator = b'.rotator
  events : b.station.gui.events = b'.station.gui.events
  start : b.station.gui.start = b'.station.gui.start
  count : b.station.gui.count = b'.station.gui.count

/-- The command is answered by one `ERROR` line and changes nothing; the rotator is not written. -/
def CommandResult.Rejects (r : CommandResult τ δ) (b : GuiBackend τ δ) : Prop :=
  (∃ message, r.messages = [message] ∧ IsErrorLine message) ∧ r.backend.SameControls b ∧
    ∀ bytes, .serialWrite bytes ∉ r.actuations

/-- The number that `gui_backend_parse_long` makes of a word, if there is the word. -/
def parsed (min max : Int) (token : Option CStr) : Option Int :=
  token.bind (guiBackendParseLong · min max)

/-- The invalid arguments of a command that are rejected. Commands that accept all arguments have no
invalid ones. -/
def GuiCommand.RejectsInvalid (env : BackendEnv τ) (b : GuiBackend τ δ) (command : GuiCommand)
    (args : List CStr) : Prop :=
  match command with
  | .ping | .help | .status | .lastUplink | .lastDownlink => False
  | .setMode | .setEmergency => args[0]? = none
  -- a number that the parser accepts reaches the radio
  | .setSat => ∀ v, parsed 1 0xFF args[0]? = some v →
      ¬ AcceptsSat env.toDopplerEnv (satSelected b.station.doppler.satNo (UInt32.ofInt v)) ∧
        b.station.doppler.AlreadyOn env.toDopplerEnv
          (satSelected b.station.doppler.satNo (UInt32.ofInt v))
  | .setTx => ∀ v, parsed 0 longMax args[0]? = some v →
      ¬ Accepts env.toDopplerEnv ax100V3ParamTx (UInt32.ofInt v)
  | .setRx => ∀ v, parsed 0 longMax args[0]? = some v →
      ¬ Accepts env.toDopplerEnv ax100V3ParamRx (UInt32.ofInt v)
  | .setAzel => parsed (-360) 360 args[0]? = none ∨ parsed (-90) 180 args[1]? = none
  | .sendPacket => True
  | .getEvents => parsed 1 64 args[0]? = none

/-- The invalid lines that are rejected: an unknown command, or a command that rejects these
arguments. -/
def RejectsInvalid (env : BackendEnv τ) (b : GuiBackend τ δ) (tokens : List CStr) : Prop :=
  ∀ cmd args command, tokens = cmd :: args → guiCommand cmd = some command →
    command.RejectsInvalid env b args

end CspTerm.Gui
