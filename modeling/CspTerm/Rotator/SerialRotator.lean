import CspTerm.Lib.CString

/-!
# The antenna rotator (`serial_rotator.c`)

`serial_set_az_el` sends one position command to the GS-232B controller. It remembers the last
requested position, so that a request that moves the antenna by less than `MIN_ANGLE_THRESHOLD`
degrees on both axes is not sent. The memory starts at `-1`, and a negative angle in it counts as
"nothing remembered".

Angles are exact integers: `azi + AZIMMUTH_ANGLE_OFFSET` and the differences overflow an `int` only
for angles beyond `±2 ^ 30`, where C gives the program no meaning.
-/

namespace CspTerm.Rotator

open CString

def azimmuthAngleOffset : Int := 80

def minAngleThreshold : Nat := 2

def azelTrackCmdLock : Int := 0

/-- The file-scope variables `azi_old` and `ele_old`. -/
structure RotatorState where
  aziOld : Int
  eleOld : Int
deriving DecidableEq, Repr

def RotatorState.init : RotatorState := { aziOld := -1, eleOld := -1 }

/-- The results of the system calls of one `serial_set_az_el`. -/
structure SerialEnv where
  openFd : Int
  tcgetattr : Int
  tcsetattr : Int
  write : Int
deriving DecidableEq, Repr

/-- What a call does besides updating the remembered position, in order. -/
inductive SerialOp where
  | openPort (fd : Int)
  | write (bytes : CStr) (wr : Int)
  | notifyRotator (azi ele : Int) (success : Bool)
  | close (fd : Int)
deriving DecidableEq, Repr

/-- The outcome of a call: its result, the variables it leaves, and what it did. -/
structure SerialCall where
  ret : Int
  state : RotatorState
  ops : List SerialOp
deriving DecidableEq, Repr

/-- `set_interface`: the line settings between the two calls cannot fail. -/
def setInterface (tcgetattr tcsetattr : Int) : Int :=
  if tcgetattr ≠ 0 then -1
  else if tcsetattr ≠ 0 then -1
  else 0

/-- The text that `sprintf` prints into `set_az_el`. -/
def azElCommand (azi ele : Int) : CStr :=
  cstr "W" ++ (fmtInt03 (azi + azimmuthAngleOffset) ++ cstr " " ++ fmtInt03 ele ++ cstr "\r")

/-- `sizeof(set_az_el) - 1` for `char set_az_el[] = "W150 000\r"`: the number of bytes written,
however long the text is. -/
def setAzElSize : Nat := 9

/-- The two ways the movement threshold is evaluated: not at all while nothing is remembered. -/
def RotatorState.tooClose (s : RotatorState) (azi ele : Int) : Prop :=
  if s.aziOld < 0 ∨ s.eleOld < 0 then False
  else (azi - s.aziOld).natAbs < minAngleThreshold ∧ (ele - s.eleOld).natAbs < minAngleThreshold

instance (s : RotatorState) (azi ele : Int) : Decidable (s.tooClose azi ele) := by
  unfold RotatorState.tooClose
  infer_instance

/-- The tail of `serial_set_az_el`, once the port is open and configured. -/
def writePosition (azi ele : Int) (env : SerialEnv) : List SerialOp :=
  let wr := env.write
  [.write ((azElCommand azi ele).take setAzElSize) wr]
    ++ (if wr = 0 then []
        else if wr > 0 then [.notifyRotator azi ele true]
        else [.notifyRotator azi ele false])
    ++ [.close env.openFd]

def serialSetAzEl (s : RotatorState) (azi ele : Int) (env : SerialEnv) : SerialCall :=
  if azelTrackCmdLock = 1 then { ret := 1, state := s, ops := [] }
  else if s.tooClose azi ele then { ret := 0, state := s, ops := [] }
  else
    -- the request is remembered before it is known to arrive
    let s' : RotatorState := { aziOld := azi, eleOld := ele }
    if env.openFd < 0 then { ret := 0, state := s', ops := [.openPort env.openFd] }
    else if setInterface env.tcgetattr env.tcsetattr ≠ 0 then
      -- the descriptor is not closed on this path
      { ret := 0, state := s', ops := [.openPort env.openFd] }
    else { ret := 1, state := s', ops := .openPort env.openFd :: writePosition azi ele env }

/-! ## The rotator over a run of requests -/

/-- One request with the outcomes it meets. -/
structure RotatorRequest where
  azi : Int
  ele : Int
  env : SerialEnv
deriving DecidableEq, Repr

def RotatorRequest.call (r : RotatorRequest) (s : RotatorState) : SerialCall :=
  serialSetAzEl s r.azi r.ele r.env

/-- The operation put the whole position command for `azi`, `ele` on the line. -/
def SerialOp.commands (azi ele : Int) : SerialOp → Bool
  | .write bytes wr => bytes == azElCommand azi ele && wr == bytes.length
  | _ => false

/-- The program together with what the rotator was last told: the most recent position whose
command was written completely. -/
structure RotatorRun where
  rotator : RotatorState
  written : Option (Int × Int)
deriving DecidableEq, Repr

def RotatorRun.init : RotatorRun := { rotator := .init, written := none }

def RotatorRun.step (t : RotatorRun) (r : RotatorRequest) : RotatorRun where
  rotator := (r.call t.rotator).state
  written :=
    if (r.call t.rotator).ops.any (SerialOp.commands r.azi r.ele) then some (r.azi, r.ele)
    else t.written

/-- A suppressed request finds the antenna there: whatever would be requested next, if the movement
threshold suppresses it, then the last completely written position is that close to it. -/
def RotatorRun.Truthful (t : RotatorRun) : Prop :=
  ∀ azi ele, t.rotator.tooClose azi ele → ∃ a e, t.written = some (a, e) ∧
    (azi - a).natAbs < minAngleThreshold ∧ (ele - e).natAbs < minAngleThreshold

/-- The port opens, takes its settings and takes all bytes of a command that fits its array. -/
def RotatorRequest.Arrives (r : RotatorRequest) : Prop :=
  0 ≤ r.env.openFd ∧ r.env.tcgetattr = 0 ∧ r.env.tcsetattr = 0 ∧ r.env.write = setAzElSize ∧
    (azElCommand r.azi r.ele).length = setAzElSize

/-- The requests that do not disturb the memory: those that are suppressed, those that arrive,
those whose negative angle makes the memory void, and those for the position that the rotator was
told last. -/
def RotatorRequest.Harmless (t : RotatorRun) (r : RotatorRequest) : Prop :=
  t.rotator.tooClose r.azi r.ele ∨ r.Arrives ∨ r.azi < 0 ∨ r.ele < 0 ∨
    t.written = some (r.azi, r.ele)

end CspTerm.Rotator
