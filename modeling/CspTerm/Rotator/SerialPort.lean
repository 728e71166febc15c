import CspTerm.Lib.Descriptors
import CspTerm.Rotator.SerialRotator

/-!
# The serial port (`serial_rotator.c`)

Both functions that talk to the rotator controller open the serial port, configure it, and close it
again. `serial_read` asks for the position and only logs the answer.
-/

namespace CspTerm.Rotator

open Descriptors

/-- The results of the system calls of one `serial_read`. -/
structure SerialReadEnv where
  openFd : Int
  tcgetattr : Int
  tcsetattr : Int
  write : Int
  read : Int
deriving DecidableEq, Repr

/-- `serial_read`: its result, and what it does with the port, where the settings are not an
operation of their own. -/
def serialRead (env : SerialReadEnv) : Int × List (FileOp Int) :=
  let fd := env.openFd
  if fd < 0 then (0, session none)
  else if setInterface env.tcgetattr env.tcsetattr ≠ 0 then
    -- the descriptor is not closed on this path
    (0, [.opened (some fd)])
  else if env.write < 0 then (0, session (some fd))
  else if env.read < 0 then (0, session (some fd))
  else (1, session (some fd))

/-- The operation of `serial_set_az_el` as one on the port; the write is on the descriptor `fd`. -/
def SerialOp.fileOp? (fd : Int) : SerialOp → Option (FileOp Int)
  | .openPort fd => some (.opened (if fd < 0 then none else some fd))
  | .write _ _ => some (.used (some fd))
  | .notifyRotator .. => none
  | .close fd => some (.closed (some fd))

/-- What `serial_set_az_el` does with the port. -/
def SerialCall.fileOps (c : SerialCall) (env : SerialEnv) : List (FileOp Int) :=
  c.ops.filterMap (SerialOp.fileOp? env.openFd)

end CspTerm.Rotator
