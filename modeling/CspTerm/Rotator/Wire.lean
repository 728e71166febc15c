import CspTerm.Lib.FieldWidth
import CspTerm.Rotator.SerialRotator

/-!
# Rotator commands on the wire (`serial_rotator.c`)

The GS-232B controller takes an azimuth of 0 to 450 degrees and an elevation of 0 to 180 degrees, in
a command of nine bytes. `serial_set_az_el` prints the command into an array of ten bytes.
-/

namespace CspTerm.Rotator

open CString

def maxAzimuth : Nat := 450

def maxElevation : Nat := 180

/-- `sizeof(set_az_el)`. -/
def setAzElArray : Nat := setAzElSize + 1

/-- Three decimal digits. -/
def threeDigits (n : Nat) : CStr := [digitChar (n / 100), digitChar (n / 10 % 10), digitChar (n % 10)]

/-- The command for a position, as the controller reads it. -/
def positionCommand (az el : Nat) : CStr := 87 :: (threeDigits az ++ 32 :: (threeDigits el ++ [13]))

/-- The position is one that the controller has. -/
def Encodable (azi ele : Int) : Prop :=
  0 ≤ azi + azimmuthAngleOffset ∧ azi + azimmuthAngleOffset ≤ maxAzimuth ∧ 0 ≤ ele ∧
    ele ≤ maxElevation

instance (azi ele : Int) : Decidable (Encodable azi ele) :=
  inferInstanceAs (Decidable (_ ∧ _ ∧ _ ∧ _))

/-- Whatever is written is the command for the requested position, which the controller has, and was
printed, with its NUL, into the array. -/
def WireWellFormed (azi ele : Int) (ops : List SerialOp) : Prop :=
  ∀ bytes wr, .write bytes wr ∈ ops →
    Encodable azi ele ∧
      bytes = positionCommand (azi + azimmuthAngleOffset).toNat ele.toNat ∧
      (azElCommand azi ele).length + 1 ≤ setAzElArray

/-- The request gets as far as the write: it is not suppressed, and the port opens and takes its
settings. -/
def RotatorRequest.ReachesWrite (s : RotatorState) (r : RotatorRequest) : Prop :=
  ¬ s.tooClose r.azi r.ele ∧ 0 ≤ r.env.openFd ∧ r.env.tcgetattr = 0 ∧ r.env.tcsetattr = 0

end CspTerm.Rotator
