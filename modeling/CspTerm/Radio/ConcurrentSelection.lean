import CspTerm.Lib.Interleaving
import CspTerm.Radio.Frequencies

/-!
# Concurrent satellite selections (`mcs_sat_sel`)

`mcs_sat_sel` can be entered by several threads and takes no lock: it assigns `sat_no`, `TXfreq` and
`RXfreq`, updates the orbital elements and writes the frequencies to the radio, as it finds them in
the variables then. Here the function is cut into its atomic steps, and two calls are interleaved.
-/

namespace CspTerm.Radio

open CString Interleaving

variable {τ : Type}

/-- The steps of a call. -/
inductive SelStep where
  /-- `sat_no = sat_no_sel`, unless the number is refused. -/
  | storeSatNo
  /-- `switch (sat_no)`, which settles what the assignments will assign. -/
  | readSatNo
  | assign (d : Direction)
  | tleupdate
  /-- `ax100_set_tx_freq` or `ax100_set_rx_freq` with the variable of this direction. -/
  | write (d : Direction)
deriving DecidableEq, Repr

/-- The steps of `mcs_sat_sel`, in the order of the source. -/
def mcsSatSelSteps : List SelStep :=
  [.storeSatNo, .readSatNo, .assign .tx, .assign .rx, .tleupdate, .write .tx, .write .rx]

/-- The place of a step in the source. -/
def SelStep.line : SelStep → Nat
  | .storeSatNo => 0
  | .readSatNo => 1
  | .assign .tx => 2
  | .assign .rx => 3
  | .tleupdate => 4
  | .write .tx => 5
  | .write .rx => 6

theorem SelStep.line_le (step : SelStep) : step.line ≤ (SelStep.write .rx).line := by
  cases step with
  | assign d => cases d <;> decide
  | write d => cases d <;> decide
  | _ => decide

theorem SelStep.read_line_lt (d : Direction) :
    SelStep.readSatNo.line < (SelStep.assign d).line := by cases d <;> decide

theorem SelStep.assign_line_lt (d : Direction) :
    (SelStep.assign d).line < (SelStep.write d).line := by cases d <;> decide

theorem mcsSatSelSteps_pairwise : mcsSatSelSteps.Pairwise (·.line < ·.line) := by decide

/-! ## State -/

/-- The frequency of one direction. -/
def Lumelite.freq (p : Lumelite) : Direction → Int
  | .tx => p.tx
  | .rx => p.rx

def Doppler.freq (d : Doppler τ) : Direction → Int
  | .tx => d.txFreq
  | .rx => d.rxFreq

def Doppler.setFreq (d : Doppler τ) (freq : Int) : Direction → Doppler τ
  | .tx => { d with txFreq := freq }
  | .rx => { d with rxFreq := freq }

/-- The frequency that the radio took last. -/
def Ax100.freq (r : Ax100) : Direction → Option UInt32
  | .tx => r.tx
  | .rx => r.rx

/-- Two calls in progress: the variables of the module, what each call is to assign,
and what it has returned. -/
structure Selections (τ : Type) where
  doppler : Doppler τ
  params : Bool → Lumelite
  result : Bool → Option Int

def Selections.start (d : Doppler τ) : Selections τ where
  doppler := d
  params := fun _ => lumelite1
  result := fun _ => none

/-- What the call gets back from the radio: it goes on after the first write if the radio took the
value, and returns after the second one. -/
def writeResult (d : Direction) (ok : Int) : Option Int :=
  if ok = 0 then some 0 else
    match d with
    | .tx => none
    | .rx => some 1

/-- What a step of call `x.1` does, for the requested numbers `n`. -/
def selEffect (env : DopplerEnv τ) (n : Bool → UInt32) (s : Selections τ) (x : Bool × SelStep) :
    Selections τ :=
  match x.2 with
  | .storeSatNo =>
    { s with doppler := { s.doppler with satNo := satSelected s.doppler.satNo (n x.1) } }
  | .readSatNo =>
    { s with params := Function.update s.params x.1 (satParameters s.doppler.satNo) }
  | .assign d => { s with doppler := s.doppler.setFreq ((s.params x.1).freq d) d }
  | .tleupdate =>
    { s with doppler := { s.doppler with
        tle := env.tleupdate (s.params x.1).elementId s.doppler.tle } }
  | .write d =>
    let (ok, radio) := ax100SetFreq d.table env s.doppler.radio ax100V3Address ax100V3Timeout
      (UInt32.ofInt (s.doppler.freq d))
    { s with
      doppler := { s.doppler with radio := radio }
      result := Function.update s.result x.1 (writeResult d ok) }

/-- One step. A call that has returned makes no more steps. -/
def selStep (env : DopplerEnv τ) (n : Bool → UInt32) (s : Selections τ) (x : Bool × SelStep) :
    Selections τ :=
  if (s.result x.1).isSome then s else selEffect env n s x

def runSelections (env : DopplerEnv τ) (n : Bool → UInt32) (d : Doppler τ)
    (l : List (Bool × SelStep)) : Selections τ :=
  l.foldl (selStep env n) (.start d)

/-! ## One satellite -/

/-- The selected number, the frequencies and the radio all belong to satellite `satNo`. -/
structure Doppler.IsOn (d : Doppler τ) (satNo : UInt32) : Prop where
  selected : d.satNo = satNo
  freq : ∀ dir, d.freq dir = (satParameters satNo).freq dir
  radio : ∀ dir, d.radio.freq dir = some (UInt32.ofInt ((satParameters satNo).freq dir))

/-- All belong to one of the requested satellites. -/
def OnRequested (n : Bool → UInt32) (d : Doppler τ) : Prop :=
  ∃ c, n c ≤ maxSatSize ∧ d.IsOn (n c)

/-- Step `x` is executed before step `y`. -/
def Before (l : List (Bool × SelStep)) (x y : Bool × SelStep) : Prop := l.idxOf x < l.idxOf y

/-- Call `c` is the last one whose number goes to `sat_no`. -/
def StoresLast (n : Bool → UInt32) (l : List (Bool × SelStep)) (c : Bool) : Prop :=
  n c ≤ maxSatSize ∧
    (n (!c) ≤ maxSatSize → Before l (!c, .storeSatNo) (c, .storeSatNo))

/-- The call that stores its number last is not mixed with the other one: the other call selects the
same frequencies anyway, or it looks at `sat_no` after that store, or its assignments of both
frequencies are overwritten. -/
def Unmixed (satNo : UInt32) (n : Bool → UInt32) (l : List (Bool × SelStep)) : Prop :=
  ∃ c, StoresLast n l c ∧
    (satParameters (satSelected satNo (n (!c))) = satParameters (n c) ∨
      Before l (c, .storeSatNo) (!c, .readSatNo) ∨
      ∀ dir, Before l (!c, .assign dir) (c, .assign dir))

end CspTerm.Radio
