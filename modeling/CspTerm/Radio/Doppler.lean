import CspTerm.Lib.CString

/-!
# Satellite selection and radio frequencies (`doppler_freq_correction.c`)

The module keeps the base frequencies `TXfreq`, `RXfreq` and the number of the selected satellite,
and programs the AX100 radio by writing parameters over the network with `rparam_set_uint32`. The
orbital elements are handled by `tleupdate`, which is a parameter here: it works on a state of its
own and shares nothing with the frequencies.
-/

namespace CspTerm.Radio

open CString

/-! ## Constants -/

def ax100PortRparam : UInt16 := 7

def ax100V3RxtxFreq : UInt16 := 0x00

def ax100V3ParamRx : UInt16 := 1

def ax100V3ParamTx : UInt16 := 5

def ax100V3Address : UInt8 := 29

def ax100V3Timeout : UInt32 := 1000

def maxSatSize : UInt32 := 3

/-- The carrier frequencies and the NORAD number of a satellite. -/
structure Lumelite where
  tx : Int
  rx : Int
  elementId : Int
deriving DecidableEq, Repr

def lumelite1 : Lumelite := { tx := 437075000, rx := 437075000, elementId := 56309 }

def lumelite2 : Lumelite := { tx := 435999500, rx := 435999500, elementId := 41168 }

def lumelite3 : Lumelite := { tx := 436800500, rx := 436800500, elementId := 41170 }

/-! ## State -/

structure RparamSet where
  value : UInt32
  addr : UInt16
  indexId : UInt16
  node : UInt8
  port : UInt16
  timeout : UInt32
deriving DecidableEq, Repr

structure Ax100 where
  tx : Option UInt32
  rx : Option UInt32
deriving DecidableEq, Repr

def Ax100.accept (r : Ax100) (c : RparamSet) : Ax100 :=
  if c.indexId = ax100V3ParamTx then { r with tx := some c.value }
  else if c.indexId = ax100V3ParamRx then { r with rx := some c.value }
  else r

/-- The file-scope variables of the module, with the radio they are to describe; `τ` is the state
of the orbital elements (`TLE1`, `TLE2` and what `setTLE` installed). -/
structure Doppler (τ : Type) where
  txFreq : Int
  rxFreq : Int
  satNo : UInt32
  tle : τ
  radio : Ax100
deriving DecidableEq, Repr

/-- The initializers; the radio has not been written yet. -/
def Doppler.init {τ : Type} (tle : τ) : Doppler τ :=
  { txFreq := 0, rxFreq := 0, satNo := 1, tle := tle, radio := { tx := none, rx := none } }

/-- What the module calls outside: the result of `rparam_set_uint32` (positive if the radio took
the value), and the effect of `tleupdate` on the orbital elements. -/
structure DopplerEnv (τ : Type) where
  rparamSetUint32 : RparamSet → Int
  tleupdate : Int → τ → τ

variable {τ : Type}

/-! ## Radio frequencies -/

def freqWrite (table : UInt16) (node : UInt8) (timeout freq : UInt32) : RparamSet :=
  { value := freq, addr := ax100V3RxtxFreq, indexId := table, node := node,
    port := ax100PortRparam, timeout := timeout }

/-- The common body of `ax100_set_tx_freq` and `ax100_set_rx_freq`. -/
def ax100SetFreq (table : UInt16) (env : DopplerEnv τ) (r : Ax100) (node : UInt8)
    (timeout freq : UInt32) : Int × Ax100 :=
  if freq = 0 then (0, r)
  else if env.rparamSetUint32 (freqWrite table node timeout freq) ≤ 0 then (0, r)
  else (1, r.accept (freqWrite table node timeout freq))

def ax100SetTxFreq : DopplerEnv τ → Ax100 → UInt8 → UInt32 → UInt32 → Int × Ax100 :=
  ax100SetFreq ax100V3ParamTx

def ax100SetRxFreq : DopplerEnv τ → Ax100 → UInt8 → UInt32 → UInt32 → Int × Ax100 :=
  ax100SetFreq ax100V3ParamRx

/-- `doppler_set_tx_freq`: the base frequency follows an accepted write. -/
def dopplerSetTxFreq (env : DopplerEnv τ) (d : Doppler τ) (freq : UInt32) : Int × Doppler τ :=
  let (ok, radio) := ax100SetTxFreq env d.radio ax100V3Address ax100V3Timeout freq
  if ok = 0 then (0, { d with radio := radio })
  else (1, { d with radio := radio, txFreq := toInt32 freq.toNat })

def dopplerSetRxFreq (env : DopplerEnv τ) (d : Doppler τ) (freq : UInt32) : Int × Doppler τ :=
  let (ok, radio) := ax100SetRxFreq env d.radio ax100V3Address ax100V3Timeout freq
  if ok = 0 then (0, { d with radio := radio })
  else (1, { d with radio := radio, rxFreq := toInt32 freq.toNat })

/-! ## Satellite selection -/

/-- The `switch` of `mcs_sat_sel`. -/
def satParameters (satNo : UInt32) : Lumelite :=
  if satNo = 2 then lumelite2
  else if satNo = 3 then lumelite3
  else lumelite1

/-- The satellite number `mcs_sat_sel` goes on with: a number above `MAX_SAT_SIZE` is only logged,
and the function continues with the selection it had. -/
def satSelected (satNo satNoSel : UInt32) : UInt32 :=
  if satNoSel ≤ maxSatSize then satNoSel else satNo

/-- The assignments of `mcs_sat_sel`, all made before the radio is asked. -/
def Doppler.select (env : DopplerEnv τ) (d : Doppler τ) (satNoSel : UInt32) : Doppler τ :=
  let satNo := satSelected d.satNo satNoSel
  let p := satParameters satNo
  { d with satNo := satNo, txFreq := p.tx, rxFreq := p.rx, tle := env.tleupdate p.elementId d.tle }

def mcsSatSel (env : DopplerEnv τ) (d : Doppler τ) (satNoSel : UInt32) : Int × Doppler τ :=
  let d := d.select env satNoSel
  let (txOk, radio) :=
    ax100SetTxFreq env d.radio ax100V3Address ax100V3Timeout (UInt32.ofInt d.txFreq)
  let d := { d with radio := radio }
  if txOk = 0 then (0, d)
  else
    let (rxOk, radio) :=
      ax100SetRxFreq env d.radio ax100V3Address ax100V3Timeout (UInt32.ofInt d.rxFreq)
    let d := { d with radio := radio }
    if rxOk = 0 then (0, d) else (1, d)

def mcsSatRead (d : Doppler τ) : UInt32 := d.satNo

/-- `updatetle`: element id 0 only refreshes the downloaded file. -/
def updatetle (env : DopplerEnv τ) (d : Doppler τ) : Int × Doppler τ :=
  (1, { d with tle := env.tleupdate 0 d.tle })

/-! ## What a call of the radio amounts to -/

/-- The radio takes a frequency for table `table`: it is not 0, which is refused without a write,
and the write succeeds. -/
def Accepts (env : DopplerEnv τ) (table : UInt16) (freq : UInt32) : Prop :=
  freq ≠ 0 ∧ 0 < env.rparamSetUint32 (freqWrite table ax100V3Address ax100V3Timeout freq)

instance (env : DopplerEnv τ) (table : UInt16) (freq : UInt32) :
    Decidable (Accepts env table freq) :=
  inferInstanceAs (Decidable (_ ∧ _))

/-- The uplink frequency of satellite `satNo` as the radio is given it. -/
def satTx (satNo : UInt32) : UInt32 := UInt32.ofInt (satParameters satNo).tx

def satRx (satNo : UInt32) : UInt32 := UInt32.ofInt (satParameters satNo).rx

/-- The radio takes both frequencies of satellite `satNo`. -/
def AcceptsSat (env : DopplerEnv τ) (satNo : UInt32) : Prop :=
  Accepts env ax100V3ParamTx (satTx satNo) ∧ Accepts env ax100V3ParamRx (satRx satNo)

instance (env : DopplerEnv τ) (satNo : UInt32) : Decidable (AcceptsSat env satNo) :=
  inferInstanceAs (Decidable (_ ∧ _))

end CspTerm.Radio
