import CspTerm.Station

/-!
# Console commands of the radio (`doppler_freq_correction.c`)

The operator's commands `tx_freq_set`, `rx_freq_set` and `mcs_sat_sel`. A handler gets the words of
the command line, its own name first, and returns an error code of the console.
-/

namespace CspTerm.Radio

open CString

variable {τ : Type}

def cmdErrorNone : Int := 0

def cmdErrorFail : Int := -1

def cmdErrorSyntax : Int := -2

/-- `tx_freq_set <freq>`. -/
def txFreqSet (env : StationEnv τ) (s : Station τ) (argv : List CStr) : Int × Station τ :=
  match argv with
  | [_, freq] =>
    let (ok, radio) := ax100SetTxFreq env.toDopplerEnv s.doppler.radio ax100V3Address
      ax100V3Timeout (UInt32.ofInt (atoi freq))
    let s := { s with doppler := { s.doppler with radio := radio } }
    if ok = 0 then (cmdErrorFail, s) else (cmdErrorNone, s)
  | _ => (cmdErrorSyntax, s)

/-- `rx_freq_set <freq>`. -/
def rxFreqSet (env : StationEnv τ) (s : Station τ) (argv : List CStr) : Int × Station τ :=
  match argv with
  | [_, freq] =>
    let (ok, radio) := ax100SetRxFreq env.toDopplerEnv s.doppler.radio ax100V3Address
      ax100V3Timeout (UInt32.ofInt (atoi freq))
    let s := { s with doppler := { s.doppler with radio := radio } }
    if ok = 0 then (cmdErrorFail, s) else (cmdErrorNone, s)
  | _ => (cmdErrorSyntax, s)

/-- `mcs_sat_sel <number>` (`sel_sat`). -/
def selSat (env : StationEnv τ) (s : Station τ) (argv : List CStr) : Int × Station τ :=
  match argv with
  | [_, satNoSel] =>
    let (ok, d) := mcsSatSel env.toDopplerEnv s.doppler (UInt32.ofInt (atoi satNoSel))
    if ok = 0 then (cmdErrorFail, { s with doppler := d })
    else (cmdErrorNone, { s with doppler := d })
  | _ => (cmdErrorSyntax, s)

end CspTerm.Radio
