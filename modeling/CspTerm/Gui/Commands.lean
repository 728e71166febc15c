import CspTerm.Station

/-!
# GUI commands that program the radio (`gui_backend.c`)

The handlers behind `SET_SAT`, `SET_TX` and `SET_RX`. A handler returns the messages it sends to the
client and the state it leaves.
-/

namespace CspTerm.Gui

open CString CspTerm.Radio

variable {τ : Type}

/-- `gui_backend_send_fmt`: the formatted text is cut to the buffer it is printed into. -/
def guiBackendSendFmt (text : CStr) : CStr := text.take (guiBackendBufferSize - 1)

/-- `gui_backend_parse_long`: the number, if the whole token is one and lies in the range. -/
def guiBackendParseLong (token : CStr) (min max : Int) : Option Int :=
  let parsed := strtol token 0
  if parsed.erange ∨ ¬ parsed.converted ∨ parsed.rest ≠ [] then none
  else if parsed.value < min ∨ parsed.value > max then none
  else some parsed.value

def okSatellite (value : Int) : CStr :=
  guiBackendSendFmt (cstr "OK SATELLITE " ++ fmtInt value ++ cstr "\n")

def guiBackendHandleSetSat (env : StationEnv τ) (s : Station τ) (token : Option CStr) :
    List CStr × Station τ :=
  match token with
  | none => ([cstr "ERROR Missing satellite id\n"], s)
  | some token =>
    match guiBackendParseLong token 1 0xFF with
    | none => ([cstr "ERROR Invalid satellite id\n"], s)
    | some value =>
      let (ok, d) := mcsSatSel env.toDopplerEnv s.doppler (UInt32.ofInt value)
      let s := { s with doppler := d }
      if ok = 0 then ([cstr "ERROR Unable to select satellite\n"], s)
      else
        let gui := guiBackendPushEvent s.gui env.clock .info (cstr "GUI")
          (cstr "Satellite selection") token
        ([okSatellite value], { s with gui := gui })

/-- `gui_backend_handle_set_freq`, for `SET_TX` (`isTx`) and `SET_RX`. -/
def guiBackendHandleSetFreq (env : StationEnv τ) (s : Station τ) (token : Option CStr)
    (isTx : Bool) : List CStr × Station τ :=
  match token with
  | none => ([cstr "ERROR Missing frequency\n"], s)
  | some token =>
    match guiBackendParseLong token 0 longMax with
    | none => ([cstr "ERROR Invalid frequency\n"], s)
    | some value =>
      let (success, d) :=
        if isTx then dopplerSetTxFreq env.toDopplerEnv s.doppler (UInt32.ofInt value)
        else dopplerSetRxFreq env.toDopplerEnv s.doppler (UInt32.ofInt value)
      let s := { s with doppler := d }
      if success = 0 then ([cstr "ERROR Frequency configuration failed\n"], s)
      else
        let rf := if isTx then { s.gui.rf with txFreqHz := toInt32 value }
          else { s.gui.rf with rxFreqHz := toInt32 value }
        let gui := guiBackendPushEvent { s.gui with rf := rf } env.clock .info (cstr "GUI")
          (if isTx then cstr "Set TX frequency" else cstr "Set RX frequency") token
        ([guiBackendSendFmt (cstr "OK " ++ (if isTx then cstr "TX" else cstr "RX") ++ cstr " " ++
          fmtInt value ++ cstr "\n")], { s with gui := gui })

end CspTerm.Gui
