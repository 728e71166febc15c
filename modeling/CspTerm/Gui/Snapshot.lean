import CspTerm.Gui.Backend
import CspTerm.Gui.Commands

/-!
# The status report (`gui_backend.c`)

`gui_backend_snapshot` copies what telemetry reports out of `gui_state` and prints the pass schedule
as a JSON array into 512 bytes; `gui_backend_send_status_payload` prints all of it as one line.
-/

namespace CspTerm.Gui

open CString Calendar

variable {τ δ : Type}

/-! ## The pass schedule as text -/

/-- `sizeof(snap->passes_json)`. -/
def passesJsonSize : Nat := 512

def isoUtc (seconds : Int) : CStr := (gmtime seconds).elim [] fun tm => isoText tm ++ cstr "Z"

/-- The object that is printed for a pass, without the comma that may follow. -/
def passText (p : GuiBackendPass) : CStr :=
  cstr "\x7b\"name\":\"" ++ p.name.val ++ cstr "\",\"aos\":\"" ++ isoUtc p.aosUtc ++
    cstr "\",\"los\":\"" ++ isoUtc p.losUtc ++ cstr "\",\"duration_sec\":" ++
    fmtNat p.durationSec.toNat ++ cstr ",\"peak_elevation_deg\":" ++
    fmtNat p.peakElevationDeg.toNat ++ cstr "\x7d"

/-- `snprintf` behind `written` bytes of the array: what does not fit is cut off. -/
def snprintfBehind (written text : CStr) : CStr :=
  written ++ text.take (passesJsonSize - written.length - 1)

/-- The loop over the passes. It stops at the first one that does not fit, whose beginning fills the
array. -/
def printPasses (written : CStr) : List GuiBackendPass → CStr
  | [] => written
  | p :: rest =>
    let text := passText p ++ if rest = [] then [] else cstr ","
    if text.length ≥ passesJsonSize - written.length then snprintfBehind written text
    else printPasses (written ++ text) rest

/-- `snap->passes_json`. A schedule without a closing bracket in its text is reported as empty. -/
def passesJson (passes : List GuiBackendPass) : CStr :=
  let text := snprintfBehind (printPasses (cstr "[") passes) (cstr "]")
  if passes = [] then cstr "[]"
  else if (93 : UInt8) ∈ text then text
  else cstr "[]"

/-! ## The snapshot -/

structure GuiBackendSnapshot (δ : Type) where
  stationName : CStr
  stationMode : GuiBackendMode
  emergencyStopEngaged : Bool
  stationLat : δ
  stationLon : δ
  stationAltM : δ
  stationTrueNorthDeg : δ
  utcIso : CStr
  localIso : CStr
  antenna : GuiBackendAntenna δ
  rf : GuiBackendRf
  sat : GuiBackendSatellite δ
  tleAgeSec : Int
  passesJson : CStr
  faultsJson : CStr

/-- `gui_backend_snapshot`. -/
def GuiBackend.snapshot (b : GuiBackend τ δ) (env : BackendEnv τ) : GuiBackendSnapshot δ :=
  let utcRef := if b.lastStatusUtc ≠ 0 then b.lastStatusUtc else env.now
  { stationName := b.stationName.val
    stationMode := b.stationMode
    emergencyStopEngaged := b.emergencyStopEngaged
    stationLat := b.stationLat
    stationLon := b.stationLon
    stationAltM := b.stationAltM
    stationTrueNorthDeg := b.stationTrueNorthDeg
    utcIso := isoUtc utcRef
    localIso :=
      if b.lastStatusLocal.val ≠ [] then b.lastStatusLocal.val
      else (env.localtime utcRef).elim [] isoText
    antenna := b.antenna
    rf := b.station.gui.rf
    sat := b.satellite
    tleAgeSec := if b.satellite.tleEpoch > 0 then env.now - b.satellite.tleEpoch else 0
    passesJson := Gui.passesJson b.passSchedule.val
    faultsJson := cstr "[]" }

def boolText (flag : Bool) : CStr := if flag then cstr "true" else cstr "false"

/-- What `gui_backend_send_status_payload` has to print, with the newline at its end. -/
def statusText [CDouble δ] (snap : GuiBackendSnapshot δ) (messageType : CStr) : CStr :=
  cstr "\x7b\"type\":\"" ++ messageType ++
    cstr "\",\"station\":\x7b\"name\":\"" ++ snap.stationName ++
    cstr "\",\"mode\":\"" ++ guiBackendModeToString snap.stationMode ++
    cstr "\",\"emergency_stop\":" ++ boolText snap.emergencyStopEngaged ++
    cstr ",\"lat\":" ++ CDouble.fmt 6 snap.stationLat ++
    cstr ",\"lon\":" ++ CDouble.fmt 6 snap.stationLon ++
    cstr ",\"alt_m\":" ++ CDouble.fmt 1 snap.stationAltM ++
    cstr ",\"true_north_deg\":" ++ CDouble.fmt 2 snap.stationTrueNorthDeg ++
    cstr ",\"time_utc\":\"" ++ snap.utcIso ++
    cstr "\",\"time_local\":\"" ++ snap.localIso ++
    cstr "\"\x7d,\"antenna\":\x7b\"az_deg\":" ++ CDouble.fmt 2 snap.antenna.azDeg ++
    cstr ",\"el_deg\":" ++ CDouble.fmt 2 snap.antenna.elDeg ++
    cstr ",\"last_command_success\":" ++ boolText (snap.antenna.lastCommandSuccess ≠ 0) ++
    cstr "\x7d,\"rf\":\x7b\"tx_hz\":" ++ fmtInt snap.rf.txFreqHz ++
    cstr ",\"rx_hz\":" ++ fmtInt snap.rf.rxFreqHz ++
    cstr "\x7d,\"satellite\":\x7b\"norad\":" ++ fmtNat snap.sat.noradId.toNat ++
    cstr ",\"lat_deg\":" ++ CDouble.fmt 3 snap.sat.latDeg ++
    cstr ",\"lon_deg\":" ++ CDouble.fmt 3 snap.sat.lonDeg ++
    cstr ",\"alt_km\":" ++ CDouble.fmt 2 snap.sat.altKm ++
    cstr ",\"velocity_km_s\":" ++ CDouble.fmt 3 snap.sat.velocityKmS ++
    cstr ",\"range_km\":" ++ CDouble.fmt 2 snap.sat.rangeKm ++
    cstr ",\"range_rate_km_s\":" ++ CDouble.fmt 3 snap.sat.rangeRateKmS ++
    cstr ",\"tle_age_sec\":" ++ fmtInt snap.tleAgeSec ++
    cstr "\x7d,\"passes\":" ++ snap.passesJson ++
    cstr ",\"faults\":" ++ snap.faultsJson ++ cstr "\x7d\n"

/-- `gui_backend_send_status_payload`. -/
def guiBackendSendStatusPayload [CDouble δ] (snap : GuiBackendSnapshot δ) (messageType : CStr)
    (includeHeader : Bool) : List CStr :=
  (if includeHeader then [cstr "OK STATUS\n"] else []) ++
    [guiBackendSendFmt (statusText snap messageType)] ++
    (if includeHeader then [cstr "END\n"] else [])

/-- What `gui_backend_emit_status_to_all` sends to each connected client. -/
def guiBackendEmitStatus [CDouble δ] (b : GuiBackend τ δ) (env : BackendEnv τ) : List CStr :=
  guiBackendSendStatusPayload (b.snapshot env) (cstr "telemetry") false

end CspTerm.Gui
