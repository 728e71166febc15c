import CspTerm.Gui.Session
import CspTerm.Lib.Json
import CspTerm.Lib.Run

/-!
# What clients receive

A client reads lines: answers, events, and JSON documents. This module collects everything that
changes the backend or makes it send something, and says what a client can rely on: every message
ends with a newline, and a report is a JSON document with the keys of the user guide.
-/

namespace CspTerm.Gui

open CString CspTerm.Radio CspTerm.Rotator CspTerm.Uplink CspTerm.Csp

variable {τ δ : Type}

/-! ## The documents -/

/-- An entry of `passes`. -/
def passDocument (p : GuiBackendPass) : Json.Value :=
  .object
    [(cstr "name", .string p.name.val),
     (cstr "aos", .string (isoUtc p.aosUtc)),
     (cstr "los", .string (isoUtc p.losUtc)),
     (cstr "duration_sec", .number (fmtNat p.durationSec.toNat)),
     (cstr "peak_elevation_deg", .number (fmtNat p.peakElevationDeg.toNat))]

section

variable [CDouble δ] (snap : GuiBackendSnapshot δ)

def stationDocument : Json.Value :=
  .object
    [(cstr "name", .string snap.stationName),
     (cstr "mode", .string (guiBackendModeToString snap.stationMode)),
     (cstr "emergency_stop", .bool snap.emergencyStopEngaged),
     (cstr "lat", .number (CDouble.fmt 6 snap.stationLat)),
     (cstr "lon", .number (CDouble.fmt 6 snap.stationLon)),
     (cstr "alt_m", .number (CDouble.fmt 1 snap.stationAltM)),
     (cstr "true_north_deg", .number (CDouble.fmt 2 snap.stationTrueNorthDeg)),
     (cstr "time_utc", .string snap.utcIso),
     (cstr "time_local", .string snap.localIso)]

def antennaDocument : Json.Value :=
  .object
    [(cstr "az_deg", .number (CDouble.fmt 2 snap.antenna.azDeg)),
     (cstr "el_deg", .number (CDouble.fmt 2 snap.antenna.elDeg)),
     (cstr "last_command_success", .bool (snap.antenna.lastCommandSuccess ≠ 0))]

omit [CDouble δ] in
def rfDocument : Json.Value :=
  .object
    [(cstr "tx_hz", .number (fmtInt snap.rf.txFreqHz)),
     (cstr "rx_hz", .number (fmtInt snap.rf.rxFreqHz))]

def satelliteDocument : Json.Value :=
  .object
    [(cstr "norad", .number (fmtNat snap.sat.noradId.toNat)),
     (cstr "lat_deg", .number (CDouble.fmt 3 snap.sat.latDeg)),
     (cstr "lon_deg", .number (CDouble.fmt 3 snap.sat.lonDeg)),
     (cstr "alt_km", .number (CDouble.fmt 2 snap.sat.altKm)),
     (cstr "velocity_km_s", .number (CDouble.fmt 3 snap.sat.velocityKmS)),
     (cstr "range_km", .number (CDouble.fmt 2 snap.sat.rangeKm)),
     (cstr "range_rate_km_s", .number (CDouble.fmt 3 snap.sat.rangeRateKmS)),
     (cstr "tle_age_sec", .number (fmtInt snap.tleAgeSec))]

/-- The document that reports a snapshot, with these passes. -/
def statusDocument (messageType : CStr) (passes : List GuiBackendPass) : Json.Value :=
  .object
    [(cstr "type", .string messageType),
     (cstr "station", stationDocument snap),
     (cstr "antenna", antennaDocument snap),
     (cstr "rf", rfDocument snap),
     (cstr "satellite", satelliteDocument snap),
     (cstr "passes", .array (passes.map passDocument)),
     (cstr "faults", .array [])]

end

/-- The line is a report of the state: one JSON document with the documented keys, whose strings are
the stored ones. It lists the passes of the schedule, or none. -/
def IsReport [CDouble δ] (env : BackendEnv τ) (b : GuiBackend τ δ) (messageType line : CStr) :
    Prop :=
  ∃ text, line = text ++ cstr "\n" ∧ ∃ passes, (passes = b.passSchedule.val ∨ passes = []) ∧
    Json.Denotes text (statusDocument (b.snapshot env) messageType passes)

/-! ## Activities -/

/-- Whatever changes the state of the backend or makes it send something. -/
inductive Activity (τ δ : Type) where
  | command (a : CommandLine τ)
  /-- The periodic broadcast, to one client. -/
  | telemetry (env : BackendEnv τ)
  /-- A new client, with its address. -/
  | connected (a b c d : UInt8)
  | tooLong
  | notifyUplink (env : BackendEnv τ) (origin filePath : Option CStr) (bytes : Nat) (success : Int)
  | notifyDownlink (env : BackendEnv τ) (origin filePath : Option CStr) (bytes : Nat)
      (src dst : UInt8)
  | notifyRotator (env : BackendEnv τ) (azimuth elevation : Int) (success : Bool)
  | setStationInfo (env : BackendEnv τ) (name : Option CStr) (lat lon alt trueNorth : δ)
  | setMode (env : BackendEnv τ) (mode : GuiBackendMode)
  | setEmergencyStop (env : BackendEnv τ) (engaged : Bool)
  | updatePassSchedule (passes : List GuiBackendPass)
  | updateSatellite (satellite : GuiBackendSatellite δ)
  /-- Another task works on the radio or moves the antenna. -/
  | others (doppler : Doppler τ) (rotator : RotatorState)

/-- `inet_ntoa`. -/
def inetNtoa (a b c d : UInt8) : CStr :=
  fmtNat a.toNat ++ cstr "." ++ fmtNat b.toNat ++ cstr "." ++ fmtNat c.toNat ++ cstr "." ++
    fmtNat d.toNat

variable [CDouble δ]

def Activity.messages (b : GuiBackend τ δ) : Activity τ δ → List CStr
  | .command a => (a.run b).messages
  | .telemetry env => guiBackendEmitStatus b env
  | .connected a' b' c' d' =>
    [guiBackendSendFmt (cstr "OK CONNECTED gui-backend " ++ inetNtoa a' b' c' d' ++ cstr "\n")]
  | .tooLong => [cstr "ERROR Input too long\n"]
  | .notifyUplink .. | .notifyDownlink .. | .notifyRotator .. | .setStationInfo .. | .setMode ..
  | .setEmergencyStop .. | .updatePassSchedule _ | .updateSatellite _ | .others .. => []

def activityStep (b : GuiBackend τ δ) : Activity τ δ → GuiBackend τ δ
  | .command a => commandStep b a
  | .telemetry _ | .connected .. | .tooLong => b
  | .notifyUplink env origin filePath bytes success =>
    { b with station := { b.station with
        gui := guiBackendNotifyUplink b.station.gui env.clock origin filePath bytes success } }
  | .notifyDownlink env origin filePath bytes src dst =>
    b.notifyDownlink env origin filePath bytes src dst
  | .notifyRotator env azimuth elevation success => b.notifyRotator env azimuth elevation success
  | .setStationInfo env name lat lon alt trueNorth =>
    b.setStationInfo env name lat lon alt trueNorth
  | .setMode env mode => b.setMode env mode
  | .setEmergencyStop env engaged => b.setEmergencyStop env engaged
  | .updatePassSchedule passes => b.updatePassSchedule passes
  | .updateSatellite satellite => b.updateSatellite satellite
  | .others doppler rotator =>
    { b with station := { b.station with doppler := doppler }, rotator := rotator }

/-! ## What a client can rely on -/

/-- The command that a line gives. -/
def lineCommand (line : CStr) : Option GuiCommand := (commandTokens line).head?.bind guiCommand

/-- Every message is made of whole lines, and reports are documents. -/
def WellFramed (b : GuiBackend τ δ) (a : Activity τ δ) : Prop :=
  (∀ m ∈ a.messages b, m.getLast? = some 10) ∧
    match a with
    | .command c => lineCommand c.line = some .status →
        ∃ line, a.messages b = [cstr "OK STATUS\n", line, cstr "END\n"] ∧
          IsReport c.env b (cstr "status") line
    | .telemetry env => ∃ line, a.messages b = [line] ∧ IsReport env b (cstr "telemetry") line
    | .connected .. | .tooLong | .notifyUplink .. | .notifyDownlink .. | .notifyRotator ..
    | .setStationInfo .. | .setMode .. | .setEmergencyStop .. | .updatePassSchedule _
    | .updateSatellite _ | .others .. => True

/-! ## What fits -/

/-- The text fits the buffer that it is printed into. -/
def Fits (text : CStr) : Prop := text.length < guiBackendBufferSize

omit [CDouble δ] in
/-- The whole schedule as a JSON array. -/
def scheduleText (passes : List GuiBackendPass) : CStr :=
  Json.print (.array (passes.map passDocument))

omit [CDouble δ] in
/-- The schedule fits its array and no name in it needs an escape; or it is cut before the first
closing bracket, and reported as empty. -/
def ScheduleReportable (passes : List GuiBackendPass) : Prop :=
  ((scheduleText passes).length < passesJsonSize ∧ ∀ p ∈ passes, Json.Plain p.name.val) ∨
    (93 : UInt8) ∉ (scheduleText passes).take (passesJsonSize - 1)

/-- The report fits the buffer, and no string in it needs an escape. -/
def Reportable (env : BackendEnv τ) (b : GuiBackend τ δ) (messageType : CStr) : Prop :=
  Fits (statusText (b.snapshot env) messageType) ∧ Json.Plain b.stationName.val ∧
    ScheduleReportable b.passSchedule.val

/-- The messages of this activity fit, and its report needs no escapes. -/
def Sendable (b : GuiBackend τ δ) : Activity τ δ → Prop
  | .command a =>
    match lineCommand a.line with
    | some .status => Reportable a.env b (cstr "status")
    | some .setMode => ∀ token ∈ (commandTokens a.line)[1]?, token.length ≤ 1010
    | some .lastUplink => Fits (lastUplinkText b.station.gui)
    | some .lastDownlink => Fits (lastDownlinkText b)
    | none | some .ping | some .help | some .setEmergency | some .setSat | some .setTx
    | some .setRx | some .setAzel | some .sendPacket | some .getEvents => True
  | .telemetry env => Reportable env b (cstr "telemetry")
  | .connected .. | .tooLong | .notifyUplink .. | .notifyDownlink .. | .notifyRotator ..
  | .setStationInfo .. | .setMode .. | .setEmergencyStop .. | .updatePassSchedule _
  | .updateSatellite _ | .others .. => True

end CspTerm.Gui
