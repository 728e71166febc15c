import CspTerm.Lib.Calendar
import CspTerm.Rotator.SerialRotator
import CspTerm.Uplink.SendPacket

/-!
# The whole state behind the GUI (`gui_backend.c`)

Next to the event ring, the uplink summary and the radio frequencies, `gui_state` holds what
telemetry reports: the station, the antenna, the satellite and the pass schedule. This module has
the rest of the record and the functions by which the other parts of the program keep it current.

The C type `double` is a parameter: all that the backend does with it is to convert an `int` and to
print it.
-/

namespace CspTerm.Gui

open CString Calendar CspTerm.Radio CspTerm.Rotator CspTerm.Uplink CspTerm.Csp

class CDouble (δ : Type) where
  ofInt : Int → δ
  /-- `%.<precision>f`. -/
  fmt : Nat → δ → CStr

/-- A C string in an array of `size` bytes, with room for its NUL. -/
def CharArray (size : Nat) : Type := { s : CStr // s.length ≤ size - 1 }
deriving DecidableEq

/-- `strncpy` of `s` into the array, followed by a NUL in its last byte. -/
def CharArray.copy (size : Nat) (s : CStr) : CharArray size :=
  ⟨strncpyCut size s, List.length_take_le _ _⟩

inductive GuiBackendMode where
  | idle
  | tracking
  | maintenance
deriving DecidableEq, Repr

abbrev guiBackendMaxPasses : Nat := 16

structure GuiBackendPass where
  name : CharArray 32
  aosUtc : Int
  losUtc : Int
  durationSec : UInt16
  peakElevationDeg : UInt16
deriving DecidableEq

/-- `gui_state.pass_schedule`. -/
def PassSchedule : Type := { passes : List GuiBackendPass // passes.length ≤ guiBackendMaxPasses }
deriving DecidableEq

/-- `gui_state.antenna`. -/
structure GuiBackendAntenna (δ : Type) where
  azDeg : δ
  elDeg : δ
  lastCommandSuccess : Int
deriving DecidableEq

structure GuiBackendSatellite (δ : Type) where
  noradId : UInt32
  latDeg : δ
  lonDeg : δ
  altKm : δ
  velocityKmS : δ
  rangeKm : δ
  rangeRateKmS : δ
  tleEpoch : Int
deriving DecidableEq

/-- The program as the GUI commands see it: the radio and the selected satellite with the part of
`gui_state` that they share, the memory of the rotator, and the rest of `gui_state`. -/
structure GuiBackend (τ δ : Type) where
  station : Station τ
  rotator : RotatorState
  lastDownlinkFile : CharArray pathMax
  lastDownlinkBytes : Nat
  lastDownlinkOrigin : CharArray 32
  lastDownlinkSrc : UInt8
  lastDownlinkDst : UInt8
  lastRotatorAzimuth : Int
  lastRotatorElevation : Int
  lastRotatorSuccess : Int
  stationName : CharArray 64
  stationLat : δ
  stationLon : δ
  stationAltM : δ
  stationTrueNorthDeg : δ
  stationMode : GuiBackendMode
  emergencyStopEngaged : Bool
  lastStatusUtc : Int
  lastStatusLocal : CharArray 32
  antenna : GuiBackendAntenna δ
  satellite : GuiBackendSatellite δ
  passSchedule : PassSchedule
deriving DecidableEq

variable {τ δ : Type}

def GuiBackend.init [CDouble δ] (tle : τ) : GuiBackend τ δ where
  station := .init tle
  rotator := .init
  lastDownlinkFile := .copy pathMax []
  lastDownlinkBytes := 0
  lastDownlinkOrigin := .copy 32 []
  lastDownlinkSrc := 0
  lastDownlinkDst := 0
  lastRotatorAzimuth := 0
  lastRotatorElevation := 0
  lastRotatorSuccess := 0
  stationName := .copy 64 []
  stationLat := CDouble.ofInt 0
  stationLon := CDouble.ofInt 0
  stationAltM := CDouble.ofInt 0
  stationTrueNorthDeg := CDouble.ofInt 0
  stationMode := .idle
  emergencyStopEngaged := false
  lastStatusUtc := 0
  lastStatusLocal := .copy 32 []
  antenna := { azDeg := CDouble.ofInt 0, elDeg := CDouble.ofInt 0, lastCommandSuccess := 0 }
  satellite :=
    { noradId := 0, latDeg := CDouble.ofInt 0, lonDeg := CDouble.ofInt 0,
      altKm := CDouble.ofInt 0, velocityKmS := CDouble.ofInt 0, rangeKm := CDouble.ofInt 0,
      rangeRateKmS := CDouble.ofInt 0, tleEpoch := 0 }
  passSchedule := ⟨[], by simp⟩

/-- The surroundings of one call: those of an uplink request, the serial port, the result of
`csp_buffer_get`, whether there is memory for a payload, and what `time` and the time zone say. -/
structure BackendEnv (τ : Type) extends UplinkEnv τ where
  serial : SerialEnv
  buffer : Option CspPacket
  malloc : Bool
  now : Int
  utcOffset : Int → Int

/-- `localtime_r`. -/
def BackendEnv.localtime (env : BackendEnv τ) (seconds : Int) : Option Tm :=
  gmtime (seconds + env.utcOffset seconds)

/-! ## Keeping the state current -/

namespace GuiBackend

def pushEvent (b : GuiBackend τ δ) (env : BackendEnv τ) (type : GuiBackendEventType)
    (origin summary detail : CStr) : GuiBackend τ δ :=
  { b with station := { b.station with
      gui := guiBackendPushEvent b.station.gui env.clock type origin summary detail } }

/-- `gui_backend_notify_downlink`. -/
def notifyDownlink (b : GuiBackend τ δ) (env : BackendEnv τ) (origin filePath : Option CStr)
    (bytes : Nat) (src dst : UInt8) : GuiBackend τ δ :=
  let b := { b with
    lastDownlinkBytes := bytes
    lastDownlinkSrc := src
    lastDownlinkDst := dst
    lastDownlinkOrigin := origin.elim b.lastDownlinkOrigin (.copy 32 ·)
    lastDownlinkFile := .copy pathMax (filePath.getD []) }
  let detail := strncpyCut 256 <|
    cstr "src=" ++ fmtNat src.toNat ++ cstr " dst=" ++ fmtNat dst.toNat ++ cstr " bytes=" ++
      fmtNat bytes
  b.pushEvent env .downlink (origin.getD (cstr "UNKNOWN")) (cstr "Downlink packet") detail

/-- `gui_backend_notify_rotator`. -/
def notifyRotator [CDouble δ] (b : GuiBackend τ δ) (env : BackendEnv τ) (azimuth elevation : Int)
    (success : Bool) : GuiBackend τ δ :=
  let flag : Int := if success then 1 else 0
  let b := { b with
    antenna := { azDeg := CDouble.ofInt azimuth, elDeg := CDouble.ofInt elevation,
                 lastCommandSuccess := flag }
    lastRotatorAzimuth := azimuth
    lastRotatorElevation := elevation
    lastRotatorSuccess := flag }
  let detail := strncpyCut 128 <|
    cstr "az=" ++ fmtInt azimuth ++ cstr " el=" ++ fmtInt elevation ++ cstr " " ++
      (if success then cstr "success" else cstr "failed")
  b.pushEvent env (if success then .info else .error) (cstr "ROTATOR") (cstr "Rotator command")
    detail

/-- `gui_backend_set_station_info`. -/
def setStationInfo (b : GuiBackend τ δ) (env : BackendEnv τ) (name : Option CStr)
    (lat lon alt trueNorth : δ) : GuiBackend τ δ :=
  let localIso := (env.localtime env.now).elim [] isoText
  let b := { b with
    stationName := name.elim b.stationName (.copy 64 ·)
    stationLat := lat
    stationLon := lon
    stationAltM := alt
    stationTrueNorthDeg := trueNorth
    lastStatusUtc := env.now
    lastStatusLocal := .copy 32 localIso }
  b.pushEvent env .info (cstr "GUI") (cstr "Station info update") b.stationName.val

end GuiBackend

def guiBackendModeToString : GuiBackendMode → CStr
  | .idle => cstr "IDLE"
  | .tracking => cstr "TRACKING"
  | .maintenance => cstr "MAINTENANCE"

namespace GuiBackend

/-- `gui_backend_set_mode`. -/
def setMode (b : GuiBackend τ δ) (env : BackendEnv τ) (mode : GuiBackendMode) : GuiBackend τ δ :=
  let previous := b.stationMode
  let b := { b with stationMode := mode }
  if previous ≠ mode then
    b.pushEvent env .info (cstr "GUI") (cstr "Station mode") (guiBackendModeToString mode)
  else b

/-- `gui_backend_set_emergency_stop`. -/
def setEmergencyStop (b : GuiBackend τ δ) (env : BackendEnv τ) (engaged : Bool) :
    GuiBackend τ δ :=
  let previous := b.emergencyStopEngaged
  let b := { b with emergencyStopEngaged := engaged }
  if previous ≠ engaged then
    b.pushEvent env (if engaged then .error else .info) (cstr "GUI") (cstr "Emergency stop")
      (if engaged then cstr "ENGAGED" else cstr "CLEARED")
  else b

/-- `gui_backend_update_pass_schedule`. -/
def updatePassSchedule (b : GuiBackend τ δ) (passes : List GuiBackendPass) : GuiBackend τ δ :=
  { b with passSchedule := ⟨passes.take guiBackendMaxPasses, List.length_take_le ..⟩ }

/-- `gui_backend_update_satellite`. -/
def updateSatellite (b : GuiBackend τ δ) (satellite : GuiBackendSatellite δ) : GuiBackend τ δ :=
  { b with satellite := satellite }

end GuiBackend

end CspTerm.Gui
