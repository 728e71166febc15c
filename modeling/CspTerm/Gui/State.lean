import CspTerm.Lib.CString

/-!
# The state of the GUI backend (`gui_backend.c`)

The record `gui_state` behind the backend's lock: the ring of the newest events, the summary of the
last uplink, and the radio frequencies that `STATUS` reports.
-/

namespace CspTerm.Gui

open CString

abbrev guiBackendMaxEvents : Nat := 64

def guiBackendBufferSize : Nat := 1024

def pathMax : Nat := 4096

inductive GuiBackendEventType where
  | uplink
  | downlink
  | info
  | error
deriving DecidableEq, Repr

structure Timespec where
  sec : Int
  nsec : Int
deriving DecidableEq, Repr

structure GuiBackendEvent where
  type : GuiBackendEventType
  timestamp : Timespec
  origin : CStr
  summary : CStr
  detail : CStr
deriving DecidableEq, Repr

/-- `gui_state.rf`. -/
structure GuiBackendRf where
  txFreqHz : Int
  rxFreqHz : Int
deriving DecidableEq, Repr

/-- `gui_state`. The ring positions are in range by their types. -/
structure GuiBackendState where
  events : Vector GuiBackendEvent guiBackendMaxEvents
  start : Fin guiBackendMaxEvents
  count : Fin (guiBackendMaxEvents + 1)
  lastUplinkFile : CStr
  lastUplinkBytes : Nat
  lastUplinkSuccess : Int
  lastUplinkOrigin : CStr
  rf : GuiBackendRf
deriving DecidableEq, Repr

theorem guiBackendMaxEvents_neZero : NeZero guiBackendMaxEvents := ⟨by decide⟩

def GuiBackendState.init : GuiBackendState where
  events := Vector.replicate guiBackendMaxEvents
    { type := .uplink, timestamp := ⟨0, 0⟩, origin := [], summary := [], detail := [] }
  start := 0
  count := 0
  lastUplinkFile := []
  lastUplinkBytes := 0
  lastUplinkSuccess := 0
  lastUplinkOrigin := []
  rf := { txFreqHz := 0, rxFreqHz := 0 }

/-- `strncpy` into an array of `size` bytes, followed by a NUL in its last byte. -/
def strncpyCut (size : Nat) (s : CStr) : CStr := s.take (size - 1)

/-- `gui_backend_push_event`, at time `now`. -/
def guiBackendPushEvent (g : GuiBackendState) (now : Timespec) (type : GuiBackendEventType)
    (origin summary detail : CStr) : GuiBackendState :=
  let event : GuiBackendEvent :=
    { type := type, timestamp := now, origin := strncpyCut 32 origin,
      summary := strncpyCut 128 summary, detail := strncpyCut 256 detail }
  let index : Fin guiBackendMaxEvents := Fin.ofNat guiBackendMaxEvents (g.start.val + g.count.val)
  let g := { g with events := g.events.set index event }
  if h : g.count.val < guiBackendMaxEvents then { g with count := ⟨g.count + 1, by omega⟩ }
  else { g with start := g.start + 1 }

/-- `gui_backend_notify_uplink`, at time `now`. -/
def guiBackendNotifyUplink (g : GuiBackendState) (now : Timespec) (origin filePath : Option CStr)
    (bytes : Nat) (success : Int) : GuiBackendState :=
  let g := { g with
    lastUplinkBytes := bytes
    lastUplinkSuccess := success
    lastUplinkOrigin := origin.elim g.lastUplinkOrigin (strncpyCut 32)
    lastUplinkFile := filePath.elim [] (strncpyCut pathMax) }
  let detail := strncpyCut 256 <|
    (if success ≠ 0 then cstr "success" else cstr "failure") ++ cstr " bytes=" ++ fmtNat bytes
  guiBackendPushEvent g now (if success ≠ 0 then .uplink else .error)
    (origin.getD (cstr "UNKNOWN")) (cstr "Uplink transmission") detail

/-! ## What the reports leave alone -/

@[simp] theorem guiBackendPushEvent_rf (g : GuiBackendState) (now : Timespec)
    (type : GuiBackendEventType) (origin summary detail : CStr) :
    (guiBackendPushEvent g now type origin summary detail).rf = g.rf := by
  unfold guiBackendPushEvent
  dsimp only
  split_ifs <;> rfl

@[simp] theorem guiBackendNotifyUplink_rf (g : GuiBackendState) (now : Timespec)
    (origin filePath : Option CStr) (bytes : Nat) (success : Int) :
    (guiBackendNotifyUplink g now origin filePath bytes success).rf = g.rf := by
  unfold guiBackendNotifyUplink
  rw [guiBackendPushEvent_rf]

end CspTerm.Gui
