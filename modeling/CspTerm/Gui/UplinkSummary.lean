import CspTerm.Gui.HandleCommand
import CspTerm.Lib.Interleaving

/-!
# Concurrent uplink notifications (`gui_backend_notify_uplink`)

A call of `gui_backend_notify_uplink` takes the lock of `gui_state` twice: once to store the summary
of the uplink, and once, in `gui_backend_push_event`, to append the event. Between the two, the calls
of other threads can take it. The threads call the function any number of times, one after another;
the atomic steps are the sections under the lock.
-/

namespace CspTerm.Gui

open CString Interleaving

/-- The arguments of a call, and the time its event gets. -/
structure UplinkNotice where
  origin : Option CStr
  filePath : Option CStr
  bytes : UInt64
  success : Int
  clock : Timespec
deriving DecidableEq, Repr

/-- The sections of a call that hold the lock. -/
inductive UplinkSection where
  | summary (n : UplinkNotice)
  | event (n : UplinkNotice)
deriving DecidableEq, Repr

/-- The text of the event. -/
def uplinkDetail (bytes : Nat) (success : Int) : CStr :=
  strncpyCut 256 <|
    (if success ≠ 0 then cstr "success" else cstr "failure") ++ cstr " bytes=" ++ fmtNat bytes

def uplinkType (success : Int) : GuiBackendEventType := if success ≠ 0 then .uplink else .error

def UplinkSection.run (g : GuiBackendState) : UplinkSection → GuiBackendState
  | .summary n =>
    { g with
      lastUplinkBytes := n.bytes.toNat
      lastUplinkSuccess := n.success
      lastUplinkOrigin := n.origin.elim g.lastUplinkOrigin (strncpyCut 32)
      lastUplinkFile := n.filePath.elim [] (strncpyCut pathMax) }
  | .event n =>
    guiBackendPushEvent g n.clock (uplinkType n.success) (n.origin.getD (cstr "UNKNOWN"))
      (cstr "Uplink transmission") (uplinkDetail n.bytes.toNat n.success)

/-- What a thread executes that makes these calls. -/
def notifyProgram (calls : List UplinkNotice) : List UplinkSection :=
  calls.flatMap fun n => [.summary n, .event n]

variable {ι : Type}

/-- The sections in the order in which they get the lock. -/
def runSections (g : GuiBackendState) (l : List (ι × UplinkSection)) : GuiBackendState :=
  l.foldl (fun g x => x.2.run g) g

/-- A call that is not interrupted is `gui_backend_notify_uplink`. -/
theorem run_notify (g : GuiBackendState) (n : UplinkNotice) :
    UplinkSection.run (UplinkSection.run g (.summary n)) (.event n) =
      guiBackendNotifyUplink g n.clock n.origin n.filePath n.bytes.toNat n.success := rfl

/-! ## Summary and events -/

/-- The newest event of an uplink in the ring. -/
def GuiBackendState.newestUplink (g : GuiBackendState) : Option GuiBackendEvent :=
  (newestEvents g guiBackendMaxEvents).reverse.find? (·.summary = cstr "Uplink transmission")

/-- `LAST_UPLINK` reports the origin, the byte count and the outcome of the event. -/
def GuiBackendState.Summarizes (g : GuiBackendState) (e : GuiBackendEvent) : Prop :=
  e.origin = strncpyCut 32 g.lastUplinkOrigin ∧
    e.detail = uplinkDetail g.lastUplinkBytes g.lastUplinkSuccess ∧
    e.type = uplinkType g.lastUplinkSuccess

/-- The summary is that of the newest event of an uplink. -/
def GuiBackendState.SummaryCurrent (g : GuiBackendState) : Prop :=
  ∃ e, g.newestUplink = some e ∧ g.Summarizes e

/-! ## The order of the sections -/

def UplinkSection.summary? : UplinkSection → Option UplinkNotice
  | .summary n => some n
  | .event _ => none

def UplinkSection.event? : UplinkSection → Option UplinkNotice
  | .summary _ => none
  | .event n => some n

/-- The calls in the order of their first sections. -/
def summaries (l : List (ι × UplinkSection)) : List UplinkNotice := l.filterMap (·.2.summary?)

/-- The calls in the order of their second sections. -/
def events (l : List (ι × UplinkSection)) : List UplinkNotice := l.filterMap (·.2.event?)

/-- The origin that the summaries leave: the last one that was given. -/
def lastOrigin (g : GuiBackendState) (l : List (ι × UplinkSection)) : CStr :=
  (((summaries l).filterMap (·.origin)).getLast?).elim g.lastUplinkOrigin (strncpyCut 32)

/-- The call that stores the summary last and the call that appends its event last report the same
bytes and outcome, and the origin given last is that of the event. -/
def SameLast (g : GuiBackendState) (l : List (ι × UplinkSection)) : Prop :=
  ∃ a ∈ (summaries l).getLast?, ∃ b ∈ (events l).getLast?,
    a.bytes = b.bytes ∧ (a.success ≠ 0 ↔ b.success ≠ 0) ∧
      strncpyCut 32 (lastOrigin g l) = strncpyCut 32 (b.origin.getD (cstr "UNKNOWN"))

end CspTerm.Gui
