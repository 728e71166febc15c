import CspTerm.Gui.Framing

/-!
# The pass schedule in a report (`gui_backend.c`)

What a report is to say about the schedule that `gui_backend_update_pass_schedule` took over, and the
room that saying it takes.
-/

namespace CspTerm.Gui

open CString Calendar

/-- The entry of a pass: its name, its two times as dates, its duration and its peak elevation. -/
def passEntry (p : GuiBackendPass) : Option Json.Value :=
  (gmtime p.aosUtc).bind fun aos => (gmtime p.losUtc).map fun los => .object
    [(cstr "name", .string p.name.val),
     (cstr "aos", .string (isoText aos ++ cstr "Z")),
     (cstr "los", .string (isoText los ++ cstr "Z")),
     (cstr "duration_sec", .number (fmtNat p.durationSec.toNat)),
     (cstr "peak_elevation_deg", .number (fmtNat p.peakElevationDeg.toNat))]

/-- The text is a JSON array of the entries of the passes, in their order. -/
def ReportsEveryPass (text : CStr) (passes : List GuiBackendPass) : Prop :=
  ∃ entries, List.Forall₂ (fun p v => passEntry p = some v) passes entries ∧
    Json.Denotes text (.array entries)

/-- The number of bytes that the object of a pass takes. -/
def passLength (p : GuiBackendPass) : Nat :=
  67 + p.name.val.length + (isoUtc p.aosUtc).length + (isoUtc p.losUtc).length +
    (fmtNat p.durationSec.toNat).length + (fmtNat p.peakElevationDeg.toNat).length

/-- The number of bytes that the array takes: its brackets, the objects, and the commas between
them. -/
def scheduleLength (passes : List GuiBackendPass) : Nat :=
  2 + (passes.map passLength).sum + (passes.length - 1)

/-- The array has room for the schedule, no name needs an escape, and the times are ones that `struct
tm` can hold. -/
def ScheduleFits (passes : List GuiBackendPass) : Prop :=
  scheduleLength passes < passesJsonSize ∧ ∀ p ∈ passes, Json.Plain p.name.val ∧
    (gmtime p.aosUtc).isSome = true ∧ (gmtime p.losUtc).isSome = true

end CspTerm.Gui
