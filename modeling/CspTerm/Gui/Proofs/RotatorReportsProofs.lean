import CspTerm.Gui.RotatorReports
import CspTerm.Gui.Session
import CspTerm.Rotator.Proofs.SerialRotatorProofs

/-!
# When the telemetry is right about the rotator

Of the exits of `serial_set_az_el` only two notify the backend: a `write` that took any bytes is
reported as a success, one that failed as a failure. A port that does not open or take its settings,
and a `write` that takes nothing, leave the antenna state and the events as they were.
-/

namespace CspTerm.Gui

open CString CspTerm.Rotator

variable {τ δ : Type} [CDouble δ]

/-- `SET_AZEL` with two numbers in range is a call of `serial_set_az_el`. -/
theorem handleSetAzel_backend {env : BackendEnv τ} {b : GuiBackend τ δ} {azToken elToken : CStr}
    {azi ele : Int} (ha : guiBackendParseLong azToken (-360) 360 = some azi)
    (he : guiBackendParseLong elToken (-90) 180 = some ele) :
    (b.handleSetAzel env (some azToken) (some elToken)).backend =
      rotatorStep b { azi := azi, ele := ele, env := env } := by
  simp only [GuiBackend.handleSetAzel, ha, he]
  rfl

/-- An event that is pushed changes the ring. -/
theorem guiBackendPushEvent_ne (g : GuiBackendState) (now : Timespec) (type : GuiBackendEventType)
    (origin summary detail : CStr) : guiBackendPushEvent g now type origin summary detail ≠ g := by
  intro h
  unfold guiBackendPushEvent at h
  dsimp only at h
  split_ifs at h with hc
  · have hcount := congrArg (fun g : GuiBackendState => g.count.val) h
    dsimp only at hcount
    omega
  · have hstart := congrArg (fun g : GuiBackendState => g.start.val) h
    have hval : (g.start + 1).val = (g.start.val + 1) % guiBackendMaxEvents := Fin.val_add ..
    have hlt := g.start.isLt
    dsimp only at hstart
    rw [hval] at hstart
    unfold guiBackendMaxEvents at hlt hstart
    omega

/-! ## What a call reports -/

/-- What the write reports: a success if it took any bytes, a failure on an error, and nothing if it
took none. -/
theorem notifyOps_writePosition (env : BackendEnv τ) (b : GuiBackend τ δ) (azi ele : Int)
    (serial : SerialEnv) :
    b.notifyOps env (writePosition azi ele serial) =
      if serial.write = 0 then b
      else if serial.write > 0 then b.notifyRotator env azi ele true
      else b.notifyRotator env azi ele false := by
  unfold writePosition
  dsimp only
  split_ifs <;> rfl

/-- A notification is the report of a call that was written completely if and only if it says so. -/
theorem notifyRotator_reports (b : GuiBackend τ δ) (env : BackendEnv τ) (azi ele : Int)
    (success : Bool) :
    (∃ type detail, (b.notifyRotator env azi ele success).station.gui =
      guiBackendPushEvent b.station.gui env.clock type (cstr "ROTATOR") (cstr "Rotator command")
        detail) ∧
    (b.notifyRotator env azi ele success).antenna.azDeg = CDouble.ofInt azi ∧
    (b.notifyRotator env azi ele success).antenna.elDeg = CDouble.ofInt ele ∧
    ((b.notifyRotator env azi ele success).antenna.lastCommandSuccess ≠ 0 ↔ success = true) := by
  refine ⟨⟨_, _, rfl⟩, rfl, rfl, ?_⟩
  cases success <;> simp [GuiBackend.notifyRotator, GuiBackend.pushEvent]

/-- What a call that is not suppressed does: it reports a success or a failure, or nothing at all. -/
theorem rotatorStep_cases {b : GuiBackend τ δ} {c : RotatorCommand τ}
    (hc : ¬ b.rotator.tooClose c.azi c.ele) :
    ((0 ≤ c.env.serial.openFd ∧ c.env.serial.tcgetattr = 0 ∧ c.env.serial.tcsetattr = 0) ∧
      0 < c.env.serial.write ∧
      rotatorStep b c = { b with rotator := (c.request.call b.rotator).state }.notifyRotator
        c.env c.azi c.ele true) ∨
    ((0 ≤ c.env.serial.openFd ∧ c.env.serial.tcgetattr = 0 ∧ c.env.serial.tcsetattr = 0) ∧
      c.env.serial.write < 0 ∧
      rotatorStep b c = { b with rotator := (c.request.call b.rotator).state }.notifyRotator
        c.env c.azi c.ele false) ∨
    (¬ ((0 ≤ c.env.serial.openFd ∧ c.env.serial.tcgetattr = 0 ∧ c.env.serial.tcsetattr = 0) ∧
        c.env.serial.write ≠ 0) ∧
      rotatorStep b c = { b with rotator := (c.request.call b.rotator).state }) := by
  rcases call_ops_of_not_tooClose (s := b.rotator) (r := c.request) hc with
    ⟨hopen, hops⟩ | ⟨hopen, hops⟩
  · have hstep : rotatorStep b c =
        ({ b with rotator := (c.request.call b.rotator).state }.notifyOps c.env
          (writePosition c.azi c.ele c.env.serial)) := by
      unfold rotatorStep
      dsimp only
      rw [hops]
      rfl
    rw [hstep, notifyOps_writePosition]
    rcases Int.lt_trichotomy c.env.serial.write 0 with hneg | h0 | hpos
    · refine Or.inr (Or.inl ⟨hopen, hneg, ?_⟩)
      rw [if_neg (by omega), if_neg (by omega)]
    · refine Or.inr (Or.inr ⟨fun h => h.2 h0, ?_⟩)
      rw [if_pos h0]
    · refine Or.inl ⟨hopen, hpos, ?_⟩
      rw [if_neg (by omega), if_pos hpos]
  · refine Or.inr (Or.inr ⟨fun h => hopen h.1, ?_⟩)
    unfold rotatorStep
    dsimp only
    rw [hops]
    rfl

/-- **A call is reported right exactly for the reportable outcomes.** -/
theorem reportsWhatHappened_iff (b : GuiBackend τ δ) (c : RotatorCommand τ) :
    ReportsWhatHappened b c ↔ ReportableOutcome b c := by
  unfold ReportsWhatHappened ReportableOutcome
  by_cases hc : b.rotator.tooClose c.azi c.ele
  · exact ⟨fun _ => Or.inl hc, fun _ hn => absurd hc hn⟩
  have hwritten : WrittenCompletely b c ↔ c.request.Arrives := by
    have hany := any_commands_call b.rotator c.request
    exact ⟨fun h => (hany.mp h).2, fun h => hany.mpr ⟨hc, h⟩⟩
  have hwrite : c.request.Arrives → c.env.serial.write = setAzElSize := fun h => h.2.2.2.1
  have hsize : (0 : Int) < setAzElSize := by decide
  rw [hwritten, or_iff_right hc]
  rcases rotatorStep_cases hc with ⟨⟨ho, hg, hs⟩, hpos, hstep⟩ | ⟨⟨ho, hg, hs⟩, hneg, hstep⟩ |
    ⟨hnot, hstep⟩ <;> rw [hstep]
  · obtain ⟨hpush, haz, hel, hflag⟩ := notifyRotator_reports
      { b with rotator := (c.request.call b.rotator).state } c.env c.azi c.ele true
    constructor
    · intro h
      obtain ⟨-, -, -, hiff⟩ := h hc
      exact ⟨ho, hg, hs, Or.inr (hiff.mp (hflag.mpr rfl))⟩
    · rintro ⟨-, -, -, hneg | harrives⟩
      · omega
      · exact fun _ => ⟨hpush, haz, hel, fun _ => harrives, fun _ => hflag.mpr rfl⟩
  · obtain ⟨hpush, haz, hel, hflag⟩ := notifyRotator_reports
      { b with rotator := (c.request.call b.rotator).state } c.env c.azi c.ele false
    refine ⟨fun _ => ⟨ho, hg, hs, Or.inl hneg⟩, fun _ _ => ⟨hpush, haz, hel, ?_⟩⟩
    rw [hflag]
    refine ⟨fun h => absurd h Bool.false_ne_true, ?_⟩
    intro harrives
    have := hwrite harrives
    omega
  · -- neither an event nor the antenna state tells of the call
    constructor
    · intro h
      obtain ⟨⟨type, detail, hpush⟩, -⟩ := h hc
      exact absurd hpush.symm (guiBackendPushEvent_ne _ _ _ _ _ _)
    · rintro ⟨ho, hg, hs, hwritten⟩
      have h0 : c.env.serial.write ≠ 0 := by
        rcases hwritten with hneg | harrives
        · omega
        · have := hwrite harrives
          omega
      exact absurd ⟨⟨ho, hg, hs⟩, h0⟩ hnot

end CspTerm.Gui
