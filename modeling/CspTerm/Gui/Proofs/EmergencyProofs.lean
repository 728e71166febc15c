import CspTerm.Gui.Session
import CspTerm.Radio.Proofs.DopplerProofs
import CspTerm.Uplink.Proofs.SendPacketProofs

/-!
# What the emergency stop does

Nothing that a command does to the rotator, the radio or the uplink depends on the emergency stop:
every handler commutes with forgetting it, together with the events that record its changes.
-/

namespace CspTerm.Gui

open CString CspTerm.Radio CspTerm.Rotator CspTerm.Uplink CspTerm.Csp

variable {τ δ : Type}

/-! ## The handlers of the radio -/

@[simp] theorem guiBackendPushEvent_withoutEvents (g : GuiBackendState) (now : Timespec)
    (type : GuiBackendEventType) (origin summary detail : CStr) :
    (guiBackendPushEvent g now type origin summary detail).withoutEvents = g.withoutEvents := by
  unfold guiBackendPushEvent
  dsimp only
  split_ifs <;> rfl

@[simp] theorem withoutEvents_withoutEvents (s : Station τ) :
    withoutEvents (withoutEvents s) = withoutEvents s := rfl

@[simp] theorem withoutEvents_doppler (s : Station τ) :
    (withoutEvents s).doppler = s.doppler := rfl

/-- Both handlers of the radio see the same frequencies with and without the events. -/
theorem handleSetSat_withoutEvents (env : StationEnv τ) (s : Station τ) (token : Option CStr) :
    withoutEvents (guiBackendHandleSetSat env (withoutEvents s) token).2 =
      withoutEvents (guiBackendHandleSetSat env s token).2 := by
  obtain ⟨d, g⟩ := s
  show withoutEvents (guiBackendHandleSetSat env ⟨d, g.withoutEvents⟩ token).2 = _
  cases token with
  | none => rfl
  | some t =>
    unfold guiBackendHandleSetSat
    cases hp : guiBackendParseLong t 1 0xFF with
    | none => simp only [hp]; rfl
    | some value =>
      simp only [hp]
      split_ifs
      · rfl
      · simp only [withoutEvents, guiBackendPushEvent_withoutEvents]
        rfl

theorem handleSetFreq_withoutEvents (env : StationEnv τ) (s : Station τ) (token : Option CStr)
    (isTx : Bool) :
    withoutEvents (guiBackendHandleSetFreq env (withoutEvents s) token isTx).2 =
      withoutEvents (guiBackendHandleSetFreq env s token isTx).2 := by
  obtain ⟨d, g⟩ := s
  show withoutEvents (guiBackendHandleSetFreq env ⟨d, g.withoutEvents⟩ token isTx).2 = _
  cases token with
  | none => rfl
  | some t =>
    unfold guiBackendHandleSetFreq
    cases hp : guiBackendParseLong t 0 longMax with
    | none => simp only [hp]; rfl
    | some value =>
      simp only [hp]
      split_ifs
      all_goals
        simp only [withoutEvents, guiBackendPushEvent_withoutEvents]
        rfl

/-! ## The other handlers -/

@[simp] theorem pushEvent_withoutStop (env : BackendEnv τ) (b : GuiBackend τ δ)
    (type : GuiBackendEventType) (origin summary detail : CStr) :
    (b.pushEvent env type origin summary detail).withoutStop = b.withoutStop := by
  simp only [GuiBackend.pushEvent, GuiBackend.withoutStop, withoutEvents,
    guiBackendPushEvent_withoutEvents]

theorem withoutStop_congr {b : GuiBackend τ δ} {s s' : Station τ}
    (h : withoutEvents s = withoutEvents s') :
    ({ b.withoutStop with station := s }).withoutStop = ({ b with station := s' }).withoutStop := by
  simp only [GuiBackend.withoutStop, h]

theorem handleSetMode_withoutStop (env : BackendEnv τ) (b : GuiBackend τ δ)
    (token : Option CStr) :
    (b.withoutStop.handleSetMode env token).backend.withoutStop =
      (b.handleSetMode env token).backend.withoutStop := by
  cases token with
  | none => rfl
  | some t =>
    have hmode : b.withoutStop.stationMode = b.stationMode := rfl
    simp only [GuiBackend.handleSetMode, CommandResult.reply, GuiBackend.setMode, hmode]
    by_cases h : b.stationMode = guiBackendModeFromString t
    · rw [if_neg (not_not.mpr h), if_neg (not_not.mpr h)]
      rfl
    · rw [if_pos h, if_pos h, pushEvent_withoutStop, pushEvent_withoutStop]
      rfl

theorem handleSetEmergency_withoutStop (env : BackendEnv τ) (b : GuiBackend τ δ)
    (token : Option CStr) :
    (b.handleSetEmergency env token).backend.withoutStop = b.withoutStop := by
  cases token with
  | none => rfl
  | some t =>
    simp only [GuiBackend.handleSetEmergency, CommandResult.reply, GuiBackend.setEmergencyStop]
    split_ifs
    · exact pushEvent_withoutStop ..
    · exact pushEvent_withoutStop ..
    · rfl

theorem setEmergencyStop_emergencyStopEngaged (env : BackendEnv τ) (b : GuiBackend τ δ)
    (engaged : Bool) : (b.setEmergencyStop env engaged).emergencyStopEngaged = engaged := by
  unfold GuiBackend.setEmergencyStop
  dsimp only
  split_ifs <;> rfl

/-- A payload that is sent has at least one byte. -/
theorem hexToBytes_ne_nil {malloc : Bool} {hex : CStr} {payload : List UInt8}
    (h : guiBackendHexToBytes malloc hex = some payload) : payload ≠ [] := by
  unfold guiBackendHexToBytes at h
  split_ifs at h with hlen
  rintro rfl
  rcases hex with _ | ⟨high, _ | ⟨low, rest⟩⟩
  · exact hlen (Or.inr rfl)
  · exact hlen (Or.inl (by simp))
  · simp only [hexPairs, Option.bind_eq_bind, Option.bind_eq_some_iff] at h
    obtain ⟨_, -, _, -, _, -, h⟩ := h
    exact absurd (Option.some.inj h) (List.cons_ne_nil _ _)

/-- **`SEND_PACKET` is refused**, whatever its arguments: nothing is actuated, and the state stays
as it was. -/
theorem handleSendPacket_refused (env : BackendEnv τ) (b : GuiBackend τ δ) (tokens : List CStr) :
    ∃ message ∈ [cstr "ERROR Missing packet parameters\n", cstr "ERROR Invalid header parameters\n",
        cstr "ERROR Invalid payload\n", cstr "ERROR Packet transmission failed\n"],
      b.handleSendPacket env tokens = .reply b [message] := by
  unfold GuiBackend.handleSendPacket
  split_ifs
  · exact ⟨_, by simp, rfl⟩
  · cases hh : packetHeader tokens with
    | none => exact ⟨_, by simp, rfl⟩
    | some header =>
      cases hp : guiBackendHexToBytes env.malloc (tokens.getD 10 []) with
      | none => exact ⟨cstr "ERROR Invalid payload\n", by simp, rfl⟩
      | some payload =>
        have hne := hexToBytes_ne_nil hp
        refine ⟨cstr "ERROR Packet transmission failed\n", by simp, ?_⟩
        dsimp only
        cases hb : env.buffer with
        | none => rfl
        | some packet => rw [sendPacketStruct_refuses _ _ _ _ _ hne]; rfl

variable [CDouble δ]

theorem notifyRotator_withoutStop (env : BackendEnv τ) (b : GuiBackend τ δ) (azi ele : Int)
    (success : Bool) :
    (b.withoutStop.notifyRotator env azi ele success).withoutStop =
      (b.notifyRotator env azi ele success).withoutStop := by
  simp only [GuiBackend.notifyRotator, pushEvent_withoutStop]
  rfl

theorem notifyOps_withoutStop (env : BackendEnv τ) (ops : List SerialOp) (b : GuiBackend τ δ) :
    (b.withoutStop.notifyOps env ops).withoutStop = (b.notifyOps env ops).withoutStop := by
  induction ops generalizing b with
  | nil => rfl
  | cons op ops ih =>
    cases op with
    | notifyRotator azi ele success =>
      simp only [GuiBackend.notifyOps]
      rw [← ih, notifyRotator_withoutStop, ih]
    | openPort fd => exact ih b
    | write bytes wr => exact ih b
    | close fd => exact ih b

theorem handleSetAzel_withoutStop (env : BackendEnv τ) (b : GuiBackend τ δ)
    (azToken elToken : Option CStr) :
    (b.withoutStop.handleSetAzel env azToken elToken).actuations =
        (b.handleSetAzel env azToken elToken).actuations ∧
      (b.withoutStop.handleSetAzel env azToken elToken).backend.withoutStop =
        (b.handleSetAzel env azToken elToken).backend.withoutStop := by
  unfold GuiBackend.handleSetAzel
  split
  · split
    · rename_i azimuth elevation _ _
      exact ⟨rfl, notifyOps_withoutStop env (serialSetAzEl b.rotator azimuth elevation env.serial).ops
        { b with rotator := (serialSetAzEl b.rotator azimuth elevation env.serial).state }⟩
    · exact ⟨rfl, rfl⟩
  · exact ⟨rfl, rfl⟩

/-! ## Every command -/

/-- **A handler actuates the same with and without the emergency stop**, and leaves the same state
apart from it and the events. -/
theorem handle_withoutStop (env : BackendEnv τ) (b : GuiBackend τ δ) (command : GuiCommand)
    (tokens : List CStr) :
    (b.withoutStop.handle env command tokens).actuations =
        (b.handle env command tokens).actuations ∧
      (b.withoutStop.handle env command tokens).backend.withoutStop =
        (b.handle env command tokens).backend.withoutStop := by
  cases command with
  | setMode =>
    refine ⟨?_, handleSetMode_withoutStop env b _⟩
    simp only [GuiBackend.handle]
    cases tokens[1]? <;> rfl
  | setEmergency =>
    refine ⟨?_, ?_⟩
    · simp only [GuiBackend.handle]
      cases tokens[1]? <;> rfl
    exact (handleSetEmergency_withoutStop env b.withoutStop _).trans
      (handleSetEmergency_withoutStop env b _).symm
  | setSat => exact ⟨rfl, withoutStop_congr (handleSetSat_withoutEvents _ b.station _)⟩
  | setTx => exact ⟨rfl, withoutStop_congr (handleSetFreq_withoutEvents _ b.station _ true)⟩
  | setRx => exact ⟨rfl, withoutStop_congr (handleSetFreq_withoutEvents _ b.station _ false)⟩
  | setAzel => exact handleSetAzel_withoutStop env b _ _
  | sendPacket =>
    obtain ⟨m, -, h⟩ := handleSendPacket_refused env b tokens
    obtain ⟨m', -, h'⟩ := handleSendPacket_refused env b.withoutStop tokens
    simp only [GuiBackend.handle, h, h']
    exact ⟨rfl, rfl⟩
  | _ => exact ⟨rfl, rfl⟩

theorem handleCommand_withoutStop (a : CommandLine τ) (b : GuiBackend τ δ) :
    (a.run b.withoutStop).actuations = (a.run b).actuations ∧
      (commandStep b.withoutStop a).withoutStop = (commandStep b a).withoutStop := by
  unfold commandStep CommandLine.run guiBackendHandleCommand
  split
  · exact ⟨rfl, rfl⟩
  · split
    · exact ⟨rfl, rfl⟩
    · exact handle_withoutStop a.env b _ _

/-! ## The emergency stop itself -/

theorem notifyOps_emergencyStopEngaged (env : BackendEnv τ) (ops : List SerialOp)
    (b : GuiBackend τ δ) : (b.notifyOps env ops).emergencyStopEngaged = b.emergencyStopEngaged := by
  induction ops generalizing b with
  | nil => rfl
  | cons op ops ih => cases op <;> exact ih _

/-- No other command changes the emergency stop. -/
theorem handle_emergencyStopEngaged (env : BackendEnv τ) (b : GuiBackend τ δ)
    {command : GuiCommand} (tokens : List CStr) (h : command ≠ .setEmergency) :
    (b.handle env command tokens).backend.emergencyStopEngaged = b.emergencyStopEngaged := by
  cases command with
  | setEmergency => exact absurd rfl h
  | setMode =>
    simp only [GuiBackend.handle]
    cases tokens[1]? with
    | none => rfl
    | some t =>
      simp only [GuiBackend.handleSetMode, CommandResult.reply, GuiBackend.setMode]
      split_ifs <;> rfl
  | setAzel =>
    simp only [GuiBackend.handle, GuiBackend.handleSetAzel]
    split
    · split
      · exact notifyOps_emergencyStopEngaged env _ _
      · rfl
    · rfl
  | sendPacket =>
    obtain ⟨m, -, h⟩ := handleSendPacket_refused env b tokens
    simp only [GuiBackend.handle, h]
    rfl
  | _ => rfl

theorem commandStep_emergencyStopEngaged (b : GuiBackend τ δ) (a : CommandLine τ) :
    (commandStep b a).emergencyStopEngaged = emergencyAfter b.emergencyStopEngaged a := by
  unfold commandStep CommandLine.run guiBackendHandleCommand emergencyAfter emergencyValue
  rcases htokens : commandTokens a.line with _ | ⟨cmd, args⟩
  · rfl
  · cases hcmd : guiCommand cmd with
    | none => cases args <;> simp [hcmd, CommandResult.reply]
    | some command =>
      by_cases h : command = .setEmergency
      · subst h
        cases args with
        | nil =>
          simp only [hcmd]
          rfl
        | cons value rest =>
          simp only [hcmd, if_true, Option.getD_some]
          exact setEmergencyStop_emergencyStopEngaged a.env b _
      · have hsame := handle_emergencyStopEngaged a.env b (cmd :: args) h
        cases args with
        | nil =>
          simp only [hcmd]
          exact hsame
        | cons value rest => simpa [hcmd, h] using hsame

/-! ## Reports of the emergency stop -/

omit [CDouble δ] in
/-- The emergency stop is near the beginning of a report, so it is never cut off. -/
theorem length_statusHead (b : GuiBackend τ δ) (messageType : CStr) (engaged : Bool) :
    (b.statusHead messageType ++ boolText engaged).length ≤ 138 + messageType.length := by
  have hname : b.stationName.val.length ≤ 63 := b.stationName.property
  have hmode : (guiBackendModeToString b.stationMode).length ≤ 11 := by
    cases b.stationMode <;> decide
  have hbool : (boolText engaged).length ≤ 5 := by cases engaged <;> decide
  have h1 : (cstr "\x7b\"type\":\"").length = 9 := by decide
  have h2 : (cstr "\",\"station\":\x7b\"name\":\"").length = 21 := by decide
  have h3 : (cstr "\",\"mode\":\"").length = 10 := by decide
  have h4 : (cstr "\",\"emergency_stop\":").length = 19 := by decide
  simp only [GuiBackend.statusHead, List.length_append, h1, h2, h3, h4]
  omega

theorem statusText_prefix {b : GuiBackend τ δ} {snap : GuiBackendSnapshot δ}
    (hname : snap.stationName = b.stationName.val) (hmode : snap.stationMode = b.stationMode)
    (messageType : CStr) :
    b.statusHead messageType ++ boolText snap.emergencyStopEngaged <+:
      statusText snap messageType := by
  rw [GuiBackend.statusHead, ← hname, ← hmode]
  unfold statusText
  generalize boolText snap.emergencyStopEngaged = stop
  simp only [List.append_assoc, List.prefix_append_right_inj]
  exact List.prefix_append _ _

/-- A report says whether the emergency stop is engaged, however long the rest of it is. -/
theorem report_prefix (b : GuiBackend τ δ) (env : BackendEnv τ) {messageType : CStr}
    (h : messageType.length ≤ 9) :
    b.statusHead messageType ++ boolText b.emergencyStopEngaged <+:
      guiBackendSendFmt (statusText (b.snapshot env) messageType) := by
  have hlen := length_statusHead b messageType b.emergencyStopEngaged
  have hsize : guiBackendBufferSize = 1024 := rfl
  have htext : b.statusHead messageType ++ boolText (b.snapshot env).emergencyStopEngaged <+:
      statusText (b.snapshot env) messageType :=
    statusText_prefix rfl rfl messageType
  exact List.prefix_take_iff.mpr ⟨htext, by omega⟩

theorem reportsStop (b : GuiBackend τ δ) : ReportsStop b b.emergencyStopEngaged := by
  refine ⟨?_, ?_⟩
  · intro env line cmd args htokens hcmd
    refine ⟨_, ?_, report_prefix b env (by decide)⟩
    simp only [guiBackendHandleCommand, htokens, hcmd]
    rfl
  · intro env
    exact ⟨_, rfl, report_prefix b env (by decide)⟩

/-! ## Runs -/

theorem runActuations_withoutStop (as : List (CommandLine τ)) {b b' : GuiBackend τ δ}
    (h : b.withoutStop = b'.withoutStop) :
    runActuations b as = runActuations b' as ∧
      (as.foldl commandStep b).withoutStop = (as.foldl commandStep b').withoutStop := by
  induction as generalizing b b' with
  | nil => exact ⟨rfl, h⟩
  | cons a as ih =>
    obtain ⟨hact, hstep⟩ := handleCommand_withoutStop a b
    obtain ⟨hact', hstep'⟩ := handleCommand_withoutStop a b'
    rw [h] at hact hstep
    obtain ⟨hrest, hend⟩ := ih (hstep.symm.trans hstep')
    exact ⟨by rw [runActuations, runActuations, hrest, ← hact, ← hact'], hend⟩

theorem foldl_emergencyStopEngaged (as : List (CommandLine τ)) (b : GuiBackend τ δ) :
    (as.foldl commandStep b).emergencyStopEngaged =
      as.foldl emergencyAfter b.emergencyStopEngaged := by
  induction as generalizing b with
  | nil => rfl
  | cons a as ih => rw [List.foldl_cons, ih, commandStep_emergencyStopEngaged]; rfl

/-- **The emergency stop is reported, and inhibits nothing.** For every state, either value of the
emergency stop and every sequence of command lines: the commands actuate exactly what they actuate
otherwise and end in the same state, apart from the emergency stop and the events; and the emergency
stop is what the last `SET_EMERGENCY` said, and what `STATUS` and telemetry say. -/
theorem emergencyStop_only_reported (b : GuiBackend τ δ) (engaged : Bool)
    (as : List (CommandLine τ)) :
    let b' := { b with emergencyStopEngaged := engaged }
    runActuations b' as = runActuations b as ∧
      (as.foldl commandStep b').withoutStop = (as.foldl commandStep b).withoutStop ∧
      (as.foldl commandStep b').emergencyStopEngaged = as.foldl emergencyAfter engaged ∧
      ReportsStop (as.foldl commandStep b') (as.foldl emergencyAfter engaged) := by
  intro b'
  obtain ⟨hact, hend⟩ := runActuations_withoutStop as (show b'.withoutStop = b.withoutStop from rfl)
  have hstop : (as.foldl commandStep b').emergencyStopEngaged = as.foldl emergencyAfter engaged :=
    foldl_emergencyStopEngaged as b'
  exact ⟨hact, hend, hstop, hstop ▸ reportsStop (as.foldl commandStep b')⟩

/-- After `SET_EMERGENCY true`, `SET_AZEL 10 20` still moves the rotator. -/
theorem azel_moves_while_engaged :
    let b := commandStep (.init () : GuiBackend Unit Int)
      { env := constBackendEnv, line := cstr "SET_EMERGENCY true" }
    let a : CommandLine Unit := { env := constBackendEnv, line := cstr "SET_AZEL 10 20" }
    b.emergencyStopEngaged = true ∧
      (a.run b).actuations = [.serialWrite (cstr "W090 020\r")] ∧ ¬ Inhibited b a := by
  refine ⟨by decide, by decide, ?_⟩
  intro h
  exact absurd (h (by decide)) (by decide)

end CspTerm.Gui
