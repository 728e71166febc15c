import CspTerm.Gui.Proofs.GrammarProofs
import CspTerm.Gui.Proofs.StatusTextProofs

/-!
# Which messages are framed

A message is cut to the buffer it is printed into, and the newline is at its end. The messages that
cannot be cut are those of bounded fields; the other ones are framed if they fit.
-/

namespace CspTerm.Gui

open CString CspTerm.Radio CspTerm.Rotator CspTerm.Uplink CspTerm.Csp

variable {τ δ : Type}

/-! ## Messages that fit -/

theorem getLast?_append_newline (text : CStr) : (text ++ cstr "\n").getLast? = some 10 :=
  List.getLast?_append_of_ne_nil text (by decide)

/-- A fixed text with a newline at its end. -/
theorem getLast?_text {l : List Char} (h : l.getLast? = some '\n') :
    (cstr (String.ofList l)).getLast? = some 10 := by
  rw [cstr_ofList, List.getLast?_map, h]
  rfl

theorem getLast?_sendFmt {text : CStr} (hfits : Fits text) (hlast : text.getLast? = some 10) :
    (guiBackendSendFmt text).getLast? = some 10 := by
  rw [guiBackendSendFmt_of_lt hfits, hlast]

theorem parseLong_range {token : CStr} {min max v : Int}
    (h : guiBackendParseLong token min max = some v) : min ≤ v ∧ v ≤ max := by
  unfold guiBackendParseLong at h
  dsimp only at h
  split_ifs at h with h1 h2
  obtain rfl := Option.some.inj h
  omega

theorem fits_okNumber {label : CStr} {v : Int} (hlabel : label.length ≤ 100)
    (hv : v.natAbs < 10 ^ 20) : Fits (label ++ fmtInt v ++ cstr "\n") := by
  have hle := length_fmtInt_le (by decide) hv
  have h1 : (cstr "\n").length = 1 := rfl
  simp only [Fits, List.length_append, h1, guiBackendBufferSize]
  omega

/-- Every message ends with a newline. -/
def WholeLines (messages : List CStr) : Prop := ∀ m ∈ messages, m.getLast? = some 10

theorem wholeLines_singleton {m : CStr} (h : m.getLast? = some 10) : WholeLines [m] := by
  intro m' hm'
  rwa [List.mem_singleton.mp hm']

theorem wholeLines_framed {line : CStr} (h : line.getLast? = some 10) :
    WholeLines [cstr "OK STATUS\n", line, cstr "END\n"] := by
  intro m hm
  simp only [List.mem_cons, List.not_mem_nil, or_false] at hm
  rcases hm with rfl | rfl | rfl
  · exact getLast?_text rfl
  · exact h
  · exact getLast?_text rfl

theorem wholeLines_sendFmt {text : CStr} (h : Fits (text ++ cstr "\n")) :
    WholeLines [guiBackendSendFmt (text ++ cstr "\n")] :=
  wholeLines_singleton (getLast?_sendFmt h (getLast?_append_newline text))

theorem help_wholeLines : WholeLines guiBackendPrintHelp := by
  have happend : ∀ (text : String) {l : List Char}, l.getLast? = some '\n' →
      (cstr (text ++ String.ofList l)).getLast? = some 10 := by
    intro text l hl
    rw [cstr_append, List.getLast?_append, getLast?_text hl]
    rfl
  unfold WholeLines guiBackendPrintHelp
  simp only [List.forall_mem_cons]
  refine ⟨?_, ?_, ?_, ?_, ?_, ?_, ?_, happend _ rfl, ?_, ?_, ?_, ?_, List.forall_mem_nil _⟩
  all_goals exact getLast?_text rfl

/-! ## Stored events -/

/-- The ring holds events that were cut to their widths. -/
def GuiBackendState.Tidy (g : GuiBackendState) : Prop :=
  ∃ log, g.Logs log ∧ ∀ e ∈ log, e.Cut

theorem tidy_push {g : GuiBackendState} (h : g.Tidy) (now : Timespec) (type : GuiBackendEventType)
    (origin summary detail : CStr) : (guiBackendPushEvent g now type origin summary detail).Tidy := by
  obtain ⟨log, hlogs, hcut⟩ := h
  let call : EventCall :=
    { now := now, type := type, origin := origin, summary := summary, detail := detail }
  refine ⟨log ++ [call.event], hlogs.push call, ?_⟩
  intro e he
  rcases List.mem_append.mp he with hmem | hmem
  · exact hcut e hmem
  · rw [List.mem_singleton.mp hmem]
    exact call.event_cut

theorem cut_of_mem_newestEvents {g : GuiBackendState} (h : g.Tidy) {limit : Nat}
    {e : GuiBackendEvent} (he : e ∈ newestEvents g limit) : e.Cut := by
  obtain ⟨log, hlogs, hcut⟩ := h
  rw [newestEvents_eq hlogs] at he
  exact hcut e (List.mem_of_mem_drop he)

theorem getEvents_wholeLines {g : GuiBackendState} (h : g.Tidy) (token : Option CStr) :
    WholeLines (guiBackendHandleGetEvents g token) := by
  have hlines : ∀ limit, WholeLines ([guiBackendSendFmt (okEvents (newestEvents g limit).length)] ++
      (newestEvents g limit).map (fun e => guiBackendSendFmt (eventLine e)) ++ [cstr "END\n"]) := by
    intro limit m hm
    have hlen : (newestEvents g limit).length ≤ guiBackendMaxEvents := by
      simp only [newestEvents, List.length_map, List.length_range]
      exact (Nat.min_le_right _ _).trans (Nat.le_of_lt_succ g.count.isLt)
    rcases List.mem_append.mp hm with hm | hm
    · rcases List.mem_append.mp hm with hm | hm
      · exact wholeLines_sendFmt (okEvents_fits hlen) m hm
      · obtain ⟨e, he, rfl⟩ := List.mem_map.mp hm
        have hcut := cut_of_mem_newestEvents h he
        refine getLast?_sendFmt (length_eventLine_lt hcut) ?_
        exact List.getLast?_append_of_ne_nil _ (by decide)
    · rw [List.mem_singleton.mp hm]
      exact getLast?_text rfl
  unfold guiBackendHandleGetEvents
  dsimp only
  split
  · exact wholeLines_singleton (getLast?_text rfl)
  · exact hlines _

/-! ## The answers -/

/-- What `SET_SAT`, `SET_TX` and `SET_RX` do to the GUI's side of the station: they answer with one
line of a fixed text, or they answer with a number, report frequencies and push an event. -/
inductive RadioAnswer (s : Station τ) : List CStr × Station τ → Prop
  | refused (m : CStr) (d : Doppler τ) (h : m.getLast? = some 10) :
      RadioAnswer s ([m], { s with doppler := d })
  | accepted (label : CStr) (value : Int) (d : Doppler τ) (rf : GuiBackendRf) (now : Timespec)
      (summary detail : CStr) (hlabel : label.length ≤ 100) (hv : value.natAbs < 10 ^ 20) :
      RadioAnswer s ([guiBackendSendFmt (label ++ fmtInt value ++ cstr "\n")],
        { doppler := d,
          gui := guiBackendPushEvent { s.gui with rf := rf } now .info (cstr "GUI") summary detail })

theorem handleSetSat_answer (env : StationEnv τ) (s : Station τ) (token : Option CStr) :
    RadioAnswer s (guiBackendHandleSetSat env s token) := by
  cases token with
  | none => exact .refused _ s.doppler (getLast?_text rfl)
  | some t =>
    unfold guiBackendHandleSetSat
    cases hp : guiBackendParseLong t 1 0xFF with
    | none =>
      simp only [hp]
      exact .refused _ s.doppler (getLast?_text rfl)
    | some value =>
      obtain ⟨hmin, hmax⟩ := parseLong_range hp
      simp only [hp]
      split_ifs
      · exact .refused _ _ (getLast?_text rfl)
      · exact .accepted (cstr "OK SATELLITE ") value _ s.gui.rf _ _ _ (by decide) (by omega)

theorem handleSetFreq_answer (env : StationEnv τ) (s : Station τ) (token : Option CStr)
    (isTx : Bool) : RadioAnswer s (guiBackendHandleSetFreq env s token isTx) := by
  cases token with
  | none => exact .refused _ s.doppler (getLast?_text rfl)
  | some t =>
    unfold guiBackendHandleSetFreq
    cases hp : guiBackendParseLong t 0 longMax with
    | none =>
      simp only [hp]
      exact .refused _ s.doppler (getLast?_text rfl)
    | some value =>
      obtain ⟨hmin, hmax⟩ := parseLong_range hp
      unfold longMax at hmax
      have hv : value.natAbs < 10 ^ 20 := by omega
      simp only [hp]
      cases isTx
      all_goals
        simp only [Bool.false_eq_true, if_true, if_false]
        split_ifs
        · exact .refused _ _ (getLast?_text rfl)
        · exact .accepted _ value _ _ _ _ _ (by decide) hv

theorem RadioAnswer.wholeLines {s : Station τ} {r : List CStr × Station τ} (h : RadioAnswer s r) :
    WholeLines r.1 := by
  cases h with
  | refused m d hm => exact wholeLines_singleton hm
  | accepted label value d rf now summary detail hlabel hv =>
    exact wholeLines_sendFmt (fits_okNumber hlabel hv)

theorem RadioAnswer.tidy {s : Station τ} {r : List CStr × Station τ} (h : RadioAnswer s r)
    (hs : s.gui.Tidy) : r.2.gui.Tidy := by
  cases h with
  | refused m d hm => exact hs
  | accepted label value d rf now summary detail hlabel hv =>
    have hrf : ({ s.gui with rf := rf } : GuiBackendState).Tidy := hs
    exact tidy_push hrf _ _ _ _ _

theorem handleSetMode_wholeLines (env : BackendEnv τ) (b : GuiBackend τ δ) {token : Option CStr}
    (h : ∀ t ∈ token, t.length ≤ 1010) : WholeLines (b.handleSetMode env token).messages := by
  cases token with
  | none => exact wholeLines_singleton (getLast?_text rfl)
  | some t =>
    have ht := h t rfl
    refine wholeLines_sendFmt ?_
    have h1 : (cstr "OK SET_MODE ").length = 12 := rfl
    have h2 : (cstr "\n").length = 1 := rfl
    simp only [Fits, List.length_append, h1, h2, guiBackendBufferSize]
    omega

theorem handleSetEmergency_wholeLines (env : BackendEnv τ) (b : GuiBackend τ δ)
    (token : Option CStr) : WholeLines (b.handleSetEmergency env token).messages := by
  cases token with
  | none => exact wholeLines_singleton (getLast?_text rfl)
  | some t =>
    refine wholeLines_singleton ?_
    cases engageValue t <;> decide

theorem handleSendPacket_wholeLines (env : BackendEnv τ) (b : GuiBackend τ δ)
    (tokens : List CStr) : WholeLines (b.handleSendPacket env tokens).messages := by
  obtain ⟨message, hmem, h⟩ := handleSendPacket_refused env b tokens
  rw [h]
  refine wholeLines_singleton ?_
  simp only [List.mem_cons, List.not_mem_nil, or_false] at hmem
  rcases hmem with rfl | rfl | rfl | rfl
  all_goals exact getLast?_text rfl

variable [CDouble δ]

theorem handleSetAzel_wholeLines (env : BackendEnv τ) (b : GuiBackend τ δ)
    (az el : Option CStr) : WholeLines (b.handleSetAzel env az el).messages := by
  unfold GuiBackend.handleSetAzel
  split
  · split
    · exact fun m hm => (nomatch hm)
    · exact wholeLines_singleton (getLast?_text rfl)
  · exact wholeLines_singleton (getLast?_text rfl)

theorem getLast?_statusText (snap : GuiBackendSnapshot δ) (messageType : CStr) :
    (statusText snap messageType).getLast? = some 10 := by
  have hne : cstr "\x7d\n" ≠ [] := by decide
  unfold statusText
  rw [List.getLast?_append_of_ne_nil _ hne]
  decide

theorem statusPayload_wholeLines {snap : GuiBackendSnapshot δ} {messageType : CStr}
    (h : Fits (statusText snap messageType)) (includeHeader : Bool) :
    WholeLines (guiBackendSendStatusPayload snap messageType includeHeader) := by
  have hline : (guiBackendSendFmt (statusText snap messageType)).getLast? = some 10 :=
    getLast?_sendFmt h (getLast?_statusText snap messageType)
  unfold guiBackendSendStatusPayload
  cases includeHeader with
  | false => exact wholeLines_singleton hline
  | true => exact wholeLines_framed hline

theorem run_wholeLines {b : GuiBackend τ δ} (hb : b.station.gui.Tidy) {a : CommandLine τ}
    (h : Sendable b (.command a)) : WholeLines (a.run b).messages := by
  unfold CommandLine.run guiBackendHandleCommand
  rcases htokens : commandTokens a.line with _ | ⟨cmd, args⟩
  · exact fun m hm => (nomatch hm)
  · simp only [Sendable, lineCommand, htokens, List.head?_cons, Option.bind_some] at h ⊢
    cases hcmd : guiCommand cmd with
    | none => exact wholeLines_singleton (getLast?_text rfl)
    | some command =>
      simp only [hcmd] at h
      cases command with
      | ping => exact wholeLines_singleton (getLast?_text rfl)
      | help =>
        exact help_wholeLines
      | status => exact statusPayload_wholeLines h.1 true
      | setMode => exact handleSetMode_wholeLines a.env b h
      | setEmergency => exact handleSetEmergency_wholeLines a.env b _
      | setSat => exact (handleSetSat_answer a.env.toStationEnv b.station _).wholeLines
      | setTx => exact (handleSetFreq_answer a.env.toStationEnv b.station _ true).wholeLines
      | setRx => exact (handleSetFreq_answer a.env.toStationEnv b.station _ false).wholeLines
      | setAzel => exact handleSetAzel_wholeLines a.env b _ _
      | sendPacket => exact handleSendPacket_wholeLines a.env b _
      | getEvents => exact getEvents_wholeLines hb _
      | lastUplink => exact wholeLines_sendFmt h
      | lastDownlink => exact wholeLines_sendFmt h

/-! ## Reachable states -/

omit [CDouble δ] in
/-- What holds in every reachable state: the events are cut, and the local time is a time. -/
structure GuiBackend.Tidy (b : GuiBackend τ δ) : Prop where
  events : b.station.gui.Tidy
  localTime : Json.Plain b.lastStatusLocal.val

theorem tidy_init (tle : τ) : (GuiBackend.init tle : GuiBackend τ δ).Tidy :=
  ⟨⟨[], logs_init, fun _ he => (nomatch he)⟩, fun _ hc => (nomatch hc)⟩

section

omit [CDouble δ]

variable {b : GuiBackend τ δ}

theorem GuiBackend.Tidy.pushEvent (h : b.Tidy) (env : BackendEnv τ) (type : GuiBackendEventType)
    (origin summary detail : CStr) : (b.pushEvent env type origin summary detail).Tidy :=
  ⟨tidy_push h.events _ _ _ _ _, h.localTime⟩

theorem GuiBackend.Tidy.withStation (h : b.Tidy) {s : Station τ} (hs : s.gui.Tidy) :
    ({ b with station := s }).Tidy :=
  ⟨hs, h.localTime⟩

theorem GuiBackend.Tidy.setMode (h : b.Tidy) (env : BackendEnv τ) (mode : GuiBackendMode) :
    (b.setMode env mode).Tidy := by
  unfold GuiBackend.setMode
  dsimp only
  split_ifs
  · apply GuiBackend.Tidy.pushEvent
    exact ⟨h.events, h.localTime⟩
  · exact ⟨h.events, h.localTime⟩

theorem GuiBackend.Tidy.setEmergencyStop (h : b.Tidy) (env : BackendEnv τ) (engaged : Bool) :
    (b.setEmergencyStop env engaged).Tidy := by
  unfold GuiBackend.setEmergencyStop
  dsimp only
  split_ifs
  · apply GuiBackend.Tidy.pushEvent
    exact ⟨h.events, h.localTime⟩
  · apply GuiBackend.Tidy.pushEvent
    exact ⟨h.events, h.localTime⟩
  · exact ⟨h.events, h.localTime⟩

theorem GuiBackend.Tidy.setStationInfo (h : b.Tidy) (env : BackendEnv τ) (name : Option CStr)
    (lat lon alt trueNorth : δ) : (b.setStationInfo env name lat lon alt trueNorth).Tidy := by
  have hlocal : Json.Plain ((env.localtime env.now).elim [] Calendar.isoText) := by
    cases env.localtime env.now with
    | none => exact fun _ hc => (nomatch hc)
    | some tm => exact plain_isoText tm
  apply GuiBackend.Tidy.pushEvent
  exact ⟨h.events, fun c hc => hlocal c (List.mem_of_mem_take hc)⟩

end

variable {b : GuiBackend τ δ}

theorem GuiBackend.Tidy.notifyRotator (h : b.Tidy) (env : BackendEnv τ) (azi ele : Int)
    (success : Bool) : (b.notifyRotator env azi ele success).Tidy := by
  apply GuiBackend.Tidy.pushEvent
  exact ⟨h.events, h.localTime⟩

theorem GuiBackend.Tidy.notifyOps (h : b.Tidy) (env : BackendEnv τ) (ops : List SerialOp) :
    (b.notifyOps env ops).Tidy := by
  induction ops generalizing b with
  | nil => exact h
  | cons op ops ih =>
    cases op with
    | notifyRotator azi ele success => exact ih (h.notifyRotator env azi ele success)
    | openPort fd => exact ih h
    | write bytes wr => exact ih h
    | close fd => exact ih h

theorem handle_tidy (h : b.Tidy) (env : BackendEnv τ) (command : GuiCommand)
    (tokens : List CStr) : (b.handle env command tokens).backend.Tidy := by
  cases command with
  | setMode =>
    simp only [GuiBackend.handle]
    cases tokens[1]? with
    | none => exact h
    | some t => exact h.setMode env _
  | setEmergency =>
    simp only [GuiBackend.handle]
    cases tokens[1]? with
    | none => exact h
    | some t => exact h.setEmergencyStop env _
  | setSat => exact h.withStation ((handleSetSat_answer _ _ _).tidy h.events)
  | setTx => exact h.withStation ((handleSetFreq_answer _ _ _ true).tidy h.events)
  | setRx => exact h.withStation ((handleSetFreq_answer _ _ _ false).tidy h.events)
  | setAzel =>
    simp only [GuiBackend.handle, GuiBackend.handleSetAzel]
    split
    · split
      · apply GuiBackend.Tidy.notifyOps
        exact ⟨h.events, h.localTime⟩
      · exact h
    · exact h
  | sendPacket =>
    obtain ⟨m, -, hr⟩ := handleSendPacket_refused env b tokens
    simp only [GuiBackend.handle, hr]
    exact h
  | _ => exact h

/-- **Every activity keeps the state tidy.** -/
theorem activityStep_tidy (h : b.Tidy) (a : Activity τ δ) : (activityStep b a).Tidy := by
  cases a with
  | command c =>
    unfold activityStep commandStep CommandLine.run guiBackendHandleCommand
    dsimp only
    split
    · exact h
    · split
      · exact h
      · exact handle_tidy h c.env _ _
  | telemetry | connected | tooLong => exact h
  | notifyUplink env origin filePath bytes success =>
    refine h.withStation (tidy_push ?_ _ _ _ _ _)
    exact h.events
  | notifyDownlink env origin filePath bytes src dst =>
    apply GuiBackend.Tidy.pushEvent
    exact ⟨h.events, h.localTime⟩
  | notifyRotator env azi ele success => exact h.notifyRotator env azi ele success
  | setStationInfo env name lat lon alt trueNorth => exact h.setStationInfo env name _ _ _ _
  | setMode env mode => exact h.setMode env mode
  | setEmergencyStop env engaged => exact h.setEmergencyStop env engaged
  | updatePassSchedule passes => exact ⟨h.events, h.localTime⟩
  | updateSatellite satellite => exact ⟨h.events, h.localTime⟩
  | others doppler rotator => exact ⟨h.events, h.localTime⟩

/-! ## Runs -/

/-- In a tidy state, an activity whose messages fit is well framed. -/
theorem wellFramed_of_sendable
    (hfmt : ∀ precision (x : δ), Json.IsNumber (CDouble.fmt precision x)) {a : Activity τ δ}
    (hb : b.Tidy) (h : Sendable b a) : WellFramed b a := by
  cases a with
  | command c =>
    refine ⟨run_wholeLines hb.events h, ?_⟩
    intro hstatus
    simp only [Sendable, hstatus] at h
    refine ⟨_, ?_, isReport_of_reportable hfmt (plain_text rfl) hb.localTime h⟩
    obtain ⟨cmd, hhead, hcmd⟩ := Option.bind_eq_some_iff.mp hstatus
    obtain ⟨args, htokens⟩ := List.head?_eq_some_iff.mp hhead
    simp only [Activity.messages, CommandLine.run, guiBackendHandleCommand, htokens, hcmd]
    rfl
  | telemetry env =>
    exact ⟨statusPayload_wholeLines h.1 false, _, rfl,
      isReport_of_reportable hfmt (plain_text rfl) hb.localTime h⟩
  | connected a' b' c' d' =>
    have hbyte : ∀ x : UInt8, (fmtNat x.toNat).length ≤ 3 := fun x =>
      length_fmtNat_le (by decide) (Nat.lt_trans x.toNat_lt (by decide))
    have h1 := hbyte a'
    have h2 := hbyte b'
    have h3 := hbyte c'
    have h4 := hbyte d'
    have h5 : (cstr "OK CONNECTED gui-backend ").length = 25 := rfl
    have h6 : (cstr ".").length = 1 := rfl
    have h7 : (cstr "\n").length = 1 := rfl
    refine ⟨wholeLines_sendFmt ?_, trivial⟩
    simp only [Fits, inetNtoa, List.length_append, h5, h6, h7, guiBackendBufferSize]
    omega
  | tooLong => exact ⟨wholeLines_singleton (getLast?_text rfl), trivial⟩
  | _ => exact ⟨fun m hm => absurd hm List.not_mem_nil, trivial⟩

/-- **When everything that clients receive is framed.** In every run whose messages fit and whose
reports need no escapes, every message ends with a newline and every report is a document with the
stored strings. -/
theorem wellFramed_run (hfmt : ∀ precision (x : δ), Json.IsNumber (CDouble.fmt precision x))
    (tle : τ) {as : List (Activity τ δ)}
    (h : Run.Guarded activityStep Sendable (GuiBackend.init tle) as) :
    Run.Guarded activityStep WellFramed (GuiBackend.init tle) as :=
  h.of_inv (I := GuiBackend.Tidy) (fun _ a hb _ => activityStep_tidy hb a)
    (fun _ _ hb ha => wellFramed_of_sendable hfmt hb ha) (tidy_init tle)

/-- The integers are printed as decimals. -/
theorem isNumber_fmt_int (precision : Nat) (x : Int) : Json.IsNumber (CDouble.fmt precision x) := by
  by_cases h0 : precision = 0
  · subst h0
    have hfmt : CDouble.fmt 0 x = fmtInt x := List.append_nil _
    rw [hfmt]
    exact isNumber_fmtInt x
  · have hfmt : CDouble.fmt precision x = fmtInt x ++ 46 :: List.replicate precision 48 := by
      show fmtInt x ++ (if precision = 0 then [] else 46 :: List.replicate precision 48) = _
      rw [if_neg h0]
    have hne : List.replicate precision (48 : UInt8) ≠ [] := by simpa using h0
    have hdigits : ∀ b ∈ List.replicate precision (48 : UInt8), Json.IsDigit b := by
      intro b hb
      rw [List.eq_of_mem_replicate hb]
      exact ⟨by decide, by decide⟩
    rw [hfmt]
    unfold fmtInt
    split_ifs
    · exact .negativeFraction (isNatural_fmtNat _) hne hdigits
    · exact .fraction (isNatural_fmtNat _) hne hdigits

/-- A station with a name, a client that asks for the status, and the broadcast. -/
theorem wellFramed_report :
    Run.Guarded activityStep WellFramed (GuiBackend.init () : GuiBackend Unit Int)
      [.setStationInfo constBackendEnv (some (cstr "GS-ALPHA")) 1 104 40 2,
       .command { env := constBackendEnv, line := cstr "STATUS" },
       .telemetry constBackendEnv] := by
  refine wellFramed_run isNumber_fmt_int () ⟨trivial, ?_, ?_, trivial⟩
  · refine ⟨?_, by decide +kernel, Or.inl ⟨by decide, by decide +kernel⟩⟩
    unfold Fits
    decide +kernel
  · refine ⟨?_, by decide +kernel, Or.inl ⟨by decide, by decide +kernel⟩⟩
    unfold Fits
    decide +kernel

/-- The answer to `SET_MODE` with a word of 1011 bytes has no newline. -/
theorem long_mode_not_terminated :
    let a : CommandLine Unit :=
      { env := constBackendEnv, line := cstr "SET_MODE " ++ List.replicate 1011 120 }
    a.line.length ≤ 1022 ∧
      (a.run (.init () : GuiBackend Unit Int)).messages =
        [cstr "OK SET_MODE " ++ List.replicate 1011 120] ∧
      ¬ WellFramed (.init () : GuiBackend Unit Int) (.command a) := by
  intro a
  have hmessages : (a.run (.init () : GuiBackend Unit Int)).messages =
      [cstr "OK SET_MODE " ++ List.replicate 1011 120] := by
    decide +kernel
  refine ⟨by decide +kernel, hmessages, ?_⟩
  intro h
  have hmem : cstr "OK SET_MODE " ++ List.replicate 1011 120 ∈
      (Activity.command a).messages (.init () : GuiBackend Unit Int) := by
    show _ ∈ (a.run (.init () : GuiBackend Unit Int)).messages
    rw [hmessages]
    exact List.mem_singleton_self _
  exact absurd (h.1 _ hmem) (by decide +kernel)

end CspTerm.Gui
