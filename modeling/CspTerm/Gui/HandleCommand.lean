import CspTerm.Gui.Snapshot
import CspTerm.Lib.Ring

/-!
# The command handler (`gui_backend.c`)

`gui_backend_handle_command` splits a line into words, and the first one selects the handler. A
handler answers the client, works on the program's state, and may reach the rotator, the radio or
the uplink; the latter is recorded as the list of the actuations.
-/

namespace CspTerm.Gui

open CString CspTerm.Radio CspTerm.Rotator CspTerm.Uplink CspTerm.Csp

variable {τ δ : Type}

/-! ## Words and names -/

def toLower (b : UInt8) : UInt8 := if 65 ≤ b ∧ b ≤ 90 then b + 32 else b

/-- `strcasecmp(s, t) == 0`. -/
def strcaseEq (s t : CStr) : Bool := s.map toLower == t.map toLower

def maxTokens : Nat := 16

/-- The words of a line, as `strtok_r` finds them in the handler's copy of it. -/
def commandTokens (line : CStr) : List CStr :=
  let command := strncpyCut guiBackendBufferSize (line.takeWhile (· ≠ 0))
  ((command.splitOn 32).filter (· ≠ [])).take maxTokens

inductive GuiCommand where
  | ping
  | help
  | status
  | setMode
  | setEmergency
  | setSat
  | setTx
  | setRx
  | setAzel
  | sendPacket
  | getEvents
  | lastUplink
  | lastDownlink
deriving DecidableEq, Repr

/-- The command that a first word names. -/
def guiCommand (cmd : CStr) : Option GuiCommand :=
  if strcaseEq cmd (cstr "PING") then some .ping
  else if strcaseEq cmd (cstr "HELP") then some .help
  else if strcaseEq cmd (cstr "STATUS") then some .status
  else if strcaseEq cmd (cstr "SET_MODE") then some .setMode
  else if strcaseEq cmd (cstr "SET_EMERGENCY") then some .setEmergency
  else if strcaseEq cmd (cstr "SET_SAT") || strcaseEq cmd (cstr "SET_SATELLITE") then some .setSat
  else if strcaseEq cmd (cstr "SET_TX") then some .setTx
  else if strcaseEq cmd (cstr "SET_RX") then some .setRx
  else if strcaseEq cmd (cstr "SET_AZEL") then some .setAzel
  else if strcaseEq cmd (cstr "SEND_PACKET") then some .sendPacket
  else if strcaseEq cmd (cstr "GET_EVENTS") then some .getEvents
  else if strcaseEq cmd (cstr "LAST_UPLINK") then some .lastUplink
  else if strcaseEq cmd (cstr "LAST_DOWNLINK") then some .lastDownlink
  else none

/-! ## What a command does -/

/-- A call by which a command reaches beyond the memory of the program. -/
inductive Actuation where
  | serialWrite (bytes : CStr)
  | mcsSatSel (satNoSel : UInt32)
  | rparamSetUint32 (c : RparamSet)
  /-- An action of `send_packet_execute`. -/
  | uplink (e : UplinkEvent)
deriving DecidableEq, Repr

structure CommandResult (τ δ : Type) where
  /-- What is sent to the client, in order. -/
  messages : List CStr
  actuations : List Actuation
  backend : GuiBackend τ δ

/-- A command that only answers. -/
def CommandResult.reply (b : GuiBackend τ δ) (messages : List CStr) : CommandResult τ δ :=
  { messages := messages, actuations := [], backend := b }

def guiBackendPrintHelp : List CStr :=
  [cstr "OK HELP\n",
   cstr "PING - check connectivity\n",
   cstr "STATUS - retrieve current backend status\n",
   cstr "SET_SAT <id> - select satellite number\n",
   cstr "SET_TX <freq_hz> - set transmitter frequency\n",
   cstr "SET_RX <freq_hz> - set receiver frequency\n",
   cstr "SET_AZEL <az_deg> <el_deg> - move antenna\n",
   cstr ("SEND_PACKET <pri> <src> <dst> <dst_port> <src_port> <hmac> <xtea> <rdp> <crc> " ++
     "<hex_payload>\n"),
   cstr "LAST_UPLINK - show latest uplink summary\n",
   cstr "LAST_DOWNLINK - show latest downlink summary\n",
   cstr "GET_EVENTS [count] - list recent telemetry events\n",
   cstr "END\n"]

/-! ## Mode and emergency stop -/

/-- `gui_backend_mode_from_string`: a word that names no mode stands for idle. -/
def guiBackendModeFromString (value : CStr) : GuiBackendMode :=
  if strcaseEq value (cstr "tracking") then .tracking
  else if strcaseEq value (cstr "maintenance") || strcaseEq value (cstr "maint") then .maintenance
  else if strcaseEq value (cstr "idle") then .idle
  else .idle

def setModeReply (token : CStr) : CStr :=
  guiBackendSendFmt (cstr "OK SET_MODE " ++ token ++ cstr "\n")

def GuiBackend.handleSetMode (env : BackendEnv τ) (b : GuiBackend τ δ) (token : Option CStr) :
    CommandResult τ δ :=
  match token with
  | none => .reply b [cstr "ERROR Missing mode\n"]
  | some token => .reply (b.setMode env (guiBackendModeFromString token)) [setModeReply token]

def engageValue (token : CStr) : Bool :=
  strcaseEq token (cstr "true") || strcaseEq token (cstr "1") || strcaseEq token (cstr "on")

def GuiBackend.handleSetEmergency (env : BackendEnv τ) (b : GuiBackend τ δ)
    (token : Option CStr) : CommandResult τ δ :=
  match token with
  | none => .reply b [cstr "ERROR Missing emergency state\n"]
  | some token =>
    let engage := engageValue token
    .reply (b.setEmergencyStop env engage)
      [guiBackendSendFmt (cstr "OK SET_EMERGENCY " ++ boolText engage ++ cstr "\n")]

/-! ## Radio and rotator -/

/-- The write of `ax100_set_tx_freq` and `ax100_set_rx_freq`: frequency 0 is refused without. -/
def freqWrites (table : UInt16) (freq : UInt32) : List Actuation :=
  if freq = 0 then []
  else [.rparamSetUint32 (freqWrite table ax100V3Address ax100V3Timeout freq)]

/-- The calls of `mcs_sat_sel`, which writes the second frequency only if the radio took the
first. -/
def mcsSatSelCalls (env : DopplerEnv τ) (d : Doppler τ) (satNoSel : UInt32) : List Actuation :=
  let satNo := satSelected d.satNo satNoSel
  .mcsSatSel satNoSel :: freqWrites ax100V3ParamTx (satTx satNo) ++
    if Accepts env ax100V3ParamTx (satTx satNo) then freqWrites ax100V3ParamRx (satRx satNo)
    else []

def GuiBackend.handleSetSat (env : BackendEnv τ) (b : GuiBackend τ δ) (token : Option CStr) :
    CommandResult τ δ :=
  let (messages, station) := guiBackendHandleSetSat env.toStationEnv b.station token
  let calls := (token.bind (guiBackendParseLong · 1 0xFF)).elim []
    fun value => mcsSatSelCalls env.toDopplerEnv b.station.doppler (UInt32.ofInt value)
  { messages := messages, actuations := calls, backend := { b with station := station } }

def GuiBackend.handleSetFreq (env : BackendEnv τ) (b : GuiBackend τ δ) (token : Option CStr)
    (isTx : Bool) : CommandResult τ δ :=
  let (messages, station) := guiBackendHandleSetFreq env.toStationEnv b.station token isTx
  let calls := (token.bind (guiBackendParseLong · 0 longMax)).elim []
    fun value => freqWrites (if isTx then ax100V3ParamTx else ax100V3ParamRx) (UInt32.ofInt value)
  { messages := messages, actuations := calls, backend := { b with station := station } }

/-- The bytes that a call of the rotator writes. -/
def serialWrites : List SerialOp → List Actuation
  | [] => []
  | .write bytes _ :: ops => .serialWrite bytes :: serialWrites ops
  | .openPort _ :: ops | .notifyRotator .. :: ops | .close _ :: ops => serialWrites ops

/-- The backend hears of the rotator's moves from `serial_set_az_el`. -/
def GuiBackend.notifyOps [CDouble δ] (env : BackendEnv τ) (b : GuiBackend τ δ) :
    List SerialOp → GuiBackend τ δ
  | [] => b
  | .notifyRotator azi ele success :: ops =>
    (b.notifyRotator env azi ele success).notifyOps env ops
  | .openPort _ :: ops | .write .. :: ops | .close _ :: ops => b.notifyOps env ops

/-- `gui_backend_handle_set_azel`. A move is not answered. -/
def GuiBackend.handleSetAzel [CDouble δ] (env : BackendEnv τ) (b : GuiBackend τ δ)
    (azToken elToken : Option CStr) : CommandResult τ δ :=
  match azToken, elToken with
  | some azToken, some elToken =>
    match guiBackendParseLong azToken (-360) 360, guiBackendParseLong elToken (-90) 180 with
    | some azimuth, some elevation =>
      let call := serialSetAzEl b.rotator azimuth elevation env.serial
      { messages := []
        actuations := serialWrites call.ops
        backend := { b with rotator := call.state }.notifyOps env call.ops }
    | _, _ => .reply b [cstr "ERROR Invalid azimuth/elevation\n"]
  | _, _ => .reply b [cstr "ERROR Missing azimuth/elevation\n"]

/-! ## Sending a packet -/

def hexDigit (b : UInt8) : Option Nat := (digitVal b).filter (· < 16)

def hexPairs : CStr → Option (List UInt8)
  | [] => some []
  | [_] => none
  | high :: low :: rest => do
    let high ← hexDigit high
    let low ← hexDigit low
    let rest ← hexPairs rest
    return (high * 16 + low).toUInt8 :: rest

/-- `gui_backend_hex_to_bytes`. -/
def guiBackendHexToBytes (malloc : Bool) (hex : CStr) : Option (List UInt8) :=
  if hex.length % 2 ≠ 0 ∨ hex.length = 0 then none
  else if ¬ malloc then none
  else hexPairs hex

/-- The header that words 1 to 9 of `SEND_PACKET` describe. -/
def packetHeader (tokens : List CStr) : Option McsPacketHeader := do
  let field (i : Nat) (max : Int) : Option UInt8 :=
    (guiBackendParseLong (tokens.getD i []) 0 max).map UInt8.ofInt
  let pri ← field 1 3
  let src ← field 2 255
  let dst ← field 3 255
  let dstPort ← field 4 63
  let srcPort ← field 5 63
  let hmac ← field 6 1
  let xtea ← field 7 1
  let rdp ← field 8 1
  let crc ← field 9 1
  return { priority := pri, src := src, dst := dst, dstPort := dstPort, srcPort := srcPort,
           hmac := hmac, xtea := xtea, rdp := rdp, crc := crc }

/-- `gui_backend_handle_send_packet`. -/
def GuiBackend.handleSendPacket (env : BackendEnv τ) (b : GuiBackend τ δ) (tokens : List CStr) :
    CommandResult τ δ :=
  if tokens.length < 11 then .reply b [cstr "ERROR Missing packet parameters\n"]
  else
    match packetHeader tokens with
    | none => .reply b [cstr "ERROR Invalid header parameters\n"]
    | some header =>
      match guiBackendHexToBytes env.malloc (tokens.getD 10 []) with
      | none => .reply b [cstr "ERROR Invalid payload\n"]
      | some payload =>
        let r := sendPacketStruct env.toUplinkEnv b.station (some (cstr "GUI")) (some header)
          (some payload) env.buffer
        { messages :=
            if r.ret ≠ 0 then [cstr "ERROR Packet transmission failed\n"]
            else [guiBackendSendFmt (cstr "OK SEND_PACKET " ++ fmtNat payload.length ++ cstr "\n")]
          actuations := (r.events.filter (·.isAction)).map .uplink
          backend := { b with station := r.station } }

/-! ## Events and summaries -/

def guiBackendEventTypeToString : GuiBackendEventType → CStr
  | .uplink => cstr "UPLINK"
  | .downlink => cstr "DOWNLINK"
  | .info => cstr "INFO"
  | .error => cstr "ERROR"

/-- The line that `GET_EVENTS` prints for an event. -/
def eventLine (e : GuiBackendEvent) : CStr :=
  isoUtc e.timestamp.sec ++ cstr " " ++ guiBackendEventTypeToString e.type ++ cstr " " ++
    e.origin ++ cstr " | " ++ e.summary ++ cstr " (" ++ e.detail ++ cstr ")\n"

/-- The newest `limit` events of the ring, oldest first. -/
def newestEvents (g : GuiBackendState) (limit : Nat) : List GuiBackendEvent :=
  let total := min limit g.count
  have := guiBackendMaxEvents_neZero
  (List.range total).map fun i => Ring.cell g.events (g.start + g.count - total + i)

/-- `gui_backend_handle_get_events`. -/
def guiBackendHandleGetEvents (g : GuiBackendState) (token : Option CStr) : List CStr :=
  let limit : Option Nat := token.elim (some guiBackendMaxEvents)
    fun token => (guiBackendParseLong token 1 guiBackendMaxEvents).map Int.toNat
  match limit with
  | none => [cstr "ERROR Invalid event count\n"]
  | some limit =>
    let events := newestEvents g limit
    [guiBackendSendFmt (cstr "OK EVENTS " ++ fmtNat events.length ++ cstr "\n")] ++
      events.map (fun e => guiBackendSendFmt (eventLine e)) ++ [cstr "END\n"]

def lastUplinkText (g : GuiBackendState) : CStr :=
  cstr "OK LAST_UPLINK origin=" ++ strncpyCut 32 g.lastUplinkOrigin ++ cstr " bytes=" ++
    fmtNat g.lastUplinkBytes ++ cstr " status=" ++
    (if g.lastUplinkSuccess ≠ 0 then cstr "success" else cstr "failure") ++ cstr " file=" ++
    strncpyCut pathMax g.lastUplinkFile ++ cstr "\n"

def lastDownlinkText (b : GuiBackend τ δ) : CStr :=
  cstr "OK LAST_DOWNLINK origin=" ++ b.lastDownlinkOrigin.val ++ cstr " bytes=" ++
    fmtNat b.lastDownlinkBytes ++ cstr " src=" ++ fmtNat b.lastDownlinkSrc.toNat ++
    cstr " dst=" ++ fmtNat b.lastDownlinkDst.toNat ++ cstr " file=" ++ b.lastDownlinkFile.val ++
    cstr "\n"

/-! ## The dispatch -/

/-- The handler of a command, on the words of its line. -/
def GuiBackend.handle [CDouble δ] (env : BackendEnv τ) (b : GuiBackend τ δ) (command : GuiCommand)
    (tokens : List CStr) : CommandResult τ δ :=
  match command with
  | .ping => .reply b [cstr "OK PONG\n"]
  | .help => .reply b guiBackendPrintHelp
  | .status => .reply b (guiBackendSendStatusPayload (b.snapshot env) (cstr "status") true)
  | .setMode => b.handleSetMode env tokens[1]?
  | .setEmergency => b.handleSetEmergency env tokens[1]?
  | .setSat => b.handleSetSat env tokens[1]?
  | .setTx => b.handleSetFreq env tokens[1]? true
  | .setRx => b.handleSetFreq env tokens[1]? false
  | .setAzel => b.handleSetAzel env tokens[1]? tokens[2]?
  | .sendPacket => b.handleSendPacket env tokens
  | .getEvents => .reply b (guiBackendHandleGetEvents b.station.gui tokens[1]?)
  | .lastUplink => .reply b [guiBackendSendFmt (lastUplinkText b.station.gui)]
  | .lastDownlink => .reply b [guiBackendSendFmt (lastDownlinkText b)]

/-- `gui_backend_handle_command`. -/
def guiBackendHandleCommand [CDouble δ] (env : BackendEnv τ) (b : GuiBackend τ δ) (line : CStr) :
    CommandResult τ δ :=
  match commandTokens line with
  | [] => .reply b []
  | cmd :: args =>
    match guiCommand cmd with
    | none => .reply b [cstr "ERROR Unknown command\n"]
    | some command => b.handle env command (cmd :: args)

end CspTerm.Gui
