import CspTerm.Uplink.SendPacket

/-!
# What an uplink request asks for

The purpose of `send_packet_execute`, apart from how it is computed: which action a request names,
when the action takes effect, and when the answer that the requester gets is truthful.
-/

namespace CspTerm.Uplink

open CString CspTerm.Csp CspTerm.Radio

inductive GroundCommand where
  | satRead
  | satSel (no : UInt32)
  | setRxFreq (freq : UInt32)
  | setTxFreq (freq : UInt32)
  | tleUpdate
deriving DecidableEq, Repr

/-- The command that a payload names, if it is a known one with all of its argument bytes. -/
def requestedCommand (payload : List UInt8) : Option GroundCommand :=
  match payload with
  | 0x00 :: _ => some .satRead
  | 0x01 :: no :: _ => some (.satSel no.toUInt32)
  | 0x02 :: _ => if 5 ≤ payload.length then some (.setRxFreq (commandFreq payload)) else none
  | 0x03 :: _ => if 5 ≤ payload.length then some (.setTxFreq (commandFreq payload)) else none
  | 0x06 :: _ => some .tleUpdate
  | _ => none

/-- The call that carries a command out. -/
def GroundCommand.event : GroundCommand → UplinkEvent
  | .satRead => .mcsSatRead
  | .satSel no => .mcsSatSel no
  | .setRxFreq freq => .ax100SetRxFreq freq
  | .setTxFreq freq => .ax100SetTxFreq freq
  | .tleUpdate => .updatetle

variable {τ : Type}

/-- The operation that the command names reports success. Reading the selection and updating the
elements have no failure to report. -/
def GroundCommand.Succeeds (env : UplinkEnv τ) (s : Station τ) : GroundCommand → Prop
  | .satRead => True
  | .satSel no => (mcsSatSel env.toDopplerEnv s.doppler no).1 = 1
  | .setRxFreq freq => (ax100SetRxFreq env.toDopplerEnv s.doppler.radio 29 1000 freq).1 = 1
  | .setTxFreq freq => (ax100SetTxFreq env.toDopplerEnv s.doppler.radio 29 1000 freq).1 = 1
  | .tleUpdate => (Radio.updatetle env.toDopplerEnv s.doppler).1 = 1

/-- What a command does to the radio and the selection. -/
def GroundCommand.effect (env : UplinkEnv τ) (s : Station τ) : GroundCommand → Doppler τ
  | .satRead => s.doppler
  | .satSel no => (mcsSatSel env.toDopplerEnv s.doppler no).2
  | .setRxFreq freq => { s.doppler with
      radio := (ax100SetRxFreq env.toDopplerEnv s.doppler.radio 29 1000 freq).2 }
  | .setTxFreq freq => { s.doppler with
      radio := (ax100SetTxFreq env.toDopplerEnv s.doppler.radio 29 1000 freq).2 }
  | .tleUpdate => (Radio.updatetle env.toDopplerEnv s.doppler).2

/-- The requested action takes effect: the packet is taken by `csp_sendto`, or the ground command
succeeds. -/
def TookEffect (env : UplinkEnv τ) (s : Station τ) (header : McsPacketHeader) (packet : CspPacket)
    (payload : List UInt8) : Prop :=
  if header.dst ≤ 15 then env.cspSendto (sendtoCall header packet) = 0
  else ∃ c, requestedCommand payload = some c ∧ c.Succeeds env s

/-- The requester is told that the action took effect if and only if it did. -/
def UplinkResult.Truthful (r : UplinkResult τ) (tookEffect : Prop) : Prop :=
  (tookEffect → r.ret = 0 ∧ r.reports = [1]) ∧ (¬ tookEffect → r.ret = -1 ∧ r.reports = [0])

/-- The requests whose failure `send_packet_execute` can see: a transmission that fails, if it
does, with `-1`; and ground commands that are known and complete, or too short frequency commands,
except for a frequency that the radio refuses. -/
def FailureSeen (env : UplinkEnv τ) (header : McsPacketHeader) (packet : CspPacket)
    (payload : List UInt8) : Prop :=
  if header.dst ≤ 15 then
    env.cspSendto (sendtoCall header packet) = 0 ∨ env.cspSendto (sendtoCall header packet) = -1
  else ∃ c, payload.head? = some c ∧
    (c = 0x00 ∨ c = 0x06 ∨ (c = 0x01 ∧ 1 < payload.length) ∨
      (c = 0x02 ∧ (payload.length < 5 ∨ Accepts env.toDopplerEnv ax100V3ParamRx
        (commandFreq payload))) ∨
      (c = 0x03 ∧ (payload.length < 5 ∨ Accepts env.toDopplerEnv ax100V3ParamTx
        (commandFreq payload))))

/-- A frequency command that does not carry all of its four frequency bytes. -/
def ShortFrequency (payload : List UInt8) : Prop :=
  (∃ c, payload.head? = some c ∧ (c = 0x02 ∨ c = 0x03)) ∧ payload.length < 5

/-- Both uplink paths do the same for a request: the message of `header` and `payload` in a file,
sent by `send_packet`, and the same header and payload given to `send_packet_struct`. -/
def PathsAgree (env : UplinkEnv τ) (s : Station τ) (origin : Option CStr) (header : McsPacketHeader)
    (payload : List UInt8) (buffer buffer' : CspPacket) : Prop :=
  ∃ r, sendPacket env s (some (mcsMessage header payload)) (some buffer) = .returned r ∧
    r.actions =
      (sendPacketStruct env s origin (some header) (some payload) (some buffer')).actions ∧
    r.ret = (sendPacketStruct env s origin (some header) (some payload) (some buffer')).ret

/-- The file with header bytes `hd` and payload `data` is transmitted exactly: what is transmitted
is the payload, and if the length field does not match the file, it is refused and nothing is
done. -/
def SentExactly (env : UplinkEnv τ) (s : Station τ) (hd data : List UInt8)
    (buffer : CspPacket) : Prop :=
  ∃ r, sendPacket env s (some (hd ++ data)) (some buffer) = .returned r ∧
    (∀ c ∈ r.sendtos, c.length.toNat = data.length ∧ c.payload = data) ∧
    (lengthField hd ≠ data.length → r.ret = -1 ∧ r.actions = [])

/-! ## Concrete surroundings -/

/-- Surroundings in which `csp_sendto` and the radio always answer the same. -/
def constEnv (sendto rparam : Int) : UplinkEnv τ where
  rparamSetUint32 := fun _ => rparam
  tleupdate := fun _ tle => tle
  clock := ⟨0, 0⟩
  cspSendto := fun _ => sendto
  afterSendto := fun _ data => data
  getTime := cstr "01-01-2024 00:00:00"
  openSent := true
  fwriteSent := cspBufferSize

end CspTerm.Uplink
