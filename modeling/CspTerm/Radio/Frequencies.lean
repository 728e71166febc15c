import CspTerm.Gui.Commands
import CspTerm.Radio.Console
import CspTerm.Radio.Link
import CspTerm.Uplink.Requests

/-!
# The commands that set a frequency

The radio is programmed from three places: the GUI, the uplink requests of MCS, and the operator's
console. This module collects their entry points in one machine, whose labels are a command and the
surroundings it meets, and names the action on the radio that each command stands for.
-/

namespace CspTerm.Radio

open CString CspTerm.Csp CspTerm.Gui CspTerm.Uplink

variable {τ : Type}

/-- The commands, with the arguments their entry points get. -/
inductive FreqCommand where
  | setTx (token : Option CStr)
  | setRx (token : Option CStr)
  | setSat (token : Option CStr)
  /-- A request that reaches `send_packet_execute`, from an MCS file or from the GUI. -/
  | uplink (origin : Option CStr) (header : McsPacketHeader) (packet : CspPacket)
      (payload : Payload) (payloadLen : Nat)
  | txFreqSet (argv : List CStr)
  | rxFreqSet (argv : List CStr)
  | mcsSatSel (argv : List CStr)

def FreqCommand.run (env : UplinkEnv τ) (s : Station τ) : FreqCommand → Station τ
  | .setTx token => (guiBackendHandleSetFreq env.toStationEnv s token true).2
  | .setRx token => (guiBackendHandleSetFreq env.toStationEnv s token false).2
  | .setSat token => (guiBackendHandleSetSat env.toStationEnv s token).2
  | .uplink origin header packet payload payloadLen =>
    (sendPacketExecute env s origin (some header) (some packet) (some payload) payloadLen).station
  | .txFreqSet argv => (Radio.txFreqSet env.toStationEnv s argv).2
  | .rxFreqSet argv => (Radio.rxFreqSet env.toStationEnv s argv).2
  | .mcsSatSel argv => (selSat env.toStationEnv s argv).2

/-- A step of the station: a command and its surroundings. -/
def freqStep (s : Station τ) (a : FreqCommand × UplinkEnv τ) : Station τ := a.1.run a.2 s

/-! ## What the commands ask of the radio -/

inductive Direction where
  | tx
  | rx
deriving DecidableEq, Repr

def Direction.table : Direction → UInt16
  | .tx => ax100V3ParamTx
  | .rx => ax100V3ParamRx

/-- The copies of the frequency of one direction. -/
def Direction.link (s : Station τ) : Direction → Link
  | .tx => { accepted := s.doppler.radio.tx, base := s.doppler.txFreq, shown := s.gui.rf.txFreqHz }
  | .rx => { accepted := s.doppler.radio.rx, base := s.doppler.rxFreq, shown := s.gui.rf.rxFreqHz }

/-- What a command asks of the radio. -/
inductive RadioRequest where
  /-- `SET_TX` or `SET_RX` with a number. -/
  | report (d : Direction) (v : Int)
  | write (d : Direction) (freq : UInt32)
  | select (satNoSel : UInt32)
deriving DecidableEq, Repr

/-- The request that a ground command stands for. -/
def GroundCommand.radioRequest : GroundCommand → Option RadioRequest
  | .satSel no => some (.select no)
  | .setRxFreq freq => some (.write .rx freq)
  | .setTxFreq freq => some (.write .tx freq)
  | .satRead | .tleUpdate => none

/-- The request that a command stands for; `none` if it leaves the radio alone. -/
def FreqCommand.radioRequest : FreqCommand → Option RadioRequest
  | .setTx token => token.bind fun t => (guiBackendParseLong t 0 longMax).map (.report .tx)
  | .setRx token => token.bind fun t => (guiBackendParseLong t 0 longMax).map (.report .rx)
  | .setSat token => token.bind fun t =>
      (guiBackendParseLong t 1 0xFF).map fun v => .select (UInt32.ofInt v)
  | .uplink _ header packet payload payloadLen =>
    if header.dst ≤ 15 then none
    else (requestedCommand (payload.read { packet with length := payloadLen.toUInt16 }
      payloadLen)).bind GroundCommand.radioRequest
  | .txFreqSet [_, freq] => some (.write .tx (UInt32.ofInt (atoi freq)))
  | .rxFreqSet [_, freq] => some (.write .rx (UInt32.ofInt (atoi freq)))
  | .mcsSatSel [_, no] => some (.select (UInt32.ofInt (atoi no)))
  | .txFreqSet _ | .rxFreqSet _ | .mcsSatSel _ => none

def Direction.satFreq (d : Direction) (satNo : UInt32) : Int :=
  match d with
  | .tx => (satParameters satNo).tx
  | .rx => (satParameters satNo).rx

/-- Whether the radio takes the frequency of satellite `satNo`: the receive frequency is only
written once the transmit frequency has been accepted. -/
def Direction.takesSat (env : DopplerEnv τ) (d : Direction) (satNo : UInt32) : Bool :=
  match d with
  | .tx => Accepts env ax100V3ParamTx (satTx satNo)
  | .rx => AcceptsSat env satNo

def RadioRequest.action (env : DopplerEnv τ) (s : Station τ) (d : Direction) :
    RadioRequest → LinkAction
  | .report d' v => if d' = d ∧ Accepts env d.table (UInt32.ofInt v) then .report v else .keep
  | .write d' freq => if d' = d ∧ Accepts env d.table freq then .write freq else .keep
  | .select sel =>
    .select (d.satFreq (satSelected s.doppler.satNo sel))
      (d.takesSat env (satSelected s.doppler.satNo sel))

def FreqCommand.action (env : DopplerEnv τ) (s : Station τ) (d : Direction) (c : FreqCommand) :
    LinkAction :=
  c.radioRequest.elim .keep (·.action env s d)

/-- In both directions, the frequency the radio accepted last, the base of the Doppler correction
and the frequency `STATUS` reports are the same number. -/
def Coherent (s : Station τ) : Prop := ∀ d : Direction, (d.link s).Coherent

/-- The command keeps the copies of both directions together. -/
def FreqHarmless (s : Station τ) (a : FreqCommand × UplinkEnv τ) : Prop :=
  ∀ d : Direction, (a.1.action a.2.toDopplerEnv s d).Harmless (d.link s)

end CspTerm.Radio
