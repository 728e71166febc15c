import CspTerm.Uplink.SendPacket

/-!
# Who owns the packet buffer of an uplink (`csp.h`, `doppler_freq_correction.c`)

The contract of `csp_sendto`: with result 0 it has taken the packet over, and with a negative one
the caller must free it. Three functions get a buffer and send it: `send_packet`,
`send_packet_struct`, and `ping_sat_func`, which the tracking of a satellite calls.
-/

namespace CspTerm.Uplink

open CspTerm.Csp

variable {τ : Type}

def Ending.map {α β : Type} (f : α → β) : Ending α → Ending β
  | .returned a => .returned (f a)
  | .exited => .exited
  | .undefined => .undefined

/-- The `csp_sendto` of `ping_sat_func`. -/
def pingSatCall (packet : CspPacket) : CspSendto :=
  let packet := { packet with length := 1, data := packet.data.store [0x00] }
  { prio := 2, dest := 25, dport := 1, srcPort := 17, opts := 0, timeout := 1000,
    length := packet.length, payload := packet.payload }

/-- `ping_sat_func`: its result and what it does. The result of `csp_buffer_get` is used without a
look at it. -/
def pingSatFunc (buffer : Option CspPacket) : Ending (Int × List UplinkEvent) :=
  match buffer with
  | none => .undefined
  | some packet => .returned (0, [.cspSendto (pingSatCall packet)])

/-! ## Ownership -/

/-- The call works on the packet buffer. -/
def UplinkEvent.usesBuffer : UplinkEvent → Bool
  | .cspSendto _ | .cspBufferFree => true
  | .request .. | .mcsSatSel _ | .mcsSatRead | .updatetle | .ax100SetRxFreq _ | .ax100SetTxFreq _
  | .archive .. | .notifyUplink .. => false

/-- The call ends the caller's ownership of the packet buffer. -/
def UplinkEvent.releases (env : UplinkEnv τ) : UplinkEvent → Bool
  | .cspSendto call => env.cspSendto call = 0
  | .cspBufferFree => true
  | .request .. | .mcsSatSel _ | .mcsSatRead | .updatetle | .ax100SetRxFreq _ | .ax100SetTxFreq _
  | .archive .. | .notifyUplink .. => false

/-- How often the packet buffer is released. -/
def releases (env : UplinkEnv τ) (events : List UplinkEvent) : Nat :=
  events.countP (·.releases env)

/-- A call that got `buffer` returns with the buffer released once; without a buffer it returns
having worked on none. -/
def ReleasedOnce (env : UplinkEnv τ) (buffer : Option CspPacket) :
    Ending (List UplinkEvent) → Prop
  | .returned events =>
    match buffer with
    | some _ => releases env events = 1
    | none => ∀ e ∈ events, e.usesBuffer = false
  | .exited | .undefined => False

/-- The buffer that `send_packet_struct` gets: it asks for none if an argument is NULL. -/
def structBuffer (header : Option McsPacketHeader) (payload : Option (List UInt8))
    (buffer : Option CspPacket) : Option CspPacket :=
  if header.isSome ∧ payload.isSome then buffer else none

/-- `csp_sendto` takes the packet, or fails with the one code that its callers look for. -/
def FailsWithMinusOne (env : UplinkEnv τ) (call : CspSendto) : Prop :=
  env.cspSendto call = 0 ∨ env.cspSendto call = -1

end CspTerm.Uplink
