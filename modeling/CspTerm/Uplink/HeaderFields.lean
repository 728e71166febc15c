import CspTerm.Csp.Sendto
import CspTerm.Uplink.SendPacket

/-!
# The header fields of an uplink packet

What a request asks of its packet, and what the packet that is passed to the interface carries.
-/

namespace CspTerm.Uplink

open CspTerm.Csp

variable {τ : Type}

/-! ## Uplink over `csp_sendto` -/

/-- The packet buffer of a call; behind the payload it holds what `rest` holds there. -/
def sendtoPacket (rest : CspData) (call : CspSendto) : CspPacket :=
  { length := call.length, id := .zero, data := rest.store call.payload }

def CspSendto.run (net : SendEnv) (rest : CspData) (call : CspSendto) : Int × Option CspPacket :=
  Csp.cspSendto net call.prio call.dest call.dport call.srcPort call.opts (sendtoPacket rest call)
    call.timeout

/-- The surroundings with `csp_sendto` on these interfaces. -/
def UplinkEnv.onNetwork (env : UplinkEnv τ) (net : SendEnv) (rest : CspData) : UplinkEnv τ :=
  { env with cspSendto := fun call => (call.run net rest).1 }

/-- The packets that the calls pass to the interface. -/
def passedPackets (net : SendEnv) (rest : CspData) (calls : List CspSendto) : List CspPacket :=
  calls.filterMap fun call => (call.run net rest).2

/-! ## Requested fields -/

/-- The identifier has the requested fields, and exactly the requested options. -/
structure CarriesRequest (h : McsPacketHeader) (id : CspId) : Prop where
  pri : id.pri.val = h.priority.toNat
  src : id.src.val = h.src.toNat
  dst : id.dst.val = h.dst.toNat
  dport : id.dport.val = h.dstPort.toNat
  sport : id.sport.val = h.srcPort.toNat
  hmac : id.flags &&& cspFhmac ≠ 0 ↔ h.hmac ≠ 0
  xtea : id.flags &&& cspFxtea ≠ 0 ↔ h.xtea ≠ 0
  rdp : id.flags &&& cspFrdp ≠ 0 ↔ h.rdp ≠ 0
  crc : id.flags &&& cspFcrc32 ≠ 0 ↔ h.crc ≠ 0

/-- A request reported as successful has been passed on, and nothing is passed on without the
requested fields. -/
def FieldsHonoured (h : McsPacketHeader) (success : Prop) (passed : List CspPacket) : Prop :=
  (success → passed ≠ []) ∧ ∀ p ∈ passed, CarriesRequest h p.id

/-- The fields of a file's header are honoured or refused by `send_packet`. -/
def McsHonoured (env : UplinkEnv τ) (net : SendEnv) (rest : CspData) (s : Station τ)
    (bytes : List UInt8) (buffer : Option CspPacket) : Prop :=
  ∃ r, sendPacket (env.onNetwork net rest) s (some bytes) buffer = .returned r ∧
    FieldsHonoured (decodeParameters bytes).header (r.ret = 0) (passedPackets net rest r.sendtos)

/-- The routing table has an interface for the destination, and a packet of this length fits it. -/
def Deliverable (net : SendEnv) (dst : UInt8) (length : UInt16) : Prop :=
  ∃ iface, net.rtableFindIface dst = some iface ∧ iface.nexthop.isSome ∧
    ¬ (iface.mtu > 0 ∧ length > iface.mtu)

/-- The fields that a send without a connection and without options carries. -/
structure PlainRequest (net : SendEnv) (h : McsPacketHeader) : Prop where
  src : h.src.toNat = net.address.val
  hmac : h.hmac = 0
  xtea : h.xtea = 0
  rdp : h.rdp = 0
  crc : h.crc = 0

/-! ## Concrete surroundings -/

/-- A station with this address and one interface, which takes every packet. -/
def openNetwork (address : Fin 32) : SendEnv where
  address := address
  rtableFindIface := fun _ => some { nexthop := some fun _ _ => cspErrNone, mtu := 0 }
  hmacAppend := id
  crc32Append := id
  xteaEncrypt := id

end CspTerm.Uplink
