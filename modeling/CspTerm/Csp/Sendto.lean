import CspTerm.Csp.Conn

/-!
# Sending without a connection (`csp_io.c`)

`csp_sendto` fills in the identifier of a packet and gives it to the interface that the routing
table names for the destination. HMAC, XTEA and CRC32 are compiled in.
-/

namespace CspTerm.Csp

/-! ## Constants (`csp_types.h`, `csp_error.h`) -/

def cspFhmac : UInt8 := 0x08
def cspFxtea : UInt8 := 0x04
def cspFcrc32 : UInt8 := 0x01

def cspORdp : UInt32 := 0x0001
def cspOHmac : UInt32 := 0x0004
def cspOXtea : UInt32 := 0x0010
def cspOCrc32 : UInt32 := 0x0040

def cspErrNone : Int := 0
def cspErrInval : Int := -2
def cspErrNotsup : Int := -5
def cspErrTx : Int := -10

/-! ## Interfaces -/

/-- `csp_iface_t`, without its statistics. -/
structure CspIface where
  nexthop : Option (CspPacket → UInt32 → Int)
  /-- The longest packet that the interface takes, or 0 for no limit. -/
  mtu : UInt16

/-- What sending meets. The three security functions change the data and the length of a packet;
none of them fails. -/
structure SendEnv where
  /-- `csp_get_address()`. -/
  address : Fin 32
  rtableFindIface : UInt8 → Option CspIface
  hmacAppend : CspPacket → CspPacket
  crc32Append : CspPacket → CspPacket
  xteaEncrypt : CspPacket → CspPacket

/-- The security functions that the flags ask for, on a packet of this node. -/
def secured (env : SendEnv) (flags : UInt8) (packet : CspPacket) : CspPacket :=
  let packet := if flags &&& cspFhmac ≠ 0 then env.hmacAppend packet else packet
  let packet := if flags &&& cspFcrc32 ≠ 0 then env.crc32Append packet else packet
  if flags &&& cspFxtea ≠ 0 then env.xteaEncrypt packet else packet

/-- `csp_send_direct`: its result, and the packet that is passed to the interface. -/
def cspSendDirect (env : SendEnv) (idout : CspId) (packet : CspPacket) (ifout : Option CspIface)
    (timeout : UInt32) : Int × Option CspPacket :=
  match ifout with
  | none => (cspErrTx, none)
  | some iface =>
    match iface.nexthop with
    | none => (cspErrTx, none)
    | some nexthop =>
      let packet := { packet with id := idout }
      let packet := if idout.src = env.address then secured env idout.flags packet else packet
      if iface.mtu > 0 ∧ packet.length > iface.mtu then (cspErrTx, none)
      else (if nexthop packet timeout ≠ cspErrNone then cspErrTx else cspErrNone, some packet)

/-- The flags that `csp_sendto` sets for the options. -/
def sendtoFlags (opts : UInt32) : UInt8 :=
  (if opts &&& cspOHmac ≠ 0 then cspFhmac else 0) |||
    (if opts &&& cspOXtea ≠ 0 then cspFxtea else 0) |||
    (if opts &&& cspOCrc32 ≠ 0 then cspFcrc32 else 0)

/-- `csp_sendto`: its result, and the packet that is passed to the interface. -/
def cspSendto (env : SendEnv) (prio dest dport srcPort : UInt8) (opts : UInt32)
    (packet : CspPacket) (timeout : UInt32) : Int × Option CspPacket :=
  if opts &&& cspORdp ≠ 0 then (cspErrInval, none)
  else
    let id : CspId :=
      { pri := prioField prio, src := env.address, dst := addressField dest,
        dport := portField dport, sport := portField srcPort, flags := sendtoFlags opts }
    let (result, passed) :=
      cspSendDirect env id { packet with id := id } (env.rtableFindIface dest) timeout
    (if result ≠ cspErrNone then cspErrNotsup else cspErrNone, passed)

end CspTerm.Csp
