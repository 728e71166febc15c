import CspTerm.Uplink.SendPacket

/-!
# The archive of sent packets (`send_packet.c`, `csp_if_kiss.c`)

`send_packet_execute` appends the payload to a file after `csp_sendto` has taken the packet. The
payload of an MCS packet lies in the packet buffer, where the interface has worked on it by then and
which it has freed; that of a GUI packet is memory of the caller.
-/

namespace CspTerm.Uplink

open CString CspTerm.Csp

variable {τ : Type}

/-! ## The KISS interface -/

def kissFend : UInt8 := 0xC0

def kissFesc : UInt8 := 0xDB

def kissTfend : UInt8 := 0xDC

def kissTfesc : UInt8 := 0xDD

/-- What `csp_kiss_tx` leaves of a byte that it transmits. -/
def kissEscaped (b : UInt8) : UInt8 :=
  if b = kissFend then kissTfend else if b = kissFesc then kissTfesc else b

/-- The data area after `csp_kiss_tx`, which appends the checksum `crc32` of the payload and escapes
all bytes in place; the buffer is then freed, and nothing else is known of it. -/
def cspKissTx (crc32 : List UInt8 → List UInt8) (call : CspSendto) (data : CspData) : CspData :=
  data.store ((call.payload ++ crc32 call.payload).map kissEscaped)

/-! ## What is archived -/

/-- What is appended to the file is the payload that was handed to `csp_sendto`. -/
def ArchivesTransmitted (r : UplinkResult τ) : Prop :=
  ∀ call ∈ r.sendtos, ∀ path bytes, .archive path bytes ∈ r.events → bytes = call.payload

/-- After `csp_sendto` the packet buffer still holds the payload. -/
def KeepsPayload (env : UplinkEnv τ) (header : McsPacketHeader) (packet : CspPacket) : Prop :=
  let call := sendtoCall header packet
  (env.afterSendto call packet.data).val.take call.length.toNat = call.payload

end CspTerm.Uplink
