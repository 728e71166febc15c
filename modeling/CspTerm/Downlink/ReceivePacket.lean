import CspTerm.Csp.Conn
import CspTerm.Uplink.McsFile

/-!
# The downlink header (`receive_packet.c`)

`receive_packet` puts a header of six bytes in front of the data of a downlink packet. It is the
layout in which MCS messages come in, where `decode_parameters` reads it.
-/

namespace CspTerm.Downlink

open CString CspTerm.Csp CspTerm.Uplink

/-- The six bytes of `csp_header`, for a packet of `length` bytes. -/
def cspHeader (headerValues : HeaderValues) (length : UInt16) : List UInt8 :=
  let prioValue : Nat := 0
  let reserve : Nat := 0
  let flags : Nat := 0
  let dst := headerValues.dst.val
  let src := headerValues.src.val
  let sport := headerValues.sport.val
  let dport := headerValues.dport.val
  [((prioValue <<< 6) &&& 0xC0) ||| ((src <<< 1) &&& 0x3E) ||| ((dst >>> 4) &&& 0x01),
   ((dst <<< 4) &&& 0xF0) ||| ((dport >>> 2) &&& 0x0F),
   ((dport <<< 6) &&& 0xC0) ||| (sport &&& 0x3F),
   ((reserve <<< 4) &&& 0xF0) ||| (flags &&& 0x0F),
   length.toNat >>> 8,
   length.toNat].map Nat.toUInt8

/-! ## Encoding and decoding -/

/-- The header fields for these addresses and ports, with priority 0 and no flag set. -/
def plainHeader (v : HeaderValues) : McsPacketHeader where
  priority := 0
  src := v.src.val.toUInt8
  dst := v.dst.val.toUInt8
  dstPort := v.dport.val.toUInt8
  srcPort := v.sport.val.toUInt8
  hmac := 0
  xtea := 0
  rdp := 0
  crc := 0

/-- `decode_parameters` finds in the header what was put there. -/
def DecodesEncoded (v : HeaderValues) (length : UInt16) : Prop :=
  (decodeParameters (cspHeader v length)).header = plainHeader v ∧
    atoi (decodeParameters (cspHeader v length)).dataLength = length.toNat

/-- The addresses and ports among decoded fields. -/
def headerValuesOf (f : McsFields) : HeaderValues where
  dst := addressField f.header.dst
  src := addressField f.header.src
  sport := portField f.header.srcPort
  dport := portField f.header.dstPort
  flags := 0

/-- Six header bytes with priority, reserve and flags 0. -/
structure PlainBytes (hd : List UInt8) : Prop where
  length : hd.length = mcsHeaderSize
  priority : headerByte hd 0 < 64
  flags : headerByte hd 3 = 0

/-- Encoding the decoded fields gives the header back. -/
def EncodesDecoded (hd : List UInt8) : Prop :=
  cspHeader (headerValuesOf (decodeParameters hd))
    (UInt16.ofInt (atoi (decodeParameters hd).dataLength)) = hd

end CspTerm.Downlink
