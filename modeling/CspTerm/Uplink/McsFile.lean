import CspTerm.Csp.Types
import CspTerm.Lib.CString

/-!
# MCS files (`process_mcs_file.c`)

An MCS message is a six-byte header and a payload. The message is stored in a file, and
`process_mcs_file` reads it back: the payload into a packet buffer, the header fields as decimal
texts that the caller turns into numbers again.
-/

namespace CspTerm.Uplink

open CString CspTerm.Csp

/-- How a call ends: it returns, it ends the process, or C gives it no meaning. -/
inductive Ending (α : Type) where
  | returned (a : α)
  | exited
  | undefined
deriving DecidableEq

structure McsPacketHeader where
  priority : UInt8
  src : UInt8
  dst : UInt8
  dstPort : UInt8
  srcPort : UInt8
  hmac : UInt8
  xtea : UInt8
  rdp : UInt8
  crc : UInt8
deriving DecidableEq, Repr

/-- The texts that `decode_parameters` prints, one for each output argument. -/
structure McsFields where
  pri : CStr
  src : CStr
  dst : CStr
  dstPort : CStr
  srcPort : CStr
  hmac : CStr
  xtea : CStr
  rdp : CStr
  crc : CStr
  dataLength : CStr
deriving DecidableEq, Repr

/-- Byte `i` of the header, as the `int` it is promoted to. -/
def headerByte (hexInput : List UInt8) (i : Nat) : Nat := (hexInput.getD i 0).toNat

def decodeParameters (hexInput : List UInt8) : McsFields :=
  let b := headerByte hexInput
  { pri := fmtNat ((b 0 >>> 6) &&& 0x03)
    src := fmtNat ((b 0 >>> 1) &&& 0x1F)
    dst := fmtNat (((b 0 <<< 8 ||| b 1) >>> 4) &&& 0x1F)
    dstPort := fmtNat (((b 1 <<< 8 ||| b 2) >>> 6) &&& 0x3F)
    srcPort := fmtNat ((b 1 <<< 8 ||| b 2) &&& 0x3F)
    hmac := fmtNat ((b 3 >>> 3) &&& 0x01)
    xtea := fmtNat ((b 3 >>> 2) &&& 0x01)
    rdp := fmtNat ((b 3 >>> 1) &&& 0x01)
    crc := fmtNat (b 3 &&& 0x01)
    dataLength := fmtNat (b 5 &&& 0xFF) }

def mcsHeaderSize : Nat := 6

/-- `process_mcs_file`, on the contents of the file (`none` if it cannot be opened) and the data
area of the caller's packet. The result is the function's result, the texts, and the data area; on
result 0 the texts are not set. A payload larger than the data area overruns it. -/
def processMcsFile (file : Option (List UInt8)) (data : CspData) :
    Ending (Int × Option McsFields × CspData) :=
  match file with
  | none => .exited
  | some bytes =>
    if bytes.length ≤ mcsHeaderSize then .returned (0, none, data)
    else
      let headerBuffer := bytes.take mcsHeaderSize
      let payload := bytes.drop mcsHeaderSize
      if payload.length ≤ cspBufferSize then
        .returned (1, some (decodeParameters headerBuffer), data.store payload)
      else .undefined

def uint8OfText (text : CStr) : UInt8 := UInt8.ofInt (atoi text)

/-- The header that `send_packet` makes of the texts. -/
def McsFields.header (f : McsFields) : McsPacketHeader where
  priority := uint8OfText f.pri
  src := uint8OfText f.src
  dst := uint8OfText f.dst
  dstPort := uint8OfText f.dstPort
  srcPort := uint8OfText f.srcPort
  hmac := uint8OfText f.hmac
  xtea := uint8OfText f.xtea
  rdp := uint8OfText f.rdp
  crc := uint8OfText f.crc

/-! ## The message format -/

/-- The fields have the widths the six-byte header gives them. -/
structure McsPacketHeader.Fits (h : McsPacketHeader) : Prop where
  priority : h.priority.toNat < 4
  src : h.src.toNat < 32
  dst : h.dst.toNat < 32
  dstPort : h.dstPort.toNat < 64
  srcPort : h.srcPort.toNat < 64
  hmac : h.hmac.toNat ≤ 1
  xtea : h.xtea.toNat ≤ 1
  rdp : h.rdp.toNat ≤ 1
  crc : h.crc.toNat ≤ 1

/-- The six header bytes of a message with a payload of `len` bytes: the layout in which
`receive_packet` writes downlink files, with the priority and the flags filled in. -/
def mcsHeaderBytes (h : McsPacketHeader) (len : Nat) : List UInt8 :=
  [h.priority.toNat * 64 + h.src.toNat * 2 + h.dst.toNat / 16,
   h.dst.toNat % 16 * 16 + h.dstPort.toNat / 4,
   h.dstPort.toNat % 4 * 64 + h.srcPort.toNat,
   h.hmac.toNat * 8 + h.xtea.toNat * 4 + h.rdp.toNat * 2 + h.crc.toNat,
   len / 256, len % 256].map Nat.toUInt8

/-- A message as MCS writes it. -/
def mcsMessage (h : McsPacketHeader) (payload : List UInt8) : List UInt8 :=
  mcsHeaderBytes h payload.length ++ payload

/-- The 16-bit length field of a message. -/
def lengthField (bytes : List UInt8) : Nat := 256 * headerByte bytes 4 + headerByte bytes 5

end CspTerm.Uplink
