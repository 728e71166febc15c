import CspTerm.Downlink.Descriptions

/-!
# The CRC check of a downlink packet (`receive_packet.c`)

The packets that `receive_packet` gets from the radio, of any length that their length field can
tell, and what is done with them before and after their CRC is compared.
-/

namespace CspTerm.Downlink

open CString CspTerm.Csp CspTerm.Archive

/-- `crc16(data, count)`: a function of the bytes, for a number of bytes. Nothing is known of it for a
negative one. -/
structure Crc16 where
  ofBytes : List UInt8 → UInt16
  negative : List UInt8 → Int → UInt16

def Crc16.apply (crc : Crc16) (data : List UInt8) (count : Int) : UInt16 :=
  if 0 ≤ count then crc.ofBytes (data.take count.toNat) else crc.negative data count

/-- A packet as it comes from the radio: the memory behind `data` has at least the bytes that its
length tells. -/
structure RadioPacket where
  length : UInt16
  data : List UInt8
  within : length.toNat ≤ data.length

/-- The bytes of the packet. -/
def RadioPacket.payload (p : RadioPacket) : List UInt8 := p.data.take p.length.toNat

/-- A packet in a buffer, if it does not claim to be longer. -/
def radioPacket (p : CspPacket) (h : p.length.toNat ≤ cspBufferSize) : RadioPacket :=
  { length := p.length, data := p.data.val, within := by rw [p.data.property]; exact h }

/-- `received_crc`. -/
def RadioPacket.receivedCrc (p : RadioPacket) : UInt16 :=
  if 2 ≤ p.length.toNat then
    (p.data.getD (p.length.toNat - 2) 0).toUInt16 <<< 8 |||
      (p.data.getD (p.length.toNat - 1) 0).toUInt16
  else 0

/-- What is saved, published and forwarded of an accepted packet. -/
def RadioPacket.received (p : RadioPacket) (env : ReceiveEnv) (timeStringRecv : CStr)
    (count : UInt32) (headerValues : HeaderValues) : Received :=
  let src := headerValues.src.val
  let dst := headerValues.dst.val
  let sport := headerValues.sport.val
  let dport := headerValues.dport.val
  let length := p.length.toNat
  { path := downlinkFile timeStringRecv count
    header := (cspHeader headerValues p.length).take env.fwriteHeader
    data := p.payload.take env.fwriteData
    telemetry := statusJson (cstr "telemetry") timeStringRecv src dst dport sport length
    fileType := if dst < 20 then 1 else 0
    packet := (printAsString headerValues.flags.toNat).map fun timestamp =>
      statusJson (cstr "packet") timestamp src dst sport dport length }

/-- What a call of `receive_packet` leaves: what becomes of the packet, the file counter, and the
counts that `crc16` was called with. -/
structure CheckedReception where
  reception : Reception
  count : UInt32
  crcCounts : List Int

/-- `receive_packet` with this timestamp. -/
def receiveChecked (crc : Crc16) (env : ReceiveEnv) (count : UInt32) (headerValues : HeaderValues)
    (p : RadioPacket) (timeStringRecv : CStr) : CheckedReception :=
  -- `packet->length` is promoted to `int` before 2 is subtracted
  let crcCount : Int := p.length.toNat - 2
  let crcCounts := [crcCount]
  if crc.apply p.data crcCount ≠ p.receivedCrc then ⟨.dropped, count, crcCounts⟩
  else if !env.opened ∨ env.fwriteHeader = 0 then ⟨.notSaved, count + 1, crcCounts⟩
  else ⟨.saved (p.received env timeStringRecv count headerValues), count + 1, crcCounts⟩

/-- The last two bytes of the packet, the high one first, are the CRC of the bytes before them. -/
def CrcCorrect (crc : Crc16) (p : RadioPacket) : Prop :=
  ∃ body high low, p.payload = body ++ [high, low] ∧
    high.toNat * 256 + low.toNat = (crc.ofBytes body).toNat

/-- When its files can be written, the packet is saved, published and forwarded exactly if its CRC is
correct; with another CRC nothing happens; and `crc16` is given a number of bytes of the packet. -/
structure OnlyCrcCorrect (crc : Crc16) (p : RadioPacket) : Prop where
  effective : ∀ (env : ReceiveEnv) (count : UInt32) (headerValues : HeaderValues) (time : CStr),
    env.opened = true → env.fwriteHeader ≠ 0 →
      ((receiveChecked crc env count headerValues p time).reception =
        .saved (p.received env time count headerValues) ↔ CrcCorrect crc p)
  ineffective : ∀ (env : ReceiveEnv) (count : UInt32) (headerValues : HeaderValues) (time : CStr),
    ¬ CrcCorrect crc p →
      (receiveChecked crc env count headerValues p time).reception = .dropped ∧
        (receiveChecked crc env count headerValues p time).count = count
  prefixes : ∀ (env : ReceiveEnv) (count : UInt32) (headerValues : HeaderValues) (time : CStr),
    ∀ n ∈ (receiveChecked crc env count headerValues p time).crcCounts,
      0 ≤ n ∧ n ≤ p.length.toNat

end CspTerm.Downlink
