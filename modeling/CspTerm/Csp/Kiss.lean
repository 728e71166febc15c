import CspTerm.Csp.Crc32
import CspTerm.Lib.ByteStuffing

/-!
# The KISS interface (`csp_if_kiss.c`)

Packets go over the serial line in frames. A frame holds the identifier, the data and their checksum
between two delimiters; bytes that mean something to the receiver are escaped. The receiver looks at
one byte at a time and keeps its state between two calls.
-/

namespace CspTerm.Csp

def kissMtu : Nat := 256

def fend : UInt8 := 0xC0

def fesc : UInt8 := 0xDB

def tfend : UInt8 := 0xDC

def tfesc : UInt8 := 0xDD

def tncData : UInt8 := 0x00

def kissStuffing : ByteStuffing UInt8 :=
  { fend := fend, fesc := fesc, tfend := tfend, tfesc := tfesc, fesc_ne := by decide,
    tfend_ne := by decide, tfesc_ne := by decide }

/-! ## A packet as the bytes from its identifier on -/

def CspPacket.image (p : CspPacket) : List UInt8 := bytes32 p.id.ext ++ p.data.val

@[simp] theorem CspPacket.length_image (p : CspPacket) : p.image.length = 4 + cspBufferSize := by
  rw [image, List.length_append, length_bytes32, p.data.property]

/-- `((unsigned char *) &packet->id.ext)[i] = b`. -/
def CspPacket.setByte (p : CspPacket) (i : Nat) (b : UInt8) : CspPacket :=
  { p with
    id := CspId.ofExt (word32 ((p.image.set i b).take 4))
    data := ⟨(p.image.set i b).drop 4, by simp⟩ }

theorem CspPacket.image_setByte (p : CspPacket) (i : Nat) (b : UInt8) :
    (p.setByte i b).image = p.image.set i b := by
  have hlen : ((p.image.set i b).take 4).length = 4 := by simp
  rw [image]
  simp only [setByte, CspId.ext_ofExt, bytes32_word32 hlen]
  exact List.take_append_drop 4 _

/-! ## Transmission -/

/-- The loop of `csp_kiss_tx` over `n` bytes from position `i` on: what is sent, and the packet with
its bytes escaped in place. -/
def cspKissTxLoop : Nat → Nat → CspPacket → List UInt8 × CspPacket
  | 0, _, packet => ([], packet)
  | n + 1, i, packet =>
    let b := packet.image.getD i 0
    let (lead, packet) :=
      if b = fend then ([fesc], packet.setByte i tfend)
      else if b = fesc then ([fesc], packet.setByte i tfesc)
      else ([], packet)
    let (rest, last) := cspKissTxLoop n (i + 1) packet
    (lead ++ packet.image.getD i 0 :: rest, last)

/-- `csp_kiss_tx`: what is sent, and what is left in the buffer when it is freed. -/
def cspKissTx (packet : CspPacket) : List UInt8 × CspPacket :=
  let packet := cspCrc32Append packet false
  let packet :=
    { packet with id := CspId.ofExt (cspHton32 packet.id.ext), length := packet.length + 4 }
  let (bytes, packet) := cspKissTxLoop packet.length.toNat 0 packet
  (fend :: tncData :: bytes ++ [fend], packet)

/-! ## Reception -/

inductive KissMode
  | notStarted
  | started
  | escaped
  | skipFrame
deriving DecidableEq, Repr

/-- `csp_kiss_handle_t` and what reception changes of its interface. -/
structure KissRx where
  rxLength : Nat
  rxMode : KissMode
  rxFirst : Bool
  rxPacket : Option CspPacket
  rxError : UInt32
  frame : UInt32
  /-- How often `csp_buffer_get` was called. -/
  gets : Nat
  /-- The packets that were given to `csp_qfifo_write`, first one first. -/
  routed : List CspPacket
  /-- The bytes that were given back to the serial driver. -/
  discarded : List UInt8

def cspKissInit : KissRx :=
  { rxLength := 0, rxMode := .notStarted, rxFirst := false, rxPacket := none, rxError := 0,
    frame := 0, gets := 0, routed := [], discarded := [] }

/-- A data byte is stored. -/
def kissPut (s : KissRx) (b : UInt8) : KissRx :=
  { s with rxPacket := s.rxPacket.map (·.setByte s.rxLength b), rxLength := s.rxLength + 1 }

/-- The received packet with its length and its identifier, once all of it is there. -/
def kissHeader (rxLength : Nat) (packet : CspPacket) : CspPacket :=
  { packet with
    length := UInt16.ofNat (rxLength - 4)
    id := CspId.ofExt (cspNtoh32 packet.id.ext) }

/-- The delimiter after a frame with data. -/
def kissEndFrame (s : KissRx) : KissRx :=
  if s.rxLength < 4 + 4 then { s with rxError := s.rxError + 1, rxMode := .notStarted }
  else
    match s.rxPacket with
    | none => s
    | some packet =>
      let packet := kissHeader s.rxLength packet
      let s := { s with frame := s.frame + 1 }
      match cspCrc32Verify packet false with
      | none =>
        { s with rxPacket := some packet, rxError := s.rxError + 1, rxMode := .notStarted }
      | some packet =>
        { s with rxPacket := none, rxMode := .notStarted, routed := s.routed ++ [packet] }

def kissStarted (s : KissRx) (b : UInt8) : KissRx :=
  if b = fesc then { s with rxMode := .escaped }
  else if b = fend then if 0 < s.rxLength then kissEndFrame s else s
  else if s.rxFirst then { s with rxFirst := false }
  else kissPut s b

def kissEscape (s : KissRx) (b : UInt8) : KissRx :=
  let s := if b = tfesc then kissPut s fesc else s
  let s := if b = tfend then kissPut s fend else s
  { s with rxMode := .started }

/-- What `alloc` says of a number is what that call of `csp_buffer_get` returns: a buffer with
whatever its last user left in it, or NULL. -/
def kissNotStarted (alloc : Nat → Option CspPacket) (s : KissRx) (b : UInt8) : KissRx :=
  if b ≠ fend then { s with discarded := s.discarded ++ [b] }
  else
    let s :=
      if s.rxPacket.isNone then { s with rxPacket := alloc s.gets, gets := s.gets + 1 } else s
    if s.rxPacket.isNone then { s with rxMode := .skipFrame }
    else { s with rxLength := 0, rxMode := .started, rxFirst := true }

/-- The check for packets that are too long, which comes before anything else. -/
def kissOverflow (s : KissRx) : KissRx :=
  if s.rxLength > kissMtu then
    { s with rxError := s.rxError + 1, rxMode := .notStarted, rxLength := 0 }
  else s

/-- One round of the loop of `csp_kiss_rx`. -/
def kissRxByte (alloc : Nat → Option CspPacket) (s : KissRx) (b : UInt8) : KissRx :=
  let s := kissOverflow s
  match s.rxMode with
  | .notStarted => kissNotStarted alloc s b
  | .started => kissStarted s b
  | .escaped => kissEscape s b
  | .skipFrame => if b = fend then { s with rxMode := .notStarted } else s

def cspKissRx (alloc : Nat → Option CspPacket) (s : KissRx) (buf : List UInt8) : KissRx :=
  buf.foldl (kissRxByte alloc) s

/-! ## What arrives -/

/-- What a receiver wants of a packet. -/
def CspPacket.view (p : CspPacket) : CspId × List UInt8 := (p.id, p.payload)

/-- The longest payload that fits under the receiver's limit together with the identifier and the
checksum. -/
def kissMaxPayload : Nat := kissMtu - 8

/-- The bytes on the line for packets that are sent one after the other. -/
def kissFrames (packets : List CspPacket) : List UInt8 := packets.flatMap fun p => (cspKissTx p).1

/-- The buffers that the first `gets` calls of `csp_buffer_get` handed out. -/
def kissTaken (alloc : Nat → Option CspPacket) (gets : Nat) : Nat :=
  (List.range gets).countP fun n => (alloc n).isSome

/-- What holds of the receiver all the time: it writes within the first bytes of a buffer, it has a
buffer when it writes, every buffer that it took is given to the router or still in its hands, and
behind the data of every packet for the router lies the checksum of these data. -/
structure KissRx.Ok (alloc : Nat → Option CspPacket) (s : KissRx) : Prop where
  length_le : s.rxLength ≤ kissMtu + 1
  packet : s.rxMode = .started ∨ s.rxMode = .escaped → s.rxPacket.isSome = true
  taken : kissTaken alloc s.gets = s.routed.length + s.rxPacket.toList.length
  checked : ∀ r ∈ s.routed, r.length.toNat ≤ kissMaxPayload ∧
    (r.data.val.drop r.length.toNat).take 4 = bytes32 (cspHton32 (cspCrc32Memory r.payload))

end CspTerm.Csp
