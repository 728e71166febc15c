import CspTerm.Csp.Memory
import CspTerm.Lib.Demux

/-!
# The CAN interface (`csp_if_can.c`)

A CAN frame has at most eight bytes of data, so a packet is sent as one BEGIN frame and as many MORE
frames as it takes. The identifier of a frame says whose it is and how many frames remain. The
receiver puts packets together in ten buffer elements, one for each sender, destination and
identification number.
-/

namespace CspTerm.Csp

abbrev pbufElements : Nat := 10

def pbufTimeoutMs : UInt32 := 10000

/-! ## Frames -/

inductive CfpFrame
  | begin
  | more
deriving DecidableEq, Repr

/-- A CAN identifier: the fields of the fragmentation protocol. -/
structure CfpId where
  src : Fin 32
  dst : Fin 32
  type : CfpFrame
  remain : Fin 256
  id : Fin 1024
deriving DecidableEq, Repr

/-- The fields under `CFP_ID_CONN_MASK`. -/
structure CfpConn where
  src : Fin 32
  dst : Fin 32
  id : Fin 1024
deriving DecidableEq, Repr

def CfpId.conn (i : CfpId) : CfpConn := { src := i.src, dst := i.dst, id := i.id }

/-- `can_frame_t`; its `dlc` is the length of the data. -/
structure CanFrame where
  id : CfpId
  data : List UInt8
  dlc_le : data.length ≤ 8

/-- The size of the CSP identifier and length in front of the data. -/
def cfpOverhead : Nat := 6

/-! ## Transmission -/

/-- The destination in the CAN identifiers: the MAC address of the route, or the node itself. -/
def cfpDest (mac : UInt8) (packet : CspPacket) : Fin 32 :=
  if mac = 255 then packet.id.dst else addressField mac

/-- `CFP_MAKE_REMAIN`. -/
def cfpRemain (n : Nat) : Fin 256 := ⟨n % 256, Nat.mod_lt _ (by decide)⟩

/-- The MORE frame for the data from position `txCount` on. -/
def canMoreFrame (conn : CfpConn) (packet : CspPacket) (txCount : Nat) : CanFrame :=
  let bytes := min 8 (packet.length.toNat - txCount)
  { id :=
      { src := conn.src, dst := conn.dst, type := .more,
        remain := cfpRemain ((packet.length.toNat - txCount - bytes + 7) / 8), id := conn.id }
    data := (packet.payload.drop txCount).take bytes
    dlc_le := (List.length_take_le _ _).trans (Nat.min_le_left 8 _) }

/-- The BEGIN frame: the identifier and the length of the packet, and its first two bytes. -/
def canBeginFrame (conn : CfpConn) (packet : CspPacket) : CanFrame :=
  let bytes := min 2 packet.length.toNat
  { id :=
      { src := conn.src, dst := conn.dst, type := .begin,
        remain := cfpRemain ((packet.length.toNat + cfpOverhead - 1) / 8), id := conn.id }
    data := bytes32 (cspHton32 packet.id.ext) ++ bytes16 (cspHton16 packet.length)
      ++ packet.payload.take bytes
    dlc_le := by
      have := List.length_take_le bytes packet.payload
      simp only [List.length_append, length_bytes32, length_bytes16]
      omega }

/-- The loop for the frames after the first one; every round sends at least one byte. -/
def cspCanTxMore (conn : CfpConn) (packet : CspPacket) : Nat → Nat → List CanFrame
  | 0, _ => []
  | rounds + 1, txCount =>
    if txCount < packet.length.toNat then
      canMoreFrame conn packet txCount ::
        cspCanTxMore conn packet rounds (txCount + min 8 (packet.length.toNat - txCount))
    else []

/-- What the frames of a packet have in common, for the identification number `ident`. -/
def cfpConn (mac : UInt8) (ident : Fin 1024) (packet : CspPacket) : CfpConn :=
  { src := packet.id.src, dst := cfpDest mac packet, id := ident }

/-- `csp_can_tx`: the frames for the driver. -/
def cspCanTx (mac : UInt8) (ident : Fin 1024) (packet : CspPacket) : List CanFrame :=
  let conn := cfpConn mac ident packet
  canBeginFrame conn packet ::
    cspCanTxMore conn packet packet.length.toNat (min 2 packet.length.toNat)

/-- `csp_can_id_get`, and the number that is left for the next call. -/
def cspCanIdGet (canId : Fin 1024) : Fin 1024 × Fin 1024 := (canId, canId + 1)

/-! ## Reception -/

/-- `csp_can_pbuf_element_t` in the state `BUF_USED`; a free one is all zero. -/
structure PbufElement where
  rxCount : UInt16
  remain : UInt32
  cfpid : CfpId
  packet : Option CspPacket
  lastUsed : UInt32

structure CanRx where
  pbuf : Fin pbufElements → Option PbufElement
  /-- The counters of the interface. -/
  rxError : UInt32
  frame : UInt32
  /-- Whether data were copied past the end of a packet buffer. What the memory holds then is not
  modelled. -/
  overrun : Bool
  /-- The packets that were given to `csp_new_packet`, and under which identifiers they came. No code
  reads the latter. -/
  routed : List (CfpConn × CspPacket)

def cspCanInit : CanRx :=
  { pbuf := fun _ => none, rxError := 0, frame := 0, overrun := false, routed := [] }

/-- What the receiver meets with a frame: the time, and what `csp_buffer_get` returns if it is
called. -/
structure CanInput where
  frame : CanFrame
  now : UInt32
  buffer : Option CspPacket

/-- What a frame does with its buffer element: the element, if it is not freed, the packet that is
complete, whether a frame error is counted, and whether its data go past the end of the buffer. -/
structure CanResult where
  element : Option PbufElement
  routed : Option CspPacket
  errors : UInt32
  overrun : Bool

/-- A frame that is in error frees the element. -/
def CanResult.dropped (errors : UInt32) : CanResult :=
  { element := none, routed := none, errors := errors, overrun := false }

/-- The data of a frame from `offset` on are copied; the packet may be complete with them. Nothing
makes sure that a length which a BEGIN frame announces fits a buffer. -/
def canStore (element : PbufElement) (packet : CspPacket) (frame : CanFrame) (offset : Nat)
    (errors : UInt32) : CanResult :=
  if element.rxCount.toNat + (frame.data.length - offset) > cspBufferSize then
    { element := none, routed := none, errors := errors, overrun := true }
  else
    let packet :=
      { packet with data := packet.data.put element.rxCount.toNat (frame.data.drop offset) }
    let rxCount := element.rxCount + UInt16.ofNat (frame.data.length - offset)
    if rxCount ≠ packet.length then
      { element := some
          { element with remain := element.remain - 1, rxCount := rxCount, packet := some packet }
        routed := none, errors := errors, overrun := false }
    else { element := none, routed := some packet, errors := errors, overrun := false }

/-- The part that BEGIN and MORE frames share. -/
def canData (element : PbufElement) (packet : CspPacket) (frame : CanFrame) (offset : Nat)
    (errors : UInt32) : CanResult :=
  if UInt32.ofNat frame.id.remain.val ≠ element.remain - 1 then .dropped (errors + 1)
  else if element.rxCount.toNat + (frame.data.length - offset) > packet.length.toNat then
    .dropped (errors + 1)
  else canStore element packet frame offset errors

/-- The identifier and the length that a BEGIN frame carries. -/
def canHeader (packet : CspPacket) (frame : CanFrame) : CspPacket :=
  { packet with
    id := CspId.ofExt (cspNtoh32 (word32 (frame.data.take 4)))
    length := cspNtoh16 (word16 ((frame.data.drop 4).take 2)) }

/-- `CFP_BEGIN`. A buffer of an incomplete packet is used again. -/
def canBegin (element : PbufElement) (input : CanInput) : CanResult :=
  if input.frame.data.length < cfpOverhead then .dropped 1
  else
    match element.packet.or input.buffer with
    | none => .dropped 1
    | some packet =>
      let packet := canHeader packet input.frame
      canData
        { element with
          packet := some packet, rxCount := 0,
          remain := UInt32.ofNat input.frame.id.remain.val + 1 }
        packet input.frame cfpOverhead (if element.packet.isSome then 1 else 0)

/-- The switch on the type of the frame. A used element always has a packet when a MORE frame comes
(`pbuf_packet`). -/
def canSwitch (element : PbufElement) (input : CanInput) : CanResult :=
  match input.frame.id.type with
  | .begin => canBegin element input
  | .more =>
    match element.packet with
    | none => { element := some element, routed := none, errors := 0, overrun := false }
    | some packet => canData element packet input.frame 0 0

/-- `csp_can_pbuf_new`. -/
def pbufNew (input : CanInput) : PbufElement :=
  { rxCount := 0, remain := 0, cfpid := input.frame.id, packet := none, lastUsed := input.now }

/-- `csp_can_pbuf_find`, which notes the time as well. -/
def pbufFind (pbuf : Fin pbufElements → Option PbufElement) (id : CfpId) : Option (Fin pbufElements) :=
  (List.finRange pbufElements).find? fun i => (pbuf i).any fun e => e.cfpid.conn == id.conn

def pbufFree (pbuf : Fin pbufElements → Option PbufElement) : Option (Fin pbufElements) :=
  (List.finRange pbufElements).find? fun i => (pbuf i).isNone

/-- The effects of a frame on its element in slot `i`. -/
def CanRx.apply (s : CanRx) (i : Fin pbufElements) (conn : CfpConn) (r : CanResult) : CanRx :=
  { s with
    pbuf := Function.update s.pbuf i r.element
    frame := s.frame + r.errors
    overrun := s.overrun || r.overrun
    routed := s.routed ++ (r.routed.map (conn, ·)).toList }

def cspCanProcessFrame (s : CanRx) (input : CanInput) : CanRx :=
  match pbufFind s.pbuf input.frame.id with
  | some i =>
    match s.pbuf i with
    | none => s
    | some element =>
      s.apply i input.frame.id.conn (canSwitch { element with lastUsed := input.now } input)
  | none =>
    match input.frame.id.type with
    | .begin =>
      match pbufFree s.pbuf with
      | none => { s with rxError := s.rxError + 1 }
      | some i => s.apply i input.frame.id.conn (canSwitch (pbufNew input) input)
    | .more => { s with frame := s.frame + 1 }

/-- `csp_can_pbuf_cleanup`: elements that were not used for ten seconds are freed. -/
def cspCanPbufCleanup (s : CanRx) (now : UInt32) : CanRx :=
  { s with pbuf := fun i => (s.pbuf i).filter fun e => !decide (now - e.lastUsed > pbufTimeoutMs) }

/-- What the task of the interface does: it works on a frame from its queue, or cleans up after a
second without one. -/
inductive CanEvent
  | frame (input : CanInput)
  | idle (now : UInt32)

def CanRx.step (s : CanRx) (event : CanEvent) : CanRx :=
  if s.overrun then s
  else
    match event with
    | .frame input => cspCanProcessFrame s input
    | .idle now => cspCanPbufCleanup s now

/-! ## The receiver as a table of sessions -/

/-- What a frame does with the element of its packet, whichever slot that is in. -/
def canRun : Option PbufElement → CanInput → Option PbufElement × Option CspPacket
  | some element, input =>
    let r := canSwitch { element with lastUsed := input.now } input
    (r.element, r.routed)
  | none, input =>
    if input.frame.id.type = .begin then
      let r := canSwitch (pbufNew input) input
      (r.element, r.routed)
    else (none, none)

/-- A look at the elements after a second without frames finds none that is too old. -/
def CanRx.Patient (s : CanRx) : CanEvent → Prop
  | .frame _ => True
  | .idle now => ∀ i e, s.pbuf i = some e → ¬ now - e.lastUsed > pbufTimeoutMs

/-- The frame begins a packet that does not fit a buffer. -/
def CanFrame.Overlong (frame : CanFrame) : Prop :=
  frame.id.type = .begin ∧ cfpOverhead ≤ frame.data.length ∧
    cspBufferSize < (canHeader .zero frame).length.toNat

/-- The frames among the events. -/
def canInputs (events : List CanEvent) : List CanInput :=
  events.filterMap fun
    | .frame input => some input
    | .idle _ => none

end CspTerm.Csp
