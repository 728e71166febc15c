import CspTerm.Csp.Memory

/-!
# The simple fragmentation protocol (`csp_sfp.c`)

Data that is too long for a packet is sent in pieces. Behind each piece stand its offset and the length
of the whole. The receiver allocates memory for the whole with the first piece and copies the pieces
to their places, until it has one that ends where the data end.
-/

namespace CspTerm.Csp

structure SfpHeader where
  offset : UInt32
  totalsize : UInt32
deriving DecidableEq, Repr

/-- `sizeof(sfp_header_t)`. -/
def sfpHeaderSize : Nat := 8

/-- The payload with the header behind it, unless the header leaves the data area of the packet. -/
def cspSfpHeaderAdd (payload : List UInt8) (h : SfpHeader) : Option (List UInt8) :=
  if payload.length + sfpHeaderSize ≤ cspBufferSize then
    some (payload ++ (bytes32 (cspHton32 h.offset) ++ bytes32 (cspHton32 h.totalsize)))
  else none

/-- The payload without the header, and the header in the order of the host, unless the payload is too
short for a header: its length wraps then. -/
def cspSfpHeaderRemove (payload : List UInt8) : Option (List UInt8 × SfpHeader) :=
  if payload.length < sfpHeaderSize then none
  else
    let header := payload.drop (payload.length - sfpHeaderSize)
    some (payload.take (payload.length - sfpHeaderSize),
      { offset := cspNtoh32 (word32 (header.take 4))
        totalsize := cspNtoh32 (word32 ((header.drop 4).take 4)) })

structure SfpPacket where
  /-- The flag `CSP_FFRAG`. -/
  ffrag : Bool
  payload : List UInt8
deriving DecidableEq, Repr

/-! ## Sending -/

/-- The packet for the piece at `count`. -/
def sfpPiece (data : List UInt8) (mtu count : Nat) : Option SfpPacket :=
  let size := min (data.length - count) mtu
  let header := { offset := UInt32.ofNat count, totalsize := UInt32.ofNat data.length }
  (cspSfpHeaderAdd ((data.drop count).take size) header).map (SfpPacket.mk true)

/-- The loop of `csp_sfp_send`; `gets` says at which offsets there is a buffer, and `takes` at which
the connection takes the packet. The answer is the packets that went out, and the result. -/
def cspSfpSendLoop (gets takes : Nat → Bool) (data : List UInt8) (mtu : Nat) :
    Nat → Nat → List SfpPacket × Checked Unit
  -- data are left here for an `mtu` of 0 only, where the code does not come to an end
  | 0, count => ([], if data.length ≤ count then .ok () else .error (-1))
  | rounds + 1, count =>
    if count < data.length then
      if mtu > cspBufferSize ∨ gets count = false then ([], .error (-1))
      else
        match sfpPiece data mtu count with
        | none => ([], .overrun)
        | some packet =>
          if takes count then
            let rest :=
              cspSfpSendLoop gets takes data mtu rounds (count + min (data.length - count) mtu)
            (packet :: rest.1, rest.2)
          else ([], .error (-1))
    else ([], .ok ())

def cspSfpSend (gets takes : Nat → Bool) (data : List UInt8) (mtu : Nat) :
    List SfpPacket × Checked Unit :=
  cspSfpSendLoop gets takes data mtu data.length 0

/-! ## Reception -/

/-- What `csp_malloc` gives. -/
structure Memory where
  size : Nat
  bytes : Nat → UInt8

/-- The data at this offset, if the memory reaches that far. -/
def Memory.write (m : Memory) (offset : Nat) (data : List UInt8) : Option Memory :=
  if offset + data.length ≤ m.size then
    some { m with bytes := fun i =>
      if offset ≤ i then data.getD (i - offset) (m.bytes i) else m.bytes i }
  else none

structure SfpRx where
  lastByte : UInt32
  dataout : Option Memory
  datasize : UInt32

/-- `csp_sfp_recv_fp` for the packets that come one after the other; `malloc` gives memory with any
contents, or none. If the data are complete, the answer is the packets that are still to be read. -/
def cspSfpRecv (malloc : UInt32 → Option (Nat → UInt8)) :
    SfpRx → List SfpPacket → SfpRx × Checked (List SfpPacket)
  | s, [] => (s, .error (-1))
  | s, packet :: packets =>
    if !packet.ffrag then (s, .error (-1))
    else
      match cspSfpHeaderRemove packet.payload with
      | none => (s, .overrun)
      | some (data, header) =>
        if header.offset > s.lastByte + 1 then (s, .error (-1))
        else
          let lastByte := header.offset + UInt32.ofNat data.length
          match s.dataout.or ((malloc header.totalsize).map (Memory.mk header.totalsize.toNat)) with
          | none => ({ s with lastByte := lastByte }, .error (-1))
          | some memory =>
            let s := { lastByte := lastByte, dataout := some memory, datasize := header.totalsize }
            match memory.write header.offset.toNat data with
            | none => (s, .overrun)
            | some memory =>
              let s := { s with dataout := some memory }
              if header.offset + UInt32.ofNat data.length ≥ header.totalsize then (s, .ok packets)
              else cspSfpRecv malloc s packets

/-- The caller has no memory yet. -/
def sfpStart : SfpRx := { lastByte := 0, dataout := none, datasize := 0 }

end CspTerm.Csp
