/-!
# CSP packets (`csp_types.h`)

A packet buffer holds a length, an identifier and a data area. The struct declares the data area as
an array without a size (`uint8_t data[0]`); the buffers that `csp_buffer_get` hands out have 1024
data bytes.
-/

namespace CspTerm.Csp

abbrev cspBufferSize : Nat := 1024

/-- `csp_id_t`: the header fields, each with the width of its bit field. -/
structure CspId where
  pri : Fin 4
  src : Fin 32
  dst : Fin 32
  dport : Fin 64
  sport : Fin 64
  flags : UInt8
deriving DecidableEq, Repr

def CspId.zero : CspId :=
  { pri := ⟨0, by omega⟩, src := ⟨0, by omega⟩, dst := ⟨0, by omega⟩, dport := ⟨0, by omega⟩,
    sport := ⟨0, by omega⟩, flags := 0 }

/-! A byte that is stored in a bit field of the identifier. -/

def prioField (b : UInt8) : Fin 4 := ⟨b.toNat % 4, Nat.mod_lt _ (by decide)⟩

def addressField (b : UInt8) : Fin 32 := ⟨b.toNat % 32, Nat.mod_lt _ (by decide)⟩

def portField (b : UInt8) : Fin 64 := ⟨b.toNat % 64, Nat.mod_lt _ (by decide)⟩

/-- The data area of a packet buffer: always full of bytes, whatever was put there last. -/
def CspData : Type := { bytes : List UInt8 // bytes.length = cspBufferSize }
deriving DecidableEq

/-- `memcpy` of `src` to the start of the data area, for a `src` that fits. -/
def CspData.store (d : CspData) (src : List UInt8) : CspData :=
  ⟨(src ++ d.val.drop src.length).take cspBufferSize, by
    have := d.property
    simp only [List.length_take, List.length_append, List.length_drop]
    omega⟩

theorem CspData.take_store (d : CspData) {src : List UInt8} {n : Nat} (h : n ≤ src.length)
    (hs : src.length ≤ cspBufferSize) : (d.store src).val.take n = src.take n := by
  show ((src ++ d.val.drop src.length).take cspBufferSize).take n = _
  rw [List.take_take, Nat.min_eq_left (by omega), List.take_append_of_le_length h]

structure CspPacket where
  length : UInt16
  id : CspId
  data : CspData
deriving DecidableEq

def CspPacket.zero : CspPacket :=
  { length := 0, id := .zero, data := ⟨List.replicate cspBufferSize 0, List.length_replicate⟩ }

/-- The bytes that a packet carries: as many of its data area as its length says. -/
def CspPacket.payload (p : CspPacket) : List UInt8 := p.data.val.take p.length.toNat

end CspTerm.Csp
