import CspTerm.Csp.Types
import Mathlib.Tactic.Common
import Mathlib.Tactic.IntervalCases

/-!
# Packets in memory (`csp_types.h`, `csp_endian.h`)

The station's host is little-endian: the least significant byte of a word comes first in memory, and
the bit fields of an identifier are counted from its least significant bit.
-/

namespace CspTerm.Csp

/-! ## Byte order -/

def cspHton32 (h : UInt32) : UInt32 :=
  ((h &&& 0xff000000) >>> 24) ||| ((h &&& 0x000000ff) <<< 24) ||| ((h &&& 0x0000ff00) <<< 8) |||
    ((h &&& 0x00ff0000) >>> 8)

def cspNtoh32 (n : UInt32) : UInt32 := cspHton32 n

def cspHton16 (h : UInt16) : UInt16 := ((h &&& 0xff00) >>> 8) ||| ((h &&& 0x00ff) <<< 8)

def cspNtoh16 (n : UInt16) : UInt16 := cspHton16 n

/-- A word as it lies in memory. -/
def bytes32 (x : UInt32) : List UInt8 :=
  [x.toUInt8, (x >>> 8).toUInt8, (x >>> 16).toUInt8, (x >>> 24).toUInt8]

def bytes16 (x : UInt16) : List UInt8 := [x.toUInt8, (x >>> 8).toUInt8]

/-- The word that lies in four bytes of memory. -/
def word32 (l : List UInt8) : UInt32 := l.foldr (fun b w => b.toUInt32 ||| (w <<< 8)) 0

def word16 (l : List UInt8) : UInt16 := l.foldr (fun b w => b.toUInt16 ||| (w <<< 8)) 0

@[simp] theorem length_bytes32 (x : UInt32) : (bytes32 x).length = 4 := rfl

@[simp] theorem length_bytes16 (x : UInt16) : (bytes16 x).length = 2 := rfl

theorem bytes32_cspHton32 (x : UInt32) : bytes32 (cspHton32 x) = (bytes32 x).reverse := by
  simp only [bytes32, List.reverse_cons, List.reverse_nil, List.nil_append, List.cons_append,
    List.cons.injEq, and_true]
  refine ⟨?_, ?_, ?_, ?_⟩ <;>
  · apply UInt8.eq_of_toBitVec_eq
    apply BitVec.eq_of_getLsbD_eq
    intro i hi
    interval_cases i <;> simp [cspHton32]

theorem bytes16_cspHton16 (x : UInt16) : bytes16 (cspHton16 x) = (bytes16 x).reverse := by
  simp only [bytes16, List.reverse_cons, List.reverse_nil, List.nil_append, List.cons_append,
    List.cons.injEq, and_true]
  refine ⟨?_, ?_⟩ <;>
  · apply UInt8.eq_of_toBitVec_eq
    apply BitVec.eq_of_getLsbD_eq
    intro i hi
    interval_cases i <;> simp [cspHton16]

@[simp] theorem word32_bytes32 (x : UInt32) : word32 (bytes32 x) = x := by
  apply UInt32.eq_of_toBitVec_eq
  apply BitVec.eq_of_getLsbD_eq
  intro i hi
  interval_cases i <;> simp [word32, bytes32, -UInt32.toUInt32_toUInt8]

@[simp] theorem word16_bytes16 (x : UInt16) : word16 (bytes16 x) = x := by
  apply UInt16.eq_of_toBitVec_eq
  apply BitVec.eq_of_getLsbD_eq
  intro i hi
  interval_cases i <;> simp [word16, bytes16, -UInt16.toUInt16_toUInt8]

theorem bytes32_word32 {l : List UInt8} (h : l.length = 4) : bytes32 (word32 l) = l := by
  rcases l with _ | ⟨b0, _ | ⟨b1, _ | ⟨b2, _ | ⟨b3, _ | ⟨b4, l⟩⟩⟩⟩⟩ <;> simp at h
  simp only [bytes32, List.cons.injEq, and_true]
  refine ⟨?_, ?_, ?_, ?_⟩ <;>
  · apply UInt8.eq_of_toBitVec_eq
    apply BitVec.eq_of_getLsbD_eq
    intro i hi
    interval_cases i <;> simp [word32]

theorem bytes32_injective : Function.Injective bytes32 := fun x y h => by
  rw [← word32_bytes32 x, h, word32_bytes32]

@[simp] theorem cspNtoh32_cspHton32 (x : UInt32) : cspNtoh32 (cspHton32 x) = x := by
  apply bytes32_injective
  rw [cspNtoh32, bytes32_cspHton32, bytes32_cspHton32, List.reverse_reverse]

@[simp] theorem cspNtoh16_cspHton16 (x : UInt16) : cspNtoh16 (cspHton16 x) = x := by
  rw [← word16_bytes16 (cspNtoh16 (cspHton16 x)), cspNtoh16, bytes16_cspHton16, bytes16_cspHton16,
    List.reverse_reverse, word16_bytes16]

/-! ## Identifiers -/

/-- `id.ext`: the identifier as one word, the flags in its lowest bits. -/
def CspId.ext (id : CspId) : UInt32 :=
  UInt32.ofNat (id.flags.toNat + 2 ^ 8 * (id.sport.val + 2 ^ 6 * (id.dport.val +
    2 ^ 6 * (id.dst.val + 2 ^ 5 * (id.src.val + 2 ^ 5 * id.pri.val)))))

/-- The identifier whose word is `x`. -/
def CspId.ofExt (x : UInt32) : CspId :=
  { flags := UInt8.ofNat x.toNat
    sport := ⟨x.toNat / 2 ^ 8 % 64, Nat.mod_lt _ (by decide)⟩
    dport := ⟨x.toNat / 2 ^ 14 % 64, Nat.mod_lt _ (by decide)⟩
    dst := ⟨x.toNat / 2 ^ 20 % 32, Nat.mod_lt _ (by decide)⟩
    src := ⟨x.toNat / 2 ^ 25 % 32, Nat.mod_lt _ (by decide)⟩
    pri := ⟨x.toNat / 2 ^ 30 % 4, Nat.mod_lt _ (by decide)⟩ }

theorem CspId.toNat_ext (id : CspId) : id.ext.toNat =
    id.flags.toNat + 2 ^ 8 * (id.sport.val + 2 ^ 6 * (id.dport.val +
      2 ^ 6 * (id.dst.val + 2 ^ 5 * (id.src.val + 2 ^ 5 * id.pri.val)))) := by
  have hflags := id.flags.toNat_lt
  rw [CspId.ext, UInt32.toNat_ofNat']
  apply Nat.mod_eq_of_lt
  omega

@[simp] theorem CspId.ofExt_ext (id : CspId) : CspId.ofExt id.ext = id := by
  have hflags := id.flags.toNat_lt
  have hext := id.toNat_ext
  obtain ⟨pri, src, dst, dport, sport, flags⟩ := id
  simp only [CspId.ofExt, CspId.mk.injEq]
  simp only at hext hflags
  refine ⟨Fin.ext ?_, Fin.ext ?_, Fin.ext ?_, Fin.ext ?_, Fin.ext ?_, UInt8.toNat_inj.mp ?_⟩
  · simp only; omega
  · simp only; omega
  · simp only; omega
  · simp only; omega
  · simp only; omega
  · rw [UInt8.toNat_ofNat']; omega

theorem CspId.ext_ofExt (x : UInt32) : (CspId.ofExt x).ext = x := by
  have hx := x.toNat_lt
  apply UInt32.toNat_inj.mp
  rw [CspId.toNat_ext]
  simp only [CspId.ofExt, UInt8.toNat_ofNat']
  omega

/-! ## Memory errors -/

/-- The answer of a function that does not look at the bounds of the memory it is given. -/
inductive Checked (α : Type)
  | ok (a : α)
  | error (err : Int)
  /-- The code goes on with memory outside of the object, and what comes of it is not modelled: not
  even whether the function succeeds. -/
  | overrun
deriving DecidableEq

instance : Monad Checked where
  pure := .ok
  bind
    | .ok a, f => f a
    | .error err, _ => .error err
    | .overrun, _ => .overrun

/-! ## Data areas -/

/-- The data area after `src` was copied to position `n` of it. Bytes behind the end of the area are
not the area's. -/
def CspData.put (d : CspData) (n : Nat) (src : List UInt8) : CspData :=
  ⟨(d.val.take n ++ src ++ d.val.drop (n + src.length)).take cspBufferSize, by
    have := d.property
    simp only [List.length_take, List.length_append, List.length_drop]
    omega⟩

theorem CspData.put_val (d : CspData) {n : Nat} {src : List UInt8}
    (h : n + src.length ≤ cspBufferSize) :
    (d.put n src).val = d.val.take n ++ src ++ d.val.drop (n + src.length) := by
  have := d.property
  show List.take _ _ = _
  apply List.take_of_length_le
  simp only [List.length_take, List.length_append, List.length_drop]
  omega

theorem CspData.take_put (d : CspData) {n : Nat} {src : List UInt8}
    (h : n + src.length ≤ cspBufferSize) :
    (d.put n src).val.take (n + src.length) = d.val.take n ++ src := by
  have hd := d.property
  rw [d.put_val h, List.take_append_of_le_length]
  · apply List.take_of_length_le
    simp only [List.length_append, List.length_take]
    omega
  · simp only [List.length_append, List.length_take]
    omega

theorem CspData.take_put_left (d : CspData) {n : Nat} {src : List UInt8}
    (h : n + src.length ≤ cspBufferSize) : (d.put n src).val.take n = d.val.take n := by
  have hd := d.property
  rw [d.put_val h, List.append_assoc,
    List.take_append_of_le_length (by rw [List.length_take]; omega), List.take_take, Nat.min_self]

/-- The packet with `src` behind its payload. -/
def CspPacket.push (p : CspPacket) (src : List UInt8) : CspPacket :=
  { p with data := p.data.put p.length.toNat src, length := p.length + UInt16.ofNat src.length }

theorem CspPacket.length_push {p : CspPacket} {src : List UInt8}
    (h : p.length.toNat + src.length ≤ cspBufferSize) :
    (p.push src).length.toNat = p.length.toNat + src.length := by
  simp only [CspPacket.push, UInt16.toNat_add, UInt16.toNat_ofNat']
  have : cspBufferSize = 1024 := rfl
  omega

theorem CspPacket.length_payload {p : CspPacket} (h : p.length.toNat ≤ cspBufferSize) :
    p.payload.length = p.length.toNat := by
  have hd := p.data.property
  rw [CspPacket.payload, List.length_take]
  omega

theorem CspPacket.payload_push {p : CspPacket} {src : List UInt8}
    (h : p.length.toNat + src.length ≤ cspBufferSize) :
    (p.push src).payload = p.payload ++ src := by
  rw [CspPacket.payload, CspPacket.length_push h]
  exact p.data.take_put h

/-- A packet whose data are `bytes`. -/
def CspPacket.carrying (id : CspId) (bytes : List UInt8) : CspPacket :=
  { CspPacket.zero with id := id }.push bytes

theorem CspPacket.length_carrying {id : CspId} {bytes : List UInt8}
    (h : bytes.length ≤ cspBufferSize) :
    (CspPacket.carrying id bytes).length.toNat = bytes.length := by
  have hzero : ({ CspPacket.zero with id := id } : CspPacket).length.toNat = 0 := rfl
  rw [CspPacket.carrying, CspPacket.length_push (by omega), hzero, Nat.zero_add]

theorem CspPacket.length_carrying_replicate {id : CspId} {n : Nat} {b : UInt8}
    (h : n ≤ cspBufferSize) : (CspPacket.carrying id (List.replicate n b)).length.toNat = n := by
  rw [CspPacket.length_carrying (by rwa [List.length_replicate]), List.length_replicate]

theorem CspPacket.payload_carrying {id : CspId} {bytes : List UInt8}
    (h : bytes.length ≤ cspBufferSize) : (CspPacket.carrying id bytes).payload = bytes := by
  have hzero : ({ CspPacket.zero with id := id } : CspPacket).length.toNat = 0 := rfl
  rw [CspPacket.carrying, CspPacket.payload_push (by omega)]
  rfl

end CspTerm.Csp
