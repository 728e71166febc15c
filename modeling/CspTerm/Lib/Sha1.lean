import CspTerm.Lib.BlockStream
import Mathlib.Algebra.Group.Nat.Defs

/-!
# The secure hash algorithm SHA-1

The definition of the standard: eighty steps for each block of 64 bytes, over the words of a schedule
that the block starts, and a padding that ends in the length of the message. Next to it, the code that
authenticates a message with a hash and a key.
-/

namespace Sha1

/-- The five words that are carried from one block to the next. -/
structure Words where
  a : UInt32
  b : UInt32
  c : UInt32
  d : UInt32
  e : UInt32
deriving DecidableEq

def rotl (n : Nat) (x : UInt32) : UInt32 := .ofBitVec (x.toBitVec.rotateLeft n)

/-! ## The functions and constants of the steps -/

def ch (x y z : UInt32) : UInt32 := (x &&& y) ^^^ (~~~x &&& z)

def parity (x y z : UInt32) : UInt32 := x ^^^ y ^^^ z

def maj (x y z : UInt32) : UInt32 := (x &&& y) ^^^ (x &&& z) ^^^ (y &&& z)

def function (t : Nat) : UInt32 → UInt32 → UInt32 → UInt32 :=
  if t < 20 then ch else if t < 40 then parity else if t < 60 then maj else parity

def constant (t : Nat) : UInt32 :=
  if t < 20 then 0x5a827999
  else if t < 40 then 0x6ed9eba1
  else if t < 60 then 0x8f1bbcdc
  else 0xca62c1d6

/-! ## Blocks -/

/-- The word number `t` of a block, most significant byte first. -/
def word (block : List UInt8) (t : Nat) : UInt32 :=
  .ofBitVec ((block.getD (4 * t) 0).toBitVec ++ (block.getD (4 * t + 1) 0).toBitVec ++
    (block.getD (4 * t + 2) 0).toBitVec ++ (block.getD (4 * t + 3) 0).toBitVec)

def schedule (block : List UInt8) (t : Nat) : UInt32 :=
  if t < 16 then word block t
  else rotl 1 (schedule block (t - 3) ^^^ schedule block (t - 8) ^^^ schedule block (t - 14) ^^^
    schedule block (t - 16))

def step (block : List UInt8) (t : Nat) (s : Words) : Words :=
  { a := rotl 5 s.a + function t s.b s.c s.d + s.e + constant t + schedule block t
    b := s.a
    c := rotl 30 s.b
    d := s.c
    e := s.d }

/-- The first `t` steps. -/
def steps (block : List UInt8) (s : Words) : Nat → Words
  | 0 => s
  | t + 1 => step block t (steps block s t)

def compress (s : Words) (block : List UInt8) : Words :=
  let r := steps block s 80
  ⟨s.a + r.a, s.b + r.b, s.c + r.c, s.d + r.d, s.e + r.e⟩

/-! ## Messages -/

/-- The number `n` in `k` bytes, most significant byte first. -/
def bigEndian (k n : Nat) : List UInt8 :=
  (List.range k).map fun i => .ofNat (n / 256 ^ (k - 1 - i))

/-- The zeros that fill the last block up to the length. -/
def zeros (length : Nat) : Nat := (119 - length % 64) % 64

def pad (message : List UInt8) : List UInt8 :=
  message ++ [0x80] ++ List.replicate (zeros message.length) 0 ++ bigEndian 8 (8 * message.length)

def initial : Words := ⟨0x67452301, 0xefcdab89, 0x98badcfe, 0x10325476, 0xc3d2e1f0⟩

def digest (s : Words) : List UInt8 :=
  bigEndian 4 s.a.toNat ++ bigEndian 4 s.b.toNat ++ bigEndian 4 s.c.toNat ++
    bigEndian 4 s.d.toNat ++ bigEndian 4 s.e.toNat

def hash (message : List UInt8) : List UInt8 :=
  digest ((BlockStream.blocks 64 (pad message)).foldl compress initial)

theorem length_digest (s : Words) : (digest s).length = 20 := by
  simp [digest, bigEndian]

theorem length_bigEndian (k n : Nat) : (bigEndian k n).length = k := by simp [bigEndian]

/-- Only what fits is written. -/
theorem bigEndian_mod (k n : Nat) : bigEndian k (n % 256 ^ k) = bigEndian k n := by
  apply List.map_congr_left
  intro i hi
  have hsplit : 256 ^ k = 256 ^ (k - 1 - i) * 256 ^ (i + 1) := by
    rw [← Nat.pow_add]
    congr 1
    have := List.mem_range.mp hi
    omega
  apply UInt8.toNat_inj.mp
  rw [UInt8.toNat_ofNat', UInt8.toNat_ofNat', hsplit, Nat.mod_mul_right_div_self]
  exact Nat.mod_mod_of_dvd _ ⟨256 ^ i, Nat.mul_comm _ _⟩

/-- A padded message consists of whole blocks. -/
theorem dvd_length_pad (message : List UInt8) : 64 ∣ (pad message).length := by
  simp only [pad, List.length_append, List.length_singleton, List.length_replicate,
    length_bigEndian, zeros]
  omega

/-! ## Message authentication -/

/-- The key, made as long as a block: a longer one is hashed first. -/
def blockKey (H : List UInt8 → List UInt8) (size : Nat) (key : List UInt8) : List UInt8 :=
  let key := if size < key.length then H key else key
  key ++ List.replicate (size - key.length) 0

/-- The authentication code of a message, for a hash `H` over blocks of `size` bytes. -/
def hmac (H : List UInt8 → List UInt8) (size : Nat) (key message : List UInt8) : List UInt8 :=
  H ((blockKey H size key).map (· ^^^ 0x5C) ++ H ((blockKey H size key).map (· ^^^ 0x36) ++ message))

end Sha1
