import CspTerm.Csp.Crc32
import CspTerm.Lib.Sha1

/-!
# SHA-1 and message authentication (`csp_sha1.c`, `csp_hmac.c`)

The hash is fed in pieces of any length. An authentication code is the hash of a hash, each with a
key in front; packets carry its first four bytes behind their data.
-/

namespace CspTerm.Csp

/-! ## Words -/

def rol (x y : UInt32) : UInt32 := (x <<< y) ||| (x >>> (32 - y))

/-- `LOAD32H`: the word that starts at position `i`, most significant byte first. -/
def load32h (buf : List UInt8) (i : Nat) : UInt32 :=
  ((buf.getD i 0).toUInt32 <<< 24) ||| ((buf.getD (i + 1) 0).toUInt32 <<< 16) |||
    ((buf.getD (i + 2) 0).toUInt32 <<< 8) ||| (buf.getD (i + 3) 0).toUInt32

def store32h (x : UInt32) : List UInt8 :=
  [(x >>> 24).toUInt8, (x >>> 16).toUInt8, (x >>> 8).toUInt8, x.toUInt8]

def store64h (x : UInt64) : List UInt8 :=
  [(x >>> 56).toUInt8, (x >>> 48).toUInt8, (x >>> 40).toUInt8, (x >>> 32).toUInt8,
    (x >>> 24).toUInt8, (x >>> 16).toUInt8, (x >>> 8).toUInt8, x.toUInt8]

/-! ## Compression -/

abbrev sha1BlockSize : Nat := 64

/-- `state`: five words. -/
abbrev Sha1Words : Type := Sha1.Words

def f0 (x y z : UInt32) : UInt32 := z ^^^ (x &&& (y ^^^ z))
def f1 (x y z : UInt32) : UInt32 := x ^^^ y ^^^ z
def f2 (x y z : UInt32) : UInt32 := (x &&& y) ||| (z &&& (x ||| y))
def f3 (x y z : UInt32) : UInt32 := x ^^^ y ^^^ z

/-- `W`, as far as it has been filled in after `i` steps of the loop that expands it. -/
def expand (buf : List UInt8) : Nat → List UInt32
  | 0 => (List.range 16).map fun i => load32h buf (4 * i)
  | i + 1 =>
    let w := expand buf i
    w ++ [rol (w.getD (i + 13) 0 ^^^ w.getD (i + 8) 0 ^^^ w.getD (i + 2) 0 ^^^ w.getD i 0) 1]

/-- `FF_0` to `FF_3`: the new values of `e` and `b`. -/
def ff (f : UInt32 → UInt32 → UInt32 → UInt32) (k w a b c d e : UInt32) : UInt32 × UInt32 :=
  (rol a 5 + f b c d + e + w + k, rol b 30)

/-- The body of each of the four loops: five steps, in which the variables change places. -/
def fiveSteps (f : UInt32 → UInt32 → UInt32 → UInt32) (k : UInt32) (w : List UInt32) (i : Nat)
    (s : Sha1Words) : Sha1Words :=
  let ⟨a, b, c, d, e⟩ := s
  let (e, b) := ff f k (w.getD i 0) a b c d e
  let (d, a) := ff f k (w.getD (i + 1) 0) e a b c d
  let (c, e) := ff f k (w.getD (i + 2) 0) d e a b c
  let (b, d) := ff f k (w.getD (i + 3) 0) c d e a b
  let (a, c) := ff f k (w.getD (i + 4) 0) b c d e a
  ⟨a, b, c, d, e⟩

/-- One of the four loops, from step `i` on. -/
def round (f : UInt32 → UInt32 → UInt32 → UInt32) (k : UInt32) (w : List UInt32) (i : Nat)
    (s : Sha1Words) : Sha1Words :=
  fiveSteps f k w (i + 15) (fiveSteps f k w (i + 10) (fiveSteps f k w (i + 5) (fiveSteps f k w i s)))

def cspSha1Compress (state : Sha1Words) (buf : List UInt8) : Sha1Words :=
  let w := expand buf 64
  let s := round f0 0x5a827999 w 0 state
  let s := round f1 0x6ed9eba1 w 20 s
  let s := round f2 0x8f1bbcdc w 40 s
  let s := round f3 0xca62c1d6 w 60 s
  ⟨state.a + s.a, state.b + s.b, state.c + s.c, state.d + s.d, state.e + s.e⟩

/-! ## The hash of a message -/

/-- `csp_sha1_state`: `buf` holds the first `curlen` bytes of the buffer. -/
structure CspSha1State where
  length : UInt64
  state : Sha1Words
  buf : List UInt8
  room : buf.length < sha1BlockSize

/-- `curlen`. -/
def CspSha1State.curlen (sha1 : CspSha1State) : Nat := sha1.buf.length

def cspSha1Init : CspSha1State :=
  { length := 0
    state := ⟨0x67452301, 0xefcdab89, 0x98badcfe, 0x10325476, 0xc3d2e1f0⟩
    buf := []
    room := by decide }

/-- A whole block, wherever it lies, is compressed and counted. -/
def CspSha1State.compress (sha1 : CspSha1State) (block : List UInt8) : CspSha1State :=
  { length := sha1.length + 8 * UInt64.ofNat sha1BlockSize
    state := cspSha1Compress sha1.state block
    buf := []
    room := by decide }

def cspSha1Process (sha1 : CspSha1State) (data : List UInt8) : CspSha1State :=
  if hdata : data = [] then sha1
  else if sha1.curlen = 0 ∧ sha1BlockSize ≤ data.length then
    -- whole blocks are not copied
    cspSha1Process (sha1.compress (data.take sha1BlockSize)) (data.drop sha1BlockSize)
  else
    let n := min data.length (sha1BlockSize - sha1.curlen)
    have : n ≠ 0 := by
      have := sha1.room
      have := List.length_pos_iff.mpr hdata
      simp only [n, CspSha1State.curlen]
      omega
    let buf := sha1.buf ++ data.take n
    if hfull : buf.length = sha1BlockSize then
      cspSha1Process (sha1.compress buf) (data.drop n)
    else
      cspSha1Process
        { sha1 with
          buf := buf
          room := by
            have := sha1.room
            simp only [buf, n, CspSha1State.curlen, List.length_append, List.length_take] at *
            omega }
        (data.drop n)
termination_by data.length
decreasing_by
  · rw [List.length_drop]
    exact Nat.sub_lt (List.length_pos_iff.mpr hdata) (by decide)
  · rw [List.length_drop]
    exact Nat.sub_lt (List.length_pos_iff.mpr hdata) (by omega)
  · rw [List.length_drop]
    exact Nat.sub_lt (List.length_pos_iff.mpr hdata) (by omega)

/-- The loop that copies the state to the output. -/
def storeWords (s : Sha1Words) : List UInt8 :=
  store32h s.a ++ store32h s.b ++ store32h s.c ++ store32h s.d ++ store32h s.e

/-- `csp_sha1_done`: the twenty bytes of the hash. -/
def cspSha1Done (sha1 : CspSha1State) : List UInt8 :=
  let length := sha1.length + UInt64.ofNat (sha1.curlen * 8)
  let buf := sha1.buf ++ [0x80]
  -- without room for the length, it goes to a block of its own
  let (state, buf) :=
    if buf.length > 56 then
      (cspSha1Compress sha1.state (buf ++ List.replicate (sha1BlockSize - buf.length) 0), [])
    else (sha1.state, buf)
  let buf := buf ++ List.replicate (56 - buf.length) 0
  storeWords (cspSha1Compress state (buf ++ store64h length))

def cspSha1Memory (msg : List UInt8) : List UInt8 := cspSha1Done (cspSha1Process cspSha1Init msg)

/-! ## Authentication codes -/

def cspErrHmac : Int := -100
def cspErrXtea : Int := -101
def cspErrCrc32 : Int := -102

/-- A key of either module: sixteen bytes. -/
def CspKey : Type := { bytes : List UInt8 // bytes.length = 16 }
deriving DecidableEq

/-- The state of an authentication code. -/
structure HmacState where
  md : CspSha1State
  key : List UInt8

/-- `csp_hmac_init`: `none` for an empty key. -/
def cspHmacInit (key : List UInt8) : Option HmacState :=
  if key.length < 1 then none
  else
    let key := if key.length > sha1BlockSize then cspSha1Memory key else key
    let key := key ++ List.replicate (sha1BlockSize - key.length) 0
    some { md := cspSha1Process cspSha1Init (key.map (· ^^^ 0x36)), key := key }

def cspHmacProcess (hmac : HmacState) (data : List UInt8) : HmacState :=
  { hmac with md := cspSha1Process hmac.md data }

def cspHmacDone (hmac : HmacState) : List UInt8 :=
  let isha := cspSha1Done hmac.md
  let buf := hmac.key.map (· ^^^ 0x5C)
  cspSha1Done (cspSha1Process (cspSha1Process cspSha1Init buf) isha)

/-- `csp_hmac_memory`: `none` is `CSP_ERR_INVAL`. -/
def cspHmacMemory (key data : List UInt8) : Option (List UInt8) :=
  (cspHmacInit key).map fun hmac => cspHmacDone (cspHmacProcess hmac data)

end CspTerm.Csp
