import CspTerm.Lib.Radix

/-!
# C text and C integers

The pieces of the C library that turn bytes into numbers and back, on a 64-bit platform with 32-bit
`int`: `strtol`, `atoi` and the decimal conversions of `sprintf`. A C string is the list of its
bytes before the terminating NUL.
-/

namespace CString

/-- The bytes of a C string, without its terminating NUL. -/
abbrev CStr := List UInt8

def cstr (s : String) : CStr := s.toList.map fun c => c.toNat.toUInt8

/-- The bytes of a literal, without the detour over its encoding. -/
theorem cstr_ofList (l : List Char) : cstr (String.ofList l) = l.map fun c => c.toNat.toUInt8 := by
  rw [cstr, String.toList_ofList]

theorem cstr_append (s t : String) : cstr (s ++ t) = cstr s ++ cstr t := by
  rw [cstr, String.toList_append, List.map_append]
  rfl

/-! ## Integer conversions -/

/-- Conversion to a 32-bit `int`. -/
def toInt32 (z : Int) : Int := (z + 2 ^ 31) % 2 ^ 32 - 2 ^ 31

def longMax : Int := 2 ^ 63 - 1

def longMin : Int := -2 ^ 63

theorem toInt32_of_range {z : Int} (h1 : -2 ^ 31 ≤ z) (h2 : z < 2 ^ 31) : toInt32 z = z := by
  unfold toInt32
  omega

/-- A 32-bit unsigned number survives the conversion to `int` exactly when its top bit is clear. -/
theorem toInt32_eq_self_iff {n : Nat} (h : n < 2 ^ 32) : toInt32 n = n ↔ n < 2 ^ 31 := by
  unfold toInt32
  omega

/-! ## `sprintf` -/

def digitChar (d : Nat) : UInt8 := (48 + d).toUInt8

/-- `%u`, `%zu` and `%d` of a non-negative number. -/
def fmtNat (n : Nat) : CStr := (Radix.digits 10 n).map digitChar

def fmtInt (z : Int) : CStr := if z < 0 then 45 :: fmtNat z.natAbs else fmtNat z.natAbs

/-- `%03d`: the sign counts towards the width, zeros come after it. -/
def fmtInt03 (z : Int) : CStr :=
  if z < 0 then 45 :: (List.replicate (2 - (fmtNat z.natAbs).length) 48 ++ fmtNat z.natAbs)
  else List.replicate (3 - (fmtNat z.natAbs).length) 48 ++ fmtNat z.natAbs

/-! ## `strtol` -/

def isSpace (b : UInt8) : Bool := b == 32 || (9 ≤ b && b ≤ 13)

/-- The value of a letter or digit as a digit of a base up to 36. -/
def digitVal (b : UInt8) : Option Nat :=
  if 48 ≤ b ∧ b ≤ 57 then some (b.toNat - 48)
  else if 97 ≤ b ∧ b ≤ 122 then some (b.toNat - 87)
  else if 65 ≤ b ∧ b ≤ 90 then some (b.toNat - 55)
  else none

/-- The longest run of digits of base `base`, and what follows it. -/
def takeDigits (base : Nat) : CStr → List Nat × CStr
  | [] => ([], [])
  | b :: s =>
    match digitVal b with
    | some d =>
      if d < base then
        let (ds, r) := takeDigits base s
        (d :: ds, r)
      else ([], b :: s)
    | none => ([], b :: s)

/-- What `strtol` leaves behind: its result, the text at `*endptr`, whether a conversion was made
(otherwise `*endptr` is the start of the text), and whether `errno` is `ERANGE`. -/
structure Strtol where
  value : Int
  rest : CStr
  converted : Bool
  erange : Bool
deriving DecidableEq, Repr

def takeSign : CStr → Bool × CStr
  | 45 :: s => (true, s)
  | 43 :: s => (false, s)
  | s => (false, s)

/-- The base that base 0 stands for, and the text after its prefix. A `0x` that no hexadecimal
digit follows is the octal numeral `0`. -/
def detectBase (s : CStr) : Nat × CStr :=
  match s with
  | 48 :: x :: b :: s' =>
    if (x = 120 ∨ x = 88) ∧ (takeDigits 16 [b]).1 ≠ [] then (16, b :: s') else (8, s)
  | 48 :: _ => (8, s)
  | _ => (10, s)

/-- `strtol(s, &endptr, base)` for base 0 and base 10. -/
def strtol (s : CStr) (base : Nat) : Strtol :=
  let (neg, s1) := takeSign (s.dropWhile isSpace)
  let (b, s2) := if base = 0 then detectBase s1 else (base, s1)
  let (ds, r) := takeDigits b s2
  if ds = [] then { value := 0, rest := s, converted := false, erange := false }
  else
    let z : Int := if neg then -(Radix.value b ds : Int) else Radix.value b ds
    if z < longMin then { value := longMin, rest := r, converted := true, erange := true }
    else if longMax < z then { value := longMax, rest := r, converted := true, erange := true }
    else { value := z, rest := r, converted := true, erange := false }

/-- `atoi(s)`: `(int) strtol(s, NULL, 10)`. -/
def atoi (s : CStr) : Int := toInt32 (strtol s 10).value

/-! ## Reading back what was printed -/

theorem digitVal_digitChar {d : Nat} (h : d < 10) : digitVal (digitChar d) = some d := by
  have : ∀ d < 10, digitVal (digitChar d) = some d := by decide
  exact this d h

theorem takeDigits_map {ds : List Nat} (h : ∀ d ∈ ds, d < 10) :
    takeDigits 10 (ds.map digitChar) = (ds, []) := by
  induction ds with
  | nil => rfl
  | cons d ds ih =>
    have hd : d < 10 := h d (by simp)
    simp [takeDigits, digitVal_digitChar hd, hd, ih fun e he => h e (by simp [he])]

theorem digitChar_plain {d : Nat} (h : d < 10) :
    isSpace (digitChar d) = false ∧ digitChar d ≠ 45 ∧ digitChar d ≠ 43 := by
  have : ∀ d < 10, isSpace (digitChar d) = false ∧ digitChar d ≠ 45 ∧ digitChar d ≠ 43 := by decide
  exact this d h

theorem takeSign_of_ne {b : UInt8} {s : CStr} (h1 : b ≠ 45) (h2 : b ≠ 43) :
    takeSign (b :: s) = (false, b :: s) := by
  unfold takeSign
  split
  · rename_i h; exact absurd (List.cons.inj h).1 h1
  · rename_i h; exact absurd (List.cons.inj h).1 h2
  · rfl

/-- `strtol` in base 10 reads a printed number. -/
theorem strtol_fmtNat {n : Nat} (h : (n : Int) ≤ longMax) :
    strtol (fmtNat n) 10 = { value := n, rest := [], converted := true, erange := false } := by
  have hlt : ∀ d ∈ Radix.digits 10 n, d < 10 := fun d hd =>
    Radix.lt_of_mem_digits (by decide) hd
  obtain ⟨d, ds, hds⟩ := List.exists_cons_of_ne_nil (Radix.digits_ne_nil 10 n)
  obtain ⟨hsp, hm, hp⟩ := digitChar_plain (hlt d (by simp [hds]))
  have hval : Radix.value 10 (Radix.digits 10 n) = n := Radix.value_digits 10 n
  have htake := takeDigits_map hlt
  have hfmt : fmtNat n = digitChar d :: ds.map digitChar := by simp [fmtNat, hds]
  have hdrop : (fmtNat n).dropWhile isSpace = fmtNat n := by simp [hfmt, hsp]
  have hsign : takeSign (fmtNat n) = (false, fmtNat n) := by
    rw [hfmt]
    exact takeSign_of_ne hm hp
  have hlo : ¬ (n : Int) < longMin := by unfold longMin; omega
  have hhi : ¬ longMax < (n : Int) := by omega
  unfold strtol
  rw [hdrop, hsign]
  simp only [fmtNat] at *
  simp [htake, Radix.digits_ne_nil, hval, hlo, hhi]

/-- **`atoi` reads back what `sprintf("%d")` printed**, for numbers an `int` can hold. -/
theorem atoi_fmtNat {n : Nat} (h : n < 2 ^ 31) : atoi (fmtNat n) = n := by
  unfold atoi
  rw [strtol_fmtNat (by unfold longMax; omega)]
  show toInt32 n = n
  exact toInt32_of_range (by omega) (by omega)

end CString
