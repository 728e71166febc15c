import CspTerm.Lib.CString

/-!
# Hexadecimal spelling of bytes

Two upper-case digits a byte, as `%02X` prints them, and the case folding and the digit test of the C
locale by which any-case text is compared with that spelling.
-/

namespace Hex

open CString

/-- `toupper` in the C locale. -/
def toUpper (b : UInt8) : UInt8 := if 97 ≤ b ∧ b ≤ 122 then b - 32 else b

/-- `isxdigit` in the C locale. -/
def isXDigit (b : UInt8) : Bool :=
  (48 ≤ b && b ≤ 57) || (65 ≤ b && b ≤ 70) || (97 ≤ b && b ≤ 102)

def upperDigit (d : Nat) : UInt8 := if d < 10 then (48 + d).toUInt8 else (55 + d).toUInt8

/-- The spelling of one byte. -/
def spell (b : UInt8) : CStr := [upperDigit (b.toNat / 16), upperDigit (b.toNat % 16)]

def text (bytes : List UInt8) : CStr := bytes.flatMap spell

@[simp] theorem text_nil : text [] = [] := rfl

@[simp] theorem text_cons (b : UInt8) (bytes : List UInt8) :
    text (b :: bytes) = spell b ++ text bytes := rfl

theorem length_text (bytes : List UInt8) : (text bytes).length = 2 * bytes.length := by
  induction bytes with
  | nil => rfl
  | cons b bytes ih =>
    rw [text_cons, List.length_append, ih, List.length_cons]
    show 2 + 2 * bytes.length = _
    omega

/-! ## Digits -/

/-- A hexadecimal digit is what folds to one of the sixteen upper-case digits. -/
theorem isXDigit_iff (b : UInt8) :
    isXDigit b = true ↔ ∃ d < 16, toUpper b = upperDigit d := by
  have hall : ∀ n < 256, isXDigit (UInt8.ofNat n) = true ↔
      ∃ d < 16, toUpper (UInt8.ofNat n) = upperDigit d := by decide +kernel
  have hb := hall b.toNat b.toNat_lt
  rwa [UInt8.ofNat_toNat] at hb

/-- Folding does not change whether a byte is a digit. -/
theorem isXDigit_toUpper (b : UInt8) : isXDigit (toUpper b) = isXDigit b := by
  have hall : ∀ n < 256,
      isXDigit (toUpper (UInt8.ofNat n)) = isXDigit (UInt8.ofNat n) := by decide +kernel
  have hb := hall b.toNat b.toNat_lt
  rwa [UInt8.ofNat_toNat] at hb

/-- The byte that two digits spell. -/
theorem spell_pair {h l : Nat} (hh : h < 16) (hl : l < 16) :
    spell (h * 16 + l).toUInt8 = [upperDigit h, upperDigit l] := by
  have hn : ((h * 16 + l).toUInt8).toNat = h * 16 + l := by
    rw [Nat.toUInt8_eq, UInt8.toNat_ofNat']
    exact Nat.mod_eq_of_lt (by omega)
  rw [spell, hn, show (h * 16 + l) / 16 = h by omega, show (h * 16 + l) % 16 = l by omega]

/-- A text that folds to a spelling consists of digits. -/
theorem isXDigit_of_text {hex : CStr} {bytes : List UInt8} (h : hex.map toUpper = text bytes) :
    ∀ b ∈ hex, isXDigit b = true := by
  have hdigits : ∀ b ∈ text bytes, isXDigit b = true := by
    intro b hb
    obtain ⟨v, -, hv⟩ := List.mem_flatMap.mp hb
    have hall : ∀ d < 16, isXDigit (upperDigit d) = true := by decide +kernel
    have hlt := v.toNat_lt
    rcases List.mem_cons.mp hv with rfl | hv
    · exact hall _ (by omega)
    · obtain rfl := List.mem_singleton.mp hv
      exact hall _ (by omega)
  intro b hb
  rw [← isXDigit_toUpper]
  exact hdigits _ (h ▸ List.mem_map_of_mem hb)

end Hex
