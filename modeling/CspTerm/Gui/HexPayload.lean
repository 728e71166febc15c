import CspTerm.Gui.HandleCommand
import CspTerm.Lib.Hex

/-!
# Decoding a payload (`gui_backend.c`)

`gui_backend_hex_to_bytes` with its loop over the buffer that it allocates and with the two variables
of its caller that it writes to.
-/

namespace CspTerm.Gui

open CString

/-- `*buffer_out` and `*length_out`. -/
structure HexOut where
  buffer : Option (List UInt8)
  length : Nat
deriving DecidableEq, Repr

/-- `(c <= '9') ? c - '0' : c - 'A' + 10`, for a folded digit. -/
def hexNibble (c : UInt8) : Nat := if c ≤ 57 then c.toNat - 48 else c.toNat - 65 + 10

/-- What one pass of the loop stores, unless one of its two characters is no digit. -/
def hexByte (hex : CStr) (i : Nat) : Option UInt8 :=
  let high := Hex.toUpper (hex.getD (2 * i) 0)
  let low := Hex.toUpper (hex.getD (2 * i + 1) 0)
  if !Hex.isXDigit high || !Hex.isXDigit low then none
  else some (hexNibble high <<< 4 ||| hexNibble low).toUInt8

/-- The loop from index `i`, with `k` passes left. -/
def hexLoop (hex : CStr) : Nat → Nat → List UInt8 → Option (List UInt8)
  | 0, _, buffer => some buffer
  | k + 1, i, buffer =>
    match hexByte hex i with
    | none => none
    | some v => hexLoop hex k (i + 1) (buffer.set i v)

/-- `gui_backend_hex_to_bytes(hex, &buffer, &length)`: its result, and what it leaves in the
variables of its caller. `memory` is the contents of fresh memory, unless `malloc` fails. -/
def hexToBytes (memory : Option (Nat → UInt8)) (hex : CStr) (out : HexOut) : Int × HexOut :=
  let len := hex.length
  if len % 2 ≠ 0 ∨ len = 0 then (-1, out)
  else
    let bytes := len / 2
    match memory with
    | none => (-1, out)
    | some fresh =>
      match hexLoop hex bytes 0 ((List.range bytes).map fresh) with
      | none => (-1, out)
      | some buffer => (0, { buffer := some buffer, length := bytes })

end CspTerm.Gui
