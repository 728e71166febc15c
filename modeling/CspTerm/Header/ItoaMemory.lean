import CspTerm.Header.Itoa
import CspTerm.Lib.Cells

/-!
# `itoa` in the memory of its caller (`itoa.c`)

`itoa` and `reverse_String` with the cells that they write, the `int`s that they compute and the NUL
that they put behind the text. A `char *` is the contents of the cells from the pointer on.
-/

namespace CspTerm.Header

open CString

/-- The result of an operation on `int`s, unless it overflows. -/
def checkedInt (z : Int) : Option Int := if -2 ^ 31 ≤ z ∧ z < 2 ^ 31 then some z else none

/-- `strlen`, for a string that ends within the first `room` cells. -/
def strlen (room : Nat) (str : Nat → UInt8) : Option Nat :=
  (List.range room).find? fun k => str k = 0

/-! ## `reverse_String` -/

/-- `reverse_String(Str, i, len)`, with at most `fuel` calls of itself. `none` also where it reaches
in front of `Str`. -/
def reverseStringFrom : Nat → (Nat → UInt8) → Int → Int → Option (Nat → UInt8)
  | 0, _, _, _ => none
  | fuel + 1, str, i, len =>
    if i < 0 ∨ len - i < 0 then none
    else
      let temp := str i.toNat
      let str := Function.update str i.toNat (str (len - i).toNat)
      let str := Function.update str (len - i).toNat temp
      if i = len.tdiv 2 then some str else reverseStringFrom fuel str (i + 1) len

/-- `reverse_String(Str, 0, len)`. -/
def reverseStringInto (str : Nat → UInt8) (len : Int) : Option (Nat → UInt8) :=
  reverseStringFrom (len.natAbs + 1) str 0 len

/-! ## `itoa` -/

/-- The loop over the digits, with at most `fuel` tests of its condition: `i` and `str` behind it. -/
def itoaDigits (base : Int) : Nat → Int → Nat → (Nat → UInt8) → Option (Nat × (Nat → UInt8))
  | 0, _, _, _ => none
  | fuel + 1, num, i, str =>
    if num = 0 then some (i, str)
    else if base = 0 then none
    else
      match checkedInt (num.tdiv base) with
      | none => none
      | some quotient =>
        itoaDigits base fuel quotient (i + 1) (Function.update str i (itoaDigit (num.tmod base)))

/-- What `itoa` returns, `str` or NULL, and the cells that it leaves. -/
structure ItoaResult where
  returnsStr : Bool
  str : Nat → UInt8

/-- `itoa(num, str, base)`. `none` where C gives the call no meaning or it does not return. -/
def itoaInto (num base : Int) (str : Nat → UInt8) : Option ItoaResult :=
  if num = 0 then
    some { returnsStr := true, str := Function.update (Function.update str 0 48) 1 0 }
  else do
    let isNegative := num < 0 ∧ base = 10
    let num ← if isNegative then checkedInt (-num) else some num
    let (i, str) ← itoaDigits base (num.natAbs + 1) num 0 str
    let (i, str) := if isNegative then (i + 1, Function.update str i 45) else (i, str)
    let str := Function.update str i 0
    let len ← strlen (i + 1) str
    let str ← reverseStringInto str (len - 1)
    return { returnsStr := false, str := str }

/-! ## What they are to do -/

/-- The digits 0-9a-z. -/
def digitText (d : Nat) : UInt8 := (cstr "0123456789abcdefghijklmnopqrstuvwxyz").getD d 0

/-- The digits of a number, without leading zeros. -/
def numeral (base n : Nat) : CStr := (Radix.digits base n).map digitText

/-- "Negative numbers are handled only with base 10. Otherwise numbers are considered unsigned." -/
def documentedText (num : Int) (base : Nat) : CStr :=
  if num < 0 then
    if base = 10 then 45 :: numeral base num.natAbs else numeral base (num + 2 ^ 32).toNat
  else numeral base num.toNat

/-- `itoa` returns, and `str` is the documented text with its NUL. -/
def PrintsAsDocumented (num : Int) (base : Nat) (str : Nat → UInt8) : Prop :=
  ∃ r, itoaInto num base str = some r ∧ Cells.Holds 0 r.str (documentedText num base)

/-- `reverse_String` returns, and changes the text in `str` to the reversed one and nothing else. -/
def ReversesInPlace (str : Nat → UInt8) (text : CStr) : Prop :=
  reverseStringInto (Cells.overlay str (text ++ [0])) (text.length - 1) =
    some (Cells.overlay str (text.reverse ++ [0]))

end CspTerm.Header
