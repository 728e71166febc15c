import CspTerm.Lib.CString

/-!
# Numbers as text (`itoa.c`)

`itoa` takes the digits of a number from the last one on and reverses them in place.
-/

namespace CspTerm.Header

open CString

/-- `reverse_String(Str, i, len)`, where `len` is the index of the last character, with at most `fuel`
calls of itself. -/
def reverseLoop : Nat → CStr → Nat → Nat → Option CStr
  | 0, _, _, _ => none
  | fuel + 1, str, i, len =>
    let temp := str.getD i 0
    let str := str.set i (str.getD (len - i) 0)
    let str := str.set (len - i) temp
    if i = len / 2 then some str else reverseLoop fuel str (i + 1) len

/-- `reverse_String(Str, 0, len)`. -/
def reverseString (str : CStr) (len : Nat) : Option CStr := reverseLoop (len / 2 + 1) str 0 len

/-- `(rem > 9) ? (rem - 10) + 'a' : rem + '0'`. -/
def itoaDigit (rem : Int) : UInt8 := UInt8.ofInt (if rem > 9 then rem - 10 + 97 else rem + 48)

/-- The loop over the digits, with at most `fuel` tests of its condition. Division and remainder are
those of C, which round to zero. -/
def itoaLoop (base : Int) : Nat → Int → CStr → Option CStr
  | 0, _, _ => none
  | fuel + 1, num, str =>
    if num = 0 then some str
    else itoaLoop base fuel (num.tdiv base) (str ++ [itoaDigit (num.tmod base)])

/-- `itoa(num, str, base)` for an `int`: the text it leaves in `str`. `none` where C gives the call no
meaning or it does not return. -/
def itoa (num : Int) (base : Int) : Option CStr :=
  if num = 0 then some [48]
  else do
    let isNegative := num < 0 ∧ base = 10
    let num ← if isNegative then (if num = -2 ^ 31 then none else some (-num)) else some num
    let str ← itoaLoop base (num.natAbs + 1) num []
    let str := if isNegative then str ++ [45] else str
    reverseString str (str.length - 1)

end CspTerm.Header
