import CspTerm.Downlink.ReceivePacket
import CspTerm.Header.Itoa
import CspTerm.Lib.Hex

/-!
# The textual header generator (`generate_csp_header.c`)

The fields are printed in base 2, padded to the widths of the header and joined; the text is read
back as a number and printed in base 16.
-/

namespace CspTerm.Header

open CString CspTerm.Csp CspTerm.Downlink

/-! ## Characters and numbers -/

/-- The value of a `char`, which is signed. -/
def charValue (z : Int) : Int := (z + 2 ^ 7) % 2 ^ 8 - 2 ^ 7

/-- `*p` for a `char *p`. -/
def charAt (b : UInt8) : Int := charValue b.toNat

/-- `%X` of an `int`. -/
def fmtUpperHex (z : Int) : CStr :=
  (Radix.digits 16 (z % 2 ^ 32).toNat).map Hex.upperDigit

/-- `%02X` of an `int`. -/
def fmtUpperHex02 (z : Int) : CStr :=
  List.replicate (2 - (fmtUpperHex z).length) 48 ++ fmtUpperHex z

/-! ## Padding -/

/-- `while (count != 0) { strcat(out, "0"); count = count - 1; }`. -/
def appendZeros : Nat → CStr → CStr
  | 0, out => out
  | count + 1, out => appendZeros count (out ++ [48])

/-- The field `buf` behind `out`, with zeros up to `bits` digits; `none` for a longer field, from
whose negative count the loop does not come to 0. -/
def appendField (bits : Nat) (out buf : CStr) : Option CStr :=
  if buf.length = bits then some (out ++ buf)
  else
    match (bits : Int) - buf.length with
    | .ofNat count => some (appendZeros count out ++ buf)
    | .negSucc _ => none

/-! ## `generate_csp_header` -/

/-- `generate_csp_header`: the text it leaves in `csp_header_output`. `none` where C gives the call no
meaning or it does not return. -/
def generateCspHeader (destAddr srcAddr srcPort destPort dataLength : UInt8) : Option CStr := do
  let destAddrBuf ← itoa (charAt destAddr) 2
  let srcAddrBuf ← itoa (charAt srcAddr) 2
  let srcPortBuf ← itoa (charAt srcPort) 2
  let destPortBuf ← itoa (charAt destPort) 2
  let dataLengthBuf ← itoa (charAt dataLength) 2
  let temp ← appendField 5 (cstr "00") srcAddrBuf
  let temp ← appendField 5 temp destAddrBuf
  let temp ← appendField 6 temp destPortBuf
  let temp ← appendField 6 temp srcPortBuf
  let temp := temp ++ cstr "00000000"
  -- the result is kept in a `char`
  let value := charValue (toInt32 (strtol temp 2).value)
  let dataLengthH ← appendField 8 [] dataLengthBuf
  let value2 := toInt32 (strtol dataLengthH 2).value
  return fmtUpperHex value ++ fmtUpperHex02 value2

/-- The header text for these addresses, ports and this length is the spelling of the header that
`receive_packet` builds for them, without the high byte of its length. -/
def SpellsHeader (v : HeaderValues) (length : UInt16) : Prop :=
  generateCspHeader v.dst.val.toUInt8 v.src.val.toUInt8 v.sport.val.toUInt8 v.dport.val.toUInt8
      length.toUInt8 =
    some (Hex.text ((cspHeader v length).take 4 ++ (cspHeader v length).drop 5))

end CspTerm.Header
