import CspTerm.Gui.Grammar
import CspTerm.Lib.Numeral

/-!
# Numeric arguments (`gui_backend.c`)

`gui_backend_parse_long` with the variable of its caller that it writes to, and what the user guide
promises about the numbers it reads.
-/

namespace CspTerm.Gui

open CString

/-- `gui_backend_parse_long(token, min, max, &value)`: its result, and what it leaves in `value`. -/
def parseLong (token : CStr) (min max value : Int) : Int × Int :=
  let parsed := strtol token 0
  if parsed.erange ∨ ¬ parsed.converted ∨ parsed.rest ≠ [] then (-1, value)
  else if parsed.value < min ∨ parsed.value > max then (-1, value)
  else (0, parsed.value)

/-- The call succeeds exactly on the documented numbers of the range, with their value, and touches
the variable of its caller in no other case. -/
def ReadsAsDocumented (token : CStr) (min max : Int) : Prop :=
  ∀ value, (∀ v, parseLong token min max value = (0, v) ↔
      documentedNumber token = some v ∧ min ≤ v ∧ v ≤ max) ∧
    ((parseLong token min max value).1 ≠ 0 → (parseLong token min max value).2 = value)

/-- The text is no number of the range. -/
def OutOfRange (min max : Int) (number : Option Int) : Prop :=
  ∀ v, number = some v → ¬ (min ≤ v ∧ v ≤ max)

def StartsWithSpace (token : CStr) : Prop := ∃ b rest, token = b :: rest ∧ isSpace b = true

/-- Behind white space there is no number of the range, where a number with a leading zero is an octal
one; and without white space, a number with a leading zero has one digit that counts, or is out of
the range both as a decimal and as an octal number. -/
structure PlainlyWritten (token : CStr) (min max : Int) : Prop where
  octalBehindSpace : StartsWithSpace token → LeadingZero (token.dropWhile isSpace) →
    OutOfRange min max (octalNumber (token.dropWhile isSpace))
  behindSpace : StartsWithSpace token → ¬ LeadingZero (token.dropWhile isSpace) →
    OutOfRange min max (documentedNumber (token.dropWhile isSpace))
  leadingZero : ¬ StartsWithSpace token → LeadingZero token →
    OnlyLastDigit (takeSign token).2 ∨
      OutOfRange min max (documentedNumber token) ∧ OutOfRange min max (octalNumber token)

end CspTerm.Gui
