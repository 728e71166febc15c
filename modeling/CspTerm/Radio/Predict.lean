import CspTerm.Lib.CString

/-!
# The element set (`predict.c`)

`setTLE` takes a two-line element set over if `KepCheck` finds it valid. What `InternalUpdate`
computes from the two lines is floating point and a function of the lines, so the element set is
modelled by its lines.
-/

namespace CspTerm.Radio

open CString

def isdigit (c : UInt8) : Bool := 48 ≤ c && c ≤ 57

/-- The byte of an ASCII character. -/
def asciiByte (c : Char) : UInt8 := c.toNat.toUInt8

/-- What `KepCheck` reads of a line: the columns up to the checksum. -/
abbrev tleColumns : Nat := 69

/-- `val`: a static table that nothing writes. -/
def val (_ : UInt8) : UInt8 := 0

/-! ## Validation -/

/-- The columns of line 1 that must hold a certain character. -/
def line1Columns : List (Nat × Char) :=
  [(0, '1'), (1, ' '), (7, 'U'), (8, ' '), (17, ' '), (23, '.'), (32, ' '), (34, '.'), (43, ' '),
   (52, ' '), (61, ' '), (62, '0'), (63, ' ')]

def line2Columns : List (Nat × Char) :=
  [(0, '2'), (1, ' '), (7, ' '), (11, '.'), (16, ' '), (20, '.'), (25, ' '), (33, ' '), (37, '.'),
   (42, ' '), (46, '.'), (51, ' '), (54, '.')]

/-- The columns of the catalogue number. -/
def catalogueColumns : List Nat := [2, 3, 4, 5, 6]

/-- The character in a column. -/
abbrev column (line : List UInt8) (i : Nat) : UInt8 := line.getD i 0

/-- `sum1` and `sum2`, for a table of character values. -/
def kepSum (val : UInt8 → UInt8) (line : List UInt8) : Nat :=
  ((line.take 68).map fun c => (val c).toNat).sum

/-- The terms that are or-ed into `x`. -/
def kepTerms (val : UInt8 → UInt8) (line1 line2 : List UInt8) : List Nat :=
  let digitTerm (c : UInt8) : Nat := if isdigit c then 0 else 1
  [(val (column line1 68)).toNat ^^^ kepSum val line1 % 10,
   (val (column line2 68)).toNat ^^^ kepSum val line2 % 10] ++
  line1Columns.map (fun p => (column line1 p.1 ^^^ asciiByte p.2).toNat) ++
  line2Columns.map (fun p => (column line2 p.1 ^^^ asciiByte p.2).toNat) ++
  catalogueColumns.map (fun i => (column line1 i ^^^ column line2 i).toNat) ++
  [digitTerm (column line1 68), digitTerm (column line2 68), digitTerm (column line1 18),
   digitTerm (column line1 19), digitTerm (column line2 31), digitTerm (column line2 32)]

/-- Every character is a valid index of the table, which is indexed by a signed `char`. -/
def ReadsInTable (line : List UInt8) : Prop := ∀ c ∈ line.take tleColumns, c < 128

instance (line : List UInt8) : Decidable (ReadsInTable line) :=
  inferInstanceAs (Decidable (∀ c ∈ _, _))

/-- `KepCheck` over a table of character values; `none` where a read is outside the table. -/
def kepCheckWith (val : UInt8 → UInt8) (line1 line2 : List UInt8) : Option Bool :=
  if ReadsInTable line1 ∧ ReadsInTable line2 then
    some ((kepTerms val line1 line2).foldl (· ||| ·) 0 = 0)
  else none

def kepCheck : List UInt8 → List UInt8 → Option Bool := kepCheckWith val

/-- The lines of `sat`, as the C strings that `strncpy` leaves in them. -/
structure SatLines where
  line1 : CStr
  line2 : CStr
deriving DecidableEq, Repr

/-- `strncpy` of `size` bytes at most, into an array that has a NUL behind them. -/
def strncpyText (size : Nat) (s : List UInt8) : CStr := (s.takeWhile (· ≠ 0)).take size

/-- `setTLE`, on the memory at the two pointers. -/
def setTLE (sat : SatLines) (line1 line2 : List UInt8) : Option (Int × SatLines) :=
  (kepCheck line1 line2).map fun valid =>
    if valid then
      (1, { line1 := strncpyText tleColumns line1, line2 := strncpyText tleColumns line2 })
    else (0, sat)

/-! ## Valid element sets -/

structure FixedColumns (line1 line2 : List UInt8) : Prop where
  fixed1 : ∀ p ∈ line1Columns, column line1 p.1 = asciiByte p.2
  fixed2 : ∀ p ∈ line2Columns, column line2 p.1 = asciiByte p.2
  checksum : isdigit (column line1 68) = true ∧ isdigit (column line2 68) = true
  epochYear : isdigit (column line1 18) = true ∧ isdigit (column line1 19) = true
  eccentricity : isdigit (column line2 31) = true ∧ isdigit (column line2 32) = true

def SameCatalogue (line1 line2 : List UInt8) : Prop :=
  ∀ i ∈ catalogueColumns, column line1 i = column line2 i

/-- What a character adds to the checksum: digits their value, a minus sign one. -/
def checksumValue (c : UInt8) : UInt8 := if isdigit c then c - 48 else if c = 45 then 1 else 0

/-- The 69th character is the digit of the sum over the first 68. -/
def ChecksumRight (line : List UInt8) : Prop :=
  isdigit (column line 68) = true ∧
    (checksumValue (column line 68)).toNat = kepSum checksumValue line % 10

structure ValidTle (line1 line2 : List UInt8) : Prop where
  columns : FixedColumns line1 line2
  catalogue : SameCatalogue line1 line2
  checksum1 : ChecksumRight line1
  checksum2 : ChecksumRight line2

/-- A C string that has all the columns. -/
structure IsTleLine (line : CStr) : Prop where
  length : tleColumns ≤ line.length
  text : ∀ c ∈ line, c ≠ 0

/-- `setTLE` takes over what is valid, checksum included, and nothing else. -/
def TakesOverValid (sat : SatLines) (line1 line2 : CStr) : Prop :=
  (ValidTle line1 line2 →
    setTLE sat line1 line2 =
      some (1, { line1 := line1.take tleColumns, line2 := line2.take tleColumns })) ∧
  (¬ ValidTle line1 line2 → setTLE sat line1 line2 = some (0, sat))

/-- One digit of the line has become another one. -/
def DigitCorrupted (line line' : List UInt8) : Prop :=
  ∃ i < tleColumns, ∃ d, isdigit (column line i) = true ∧ isdigit d = true ∧ d ≠ column line i ∧
    line' = line.set i d

/-- One digit of the element set has become another one. -/
def TleCorrupted (line1 line2 line1' line2' : List UInt8) : Prop :=
  (DigitCorrupted line1 line1' ∧ line2' = line2) ∨ (line1' = line1 ∧ DigitCorrupted line2 line2')

/-! ## A concrete element set -/

def sampleLine1 : CStr :=
  cstr "1 56309U 23057A   24001.50000000  .00001000  00000+0  50000-4 0  9991"

def sampleLine2 : CStr :=
  cstr "2 56309   9.9900 120.0000 0010000 130.0000 230.0000 14.90000000 12349"

end CspTerm.Radio
