import CspTerm.Radio.TleUpdate

/-!
# What the search stores (`doppler_freq_correction.c`)

The lines of the downloaded file without their line ends, and what `TLE1` and `TLE2` are to hold of
them after the search.
-/

namespace CspTerm.Radio

open CString

/-- The line without its line ends, up to a NUL in it. -/
def GetLine.stripped (g : GetLine) : CStr :=
  ((g.bytes.takeWhile (· ≠ 0)).dropWhile isLineEnd).takeWhile fun c => !isLineEnd c

def GetLine.Contains (g : GetLine) (pattern : CStr) : Prop := strstr g.stripped pattern = true

/-- The last line of the file that contains the pattern. -/
def lastMatch (lines : List GetLine) (pattern : CStr) : Option GetLine :=
  (lines.filter fun g => strstr g.stripped pattern).getLast?

/-- The array is as it was, if no line contains the pattern; otherwise it holds the last one that
does, cut to the room before the NUL. -/
def LastStored (lines : List GetLine) (pattern : CStr) (before after : TleArray) : Prop :=
  (lastMatch lines pattern = none → after = before) ∧
  ∀ g, lastMatch lines pattern = some g → (0 : UInt8) ∈ after.val ∧
    after.val.takeWhile (· ≠ 0) = g.stripped.take (tleLineSize - 1)

/-- The search writes to the arrays only, and leaves in each what it is to hold. -/
def StoresSafely (elementid : UInt32) (lines : List GetLine) (t : TleState) : Prop :=
  ∃ t', searchLines elementid lines t = some t' ∧
    LastStored lines (match0 elementid) t.tle1 t'.tle1 ∧
    LastStored lines (match1 elementid) t.tle2 t'.tle2

/-- The first byte of the line is not a line end. -/
def GetLine.BeginsWithText (g : GetLine) : Prop := ∀ c, g.bytes.head? = some c → isLineEnd c = false

/-- Each line with one of the patterns is in a buffer that is no larger than the arrays, and the last
line of each pattern does not begin with a line end. -/
structure LinesStorable (elementid : UInt32) (lines : List GetLine) : Prop where
  buffers : ∀ g ∈ lines, g.Contains (match0 elementid) ∨ g.Contains (match1 elementid) →
    g.len ≤ tleLineSize
  first : ∀ g, lastMatch lines (match0 elementid) = some g → g.BeginsWithText
  second : ∀ g, lastMatch lines (match1 elementid) = some g → g.BeginsWithText

end CspTerm.Radio
