import CspTerm.Radio.Doppler
import CspTerm.Radio.Predict

/-!
# The search for an element set (`doppler_freq_correction.c`)

`tleupdate` downloads the element sets of many satellites into a file and looks for the lines of one
of them by the digits of its number. The result of the function is not used, and what goes wrong in
it is only logged.
-/

namespace CspTerm.Radio

open CString

/-! ## Strings -/

/-- `strstr(s, p) != NULL`. -/
def strstr (s p : CStr) : Bool := s.tails.any p.isPrefixOf

def isLineEnd (c : UInt8) : Bool := c == 13 || c == 10

/-- The string after `strtok(line, "\r\n")`, which ends it behind the first token, if there is
one. -/
def strtokLine (line : CStr) : CStr :=
  let token := line.dropWhile isLineEnd
  if token = [] then line
  else line.takeWhile isLineEnd ++ token.takeWhile fun c => !isLineEnd c

/-- The `n` bytes that `strncpy(dest, s, n)` writes. -/
def strncpyBytes (n : Nat) (s : CStr) : List UInt8 := s.take n ++ List.replicate (n - s.length) 0

theorem length_strncpyBytes (n : Nat) (s : CStr) : (strncpyBytes n s).length = n := by
  unfold strncpyBytes
  rw [List.length_append, List.length_take, List.length_replicate]
  omega

/-! ## State -/

abbrev tleLineSize : Nat := 120

/-- The arrays `TLE1` and `TLE2`. -/
def TleArray : Type := { bytes : List UInt8 // bytes.length = tleLineSize }
deriving DecidableEq

def TleArray.zero : TleArray := ⟨List.replicate tleLineSize 0, List.length_replicate⟩

/-- `strncpy` into the array; `none` if it writes beyond. -/
def TleArray.strncpy (a : TleArray) (s : CStr) (n : Nat) : Option TleArray :=
  if h : n ≤ tleLineSize then
    some ⟨strncpyBytes n s ++ a.val.drop n, by
      rw [List.length_append, length_strncpyBytes, List.length_drop, a.property]
      omega⟩
  else none

/-- The static variables of the element sets: the lines that were found, and the element set that
`setTLE` installed. -/
structure TleState where
  tle1 : TleArray
  tle2 : TleArray
  sat : SatLines
deriving DecidableEq

def TleState.init : TleState := { tle1 := .zero, tle2 := .zero, sat := ⟨[], []⟩ }

/-! ## The downloaded file -/

/-- One result of `getline`: the bytes of a line, and the size of the buffer that they are in, which
has room for a NUL behind them. -/
structure GetLine where
  bytes : List UInt8
  len : Nat
  fits : bytes.length < len
deriving DecidableEq

/-- The line as the search sees it. -/
def GetLine.text (g : GetLine) : CStr := strtokLine (g.bytes.takeWhile (· ≠ 0))

/-- What a download comes to: whether `tle.txt` opens, whether `curl_easy_perform` fails, and what
`getline` then reads. -/
structure TleDownload where
  opened : Bool
  err : Bool
  lines : List GetLine

def match0 (elementid : UInt32) : CStr := fmtNat elementid.toNat ++ cstr "U "

def match1 (elementid : UInt32) : CStr := fmtNat elementid.toNat ++ cstr " "

/-! ## The search -/

/-- One of the two tests of the loop. -/
def storeMatch (pattern : CStr) (a : TleArray) (g : GetLine) : Option TleArray :=
  if strstr g.text pattern then a.strncpy g.text g.len else some a

/-- The body of the loop. -/
def searchLine (elementid : UInt32) (t : TleState) (g : GetLine) : Option TleState := do
  let tle1 ← storeMatch (match0 elementid) t.tle1 g
  let tle2 ← storeMatch (match1 elementid) t.tle2 g
  return { t with tle1 := tle1, tle2 := tle2 }

def searchLines (elementid : UInt32) : List GetLine → TleState → Option TleState
  | [], t => some t
  | g :: gs, t => (searchLine elementid t g).bind (searchLines elementid gs)

/-- `tleupdate`; `none` where C gives it no meaning. A file that does not open is closed
nevertheless. -/
def tleupdate (dl : TleDownload) (elementId : Int) (t : TleState) : Option TleState :=
  let elementid := UInt32.ofInt elementId
  if !dl.opened then none
  else if dl.err then some t
  else if elementid = 0 then some t
  else
    (searchLines elementid dl.lines t).bind fun t =>
      if t.tle1.val.takeWhile (· ≠ 0) = [] then some t
      else (setTLE t.sat t.tle1.val t.tle2.val).map fun r => { t with sat := r.2 }

/-- The selection of a satellite with this outcome of the download. -/
def tleEnv (rparamSetUint32 : RparamSet → Int) (dl : TleDownload) : DopplerEnv (Option TleState) where
  rparamSetUint32 := rparamSetUint32
  tleupdate := fun elementId tle => tle.bind (tleupdate dl elementId)

/-! ## Tracking the selected satellite -/

def TleDownload.texts (dl : TleDownload) : List CStr := dl.lines.map (·.text)

/-- There is a downloaded file. -/
def TleDownload.Complete (dl : TleDownload) : Prop := dl.opened = true ∧ dl.err = false

/-- The two lines are a valid element set of this catalogue number. -/
structure TlePair (elementId : Int) (line1 line2 : CStr) : Prop where
  length1 : tleColumns ≤ line1.length
  length2 : tleColumns ≤ line2.length
  valid : kepCheck line1 line2 = some true
  catalogue : (line1.drop 2).take 5 = fmtNat elementId.toNat

/-- The element set is that of two successive lines of the downloaded file. -/
def InstalledFrom (dl : TleDownload) (elementId : Int) (sat : SatLines) : Prop :=
  dl.Complete ∧ ∃ line1 line2, [line1, line2] <:+: dl.texts ∧ TlePair elementId line1 line2 ∧
    sat = { line1 := line1.take tleColumns, line2 := line2.take tleColumns }

/-- With this download, a successful selection installs an element set of the satellite that is then
selected, whatever was there before. -/
def TracksSelected (rparamSetUint32 : RparamSet → Int) (dl : TleDownload) (satNo sel : UInt32) :
    Prop :=
  ∀ d : Doppler (Option TleState), d.satNo = satNo → d.tle.isSome →
    (mcsSatSel (tleEnv rparamSetUint32 dl) d sel).1 = 1 →
    ∃ t, (mcsSatSel (tleEnv rparamSetUint32 dl) d sel).2.tle = some t ∧
      InstalledFrom dl
        (satParameters (mcsSatSel (tleEnv rparamSetUint32 dl) d sel).2.satNo).elementId t.sat

/-- The last line of the file that contains the pattern begins with the columns of `line`. -/
def LastMatch (dl : TleDownload) (pattern line : CStr) : Prop :=
  ∃ found, (dl.texts.filter (strstr · pattern)).getLast? = some found ∧
    found.take tleColumns = line.take tleColumns

/-- The search meets no line of either pattern whose buffer is too large for the arrays, and the
last lines of both patterns are a valid element set of the satellite. -/
def SearchFinds (dl : TleDownload) (elementId : Int) : Prop :=
  dl.Complete ∧
  (∀ g ∈ dl.lines, (strstr g.text (match0 (UInt32.ofInt elementId)) ∨
    strstr g.text (match1 (UInt32.ofInt elementId))) → g.len ≤ tleLineSize) ∧
  ∃ line1 line2, [line1, line2] <:+: dl.texts ∧ TlePair elementId line1 line2 ∧
    LastMatch dl (match0 (UInt32.ofInt elementId)) line1 ∧
    LastMatch dl (match1 (UInt32.ofInt elementId)) line2

end CspTerm.Radio
