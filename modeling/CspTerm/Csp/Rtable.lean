import CspTerm.Csp.Sendto
import CspTerm.Lib.Cidr
import CspTerm.Lib.FieldWidth
import CspTerm.Lib.Lines

/-!
# The routing table (`csp_rtable_cidr.c`, `csp_iflist.c`)

The table is a list of networks, each with an interface and the address of the next hop. It can be
written as a text and read from one.
-/

namespace CspTerm.Csp

open CString

variable {ι : Type}

abbrev cspIdHostSize : UInt8 := 5
def cspDefaultRoute : UInt8 := 32
def cspNodeMac : UInt8 := 255
def cspErrNomem : Int := -1

/-- What an entry is found by. -/
structure RouteKey where
  address : UInt8
  netmask : UInt8
deriving DecidableEq, Repr

/-- `csp_rtable_s`, for interfaces of type `ι`. -/
structure CspRtable (ι : Type) extends RouteKey where
  mac : UInt8
  interface : ι
deriving DecidableEq

/-! ## Looking up -/

/-- `hostbits`. A netmask of more than five bits is a shift by a negative number. -/
def hostbits (netmask : UInt8) : UInt8 := UInt8.ofNat (2 ^ (cspIdHostSize.toNat - netmask.toNat)) - 1

/-- The two addresses belong to one network of this mask. -/
def sameNetwork (netmask a b : UInt8) : Bool := a &&& ~~~hostbits netmask == b &&& ~~~hostbits netmask

/-- The loop of `csp_rtable_find`, from entry `k` on. -/
def rtableFindFrom (addr netmask : UInt8) (exact : Bool) :
    List (CspRtable ι) → Nat → Option Nat → UInt8 → Option Nat
  | [], _, best, _ => best
  | i :: rest, k, best, bestMask =>
    if i.address = addr ∧ i.netmask = netmask then some k
    else if exact = false ∧ sameNetwork i.netmask i.address addr = true ∧ i.netmask ≥ bestMask then
      rtableFindFrom addr netmask exact rest (k + 1) (some k) i.netmask
    else rtableFindFrom addr netmask exact rest (k + 1) best bestMask

/-- `csp_rtable_find`: the position of the entry. -/
def cspRtableFind (rtable : List (CspRtable ι)) (addr netmask : UInt8) (exact : Bool) : Option Nat :=
  rtableFindFrom addr netmask exact rtable 0 none 0

/-- The entry for a node. -/
def rtableEntry (rtable : List (CspRtable ι)) (id : UInt8) : Option (CspRtable ι) :=
  (cspRtableFind rtable id cspIdHostSize false).bind fun k => rtable[k]?

def cspRtableFindIface (rtable : List (CspRtable ι)) (id : UInt8) : Option ι :=
  (rtableEntry rtable id).map fun entry => entry.interface

def cspRtableFindMac (rtable : List (CspRtable ι)) (id : UInt8) : UInt8 :=
  ((rtableEntry rtable id).map fun entry => entry.mac).getD 255

/-! ## Changing -/

/-- The default route is set in the old way. -/
def routeKey (address netmask : UInt8) : RouteKey :=
  if address = cspDefaultRoute then ⟨0, 0⟩ else ⟨address, netmask⟩

/-- `csp_rtable_set`. `malloc` says whether there is memory for one more entry. -/
def cspRtableSet (rtable : List (CspRtable ι)) (malloc : Bool) (address netmask : UInt8)
    (ifc : Option ι) (mac : UInt8) : List (CspRtable ι) × Int :=
  match ifc with
  | none => (rtable, cspErrInval)
  | some ifc =>
    let key := routeKey address netmask
    let entry : CspRtable ι := { toRouteKey := key, mac := mac, interface := ifc }
    match cspRtableFind rtable key.address key.netmask true with
    | some k => (rtable.set k entry, cspErrNone)
    | none => if malloc then (rtable ++ [entry], cspErrNone) else (rtable, cspErrNomem)

/-- `csp_rtable_clear`: only the way back to the node itself is left. -/
def cspRtableClear (malloc : Bool) (address : UInt8) (cspIfLo : ι) : List (CspRtable ι) :=
  (cspRtableSet [] malloc address cspIdHostSize (some cspIfLo) cspNodeMac).1

/-! ## Writing -/

/-- `i->address/i->netmask name mac, `, the last number for hops with an address of their own. -/
def rtableText (name : ι → CStr) (i : CspRtable ι) : CStr :=
  if i.mac ≠ cspNodeMac then
    fmtNat i.address.toNat ++ cstr "/" ++ fmtNat i.netmask.toNat ++ cstr " " ++ name i.interface ++
      cstr " " ++ fmtNat i.mac.toNat ++ cstr ", "
  else
    fmtNat i.address.toNat ++ cstr "/" ++ fmtNat i.netmask.toNat ++ cstr " " ++ name i.interface ++
      cstr ", "

/-- The loop of `csp_rtable_save`: the text in the buffer, and `len`. -/
def rtableSaveLoop (name : ι → CStr) (maxlen : Nat) :
    List (CspRtable ι) → CStr → Nat → Option (CStr × Nat)
  | [], buffer, len => some (buffer, len)
  | i :: rest, buffer, len =>
    -- `maxlen - len` is negative, and no bound for `snprintf`
    if maxlen < len then none
    else
      let text := rtableText name i
      rtableSaveLoop name maxlen rest (buffer ++ text.take (maxlen - len - 1)) (len + text.length)

/-- `csp_rtable_save`: the text and the result, or `none` if it is written past the buffer. -/
def cspRtableSave (name : ι → CStr) (rtable : List (CspRtable ι)) (maxlen : Nat) :
    Option (CStr × Nat) :=
  rtableSaveLoop name maxlen rtable [] 0

/-! ## Reading -/

/-- `csp_iflist_get_by_name`: the first interface whose name agrees in ten bytes. -/
def cspIflistGetByName (name : ι → CStr) (interfaces : List ι) (text : CStr) : Option ι :=
  interfaces.find? fun ifc => (name ifc).take 10 == text.take 10

/-- `%u`: the number, taken to 32 bits, and what follows. -/
def scanU (s : CStr) : Option (UInt32 × CStr) :=
  let (neg, digits) := takeSign (s.dropWhile isSpace)
  let (ds, rest) := takeDigits 10 digits
  if ds = [] then none
  else
    let value := Radix.value 10 ds
    -- `strtoul` with its 64 bits
    some (if 2 ^ 64 ≤ value then 0xFFFFFFFF else UInt32.ofInt (if neg then -value else value), rest)

/-- `%s`. -/
def scanS (s : CStr) : Option (CStr × CStr) :=
  let s := s.dropWhile isSpace
  let word := s.takeWhile fun b => !isSpace b
  if word = [] then none else some (word, s.dropWhile fun b => !isSpace b)

/-- The variables that `sscanf` fills in for an entry. -/
structure ScannedRoute where
  address : UInt32
  netmask : UInt32
  name : CStr
  mac : UInt32

/-- `sscanf` with `"%u/%u %s %u"`, then without the last number. -/
def scanRoute (s : CStr) : Option ScannedRoute :=
  (scanU s).bind fun (address, s) =>
    match s with
    | 47 :: s =>
      (scanU s).bind fun (netmask, s) =>
        (scanS s).map fun (name, s) =>
          { address := address, netmask := netmask, name := name,
            mac := ((scanU s).map Prod.fst).getD 255 }
    | _ => none

/-- The loop of `csp_rtable_parse` over the tokens. A name that does not fit into 100 bytes is written
past its buffer: `none`. -/
def rtableParseLoop (name : ι → CStr) (interfaces : List ι) (malloc : Bool) (dryRun : Bool) :
    List CStr → List (CspRtable ι) → Nat → Option (List (CspRtable ι) × Int)
  | [], rtable, validEntries => some (rtable, validEntries)
  | str :: tokens, rtable, validEntries =>
    if str.length ≤ 1 then some (rtable, validEntries)
    else
      match scanRoute str with
      | none => some (rtable, -1)
      | some r =>
        if 100 ≤ r.name.length then none
        else
          match cspIflistGetByName name interfaces r.name with
          | none => some (rtable, -1)
          | some ifc =>
            let rtable :=
              if dryRun then rtable
              else (cspRtableSet rtable malloc r.address.toUInt8 r.netmask.toUInt8 (some ifc)
                r.mac.toUInt8).1
            rtableParseLoop name interfaces malloc dryRun tokens rtable (validEntries + 1)

/-- The tokens of `strtok` with `","`. -/
def commaTokens (buffer : CStr) : List CStr :=
  (Lines.lines 44 buffer ++ [Lines.rest 44 buffer]).filter (· ≠ [])

def cspRtableParse (name : ι → CStr) (interfaces : List ι) (malloc : Bool)
    (rtable : List (CspRtable ι)) (buffer : CStr) (dryRun : Bool) :
    Option (List (CspRtable ι) × Int) :=
  rtableParseLoop name interfaces malloc dryRun (commaTokens buffer) rtable 0

def cspRtableLoad (name : ι → CStr) (interfaces : List ι) (malloc : Bool)
    (rtable : List (CspRtable ι)) (buffer : CStr) : Option (List (CspRtable ι)) :=
  (cspRtableParse name interfaces malloc rtable buffer false).map Prod.fst

/-- `csp_rtable_check`: the table, and the number of entries that `csp_rtable_load` would set, or
-1. -/
def cspRtableCheck (name : ι → CStr) (interfaces : List ι) (rtable : List (CspRtable ι))
    (buffer : CStr) : Option (List (CspRtable ι) × Int) :=
  cspRtableParse name interfaces true rtable buffer true

/-! ## What the table is for -/

/-- A call of `csp_rtable_set` with an interface. -/
structure RouteSet (ι : Type) where
  malloc : Bool
  address : UInt8
  netmask : UInt8
  interface : ι
  mac : UInt8

def RouteSet.apply (rtable : List (CspRtable ι)) (c : RouteSet ι) : List (CspRtable ι) :=
  (cspRtableSet rtable c.malloc c.address c.netmask (some c.interface) c.mac).1

/-- The routes, as a function from networks to interfaces and next hops. -/
abbrev Routes (ι : Type) : Type := RouteKey → Option (ι × UInt8)

/-- The last call for a network counts; without memory, a new network gets no route. -/
def Routes.set (routes : Routes ι) (c : RouteSet ι) : Routes ι :=
  let key := routeKey c.address c.netmask
  if c.malloc ∨ (routes key).isSome then
    fun k => if k = key then some (c.interface, c.mac) else routes k
  else routes

/-- A network has at most five bits, and its host bits are zero. -/
def RouteKey.Canonical (k : RouteKey) : Prop :=
  k.netmask ≤ cspIdHostSize ∧ k.address &&& hostbits k.netmask = 0

instance (k : RouteKey) : Decidable k.Canonical := inferInstanceAs (Decidable (_ ∧ _))

def RouteKey.Covers (k : RouteKey) (addr : UInt8) : Prop := sameNetwork k.netmask k.address addr = true

end CspTerm.Csp
