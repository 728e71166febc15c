import CspTerm.Csp.Proofs.RtableProofs

/-!
# Saving and loading the routing table

What `csp_rtable_save` writes is read back by `csp_rtable_load`: from nothing, the table is built up
again entry by entry.
-/

namespace CspTerm.Csp

open CString

variable {ι : Type}

/-! ## Numbers and words -/

theorem fmtNat_eq_cons (n : Nat) :
    ∃ d t, d < 10 ∧ (∀ e ∈ t, e < 10) ∧ fmtNat n = (d :: t).map digitChar ∧
      Radix.value 10 (d :: t) = n := by
  obtain ⟨d, t, hdigits⟩ := List.exists_cons_of_ne_nil (Radix.digits_ne_nil 10 n)
  have hlt : ∀ e ∈ d :: t, e < 10 := fun e he =>
    Radix.lt_of_mem_digits (by decide) (hdigits ▸ he)
  refine ⟨d, t, hlt d List.mem_cons_self, fun e he => hlt e (List.mem_cons_of_mem d he), ?_, ?_⟩
  · rw [fmtNat, hdigits]
  · rw [← hdigits, Radix.value_digits]

/-- White space in front of a number is skipped. -/
theorem scanU_fmtNat {n : Nat} (hn : n < 2 ^ 32) {r : CStr} (hr : StopsDigits r) (sp : CStr)
    (hsp : ∀ b ∈ sp, isSpace b = true) :
    scanU (sp ++ (fmtNat n ++ r)) = some (UInt32.ofNat n, r) := by
  obtain ⟨d, t, hd, ht, htext, hvalue⟩ := fmtNat_eq_cons n
  obtain ⟨hspace, hm, hp⟩ := digitChar_plain hd
  have hdrop : (sp ++ (fmtNat n ++ r)).dropWhile isSpace = fmtNat n ++ r := by
    rw [List.dropWhile_append_of_pos hsp, htext, List.map_cons, List.cons_append,
      List.dropWhile_cons_of_neg (by rw [hspace]; decide)]
  have hsign : takeSign (fmtNat n ++ r) = (false, fmtNat n ++ r) := by
    rw [htext]
    exact takeSign_of_ne hm hp
  have hdigits : takeDigits 10 (fmtNat n ++ r) = (d :: t, r) := by
    rw [htext]
    exact takeDigits_append (List.forall_mem_cons.mpr ⟨hd, ht⟩) hr
  rw [scanU]
  simp only [hdrop, hsign, hdigits, hvalue, List.cons_ne_nil, if_false, Bool.false_eq_true]
  rw [if_neg (by omega), UInt32.ofInt, Int.emod_eq_of_lt (by omega) (by omega), Int.toNat_natCast]

/-- A word that ends with the text or before white space. -/
theorem scanS_word {word r : CStr} (hword : ∀ b ∈ word, isSpace b = false) (hne : word ≠ [])
    (hr : r = [] ∨ ∃ t, r = 32 :: t) : scanS (32 :: (word ++ r)) = some (word, r) := by
  obtain ⟨b, word, rfl⟩ := List.exists_cons_of_ne_nil hne
  have hdrop : (32 :: (b :: word ++ r)).dropWhile isSpace = b :: word ++ r := by
    rw [List.dropWhile_cons_of_pos (by decide), List.cons_append,
      List.dropWhile_cons_of_neg (by rw [hword b List.mem_cons_self]; decide)]
  have hin : ∀ c ∈ b :: word, (!isSpace c) = true := fun c hc => by rw [hword c hc]; rfl
  have hend : r.takeWhile (fun c => !isSpace c) = [] ∧ r.dropWhile (fun c => !isSpace c) = r := by
    rcases hr with rfl | ⟨t, rfl⟩
    · exact ⟨rfl, rfl⟩
    · exact ⟨List.takeWhile_cons_of_neg (by decide), List.dropWhile_cons_of_neg (by decide)⟩
  rw [scanS, hdrop, List.takeWhile_append_of_pos hin, List.dropWhile_append_of_pos hin, hend.1,
    hend.2, List.append_nil]
  exact if_neg (List.cons_ne_nil b word)

/-! ## One entry -/

/-- The text of an entry without the separator behind it. -/
def routeText (name : ι → CStr) (i : CspRtable ι) : CStr :=
  fmtNat i.address.toNat ++ 47 :: (fmtNat i.netmask.toNat ++ 32 :: (name i.interface ++
    if i.mac ≠ cspNodeMac then 32 :: fmtNat i.mac.toNat else []))

theorem rtableText_eq (name : ι → CStr) (i : CspRtable ι) :
    rtableText name i = routeText name i ++ 44 :: [32] := by
  have hslash : cstr "/" = [47] := by decide
  have hblank : cstr " " = [32] := by decide
  have hcomma : cstr ", " = [44, 32] := by decide
  rw [rtableText, routeText, hslash, hblank, hcomma]
  split <;> simp

/-- A name that can be written and read: one word without a comma. -/
structure Readable (name : CStr) : Prop where
  word : ∀ b ∈ name, isSpace b = false ∧ b ≠ 44
  nonempty : name ≠ []
  short : name.length < 100

theorem notMem_fmtNat {b : UInt8} (hb : ∀ d < 10, digitChar d ≠ b) (n : Nat) : b ∉ fmtNat n := by
  intro h
  obtain ⟨d, hd, rfl⟩ := List.mem_map.mp h
  exact hb d (Radix.lt_of_mem_digits (by decide) hd) rfl

theorem comma_notMem_routeText {name : ι → CStr} {i : CspRtable ι}
    (h : Readable (name i.interface)) : (44 : UInt8) ∉ routeText name i := by
  have hname : (44 : UInt8) ∉ name i.interface := fun hmem => (h.word 44 hmem).2 rfl
  have hnumber := notMem_fmtNat (b := 44) (by decide)
  rw [routeText]
  split <;> simp [hname, hnumber]

/-- **An entry is read back**, with or without a blank in front of it. -/
theorem scanRoute_routeText {name : ι → CStr} {i : CspRtable ι} (h : Readable (name i.interface))
    {sp : CStr} (hsp : ∀ b ∈ sp, isSpace b = true) :
    scanRoute (sp ++ routeText name i) = some
      { address := UInt32.ofNat i.address.toNat, netmask := UInt32.ofNat i.netmask.toNat,
        name := name i.interface, mac := UInt32.ofNat i.mac.toNat } := by
  have haddress := i.address.toNat_lt
  have hnetmask := i.netmask.toNat_lt
  have hmac := i.mac.toNat_lt
  have hstops (b : UInt8) (r : CStr) (hb : digitVal b = none) : StopsDigits (b :: r) := by
    rw [StopsDigits, takeDigits, hb]
  generalize htail : (if i.mac ≠ cspNodeMac then 32 :: fmtNat i.mac.toNat else []) = tail
  have hwords : tail = [] ∨ ∃ t, tail = 32 :: t := by
    rw [← htail]
    split
    · exact Or.inr ⟨_, rfl⟩
    · exact Or.inl rfl
  -- without a number, the hop has the address of the node
  have hlast : ((scanU tail).map Prod.fst).getD 255 = UInt32.ofNat i.mac.toNat := by
    rw [← htail]
    split
    · have hread := scanU_fmtNat (n := i.mac.toNat) (r := []) (by omega) rfl [32]
        (List.forall_mem_singleton.mpr rfl)
      rw [List.append_nil] at hread
      exact congrArg (fun o => (Option.map Prod.fst o).getD 255) hread
    · next hnode =>
      rw [not_not.mp hnode]
      rfl
  rw [routeText, htail, scanRoute, scanU_fmtNat (by omega) (hstops 47 _ (by decide)) sp hsp]
  have hread := scanU_fmtNat (n := i.netmask.toNat) (by omega)
    (hstops 32 (name i.interface ++ tail) (by decide)) [] (List.forall_mem_nil _)
  rw [List.nil_append] at hread
  simp only [Option.bind_some, hread, Option.map_some,
    scanS_word (fun b hb => (h.word b hb).1) h.nonempty hwords, hlast]

/-! ## The text of a table -/

theorem commaTokens_cons {x : CStr} (hx : (44 : UInt8) ∉ x) (hne : x ≠ []) (l : CStr) :
    commaTokens (x ++ 44 :: l) = x :: commaTokens l := by
  rw [commaTokens, Lines.lines_line 44 hx, Lines.rest_line, List.cons_append,
    List.filter_cons_of_pos (by simpa using hne)]
  rfl

/-- The table after the entries of another one were set in it. -/
def setAll (malloc : Bool) (rtable entries : List (CspRtable ι)) : List (CspRtable ι) :=
  entries.foldl (fun rtable i =>
    (cspRtableSet rtable malloc i.address i.netmask (some i.interface) i.mac).1) rtable

/-- An interface that can be found by its name. -/
structure Named (name : ι → CStr) (interfaces : List ι) (ifc : ι) : Prop where
  readable : Readable (name ifc)
  found : cspIflistGetByName name interfaces (name ifc) = some ifc

/-- **The text of a table is read entry by entry**, in a dry run as in a real one. -/
theorem rtableParseLoop_text {name : ι → CStr} {interfaces : List ι} (malloc dryRun : Bool)
    {entries : List (CspRtable ι)} (hnamed : ∀ i ∈ entries, Named name interfaces i.interface)
    {sp : CStr} (hsp : sp = [] ∨ sp = [32]) (rtable : List (CspRtable ι)) (validEntries : Nat) :
    rtableParseLoop name interfaces malloc dryRun
        (commaTokens (sp ++ entries.flatMap (rtableText name))) rtable validEntries
      = some (if dryRun then rtable else setAll malloc rtable entries,
          ((validEntries + entries.length : Nat) : Int)) := by
  induction entries generalizing sp rtable validEntries with
  | nil =>
    rw [List.flatMap_nil, List.append_nil]
    rcases hsp with rfl | rfl <;> cases dryRun <;> rfl
  | cons i entries ih =>
    obtain ⟨hi, hrest⟩ := List.forall_mem_cons.mp hnamed
    have hblank : ∀ b ∈ sp, isSpace b = true := by
      rcases hsp with rfl | rfl
      · intro b hb
        cases hb
      · exact List.forall_mem_singleton.mpr rfl
    have hcomma : (44 : UInt8) ∉ sp ++ routeText name i := by
      rw [List.mem_append, not_or]
      refine ⟨?_, comma_notMem_routeText hi.readable⟩
      rcases hsp with rfl | rfl <;> decide
    have hlong : 1 < (sp ++ routeText name i).length := by
      have hname := List.length_pos_iff.mpr hi.readable.nonempty
      simp only [routeText, List.length_append, List.length_cons]
      omega
    have hlist : sp ++ (i :: entries).flatMap (rtableText name)
        = (sp ++ routeText name i) ++ 44 :: ([32] ++ entries.flatMap (rtableText name)) := by
      rw [List.flatMap_cons, rtableText_eq]
      simp
    rw [hlist, commaTokens_cons hcomma (List.ne_nil_of_length_pos (by omega)), rtableParseLoop,
      if_neg (by omega), scanRoute_routeText hi.readable hblank]
    dsimp only
    rw [if_neg (by have := hi.readable.short; omega), hi.found]
    dsimp only
    rw [ih hrest (Or.inr rfl), List.length_cons]
    have hbyte (b : UInt8) : (UInt32.ofNat b.toNat).toUInt8 = b := by
      rw [UInt32.toUInt8_ofNat', UInt8.ofNat_toNat]
    simp only [hbyte]
    cases dryRun
    · simp only [setAll, List.foldl_cons, Bool.false_eq_true, if_false]
      congr 2
      omega
    · simp only [if_true]
      congr 2
      omega

/-! ## Saving -/

theorem rtableSaveLoop_eq {name : ι → CStr} {maxlen : Nat} (entries : List (CspRtable ι))
    (buffer : CStr)
    (h : buffer.length + (entries.flatMap (rtableText name)).length < maxlen) :
    rtableSaveLoop name maxlen entries buffer buffer.length
      = some (buffer ++ entries.flatMap (rtableText name),
          (buffer ++ entries.flatMap (rtableText name)).length) := by
  induction entries generalizing buffer with
  | nil => simp [rtableSaveLoop]
  | cons i entries ih =>
    rw [List.flatMap_cons, List.length_append] at h
    have htake : (rtableText name i).take (maxlen - buffer.length - 1) = rtableText name i :=
      List.take_of_length_le (by omega)
    have hrest := ih (buffer ++ rtableText name i) (by rw [List.length_append]; omega)
    rw [rtableSaveLoop, if_neg (by omega)]
    dsimp only
    rw [htake, ← List.length_append, hrest, List.flatMap_cons, List.append_assoc]

/-! ## Loading what was saved -/

/-- An entry of a table was there before the calls or comes from one of them. -/
theorem mem_run {calls : List (RouteSet ι)} {rtable : List (CspRtable ι)} {e : CspRtable ι}
    (h : e ∈ calls.foldl RouteSet.apply rtable) :
    e ∈ rtable ∨ ∃ c ∈ calls, e = ⟨routeKey c.address c.netmask, c.mac, c.interface⟩ := by
  induction calls generalizing rtable with
  | nil => exact Or.inl h
  | cons c calls ih =>
    rcases ih h with he | ⟨c', hc', he⟩
    · rw [RouteSet.apply, cspRtableSet] at he
      split at he
      · exact (List.mem_or_eq_of_mem_set he).imp_right fun he => ⟨c, List.mem_cons_self, he⟩
      · split at he
        · rcases List.mem_append.mp he with he | he
          · exact Or.inl he
          · exact Or.inr ⟨c, List.mem_cons_self, List.mem_singleton.mp he⟩
        · exact Or.inl he
    · exact Or.inr ⟨c', List.mem_cons_of_mem c hc', he⟩

/-- **Entries with keys of their own are set one behind the other.** -/
theorem setAll_eq (rtable : List (CspRtable ι)) {entries : List (CspRtable ι)}
    (hdefault : ∀ e ∈ entries, e.address ≠ cspDefaultRoute)
    (hnodup : ((rtable ++ entries).map CspRtable.toRouteKey).Nodup) :
    setAll true rtable entries = rtable ++ entries := by
  induction entries generalizing rtable with
  | nil => rw [List.append_nil]; rfl
  | cons i entries ih =>
    obtain ⟨hi, hrest⟩ := List.forall_mem_cons.mp hdefault
    have hkey : routeKey i.address i.netmask = i.toRouteKey := if_neg hi
    have hfind : (rtable.findIdx? fun e => e.toRouteKey = i.toRouteKey) = none := by
      rw [List.findIdx?_eq_none_iff]
      intro e he
      rw [List.map_append, List.nodup_append] at hnodup
      exact decide_eq_false (hnodup.2.2 _ (List.mem_map_of_mem he) _
        (List.mem_map_of_mem List.mem_cons_self))
    have hset : (cspRtableSet rtable true i.address i.netmask (some i.interface) i.mac).1
        = rtable ++ [i] := by
      rw [cspRtableSet]
      simp only [hkey, cspRtableFind_exact, hfind, if_true]
    rw [List.append_cons] at hnodup ⊢
    rw [setAll, List.foldl_cons, hset]
    exact ih _ hrest hnodup

/-- A dry run leaves the table alone, whatever the text is. -/
theorem rtableParseLoop_dryRun {name : ι → CStr} {interfaces : List ι} {malloc : Bool}
    {tokens : List CStr} {rtable rtable' : List (CspRtable ι)} {validEntries : Nat} {result : Int}
    (h : rtableParseLoop name interfaces malloc true tokens rtable validEntries
      = some (rtable', result)) : rtable' = rtable := by
  induction tokens generalizing validEntries with
  | nil =>
    cases h
    rfl
  | cons str tokens ih =>
    rw [rtableParseLoop] at h
    split at h
    · cases h
      rfl
    · split at h
      · cases h
        rfl
      · split at h
        · cases h
        · split at h
          · cases h
            rfl
          · exact ih h

end CspTerm.Csp
