import CspTerm.Radio.Proofs.DopplerProofs
import CspTerm.Radio.Proofs.PredictProofs
import CspTerm.Radio.TleUpdate

/-!
# When a selection installs the elements of the selected satellite

The search leaves in each array the last line that contains its pattern, and what was there before
if there is none. The arrays then hold a valid element set of the satellite only if these lines are
one, and nobody hears of it if they are not.
-/

namespace CspTerm.Radio

open CString

/-! ## Strings and arrays -/

theorem strtokLine_initial (line : CStr) : strtokLine line <+: line := by
  unfold strtokLine
  dsimp only
  split_ifs
  · exact List.prefix_refl line
  · conv_rhs => rw [← List.takeWhile_append_dropWhile (p := isLineEnd) (l := line)]
    exact (List.prefix_append_right_inj _).mpr (List.takeWhile_prefix _)

theorem GetLine.text_ne_zero (g : GetLine) : ∀ c ∈ g.text, c ≠ 0 := fun c hc => by
  have hmem : c ∈ g.bytes.takeWhile (· ≠ 0) := (strtokLine_initial _).subset hc
  simpa using List.mem_takeWhile_imp hmem

theorem GetLine.length_text_lt (g : GetLine) : g.text.length < g.len := by
  have h1 : g.text.length ≤ (g.bytes.takeWhile (· ≠ 0)).length := (strtokLine_initial _).length_le
  have h2 : (g.bytes.takeWhile (· ≠ 0)).length ≤ g.bytes.length :=
    (List.takeWhile_prefix _).length_le
  have h3 := g.fits
  omega

/-- The bytes of a string that fits, with zeros behind it. -/
theorem TleDownload.ne_zero_of_mem_texts {dl : TleDownload} {line : CStr} (h : line ∈ dl.texts) :
    ∀ c ∈ line.take tleColumns, c ≠ 0 := by
  intro c hc
  obtain ⟨g, -, rfl⟩ := List.mem_map.mp h
  exact g.text_ne_zero c (List.mem_of_mem_take hc)

theorem strncpyBytes_of_le {n : Nat} {s : CStr} (h : s.length ≤ n) :
    strncpyBytes n s = s ++ List.replicate (n - s.length) 0 := by
  unfold strncpyBytes
  rw [List.take_of_length_le h]

/-- The first bytes of memory, if none of them is a NUL, are the string that starts there. -/
theorem strncpyText_eq {n : Nat} {s w : List UInt8} (h : s.take n = w) (hw : ∀ c ∈ w, c ≠ 0) :
    strncpyText n s = w := by
  unfold strncpyText
  rw [List.take_takeWhile, h]
  exact List.takeWhile_eq_self_iff.mpr fun c hc => by simpa using hw c hc

theorem take_eq_of_strncpyText {n : Nat} {s w : List UInt8} (h : strncpyText n s = w)
    (hw : n ≤ w.length) : s.take n = w := by
  unfold strncpyText at h
  rw [List.take_takeWhile] at h
  have hp : w <+: s.take n := by
    rw [← h]
    exact List.takeWhile_prefix _
  refine (hp.eq_of_length_le ?_).symm
  rw [List.length_take]
  omega

/-! ## The search -/

/-- What an array holds after the search: the last line that was found, with the size of its buffer,
or what it held before. -/
def Holds (before : TleArray) (found : Option CStr) (a : TleArray) : Prop :=
  match found with
  | none => a = before
  | some line => ∃ len rest, line.length < len ∧ a.val = strncpyBytes len line ++ rest

theorem storeMatch_match {pattern : CStr} {a a' : TleArray} {g : GetLine}
    (hm : strstr g.text pattern = true) (h : storeMatch pattern a g = some a') :
    g.len ≤ tleLineSize ∧ a'.val = strncpyBytes g.len g.text ++ a.val.drop g.len := by
  unfold storeMatch at h
  rw [if_pos hm] at h
  unfold TleArray.strncpy at h
  split_ifs at h with hlen
  obtain rfl := Option.some.inj h
  exact ⟨hlen, rfl⟩

theorem storeMatch_no_match {pattern : CStr} {a : TleArray} {g : GetLine}
    (hm : ¬ strstr g.text pattern = true) : storeMatch pattern a g = some a := if_neg hm

theorem storeMatch_exists {pattern : CStr} (a : TleArray) {g : GetLine}
    (h : strstr g.text pattern = true → g.len ≤ tleLineSize) :
    ∃ a', storeMatch pattern a g = some a' := by
  by_cases hm : strstr g.text pattern = true
  · unfold storeMatch TleArray.strncpy
    rw [if_pos hm, dif_pos (h hm)]
    exact ⟨_, rfl⟩
  · exact ⟨a, storeMatch_no_match hm⟩

/-- One line and the rest of the search. -/
theorem holds_cons {pattern : CStr} {a a1 a' : TleArray} {g : GetLine} {gs : List GetLine}
    (hs : storeMatch pattern a g = some a1)
    (h : Holds a1 ((gs.map (·.text)).filter (strstr · pattern)).getLast? a') :
    Holds a (((g :: gs).map (·.text)).filter (strstr · pattern)).getLast? a' := by
  rw [List.map_cons, List.filter_cons]
  by_cases hm : strstr g.text pattern = true
  · rw [if_pos hm, List.getLast?_cons]
    cases hl : ((gs.map (·.text)).filter (strstr · pattern)).getLast? with
    | none =>
      rw [hl] at h
      obtain rfl : a' = a1 := h
      exact ⟨g.len, _, g.length_text_lt, (storeMatch_match hm hs).2⟩
    | some line =>
      rw [hl] at h
      exact h
  · rw [if_neg hm]
    rw [storeMatch_no_match hm] at hs
    obtain rfl := Option.some.inj hs
    exact h

theorem searchLine_eq_some {elementid : UInt32} {t t' : TleState} {g : GetLine}
    (h : searchLine elementid t g = some t') :
    ∃ a1 a2, storeMatch (match0 elementid) t.tle1 g = some a1 ∧
      storeMatch (match1 elementid) t.tle2 g = some a2 ∧
      t' = { t with tle1 := a1, tle2 := a2 } := by
  unfold searchLine at h
  obtain ⟨a1, h1, h⟩ := Option.bind_eq_some_iff.mp h
  obtain ⟨a2, h2, h⟩ := Option.bind_eq_some_iff.mp h
  exact ⟨a1, a2, h1, h2, (Option.some.inj h).symm⟩

/-- **What the search leaves.** The element set is untouched, each array holds the last line with
its pattern, and no line that was stored had too large a buffer. -/
theorem searchLines_spec {elementid : UInt32} {gs : List GetLine} {t t' : TleState}
    (h : searchLines elementid gs t = some t') :
    t'.sat = t.sat ∧
    Holds t.tle1 ((gs.map (·.text)).filter (strstr · (match0 elementid))).getLast? t'.tle1 ∧
    Holds t.tle2 ((gs.map (·.text)).filter (strstr · (match1 elementid))).getLast? t'.tle2 ∧
    ∀ g ∈ gs, (strstr g.text (match0 elementid) ∨ strstr g.text (match1 elementid)) →
      g.len ≤ tleLineSize := by
  induction gs generalizing t with
  | nil =>
    obtain rfl := Option.some.inj h
    exact ⟨rfl, rfl, rfl, fun _ hg => (nomatch hg)⟩
  | cons g gs ih =>
    obtain ⟨t1, ht1, h⟩ := Option.bind_eq_some_iff.mp h
    obtain ⟨a1, a2, hs1, hs2, rfl⟩ := searchLine_eq_some ht1
    obtain ⟨hsat, hh1, hh2, hfit⟩ := ih h
    refine ⟨hsat, holds_cons hs1 hh1, holds_cons hs2 hh2, List.forall_mem_cons.mpr ⟨?_, hfit⟩⟩
    rintro (hm | hm)
    · exact (storeMatch_match hm hs1).1
    · exact (storeMatch_match hm hs2).1

theorem searchLines_exists {elementid : UInt32} {gs : List GetLine} (t : TleState)
    (h : ∀ g ∈ gs, (strstr g.text (match0 elementid) ∨ strstr g.text (match1 elementid)) →
      g.len ≤ tleLineSize) : ∃ t', searchLines elementid gs t = some t' := by
  induction gs generalizing t with
  | nil => exact ⟨t, rfl⟩
  | cons g gs ih =>
    obtain ⟨hg, hgs⟩ := List.forall_mem_cons.mp h
    obtain ⟨a1, h1⟩ := storeMatch_exists t.tle1 fun hm => hg (Or.inl hm)
    obtain ⟨a2, h2⟩ := storeMatch_exists t.tle2 fun hm => hg (Or.inr hm)
    obtain ⟨t', ht'⟩ := ih { t with tle1 := a1, tle2 := a2 } hgs
    refine ⟨t', ?_⟩
    unfold searchLines searchLine
    simp only [h1, h2, Option.bind_eq_bind, Option.bind_some]
    exact ht'

/-- An array with a long enough line begins with the columns of that line. -/
theorem Holds.take_columns {before a : TleArray} {line : CStr} (h : Holds before (some line) a)
    (hlen : tleColumns ≤ line.length) : a.val.take tleColumns = line.take tleColumns := by
  obtain ⟨len, rest, hl, ha⟩ := h
  rw [ha, strncpyBytes_of_le (Nat.le_of_lt hl), List.append_assoc,
    List.take_append_of_le_length hlen]

/-- An array that begins with columns without a NUL has a long enough line, or had it before. -/
theorem Holds.of_take_columns {before a : TleArray} {found : Option CStr} {w : List UInt8}
    (h : Holds before found a) (ha : a.val.take tleColumns = w) (hw : ∀ c ∈ w, c ≠ 0)
    (hb : before.val.take tleColumns ≠ w) :
    ∃ line, found = some line ∧ line.take tleColumns = w := by
  cases found with
  | none =>
    obtain rfl : a = before := h
    exact absurd ha hb
  | some line =>
    refine ⟨line, rfl, ?_⟩
    by_cases hlen : tleColumns ≤ line.length
    · rw [← ha]
      exact (h.take_columns hlen).symm
    · obtain ⟨len, rest, hl, hval⟩ := h
      have hzero : (0 : UInt8) ∈ w := by
        rw [← ha, hval, strncpyBytes_of_le (Nat.le_of_lt hl)]
        apply List.mem_iff_getElem?.mpr
        refine ⟨line.length, ?_⟩
        rw [List.getElem?_take_of_lt (by omega), List.append_assoc, List.getElem?_append_right
          (Nat.le_refl _), Nat.sub_self, List.getElem?_append_left (by
            rw [List.length_replicate]
            omega), List.getElem?_replicate, if_pos (by omega)]
      exact absurd rfl (hw 0 hzero)

/-! ## `setTLE` on the arrays -/

theorem column_take {line : List UInt8} {i : Nat} (h : i < tleColumns) :
    column (line.take tleColumns) i = column line i := by
  unfold column
  rw [List.getD_eq_getElem?_getD, List.getD_eq_getElem?_getD, List.getElem?_take_of_lt h]

/-- `KepCheck` looks at the columns only. -/
theorem kepCheck_take (line1 line2 : List UInt8) :
    kepCheck (line1.take tleColumns) (line2.take tleColumns) = kepCheck line1 line2 := by
  have hsum : ∀ line : List UInt8, kepSum val (line.take tleColumns) = kepSum val line :=
    fun line => by rw [kepSum_val, kepSum_val]
  have hread : ∀ line : List UInt8, ReadsInTable (line.take tleColumns) = ReadsInTable line :=
    fun line => by
      unfold ReadsInTable
      rw [List.take_take, Nat.min_self]
  have hmap : ∀ (line : List UInt8) (cs : List (Nat × Char)), (∀ p ∈ cs, p.1 < tleColumns) →
      cs.map (fun p => (column (line.take tleColumns) p.1 ^^^ asciiByte p.2).toNat) =
        cs.map (fun p => (column line p.1 ^^^ asciiByte p.2).toNat) := fun line cs hcs =>
    List.map_congr_left fun p hp => by rw [column_take (hcs p hp)]
  have hcat : catalogueColumns.map (fun i =>
      (column (line1.take tleColumns) i ^^^ column (line2.take tleColumns) i).toNat) =
        catalogueColumns.map (fun i => (column line1 i ^^^ column line2 i).toNat) :=
    List.map_congr_left fun i hi => by
      have hlt : ∀ i ∈ catalogueColumns, i < tleColumns := by decide
      rw [column_take (hlt i hi), column_take (hlt i hi)]
  have hterms : kepTerms val (line1.take tleColumns) (line2.take tleColumns) =
      kepTerms val line1 line2 := by
    unfold kepTerms
    rw [hsum, hsum, hmap line1 line1Columns (by decide), hmap line2 line2Columns (by decide), hcat,
      column_take (by decide), column_take (by decide), column_take (by decide),
      column_take (by decide), column_take (by decide), column_take (by decide)]
  unfold kepCheck kepCheckWith
  simp only [hread, hterms]

theorem TlePair.head {elementId : Int} {line1 line2 : CStr} (h : TlePair elementId line1 line2) :
    column line1 0 = 49 :=
  (kepCheck_iff.mp h.valid).2.1.fixed1 (0, '1') (by decide)

/-- **`tleupdate` on a file in which the search finds the satellite.** -/
theorem tleupdate_finds {dl : TleDownload} {elementId : Int} (t : TleState)
    (h0 : UInt32.ofInt elementId ≠ 0) (h : SearchFinds dl elementId) :
    ∃ t', tleupdate dl elementId t = some t' ∧ InstalledFrom dl elementId t'.sat := by
  obtain ⟨hdl, hfit, line1, line2, hadj, hpair, ⟨found1, hf1, he1⟩, ⟨found2, hf2, he2⟩⟩ := h
  obtain ⟨t1, ht1⟩ := searchLines_exists t hfit
  obtain ⟨hsat, hh1, hh2, -⟩ := searchLines_spec ht1
  have hlong : ∀ {found line : CStr}, tleColumns ≤ line.length →
      found.take tleColumns = line.take tleColumns → tleColumns ≤ found.length := by
    intro found line hl he
    have hlen := congrArg List.length he
    rw [List.length_take, List.length_take] at hlen
    omega
  have hh1 : Holds t.tle1 (some found1) t1.tle1 := hf1 ▸ hh1
  have hh2 : Holds t.tle2 (some found2) t1.tle2 := hf2 ▸ hh2
  have ha1 := (hh1.take_columns (hlong hpair.length1 he1)).trans he1
  have ha2 := (hh2.take_columns (hlong hpair.length2 he2)).trans he2
  have hw1 := TleDownload.ne_zero_of_mem_texts (hadj.subset (by simp) : line1 ∈ dl.texts)
  have hw2 := TleDownload.ne_zero_of_mem_texts (hadj.subset (by simp) : line2 ∈ dl.texts)
  have htext1 := strncpyText_eq ha1 hw1
  have htext2 := strncpyText_eq ha2 hw2
  have hvalid : kepCheck t1.tle1.val t1.tle2.val = some true := by
    rw [← kepCheck_take, ha1, ha2, kepCheck_take]
    exact hpair.valid
  have hset : setTLE t1.sat t1.tle1.val t1.tle2.val =
      some (1, { line1 := line1.take tleColumns, line2 := line2.take tleColumns }) := by
    unfold setTLE
    rw [hvalid, htext1, htext2]
    rfl
  have hne : ¬ t1.tle1.val.takeWhile (· ≠ 0) = [] := by
    intro hnil
    unfold strncpyText at htext1
    rw [hnil, List.take_nil] at htext1
    have hlen := congrArg List.length htext1
    rw [List.length_take_of_le hpair.length1] at hlen
    cases hlen
  refine ⟨{ t1 with sat := { line1 := line1.take tleColumns, line2 := line2.take tleColumns } },
    ?_, hdl, line1, line2, hadj, hpair, rfl⟩
  unfold tleupdate
  simp only [hdl.1, hdl.2, h0, ht1, Option.bind_some, hne, hset, Option.map_some]
  rfl

/-- The element set after `setTLE`: the one before, or the two lines. -/
theorem setTLE_cases {sat sat' : SatLines} {line1 line2 : List UInt8} {result : Int}
    (h : setTLE sat line1 line2 = some (result, sat')) :
    sat' = sat ∨ sat' = { line1 := strncpyText tleColumns line1
                          line2 := strncpyText tleColumns line2 } := by
  unfold setTLE at h
  obtain ⟨valid, -, h⟩ := Option.map_eq_some_iff.mp h
  cases valid with
  | true => exact Or.inr (congrArg Prod.snd h).symm
  | false => exact Or.inl (congrArg Prod.snd h).symm

/-- What `tleupdate` does from the start, if an element set of the file is installed. -/
theorem tleupdate_installed {dl : TleDownload} {elementId : Int} {t' : TleState}
    (h0 : UInt32.ofInt elementId ≠ 0) (hdl : dl.Complete)
    (h : tleupdate dl elementId TleState.init = some t') (hne : t'.sat ≠ ⟨[], []⟩) :
    ∃ t1, searchLines (UInt32.ofInt elementId) dl.lines TleState.init = some t1 ∧
      t'.sat = { line1 := strncpyText tleColumns t1.tle1.val
                 line2 := strncpyText tleColumns t1.tle2.val } := by
  unfold tleupdate at h
  simp only [hdl.1, hdl.2, Bool.not_true, Bool.false_eq_true, if_false, h0] at h
  obtain ⟨t1, ht1, h⟩ := Option.bind_eq_some_iff.mp h
  obtain ⟨hsat, -, -, -⟩ := searchLines_spec ht1
  refine ⟨t1, ht1, ?_⟩
  split_ifs at h
  · obtain rfl := Option.some.inj h
    exact absurd hsat hne
  · obtain ⟨⟨result, sat⟩, hset, rfl⟩ := Option.map_eq_some_iff.mp h
    rcases setTLE_cases hset with hs | hs
    · exact absurd (hs.trans hsat) hne
    · exact hs

/-- If `tleupdate` installs an element set of the satellite from the start, the search finds it. -/
theorem searchFinds_of_installed {dl : TleDownload} {elementId : Int} {t' : TleState}
    (h0 : UInt32.ofInt elementId ≠ 0) (h : tleupdate dl elementId TleState.init = some t')
    (hi : InstalledFrom dl elementId t'.sat) : SearchFinds dl elementId := by
  obtain ⟨hdl, line1, line2, hadj, hpair, hsat⟩ := hi
  have hlen1 : (line1.take tleColumns).length = tleColumns := List.length_take_of_le hpair.length1
  have hlen2 : (line2.take tleColumns).length = tleColumns := List.length_take_of_le hpair.length2
  have hw1 := TleDownload.ne_zero_of_mem_texts (hadj.subset (by simp) : line1 ∈ dl.texts)
  have hw2 := TleDownload.ne_zero_of_mem_texts (hadj.subset (by simp) : line2 ∈ dl.texts)
  have hne : t'.sat ≠ ⟨[], []⟩ := by
    rw [hsat]
    intro hnil
    have h1 : line1.take tleColumns = [] := congrArg SatLines.line1 hnil
    rw [h1] at hlen1
    cases hlen1
  obtain ⟨t1, ht1, hsat1⟩ := tleupdate_installed h0 hdl h hne
  obtain ⟨-, hh1, hh2, hfit⟩ := searchLines_spec ht1
  have hs := hsat1.symm.trans hsat
  have ha1 := take_eq_of_strncpyText (congrArg SatLines.line1 hs) (Nat.le_of_eq hlen1.symm)
  have ha2 := take_eq_of_strncpyText (congrArg SatLines.line2 hs) (Nat.le_of_eq hlen2.symm)
  -- the arrays begin with zeros, which are in no line
  have hzero : ∀ {w : List UInt8}, w.length = tleColumns → (∀ c ∈ w, c ≠ 0) →
      TleArray.zero.val.take tleColumns ≠ w := by
    rintro w hlen hw rfl
    exact hw 0 (by decide) rfl
  obtain ⟨found1, hf1, he1⟩ := hh1.of_take_columns ha1 hw1 (hzero hlen1 hw1)
  obtain ⟨found2, hf2, he2⟩ := hh2.of_take_columns ha2 hw2 (hzero hlen2 hw2)
  exact ⟨hdl, hfit, line1, line2, hadj, hpair, ⟨found1, hf1, he1⟩, ⟨found2, hf2, he2⟩⟩

/-! ## Selection -/

theorem elementId_ne_zero (satNo : UInt32) :
    UInt32.ofInt (satParameters satNo).elementId ≠ 0 := by
  unfold satParameters
  split_ifs <;> decide

/-- **When a successful selection tracks the satellite.** For every download, every radio and every
prior and requested selection: the radio refuses a frequency, so that the selection is not
successful, or the file is there, no line that the search stores has too large a buffer, and the
last line with each of the two patterns is that of a valid element set of the satellite. -/
theorem tracksSelected_iff (rparamSetUint32 : RparamSet → Int) (dl : TleDownload)
    (satNo sel : UInt32) :
    TracksSelected rparamSetUint32 dl satNo sel ↔
      ¬ AcceptsSat (tleEnv rparamSetUint32 dl) (satSelected satNo sel) ∨
      SearchFinds dl (satParameters (satSelected satNo sel)).elementId := by
  have h0 := elementId_ne_zero (satSelected satNo sel)
  constructor
  · intro h
    by_cases hacc : AcceptsSat (tleEnv rparamSetUint32 dl) (satSelected satNo sel)
    · refine Or.inr ?_
      -- what was there before may be nothing
      obtain ⟨t, ht, hi⟩ := h { Doppler.init (some TleState.init) with satNo := satNo } rfl rfl
        (mcsSatSel_eq_one_iff.mpr hacc)
      rw [(mcsSatSel_select _ _ _).2] at ht
      rw [(mcsSatSel_select _ _ _).1] at hi
      exact searchFinds_of_installed h0 ht hi
    · exact Or.inl hacc
  · rintro (hacc | hfind) d rfl hsome hone
    · exact absurd (mcsSatSel_eq_one_iff.mp hone) hacc
    · obtain ⟨t0, ht0⟩ := Option.isSome_iff_exists.mp hsome
      obtain ⟨t', ht', hi⟩ := tleupdate_finds t0 h0 hfind
      rw [(mcsSatSel_select _ _ _).1, (mcsSatSel_select _ _ _).2, ht0]
      exact ⟨t', ht', hi⟩

/-- The download fails: the selection of satellite 1 is reported as successful, and nothing is
installed. -/
theorem selection_without_elements :
    ¬ TracksSelected (fun _ => 1) { opened := true, err := true, lines := [] } 1 1 := by
  intro h
  obtain ⟨_, -, hinstalled⟩ := h { Doppler.init (some TleState.init) with satNo := 1 } rfl rfl
    (mcsSatSel_eq_one_iff.mpr (by decide))
  exact absurd hinstalled.1.2 (by decide)

end CspTerm.Radio
