import CspTerm.Radio.Proofs.TleUpdateProofs
import CspTerm.Radio.TleStore

/-!
# When the lines of the element set are stored safely

The search compares and stores what `strtok` leaves of a line: the line without its line ends, behind
those that it begins with.
-/

namespace CspTerm.Radio

open CString

/-! ## Substrings -/

theorem strstr_iff (s p : CStr) : strstr s p = true ↔ p <:+: s := by
  unfold strstr
  rw [List.any_eq_true, List.infix_iff_prefix_suffix]
  constructor
  · rintro ⟨t, ht, hp⟩
    exact ⟨t, List.isPrefixOf_iff_prefix.mp hp, (List.mem_tails t s).mp ht⟩
  · rintro ⟨t, hp, ht⟩
    exact ⟨t, (List.mem_tails t s).mpr ht, List.isPrefixOf_iff_prefix.mpr hp⟩

/-- A string is not found among bytes that it does not have. -/
theorem infix_append_iff_of_notMem {p s t : CStr} (hp : p ≠ []) (hs : ∀ c ∈ s, c ∉ p) :
    p <:+: s ++ t ↔ p <:+: t := by
  induction s with
  | nil => rfl
  | cons c s ih =>
    rw [List.cons_append, List.infix_cons_iff, ih fun d hd => hs d (List.mem_cons_of_mem c hd)]
    constructor
    · rintro (hstart | h)
      · obtain ⟨d, p', rfl⟩ := List.exists_cons_of_ne_nil hp
        obtain ⟨rfl, -⟩ := List.cons_prefix_cons.mp hstart
        exact absurd List.mem_cons_self (hs d List.mem_cons_self)
      · exact h
    · exact Or.inr

/-! ## What `strtok` leaves -/

/-- What is left of a line: the line ends that it begins with, and the line without its line ends;
or the whole line, if that is all it has. -/
theorem GetLine.text_cases (g : GetLine) :
    (g.stripped = [] ∧ ∀ c ∈ g.text, isLineEnd c = true) ∨
      g.stripped ≠ [] ∧ ∃ ends, (∀ c ∈ ends, isLineEnd c = true) ∧ g.text = ends ++ g.stripped ∧
        (ends = [] ↔ g.BeginsWithText) := by
  unfold GetLine.text strtokLine GetLine.stripped GetLine.BeginsWithText
  dsimp only
  generalize hs : g.bytes.takeWhile (· ≠ 0) = s
  have hall : ∀ c ∈ s.takeWhile isLineEnd, isLineEnd c = true := fun c hc =>
    List.mem_takeWhile_imp hc
  by_cases htoken : s.dropWhile isLineEnd = []
  · rw [if_pos htoken, htoken]
    refine Or.inl ⟨rfl, ?_⟩
    rwa [List.dropWhile_eq_nil_iff] at htoken
  · rw [if_neg htoken]
    obtain ⟨c, rest, hc⟩ := List.exists_cons_of_ne_nil htoken
    have hend : isLineEnd c = false := by
      have hhead := List.head_dropWhile_not isLineEnd htoken
      simp only [hc, List.head_cons] at hhead
      exact hhead
    have hne : (s.dropWhile isLineEnd).takeWhile (fun c => !isLineEnd c) ≠ [] := by
      rw [hc, List.takeWhile_cons_of_pos (by simp [hend])]
      exact List.cons_ne_nil _ _
    refine Or.inr ⟨hne, s.takeWhile isLineEnd, hall, rfl, ?_⟩
    -- the first byte of the line is that of the string, which is not empty
    have hfirst : g.bytes.head? = s.head? := by
      rcases hb : g.bytes with _ | ⟨b, bs⟩
      · rw [hb] at hs
        rw [← hs]
        rfl
      · rw [hb] at hs
        by_cases hzero : b = 0
        · rw [List.takeWhile_cons_of_neg (by simp [hzero])] at hs
          rw [← hs] at htoken
          exact absurd rfl htoken
        · rw [List.takeWhile_cons_of_pos (by simp [hzero])] at hs
          rw [← hs]
          rfl
    rw [hfirst]
    rcases s with _ | ⟨b, bs⟩
    · exact absurd rfl htoken
    · simp only [List.head?_cons, Option.some.injEq, forall_eq']
      cases hb : isLineEnd b with
      | false => simp [hb]
      | true => simp [hb]

/-- A string without line ends is in what is left of a line exactly when it is in the line. -/
theorem GetLine.strstr_text (g : GetLine) {pattern : CStr} (hne : pattern ≠ [])
    (hends : ∀ c ∈ pattern, isLineEnd c = false) :
    strstr g.text pattern = strstr g.stripped pattern := by
  have hnot : ∀ s : CStr, (∀ c ∈ s, isLineEnd c = true) → ∀ c ∈ s, c ∉ pattern := by
    intro s hs c hc hp
    have hfalse := hends c hp
    rw [hs c hc] at hfalse
    cases hfalse
  apply Bool.eq_iff_iff.mpr
  rw [strstr_iff, strstr_iff]
  rcases g.text_cases with ⟨hempty, hall⟩ | ⟨-, ends, hall, htext, -⟩
  · have htext := infix_append_iff_of_notMem (t := []) hne (hnot g.text hall)
    rw [List.append_nil] at htext
    rw [htext, hempty]
  · rw [htext, infix_append_iff_of_notMem hne (hnot ends hall)]

theorem isLineEnd_digitChar {d : Nat} (h : d < 10) : isLineEnd (digitChar d) = false := by
  have hall : ∀ d < 10, isLineEnd (digitChar d) = false := by decide
  exact hall d h

/-- The patterns have no line ends. -/
theorem isLineEnd_fmtNat_append {n : Nat} {s : CStr} (hs : ∀ c ∈ s, isLineEnd c = false) :
    ∀ c ∈ fmtNat n ++ s, isLineEnd c = false := by
  intro c hc
  rcases List.mem_append.mp hc with hc | hc
  · obtain ⟨d, hd, rfl⟩ := List.mem_map.mp hc
    exact isLineEnd_digitChar (Radix.lt_of_mem_digits (by decide) hd)
  · exact hs c hc

/-- What has to be known of a pattern. -/
structure PlainPattern (pattern : CStr) : Prop where
  ne_nil : pattern ≠ []
  noLineEnd : ∀ c ∈ pattern, isLineEnd c = false

theorem plainPattern_match0 (elementid : UInt32) : PlainPattern (match0 elementid) :=
  ⟨by simp [match0, cstr], isLineEnd_fmtNat_append (by decide +kernel)⟩

theorem plainPattern_match1 (elementid : UInt32) : PlainPattern (match1 elementid) :=
  ⟨by simp [match1, cstr], isLineEnd_fmtNat_append (by decide +kernel)⟩

/-! ## The last line with a pattern -/

/-- The search finds the last line with the pattern, in what `strtok` leaves of it. -/
theorem lastMatch_text {pattern : CStr} (hp : PlainPattern pattern) (lines : List GetLine) :
    ((lines.map (·.text)).filter (strstr · pattern)).getLast? =
      (lastMatch lines pattern).map (·.text) := by
  have hsame : ((strstr · pattern) ∘ GetLine.text) = fun g => strstr g.stripped pattern :=
    funext fun g => g.strstr_text hp.ne_nil hp.noLineEnd
  rw [List.filter_map, List.getLast?_map, hsame, lastMatch]

theorem lastMatch_contains {pattern : CStr} {lines : List GetLine} {g : GetLine}
    (h : lastMatch lines pattern = some g) : g.Contains pattern := by
  have hmem := List.mem_of_getLast? h
  exact (List.mem_filter.mp hmem).2

/-- An array that holds a string has it with a NUL behind it. -/
theorem Holds.string {before a : TleArray} {text : CStr} (h : Holds before (some text) a)
    (hzero : ∀ c ∈ text, c ≠ 0) :
    (0 : UInt8) ∈ a.val ∧ a.val.takeWhile (· ≠ 0) = text ∧ text.length ≤ tleLineSize - 1 := by
  obtain ⟨len, rest, hlen, hval⟩ := h
  obtain ⟨k, hk⟩ := Nat.exists_eq_succ_of_ne_zero (by omega : len - text.length ≠ 0)
  have hsize := congrArg List.length hval
  rw [a.property, List.length_append, length_strncpyBytes] at hsize
  rw [strncpyBytes_of_le (Nat.le_of_lt hlen), hk, List.replicate_succ, List.append_assoc,
    List.cons_append] at hval
  refine ⟨?_, ?_, by omega⟩
  · rw [hval]
    simp
  · rw [hval, List.takeWhile_append_of_pos (fun c hc => by simpa using hzero c hc),
      List.takeWhile_cons_of_neg (by simp), List.append_nil]

/-- What the search leaves in one array is what it is to hold when the last line with the pattern
begins with text. -/
theorem lastStored_iff {pattern : CStr} (hp : PlainPattern pattern) {lines : List GetLine}
    {before after : TleArray}
    (h : Holds before ((lines.map (·.text)).filter (strstr · pattern)).getLast? after) :
    LastStored lines pattern before after ↔
      ∀ g, lastMatch lines pattern = some g → g.BeginsWithText := by
  rw [lastMatch_text hp] at h
  unfold LastStored
  cases hlast : lastMatch lines pattern with
  | none =>
    rw [hlast] at h
    have hsame : after = before := h
    simp [hsame]
  | some g =>
    rw [hlast, Option.map_some] at h
    obtain ⟨hzero, hstring, hlength⟩ := Holds.string h g.text_ne_zero
    have hne : g.stripped ≠ [] := by
      intro hnil
      have hinfix := (strstr_iff _ _).mp (lastMatch_contains hlast)
      rw [hnil] at hinfix
      exact hp.ne_nil (List.eq_nil_of_infix_nil hinfix)
    rcases g.text_cases with ⟨hnil, -⟩ | ⟨-, ends, -, htext, hends⟩
    · exact absurd hnil hne
    · simp only [reduceCtorEq, false_implies, true_and, Option.some.injEq, forall_eq']
      rw [← hends, hstring, htext]
      rw [htext, List.length_append] at hlength
      constructor
      · rintro ⟨-, heq⟩
        have hlen := congrArg List.length heq
        rw [List.length_append, List.length_take] at hlen
        exact List.length_eq_zero_iff.mp (by omega)
      · rintro rfl
        rw [List.length_nil] at hlength
        rw [List.nil_append]
        exact ⟨hzero, (List.take_of_length_le (by omega)).symm⟩

/-! ## The search -/

/-- **The lines are stored safely exactly when they are storable**: for every file, every element id
and whatever the arrays held before. -/
theorem storesSafely_iff (elementid : UInt32) (lines : List GetLine) (t : TleState) :
    StoresSafely elementid lines t ↔ LinesStorable elementid lines := by
  have h0 := plainPattern_match0 elementid
  have h1 := plainPattern_match1 elementid
  have hbuffers : (∀ g ∈ lines, (strstr g.text (match0 elementid) ∨
        strstr g.text (match1 elementid)) → g.len ≤ tleLineSize) ↔
      ∀ g ∈ lines, g.Contains (match0 elementid) ∨ g.Contains (match1 elementid) →
        g.len ≤ tleLineSize := by
    unfold GetLine.Contains
    simp only [GetLine.strstr_text _ h0.ne_nil h0.noLineEnd,
      GetLine.strstr_text _ h1.ne_nil h1.noLineEnd]
  constructor
  · rintro ⟨t', ht', hfirst, hsecond⟩
    obtain ⟨-, hh1, hh2, hfit⟩ := searchLines_spec ht'
    exact ⟨hbuffers.mp hfit, (lastStored_iff h0 hh1).mp hfirst, (lastStored_iff h1 hh2).mp hsecond⟩
  · rintro ⟨hfit, hfirst, hsecond⟩
    obtain ⟨t', ht'⟩ := searchLines_exists t (hbuffers.mpr hfit)
    obtain ⟨-, hh1, hh2, -⟩ := searchLines_spec ht'
    exact ⟨t', ht', (lastStored_iff h0 hh1).mpr hfirst, (lastStored_iff h1 hh2).mpr hsecond⟩

/-- A long line at the front of the file, and then the first line of the element set in the buffer
that `getline` has enlarged for it: `strncpy` writes 240 bytes into 120. -/
theorem long_line_overflows_arrays :
    let long : GetLine := { bytes := List.replicate 130 32 ++ [10], len := 240, fits := by simp }
    let found : GetLine := { bytes := cstr "1 25544U 98067A\n", len := 240, fits := by decide }
    searchLines 25544 [long, found] TleState.init = none ∧
      ¬ ∀ (elementid : UInt32) (lines : List GetLine) (t : TleState),
        StoresSafely elementid lines t := by
  intro long found
  have hnone : searchLines 25544 [long, found] TleState.init = none := by decide +kernel
  refine ⟨hnone, ?_⟩
  intro h
  obtain ⟨t', ht', -⟩ := h 25544 [long, found] TleState.init
  rw [hnone] at ht'
  cases ht'

end CspTerm.Radio
