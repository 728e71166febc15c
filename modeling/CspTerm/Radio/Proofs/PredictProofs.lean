import CspTerm.Radio.Predict
import Mathlib.Data.LawfulXor.Basic
import Mathlib.Data.List.GetD
import Mathlib.Data.List.TakeWhile

/-!
# What `KepCheck` checks

The terms of `KepCheck` are zero exactly on valid element sets, if its table has the values of the
characters. The table has zeros, so the checksum terms are zero on every line.
-/

namespace CspTerm.Radio

open CString

/-! ## The terms -/

theorem foldl_or_eq_zero_iff (ts : List Nat) (a : Nat) :
    ts.foldl (· ||| ·) a = 0 ↔ a = 0 ∧ ∀ t ∈ ts, t = 0 := by
  induction ts generalizing a with
  | nil => simp
  | cons t ts ih =>
    rw [List.foldl_cons, ih, Nat.or_eq_zero_iff, List.forall_mem_cons, and_assoc]

theorem byte_xor_eq_zero_iff {a b : UInt8} : (a ^^^ b).toNat = 0 ↔ a = b := by
  rw [← UInt8.xor_eq_zero_iff, ← UInt8.toNat_inj]
  rfl

theorem digitTerm_eq_zero_iff {c : UInt8} : (if isdigit c then 0 else 1) = 0 ↔ isdigit c = true := by
  cases isdigit c <;> decide

/-- **The terms of `KepCheck`** are zero on the right columns with the right checksums. -/
theorem kepTerms_eq_zero_iff (val : UInt8 → UInt8) (line1 line2 : List UInt8) :
    (kepTerms val line1 line2).foldl (· ||| ·) 0 = 0 ↔
      ((val (column line1 68)).toNat = kepSum val line1 % 10 ∧
        (val (column line2 68)).toNat = kepSum val line2 % 10) ∧
      FixedColumns line1 line2 ∧ SameCatalogue line1 line2 := by
  rw [foldl_or_eq_zero_iff]
  unfold kepTerms SameCatalogue
  simp only [List.forall_mem_append, List.forall_mem_cons, List.forall_mem_map,
    byte_xor_eq_zero_iff, digitTerm_eq_zero_iff, xor_eq_zero_iff, true_and]
  constructor
  · rintro ⟨⟨⟨⟨⟨hs1, hs2, -⟩, hf1⟩, hf2⟩, hcat⟩, hd1, hd2, hy1, hy2, he1, he2, -⟩
    exact ⟨⟨hs1, hs2⟩, ⟨hf1, hf2, ⟨hd1, hd2⟩, ⟨hy1, hy2⟩, ⟨he1, he2⟩⟩, hcat⟩
  · rintro ⟨⟨hs1, hs2⟩, ⟨hf1, hf2, ⟨hd1, hd2⟩, ⟨hy1, hy2⟩, ⟨he1, he2⟩⟩, hcat⟩
    exact ⟨⟨⟨⟨⟨hs1, hs2, fun _ h => (nomatch h)⟩, hf1⟩, hf2⟩, hcat⟩, hd1, hd2, hy1, hy2, he1, he2,
      fun _ h => (nomatch h)⟩

/-- With the values of the characters in the table, `KepCheck` is the whole validation. -/
theorem kepCheckWith_checksumValue_iff {line1 line2 : List UInt8} (h1 : ReadsInTable line1)
    (h2 : ReadsInTable line2) :
    kepCheckWith checksumValue line1 line2 = some true ↔ ValidTle line1 line2 := by
  unfold kepCheckWith
  rw [if_pos ⟨h1, h2⟩, Option.some.injEq, decide_eq_true_iff, kepTerms_eq_zero_iff]
  constructor
  · rintro ⟨⟨hs1, hs2⟩, hf, hcat⟩
    exact ⟨hf, hcat, ⟨hf.checksum.1, hs1⟩, ⟨hf.checksum.2, hs2⟩⟩
  · rintro ⟨hf, hcat, hs1, hs2⟩
    exact ⟨⟨hs1.2, hs2.2⟩, hf, hcat⟩

theorem kepSum_val (line : List UInt8) : kepSum val line = 0 := by
  unfold kepSum
  rw [List.sum_eq_zero_iff_forall_eq_nat]
  simp [val]

/-- The table of zeros leaves the columns and the catalogue number. -/
theorem kepCheck_iff {line1 line2 : List UInt8} :
    kepCheck line1 line2 = some true ↔
      (ReadsInTable line1 ∧ ReadsInTable line2) ∧ FixedColumns line1 line2 ∧
        SameCatalogue line1 line2 := by
  unfold kepCheck kepCheckWith
  by_cases h : ReadsInTable line1 ∧ ReadsInTable line2
  · rw [if_pos h, Option.some.injEq, decide_eq_true_iff, kepTerms_eq_zero_iff, kepSum_val,
      kepSum_val]
    exact ⟨fun hx => ⟨h, hx.2⟩, fun hx => ⟨⟨rfl, rfl⟩, hx.2⟩⟩
  · rw [if_neg h]
    exact ⟨fun hx => (nomatch hx), fun hx => absurd hx.1 h⟩

theorem kepCheck_eq_none_iff {line1 line2 : List UInt8} :
    kepCheck line1 line2 = none ↔ ¬ (ReadsInTable line1 ∧ ReadsInTable line2) := by
  unfold kepCheck kepCheckWith
  split_ifs with h
  · exact ⟨fun hx => (nomatch hx), fun hx => absurd h hx⟩
  · exact ⟨fun _ => h, fun _ => rfl⟩

/-! ## `setTLE` -/

theorem strncpyText_of_isTleLine {line : CStr} (h : IsTleLine line) :
    strncpyText tleColumns line = line.take tleColumns := by
  unfold strncpyText
  rw [List.takeWhile_eq_self_iff.mpr fun c hc => by simpa using h.text c hc]

theorem setTLE_of_valid {sat : SatLines} {line1 line2 : CStr} (h1 : IsTleLine line1)
    (h2 : IsTleLine line2) (h : kepCheck line1 line2 = some true) :
    setTLE sat line1 line2 =
      some (1, { line1 := line1.take tleColumns, line2 := line2.take tleColumns }) := by
  unfold setTLE
  rw [h, strncpyText_of_isTleLine h1, strncpyText_of_isTleLine h2]
  rfl

theorem setTLE_eq_unchanged_iff {sat : SatLines} {line1 line2 : List UInt8} :
    setTLE sat line1 line2 = some (0, sat) ↔ kepCheck line1 line2 = some false := by
  unfold setTLE
  rcases kepCheck line1 line2 with _ | _ | _ <;> simp

/-- What is refused: lines whose characters are in the table, but not their columns right. -/
theorem kepCheck_eq_false_iff {line1 line2 : List UInt8} :
    kepCheck line1 line2 = some false ↔
      (ReadsInTable line1 ∧ ReadsInTable line2) ∧
        ¬ (FixedColumns line1 line2 ∧ SameCatalogue line1 line2) := by
  rcases hk : kepCheck line1 line2 with _ | _ | _
  · have hout := kepCheck_eq_none_iff.mp hk
    exact ⟨fun h => (nomatch h), fun h => absurd h.1 hout⟩
  · have hin : ReadsInTable line1 ∧ ReadsInTable line2 := by
      by_contra h
      have hnone := kepCheck_eq_none_iff.mpr h
      rw [hk] at hnone
      cases hnone
    have hbad : ¬ (FixedColumns line1 line2 ∧ SameCatalogue line1 line2) := by
      intro h
      have htrue := kepCheck_iff.mpr ⟨hin, h⟩
      rw [hk] at htrue
      cases htrue
    exact ⟨fun _ => ⟨hin, hbad⟩, fun _ => rfl⟩
  · have hvalid := kepCheck_iff.mp hk
    exact ⟨fun h => (nomatch h), fun h => absurd hvalid.2 h.2⟩

/-! ## Checksums -/

theorem sum_map_set {α : Type} (f : α → Nat) {l : List α} {i : Nat} (h : i < l.length) (a : α) :
    ((l.set i a).map f).sum + f l[i] = (l.map f).sum + f a := by
  have hl : l = l.take i ++ l[i] :: l.drop (i + 1) := by
    rw [List.getElem_cons_drop, List.take_append_drop]
  have hset : (l.set i a).map f = (l.take i).map f ++ f a :: (l.drop (i + 1)).map f := by
    rw [List.set_eq_take_append_cons_drop, if_pos h, List.map_append, List.map_cons]
  have hmap : l.map f = (l.take i).map f ++ f l[i] :: (l.drop (i + 1)).map f := by
    conv_lhs => rw [hl]
    rw [List.map_append, List.map_cons]
  rw [hset, hmap, List.sum_append, List.sum_append, List.sum_cons, List.sum_cons]
  omega

theorem checksumValue_digit {c : UInt8} (h : isdigit c = true) :
    (checksumValue c).toNat = c.toNat - 48 ∧ 48 ≤ c.toNat ∧ c.toNat ≤ 57 := by
  unfold checksumValue
  rw [if_pos h]
  unfold isdigit at h
  rw [Bool.and_eq_true, decide_eq_true_iff, decide_eq_true_iff, UInt8.le_iff_toNat_le,
    UInt8.le_iff_toNat_le] at h
  have h48 : (48 : UInt8).toNat = 48 := rfl
  have h57 : (57 : UInt8).toNat = 57 := rfl
  refine ⟨?_, h.1, h.2⟩
  rw [UInt8.toNat_sub_of_le _ _ (UInt8.le_iff_toNat_le.mpr h.1)]
  rfl

/-- Different digits have different values. -/
theorem checksumValue_digit_inj {c d : UInt8} (hc : isdigit c = true) (hd : isdigit d = true)
    (h : (checksumValue c).toNat = (checksumValue d).toNat) : c = d := by
  obtain ⟨hcv, hc1, hc2⟩ := checksumValue_digit hc
  obtain ⟨hdv, hd1, hd2⟩ := checksumValue_digit hd
  apply UInt8.toNat_inj.mp
  omega

theorem lt_length_of_isdigit {line : List UInt8} {i : Nat} (h : isdigit (column line i) = true) :
    i < line.length := by
  by_contra hi
  have hz : column line i = 0 := by
    unfold column
    rw [List.getD_eq_default _ _ (Nat.le_of_not_lt hi)]
  rw [hz] at h
  exact absurd h (by decide)

theorem column_set_self {line : List UInt8} {i : Nat} (h : i < line.length) (d : UInt8) :
    column (line.set i d) i = d := by
  have hset : i < (line.set i d).length := by
    rw [List.length_set]
    exact h
  unfold column
  rw [List.getD_eq_getElem _ _ hset, List.getElem_set_self]

theorem column_set_of_ne {line : List UInt8} {i j : Nat} (h : i ≠ j) (d : UInt8) :
    column (line.set i d) j = column line j := by
  unfold column
  rw [List.getD_eq_getElem?_getD, List.getD_eq_getElem?_getD, List.getElem?_set_ne h]

/-- The character with the checksum is not summed. -/
theorem kepSum_set_of_le {line : List UInt8} {i : Nat} (h : 68 ≤ i) (val : UInt8 → UInt8)
    (d : UInt8) : kepSum val (line.set i d) = kepSum val line := by
  unfold kepSum
  rw [List.take_set_of_le h]

/-- Replacing a summed character changes the sum by the difference of the two values. -/
theorem kepSum_set_of_lt {line : List UInt8} {i : Nat} (h : i < 68) (hlen : i < line.length)
    (val : UInt8 → UInt8) (d : UInt8) :
    kepSum val (line.set i d) + (val (column line i)).toNat = kepSum val line + (val d).toNat := by
  have hi : i < (line.take 68).length := by
    rw [List.length_take]
    omega
  have hcol : (line.take 68)[i] = column line i := by
    unfold column
    rw [List.getElem_take, List.getD_eq_getElem _ _ hlen]
  have hsum := sum_map_set (fun c => (val c).toNat) hi d
  rw [hcol] at hsum
  unfold kepSum
  rw [List.take_set]
  exact hsum

/-- **A single corrupted digit makes the checksum wrong.** -/
theorem not_checksumRight_of_corrupted {line line' : List UInt8} (h : ChecksumRight line)
    (hc : DigitCorrupted line line') : ¬ ChecksumRight line' := by
  obtain ⟨i, hi, d, hold, hd, hne, rfl⟩ := hc
  obtain ⟨hdig, hsum⟩ := h
  rintro ⟨hdig', hsum'⟩
  have hlen := lt_length_of_isdigit hold
  by_cases h68 : i = 68
  · -- the sum is the one before, and the two digits differ
    subst h68
    rw [column_set_self hlen, kepSum_set_of_le (Nat.le_refl 68), ← hsum] at hsum'
    exact hne (checksumValue_digit_inj hd hdig hsum')
  · -- the digit is the one before, and the two sums differ by less than ten
    have hlt : i < 68 := by
      have : i < 69 := hi
      omega
    have hset := kepSum_set_of_lt hlt hlen checksumValue d
    rw [column_set_of_ne h68] at hsum'
    have hv : (checksumValue (column line i)).toNat ≠ (checksumValue d).toNat := fun he =>
      hne (checksumValue_digit_inj hold hd he).symm
    obtain ⟨hov, ho1, ho2⟩ := checksumValue_digit hold
    obtain ⟨hdv, hd1, hd2⟩ := checksumValue_digit hd
    omega

theorem not_validTle_of_corrupted {line1 line2 line1' line2' : List UInt8}
    (h : ValidTle line1 line2) (hc : TleCorrupted line1 line2 line1' line2') :
    ¬ ValidTle line1' line2' := by
  rcases hc with ⟨hc, rfl⟩ | ⟨rfl, hc⟩
  · exact fun h' => not_checksumRight_of_corrupted h.checksum1 hc h'.checksum1
  · exact fun h' => not_checksumRight_of_corrupted h.checksum2 hc h'.checksum2

/-- **When `setTLE` takes over what is valid and nothing else.** For every installed element set and
every two lines with all the columns: their characters are indices of the table, and if the columns
and the catalogue numbers are right, so are the checksums. What is refused is what has a wrong column
or different catalogue numbers; of a valid element set with one corrupted digit, which is not valid
any more, that is not everything. -/
theorem takesOverValid_iff (sat : SatLines) {line1 line2 : CStr} (h1 : IsTleLine line1)
    (h2 : IsTleLine line2) :
    (TakesOverValid sat line1 line2 ↔
      (ReadsInTable line1 ∧ ReadsInTable line2) ∧
        (FixedColumns line1 line2 ∧ SameCatalogue line1 line2 →
          ChecksumRight line1 ∧ ChecksumRight line2)) ∧
    (∀ line1' line2',
      (setTLE sat line1' line2' = some (0, sat) ↔
        (ReadsInTable line1' ∧ ReadsInTable line2') ∧
          ¬ (FixedColumns line1' line2' ∧ SameCatalogue line1' line2')) ∧
      (ValidTle line1 line2 → TleCorrupted line1 line2 line1' line2' →
        ¬ ValidTle line1' line2')) := by
  refine ⟨⟨?_, fun ⟨hin, hsum⟩ => ⟨?_, ?_⟩⟩, ?_⟩
  · intro h
    by_cases hv : ValidTle line1 line2
    · have hin : ReadsInTable line1 ∧ ReadsInTable line2 := by
        by_contra hn
        have hs := h.1 hv
        unfold setTLE at hs
        rw [kepCheck_eq_none_iff.mpr hn] at hs
        cases hs
      exact ⟨hin, fun _ => ⟨hv.checksum1, hv.checksum2⟩⟩
    · obtain ⟨hin, hcol⟩ := kepCheck_eq_false_iff.mp (setTLE_eq_unchanged_iff.mp (h.2 hv))
      exact ⟨hin, fun hc => absurd hc hcol⟩
  · intro hv
    exact setTLE_of_valid h1 h2 (kepCheck_iff.mpr ⟨hin, hv.columns, hv.catalogue⟩)
  · intro hv
    apply setTLE_eq_unchanged_iff.mpr
    apply kepCheck_eq_false_iff.mpr
    refine ⟨hin, fun hc => hv ?_⟩
    exact ⟨hc.1, hc.2, (hsum hc).1, (hsum hc).2⟩
  · intro line1' line2'
    refine ⟨?_, not_validTle_of_corrupted⟩
    rw [setTLE_eq_unchanged_iff, kepCheck_eq_false_iff]

theorem isTleLine_sampleLine1 : IsTleLine sampleLine1 :=
  ⟨by decide +kernel, by decide +kernel⟩

theorem isTleLine_sampleLine2 : IsTleLine sampleLine2 :=
  ⟨by decide +kernel, by decide +kernel⟩

theorem validTle_sample : ValidTle sampleLine1 sampleLine2 :=
  ⟨⟨by decide, by decide, by decide, by decide, by decide⟩, by unfold SameCatalogue; decide,
    ⟨by decide, by decide⟩, ⟨by decide, by decide⟩⟩

/-- A valid element set is taken over. -/
theorem takesOverValid_sample :
    TakesOverValid ⟨[], []⟩ sampleLine1 sampleLine2 :=
  (takesOverValid_iff ⟨[], []⟩ isTleLine_sampleLine1 isTleLine_sampleLine2).1.mpr
    ⟨by decide +kernel, fun _ => ⟨validTle_sample.checksum1, validTle_sample.checksum2⟩⟩

/-- The mean motion of 14.9 revolutions a day has become 15.9: the element set is taken over. -/
theorem corrupted_mean_motion_installed :
    TleCorrupted sampleLine1 sampleLine2 sampleLine1 (sampleLine2.set 53 53) ∧
      ¬ TakesOverValid ⟨[], []⟩ sampleLine1 (sampleLine2.set 53 53) := by
  have hc : DigitCorrupted sampleLine2 (sampleLine2.set 53 53) :=
    ⟨53, by decide, 53, by decide, by decide, by decide, rfl⟩
  refine ⟨Or.inr ⟨rfl, hc⟩, ?_⟩
  intro h
  have hset : setTLE ⟨[], []⟩ sampleLine1 (sampleLine2.set 53 53) = some (0, ⟨[], []⟩) :=
    h.2 (not_validTle_of_corrupted validTle_sample (Or.inr ⟨rfl, hc⟩))
  exact absurd hset (by decide +kernel)

end CspTerm.Radio
