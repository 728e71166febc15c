import CspTerm.Downlink.Proofs.DescriptionsProofs
import CspTerm.Header.GenerateCspHeader
import CspTerm.Lib.Numeral

/-!
# What the header generator prints

The text of the header ends with eight zeros, so the `char` that keeps its number is 0 whatever the
addresses and ports are.
-/

namespace CspTerm.Header

open CString CspTerm.Csp CspTerm.Downlink

/-! ## Fields -/

/-- A text of the digits 0 and 1. -/
def Binary (s : CStr) : Prop := ∀ c ∈ s, c = 48 ∨ c = 49

theorem Binary.append {s t : CStr} (hs : Binary s) (ht : Binary t) : Binary (s ++ t) := by
  intro c hc
  rcases List.mem_append.mp hc with hc | hc
  · exact hs c hc
  · exact ht c hc

theorem appendZeros_eq (count : Nat) (out : CStr) :
    appendZeros count out = out ++ List.replicate count 48 := by
  induction count generalizing out with
  | zero => simp [appendZeros]
  | succ count ih =>
    rw [appendZeros, ih, List.append_assoc, List.replicate_succ]
    rfl

/-- A field that is no longer than its width is padded to it: the loop comes to 0. -/
theorem appendField_eq {bits : Nat} {out buf : CStr} (hbuf : buf.length ≤ bits) :
    appendField bits out buf = some (out ++ List.replicate (bits - buf.length) 48 ++ buf) := by
  unfold appendField
  split_ifs with hfull
  · rw [hfull, Nat.sub_self, List.replicate_zero, List.append_nil]
  · rw [show (bits : Int) - buf.length = Int.ofNat (bits - buf.length) by
      rw [Int.ofNat_eq_natCast]
      omega]
    show some (appendZeros (bits - buf.length) out ++ buf) = _
    rw [appendZeros_eq]

theorem exists_appendField {bits : Nat} {out buf : CStr} (hbuf : buf.length ≤ bits)
    (hout : Binary out) (hbinary : Binary buf) :
    ∃ out', appendField bits out buf = some out' ∧ Binary out' ∧
      out'.length = out.length + bits := by
  refine ⟨_, appendField_eq hbuf, (hout.append ?_).append hbinary, ?_⟩
  · intro c hc
    exact Or.inl (List.eq_of_mem_replicate hc)
  · rw [List.length_append, List.length_append, List.length_replicate]
    omega

/-- The binary text of an address or a port. -/
theorem itoa_field {bits n : Nat} (hpos : 0 < bits) (hbits : bits ≤ 6) (hn : n < 2 ^ bits) :
    ∃ s, itoa (charAt n.toUInt8) 2 = some s ∧ s.length ≤ bits ∧ Binary s := by
  have hall : ∀ bits ≤ 6, 0 < bits → ∀ n < 2 ^ bits, (itoa (charAt n.toUInt8) 2).any (fun s =>
      decide (s.length ≤ bits) && s.all fun c => c == 48 || c == 49) = true := by decide +kernel
  obtain ⟨s, hs, hprop⟩ := (Option.any_eq_true _ _).mp (hall bits hbits hpos n hn)
  rw [Bool.and_eq_true, decide_eq_true_iff, List.all_eq_true] at hprop
  exact ⟨s, hs, hprop.1, fun c hc => by simpa using hprop.2 c hc⟩

/-! ## The number of the header -/

/-- `strtol` in base 2 of a text of digits. -/
theorem strtol_binary {s : CStr} (hne : s ≠ []) (h : Binary s) (hlen : s.length ≤ 62) :
    ∃ ds : List Nat, s.map digitVal = ds.map some ∧ (strtol s 2).value = Radix.value 2 ds := by
  obtain ⟨ds, hmap, hlt⟩ : ∃ ds : List Nat, s.map digitVal = ds.map some ∧ ∀ d ∈ ds, d < 2 := by
    clear hne hlen
    induction s with
    | nil => exact ⟨[], rfl, fun d hd => absurd hd List.not_mem_nil⟩
    | cons c s ih =>
      obtain ⟨ds, hmap, hlt⟩ := ih fun d hd => h d (List.mem_cons_of_mem c hd)
      rcases h c List.mem_cons_self with rfl | rfl
      · refine ⟨0 :: ds, by rw [List.map_cons, hmap]; rfl, ?_⟩
        exact List.forall_mem_cons.mpr ⟨by omega, hlt⟩
      · refine ⟨1 :: ds, by rw [List.map_cons, hmap]; rfl, ?_⟩
        exact List.forall_mem_cons.mpr ⟨by omega, hlt⟩
  obtain ⟨c, rest, rfl⟩ := List.exists_cons_of_ne_nil hne
  have hplain : isSpace c = false ∧ c ≠ 45 ∧ c ≠ 43 := by
    rcases h c List.mem_cons_self with rfl | rfl
    · decide
    · decide
  have hdrop : (c :: rest).dropWhile isSpace = c :: rest :=
    List.dropWhile_cons_of_neg (by simp [hplain.1])
  have htake := (takeDigits_eq_iff 2 (c :: rest) ds).mpr ⟨hmap, hlt⟩
  have hlength : ds.length = (c :: rest).length := by
    have hcongr := congrArg List.length hmap
    rwa [List.length_map, List.length_map, eq_comm] at hcongr
  have hds : ds ≠ [] := by
    rintro rfl
    cases hlength
  have hvalue : Radix.value 2 ds < 2 ^ 62 :=
    lt_of_lt_of_le (Radix.value_lt_pow hlt) (Nat.pow_le_pow_right (by omega) (by omega))
  refine ⟨ds, hmap, ?_⟩
  unfold strtol
  rw [hdrop, takeSign_of_ne hplain.2.1 hplain.2.2]
  dsimp only
  rw [if_neg (by decide : ¬ (2 : Nat) = 0)]
  dsimp only
  rw [htake]
  dsimp only
  have hlow : ¬ (Radix.value 2 ds : Int) < longMin := by
    unfold longMin
    omega
  have hhigh : ¬ longMax < (Radix.value 2 ds : Int) := by
    unfold longMax
    omega
  simp only [Bool.false_eq_true, if_false, hds, hlow, hhigh]

/-- **The `char` that keeps the number of the header is 0**: its text ends with eight zeros. -/
theorem charValue_header {s : CStr} (h : Binary s) (hlen : s.length ≤ 54) :
    charValue (toInt32 (strtol (s ++ cstr "00000000") 2).value) = 0 := by
  have hzeros : cstr "00000000" = List.replicate 8 48 := rfl
  have hbinary : Binary (s ++ cstr "00000000") :=
    h.append fun c hc => Or.inl (List.eq_of_mem_replicate (hzeros ▸ hc))
  obtain ⟨ds, hmap, hvalue⟩ := strtol_binary (by simp [hzeros]) hbinary
    (by rw [hzeros, List.length_append, List.length_replicate]; omega)
  rw [hzeros, List.map_append, List.map_replicate] at hmap
  obtain ⟨front, back, rfl, hfront, hback⟩ := List.map_eq_append_iff.mp hmap.symm
  have hback8 : back = List.replicate 8 0 := by
    have hmap0 : back.map some = (List.replicate 8 0).map some := by
      rw [hback, List.map_replicate]
      rfl
    exact List.map_injective_iff.mpr (Option.some_injective _) hmap0
  rw [hvalue, hback8, Radix.value_append_zeros]
  generalize Radix.value 2 front = n
  unfold charValue toInt32
  omega

/-! ## The length -/

/-- The digits of the length are two characters, also when its `char` is negative. -/
theorem lengthText_length (n : UInt8) : ∃ buf h, itoa (charAt n) 2 = some buf ∧
    appendField 8 [] buf = some h ∧
    (fmtUpperHex02 (toInt32 (strtol h 2).value)).length = 2 := by
  have hall : ∀ n < 256, (itoa (charAt (UInt8.ofNat n)) 2).any (fun buf =>
      (appendField 8 [] buf).any fun h =>
        (fmtUpperHex02 (toInt32 (strtol h 2).value)).length == 2) = true := by decide +kernel
  have hn := hall n.toNat n.toNat_lt
  rw [UInt8.ofNat_toNat] at hn
  obtain ⟨buf, hbuf, hprop⟩ := (Option.any_eq_true _ _).mp hn
  obtain ⟨h, hh, hlength⟩ := (Option.any_eq_true _ _).mp hprop
  exact ⟨buf, h, hbuf, hh, by simpa using hlength⟩

/-! ## The header -/

/-- The generator returns, and prints a single 0 and two characters for the length. -/
theorem generateCspHeader_eq (v : HeaderValues) (length : UInt16) : ∃ lengthText,
    lengthText.length = 2 ∧
    generateCspHeader v.dst.val.toUInt8 v.src.val.toUInt8 v.sport.val.toUInt8 v.dport.val.toUInt8
      length.toUInt8 = some (cstr "0" ++ lengthText) := by
  obtain ⟨dst, hdst, hdstLen, hdstBin⟩ :=
    @itoa_field 5 _ (by omega) (by omega) v.dst.isLt
  obtain ⟨src, hsrc, hsrcLen, hsrcBin⟩ :=
    @itoa_field 5 _ (by omega) (by omega) v.src.isLt
  obtain ⟨sport, hsport, hsportLen, hsportBin⟩ :=
    @itoa_field 6 _ (by omega) (by omega) v.sport.isLt
  obtain ⟨dport, hdport, hdportLen, hdportBin⟩ :=
    @itoa_field 6 _ (by omega) (by omega) v.dport.isLt
  obtain ⟨len, lenText, hlen, hlenField, hlenLength⟩ := lengthText_length length.toUInt8
  have hprio : Binary (cstr "00") := by
    intro c hc
    exact Or.inl (List.eq_of_mem_replicate (show c ∈ List.replicate 2 48 from hc))
  obtain ⟨t1, ht1, hb1, hl1⟩ := exists_appendField hsrcLen hprio hsrcBin
  obtain ⟨t2, ht2, hb2, hl2⟩ := exists_appendField hdstLen hb1 hdstBin
  obtain ⟨t3, ht3, hb3, hl3⟩ := exists_appendField hdportLen hb2 hdportBin
  obtain ⟨t4, ht4, hb4, hl4⟩ := exists_appendField hsportLen hb3 hsportBin
  have hprioLen : (cstr "00").length = 2 := rfl
  refine ⟨_, hlenLength, ?_⟩
  unfold generateCspHeader
  simp only [hdst, hsrc, hsport, hdport, hlen, ht1, ht2, ht3, ht4, hlenField, Option.bind_eq_bind,
    Option.bind_some]
  rw [charValue_header hb4 (by omega)]
  rfl

/-- **The generator terminates and agrees with the encoder for no header**: it prints three
characters where ten are wanted. -/
theorem generateCspHeader_never_spells (v : HeaderValues) (length : UInt16) :
    (∃ out, generateCspHeader v.dst.val.toUInt8 v.src.val.toUInt8 v.sport.val.toUInt8
      v.dport.val.toUInt8 length.toUInt8 = some out) ∧ ¬ SpellsHeader v length := by
  obtain ⟨lengthText, hlength, hout⟩ := generateCspHeader_eq v length
  refine ⟨⟨_, hout⟩, ?_⟩
  intro h
  unfold SpellsHeader at h
  rw [hout] at h
  have hlen := congrArg List.length (Option.some.inj h)
  rw [Hex.length_text, List.length_append, hlength] at hlen
  have hfive : ((cspHeader v length).take 4 ++ (cspHeader v length).drop 5).length = 5 := rfl
  rw [hfive] at hlen
  have hone : (cstr "0").length = 1 := rfl
  omega

/-- The header from node 5 to node 10, from port 50 to port 20, with 3 bytes. -/
theorem header_of_three_bytes :
    generateCspHeader 10 5 50 20 3 = some (cstr "003") ∧
      Hex.text ((cspHeader ground 3).take 4 ++ (cspHeader ground 3).drop 5) = cstr "0AA5320003" ∧
      ¬ ∀ (v : HeaderValues) (length : UInt16), SpellsHeader v length := by
  have hprinted : generateCspHeader 10 5 50 20 3 = some (cstr "003") := by decide +kernel
  have hspelled : Hex.text ((cspHeader ground 3).take 4 ++ (cspHeader ground 3).drop 5) =
      cstr "0AA5320003" := by decide +kernel
  refine ⟨hprinted, hspelled, ?_⟩
  intro h
  have hground : generateCspHeader 10 5 50 20 3 = _ := h ground 3
  rw [hprinted, hspelled] at hground
  exact absurd hground (by decide +kernel)

end CspTerm.Header
