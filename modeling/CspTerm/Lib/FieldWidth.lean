import CspTerm.Lib.CString

/-!
# Numbers printed with a field width

The conversions of `sprintf` that pad a number, and reading such a number back from the front of a
longer text. What follows the number must not begin with a digit.
-/

namespace CString

/-- `%0<width>d`: the sign counts towards the width, zeros come after it. -/
def fmtIntZeros (width : Nat) (z : Int) : CStr :=
  if z < 0 then 45 :: (List.replicate (width - 1 - (fmtNat z.natAbs).length) 48 ++ fmtNat z.natAbs)
  else List.replicate (width - (fmtNat z.natAbs).length) 48 ++ fmtNat z.natAbs

/-- `%<width>d`. -/
def fmtIntSpaces (width : Nat) (z : Int) : CStr :=
  List.replicate (width - (fmtInt z).length) 32 ++ fmtInt z

theorem fmtInt03_eq (z : Int) : fmtInt03 z = fmtIntZeros 3 z := rfl

/-- The digits of a number below 10, 100 and 1000. -/
theorem fmtNat_of_lt_ten {n : Nat} (h : n < 10) : fmtNat n = [digitChar n] := by
  have hall : ∀ n < 10, fmtNat n = [digitChar n] := by decide
  exact hall n h

theorem fmtNat_snoc {n : Nat} (h : 10 ≤ n) :
    fmtNat n = fmtNat (n / 10) ++ [digitChar (n % 10)] := by
  have hn : n ≠ 0 := by omega
  have hq : n / 10 ≠ 0 := by omega
  have hdigits : Nat.digits 10 n = n % 10 :: Nat.digits 10 (n / 10) :=
    Nat.digits_def' (by decide) (by omega)
  simp only [fmtNat, Radix.digits, if_neg hn, if_neg hq, hdigits, List.reverse_cons,
    List.map_append, List.map_cons, List.map_nil]

theorem fmtNat_of_lt_hundred {n : Nat} (h10 : 10 ≤ n) (h : n < 100) :
    fmtNat n = [digitChar (n / 10), digitChar (n % 10)] := by
  rw [fmtNat_snoc h10, fmtNat_of_lt_ten (by omega)]
  rfl

theorem fmtNat_of_lt_thousand {n : Nat} (h100 : 100 ≤ n) (h : n < 1000) :
    fmtNat n = [digitChar (n / 100), digitChar (n / 10 % 10), digitChar (n % 10)] := by
  rw [fmtNat_snoc (by omega), fmtNat_of_lt_hundred (by omega) (by omega),
    show n / 10 / 10 = n / 100 by omega]
  rfl

/-- `%02d` of a number below 100. -/
theorem fmtIntZeros_two {n : Nat} (h : n < 100) :
    fmtIntZeros 2 n = [digitChar (n / 10), digitChar (n % 10)] := by
  unfold fmtIntZeros
  rw [if_neg (by omega), Int.natAbs_natCast]
  rcases Nat.lt_or_ge n 10 with h10 | h10
  · rw [fmtNat_of_lt_ten h10, Nat.div_eq_of_lt h10, Nat.mod_eq_of_lt h10]
    rfl
  · rw [fmtNat_of_lt_hundred h10 h]
    rfl

/-- `%03d` of a number below 1000. -/
theorem fmtIntZeros_three {n : Nat} (h : n < 1000) :
    fmtIntZeros 3 n = [digitChar (n / 100), digitChar (n / 10 % 10), digitChar (n % 10)] := by
  unfold fmtIntZeros
  rw [if_neg (by omega), Int.natAbs_natCast]
  rcases Nat.lt_or_ge n 10 with h10 | h10
  · rw [fmtNat_of_lt_ten h10, Nat.div_eq_of_lt (by omega), Nat.div_eq_of_lt h10,
      Nat.mod_eq_of_lt h10]
    rfl
  rcases Nat.lt_or_ge n 100 with h100 | h100
  · rw [fmtNat_of_lt_hundred h10 h100, Nat.div_eq_of_lt h100,
      Nat.mod_eq_of_lt (by omega : n / 10 < 10)]
    rfl
  · rw [fmtNat_of_lt_thousand h100 h]
    rfl

/-- A number of four digits or more fills a width of four. -/
theorem fmtIntSpaces_four {n : Nat} (h : 1000 ≤ n) : fmtIntSpaces 4 n = fmtNat n := by
  have hint : fmtInt n = fmtNat n := by
    unfold fmtInt
    rw [if_neg (by omega), Int.natAbs_natCast]
  have hlen : 4 ≤ (fmtNat n).length := by
    have hne : fmtNat (n / 10 / 10 / 10) ≠ [] := by
      simpa [fmtNat] using Radix.digits_ne_nil 10 _
    have hpos := List.length_pos_iff.mpr hne
    rw [fmtNat_snoc (by omega), fmtNat_snoc (by omega), fmtNat_snoc (by omega)]
    simp only [List.length_append, List.length_singleton]
    omega
  unfold fmtIntSpaces
  rw [hint, Nat.sub_eq_zero_of_le hlen]
  rfl

/-! ## Reading a padded number back -/

/-- The text does not begin with a digit. -/
def StopsDigits (r : CStr) : Prop := takeDigits 10 r = ([], r)

/-- The number at the front of a text, and what follows it. -/
def readInt (s : CStr) : Int × CStr :=
  let (neg, s) := takeSign s
  let (ds, r) := takeDigits 10 s
  (if neg then -(Radix.value 10 ds : Int) else Radix.value 10 ds, r)

theorem takeDigits_append {ds : List Nat} {r : CStr} (h : ∀ d ∈ ds, d < 10)
    (hr : StopsDigits r) : takeDigits 10 (ds.map digitChar ++ r) = (ds, r) := by
  induction ds with
  | nil => exact hr
  | cons d ds ih =>
    have hd : d < 10 := h d List.mem_cons_self
    have hrest := ih fun e he => h e (List.mem_cons_of_mem d he)
    simp only [List.map_cons, List.cons_append, takeDigits, digitVal_digitChar hd, if_pos hd,
      hrest]

theorem value_zeros (k : Nat) (ds : List Nat) :
    Radix.value 10 (List.replicate k 0 ++ ds) = Radix.value 10 ds := by
  induction k with
  | zero => rfl
  | succ k ih => exact ih

theorem readInt_digits {ds : List Nat} {r : CStr} (hne : ds ≠ []) (h : ∀ d ∈ ds, d < 10)
    (hr : StopsDigits r) : readInt (ds.map digitChar ++ r) = ((Radix.value 10 ds : Int), r) := by
  obtain ⟨d, ds, rfl⟩ := List.exists_cons_of_ne_nil hne
  obtain ⟨-, hm, hp⟩ := digitChar_plain (h d List.mem_cons_self)
  have hsign : takeSign ((d :: ds).map digitChar ++ r) = (false, (d :: ds).map digitChar ++ r) :=
    takeSign_of_ne hm hp
  unfold readInt
  simp only [hsign, takeDigits_append h hr, Bool.false_eq_true, if_false]

theorem readInt_neg_digits {ds : List Nat} {r : CStr} (h : ∀ d ∈ ds, d < 10)
    (hr : StopsDigits r) :
    readInt (45 :: (ds.map digitChar ++ r)) = (-(Radix.value 10 ds : Int), r) := by
  unfold readInt
  simp only [takeSign, takeDigits_append h hr, if_true]

/-- Zeros and the digits of a number, as one list of digits. -/
theorem zeros_append_fmtNat (k n : Nat) :
    List.replicate k 48 ++ fmtNat n =
      (List.replicate k 0 ++ Radix.digits 10 n).map digitChar := by
  rw [List.map_append, List.map_replicate]
  rfl

theorem zeros_append_digits_lt (k n : Nat) :
    ∀ d ∈ List.replicate k 0 ++ Radix.digits 10 n, d < 10 := by
  intro d hd
  rcases List.mem_append.mp hd with h | h
  · rw [List.eq_of_mem_replicate h]
    decide
  · exact Radix.lt_of_mem_digits (by decide) h

/-- **A padded number is read back**, whatever its sign. -/
theorem readInt_fmtIntZeros (width : Nat) (z : Int) {r : CStr} (hr : StopsDigits r) :
    readInt (fmtIntZeros width z ++ r) = (z, r) := by
  have hvalue : ∀ k, Radix.value 10 (List.replicate k 0 ++ Radix.digits 10 z.natAbs) = z.natAbs :=
    fun k => by rw [value_zeros, Radix.value_digits]
  unfold fmtIntZeros
  split_ifs with hz
  · rw [List.cons_append, zeros_append_fmtNat, readInt_neg_digits (zeros_append_digits_lt _ _) hr,
      hvalue]
    exact Prod.ext (by omega) rfl
  · have hne : ∀ k, List.replicate k 0 ++ Radix.digits 10 z.natAbs ≠ [] := fun k h =>
      Radix.digits_ne_nil 10 _ (List.append_eq_nil_iff.mp h).2
    rw [zeros_append_fmtNat, readInt_digits (hne _) (zeros_append_digits_lt _ _) hr, hvalue]
    exact Prod.ext (by omega) rfl

theorem readInt_fmtNat (n : Nat) {r : CStr} (hr : StopsDigits r) :
    readInt (fmtNat n ++ r) = ((n : Int), r) := by
  have hlt : ∀ d ∈ Radix.digits 10 n, d < 10 := fun d hd => Radix.lt_of_mem_digits (by decide) hd
  rw [fmtNat, readInt_digits (Radix.digits_ne_nil 10 n) hlt hr, Radix.value_digits]

theorem fmtNat_injective : Function.Injective fmtNat := by
  intro m n h
  have hm : readInt (fmtNat m ++ []) = ((m : Int), []) := readInt_fmtNat m rfl
  have hn : readInt (fmtNat n ++ []) = ((n : Int), []) := readInt_fmtNat n rfl
  rw [h, hn] at hm
  exact (Int.ofNat.inj (Prod.mk.inj hm).1).symm

/-- A printed natural number does not begin with a sign. -/
theorem fmtNat_ne_minus (n : Nat) (s : CStr) : fmtNat n ≠ 45 :: s := by
  intro h
  obtain ⟨d, ds, hds⟩ := List.exists_cons_of_ne_nil (Radix.digits_ne_nil 10 n)
  have hd : d < 10 := Radix.lt_of_mem_digits (by decide) (by rw [hds]; exact List.mem_cons_self)
  rw [fmtNat, hds, List.map_cons] at h
  exact (digitChar_plain hd).2.1 (List.cons.inj h).1

theorem fmtInt_injective : Function.Injective fmtInt := by
  intro y z h
  unfold fmtInt at h
  split_ifs at h with hy hz
  · have habs := fmtNat_injective (List.cons.inj h).2
    omega
  · exact absurd h.symm (fmtNat_ne_minus _ _)
  · exact absurd h (fmtNat_ne_minus _ _)
  · have habs := fmtNat_injective h
    omega

end CString
