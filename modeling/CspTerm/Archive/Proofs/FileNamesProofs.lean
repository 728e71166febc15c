import CspTerm.Archive.FileNames
import CspTerm.Archive.Proofs.TimestampProofs

/-!
# When archived files have different names

A name is determined by the kind of the file, the clock second, and for a downlink packet by two
digits of the counter. So names collide for two MCS messages within one second. Downlink packets
collide only where the counter wraps, because `2 ^ 32` is not a multiple of 100.
-/

namespace CspTerm.Archive

open CString

/-! ## The name of one file -/

theorem getFormatTimestamp_congr {utime utime' yearBase : Int} (h : 0 ≤ utime) (h' : 0 ≤ utime')
    (heq : toInt32 utime = toInt32 utime') :
    getFormatTimestamp utime yearBase = getFormatTimestamp utime' yearBase := by
  unfold getFormatTimestamp
  simp only [if_neg (Int.not_lt.mpr h), if_neg (Int.not_lt.mpr h'), heq]

/-- The timestamp shows the clock second, whatever the nanoseconds. -/
theorem getTime_eq_iff (t t' : ClockTime) :
    getTime t = getTime t' ↔ t.tvSec.toNat = t'.tvSec.toNat := by
  have hlt := t.tvSec.toNat_lt
  have hlt' := t'.tvSec.toNat_lt
  have h0 : 0 ≤ t.converted + 28800 := by unfold ClockTime.converted; omega
  have h0' : 0 ≤ t'.converted + 28800 := by unfold ClockTime.converted; omega
  constructor
  · intro h
    have hint := getFormatTimestamp_inj h0 h0' h
    unfold toInt32 ClockTime.converted at hint
    omega
  · intro h
    refine getFormatTimestamp_congr h0 h0' ?_
    unfold toInt32 ClockTime.converted
    omega

theorem exists_getTime (t : ClockTime) : ∃ time, getTime t = some time := by
  have h0 : 0 ≤ t.converted + 28800 := by unfold ClockTime.converted; omega
  obtain ⟨year, mon, s, h, -⟩ := getFormatTimestamp_fields _ h0
  exact ⟨_, h⟩

theorem mcsFile_inj {time time' : CStr} (h : mcsFile time = mcsFile time') : time = time' := by
  unfold mcsFile at h
  rw [List.append_assoc, List.append_assoc] at h
  exact List.append_cancel_right (List.append_cancel_left h)

theorem downlinkFile_inj {time time' : CStr} {count count' : UInt32}
    (h : downlinkFile time count = downlinkFile time' count') :
    time = time' ∧ count.toNat % 100 = count'.toNat % 100 := by
  have htwo : ∀ c : UInt32, fmtIntZeros 2 (c.toNat % 100) = twoDigits (c.toNat % 100) := fun c =>
    fmtIntZeros_two (Nat.mod_lt _ (by decide))
  have hlen : ∀ c : UInt32,
      (cstr "_" ++ (fmtIntZeros 2 (c.toNat % 100) ++ cstr ".bin")).length = 7 := fun c => by
    rw [htwo]
    rfl
  unfold downlinkFile at h
  simp only [List.append_assoc] at h
  have hrest := List.append_cancel_left h
  obtain ⟨rfl, hsuffix⟩ := List.append_inj' hrest ((hlen count).trans (hlen count').symm)
  have hnumber := congrArg readInt (List.append_cancel_left hsuffix)
  have hstop : StopsDigits (cstr ".bin") := rfl
  rw [readInt_fmtIntZeros _ _ hstop, readInt_fmtIntZeros _ _ hstop] at hnumber
  exact ⟨rfl, by exact_mod_cast (Prod.mk.inj hnumber).1⟩

/-- The two directories differ. -/
theorem downlinkFile_ne_mcsFile (time time' : CStr) (count : UInt32) :
    downlinkFile time count ≠ mcsFile time' := by
  intro h
  have htake := congrArg (·.take 36) h
  unfold downlinkFile mcsFile at htake
  simp only [List.append_assoc] at htake
  rw [List.take_append_of_le_length (by decide), List.take_append_of_le_length (by decide)] at htake
  exact absurd htake (by decide +kernel)

/-! ## The files of a run -/

/-- A file that is opened: what is saved in it, and the counter before a downlink packet. -/
inductive ArchiveFile where
  | downlink (now : ClockTime) (count : UInt32)
  | mcs (now : ClockTime)

def ArchiveFile.name : ArchiveFile → Option CStr
  | .downlink now count => (getTime now).map (downlinkFile · count)
  | .mcs now => (getTime now).map mcsFile

/-- What the name depends on. -/
def ArchiveFile.key : ArchiveFile → Nat ⊕ (Nat × Nat)
  | .downlink now count => .inr (now.tvSec.toNat, count.toNat % 100)
  | .mcs now => .inl now.tvSec.toNat

theorem ArchiveFile.name_eq_iff (f g : ArchiveFile) : f.name = g.name ↔ f.key = g.key := by
  rcases f with ⟨t, c⟩ | ⟨t⟩ <;> rcases g with ⟨t', c'⟩ | ⟨t'⟩ <;>
    obtain ⟨time, ht⟩ := exists_getTime t <;> obtain ⟨time', ht'⟩ := exists_getTime t' <;>
    have htime := getTime_eq_iff t t' <;>
    simp only [name, key, ht, ht', Option.map_some, Option.some.injEq, Sum.inr.injEq,
      Sum.inl.injEq, Prod.mk.injEq, reduceCtorEq, iff_false] at htime ⊢
  · rw [← htime]
    refine ⟨downlinkFile_inj, ?_⟩
    rintro ⟨rfl, hc⟩
    unfold downlinkFile
    have hcast : (c.toNat % 100 : Int) = c'.toNat % 100 := by exact_mod_cast hc
    rw [hcast]
  · exact downlinkFile_ne_mcsFile _ _ _
  · exact fun h => downlinkFile_ne_mcsFile _ _ _ h.symm
  · rw [← htime]
    exact ⟨mcsFile_inj, fun h => by rw [h]⟩

def openedFiles (count : UInt32) : List Arrival → List ArchiveFile
  | [] => []
  | .downlink now :: as => .downlink now count :: openedFiles (count + 1) as
  | .mcs now :: as => .mcs now :: openedFiles count as

theorem archiveFiles_eq (count : UInt32) (as : List Arrival) :
    archiveFiles count as = (openedFiles count as).map ArchiveFile.name := by
  induction as generalizing count with
  | nil => rfl
  | cons a as ih =>
    rcases a with ⟨now⟩ | ⟨now⟩
    · exact congrArg (ArchiveFile.name (.downlink now count) :: ·) (ih (count + 1))
    · exact congrArg (ArchiveFile.name (.mcs now) :: ·) (ih count)

/-- Functions that tell the same entries apart find the same lists without repetition. -/
theorem nodup_map_iff_of_eq_iff {α β γ : Type} {f : α → β} {g : α → γ}
    (h : ∀ a b, f a = f b ↔ g a = g b) (l : List α) : (l.map f).Nodup ↔ (l.map g).Nodup := by
  unfold List.Nodup
  rw [List.pairwise_map, List.pairwise_map]
  exact List.Pairwise.iff fun a b => not_congr (h a b)

/-- Entries of two kinds can only repeat within a kind. -/
theorem nodup_sum_iff {α β : Type} (l : List (α ⊕ β)) :
    l.Nodup ↔ (l.filterMap Sum.getLeft?).Nodup ∧ (l.filterMap Sum.getRight?).Nodup := by
  induction l with
  | nil => simp
  | cons x l ih =>
    rcases x with a | b
    · have hmem : .inl a ∈ l ↔ a ∈ l.filterMap Sum.getLeft? := by
        simp only [List.mem_filterMap, Sum.getLeft?_eq_some_iff, exists_eq_right]
      simp only [List.nodup_cons, List.filterMap_cons, Sum.getLeft?_inl, Sum.getRight?_inl, ih,
        hmem, and_assoc]
    · have hmem : .inr b ∈ l ↔ b ∈ l.filterMap Sum.getRight? := by
        simp only [List.mem_filterMap, Sum.getRight?_eq_some_iff, exists_eq_right]
      simp only [List.nodup_cons, List.filterMap_cons, Sum.getLeft?_inr, Sum.getRight?_inr, ih,
        hmem]
      tauto

/-- What the names of downlink files depend on, from the `k`-th packet on. -/
def downlinkKeys (k : Nat) : List Nat → List (Nat × Nat)
  | [] => []
  | t :: ts => (t, k % 2 ^ 32 % 100) :: downlinkKeys (k + 1) ts

theorem filterMap_key (k : Nat) (as : List Arrival) (count : UInt32)
    (hk : count.toNat = k % 2 ^ 32) :
    ((openedFiles count as).map ArchiveFile.key).filterMap Sum.getLeft? = mcsSeconds as ∧
      ((openedFiles count as).map ArchiveFile.key).filterMap Sum.getRight? =
        downlinkKeys k (downlinkSeconds as) := by
  induction as generalizing k count with
  | nil => exact ⟨rfl, rfl⟩
  | cons a as ih =>
    rcases a with ⟨now⟩ | ⟨now⟩
    · have hnext : (count + 1).toNat = (k + 1) % 2 ^ 32 := by
        rw [UInt32.toNat_add, hk]
        show (k % 2 ^ 32 + 1) % 2 ^ 32 = _
        omega
      obtain ⟨hl, hr⟩ := ih (k + 1) (count + 1) hnext
      refine ⟨hl, ?_⟩
      show (now.tvSec.toNat, count.toNat % 100) :: _ =
        (now.tvSec.toNat, k % 2 ^ 32 % 100) :: _
      rw [hk, hr]
      rfl
    · obtain ⟨hl, hr⟩ := ih k count hk
      exact ⟨congrArg (now.tvSec.toNat :: ·) hl, hr⟩

/-! ## Bursts of downlink packets -/

theorem getElem?_downlinkKeys (k : Nat) (ts : List Nat) (i : Nat) :
    (downlinkKeys k ts)[i]? = ts[i]?.map fun t => (t, (k + i) % 2 ^ 32 % 100) := by
  induction ts generalizing k i with
  | nil => rfl
  | cons t ts ih =>
    rcases i with _ | i
    · rfl
    · show (downlinkKeys (k + 1) ts)[i]? = ts[i]?.map _
      rw [ih, show k + 1 + i = k + (i + 1) by omega]

theorem length_downlinkKeys (k : Nat) (ts : List Nat) :
    (downlinkKeys k ts).length = ts.length := by
  induction ts generalizing k with
  | nil => rfl
  | cons t ts ih => exact congrArg (· + 1) (ih (k + 1))

/-- The entries between two equal ones of a sorted list are equal to them. -/
theorem le_count_of_sorted {l : List Nat} (h : l.Pairwise (· ≤ ·)) {i j t : Nat} (hij : i ≤ j)
    (hi : l[i]? = some t) (hj : l[j]? = some t) : j - i + 1 ≤ l.count t := by
  obtain ⟨hi', hit⟩ := List.getElem?_eq_some_iff.mp hi
  obtain ⟨hj', hjt⟩ := List.getElem?_eq_some_iff.mp hj
  have hmono : ∀ a b (ha : a < l.length) (hb : b < l.length), a ≤ b → l[a] ≤ l[b] := by
    intro a b ha hb hab
    rcases Nat.eq_or_lt_of_le hab with rfl | hlt
    · exact Nat.le_refl _
    · exact List.pairwise_iff_getElem.mp h a b ha hb hlt
  have hslice : (l.drop i).take (j - i + 1) = List.replicate (j - i + 1) t := by
    refine List.eq_replicate_iff.mpr ⟨by simp; omega, ?_⟩
    intro x hx
    obtain ⟨k, hk, rfl⟩ := List.mem_iff_getElem.mp hx
    rw [List.length_take, List.length_drop] at hk
    rw [List.getElem_take, List.getElem_drop]
    have h1 := hmono i (i + k) hi' (by omega) (by omega)
    have h2 := hmono (i + k) j (by omega) hj' (by omega)
    omega
  calc j - i + 1 = (List.replicate (j - i + 1) t).count t := by rw [List.count_replicate_self]
    _ = ((l.drop i).take (j - i + 1)).count t := by rw [hslice]
    _ ≤ l.count t := ((List.take_sublist _ _).trans (List.drop_sublist _ _)).count_le t

/-- Counters less than 100 apart have the same two digits only 96 apart, around the wrap. -/
theorem counter_digits_eq_iff {i j : Nat} (hij : i < j) (hj : j < i + 100) :
    i % 2 ^ 32 % 100 = j % 2 ^ 32 % 100 ↔ j = i + 96 ∧ i / 2 ^ 32 < j / 2 ^ 32 := by
  have hi := Nat.mod_lt i (show 0 < 2 ^ 32 by decide)
  rcases (show j / 2 ^ 32 = i / 2 ^ 32 ∨ j / 2 ^ 32 = i / 2 ^ 32 + 1 by omega) with h | h
  · have hmod : j % 2 ^ 32 = i % 2 ^ 32 + (j - i) := by omega
    rw [hmod, h]
    generalize i % 2 ^ 32 = a at *
    omega
  · have hmod : j % 2 ^ 32 + 2 ^ 32 = i % 2 ^ 32 + (j - i) := by omega
    rw [h]
    generalize i % 2 ^ 32 = a at *
    generalize j % 2 ^ 32 = b at *
    omega

theorem nodup_downlinkKeys_iff {ts : List Nat} (hsorted : ts.Pairwise (· ≤ ·))
    (hburst : ∀ t, ts.count t ≤ 100) : (downlinkKeys 0 ts).Nodup ↔ ¬ WrapsInBurst ts := by
  rw [List.nodup_iff_getElem?_ne_getElem?]
  constructor
  · rintro h ⟨i, t, hi, hj, hwrap⟩
    obtain ⟨hlt, -⟩ := List.getElem?_eq_some_iff.mp hj
    refine h i (i + 96) (by omega) (by rw [length_downlinkKeys]; exact hlt) ?_
    have hdigits := (counter_digits_eq_iff (by omega) (by omega)).mpr ⟨rfl, hwrap⟩
    rw [getElem?_downlinkKeys, getElem?_downlinkKeys, hi, hj, Nat.zero_add, Nat.zero_add,
      Option.map_some, Option.map_some, hdigits]
  · intro h i j hij hj heq
    rw [length_downlinkKeys] at hj
    have hti : ts[i]? = some (ts[i]) := List.getElem?_eq_getElem (by omega)
    have htj : ts[j]? = some (ts[j]) := List.getElem?_eq_getElem hj
    rw [getElem?_downlinkKeys, getElem?_downlinkKeys, hti, htj, Nat.zero_add, Nat.zero_add,
      Option.map_some, Option.map_some, Option.some.injEq, Prod.mk.injEq] at heq
    obtain ⟨ht, hdigits⟩ := heq
    rw [← ht] at htj
    have hcount := le_count_of_sorted hsorted (Nat.le_of_lt hij) hti htj
    have hle := hburst (ts[i])
    obtain ⟨rfl, hwrap⟩ := (counter_digits_eq_iff hij (by omega)).mp hdigits
    exact h ⟨i, _, hti, htj, hwrap⟩

/-- The seconds of the downlink packets are those of some of the arrivals. -/
theorem downlinkSeconds_sublist (as : List Arrival) :
    (downlinkSeconds as).Sublist (as.map Arrival.second) := by
  induction as with
  | nil => exact List.Sublist.refl _
  | cons a as ih =>
    rcases a with ⟨now⟩ | ⟨now⟩
    · exact ih.cons_cons _
    · exact ih.cons _

/-- **Archived files have different names exactly when no second sees two MCS messages, or more than
96 downlink packets while the counter wraps.** For every run from the start of the program with a
clock that does not go back and at most 100 downlink packets in a second. -/
theorem archiveFiles_nodup_iff (as : List Arrival) (hclock : ClockNondecreasing as)
    (hburst : AtMostHundred as) :
    (archiveFiles 0 as).Nodup ↔ (mcsSeconds as).Nodup ∧ ¬ WrapsInBurst (downlinkSeconds as) := by
  obtain ⟨hmcs, hdownlink⟩ := filterMap_key 0 as 0 rfl
  have hsorted : (downlinkSeconds as).Pairwise (· ≤ ·) := hclock.sublist (downlinkSeconds_sublist as)
  rw [archiveFiles_eq, nodup_map_iff_of_eq_iff ArchiveFile.name_eq_iff, nodup_sum_iff, hmcs,
    hdownlink, nodup_downlinkKeys_iff hsorted hburst]

/-- Two downlink packets and an MCS message within one second. -/
theorem archiveFiles_nodup_three :
    let now : ClockTime := { tvSec := 1760931665, tvNsec := 0, tvNsec_lt := by decide }
    (archiveFiles 0 [.downlink now, .downlink now, .mcs now]).Nodup := by
  intro now
  have hburst : AtMostHundred [.downlink now, .downlink now, .mcs now] := fun t =>
    Nat.le_trans (List.count_le_length (l := [1760931665, 1760931665])) (by decide)
  refine (archiveFiles_nodup_iff _ ?_ hburst).mpr ⟨?_, ?_⟩
  · show List.Pairwise (· ≤ ·) [1760931665, 1760931665, 1760931665]
    decide
  · show List.Nodup [1760931665]
    decide
  · rintro ⟨i, t, -, hj, -⟩
    have hnone : ([1760931665, 1760931665] : List Nat)[i + 96]? = none := rfl
    exact absurd (hnone.symm.trans hj) (by simp)

/-- Two MCS messages within one second are written to the same file. -/
theorem mcs_messages_share_file :
    let now : ClockTime := { tvSec := 1760931665, tvNsec := 0, tvNsec_lt := by decide }
    ClockNondecreasing [.mcs now, .mcs now] ∧ AtMostHundred [.mcs now, .mcs now] ∧
      ¬ (archiveFiles 0 [.mcs now, .mcs now]).Nodup := by
  intro now
  refine ⟨?_, fun t => Nat.zero_le 100, ?_⟩
  · show List.Pairwise (· ≤ ·) [1760931665, 1760931665]
    decide
  · intro h
    have hnot := (List.nodup_cons.mp h).1
    exact hnot List.mem_cons_self

end CspTerm.Archive
