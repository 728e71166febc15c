import CspTerm.Radio.ConcurrentSelection
import CspTerm.Radio.Proofs.DopplerProofs

/-!
# When concurrent selections do not mix satellites

Every variable holds in the end what the last step assigned that writes it. The order within each
call limits which step that can be, and settles what it has assigned up to the order of three pairs
of steps of the two calls.
-/

namespace CspTerm.Radio

open CString Interleaving

variable {τ : Type}

/-! ## One call -/

/-- **A call that nobody interrupts is `mcs_sat_sel`.** -/
theorem runSelections_alone (env : DopplerEnv τ) (n : Bool → UInt32) (d : Doppler τ) (c : Bool) :
    (runSelections env n d (mcsSatSelSteps.map (c, ·))).doppler = (mcsSatSel env d (n c)).2 ∧
      (runSelections env n d (mcsSatSelSteps.map (c, ·))).result c =
        some (mcsSatSel env d (n c)).1 := by
  have htx : ∀ s, UInt32.ofInt (satParameters s).tx = satTx s := fun _ => rfl
  have hrx : ∀ s, UInt32.ofInt (satParameters s).rx = satRx s := fun _ => rfl
  rcases mcsSatSel_cases env d (n c) with ⟨hok, hs⟩ | ⟨ht, hr, hs⟩ | ⟨ht, hs⟩
  · rw [hs]
    simp [runSelections, mcsSatSelSteps, selStep, selEffect, Selections.start, Doppler.setFreq,
      Lumelite.freq, Doppler.freq, ax100SetFreq_eq, Direction.table, htx, hrx, hok.1, hok.2, writeResult,
      Doppler.select]
  · rw [hs]
    simp [runSelections, mcsSatSelSteps, selStep, selEffect, Selections.start, Doppler.setFreq,
      Lumelite.freq, Doppler.freq, ax100SetFreq_eq, Direction.table, htx, hrx, ht, hr, writeResult,
      Doppler.select]
  · rw [hs]
    simp [runSelections, mcsSatSelSteps, selStep, selEffect, Selections.start, Doppler.setFreq,
      Lumelite.freq, Doppler.freq, ax100SetFreq_eq, Direction.table, htx, ht, writeResult,
      Doppler.select]

/-! ## What a step leaves alone -/

section Frames

variable (env : DopplerEnv τ) (n : Bool → UInt32) (s : Selections τ) {x : Bool × SelStep}

@[simp] theorem setFreq_satNo (d : Doppler τ) (f : Int) (dir : Direction) :
    (d.setFreq f dir).satNo = d.satNo := by cases dir <;> rfl

@[simp] theorem setFreq_radio (d : Doppler τ) (f : Int) (dir : Direction) :
    (d.setFreq f dir).radio = d.radio := by cases dir <;> rfl

theorem setFreq_freq_self (d : Doppler τ) (f : Int) (dir : Direction) :
    (d.setFreq f dir).freq dir = f := by cases dir <;> rfl

theorem setFreq_freq_of_ne (d : Doppler τ) (f : Int) {dir dir' : Direction} (h : dir' ≠ dir) :
    (d.setFreq f dir').freq dir = d.freq dir := by
  cases dir <;> cases dir' <;> first | rfl | exact absurd rfl h

theorem accept_freq_self (r : Ax100) (f : UInt32) (dir : Direction) :
    (r.accept (freqWrite dir.table ax100V3Address ax100V3Timeout f)).freq dir = some f := by
  cases dir <;> rfl

theorem accept_freq_of_ne (r : Ax100) (f : UInt32) {dir dir' : Direction} (h : dir' ≠ dir) :
    (r.accept (freqWrite dir'.table ax100V3Address ax100V3Timeout f)).freq dir = r.freq dir := by
  cases dir <;> cases dir' <;> first | rfl | exact absurd rfl h

theorem selStep_of_none (h : s.result x.1 = none) : selStep env n s x = selEffect env n s x := by
  rw [selStep, h]
  rfl

/-- What the effect of a step keeps, the step keeps. -/
theorem selStep_frame {β : Type*} (f : Selections τ → β) (h : f (selEffect env n s x) = f s) :
    f (selStep env n s x) = f s := by
  unfold selStep
  split_ifs
  · rfl
  · exact h

theorem selStep_satNo (h : x.2 = .storeSatNo → ¬ n x.1 ≤ maxSatSize) :
    (selStep env n s x).doppler.satNo = s.doppler.satNo := by
  refine selStep_frame env n s (fun s => s.doppler.satNo) ?_
  obtain ⟨c, step⟩ := x
  cases step with
  | storeSatNo => exact if_neg (h rfl)
  | assign d => exact setFreq_satNo ..
  | _ => rfl

theorem selStep_freq {dir : Direction} (h : x.2 ≠ .assign dir) :
    (selStep env n s x).doppler.freq dir = s.doppler.freq dir := by
  refine selStep_frame env n s (fun s => s.doppler.freq dir) ?_
  obtain ⟨c, step⟩ := x
  cases step with
  | assign d => exact setFreq_freq_of_ne _ _ fun hd => h (by rw [hd])
  | _ => cases dir <;> rfl

theorem selStep_params {c : Bool} (h : x ≠ (c, .readSatNo)) :
    (selStep env n s x).params c = s.params c := by
  refine selStep_frame env n s (fun s => s.params c) ?_
  obtain ⟨c', step⟩ := x
  cases step with
  | readSatNo => exact Function.update_of_ne (fun hc => h (by rw [hc])) ..
  | _ => rfl

theorem selStep_radio {dir : Direction} (h : x.2 ≠ .write dir) :
    (selStep env n s x).doppler.radio.freq dir = s.doppler.radio.freq dir := by
  refine selStep_frame env n s (fun s => s.doppler.radio.freq dir) ?_
  obtain ⟨c, step⟩ := x
  cases step with
  | assign d => exact congrArg (Ax100.freq · dir) (setFreq_radio ..)
  | write d =>
    unfold selEffect
    dsimp only
    rw [ax100SetFreq_eq]
    split
    · exact accept_freq_of_ne _ _ fun hd => h (by rw [hd])
    · rfl
  | _ => rfl

theorem selStep_result {c : Bool} {r : Int} (h : s.result c = some r) :
    (selStep env n s x).result c = some r := by
  obtain ⟨c', step⟩ := x
  unfold selStep
  split
  · exact h
  · rename_i hnone
    cases step with
    | write d =>
      have hc : c ≠ c' := by
        rintro rfl
        exact hnone (by rw [h]; rfl)
      exact (Function.update_of_ne hc ..).trans h
    | _ => exact h

end Frames

/-! ## Both calls succeed -/

section Succeeding

variable {env : DopplerEnv τ} {n : Bool → UInt32} {d : Doppler τ} {l : List (Bool × SelStep)}

theorem runSelections_concat (u : List (Bool × SelStep)) (x : Bool × SelStep) :
    runSelections env n d (u ++ [x]) = selStep env n (runSelections env n d u) x := by
  unfold runSelections
  rw [List.foldl_append]
  rfl

theorem runSelections_split (u v : List (Bool × SelStep)) :
    runSelections env n d (u ++ v) = v.foldl (selStep env n) (runSelections env n d u) :=
  List.foldl_append ..

theorem result_append {u : List (Bool × SelStep)} {c : Bool} {r : Int}
    (h : (runSelections env n d u).result c = some r) (v : List (Bool × SelStep)) :
    (runSelections env n d (u ++ v)).result c = some r := by
  induction v using List.reverseRecOn with
  | nil => rwa [List.append_nil]
  | append_singleton v x ih =>
    rw [← List.append_assoc, runSelections_concat]
    exact selStep_result env n _ ih

/-- Only the last step of a call returns 1. -/
theorem write_mem_of_result {u : List (Bool × SelStep)} {c : Bool}
    (h : (runSelections env n d u).result c = some 1) : (c, SelStep.write .rx) ∈ u := by
  induction u using List.reverseRecOn with
  | nil => cases h
  | append_singleton u x ih =>
    rw [runSelections_concat] at h
    rw [List.mem_append, List.mem_singleton]
    obtain ⟨c', step⟩ := x
    unfold selStep at h
    split at h
    · exact Or.inl (ih h)
    · cases step with
      | write dir =>
        by_cases hc : c = c'
        · subst hc
          unfold selEffect at h
          dsimp only at h
          rw [Function.update_self] at h
          unfold writeResult at h
          split at h
          · cases h
          · cases dir with
            | tx => cases h
            | rx => exact Or.inr rfl
        · unfold selEffect at h
          dsimp only at h
          rw [Function.update_of_ne hc] at h
          exact Or.inl (ih h)
      | _ => exact Or.inl (ih h)

/-- No step of a call comes after its return. -/
theorem result_eq_none (hl : Interleaves (fun _ => mcsSatSelSteps) l)
    (hret : ∀ c, (runSelections env n d l).result c = some 1) {u v : List (Bool × SelStep)}
    {x : Bool × SelStep} (hsplit : l = u ++ x :: v) :
    (runSelections env n d u).result x.1 = none := by
  subst hsplit
  cases hr : (runSelections env n d u).result x.1 with
  | none => rfl
  | some r =>
    have hfinal := (result_append hr (x :: v)).symm.trans (hret x.1)
    rw [hfinal] at hr
    have hmem := write_mem_of_result hr
    have hlt := hl.rel mcsSatSelSteps_pairwise hmem (b := x.2) List.mem_cons_self
    exact absurd hlt (not_lt.mpr x.2.line_le)

/-- The radio takes every frequency it is given. -/
theorem radio_write (hl : Interleaves (fun _ => mcsSatSelSteps) l)
    (hret : ∀ c, (runSelections env n d l).result c = some 1) {u v : List (Bool × SelStep)}
    {c : Bool} {dir : Direction} (hsplit : l = u ++ (c, .write dir) :: v) :
    (runSelections env n d (u ++ [(c, .write dir)])).doppler.radio.freq dir =
      some (UInt32.ofInt ((runSelections env n d u).doppler.freq dir)) := by
  have hnone := result_eq_none hl hret hsplit
  have hfinal := hret c
  rw [hsplit, List.append_cons] at hfinal
  have hstep : runSelections env n d (u ++ [(c, .write dir)]) =
      selEffect env n (runSelections env n d u) (c, .write dir) := by
    rw [runSelections_concat, selStep_of_none env n _ hnone]
  by_cases hacc : Accepts env dir.table
      (UInt32.ofInt ((runSelections env n d u).doppler.freq dir))
  · rw [hstep]
    unfold selEffect
    dsimp only
    rw [ax100SetFreq_eq, if_pos hacc]
    exact accept_freq_self ..
  · have hfail : (runSelections env n d (u ++ [(c, .write dir)])).result c = some 0 := by
      rw [hstep]
      unfold selEffect
      dsimp only
      rw [ax100SetFreq_eq, if_neg hacc]
      exact Function.update_self ..
    rw [result_append hfail v] at hfinal
    cases hfinal

/-! ## The order of the steps -/

theorem mem_steps (step : SelStep) : step ∈ mcsSatSelSteps := by
  cases step with
  | assign d => cases d <;> decide
  | write d => cases d <;> decide
  | _ => decide

/-- The earlier steps of a call come before a step of it. -/
theorem mem_left_of_line_lt (hl : Interleaves (fun _ => mcsSatSelSteps) l)
    {u v : List (Bool × SelStep)} {c : Bool} {step earlier : SelStep}
    (hsplit : l = u ++ (c, step) :: v) (hlt : earlier.line < step.line) : (c, earlier) ∈ u := by
  have hmem : (c, earlier) ∈ l := hl.mem_iff.mpr (mem_steps earlier)
  rw [hsplit, List.append_cons] at hmem hl
  rcases List.mem_append.mp hmem with hu | hv
  · rcases List.mem_append.mp hu with hu | he
    · exact hu
    · obtain rfl := (Prod.mk.inj (List.mem_singleton.mp he)).2
      exact absurd hlt (lt_irrefl _)
  · have hback := hl.rel mcsSatSelSteps_pairwise (a := step)
      (List.mem_append_right u (List.mem_singleton.mpr rfl)) hv
    exact absurd hlt (not_lt.mpr hback.le)

/-- No step is executed twice. -/
theorem notMem_both (hl : Interleaves (fun _ => mcsSatSelSteps) l) {u v : List (Bool × SelStep)}
    (hsplit : l = u ++ v) {x : Bool × SelStep} (hu : x ∈ u) : x ∉ v := by
  subst hsplit
  exact fun hv => absurd (hl.rel mcsSatSelSteps_pairwise (a := x.2) hu hv) (lt_irrefl _)

theorem notMem_left (hl : Interleaves (fun _ => mcsSatSelSteps) l) {u v : List (Bool × SelStep)}
    {x : Bool × SelStep} (hsplit : l = u ++ x :: v) : x ∉ u := fun hu =>
  notMem_both hl hsplit hu List.mem_cons_self

theorem notMem_right (hl : Interleaves (fun _ => mcsSatSelSteps) l) {u v : List (Bool × SelStep)}
    {x : Bool × SelStep} (hsplit : l = u ++ x :: v) : x ∉ v :=
  notMem_both hl (hsplit.trans (List.append_cons ..))
    (List.mem_append_right u (List.mem_singleton.mpr rfl))

theorem mem_left_iff_before (hl : Interleaves (fun _ => mcsSatSelSteps) l)
    {u v : List (Bool × SelStep)} {x y : Bool × SelStep} (hsplit : l = u ++ x :: v) :
    y ∈ u ↔ Before l y x := by
  have hx := notMem_left hl hsplit
  unfold Before
  rw [hsplit, List.idxOf_append_of_notMem hx, List.idxOf_cons_self, Nat.add_zero]
  constructor
  · intro hy
    rw [List.idxOf_append_of_mem hy]
    exact List.idxOf_lt_length_of_mem hy
  · intro hlt
    by_contra hy
    rw [List.idxOf_append_of_notMem hy] at hlt
    omega

/-! ## What the variables hold -/

/-- Once the last number is stored, it is the selected one. -/
theorem satNo_of_stored (hl : Interleaves (fun _ => mcsSatSelSteps) l)
    (hret : ∀ c, (runSelections env n d l).result c = some 1) {c : Bool} (hc : StoresLast n l c)
    {u v : List (Bool × SelStep)} (hsplit : l = u ++ v) (hmem : (c, .storeSatNo) ∈ u) :
    (runSelections env n d u).doppler.satNo = n c := by
  obtain ⟨u₁, u₂, rfl⟩ := List.append_of_mem hmem
  have hsplit' : l = u₁ ++ (c, .storeSatNo) :: (u₂ ++ v) := by
    rw [hsplit, List.append_assoc, List.cons_append]
  have hstore : (runSelections env n d (u₁ ++ [(c, .storeSatNo)])).doppler.satNo = n c := by
    rw [runSelections_concat, selStep_of_none env n _ (result_eq_none hl hret hsplit')]
    exact satSelected_of_le hc.1
  rw [List.append_cons, runSelections_split,
    foldl_frame (f := fun s : Selections τ => s.doppler.satNo) ?_, hstore]
  rintro s ⟨b, step⟩ hx
  refine selStep_satNo env n s ?_
  rintro rfl hb
  have hright := List.mem_append_left v hx
  by_cases hbc : b = c
  · subst hbc
    exact notMem_right hl hsplit' hright
  · obtain rfl := Bool.eq_not.mpr hbc
    have hleft := (mem_left_iff_before hl hsplit').mpr (hc.2 hb)
    exact notMem_both hl hsplit' hleft (List.mem_cons_of_mem _ hright)

/-- Before that, the other call has only its own number to go by. -/
theorem satNo_of_not_stored (hl : Interleaves (fun _ => mcsSatSelSteps) l)
    (hret : ∀ c, (runSelections env n d l).result c = some 1) {c : Bool}
    {u v : List (Bool × SelStep)} (hsplit : l = u ++ v) (hmem : (!c, .storeSatNo) ∈ u)
    (hnot : (c, .storeSatNo) ∉ u) :
    (runSelections env n d u).doppler.satNo = satSelected d.satNo (n (!c)) := by
  obtain ⟨u₁, u₂, rfl⟩ := List.append_of_mem hmem
  have hsplit' : l = u₁ ++ (!c, .storeSatNo) :: (u₂ ++ v) := by
    rw [hsplit, List.append_assoc, List.cons_append]
  have hframe : ∀ w : List (Bool × SelStep), (c, .storeSatNo) ∉ w → (!c, .storeSatNo) ∉ w →
      ∀ s, (w.foldl (selStep env n) s).doppler.satNo = s.doppler.satNo := by
    intro w h₁ h₂
    refine foldl_frame (f := fun s : Selections τ => s.doppler.satNo) ?_
    rintro s ⟨b, step⟩ hx
    refine selStep_satNo env n s ?_
    rintro rfl
    by_cases hbc : b = c
    · exact absurd (hbc ▸ hx) h₁
    · exact absurd (Bool.eq_not.mpr hbc ▸ hx) h₂
  rw [List.mem_append, List.mem_cons, not_or, not_or] at hnot
  have hfirst : (runSelections env n d u₁).doppler.satNo = d.satNo :=
    hframe u₁ hnot.1 (notMem_left hl hsplit') _
  have hright : (!c, SelStep.storeSatNo) ∉ u₂ := fun h =>
    notMem_right hl hsplit' (List.mem_append_left v h)
  rw [List.append_cons, runSelections_split, hframe u₂ hnot.2.2 hright, runSelections_concat,
    selStep_of_none env n _ (result_eq_none hl hret hsplit')]
  unfold selEffect
  dsimp only
  rw [hfirst]

/-- What a call assigns is settled by the number that it finds in `sat_no`. -/
theorem params_of_read (hl : Interleaves (fun _ => mcsSatSelSteps) l)
    (hret : ∀ c, (runSelections env n d l).result c = some 1) {b : Bool}
    {u v w : List (Bool × SelStep)} (hsplit : l = u ++ (b, .readSatNo) :: (v ++ w)) :
    (runSelections env n d (u ++ (b, .readSatNo) :: v)).params b =
      satParameters (runSelections env n d u).doppler.satNo := by
  rw [List.append_cons, runSelections_split,
    foldl_frame (f := fun s : Selections τ => s.params b) ?_, runSelections_concat,
    selStep_of_none env n _ (result_eq_none hl hret hsplit)]
  · exact Function.update_self ..
  · intro s x hx
    refine selStep_params env n s ?_
    rintro rfl
    exact notMem_right hl hsplit (List.mem_append_left w hx)

/-- The frequency of a direction is the one that the last assignment to it assigned. -/
theorem freq_final (hl : Interleaves (fun _ => mcsSatSelSteps) l)
    (hret : ∀ c, (runSelections env n d l).result c = some 1) (dir : Direction) :
    ∃ b u v, l = u ++ (b, .readSatNo) :: v ∧
      Before l (!b, .assign dir) (b, .assign dir) ∧
      (runSelections env n d l).doppler.freq dir =
        (satParameters (runSelections env n d u).doppler.satNo).freq dir := by
  obtain ⟨w, x, z, hsplit, hx, hlast⟩ := exists_last (p := fun x : Bool × SelStep =>
    x.2 = .assign dir) ⟨(true, .assign dir), hl.mem_iff.mpr (mem_steps _), rfl⟩
  obtain ⟨b, step⟩ := x
  obtain rfl : step = .assign dir := hx
  have hread : (b, SelStep.readSatNo) ∈ w :=
    mem_left_of_line_lt hl hsplit (SelStep.read_line_lt dir)
  have hother : (!b, SelStep.assign dir) ∈ w := by
    have hmem : (!b, SelStep.assign dir) ∈ l := hl.mem_iff.mpr (mem_steps _)
    rw [hsplit, List.mem_append, List.mem_cons] at hmem
    rcases hmem with h | h | h
    · exact h
    · exact absurd (Prod.mk.inj h).1 (Bool.not_ne_self b)
    · exact absurd rfl (hlast _ h)
  obtain ⟨u, v, hw⟩ := List.append_of_mem hread
  have hsplit' : l = u ++ (b, .readSatNo) :: (v ++ (b, .assign dir) :: z) := by
    rw [hsplit, hw, List.append_assoc, List.cons_append]
  refine ⟨b, u, _, hsplit', (mem_left_iff_before hl hsplit).mp hother, ?_⟩
  have hnone := result_eq_none hl hret hsplit
  conv => lhs; rw [hsplit]
  rw [List.append_cons, runSelections_split,
    foldl_frame (f := fun s : Selections τ => s.doppler.freq dir)
      (fun s x hx => selStep_freq env n s (hlast x hx)),
    runSelections_concat, selStep_of_none env n _ hnone]
  unfold selEffect
  dsimp only
  rw [setFreq_freq_self, hw, params_of_read hl hret hsplit']

/-- The radio ends up on the frequencies of the variables: when the last write of a direction is
made, both calls have made their assignments. -/
theorem radio_final (hl : Interleaves (fun _ => mcsSatSelSteps) l)
    (hret : ∀ c, (runSelections env n d l).result c = some 1) (dir : Direction) :
    (runSelections env n d l).doppler.radio.freq dir =
      some (UInt32.ofInt ((runSelections env n d l).doppler.freq dir)) := by
  obtain ⟨u, x, v, hsplit, hx, hlast⟩ := exists_last (p := fun x : Bool × SelStep =>
    x.2 = .write dir) ⟨(true, .write dir), hl.mem_iff.mpr (mem_steps _), rfl⟩
  obtain ⟨b, step⟩ := x
  obtain rfl : step = .write dir := hx
  have hassign : ∀ c, (c, SelStep.assign dir) ∈ u := by
    intro c
    have hmem : (c, SelStep.write dir) ∈ u ++ [(b, .write dir)] := by
      have hall : (c, SelStep.write dir) ∈ l := hl.mem_iff.mpr (mem_steps _)
      rw [hsplit, List.append_cons, List.mem_append] at hall
      exact hall.resolve_right fun h => absurd rfl (hlast _ h)
    rw [List.mem_append, List.mem_singleton] at hmem
    rcases hmem with h | h
    · obtain ⟨w, z, rfl⟩ := List.append_of_mem h
      have hsplit' : l = w ++ (c, .write dir) :: (z ++ (b, .write dir) :: v) := by
        rw [hsplit, List.append_assoc, List.cons_append]
      exact List.mem_append_left _
        (mem_left_of_line_lt hl hsplit' (SelStep.assign_line_lt dir))
    · obtain rfl := (Prod.mk.inj h).1
      exact mem_left_of_line_lt hl hsplit (SelStep.assign_line_lt dir)
  have hkeep : (runSelections env n d l).doppler.freq dir =
      (runSelections env n d u).doppler.freq dir := by
    conv => lhs; rw [hsplit]
    rw [runSelections_split]
    refine foldl_frame (f := fun s : Selections τ => s.doppler.freq dir) ?_ _
    rintro s ⟨c, step⟩ hx
    refine selStep_freq env n s ?_
    rintro rfl
    exact notMem_both hl hsplit (hassign c) hx
  rw [hkeep, ← radio_write hl hret hsplit]
  conv => lhs; rw [hsplit]
  rw [List.append_cons, runSelections_split]
  exact foldl_frame (f := fun s : Selections τ => s.doppler.radio.freq dir)
    (fun s x hx => selStep_radio env n s (hlast x hx)) _

/-! ## One satellite or two -/

/-- The number that call `c` stored last settles a direction if the other call looks at it before
its assignments, or if its assignment is overwritten. -/
theorem freq_final_of_before (hl : Interleaves (fun _ => mcsSatSelSteps) l)
    (hret : ∀ c, (runSelections env n d l).result c = some 1) {c : Bool} (hc : StoresLast n l c)
    {dir : Direction} (h : Before l (c, .storeSatNo) (!c, .readSatNo) ∨
      Before l (!c, .assign dir) (c, .assign dir)) :
    (runSelections env n d l).doppler.freq dir = (satParameters (n c)).freq dir := by
  obtain ⟨b, u, v, hsplit, hbefore, hfreq⟩ := freq_final hl hret dir
  have hstored : (c, SelStep.storeSatNo) ∈ u := by
    by_cases hb : b = c
    · subst hb
      exact mem_left_of_line_lt hl hsplit (by decide)
    · obtain rfl := Bool.eq_not.mpr hb
      rw [Bool.not_not] at hbefore
      refine (mem_left_iff_before hl hsplit).mpr (h.resolve_right ?_)
      intro h'
      unfold Before at hbefore h'
      omega
  rw [hfreq, satNo_of_stored hl hret hc hsplit hstored]

/-- Otherwise the direction ends up on the satellite of the other call. -/
theorem freq_final_of_not_before (hl : Interleaves (fun _ => mcsSatSelSteps) l)
    (hret : ∀ c, (runSelections env n d l).result c = some 1) {c : Bool} {dir : Direction}
    (hread : ¬ Before l (c, .storeSatNo) (!c, .readSatNo))
    (hassign : ¬ Before l (!c, .assign dir) (c, .assign dir)) :
    (runSelections env n d l).doppler.freq dir =
      (satParameters (satSelected d.satNo (n (!c)))).freq dir := by
  obtain ⟨b, u, v, hsplit, hbefore, hfreq⟩ := freq_final hl hret dir
  have hb : b = !c := by
    refine Bool.eq_not.mpr ?_
    rintro rfl
    exact hassign hbefore
  subst hb
  have hstored : (!c, SelStep.storeSatNo) ∈ u := mem_left_of_line_lt hl hsplit (by decide)
  rw [hfreq, satNo_of_not_stored hl hret hsplit hstored fun h =>
    hread ((mem_left_iff_before hl hsplit).mp h)]

theorem satParameters_cases (satNo : UInt32) :
    satParameters satNo = lumelite1 ∨ satParameters satNo = lumelite2 ∨
      satParameters satNo = lumelite3 := by
  unfold satParameters
  split_ifs
  · exact Or.inr (Or.inl rfl)
  · exact Or.inr (Or.inr rfl)
  · exact Or.inl rfl

/-- The satellites differ in both frequencies. -/
theorem satParameters_eq_of_freq {a b : UInt32} (dir : Direction)
    (h : (satParameters a).freq dir = (satParameters b).freq dir) :
    satParameters a = satParameters b := by
  rcases satParameters_cases a with ha | ha | ha <;>
    rcases satParameters_cases b with hb | hb | hb <;>
    rw [ha, hb] at h ⊢ <;> cases dir <;> first | rfl | exact absurd h (by decide)

theorem isOn_iff (hl : Interleaves (fun _ => mcsSatSelSteps) l)
    (hret : ∀ c, (runSelections env n d l).result c = some 1) {c : Bool}
    (hc : StoresLast n l c) :
    (runSelections env n d l).doppler.IsOn (n c) ↔
      satParameters (satSelected d.satNo (n (!c))) = satParameters (n c) ∨
        Before l (c, .storeSatNo) (!c, .readSatNo) ∨
        ∀ dir, Before l (!c, .assign dir) (c, .assign dir) := by
  have hselected : (runSelections env n d l).doppler.satNo = n c :=
    satNo_of_stored hl hret hc (List.append_nil l).symm (hl.mem_iff.mpr (mem_steps _))
  constructor
  · intro hon
    by_cases hread : Before l (c, .storeSatNo) (!c, .readSatNo)
    · exact Or.inr (Or.inl hread)
    · by_cases hassign : ∀ dir, Before l (!c, .assign dir) (c, .assign dir)
      · exact Or.inr (Or.inr hassign)
      · obtain ⟨dir, hdir⟩ := not_forall.mp hassign
        have hfreq := freq_final_of_not_before hl hret hread hdir
        exact Or.inl (satParameters_eq_of_freq dir (hfreq.symm.trans (hon.freq dir)))
  · intro hcond
    have hfreq : ∀ dir, (runSelections env n d l).doppler.freq dir =
        (satParameters (n c)).freq dir := by
      intro dir
      rcases hcond with hsame | hread | hassign
      · by_cases h : Before l (c, .storeSatNo) (!c, .readSatNo) ∨
            Before l (!c, .assign dir) (c, .assign dir)
        · exact freq_final_of_before hl hret hc h
        · obtain ⟨h₁, h₂⟩ := not_or.mp h
          rw [freq_final_of_not_before hl hret h₁ h₂, hsame]
      · exact freq_final_of_before hl hret hc (Or.inl hread)
      · exact freq_final_of_before hl hret hc (Or.inr (hassign dir))
    refine ⟨hselected, hfreq, ?_⟩
    intro dir
    rw [radio_final hl hret, hfreq]

/-- If a number is requested that the code takes, some call stores its number last. -/
theorem exists_storesLast (hl : Interleaves (fun _ => mcsSatSelSteps) l)
    (hn : ∃ c, n c ≤ maxSatSize) : ∃ c, StoresLast n l c := by
  obtain ⟨c, hc⟩ := hn
  by_cases hother : n (!c) ≤ maxSatSize
  · have hne : ∀ b, l.idxOf (!b, SelStep.storeSatNo) ≠ l.idxOf (b, SelStep.storeSatNo) := by
      intro b h
      have hmem : (!b, SelStep.storeSatNo) ∈ l := hl.mem_iff.mpr (mem_steps _)
      exact absurd (Prod.mk.inj ((List.idxOf_inj hmem).mp h)).1 (Bool.not_ne_self b)
    by_cases hbefore : Before l (!c, .storeSatNo) (c, .storeSatNo)
    · exact ⟨c, hc, fun _ => hbefore⟩
    · refine ⟨!c, hother, fun _ => ?_⟩
      have := hne c
      rw [Bool.not_not]
      unfold Before at hbefore ⊢
      omega
  · exact ⟨c, hc, fun h => absurd h hother⟩

/-- **When concurrent selections do not mix satellites.** For every interleaving of the steps of two
calls whose radio writes all succeed: when both have returned, the selected number, the frequencies
and the radio all belong to one of the requested satellites if and only if the call that stores its
number last is not mixed with the other one. -/
theorem onRequested_iff (hl : Interleaves (fun _ => mcsSatSelSteps) l)
    (hret : ∀ c, (runSelections env n d l).result c = some 1) :
    OnRequested n (runSelections env n d l).doppler ↔ Unmixed d.satNo n l := by
  constructor
  · rintro ⟨b, hb, hon⟩
    obtain ⟨c, hc⟩ := exists_storesLast hl ⟨b, hb⟩
    have hselected : (runSelections env n d l).doppler.satNo = n c :=
      satNo_of_stored hl hret hc (List.append_nil l).symm (hl.mem_iff.mpr (mem_steps _))
    have hsame : n b = n c := hon.selected.symm.trans hselected
    exact ⟨c, hc, (isOn_iff hl hret hc).mp (hsame ▸ hon)⟩
  · rintro ⟨c, hc, hcond⟩
    exact ⟨c, hc.1, (isOn_iff hl hret hc).mpr hcond⟩

end Succeeding

/-- Satellite 1 is selected first, and satellite 2 after that. -/
theorem onRequested_in_turn :
    OnRequested (fun c => if c then 2 else 1)
      (runSelections (⟨fun _ => 1, fun _ t => t⟩ : DopplerEnv Unit) (fun c => if c then 2 else 1)
        (.init ()) (mcsSatSelSteps.map (false, ·) ++ mcsSatSelSteps.map (true, ·))).doppler := by
  have hl : Interleaves (fun _ => mcsSatSelSteps)
      (mcsSatSelSteps.map (false, ·) ++ mcsSatSelSteps.map (true, ·)) := by
    rintro (_ | _) <;> rfl
  refine (onRequested_iff hl (by rintro (_ | _) <;> rfl)).mpr
    ⟨true, ⟨by decide, fun _ => by unfold Before; decide⟩, Or.inr (Or.inr ?_)⟩
  rintro (_ | _) <;> unfold Before <;> decide

/-- A selection of satellite 2 overtakes one of satellite 1 that has just read `sat_no`: satellite 2
is selected, and the radio is on the frequencies of satellite 1. -/
theorem selections_mixed :
    Interleaves (fun _ => mcsSatSelSteps)
        ((mcsSatSelSteps.take 2).map (false, ·) ++ mcsSatSelSteps.map (true, ·) ++
          (mcsSatSelSteps.drop 2).map (false, ·)) ∧
      (∀ c, (runSelections (⟨fun _ => 1, fun _ t => t⟩ : DopplerEnv Unit)
        (fun c => if c then 2 else 1) (.init ())
        ((mcsSatSelSteps.take 2).map (false, ·) ++ mcsSatSelSteps.map (true, ·) ++
          (mcsSatSelSteps.drop 2).map (false, ·))).result c = some 1) ∧
      ¬ OnRequested (fun c => if c then 2 else 1)
        (runSelections (⟨fun _ => 1, fun _ t => t⟩ : DopplerEnv Unit)
          (fun c => if c then 2 else 1) (.init ())
          ((mcsSatSelSteps.take 2).map (false, ·) ++ mcsSatSelSteps.map (true, ·) ++
            (mcsSatSelSteps.drop 2).map (false, ·))).doppler := by
  refine ⟨by rintro (_ | _) <;> rfl, by rintro (_ | _) <;> rfl, ?_⟩
  rintro ⟨c, -, hon⟩
  cases c with
  | false => exact absurd hon.selected (by decide)
  | true => exact absurd (hon.freq .tx) (by decide)

end CspTerm.Radio
