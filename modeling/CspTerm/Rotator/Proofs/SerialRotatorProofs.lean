import CspTerm.Lib.Run
import CspTerm.Rotator.SerialRotator

/-!
# When a suppressed rotator request is truthful

`serial_set_az_el` remembers a request before the port is opened, so a request that fails is
remembered like one that arrived. The theorems say what a request does to the memory and to the
last written position, and that the memory is trustworthy along a run exactly when every request of
it is harmless.
-/

namespace CspTerm.Rotator

open CString

/-! ## One request -/

theorem setInterface_eq_zero_iff {g s : Int} : setInterface g s = 0 ↔ g = 0 ∧ s = 0 := by
  unfold setInterface
  split_ifs <;> simp_all

theorem serialSetAzEl_of_tooClose {s : RotatorState} {azi ele : Int} (env : SerialEnv)
    (h : s.tooClose azi ele) :
    serialSetAzEl s azi ele env = { ret := 0, state := s, ops := [] } := by
  unfold serialSetAzEl
  rw [if_neg (by decide), if_pos h]

/-- A request that is not suppressed is remembered, whatever becomes of it. -/
theorem serialSetAzEl_state_of_not_tooClose {s : RotatorState} {azi ele : Int} (env : SerialEnv)
    (h : ¬ s.tooClose azi ele) :
    (serialSetAzEl s azi ele env).state = { aziOld := azi, eleOld := ele } := by
  unfold serialSetAzEl
  rw [if_neg (by decide), if_neg h]
  split_ifs <;> rfl

/-- The operations of the write put the command on the line when all of its bytes were taken and
the command is no longer than the array. -/
theorem any_commands_writePosition (azi ele : Int) (env : SerialEnv) :
    (writePosition azi ele env).any (SerialOp.commands azi ele) = true ↔
      env.write = setAzElSize ∧ (azElCommand azi ele).length = setAzElSize := by
  have hnotify : ∀ l : List SerialOp, l = (if env.write = 0 then []
      else if env.write > 0 then [.notifyRotator azi ele true]
      else [.notifyRotator azi ele false]) → l.any (SerialOp.commands azi ele) = false := by
    rintro l rfl
    split_ifs <;> rfl
  have htake : (azElCommand azi ele).take setAzElSize = azElCommand azi ele ↔
      (azElCommand azi ele).length ≤ setAzElSize := List.take_eq_self_iff _
  have hlen : setAzElSize ≤ (azElCommand azi ele).length := by
    have h3 : ∀ z : Int, 3 ≤ (fmtInt03 z).length := fun z => by
      unfold fmtInt03
      split_ifs <;> simp <;> omega
    have h1 := h3 (azi + azimmuthAngleOffset)
    have h2 := h3 ele
    simp only [azElCommand, setAzElSize, List.length_append]
    have : (cstr "W").length = 1 ∧ (cstr " ").length = 1 ∧ (cstr "\r").length = 1 := by decide
    omega
  simp only [writePosition, List.any_append, List.any_cons, List.any_nil, hnotify _ rfl,
    SerialOp.commands, Bool.or_false, Bool.and_eq_true, beq_iff_eq, htake, List.length_take,
    Nat.min_eq_left hlen]
  constructor
  · rintro ⟨h, hw⟩
    exact ⟨hw, by omega⟩
  · rintro ⟨hw, h⟩
    exact ⟨by omega, hw⟩

/-- The operations of a call that is not suppressed: the port is opened, and the position is written
if it takes its settings. -/
theorem call_ops_of_not_tooClose {s : RotatorState} {r : RotatorRequest}
    (hc : ¬ s.tooClose r.azi r.ele) :
    ((0 ≤ r.env.openFd ∧ r.env.tcgetattr = 0 ∧ r.env.tcsetattr = 0) ∧
      (r.call s).ops = .openPort r.env.openFd :: writePosition r.azi r.ele r.env) ∨
    (¬ (0 ≤ r.env.openFd ∧ r.env.tcgetattr = 0 ∧ r.env.tcsetattr = 0) ∧
      (r.call s).ops = [.openPort r.env.openFd]) := by
  unfold RotatorRequest.call serialSetAzEl
  rw [if_neg (by decide), if_neg hc]
  by_cases ho : r.env.openFd < 0
  · rw [if_pos ho]
    exact Or.inr ⟨fun h => by omega, rfl⟩
  rw [if_neg ho]
  by_cases hi : setInterface r.env.tcgetattr r.env.tcsetattr = 0
  · rw [if_neg (not_not.mpr hi)]
    exact Or.inl ⟨⟨by omega, setInterface_eq_zero_iff.mp hi⟩, rfl⟩
  · rw [if_pos hi]
    exact Or.inr ⟨fun h => hi (setInterface_eq_zero_iff.mpr h.2), rfl⟩

/-- A request puts its command on the line exactly when it is not suppressed and arrives. -/
theorem any_commands_call (s : RotatorState) (r : RotatorRequest) :
    (r.call s).ops.any (SerialOp.commands r.azi r.ele) = true ↔
      ¬ s.tooClose r.azi r.ele ∧ r.Arrives := by
  by_cases hc : s.tooClose r.azi r.ele
  · have hcall : r.call s = { ret := 0, state := s, ops := [] } :=
      serialSetAzEl_of_tooClose r.env hc
    rw [hcall]
    exact ⟨fun h => absurd h Bool.false_ne_true, fun h => absurd hc h.1⟩
  rcases call_ops_of_not_tooClose hc with ⟨⟨ho, hg, hs⟩, hops⟩ | ⟨hopen, hops⟩
  · rw [hops, List.any_cons]
    show (false || _) = true ↔ _
    rw [Bool.false_or, any_commands_writePosition]
    exact ⟨fun h => ⟨hc, ho, hg, hs, h⟩, fun h => h.2.2.2.2⟩
  · rw [hops]
    refine ⟨fun h => absurd h Bool.false_ne_true, ?_⟩
    rintro ⟨-, ho, hg, hs, -⟩
    exact absurd ⟨ho, hg, hs⟩ hopen

/-- What a request does: nothing if it is suppressed; otherwise it is remembered, and it is the
last written position if it arrives. -/
theorem RotatorRun.step_cases (t : RotatorRun) (r : RotatorRequest) :
    (t.rotator.tooClose r.azi r.ele ∧ t.step r = t) ∨
    (¬ t.rotator.tooClose r.azi r.ele ∧ r.Arrives ∧
      t.step r = { rotator := { aziOld := r.azi, eleOld := r.ele }
                   written := some (r.azi, r.ele) }) ∨
    (¬ t.rotator.tooClose r.azi r.ele ∧ ¬ r.Arrives ∧
      t.step r = { t with rotator := { aziOld := r.azi, eleOld := r.ele } }) := by
  have hany := any_commands_call t.rotator r
  by_cases hc : t.rotator.tooClose r.azi r.ele
  · refine Or.inl ⟨hc, ?_⟩
    have hcall : r.call t.rotator = { ret := 0, state := t.rotator, ops := [] } :=
      serialSetAzEl_of_tooClose r.env hc
    simp [RotatorRun.step, hcall]
  · have hstate : (r.call t.rotator).state = { aziOld := r.azi, eleOld := r.ele } :=
      serialSetAzEl_state_of_not_tooClose r.env hc
    by_cases ha : r.Arrives
    · refine Or.inr (Or.inl ⟨hc, ha, ?_⟩)
      unfold RotatorRun.step
      rw [if_pos (hany.mpr ⟨hc, ha⟩), hstate]
    · refine Or.inr (Or.inr ⟨hc, ha, ?_⟩)
      unfold RotatorRun.step
      rw [if_neg fun h => ha (hany.mp h).2, hstate]

/-! ## The memory and the last written position -/

/-- The positions one degree to either side of the remembered one are suppressed as well. -/
theorem tooClose_of_near {s : RotatorState} {azi ele : Int} (ha : 0 ≤ s.aziOld)
    (he : 0 ≤ s.eleOld) (h1 : (azi - s.aziOld).natAbs ≤ 1) (h2 : (ele - s.eleOld).natAbs ≤ 1) :
    s.tooClose azi ele := by
  unfold RotatorState.tooClose minAngleThreshold
  rw [if_neg (by omega)]
  omega

/-- **The memory is truthful exactly when it is void or holds the last written position.** A
written position that is only near the remembered one is not enough: the request on the far side of
the remembered position is suppressed and not near it. -/
theorem RotatorRun.truthful_iff (t : RotatorRun) :
    t.Truthful ↔ t.rotator.aziOld < 0 ∨ t.rotator.eleOld < 0 ∨
      t.written = some (t.rotator.aziOld, t.rotator.eleOld) := by
  constructor
  · intro h
    by_cases ha : t.rotator.aziOld < 0
    · exact Or.inl ha
    by_cases he : t.rotator.eleOld < 0
    · exact Or.inr (Or.inl he)
    refine Or.inr (Or.inr ?_)
    -- the four diagonal neighbours of the remembered position pin the written one down
    have hnear : ∀ dx dy : Int, dx.natAbs ≤ 1 → dy.natAbs ≤ 1 → ∃ a e, t.written = some (a, e) ∧
        (t.rotator.aziOld + dx - a).natAbs < 2 ∧ (t.rotator.eleOld + dy - e).natAbs < 2 :=
      fun dx dy hx hy => h _ _ (tooClose_of_near (by omega) (by omega) (by omega) (by omega))
    obtain ⟨a, e, hw, h1, h2⟩ := hnear 1 1 (by decide) (by decide)
    obtain ⟨a', e', hw', h3, h4⟩ := hnear (-1) (-1) (by decide) (by decide)
    obtain ⟨rfl, rfl⟩ : a = a' ∧ e = e' := by simpa using hw.symm.trans hw'
    obtain ⟨rfl, rfl⟩ : a = t.rotator.aziOld ∧ e = t.rotator.eleOld := ⟨by omega, by omega⟩
    exact hw
  · intro h azi ele hc
    unfold RotatorState.tooClose at hc
    split_ifs at hc with hneg
    rcases h with h | h | h
    · exact absurd (Or.inl h) hneg
    · exact absurd (Or.inr h) hneg
    · exact ⟨_, _, h, hc.1, hc.2⟩

/-- From a truthful memory, the harmless requests are the ones that leave it truthful. -/
theorem RotatorRun.truthful_step_iff {t : RotatorRun} (h : t.Truthful) (r : RotatorRequest) :
    (t.step r).Truthful ↔ r.Harmless t := by
  unfold RotatorRequest.Harmless
  rcases t.step_cases r with ⟨hc, hs⟩ | ⟨hc, ha, hs⟩ | ⟨hc, ha, hs⟩
  · rw [hs]
    exact ⟨fun _ => Or.inl hc, fun _ => h⟩
  · rw [hs, RotatorRun.truthful_iff]
    exact ⟨fun _ => Or.inr (Or.inl ha), fun _ => Or.inr (Or.inr rfl)⟩
  · rw [hs, RotatorRun.truthful_iff]
    simp only [hc, ha, false_or]

theorem RotatorRun.truthful_init : RotatorRun.init.Truthful :=
  (RotatorRun.truthful_iff _).mpr (Or.inl (by decide))

/-- **Suppressed requests are truthful along a run exactly when every request of it is harmless.**
For every sequence of requests and every outcome of their system calls: in all states reached, a
request that the threshold suppresses is near the last completely written position, if and only if
each request, in the state it is made in, is suppressed, arrives, has a negative angle, or repeats
the position the rotator was told last. -/
theorem suppression_truthful_iff (rs : List RotatorRequest) :
    (∀ pre, pre <+: rs → (pre.foldl RotatorRun.step RotatorRun.init).Truthful) ↔
      Run.Guarded RotatorRun.step (fun t r => r.Harmless t) RotatorRun.init rs :=
  Run.forall_prefix_iff (A := fun _ _ => True) (I := RotatorRun.Truthful) (J := fun _ => True)
    (fun _ r h _ _ => RotatorRun.truthful_step_iff h r) (fun _ _ _ _ _ _ => trivial)
    RotatorRun.truthful_init trivial (Run.guarded_of_forall (fun _ _ => trivial))

/-- A request that finds the port missing: the same request made again is suppressed, although no
command was ever written. -/
theorem failed_request_suppresses_retry :
    let r : RotatorRequest := { azi := 10, ele := 20, env := ⟨-1, 0, 0, 0⟩ }
    let t := RotatorRun.init.step r
    r.call t.rotator = { ret := 0, state := t.rotator, ops := [] } ∧ t.written = none ∧
      ¬ t.Truthful := by
  refine ⟨by decide, by decide, ?_⟩
  intro h
  obtain ⟨a, e, hw, -⟩ := h 10 20 (by decide)
  have hnone : (some (a, e) : Option (Int × Int)) = none := hw.symm
  exact absurd hnone (by simp)

end CspTerm.Rotator
