import CspTerm.Rotator.Proofs.SerialRotatorProofs
import CspTerm.Rotator.Wire

/-!
# When a rotator command is well formed

`serial_set_az_el` does not look at the angles: a position that the controller has is printed in
nine bytes, and any other one that gets as far as the write is written as well.
-/

namespace CspTerm.Rotator

open CString

/-- The text for a position that the controller has is its command. -/
theorem azElCommand_of_encodable {azi ele : Int} (h : Encodable azi ele) :
    azElCommand azi ele = positionCommand (azi + azimmuthAngleOffset).toNat ele.toNat := by
  obtain ⟨ha0, ha, he0, he⟩ := h
  unfold maxAzimuth at ha
  unfold maxElevation at he
  obtain ⟨az, haz⟩ := Int.eq_ofNat_of_zero_le ha0
  obtain ⟨el, rfl⟩ := Int.eq_ofNat_of_zero_le he0
  have htexts : cstr "W" = [87] ∧ cstr " " = [32] ∧ cstr "\r" = [13] := by decide
  obtain ⟨hw, hb, hr⟩ := htexts
  unfold azElCommand positionCommand threeDigits
  rw [haz, fmtInt03_eq, fmtInt03_eq, fmtIntZeros_three (by omega), fmtIntZeros_three (by omega), hw,
    hb, hr]
  rfl

theorem length_positionCommand (az el : Nat) : (positionCommand az el).length = setAzElSize := rfl

/-- The write of a position is the only one among its operations. -/
theorem write_mem_writePosition {azi ele : Int} {env : SerialEnv} {bytes : CStr} {wr : Int} :
    .write bytes wr ∈ writePosition azi ele env ↔
      bytes = (azElCommand azi ele).take setAzElSize ∧ wr = env.write := by
  have hnotify : .write bytes wr ∉ (if env.write = 0 then []
      else if env.write > 0 then [SerialOp.notifyRotator azi ele true]
      else [.notifyRotator azi ele false]) := by
    split_ifs <;> simp
  simp only [writePosition, List.mem_cons, List.mem_append, reduceCtorEq, hnotify,
    SerialOp.write.injEq, List.not_mem_nil, or_false]

/-- What a request writes: its command, cut to nine bytes, if it gets as far. -/
theorem write_mem_call {s : RotatorState} {r : RotatorRequest} {bytes : CStr} {wr : Int} :
    .write bytes wr ∈ (r.call s).ops ↔
      r.ReachesWrite s ∧ bytes = (azElCommand r.azi r.ele).take setAzElSize ∧ wr = r.env.write := by
  unfold RotatorRequest.ReachesWrite
  by_cases hc : s.tooClose r.azi r.ele
  · have hcall : r.call s = { ret := 0, state := s, ops := [] } :=
      serialSetAzEl_of_tooClose r.env hc
    rw [hcall]
    exact ⟨fun h => absurd h List.not_mem_nil, fun h => absurd hc h.1.1⟩
  rcases call_ops_of_not_tooClose hc with ⟨hopen, hops⟩ | ⟨hopen, hops⟩
  · rw [hops, List.mem_cons, write_mem_writePosition]
    constructor
    · rintro (h | h)
      · cases h
      · exact ⟨⟨hc, hopen⟩, h⟩
    · exact fun h => Or.inr h.2
  · rw [hops]
    constructor
    · intro h
      cases List.mem_singleton.mp h
    · rintro ⟨⟨-, hopen'⟩, -⟩
      exact absurd hopen' hopen

/-- **Rotator commands are well formed exactly for the positions that the controller has.** For every
pair of angles, every memory and every outcome of the system calls: whatever the request writes is
the nine-byte command for its position, printed within the array, if and only if the controller has
the position or the request does not get as far as the write. -/
theorem wireWellFormed_iff (s : RotatorState) (r : RotatorRequest) :
    WireWellFormed r.azi r.ele (r.call s).ops ↔
      Encodable r.azi r.ele ∨ ¬ r.ReachesWrite s := by
  constructor
  · intro h
    by_cases hreach : r.ReachesWrite s
    · have hwrite := write_mem_call.mpr ⟨hreach, rfl, rfl⟩
      exact Or.inl (h _ _ hwrite).1
    · exact Or.inr hreach
  · intro h bytes wr hmem
    obtain ⟨hreach, rfl, -⟩ := write_mem_call.mp hmem
    rcases h with henc | hnot
    · have hlen := length_positionCommand (r.azi + azimmuthAngleOffset).toNat r.ele.toNat
      have hcommand := azElCommand_of_encodable henc
      refine ⟨henc, ?_, ?_⟩
      · rw [hcommand, List.take_of_length_le (Nat.le_of_eq hlen)]
      · rw [hcommand, hlen]
        exact Nat.le_refl _
    · exact absurd hreach hnot

/-- `SET_AZEL -360 -90` is within the limits of the command: the text has ten characters, so that
its NUL is the eleventh byte of the array, and the nine bytes written have no carriage return. -/
theorem negative_angles_overflow_command :
    let r : RotatorRequest := { azi := -360, ele := -90, env := ⟨3, 0, 0, 9⟩ }
    azElCommand r.azi r.ele = cstr "W-280 -90\r" ∧
      .write (cstr "W-280 -90") 9 ∈ (r.call .init).ops ∧
      ¬ (azElCommand r.azi r.ele).length + 1 ≤ setAzElArray ∧
      ¬ WireWellFormed r.azi r.ele (r.call .init).ops := by
  intro r
  have hops : (r.call .init).ops = .openPort 3 :: writePosition (-360) (-90) ⟨3, 0, 0, 9⟩ := by
    decide
  have hmem : .write (cstr "W-280 -90") 9 ∈ (r.call .init).ops := by
    rw [hops]
    decide
  refine ⟨by decide, hmem, by decide, ?_⟩
  intro h
  exact absurd (h _ _ hmem).1 (by decide)

end CspTerm.Rotator
