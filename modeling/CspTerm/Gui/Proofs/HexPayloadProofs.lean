import CspTerm.Gui.HexPayload

/-!
# Payload decoding accepts exactly hexadecimal text

The loop stores, byte by byte, what the text spells in pairs of digits. Both the loop and the reading
in pairs are by recursion, so that the result is compared with the spelling of a list of bytes.
-/

namespace CspTerm.Gui

open CString

/-! ## One digit, one byte -/

/-- A digit, its folded form and its value. -/
theorem hexDigit_eq (b : UInt8) : hexDigit b =
    if Hex.isXDigit (Hex.toUpper b) then some (hexNibble (Hex.toUpper b)) else none := by
  have hall : ∀ n < 256, hexDigit (UInt8.ofNat n) =
      if Hex.isXDigit (Hex.toUpper (UInt8.ofNat n)) then
        some (hexNibble (Hex.toUpper (UInt8.ofNat n))) else none := by decide +kernel
  have hb := hall b.toNat b.toNat_lt
  rwa [UInt8.ofNat_toNat] at hb

theorem hexDigit_eq_some_iff (b : UInt8) (d : Nat) :
    hexDigit b = some d ↔ d < 16 ∧ Hex.toUpper b = Hex.upperDigit d := by
  have hall : ∀ n < 256, ∀ d < 16, hexDigit (UInt8.ofNat n) = some d ↔
      Hex.toUpper (UInt8.ofNat n) = Hex.upperDigit d := by decide +kernel
  have hb := hall b.toNat b.toNat_lt
  rw [UInt8.ofNat_toNat] at hb
  constructor
  · intro h
    have hd : d < 16 := by
      obtain ⟨-, hlt⟩ := Option.filter_eq_some_iff.mp h
      simpa using hlt
    exact ⟨hd, (hb d hd).mp h⟩
  · rintro ⟨hd, h⟩
    exact (hb d hd).mpr h

theorem hexNibble_lt {c : UInt8} (h : Hex.isXDigit (Hex.toUpper c) = true) :
    hexNibble (Hex.toUpper c) < 16 := by
  have hc := hexDigit_eq c
  rw [if_pos h] at hc
  exact ((hexDigit_eq_some_iff c _).mp hc).1

/-- The `|` of the loop has nothing to carry. -/
theorem shift_or_nibble {h l : Nat} (hh : h < 16) (hl : l < 16) : h <<< 4 ||| l = h * 16 + l := by
  have hall : ∀ h < 16, ∀ l < 16, h <<< 4 ||| l = h * 16 + l := by decide +kernel
  exact hall h hh l hl

theorem hexByte_eq (hex : CStr) (i : Nat) :
    hexByte hex i = (hexDigit (hex.getD (2 * i) 0)).bind fun high =>
      (hexDigit (hex.getD (2 * i + 1) 0)).map fun low => (high * 16 + low).toUInt8 := by
  rw [hexDigit_eq, hexDigit_eq]
  unfold hexByte
  dsimp only
  cases hh : Hex.isXDigit (Hex.toUpper (hex.getD (2 * i) 0)) with
  | false => rfl
  | true =>
    cases hl : Hex.isXDigit (Hex.toUpper (hex.getD (2 * i + 1) 0)) with
    | false => rfl
    | true =>
      have hor := shift_or_nibble (hexNibble_lt hh) (hexNibble_lt hl)
      show some _ = some _
      rw [hor]

/-! ## The loop -/

/-- The pairs of a text from index `i` on. -/
theorem hexPairs_drop {hex : CStr} {i k : Nat} (hlen : hex.length = 2 * (i + (k + 1))) :
    hexPairs (hex.drop (2 * i)) = (hexByte hex i).bind fun v =>
      (hexPairs (hex.drop (2 * (i + 1)))).map (v :: ·) := by
  have h0 : 2 * i < hex.length := by omega
  have h1 : 2 * i + 1 < hex.length := by omega
  have hhigh : hex.getD (2 * i) 0 = hex[2 * i] := by simp [h0]
  have hlow : hex.getD (2 * i + 1) 0 = hex[2 * i + 1] := by simp [h1]
  rw [List.drop_eq_getElem_cons h0, List.drop_eq_getElem_cons h1, hexByte_eq, hhigh, hlow, hexPairs,
    show 2 * i + 1 + 1 = 2 * (i + 1) by omega]
  cases hexDigit hex[2 * i] with
  | none => rfl
  | some high =>
    cases hexDigit hex[2 * i + 1] with
    | none => rfl
    | some low =>
      cases hexPairs (hex.drop (2 * (i + 1))) with
      | none => rfl
      | some rest => rfl

/-- The loop keeps what it has stored and stores the pairs from there on. -/
theorem hexLoop_eq {hex : CStr} {k i : Nat} {buffer : List UInt8} (hb : buffer.length = i + k)
    (hlen : hex.length = 2 * (i + k)) :
    hexLoop hex k i buffer = (hexPairs (hex.drop (2 * i))).map (buffer.take i ++ ·) := by
  induction k generalizing i buffer with
  | zero =>
    have hdrop : hex.drop (2 * i) = [] := List.drop_eq_nil_of_le (by omega)
    have htake : buffer.take i = buffer := List.take_of_length_le (by omega)
    rw [hexLoop, hdrop, hexPairs, Option.map_some, htake, List.append_nil]
  | succ k ih =>
    have hset : ∀ v, (buffer.set i v).length = i + 1 + k := by
      intro v
      rw [List.length_set]
      omega
    have htake : ∀ v, (buffer.set i v).take (i + 1) = buffer.take i ++ [v] := by
      intro v
      rw [List.take_succ_eq_append_getElem (by rw [hset]; omega), List.getElem_set_self,
        List.take_set_of_le (le_refl i)]
    rw [hexPairs_drop hlen]
    unfold hexLoop
    cases hexByte hex i with
    | none => rfl
    | some v =>
      show hexLoop hex k (i + 1) (buffer.set i v) = _
      rw [ih (hset v) (by omega), htake v]
      cases hexPairs (hex.drop (2 * (i + 1))) with
      | none => rfl
      | some rest => simp

/-- **The function with its loop is the reading in pairs**, and it writes to its caller's variables
only when it succeeds. -/
theorem hexToBytes_eq (memory : Option (Nat → UInt8)) (hex : CStr) (out : HexOut) :
    hexToBytes memory hex out =
      ((guiBackendHexToBytes memory.isSome hex).elim (-1, out) fun bytes =>
        (0, { buffer := some bytes, length := hex.length / 2 })) := by
  unfold hexToBytes guiBackendHexToBytes
  dsimp only
  by_cases hbad : hex.length % 2 ≠ 0 ∨ hex.length = 0
  · rw [if_pos hbad, if_pos hbad]
    rfl
  · rw [if_neg hbad, if_neg hbad]
    cases memory with
    | none => rfl
    | some fresh =>
      have hlen : hex.length = 2 * (0 + hex.length / 2) := by omega
      have hb : ((List.range (hex.length / 2)).map fresh).length = 0 + hex.length / 2 := by simp
      have hloop := hexLoop_eq hb hlen
      rw [List.take_zero, Nat.mul_zero, List.drop_zero] at hloop
      simp only [Option.isSome_some, not_true_eq_false, if_false, hloop]
      cases hexPairs hex with
      | none => rfl
      | some bytes => rfl

/-! ## What a text spells -/

/-- **Reading in pairs inverts the spelling.** -/
theorem hexPairs_eq_some_iff (hex : CStr) (bytes : List UInt8) :
    hexPairs hex = some bytes ↔ hex.map Hex.toUpper = Hex.text bytes := by
  induction hex using hexPairs.induct generalizing bytes with
  | case1 =>
    rcases bytes with _ | ⟨b, bytes⟩
    · simp [hexPairs]
    · simp [hexPairs, Hex.spell]
  | case2 c =>
    constructor
    · intro h
      cases h
    · intro h
      have hlen := congrArg List.length h
      rw [Hex.length_text, List.length_map, List.length_singleton] at hlen
      omega
  | case3 high low rest ih =>
    simp only [hexPairs, Option.bind_eq_bind, Option.bind_eq_some_iff]
    constructor
    · rintro ⟨h, hh, l, hl, tail, htail, hres⟩
      obtain ⟨hh16, hhigh⟩ := (hexDigit_eq_some_iff high h).mp hh
      obtain ⟨hl16, hlow⟩ := (hexDigit_eq_some_iff low l).mp hl
      obtain rfl := Option.some.inj hres
      rw [Hex.text_cons, Hex.spell_pair hh16 hl16, ← (ih tail).mp htail, List.map_cons,
        List.map_cons, hhigh, hlow]
      rfl
    · intro h
      rcases bytes with _ | ⟨b, bytes⟩
      · cases h
      · rw [Hex.text_cons, Hex.spell, List.map_cons, List.map_cons] at h
        obtain ⟨hhigh, h⟩ := List.cons.inj h
        obtain ⟨hlow, h⟩ := List.cons.inj h
        have hb := b.toNat_lt
        refine ⟨b.toNat / 16, (hexDigit_eq_some_iff ..).mpr ⟨by omega, hhigh⟩, b.toNat % 16,
          (hexDigit_eq_some_iff ..).mpr ⟨by omega, hlow⟩, bytes, (ih bytes).mpr h, ?_⟩
        show some _ = some _
        rw [show b.toNat / 16 * 16 + b.toNat % 16 = b.toNat by omega]
        simp

/-- Pairs of digits are always read. -/
theorem exists_hexPairs {hex : CStr} (heven : hex.length % 2 = 0)
    (hdigits : ∀ b ∈ hex, Hex.isXDigit b = true) : ∃ bytes, hexPairs hex = some bytes := by
  induction hex using hexPairs.induct with
  | case1 => exact ⟨[], rfl⟩
  | case2 c => simp at heven
  | case3 high low rest ih =>
    obtain ⟨tail, htail⟩ := ih (by simp only [List.length_cons] at heven; omega)
      fun b hb => hdigits b (by simp [hb])
    obtain ⟨h, hh, hhigh⟩ := (Hex.isXDigit_iff high).mp (hdigits high (by simp))
    obtain ⟨l, hl, hlow⟩ := (Hex.isXDigit_iff low).mp (hdigits low (by simp))
    refine ⟨(h * 16 + l).toUInt8 :: tail, ?_⟩
    rw [hexPairs, (hexDigit_eq_some_iff high h).mpr ⟨hh, hhigh⟩,
      (hexDigit_eq_some_iff low l).mpr ⟨hl, hlow⟩, htail]
    rfl

/-- What the function accepts, with memory for the result. -/
theorem guiBackendHexToBytes_eq_some_iff (hex : CStr) (bytes : List UInt8) :
    guiBackendHexToBytes true hex = some bytes ↔
      bytes ≠ [] ∧ hex.map Hex.toUpper = Hex.text bytes := by
  rw [← hexPairs_eq_some_iff]
  unfold guiBackendHexToBytes
  constructor
  · intro h
    split_ifs at h with hbad
    refine ⟨?_, h⟩
    rintro rfl
    have hlen := congrArg List.length ((hexPairs_eq_some_iff hex []).mp h)
    rw [List.length_map] at hlen
    exact hbad (Or.inr hlen)
  · rintro ⟨hne, h⟩
    have hlen := congrArg List.length ((hexPairs_eq_some_iff hex bytes).mp h)
    rw [List.length_map, Hex.length_text] at hlen
    have hpos := List.length_pos_iff.mpr hne
    rw [if_neg (by omega), if_neg (by simp)]
    exact h

theorem guiBackendHexToBytes_isSome_iff (hex : CStr) :
    (∃ bytes, guiBackendHexToBytes true hex = some bytes) ↔
      hex ≠ [] ∧ hex.length % 2 = 0 ∧ ∀ b ∈ hex, Hex.isXDigit b = true := by
  constructor
  · rintro ⟨bytes, h⟩
    obtain ⟨hne, htext⟩ := (guiBackendHexToBytes_eq_some_iff hex bytes).mp h
    have hlen := congrArg List.length htext
    rw [List.length_map, Hex.length_text] at hlen
    have hpos := List.length_pos_iff.mpr hne
    exact ⟨List.length_pos_iff.mp (by omega), by omega, Hex.isXDigit_of_text htext⟩
  · rintro ⟨hne, heven, hdigits⟩
    obtain ⟨bytes, h⟩ := exists_hexPairs heven hdigits
    refine ⟨bytes, ?_⟩
    have hpos := List.length_pos_iff.mpr hne
    unfold guiBackendHexToBytes
    rw [if_neg (by omega), if_neg (by simp), h]

/-- **Decoding accepts exactly hexadecimal text**: with memory for the result it succeeds on every
non-empty text of digits of even length and on no other, it then returns the bytes that the text
spells, and a call that fails leaves the variables of its caller alone. -/
theorem hexToBytes_exact (fresh : Nat → UInt8) (memory : Option (Nat → UInt8)) (hex : CStr)
    (out : HexOut) :
    ((hexToBytes (some fresh) hex out).1 = 0 ↔
      hex ≠ [] ∧ hex.length % 2 = 0 ∧ ∀ b ∈ hex, Hex.isXDigit b = true) ∧
    ((hexToBytes (some fresh) hex out).1 = 0 → ∃ bytes, 2 * bytes.length = hex.length ∧
      hex.map Hex.toUpper = Hex.text bytes ∧
      (hexToBytes (some fresh) hex out).2 = { buffer := some bytes, length := bytes.length }) ∧
    (∀ bytes, bytes ≠ [] → hex.map Hex.toUpper = Hex.text bytes →
      hexToBytes (some fresh) hex out =
        (0, { buffer := some bytes, length := bytes.length })) ∧
    ((hexToBytes memory hex out).1 ≠ 0 → hexToBytes memory hex out = (-1, out)) := by
  have hlength : ∀ bytes, hex.map Hex.toUpper = Hex.text bytes →
      2 * bytes.length = hex.length := by
    intro bytes h
    have hlen := congrArg List.length h
    rw [List.length_map, Hex.length_text] at hlen
    omega
  have hok : ∀ bytes, bytes ≠ [] → hex.map Hex.toUpper = Hex.text bytes →
      hexToBytes (some fresh) hex out =
        (0, { buffer := some bytes, length := bytes.length }) := by
    intro bytes hne htext
    rw [hexToBytes_eq, Option.isSome_some,
      (guiBackendHexToBytes_eq_some_iff hex bytes).mpr ⟨hne, htext⟩, Option.elim_some]
    have hlen := hlength bytes htext
    rw [show hex.length / 2 = bytes.length by omega]
  have hret : (hexToBytes (some fresh) hex out).1 = 0 ↔
      ∃ bytes, guiBackendHexToBytes true hex = some bytes := by
    rw [hexToBytes_eq, Option.isSome_some]
    cases guiBackendHexToBytes true hex with
    | none => simp
    | some bytes => simp
  refine ⟨hret.trans (guiBackendHexToBytes_isSome_iff hex), ?_, hok, ?_⟩
  · intro h
    obtain ⟨bytes, hbytes⟩ := hret.mp h
    obtain ⟨hne, htext⟩ := (guiBackendHexToBytes_eq_some_iff hex bytes).mp hbytes
    exact ⟨bytes, hlength bytes htext, htext, by rw [hok bytes hne htext]⟩
  · rw [hexToBytes_eq]
    cases guiBackendHexToBytes memory.isSome hex with
    | none => exact fun _ => rfl
    | some bytes => exact fun h => absurd rfl h

example : hexToBytes (some fun _ => 170) (cstr "c0FFee") { buffer := none, length := 0 } =
    (0, { buffer := some [0xc0, 0xff, 0xee], length := 3 }) := by decide

end CspTerm.Gui
