import Mathlib.Data.List.Basic
import Mathlib.Tactic.Common

/-!
# Stream ciphers

A text is masked with a stream of bytes that depends on the position alone. Masking twice restores the
text, and two positions with the same byte of the stream show the difference of their texts.
-/

namespace StreamCipher

def mask (stream : Nat → UInt8) (l : List UInt8) : List UInt8 := l.mapIdx fun i b => b ^^^ stream i

@[simp] theorem mask_nil (stream : Nat → UInt8) : mask stream [] = [] := rfl

@[simp] theorem length_mask (stream : Nat → UInt8) (l : List UInt8) :
    (mask stream l).length = l.length :=
  List.length_mapIdx

theorem getElem?_mask (stream : Nat → UInt8) (l : List UInt8) (i : Nat) :
    (mask stream l)[i]? = l[i]?.map (· ^^^ stream i) :=
  List.getElem?_mapIdx ..

theorem getD_mask (stream : Nat → UInt8) {l : List UInt8} {i : Nat} (h : i < l.length) :
    (mask stream l).getD i 0 = l.getD i 0 ^^^ stream i := by
  rw [List.getD_eq_getElem?_getD, List.getD_eq_getElem?_getD, getElem?_mask,
    List.getElem?_eq_getElem h]
  rfl

theorem mask_append (stream : Nat → UInt8) (l m : List UInt8) :
    mask stream (l ++ m) = mask stream l ++ mask (fun i => stream (i + l.length)) m :=
  List.mapIdx_append

/-- **Masking twice restores the text.** -/
@[simp] theorem mask_mask (stream : Nat → UInt8) (l : List UInt8) :
    mask stream (mask stream l) = l := by
  apply List.ext_getElem?
  intro i
  rw [getElem?_mask, getElem?_mask]
  cases l[i]? with
  | none => rfl
  | some b =>
    rw [Option.map_some, Option.map_some, UInt8.xor_assoc, UInt8.xor_self, UInt8.xor_zero]

/-- **A byte of the stream that is used twice** hides neither of the two texts from the other. -/
theorem mask_reuse {stream : Nat → UInt8} {i j : Nat} (h : stream i = stream j) {l : List UInt8}
    (hi : i < l.length) (hj : j < l.length) :
    (mask stream l).getD i 0 ^^^ (mask stream l).getD j 0 = l.getD i 0 ^^^ l.getD j 0 := by
  rw [getD_mask stream hi, getD_mask stream hj, h, UInt8.xor_assoc, UInt8.xor_comm (stream j),
    UInt8.xor_assoc, UInt8.xor_self, UInt8.xor_zero]

end StreamCipher
