import Mathlib.Data.List.Basic
import Mathlib.Tactic.Common

/-!
# JSON texts

A text is a sequence of bytes. `Denotes` gives the value that a text without insignificant white
space denotes; escapes in strings are the ones of two characters, and a number has no exponent. A
byte from 128 on is part of a character and stands for itself. Every such text is JSON.
-/

namespace Json

abbrev Text := List UInt8

inductive Value where
  | bool (b : Bool)
  /-- A number, as it is written. -/
  | number (literal : Text)
  | string (contents : Text)
  | array (items : List Value)
  | object (members : List (Text × Value))

/-! ## Strings and numbers -/

/-- The byte that a backslash and this byte stand for. -/
def escaped (b : UInt8) : Option UInt8 :=
  if b = 34 ∨ b = 92 ∨ b = 47 then some b
  else if b = 98 then some 8
  else if b = 102 then some 12
  else if b = 110 then some 10
  else if b = 114 then some 13
  else if b = 116 then some 9
  else none

/-- The string that the text between two quotes stands for. -/
def unescape : Text → Option Text
  | [] => some []
  | 92 :: b :: rest => (escaped b).bind fun c => (unescape rest).map (c :: ·)
  | b :: rest => if b < 32 ∨ b = 34 ∨ b = 92 then none else (unescape rest).map (b :: ·)

/-- The string can stand between quotes as it is. -/
def Plain (s : Text) : Prop := ∀ b ∈ s, 32 ≤ b ∧ b ≠ 34 ∧ b ≠ 92

instance (s : Text) : Decidable (Plain s) := inferInstanceAs (Decidable (∀ b ∈ s, _))

theorem Plain.append {s t : Text} (hs : Plain s) (ht : Plain t) : Plain (s ++ t) := by
  intro b hb
  rcases List.mem_append.mp hb with h | h
  · exact hs b h
  · exact ht b h

theorem unescape_plain {s : Text} (h : Plain s) : unescape s = some s := by
  induction s with
  | nil => rfl
  | cons b s ih =>
    obtain ⟨h32, h34, h92⟩ := h b List.mem_cons_self
    have hrest := ih fun c hc => h c (List.mem_cons_of_mem b hc)
    have hb : ¬ (b < 32 ∨ b = 34 ∨ b = 92) := by
      rintro (h | h | h)
      · exact absurd h32 (UInt8.not_le.mpr h)
      · exact h34 h
      · exact h92 h
    unfold unescape
    split
    · rename_i heq; exact absurd heq (List.cons_ne_nil _ _)
    · rename_i heq; exact absurd (List.cons.inj heq).1 h92
    · rename_i heq
      obtain ⟨rfl, rfl⟩ := List.cons.inj heq
      rw [if_neg hb, hrest, Option.map_some]

def IsDigit (b : UInt8) : Prop := 48 ≤ b ∧ b ≤ 57

/-- Digits without a leading zero, or a single zero. -/
structure IsNatural (s : Text) : Prop where
  ne_nil : s ≠ []
  digits : ∀ b ∈ s, IsDigit b
  no_leading_zero : s.head? = some 48 → s.length = 1

/-- An optional minus sign, a natural number, and digits behind a point if need be. -/
inductive IsNumber : Text → Prop where
  | natural {s : Text} : IsNatural s → IsNumber s
  | negative {s : Text} : IsNatural s → IsNumber (45 :: s)
  | fraction {s t : Text} : IsNatural s → t ≠ [] → (∀ b ∈ t, IsDigit b) → IsNumber (s ++ 46 :: t)
  | negativeFraction {s t : Text} :
      IsNatural s → t ≠ [] → (∀ b ∈ t, IsDigit b) → IsNumber (45 :: (s ++ 46 :: t))

/-! ## Values -/

def boolText : Bool → Text
  | true => [116, 114, 117, 101]
  | false => [102, 97, 108, 115, 101]

mutual

/-- The text denotes the value. -/
inductive Denotes : Text → Value → Prop where
  | bool (b : Bool) : Denotes (boolText b) (.bool b)
  | number {s : Text} : IsNumber s → Denotes s (.number s)
  | string {s t : Text} : unescape s = some t → Denotes (34 :: (s ++ [34])) (.string t)
  | array {s : Text} {vs : List Value} : DenotesItems s vs → Denotes (91 :: (s ++ [93])) (.array vs)
  | object {s : Text} {ms : List (Text × Value)} :
      DenotesMembers s ms → Denotes (123 :: (s ++ [125])) (.object ms)

/-- The values of an array, with commas between them. -/
inductive DenotesItems : Text → List Value → Prop where
  | nil : DenotesItems [] []
  | one {s : Text} {v : Value} : Denotes s v → DenotesItems s [v]
  | cons {s t : Text} {v w : Value} {vs : List Value} :
      Denotes s v → DenotesItems t (w :: vs) → DenotesItems (s ++ 44 :: t) (v :: w :: vs)

/-- The members of an object, with commas between them. -/
inductive DenotesMembers : Text → List (Text × Value) → Prop where
  | nil : DenotesMembers [] []
  | one {s t k : Text} {v : Value} :
      unescape s = some k → Denotes t v → DenotesMembers (34 :: (s ++ 34 :: 58 :: t)) [(k, v)]
  | cons {s t u k : Text} {v : Value} {m : Text × Value} {ms : List (Text × Value)} :
      unescape s = some k → Denotes t v → DenotesMembers u (m :: ms) →
      DenotesMembers (34 :: (s ++ 34 :: 58 :: (t ++ 44 :: u))) ((k, v) :: m :: ms)

end

/-! ## Printing -/

mutual

/-- The text of a value whose strings need no escapes. -/
def print : Value → Text
  | .bool b => boolText b
  | .number s => s
  | .string s => 34 :: (s ++ [34])
  | .array vs => 91 :: (printItems vs ++ [93])
  | .object ms => 123 :: (printMembers ms ++ [125])

def printItems : List Value → Text
  | [] => []
  | [v] => print v
  | v :: w :: vs => print v ++ 44 :: printItems (w :: vs)

def printMembers : List (Text × Value) → Text
  | [] => []
  | [(k, v)] => 34 :: (k ++ 34 :: 58 :: print v)
  | (k, v) :: m :: ms => 34 :: (k ++ 34 :: 58 :: (print v ++ 44 :: printMembers (m :: ms)))

end

mutual

/-- The strings and numbers in the value can be printed as they are. -/
inductive Printable : Value → Prop where
  | bool (b : Bool) : Printable (.bool b)
  | number {s : Text} : IsNumber s → Printable (.number s)
  | string {s : Text} : Plain s → Printable (.string s)
  | array {vs : List Value} : PrintableItems vs → Printable (.array vs)
  | object {ms : List (Text × Value)} : PrintableMembers ms → Printable (.object ms)

inductive PrintableItems : List Value → Prop where
  | nil : PrintableItems []
  | cons {v : Value} {vs : List Value} :
      Printable v → PrintableItems vs → PrintableItems (v :: vs)

inductive PrintableMembers : List (Text × Value) → Prop where
  | nil : PrintableMembers []
  | cons {k : Text} {v : Value} {ms : List (Text × Value)} :
      Plain k → Printable v → PrintableMembers ms → PrintableMembers ((k, v) :: ms)

end

theorem printableItems_iff {vs : List Value} : PrintableItems vs ↔ ∀ v ∈ vs, Printable v := by
  induction vs with
  | nil => exact ⟨fun _ v hv => (nomatch hv), fun _ => .nil⟩
  | cons v vs ih =>
    rw [List.forall_mem_cons, ← ih]
    constructor
    · rintro (_ | ⟨hv, hvs⟩)
      exact ⟨hv, hvs⟩
    · rintro ⟨hv, hvs⟩
      exact .cons hv hvs

mutual

/-- **What is printed denotes the value.** -/
theorem denotes_print {v : Value} (h : Printable v) : Denotes (print v) v := by
  cases h with
  | bool b => rw [print]; exact .bool b
  | number h => rw [print]; exact .number h
  | string h => rw [print]; exact .string (unescape_plain h)
  | array h => rw [print]; exact .array (denotesItems_print h)
  | object h => rw [print]; exact .object (denotesMembers_print h)

theorem denotesItems_print {vs : List Value} (h : PrintableItems vs) :
    DenotesItems (printItems vs) vs := by
  cases h with
  | nil => rw [printItems]; exact .nil
  | cons hv hvs =>
    have hrest := denotesItems_print hvs
    cases hvs with
    | nil => rw [printItems]; exact .one (denotes_print hv)
    | cons => rw [printItems]; exact .cons (denotes_print hv) hrest

theorem denotesMembers_print {ms : List (Text × Value)} (h : PrintableMembers ms) :
    DenotesMembers (printMembers ms) ms := by
  cases h with
  | nil => rw [printMembers]; exact .nil
  | cons hk hv hms =>
    have hrest := denotesMembers_print hms
    cases hms with
    | nil => rw [printMembers]; exact .one (unescape_plain hk) (denotes_print hv)
    | cons =>
      rw [printMembers]
      exact .cons (unescape_plain hk) (denotes_print hv) hrest

end

/-! ## How long a text has to be -/

theorem unescape_cons_of_ne {b : UInt8} (h : b ≠ 92) (rest : Text) :
    unescape (b :: rest) =
      if b < 32 ∨ b = 34 ∨ b = 92 then none else (unescape rest).map (b :: ·) := by
  rw [unescape]
  rintro b' rest' rfl
  exact absurd rfl h

/-- A text is no shorter than the string it stands for, and as long as it only without escapes. -/
theorem length_of_unescape {s t : Text} (h : unescape s = some t) :
    t.length ≤ s.length ∧ (s.length = t.length → Plain t) := by
  induction s using unescape.induct generalizing t with
  | case1 =>
    obtain rfl := Option.some.inj h
    exact ⟨Nat.le_refl _, fun _ b hb => absurd hb List.not_mem_nil⟩
  | case2 b rest ih =>
    rw [unescape, Option.bind_eq_some_iff] at h
    obtain ⟨c, -, h⟩ := h
    obtain ⟨t', ht', rfl⟩ := Option.map_eq_some_iff.mp h
    have hle := (ih ht').1
    simp only [List.length_cons]
    exact ⟨by omega, fun hlen => absurd hlen (by omega)⟩
  | case3 b rest hesc hbad =>
    rw [unescape, if_pos hbad] at h
    · cases h
    · exact hesc
  | case4 b rest hesc hgood ih =>
    rw [unescape, if_neg hgood] at h
    · obtain ⟨t', ht', rfl⟩ := Option.map_eq_some_iff.mp h
      obtain ⟨hle, hplain⟩ := ih ht'
      simp only [List.length_cons]
      refine ⟨by omega, ?_⟩
      intro hlen c hc
      rcases List.mem_cons.mp hc with rfl | hc
      · rw [not_or, not_or] at hgood
        exact ⟨UInt8.not_lt.mp hgood.1, hgood.2⟩
      · exact hplain (by omega) c hc
    · exact hesc

mutual

/-- **A text is no shorter than the printed value that it denotes**, and as long as it only when the
value needs no escapes. -/
theorem length_print_le {t : Text} {v : Value} (h : Denotes t v) :
    (print v).length ≤ t.length ∧ (t.length = (print v).length → Printable v) := by
  cases h with
  | bool b => rw [print]; exact ⟨Nat.le_refl _, fun _ => .bool b⟩
  | number h => rw [print]; exact ⟨Nat.le_refl _, fun _ => .number h⟩
  | string h =>
    obtain ⟨hle, hplain⟩ := length_of_unescape h
    simp only [print, List.length_cons, List.length_append, List.length_nil]
    exact ⟨by omega, fun hlen => .string (hplain (by omega))⟩
  | array h =>
    obtain ⟨hle, hprintable⟩ := length_printItems_le h
    simp only [print, List.length_cons, List.length_append, List.length_nil]
    exact ⟨by omega, fun hlen => .array (hprintable (by omega))⟩
  | object h =>
    obtain ⟨hle, hprintable⟩ := length_printMembers_le h
    simp only [print, List.length_cons, List.length_append, List.length_nil]
    exact ⟨by omega, fun hlen => .object (hprintable (by omega))⟩

theorem length_printItems_le {t : Text} {vs : List Value} (h : DenotesItems t vs) :
    (printItems vs).length ≤ t.length ∧
      (t.length = (printItems vs).length → PrintableItems vs) := by
  cases h with
  | nil => rw [printItems]; exact ⟨Nat.le_refl _, fun _ => .nil⟩
  | one h =>
    obtain ⟨hle, hprintable⟩ := length_print_le h
    rw [printItems]
    exact ⟨hle, fun hlen => .cons (hprintable hlen) .nil⟩
  | cons h hs =>
    obtain ⟨hle, hprintable⟩ := length_print_le h
    obtain ⟨hles, hprintables⟩ := length_printItems_le hs
    simp only [printItems, List.length_cons, List.length_append]
    exact ⟨by omega, fun hlen => .cons (hprintable (by omega)) (hprintables (by omega))⟩

theorem length_printMembers_le {t : Text} {ms : List (Text × Value)} (h : DenotesMembers t ms) :
    (printMembers ms).length ≤ t.length ∧
      (t.length = (printMembers ms).length → PrintableMembers ms) := by
  cases h with
  | nil => rw [printMembers]; exact ⟨Nat.le_refl _, fun _ => .nil⟩
  | one hk hv =>
    obtain ⟨hlek, hplain⟩ := length_of_unescape hk
    obtain ⟨hle, hprintable⟩ := length_print_le hv
    simp only [printMembers, List.length_cons, List.length_append]
    exact ⟨by omega, fun hlen => .cons (hplain (by omega)) (hprintable (by omega)) .nil⟩
  | cons hk hv hms =>
    obtain ⟨hlek, hplain⟩ := length_of_unescape hk
    obtain ⟨hle, hprintable⟩ := length_print_le hv
    obtain ⟨hles, hprintables⟩ := length_printMembers_le hms
    simp only [printMembers, List.length_cons, List.length_append]
    exact ⟨by omega, fun hlen =>
      .cons (hplain (by omega)) (hprintable (by omega)) (hprintables (by omega))⟩

end

/-! ## Reading a member -/

/-- A quote that is not escaped ends a string: a text has one string at its front. -/
theorem eq_of_quote {u t r r' : Text} {k : Text} (hu : unescape u = some k) (ht : Plain t)
    (h : u ++ 34 :: r = t ++ 34 :: r') : u = t ∧ r = r' := by
  induction t generalizing u k with
  | nil =>
    rcases u with _ | ⟨b, u⟩
    · exact ⟨rfl, (List.cons.inj h).2⟩
    · obtain rfl := (List.cons.inj h).1
      rw [unescape_cons_of_ne (by decide), if_pos (Or.inr (Or.inl rfl))] at hu
      cases hu
  | cons c t ih =>
    obtain ⟨-, h34, h92⟩ := ht c List.mem_cons_self
    rcases u with _ | ⟨b, u⟩
    · exact absurd (List.cons.inj h).1.symm h34
    · obtain ⟨rfl, hrest⟩ := List.cons.inj h
      rw [unescape_cons_of_ne h92] at hu
      split at hu
      · cases hu
      · obtain ⟨k', hk', -⟩ := Option.map_eq_some_iff.mp hu
        obtain ⟨rfl, rfl⟩ := ih hk' (fun x hx => ht x (List.mem_cons_of_mem _ hx)) hrest
        exact ⟨rfl, rfl⟩

/-- **The second member of an object**, if the first two are strings that need no escapes. -/
theorem Denotes.second_string {x a b c d r k₁ k₂ v₁ v₂ : Text} {m : Text × Value}
    {ms : List (Text × Value)}
    (h : Denotes x (.object ((k₁, .string v₁) :: (k₂, .string v₂) :: m :: ms)))
    (hx : x = 123 :: 34 :: (a ++ 34 :: 58 :: 34 :: (b ++ 34 :: 44 :: 34 :: (c ++ 34 :: 58 :: 34 ::
      (d ++ 34 :: r)))))
    (ha : Plain a) (hb : Plain b) (hc : Plain c) (hd : Plain d) : v₂ = d := by
  cases h with
  | object hms =>
    cases hms with
    | cons hk₁ hv₁ hrest =>
      cases hv₁ with
      | string hs₁ =>
        cases hrest with
        | cons hk₂ hv₂ hrest =>
          cases hv₂ with
          | string hs₂ =>
            simp only [List.append_assoc, List.cons_append, List.nil_append, List.cons.injEq,
              true_and] at hx
            obtain ⟨rfl, h₁⟩ := eq_of_quote hk₁ ha hx
            simp only [List.cons.injEq, true_and] at h₁
            obtain ⟨rfl, h₂⟩ := eq_of_quote hs₁ hb h₁
            simp only [List.cons.injEq, true_and] at h₂
            obtain ⟨rfl, h₃⟩ := eq_of_quote hk₂ hc h₂
            simp only [List.cons.injEq, true_and] at h₃
            obtain ⟨rfl, -⟩ := eq_of_quote hs₂ hd h₃
            exact (Option.some.inj ((unescape_plain hd).symm.trans hs₂)).symm

end Json
