import CspTerm.Lib.Run
import Mathlib.Data.Finset.Card
import Mathlib.Data.Fintype.EquivFin
import Mathlib.Logic.Function.Basic

/-!
# Sessions in a table

Inputs belong to sessions by their keys. What a session does with an input is up to the session
alone: `run` gives the session after the input, if there still is one, and what comes of it. The
sessions that are under way are kept in a table of `n` slots; an input that opens a session needs a
free slot, other inputs without a session are dropped.

If there is room whenever a session is opened (`Fits`), the table does for each key what a table of
its own would do (`outputs_of_key`).
-/

namespace Demux

variable {κ σ α β : Type*} [DecidableEq κ] {n : Nat}

/-- What is known of the sessions: their keys and those of the inputs, the inputs that open a
session, and what an input does with its session. -/
structure Sessions (κ σ α β : Type*) where
  keyOf : σ → κ
  inputKey : α → κ
  opens : α → Bool
  run : Option σ → α → Option σ × Option β
  /-- A session keeps its key, and gets it from the input that opens it. -/
  run_key : ∀ s a s', (∀ t, s = some t → keyOf t = inputKey a) → (run s a).1 = some s' →
    keyOf s' = inputKey a
  /-- Without a session, nothing comes of an input that does not open one. -/
  run_none : ∀ a, opens a = false → run none a = (none, none)

variable (M : Sessions κ σ α β)

/-! ## The table -/

def find (t : Fin n → Option σ) (k : κ) : Option (Fin n) :=
  (List.finRange n).find? fun i => (t i).any fun s => M.keyOf s == k

def free (t : Fin n → Option σ) : Option (Fin n) := (List.finRange n).find? fun i => (t i).isNone

def step (t : Fin n → Option σ) (a : α) : (Fin n → Option σ) × Option β :=
  match find M t (M.inputKey a) with
  | some i => (Function.update t i (M.run (t i) a).1, (M.run (t i) a).2)
  | none =>
    if M.opens a then
      match free t with
      | some i => (Function.update t i (M.run none a).1, (M.run none a).2)
      | none => (t, none)
    else (t, none)

/-- Inputs one after the other, with the key of each output. -/
def outputs (t : Fin n → Option σ) : List α → List (κ × β)
  | [] => []
  | a :: as => ((step M t a).2.map (M.inputKey a, ·)).toList ++ outputs (step M t a).1 as

/-! ## A table without bounds -/

def idealStep (f : κ → Option σ) (a : α) : κ → Option σ :=
  Function.update f (M.inputKey a) (M.run (f (M.inputKey a)) a).1

/-- There is room for the input: it has a session or opens none, or there are less than `n`. -/
def Fits (n : Nat) (f : κ → Option σ) (a : α) : Prop :=
  (f (M.inputKey a)).isSome = true ∨ M.opens a = false ∨
    ∃ S : Finset κ, S.card < n ∧ ∀ k, (f k).isSome = true → k ∈ S

/-- What one session makes of its inputs. -/
def solo (s : Option σ) : List α → List β
  | [] => []
  | a :: as => (M.run s a).2.toList ++ solo (M.run s a).1 as

/-- No two slots have sessions of one key. -/
def Distinct (t : Fin n → Option σ) : Prop :=
  ∀ i j s u, t i = some s → t j = some u → M.keyOf s = M.keyOf u → i = j

/-- The table holds the sessions of `f`, each in one slot. -/
structure Holds (t : Fin n → Option σ) (f : κ → Option σ) : Prop where
  slot : ∀ i s, t i = some s → f (M.keyOf s) = some s
  key : ∀ k s, f k = some s → M.keyOf s = k ∧ ∃ i, t i = some s
  unique : Distinct M t

variable {M}

theorem find_eq_some {t : Fin n → Option σ} {k : κ} {i : Fin n} (h : find M t k = some i) :
    ∃ s, t i = some s ∧ M.keyOf s = k := by
  have hi := List.find?_some h
  rw [Option.any_eq_true] at hi
  obtain ⟨s, hs, hk⟩ := hi
  exact ⟨s, hs, by simpa using hk⟩

theorem find_eq_none {t : Fin n → Option σ} {k : κ} (h : find M t k = none) {i : Fin n} {s : σ}
    (hs : t i = some s) : M.keyOf s ≠ k := by
  have hi := List.find?_eq_none.mp h i (List.mem_finRange i)
  rw [hs] at hi
  simpa using hi

theorem free_eq_some {t : Fin n → Option σ} {i : Fin n} (h : free t = some i) : t i = none := by
  simpa using List.find?_some h

/-- A table with less than `n` sessions has a free slot. -/
theorem exists_free {t : Fin n → Option σ} {f : κ → Option σ} (ht : Holds M t f) {S : Finset κ}
    (hcard : S.card < n) (hS : ∀ k, (f k).isSome = true → k ∈ S) : ∃ i, free t = some i := by
  by_contra hnone
  have hfull : ∀ i, ∃ s, t i = some s := by
    intro i
    cases hi : t i with
    | some s => exact ⟨s, rfl⟩
    | none =>
      have hfree := Option.eq_none_iff_forall_ne_some.mpr fun j hj => hnone ⟨j, hj⟩
      have := List.find?_eq_none.mp hfree i (List.mem_finRange i)
      simp [hi] at this
  choose s hs using hfull
  have hinj : Function.Injective fun i => M.keyOf (s i) := fun i j h => ht.unique i j _ _ (hs i) (hs j) h
  have hsub : Finset.univ.image (fun i => M.keyOf (s i)) ⊆ S := by
    intro k hk
    obtain ⟨i, -, rfl⟩ := Finset.mem_image.mp hk
    exact hS _ (by rw [ht.slot i _ (hs i)]; rfl)
  have hle := Finset.card_le_card hsub
  rw [Finset.card_image_of_injective _ hinj, Finset.card_univ, Fintype.card_fin] at hle
  omega

omit [DecidableEq κ] in
/-- A slot may get a session of a key that no other slot has. -/
theorem Distinct.update {t : Fin n → Option σ} (ht : Distinct M t) {i : Fin n} {k : κ}
    {o : Option σ} (hother : ∀ j s, j ≠ i → t j = some s → M.keyOf s ≠ k)
    (ho : ∀ s, o = some s → M.keyOf s = k) : Distinct M (Function.update t i o) := by
  intro j j' s u hs hu hsu
  by_cases hj : j = i <;> by_cases hj' : j' = i
  · rw [hj, hj']
  · subst hj
    rw [Function.update_self] at hs
    rw [Function.update_of_ne hj'] at hu
    exact absurd (hsu.symm.trans (ho s hs)) (hother j' u hj' hu)
  · subst hj'
    rw [Function.update_of_ne hj] at hs
    rw [Function.update_self] at hu
    exact absurd (hsu.trans (ho u hu)) (hother j s hj hs)
  · rw [Function.update_of_ne hj] at hs
    rw [Function.update_of_ne hj'] at hu
    exact ht j j' s u hs hu hsu

/-- Replacing the session of a key in its slot, or putting a new one into a free slot. -/
theorem Holds.update {t : Fin n → Option σ} {f : κ → Option σ} (ht : Holds M t f) {i : Fin n}
    {k : κ} (hi : (∃ s, t i = some s ∧ M.keyOf s = k) ∨ (t i = none ∧ f k = none)) {o : Option σ}
    (ho : ∀ s, o = some s → M.keyOf s = k) :
    Holds M (Function.update t i o) (Function.update f k o) := by
  have hother : ∀ j s, j ≠ i → t j = some s → M.keyOf s ≠ k := by
    intro j s hj hs hk
    rcases hi with ⟨u, hu, huk⟩ | ⟨-, hnone⟩
    · exact hj (ht.unique j i s u hs hu (hk.trans huk.symm))
    · have := ht.slot j s hs
      rw [hk, hnone] at this
      cases this
  refine ⟨?_, ?_, ht.unique.update hother ho⟩
  · intro j s hs
    by_cases hj : j = i
    · subst hj
      rw [Function.update_self] at hs
      rw [ho s hs, Function.update_self, hs]
    · rw [Function.update_of_ne hj] at hs
      rw [Function.update_of_ne (hother j s hj hs)]
      exact ht.slot j s hs
  · intro k' s hs
    by_cases hk : k' = k
    · subst hk
      rw [Function.update_self] at hs
      exact ⟨ho s hs, i, by rw [Function.update_self]; exact hs⟩
    · rw [Function.update_of_ne hk] at hs
      obtain ⟨hkey, j, hj⟩ := ht.key k' s hs
      refine ⟨hkey, j, ?_⟩
      rw [Function.update_of_ne]
      · exact hj
      · rintro rfl
        rcases hi with ⟨u, hu, huk⟩ | ⟨hnone, -⟩
        · obtain rfl := Option.some.inj (hj.symm.trans hu)
          exact hk (hkey.symm.trans huk)
        · rw [hj] at hnone
          cases hnone

/-- **One input**: with room for it, the table does what a table without bounds does. -/
theorem Holds.step {t : Fin n → Option σ} {f : κ → Option σ} (ht : Holds M t f) {a : α}
    (hfits : Fits M n f a) :
    Holds M (step M t a).1 (idealStep M f a) ∧ (step M t a).2 = (M.run (f (M.inputKey a)) a).2 := by
  unfold Demux.step idealStep
  cases hfind : find M t (M.inputKey a) with
  | some i =>
    obtain ⟨s, hs, hk⟩ := find_eq_some hfind
    have hf : f (M.inputKey a) = some s := by rw [← hk]; exact ht.slot i s hs
    simp only [hs, hf]
    refine ⟨ht.update (.inl ⟨s, hs, hk⟩) ?_, trivial⟩
    intro s' hs'
    refine M.run_key _ a s' ?_ hs'
    intro u hu
    obtain rfl := Option.some.inj hu
    exact hk
  | none =>
    have hf : f (M.inputKey a) = none := by
      cases h : f (M.inputKey a) with
      | none => rfl
      | some s =>
        obtain ⟨hk, i, hi⟩ := ht.key _ s h
        exact absurd hk (find_eq_none hfind hi)
    have hnew : ∀ s', (M.run none a).1 = some s' → M.keyOf s' = M.inputKey a :=
      fun s' => M.run_key none a s' fun u hu => nomatch hu
    cases hopens : M.opens a with
    | true =>
      obtain ⟨S, hcard, hS⟩ : ∃ S : Finset κ, S.card < n ∧ ∀ k, (f k).isSome = true → k ∈ S := by
        rcases hfits with h | h | h
        · rw [hf] at h; cases h
        · rw [hopens] at h; cases h
        · exact h
      obtain ⟨i, hi⟩ := exists_free ht hcard hS
      simp only [if_true, hi, hf]
      exact ⟨ht.update (.inr ⟨free_eq_some hi, hf⟩) hnew, trivial⟩
    | false =>
      have hstay : Function.update f (M.inputKey a) (none : Option σ) = f := by
        rw [← hf, Function.update_eq_self]
      simp only [Bool.false_eq_true, if_false, hf, M.run_none a hopens, hstay]
      exact ⟨ht, trivial⟩

/-- Outputs of one key, from a table without bounds. -/
theorem solo_eq_of_holds {t : Fin n → Option σ} {f : κ → Option σ} (ht : Holds M t f) {as : List α}
    (hfits : Run.Guarded (idealStep M) (Fits M n) f as) (k : κ) :
    ((outputs M t as).filter fun o => o.1 = k).map Prod.snd
      = solo M (f k) (as.filter fun a => M.inputKey a = k) := by
  induction as generalizing t f with
  | nil => rfl
  | cons a as ih =>
    obtain ⟨hstep, hout⟩ := ht.step hfits.1
    have hrest := ih hstep hfits.2
    rw [outputs, List.filter_append, List.map_append, hrest, hout, idealStep, List.filter_cons]
    by_cases hk : M.inputKey a = k
    · subst hk
      rw [Function.update_self]
      cases h : (M.run (f (M.inputKey a)) a).2 <;> simp [solo, h]
    · rw [Function.update_of_ne (Ne.symm hk)]
      cases h : (M.run (f (M.inputKey a)) a).2 <;> simp [hk]

/-- **Sessions do not disturb each other.** If there is room for each input, then what comes of the
inputs of one key is what would come of them alone. -/
theorem outputs_of_key {as : List α}
    (hfits : Run.Guarded (idealStep M) (Fits M n) (fun _ => none) as) (k : κ) :
    ((outputs M (fun _ : Fin n => none) as).filter fun o => o.1 = k).map Prod.snd
      = solo M none (as.filter fun a => M.inputKey a = k) :=
  solo_eq_of_holds ⟨nofun, nofun, nofun⟩ hfits k

/-- Inputs of at most `n` keys always find room. -/
theorem guarded_fits {as : List α} {S : Finset κ} {f : κ → Option σ} (hcard : S.card ≤ n)
    (has : ∀ a ∈ as, M.inputKey a ∈ S) (hf : ∀ k, (f k).isSome = true → k ∈ S) :
    Run.Guarded (idealStep M) (Fits M n) f as := by
  induction as generalizing f with
  | nil => trivial
  | cons a as ih =>
    obtain ⟨ha, has⟩ := List.forall_mem_cons.mp has
    refine ⟨?_, ih has fun k hk => ?_⟩
    · by_cases hsome : (f (M.inputKey a)).isSome = true
      · exact .inl hsome
      · refine .inr (.inr ⟨S.erase (M.inputKey a), ?_, fun k hk => ?_⟩)
        · exact (Finset.card_erase_lt_of_mem ha).trans_le hcard
        · refine Finset.mem_erase.mpr ⟨?_, hf k hk⟩
          rintro rfl
          exact hsome hk
    · by_cases hkey : k = M.inputKey a
      · exact hkey ▸ ha
      · rw [idealStep, Function.update_of_ne hkey] at hk
        exact hf k hk

/-! ## What every session has -/

/-- An input changes nothing, or one slot: that of its session, or a free one if it has none. -/
theorem step_cases (t : Fin n → Option σ) (a : α) :
    step M t a = (t, none) ∨
      ∃ i o, step M t a = (Function.update t i (M.run o a).1, (M.run o a).2) ∧ t i = o ∧
        (∀ s, o = some s → M.keyOf s = M.inputKey a) ∧
        (o = none → ∀ j s, t j = some s → M.keyOf s ≠ M.inputKey a) := by
  unfold step
  cases hfind : find M t (M.inputKey a) with
  | some i =>
    obtain ⟨s, hs, hk⟩ := find_eq_some hfind
    refine .inr ⟨i, t i, rfl, rfl, ?_, ?_⟩
    · intro u hu
      obtain rfl := Option.some.inj (hs.symm.trans hu)
      exact hk
    · intro hnone
      rw [hs] at hnone
      cases hnone
  | none =>
    cases hopens : M.opens a with
    | false => exact .inl rfl
    | true =>
      cases hfree : free t with
      | none => exact .inl rfl
      | some i =>
        exact .inr ⟨i, none, rfl, free_eq_some hfree, nofun, fun _ _ _ hj => find_eq_none hfind hj⟩

theorem Distinct.step {t : Fin n → Option σ} (ht : Distinct M t) (a : α) :
    Distinct M (step M t a).1 := by
  obtain hsame | ⟨i, o, hstep, hi, hkey, hnone⟩ := step_cases (M := M) t a
  · rw [hsame]
    exact ht
  have hnew : ∀ s, (M.run o a).1 = some s → M.keyOf s = M.inputKey a :=
    fun s => M.run_key o a s hkey
  have hother : ∀ j s, j ≠ i → t j = some s → M.keyOf s ≠ M.inputKey a := by
    intro j s hj hs
    cases o with
    | none => exact hnone rfl j s hs
    | some u => exact fun hk => hj (ht j i s u hs hi (hk.trans (hkey u rfl).symm))
  rw [hstep]
  exact ht.update hother hnew

/-- What an input keeps of its session, it keeps of all. -/
theorem step_forall {t : Fin n → Option σ} {a : α} {P : σ → Prop} {Q : β → Prop}
    (ht : ∀ i s, t i = some s → P s)
    (hrun : ∀ o, (∀ s, o = some s → P s ∧ M.keyOf s = M.inputKey a) →
      (∀ s, (M.run o a).1 = some s → P s) ∧ ∀ b, (M.run o a).2 = some b → Q b) :
    (∀ i s, (step M t a).1 i = some s → P s) ∧ ∀ b, (step M t a).2 = some b → Q b := by
  obtain hsame | ⟨i, o, hstep, hi, hkey, -⟩ := step_cases (M := M) t a
  · rw [hsame]
    exact ⟨ht, nofun⟩
  obtain ⟨hP, hQ⟩ := hrun o fun s hs => ⟨ht i s (hi.trans hs), hkey s hs⟩
  rw [hstep]
  refine ⟨?_, hQ⟩
  intro j s hs
  by_cases hj : j = i
  · subst hj
    exact hP s (by simpa using hs)
  · exact ht j s (by simpa [hj] using hs)

end Demux
