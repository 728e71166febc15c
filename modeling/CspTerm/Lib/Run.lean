import Mathlib.Data.List.Infix
import Mathlib.Tactic.Common

/-!
# Runs of labelled machines

A machine is a step function on states, driven by a list of labels. A label resolves every choice
of the step (which call is made, what its callees answer, what arrives from outside), so a run is
determined by its start and its labels, and "for every run" is "for every list of labels".

An invariant need only be preserved by the steps that meet a guard, provided the run is guarded.
-/

namespace Run

variable {σ α : Type*}

/-- Every step of the run from `s` meets `P`, which sees the state before the step. -/
def Guarded (step : σ → α → σ) (P : σ → α → Prop) : σ → List α → Prop
  | _, [] => True
  | s, a :: as => P s a ∧ Guarded step P (step s a) as

instance decidableGuarded {step : σ → α → σ} {P : σ → α → Prop} [∀ s a, Decidable (P s a)] :
    (s : σ) → (as : List α) → Decidable (Guarded step P s as)
  | _, [] => .isTrue trivial
  | s, a :: as =>
    have : Decidable (Guarded step P (step s a) as) := decidableGuarded (step s a) as
    inferInstanceAs (Decidable (P s a ∧ Guarded step P (step s a) as))

theorem guarded_of_forall {step : σ → α → σ} {P : σ → α → Prop} (h : ∀ s a, P s a) {s : σ}
    {as : List α} : Guarded step P s as := by
  induction as generalizing s with
  | nil => trivial
  | cons a as ih => exact ⟨h s a, ih⟩

/-- A guard that does not look at the state is one on the labels. -/
theorem guarded_const_iff {step : σ → α → σ} {Q : α → Prop} {s : σ} {as : List α} :
    Guarded step (fun _ a => Q a) s as ↔ ∀ a ∈ as, Q a := by
  induction as generalizing s with
  | nil => simp [Guarded]
  | cons a as ih => rw [Guarded, ih, List.forall_mem_cons]

theorem Guarded.mono {step : σ → α → σ} {P Q : σ → α → Prop} (h : ∀ s a, P s a → Q s a) {s : σ}
    {as : List α} (hg : Guarded step P s as) : Guarded step Q s as := by
  induction as generalizing s with
  | nil => trivial
  | cons a as ih => exact ⟨h s a hg.1, ih hg.2⟩

theorem Guarded.and_forall_mem {step : σ → α → σ} {P : σ → α → Prop} {Q : α → Prop} {s : σ}
    {as : List α} (hg : Guarded step P s as) (hQ : ∀ a ∈ as, Q a) :
    Guarded step (fun s a => P s a ∧ Q a) s as := by
  induction as generalizing s with
  | nil => trivial
  | cons a as ih =>
    exact ⟨⟨hg.1, hQ a List.mem_cons_self⟩, ih hg.2 fun b hb => hQ b (List.mem_cons_of_mem a hb)⟩

theorem Guarded.initial {step : σ → α → σ} {P : σ → α → Prop} {s : σ} {pre as : List α}
    (hp : pre <+: as) (hg : Guarded step P s as) : Guarded step P s pre := by
  induction as generalizing s pre with
  | nil => rw [List.prefix_nil.mp hp]; trivial
  | cons a as ih =>
    rcases pre with _ | ⟨b, pre⟩
    · trivial
    · obtain ⟨rfl, hp'⟩ := List.cons_prefix_cons.mp hp
      exact ⟨hg.1, ih hp' hg.2⟩

theorem guarded_append {step : σ → α → σ} {P : σ → α → Prop} {s : σ} {as bs : List α} :
    Guarded step P s (as ++ bs) ↔ Guarded step P s as ∧ Guarded step P (as.foldl step s) bs := by
  induction as generalizing s with
  | nil => simp [Guarded]
  | cons a as ih => rw [List.cons_append, Guarded, ih, ← and_assoc]; rfl

/-- With an invariant, what one guarded step does, every step of a guarded run does. -/
theorem Guarded.of_inv {step : σ → α → σ} {P Q : σ → α → Prop} {I : σ → Prop}
    (hstep : ∀ s a, I s → P s a → I (step s a)) (h : ∀ s a, I s → P s a → Q s a) {s : σ}
    {as : List α} (hs : I s) (hg : Guarded step P s as) : Guarded step Q s as := by
  induction as generalizing s with
  | nil => trivial
  | cons a as ih => exact ⟨h s a hs hg.1, ih (hstep s a hs hg.1) hg.2⟩

/-- A guard on the states of a machine is one on those of a machine that carries more with it. -/
theorem Guarded.lift {τ : Type*} {step : σ → α → σ} {step' : τ → α → τ} {P : σ → α → Prop}
    {f : τ → σ} (hf : ∀ t a, f (step' t a) = step (f t) a) {t : τ} {as : List α}
    (hg : Guarded step P (f t) as) : Guarded step' (fun t a => P (f t) a) t as := by
  induction as generalizing t with
  | nil => trivial
  | cons a as ih => exact ⟨hg.1, ih (by rw [hf]; exact hg.2)⟩

/-- An invariant of the guarded steps holds at the end of every guarded run. -/
theorem foldl_inv {step : σ → α → σ} {P : σ → α → Prop} {I : σ → Prop}
    (hstep : ∀ s a, I s → P s a → I (step s a)) {s : σ} {as : List α} (hs : I s)
    (hg : Guarded step P s as) : I (as.foldl step s) := by
  induction as generalizing s with
  | nil => exact hs
  | cons a as ih => exact ih (hstep s a hs hg.1) hg.2

/-- A machine whose steps can fail, and that simulates each guarded step of another one, simulates its
guarded runs, and does not fail in them. -/
theorem foldlM_refines {τ : Type*} {step : σ → α → σ} {step' : τ → α → Option τ}
    {P : σ → α → Prop} {R : τ → σ → Prop}
    (hstep : ∀ t s a, R t s → P s a → ∃ t', step' t a = some t' ∧ R t' (step s a)) {t : τ} {s : σ}
    {as : List α} (ht : R t s) (hg : Guarded step P s as) :
    ∃ t', as.foldlM step' t = some t' ∧ R t' (as.foldl step s) := by
  induction as generalizing t s with
  | nil => exact ⟨t, rfl, ht⟩
  | cons a as ih =>
    obtain ⟨t', hcall, ht'⟩ := hstep t s a ht hg.1
    obtain ⟨last, hrun, hlast⟩ := ih ht' hg.2
    refine ⟨last, ?_, hlast⟩
    rw [List.foldlM_cons, hcall]
    exact hrun

/-- **When a guard is exact.** Let the labels be admissible (`A`), and let `J` be an auxiliary
invariant. If from a state with `I` and `J` a step keeps `I` exactly when it meets `P`, then `I`
holds in every state of the run exactly when every step of the run meets `P`. -/
theorem forall_prefix_iff {step : σ → α → σ} {A P : σ → α → Prop} {I J : σ → Prop}
    (hI : ∀ s a, I s → J s → A s a → (I (step s a) ↔ P s a))
    (hJ : ∀ s a, I s → J s → A s a → I (step s a) → J (step s a))
    {s : σ} {as : List α} (hs : I s) (hj : J s) (hA : Guarded step A s as) :
    (∀ pre, pre <+: as → I (pre.foldl step s)) ↔ Guarded step P s as := by
  induction as generalizing s with
  | nil =>
    refine ⟨fun _ => trivial, ?_⟩
    intro _ pre hpre
    rw [List.prefix_nil.mp hpre]
    exact hs
  | cons a as ih =>
    constructor
    · intro h
      have h1 : I (step s a) := h [a] ⟨as, rfl⟩
      refine ⟨(hI s a hs hj hA.1).mp h1, (ih h1 (hJ s a hs hj hA.1 h1) hA.2).mp ?_⟩
      intro pre hpre
      exact h (a :: pre) (List.cons_prefix_cons.mpr ⟨rfl, hpre⟩)
    · rintro ⟨hP, hg⟩ pre hpre
      have h1 : I (step s a) := (hI s a hs hj hA.1).mpr hP
      rcases pre with _ | ⟨b, pre⟩
      · exact hs
      · obtain ⟨rfl, hpre'⟩ := List.cons_prefix_cons.mp hpre
        exact (ih h1 (hJ s b hs hj hA.1 h1) hA.2).mpr hg pre hpre'

end Run
