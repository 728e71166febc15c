import CspTerm.Lib.Run
import Mathlib.Data.Finset.Option

/-!
# Open descriptors

A trace of the operations of a call on files, where a failed opening gives no descriptor. `after`
follows the set of open descriptors through it. What a call opens the kernel takes from the
descriptors that are not in use, which is `Unused`; what a call works on and closes must be open
files, which is `Sound`.
-/

namespace Descriptors

/-- An operation on files. An opening carries its result, the others what they are applied to. -/
inductive FileOp (F : Type*) where
  | opened (f : Option F)
  | used (f : Option F)
  | closed (f : Option F)
deriving DecidableEq, Repr

variable {F : Type*}

/-- The operation is not applied to the result of a failed opening. -/
def FileOp.OnFile : FileOp F → Prop
  | .opened _ => True
  | .used f | .closed f => f.isSome

def Sound (ops : List (FileOp F)) : Prop := ∀ op ∈ ops, op.OnFile

@[simp] theorem sound_nil : Sound ([] : List (FileOp F)) := fun _ h => absurd h List.not_mem_nil

@[simp] theorem sound_append {ops ops' : List (FileOp F)} :
    Sound (ops ++ ops') ↔ Sound ops ∧ Sound ops' := List.forall_mem_append

variable [DecidableEq F]

def FileOp.apply (t : Finset F) : FileOp F → Finset F
  | .opened f => t ∪ f.toFinset
  | .used _ => t
  | .closed f => t \ f.toFinset

/-- The open descriptors after the trace. -/
def after (t : Finset F) (ops : List (FileOp F)) : Finset F := ops.foldl FileOp.apply t

/-- What is opened was not open before. -/
def FileOp.Fresh (t : Finset F) (op : FileOp F) : Prop := ∀ f, op = .opened (some f) → f ∉ t

def Unused (t : Finset F) (ops : List (FileOp F)) : Prop :=
  Run.Guarded FileOp.apply FileOp.Fresh t ops

@[simp] theorem after_nil (t : Finset F) : after t [] = t := rfl

theorem after_append (t : Finset F) (ops ops' : List (FileOp F)) :
    after t (ops ++ ops') = after (after t ops) ops' := List.foldl_append

theorem unused_append {t : Finset F} {ops ops' : List (FileOp F)} :
    Unused t (ops ++ ops') ↔ Unused t ops ∧ Unused (after t ops) ops' := Run.guarded_append

/-! ## Opening, working and closing -/

/-- A file is opened, worked on and closed again, or its opening fails and nothing more is done. -/
def session : Option F → List (FileOp F)
  | none => [.opened none]
  | some f => [.opened (some f), .used (some f), .closed (some f)]

omit [DecidableEq F] in
theorem sound_session (f : Option F) : Sound (session f) := by
  cases f <;> simp [session, Sound, FileOp.OnFile]

/-- A session leaves the open descriptors as they were. -/
theorem after_session {t : Finset F} {f : Option F} (h : Unused t (session f)) :
    after t (session f) = t := by
  rcases f with _ | f
  · exact Finset.union_empty t
  · have hf : f ∉ t := h.1 f rfl
    show (t ∪ {f}) \ {f} = t
    exact Finset.union_sdiff_cancel_right (Finset.disjoint_singleton_right.mpr hf)

/-- What is open and not closed stays open. -/
theorem mem_after {t : Finset F} {f : F} {ops : List (FileOp F)} (hf : f ∈ t)
    (h : .closed (some f) ∉ ops) : f ∈ after t ops := by
  induction ops generalizing t with
  | nil => exact hf
  | cons op ops ih =>
    refine ih ?_ fun hmem => h (List.mem_cons_of_mem op hmem)
    cases op with
    | opened g => exact Finset.mem_union_left _ hf
    | used g => exact hf
    | closed g =>
      refine Finset.mem_sdiff.mpr ⟨hf, ?_⟩
      intro hg
      have hg' : g = some f := Option.mem_toFinset.mp hg
      exact h (List.mem_cons.mpr (Or.inl (by rw [hg'])))

/-- A descriptor that is opened and not closed is one more. -/
theorem after_leaked {t : Finset F} {f : F} {ops : List (FileOp F)}
    (h : Unused t (.opened (some f) :: ops)) (hc : .closed (some f) ∉ ops) :
    after t (.opened (some f) :: ops) ≠ t := by
  intro heq
  have hmem : f ∈ after (t ∪ {f}) ops :=
    mem_after (Finset.mem_union_right t (Finset.mem_singleton_self f)) hc
  have hsame : after (t ∪ {f}) ops = t := heq
  rw [hsame] at hmem
  exact h.1 f rfl hmem

end Descriptors
