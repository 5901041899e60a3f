import Mathlib.Data.List.Basic
import Mathlib.Logic.Relation

/-!
# Runs of a state machine

Rules for machines that are stepped from outside. A machine that answers every step is compared
with the list of the answers it still owes (`outputs_eq_of_owes`). A machine that is stepped by
labels keeps an invariant along every run whose steps meet a guard (`invariant_of_guarded`). A
machine with a choice of steps, some of which may stop it, is a relation, and its reachable states
are those of the reflexive transitive closure (`invariant_of_reaches`).
-/

namespace Machine

/-! ## Answers -/

section

variable {S O : Type} (step : S → O × S)

/-- The answers to `n` successive steps. -/
def outputs : Nat → S → List O
  | 0, _ => []
  | n + 1, s => (step s).1 :: outputs n (step s).2

variable {step}

/-- **A machine that pays what it owes.** If every step answers with the first owed answer, and
with `done` once nothing is owed, then the answers are the owed ones in order, then `done`. -/
theorem outputs_eq_of_owes {Owes : S → List O → Prop} {done : O}
    (hCons : ∀ s o rest, Owes s (o :: rest) → (step s).1 = o ∧ Owes (step s).2 rest)
    (hNil : ∀ s, Owes s [] → (step s).1 = done ∧ Owes (step s).2 []) (n : Nat) {s : S}
    {owed : List O} (h : Owes s owed) :
    outputs step n s = (owed ++ List.replicate n done).take n := by
  induction n generalizing s owed with
  | zero => rw [outputs, List.take_zero]
  | succ n ih =>
    cases owed with
    | nil =>
      obtain ⟨hout, hnext⟩ := hNil s h
      rw [outputs, hout, ih hnext, List.nil_append, List.nil_append, List.replicate_succ,
        List.take_succ_cons]
    | cons o rest =>
      obtain ⟨hout, hnext⟩ := hCons s o rest h
      -- one `done` more than needed is cut off
      have hcut : (rest ++ List.replicate (n + 1) done).take n =
          (rest ++ List.replicate n done).take n := by
        rw [List.replicate_succ', ← List.append_assoc, List.take_append_of_le_length]
        rw [List.length_append, List.length_replicate]
        omega
      rw [outputs, hout, ih hnext, List.cons_append, List.take_succ_cons, hcut]

end

/-! ## Guarded runs -/

section

variable {S L : Type} (step : S → L → S)

/-- Every step of the run meets the guard in the state before it. -/
def Guarded (guard : S → L → Prop) : S → List L → Prop
  | _, [] => True
  | s, label :: rest => guard s label ∧ Guarded guard (step s label) rest

variable {step}

/-- The guard holds at every step of a guarded run. -/
theorem Guarded.get {guard : S → L → Prop} {labels : List L} {s : S}
    (hRun : Guarded step guard s labels) {k : Nat} {label : L} (hget : labels[k]? = some label) :
    guard ((labels.take k).foldl step s) label := by
  induction labels generalizing s k with
  | nil => cases hget
  | cons first rest ih =>
    cases k with
    | zero =>
      obtain rfl := Option.some.inj hget
      exact hRun.1
    | succ k =>
      rw [List.take_succ_cons, List.foldl_cons]
      exact ih hRun.2 hget

/-- The invariant holds in every state that a guarded run reaches. -/
theorem invariant_of_guarded {guard : S → L → Prop} {Inv : S → Prop}
    (hStep : ∀ s label, Inv s → guard s label → Inv (step s label)) {labels : List L} {s : S}
    (hInit : Inv s) (hRun : Guarded step guard s labels) (k : Nat) :
    Inv ((labels.take k).foldl step s) := by
  induction labels generalizing s k with
  | nil =>
    rw [List.take_nil]
    exact hInit
  | cons label rest ih =>
    cases k with
    | zero => exact hInit
    | succ k =>
      rw [List.take_succ_cons, List.foldl_cons]
      apply ih
      · exact hStep s label hInit hRun.1
      · exact hRun.2

end

/-! ## Reachable states -/

/-- The invariant holds in every state that is reached. -/
theorem invariant_of_reaches {S : Type} {Step : S → S → Prop} {Inv : S → Prop}
    (hStep : ∀ s s', Inv s → Step s s' → Inv s') {s s' : S} (hInit : Inv s)
    (hReach : Relation.ReflTransGen Step s s') : Inv s' := by
  induction hReach with
  | refl => exact hInit
  | tail _ hLast ih => exact hStep _ _ ih hLast

end Machine
