import Mathlib.Data.List.Nodup

/-!
# Point updates of lists

Entries of a list are replaced, one after the other, by their positions. A position that is named
once holds its new value; one that is not named keeps its value.
-/

namespace PointUpdates

variable {α : Type*} {xs : List α} {updates : List (Nat × α)}

/-- Each update is a position and the new value there. -/
def apply (xs : List α) (updates : List (Nat × α)) : List α :=
  updates.foldl (fun xs update => xs.set update.1 update.2) xs

@[simp] theorem apply_nil (xs : List α) : apply xs [] = xs := rfl

theorem apply_cons (xs : List α) (update : Nat × α) (updates : List (Nat × α)) :
    apply xs (update :: updates) = apply (xs.set update.1 update.2) updates := rfl

@[simp] theorem length_apply : (apply xs updates).length = xs.length := by
  induction updates generalizing xs with
  | nil => rfl
  | cons update rest ih => rw [apply_cons, ih, List.length_set]

/-- A position that is not named keeps its value. -/
theorem apply_unnamed {k : Nat} (hk : k ∉ updates.map Prod.fst) :
    (apply xs updates)[k]? = xs[k]? := by
  induction updates generalizing xs with
  | nil => rfl
  | cons update rest ih =>
    rw [List.map_cons, List.mem_cons, not_or] at hk
    rw [apply_cons, ih hk.2, List.getElem?_set_ne (Ne.symm hk.1)]

/-- A position that is named once has its new value. -/
theorem apply_named (hnodup : (updates.map Prod.fst).Nodup) {k : Nat} {x : α}
    (hmem : (k, x) ∈ updates) (hk : k < xs.length) : (apply xs updates)[k]? = some x := by
  induction updates generalizing xs with
  | nil => exact absurd hmem List.not_mem_nil
  | cons update rest ih =>
    rw [List.map_cons, List.nodup_cons] at hnodup
    rw [apply_cons]
    rcases List.mem_cons.mp hmem with rfl | hrest
    · rw [apply_unnamed hnodup.1, List.getElem?_set_self hk]
    · exact ih hnodup.2 hrest (by rwa [List.length_set])

/-- What holds of the old values and of the new ones holds of the list. -/
theorem forall_mem_apply {P : α → Prop} (hxs : ∀ x ∈ xs, P x)
    (hupdates : ∀ update ∈ updates, P update.2) : ∀ x ∈ apply xs updates, P x := by
  induction updates generalizing xs with
  | nil => exact hxs
  | cons update rest ih =>
    obtain ⟨hupdate, hrest⟩ := List.forall_mem_cons.mp hupdates
    rw [apply_cons]
    refine ih ?_ hrest
    intro x hx
    rcases List.mem_or_eq_of_mem_set hx with hx | rfl
    · exact hxs x hx
    · exact hupdate

end PointUpdates
