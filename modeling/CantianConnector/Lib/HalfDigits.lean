import Mathlib.Data.List.Basic
import Mathlib.Data.Nat.Basic

/-!
# Digits of a base and of its square

Two digits of base `b` make one of base `b * b`. `pairUp` takes them from the front, the upper one
first, and a digit that is left over is an upper one. `splitUp` is the way back, which may end in a
zero that was not there (`splitUp_pairUp`, `pairUp_dropLastZero_splitUp`).
-/

namespace Digits

variable {b : Nat}

/-- Two digits at a time. -/
def pairUp (b : Nat) : List Nat → List Nat
  | [] => []
  | [c] => [c * b]
  | c :: d :: rest => (c * b + d) :: pairUp b rest

/-- The halves of each digit. -/
def splitUp (b : Nat) : List Nat → List Nat
  | [] => []
  | c :: rest => c / b :: c % b :: splitUp b rest

/-- The list without a zero at its end. -/
def dropLastZero (l : List Nat) : List Nat := if l.getLast? = some 0 then l.dropLast else l

@[simp] theorem dropLastZero_nil : dropLastZero [] = [] := rfl

theorem dropLastZero_of_ne {l : List Nat} (h : l.getLast? ≠ some 0) : dropLastZero l = l := if_neg h

theorem dropLastZero_concat_zero (l : List Nat) : dropLastZero (l ++ [0]) = l := by
  rw [dropLastZero, if_pos List.getLast?_concat, List.dropLast_concat]

theorem dropLastZero_cons {l : List Nat} (c : Nat) (h : l ≠ []) :
    dropLastZero (c :: l) = c :: dropLastZero l := by
  obtain ⟨d, rest, rfl⟩ := List.exists_cons_of_ne_nil h
  unfold dropLastZero
  rw [List.getLast?_cons_cons]
  split
  · rfl
  · rfl

theorem mem_of_mem_dropLastZero {l : List Nat} {c : Nat} (h : c ∈ dropLastZero l) : c ∈ l := by
  unfold dropLastZero at h
  split at h
  · exact List.dropLast_subset l h
  · exact h

theorem length_dropLastZero_le (l : List Nat) : (dropLastZero l).length ≤ l.length := by
  unfold dropLastZero
  split
  · rw [List.length_dropLast]
    omega
  · exact Nat.le_refl _

theorem length_pairUp (l : List Nat) : (pairUp b l).length = (l.length + 1) / 2 := by
  induction l using pairUp.induct with
  | case1 => rfl
  | case2 c => simp [pairUp]
  | case3 c d rest ih =>
    rw [pairUp, List.length_cons, ih, List.length_cons, List.length_cons]
    omega

/-- The first digit of the pairs has the first digit as its upper half. -/
theorem pairUp_head (c : Nat) (rest : List Nat) :
    ∃ d tail, pairUp b (c :: rest) = d :: tail ∧ c * b ≤ d := by
  cases rest with
  | nil => exact ⟨c * b, [], by rw [pairUp], Nat.le_refl _⟩
  | cons e rest => exact ⟨c * b + e, pairUp b rest, by rw [pairUp], Nat.le_add_right _ _⟩

theorem length_splitUp (l : List Nat) : (splitUp b l).length = 2 * l.length := by
  induction l with
  | nil => rfl
  | cons c rest ih =>
    rw [splitUp, List.length_cons, List.length_cons, ih, List.length_cons]
    omega

theorem splitUp_ne_nil {l : List Nat} (h : l ≠ []) : splitUp b l ≠ [] := by
  obtain ⟨c, rest, rfl⟩ := List.exists_cons_of_ne_nil h
  exact List.cons_ne_nil _ _

theorem splitUp_lt (hb : 0 < b) {l : List Nat} (h : ∀ c ∈ l, c < b * b) :
    ∀ c ∈ splitUp b l, c < b := by
  induction l with
  | nil => exact List.forall_mem_nil _
  | cons c rest ih =>
    rw [List.forall_mem_cons] at h
    rw [splitUp, List.forall_mem_cons, List.forall_mem_cons]
    exact ⟨Nat.div_lt_of_lt_mul h.1, Nat.mod_lt _ hb, ih h.2⟩

theorem pairUp_lt {l : List Nat} (h : ∀ c ∈ l, c < b) : ∀ c ∈ pairUp b l, c < b * b := by
  induction l using pairUp.induct with
  | case1 => exact List.forall_mem_nil _
  | case2 c =>
    rw [List.forall_mem_singleton] at h
    rw [pairUp, List.forall_mem_singleton]
    exact Nat.mul_lt_mul_of_pos_right h (by omega)
  | case3 c d rest ih =>
    simp only [List.forall_mem_cons] at h
    obtain ⟨hc, hd, hrest⟩ := h
    rw [pairUp, List.forall_mem_cons]
    refine ⟨?_, ih hrest⟩
    calc c * b + d < c * b + b := by omega
      _ = (c + 1) * b := (Nat.succ_mul c b).symm
      _ ≤ b * b := Nat.mul_le_mul_right b hc

/-- Splitting gives the digits back, with a zero behind an odd number of them. -/
theorem splitUp_pairUp {l : List Nat} (h : ∀ c ∈ l, c < b) :
    splitUp b (pairUp b l) = l ∨ splitUp b (pairUp b l) = l ++ [0] := by
  induction l using pairUp.induct with
  | case1 => exact Or.inl rfl
  | case2 c =>
    have hc := h c List.mem_cons_self
    refine Or.inr ?_
    rw [pairUp, splitUp, splitUp, Nat.mul_div_cancel _ (by omega), Nat.mul_mod_left]
    rfl
  | case3 c d rest ih =>
    simp only [List.forall_mem_cons] at h
    obtain ⟨-, hd, hrest⟩ := h
    have hb : 0 < b := by omega
    rw [pairUp, splitUp, Nat.mul_comm c b, Nat.mul_add_div hb, Nat.div_eq_of_lt hd, Nat.add_zero,
      Nat.mul_add_mod, Nat.mod_eq_of_lt hd]
    rcases ih hrest with heq | heq
    · exact Or.inl (by rw [heq])
    · exact Or.inr (by rw [heq]; rfl)

/-- A lower half that is zero at the end is not missed. -/
theorem pairUp_dropLastZero_splitUp (l : List Nat) : pairUp b (dropLastZero (splitUp b l)) = l := by
  induction l with
  | nil => rfl
  | cons c rest ih =>
    by_cases hrest : rest = []
    · subst hrest
      rw [splitUp, splitUp, dropLastZero]
      split
      · rename_i hlast
        have hzero : c % b = 0 := Option.some.inj hlast
        have hc := Nat.div_add_mod' c b
        rw [hzero, Nat.add_zero] at hc
        exact congrArg (fun x => [x]) hc
      · exact congrArg (fun x => [x]) (Nat.div_add_mod' c b)
    · rw [splitUp, dropLastZero_cons _ (List.cons_ne_nil _ _),
        dropLastZero_cons _ (splitUp_ne_nil hrest), pairUp, ih, Nat.div_add_mod']

end Digits
