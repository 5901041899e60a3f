import Mathlib.Algebra.Order.Ring.Int
import Mathlib.Data.List.Basic
import Mathlib.Tactic.Ring

/-!
# Counting rows by cumulative counts

A frequency table lists values in increasing order, each with the number of rows up to and
including it. `count p` is the number of rows whose value satisfies `p`, `before p` the number
of rows in front of the first entry that does. If the entries that satisfy `p` are the last ones
of the table, the two add up to the total (`before_add_count`). So the rows between two bounds
are a difference of two cumulative counts, cut off at zero (`count_between`).
-/

namespace Cumulative

variable {α : Type}

/-- The rows of the entries that satisfy `p`; `prev` rows are in front of the list. -/
def count (p : α → Bool) : Int → List (α × Int) → Int
  | _, [] => 0
  | prev, (v, n) :: rest => (if p v then n - prev else 0) + count p n rest

/-- All rows up to the end of the list. -/
def total : Int → List (α × Int) → Int
  | prev, [] => prev
  | _, (_, n) :: rest => total n rest

/-- The rows in front of the first entry that satisfies `p`. -/
def before (p : α → Bool) : Int → List (α × Int) → Int
  | prev, [] => prev
  | prev, (v, n) :: rest => if p v then prev else before p n rest

/-- The cumulative counts do not decrease. -/
def Nondecreasing : Int → List (α × Int) → Prop
  | _, [] => True
  | prev, (_, n) :: rest => prev ≤ n ∧ Nondecreasing n rest

/-- Once an entry satisfies `p`, the later ones do. -/
def Upward (p : α → Bool) (table : List (α × Int)) : Prop :=
  table.Pairwise fun a b => p a.1 = true → p b.1 = true

variable {p q : α → Bool} {prev : Int} {table : List (α × Int)}

theorem total_append (prev : Int) (table : List (α × Int)) (v : α) (n : Int) :
    total prev (table ++ [(v, n)]) = n := by
  induction table generalizing prev with
  | nil => rfl
  | cons entry rest ih => exact ih entry.2

theorem Nondecreasing.le_total (h : Nondecreasing prev table) : prev ≤ total prev table := by
  induction table generalizing prev with
  | nil => exact le_rfl
  | cons entry rest ih => exact h.1.trans (ih h.2)

theorem count_none (prev : Int) (h : ∀ e ∈ table, p e.1 = false) : count p prev table = 0 := by
  induction table generalizing prev with
  | nil => rfl
  | cons entry rest ih =>
    have hrest := ih entry.2 fun e he => h e (List.mem_cons_of_mem _ he)
    simp only [count, h entry List.mem_cons_self, hrest, Bool.false_eq_true, if_false, add_zero]

theorem count_all (prev : Int) (h : ∀ e ∈ table, p e.1 = true) :
    count p prev table = total prev table - prev := by
  induction table generalizing prev with
  | nil => simp [count, total]
  | cons entry rest ih =>
    have hrest := ih entry.2 fun e he => h e (List.mem_cons_of_mem _ he)
    simp only [count, total, h entry List.mem_cons_self, hrest, if_true]
    ring

theorem count_nonneg (h : Nondecreasing prev table) : 0 ≤ count p prev table := by
  induction table generalizing prev with
  | nil => exact le_rfl
  | cons entry rest ih =>
    have hrest := ih h.2
    have hhead := h.1
    simp only [count]
    split <;> omega

/-- The rows of two kinds of entries. -/
theorem count_add_count (prev : Int) (h : ∀ e ∈ table, q e.1 = true → p e.1 = true) :
    count p prev table = count q prev table + count (fun v => p v && !q v) prev table := by
  induction table generalizing prev with
  | nil => rfl
  | cons entry rest ih =>
    have hrest := ih entry.2 fun e he => h e (List.mem_cons_of_mem _ he)
    have hhead := h entry List.mem_cons_self
    simp only [count, hrest]
    by_cases hq : q entry.1 = true
    · simp only [hhead hq, hq, Bool.not_true, Bool.and_false, Bool.false_eq_true, if_true, if_false]
      ring
    · simp only [Bool.eq_false_of_not_eq_true hq, Bool.not_false, Bool.and_true, if_false,
        Bool.false_eq_true]
      ring

/-- **The rows of the last entries are those that are not in front of the first of them.** -/
theorem before_add_count (prev : Int) (h : Upward p table) :
    before p prev table + count p prev table = total prev table := by
  induction table generalizing prev with
  | nil => simp [before, count, total]
  | cons entry rest ih =>
    obtain ⟨hall, hrest⟩ := List.pairwise_cons.mp h
    cases hp : p entry.1 with
    | true =>
      have hwhole : ∀ e ∈ entry :: rest, p e.1 = true := by
        rw [List.forall_mem_cons]
        exact ⟨hp, fun e he => hall e he hp⟩
      rw [count_all prev hwhole]
      simp only [before, hp, if_true]
      ring
    | false =>
      have hrest := ih entry.2 hrest
      simp only [before, count, total, hp, Bool.false_eq_true, if_false, zero_add]
      exact hrest

theorem le_before (h : Nondecreasing prev table) : prev ≤ before p prev table := by
  induction table generalizing prev with
  | nil => exact le_rfl
  | cons entry rest ih =>
    simp only [before]
    split
    · exact le_rfl
    · exact h.1.trans (ih h.2)

theorem before_le_total (h : Nondecreasing prev table) :
    before p prev table ≤ total prev table := by
  induction table generalizing prev with
  | nil => exact le_rfl
  | cons entry rest ih =>
    simp only [before, total]
    split
    · exact h.1.trans h.2.le_total
    · exact ih h.2

/-- Of two kinds of last entries one contains the other. -/
theorem upward_nested (hp : Upward p table) (hq : Upward q table) :
    (∀ e ∈ table, q e.1 = true → p e.1 = true) ∨ ∀ e ∈ table, p e.1 = true → q e.1 = true := by
  induction table with
  | nil => exact Or.inl fun e he => absurd he List.not_mem_nil
  | cons entry rest ih =>
    obtain ⟨hpall, hprest⟩ := List.pairwise_cons.mp hp
    obtain ⟨hqall, hqrest⟩ := List.pairwise_cons.mp hq
    cases hpe : p entry.1 with
    | true =>
      refine Or.inl fun e he _ => ?_
      rcases List.mem_cons.mp he with rfl | he
      · exact hpe
      · exact hpall e he hpe
    | false =>
      cases hqe : q entry.1 with
      | true =>
        refine Or.inr fun e he _ => ?_
        rcases List.mem_cons.mp he with rfl | he
        · exact hqe
        · exact hqall e he hqe
      | false =>
        rcases ih hprest hqrest with h | h
        · refine Or.inl fun e he => ?_
          rcases List.mem_cons.mp he with rfl | he
          · rw [hqe]
            exact fun hq => absurd hq Bool.false_ne_true
          · exact h e he
        · refine Or.inr fun e he => ?_
          rcases List.mem_cons.mp he with rfl | he
          · rw [hpe]
            exact fun hp => absurd hp Bool.false_ne_true
          · exact h e he

/-- **The rows between two bounds**: those that reach the lower one (`p`) and do not exceed the
upper one (`q`). The difference of the cumulative counts is negative only if there are none. -/
theorem count_between (hp : Upward p table) (hq : Upward q table) (h : Nondecreasing prev table) :
    count (fun v => p v && !q v) prev table =
      max 0 (before q prev table - before p prev table) := by
  have hpsum := before_add_count prev hp
  have hqsum := before_add_count prev hq
  rcases upward_nested hp hq with hsub | hsub
  · have hadd := count_add_count prev hsub
    have hpos := count_nonneg (p := fun v => p v && !q v) h
    omega
  · have hnone : count (fun v => p v && !q v) prev table = 0 := by
      apply count_none
      intro e he
      have hqe := hsub e he
      cases hpe : p e.1 with
      | true => simp [hqe hpe]
      | false => rfl
    have hadd := count_add_count prev hsub
    have hpos := count_nonneg (p := fun v => q v && !p v) h
    omega

end Cumulative
