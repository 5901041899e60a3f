import Mathlib.Algebra.BigOperators.Group.Finset.Basic
import Mathlib.Logic.Function.Basic

/-!
# Threads over a shared state

A step of one thread moves that thread and may change the shared state. A property of the threads
one by one, with a relation that keeps any two of them apart, is kept by such a step if the moved
thread establishes it and no other thread is disturbed (`Sound.step`). A sum over the threads
changes by the summand of the moved thread (`sum_update`).
-/

namespace Threads

variable {G T P : Type}

/-- Every thread has its property, and any two threads are apart. -/
structure Sound (Local : G → P → Prop) (Apart : P → P → Prop) (g : G) (pc : T → P) : Prop where
  all : ∀ t, Local g (pc t)
  apart : ∀ t u, t ≠ u → Apart (pc t) (pc u)

variable {Local : G → P → Prop} {Apart : P → P → Prop} {g g' : G} {pc : T → P}

/-- **Non-interference.** The moved thread has its property in the new shared state, and each other
thread keeps its own. -/
theorem Sound.step [DecidableEq T] (h : Sound Local Apart g pc)
    (hSymm : ∀ p q, Apart p q → Apart q p) {t : T} {p : P} (hMine : Local g' p)
    (hOthers : ∀ u, u ≠ t → Local g (pc u) → Apart (pc t) (pc u) →
      Local g' (pc u) ∧ Apart p (pc u)) :
    Sound Local Apart g' (Function.update pc t p) := by
  have hRest : ∀ u, u ≠ t → Local g' (pc u) ∧ Apart p (pc u) := by
    intro u hu
    exact hOthers u hu (h.all u) (h.apart t u hu.symm)
  constructor
  · apply (Function.forall_update_iff pc fun _ q => Local g' q).mpr
    exact ⟨hMine, fun u hu => (hRest u hu).1⟩
  · intro u v huv
    by_cases hu : u = t
    · subst hu
      rw [Function.update_self, Function.update_of_ne huv.symm]
      exact (hRest v huv.symm).2
    · rw [Function.update_of_ne hu]
      by_cases hv : v = t
      · subst hv
        rw [Function.update_self]
        exact hSymm _ _ (hRest u hu).2
      · rw [Function.update_of_ne hv]
        exact h.apart u v huv

/-! ## Sums over the threads -/

open scoped BigOperators in
/-- What the moved thread held before stands against what it holds now. -/
theorem sum_update {M : Type} [AddCommMonoid M] [Fintype T] [DecidableEq T] (held : P → M)
    (pc : T → P) (t : T) (p : P) :
    ∑ u, held (Function.update pc t p u) + held (pc t) = ∑ u, held (pc u) + held p := by
  have hnew := Finset.add_sum_erase Finset.univ (fun u => held (Function.update pc t p u))
    (Finset.mem_univ t)
  have hold := Finset.add_sum_erase Finset.univ (fun u => held (pc u)) (Finset.mem_univ t)
  have hrest : ∑ u ∈ Finset.univ.erase t, held (Function.update pc t p u) =
      ∑ u ∈ Finset.univ.erase t, held (pc u) := by
    apply Finset.sum_congr rfl
    intro u hu
    rw [Function.update_of_ne (Finset.ne_of_mem_erase hu)]
  simp only [Function.update_self] at hnew
  rw [← hnew, ← hold, hrest, add_right_comm, add_comm (held p)]
  exact add_right_comm _ _ _

end Threads
