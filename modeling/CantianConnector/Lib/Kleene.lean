import Mathlib.Data.List.Basic

/-!
# Three-valued logic and exact splits of a condition

The strong Kleene connectives over `FALSE`, `UNKNOWN` and `TRUE`, for lists of
operands of any length. A filter keeps a row only when its condition is `TRUE`, so the
lemmas say when a conjunction or a disjunction is `TRUE`, and `Splits` says that a
condition is `TRUE` exactly when its two parts are.
-/

namespace Kleene

/-- A truth value of three-valued logic. -/
inductive Truth where
  | ff
  | unknown
  | tt
deriving DecidableEq, Repr

namespace Truth

def and : Truth → Truth → Truth
  | .ff, _ => .ff
  | _, .ff => .ff
  | .tt, .tt => .tt
  | _, _ => .unknown

def or : Truth → Truth → Truth
  | .tt, _ => .tt
  | _, .tt => .tt
  | .ff, .ff => .ff
  | _, _ => .unknown

theorem and_eq_tt {a b : Truth} : and a b = .tt ↔ a = .tt ∧ b = .tt := by
  cases a <;> cases b <;> simp [and]

theorem or_eq_tt {a b : Truth} : or a b = .tt ↔ a = .tt ∨ b = .tt := by
  cases a <;> cases b <;> simp [or]

end Truth

/-- The conjunction of all operands; the empty conjunction is `TRUE`. -/
def conj : List Truth → Truth
  | [] => .tt
  | t :: ts => t.and (conj ts)

/-- The disjunction of all operands; the empty disjunction is `FALSE`. -/
def disj : List Truth → Truth
  | [] => .ff
  | t :: ts => t.or (disj ts)

theorem conj_eq_tt {ts : List Truth} : conj ts = .tt ↔ ∀ t ∈ ts, t = .tt := by
  induction ts with
  | nil => simp [conj]
  | cons t ts ih => simp [conj, Truth.and_eq_tt, ih]

theorem disj_eq_tt {ts : List Truth} : disj ts = .tt ↔ ∃ t ∈ ts, t = .tt := by
  induction ts with
  | nil => simp [disj]
  | cons t ts ih =>
    rw [disj, Truth.or_eq_tt, ih]
    simp [eq_comm]

/-- The condition `t` is `TRUE` exactly when both of its parts are. -/
def Splits (t p r : Truth) : Prop := t = .tt ↔ p = .tt ∧ r = .tt

theorem splits_left (t : Truth) : Splits t t .tt := by simp [Splits]

theorem splits_right (t : Truth) : Splits t .tt t := by simp [Splits]

/-- A disjunction kept whole may be preceded by a weaker filter. -/
theorem splits_of_weaker {t p : Truth} (h : t = .tt → p = .tt) : Splits t p t := by
  simp only [Splits]
  exact ⟨fun ht => ⟨h ht, ht⟩, fun h' => h'.2⟩

end Kleene
