import Mathlib.Data.List.Basic

/-!
# Outcomes of connector functions

A function of the connector returns, returns an error code, or is stopped by a failed
`assert`. The README describes a debug and a release build; assertions are compiled out of
the release build, so a failed one stops the debug build only.
-/

namespace CantianConnector.Convert

/-- The two builds of the connector. -/
inductive Build where
  | debug
  | release
deriving DecidableEq, Repr

/-- Why a call did not return normally. -/
inductive Failure where
  /-- A failed `assert`. -/
  | assertion
  /-- A non-zero return code. -/
  | code (rc : Int)
  /-- The code reads an uninitialised variable or outside of an array. -/
  | undefined
deriving DecidableEq, Repr

abbrev Result (α : Type) := Except Failure α

/-- `assert(cond)`. -/
def cAssert (build : Build) (cond : Bool) : Result Unit :=
  if build = .debug ∧ cond = false then .error .assertion else .ok ()

@[simp] theorem cAssert_true (build : Build) : cAssert build true = .ok () := by
  simp [cAssert]

@[simp] theorem cAssert_release (cond : Bool) : cAssert .release cond = .ok () := by
  simp [cAssert]

@[simp] theorem result_bind_ok {α β : Type} (a : α) (f : α → Result β) :
    (Except.ok a >>= f) = f a := rfl

@[simp] theorem result_bind_error {α β : Type} (e : Failure) (f : α → Result β) :
    ((Except.error e : Result α) >>= f) = .error e := rfl

@[simp] theorem result_pure {α : Type} (a : α) : (pure a : Result α) = .ok a := rfl

/-- A sequence that succeeds, step by step. -/
theorem result_bind_eq_ok {α β : Type} {x : Result α} {f : α → Result β} {b : β} :
    (x >>= f) = .ok b ↔ ∃ a, x = .ok a ∧ f a = .ok b := by
  cases x with
  | error e => simp
  | ok a => simp

/-- A sequence that fails, at its first step or later. -/
theorem result_bind_eq_error {α β : Type} {x : Result α} {f : α → Result β} {e : Failure} :
    (x >>= f) = .error e ↔ x = .error e ∨ ∃ a, x = .ok a ∧ f a = .error e := by
  cases x with
  | error e' => simp
  | ok a => simp

end CantianConnector.Convert
