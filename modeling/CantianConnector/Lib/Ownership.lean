import CantianConnector.Lib.Blocks
import Mathlib.Algebra.Order.Group.Multiset
import Mathlib.Tactic.Abel

/-!
# Who owns a block

A program on a heap of blocks may be stopped, by an error of its own or because it frees a block that
is not live. `Owns` lists the blocks that the program still knows; a block that nobody knows any more
is lost. With one rule for each operation (`Ends`), a proof about a program carries the list along.
-/

namespace Ownership

open Blocks

variable {β ε α γ : Type}

/-! ## Programs -/

/-- Why a program is stopped. -/
inductive Stop (ε : Type) where
  /-- A block is freed that is not live. -/
  | dead
  | error (e : ε)
deriving DecidableEq, Repr

abbrev Prog (β ε α : Type) := StateT (Heap β) (Except (Stop ε)) α

/-- A request for a block; `grant` says which requests are granted. -/
def request (grant : Nat → Bool) (b : β) : Prog β ε (Option Nat) := fun h =>
  .ok (if grant h.requests then (some h.next, h.add b) else (none, h.refuse))

def release (a : Nat) : Prog β ε Unit := fun h =>
  if hlive : (h.blocks a).isSome then .ok ((), h.drop a hlive) else .error .dead

/-- Nothing happens to a null pointer. -/
def releaseOpt : Option Nat → Prog β ε Unit
  | none => pure ()
  | some a => release a

def stop (e : ε) : Prog β ε α := fun _ => .error (.error e)

/-! ## Owned blocks -/

/-- The blocks `l` are live and known; every other live block is one that may be lost. -/
structure Owns (Lost : β → Prop) (h : Heap β) (l : Multiset Nat) : Prop where
  nodup : l.Nodup
  live : ∀ a ∈ l, (h.blocks a).isSome
  rest : ∀ a b, h.blocks a = some b → a ∉ l → Lost b

/-- The block that a pointer owns. -/
def pointee (p : Option Nat) : Multiset Nat := p.elim 0 fun a => {a}

@[simp] theorem pointee_none : pointee none = 0 := rfl

@[simp] theorem pointee_some (a : Nat) : pointee (some a) = {a} := rfl

theorem sum_pointee_replicate (n : Nat) : ((List.replicate n none).map pointee).sum = 0 := by
  induction n with
  | zero => rfl
  | succ n ih => rw [List.replicate_succ, List.map_cons, List.sum_cons, ih, pointee_none, zero_add]

namespace Owns

variable {Lost : β → Prop} {h : Heap β} {l l' : Multiset Nat} {a : Nat} {b : β}

theorem empty : Owns Lost (Heap.empty : Heap β) 0 := by
  refine ⟨Multiset.nodup_zero, fun a ha => absurd ha (Multiset.notMem_zero a), fun a b hb => ?_⟩
  cases hb

theorem congr (howns : Owns Lost h l) (hl : l = l') : Owns Lost h l' := hl ▸ howns

theorem refuse (howns : Owns Lost h l) : Owns Lost h.refuse l := ⟨howns.nodup, howns.live, howns.rest⟩

theorem add (howns : Owns Lost h l) (b : β) : Owns Lost (h.add b) ({h.next} + l) where
  nodup := by
    rw [Multiset.singleton_add, Multiset.nodup_cons]
    exact ⟨fun hmem => Nat.lt_irrefl _ (h.lt_of_live (howns.live _ hmem)), howns.nodup⟩
  live a ha := by
    rw [Multiset.singleton_add, Multiset.mem_cons] at ha
    by_cases hnext : a = h.next
    · rw [hnext, Heap.add_here]
      rfl
    · rw [h.add_elsewhere b hnext]
      exact howns.live a (ha.resolve_left hnext)
  rest a c hc ha := by
    rw [Multiset.singleton_add, Multiset.mem_cons, not_or] at ha
    rw [h.add_elsewhere b ha.1] at hc
    exact howns.rest a c hc ha.2

theorem here (howns : Owns Lost h ({a} + l)) : (h.blocks a).isSome := by
  apply howns.live
  rw [Multiset.singleton_add]
  exact Multiset.mem_cons_self a l

theorem drop (howns : Owns Lost h ({a} + l)) (hlive : (h.blocks a).isSome) :
    Owns Lost (h.drop a hlive) l := by
  have hnodup := howns.nodup
  rw [Multiset.singleton_add, Multiset.nodup_cons] at hnodup
  refine ⟨hnodup.2, fun x hx => ?_, fun x b hb hx => ?_⟩
  · have hne : x ≠ a := by
      rintro rfl
      exact hnodup.1 hx
    rw [h.drop_elsewhere hne]
    exact howns.live x (Multiset.mem_add.mpr (Or.inr hx))
  · by_cases hxa : x = a
    · rw [hxa, Heap.drop_here] at hb
      cases hb
    · rw [h.drop_elsewhere hxa] at hb
      apply howns.rest x b hb
      rw [Multiset.singleton_add, Multiset.mem_cons, not_or]
      exact ⟨hxa, hx⟩

/-- A block that may be lost is forgotten. -/
theorem forget (howns : Owns Lost h ({a} + l)) (hb : h.blocks a = some b) (hlost : Lost b) :
    Owns Lost h l := by
  have hnodup := howns.nodup
  rw [Multiset.singleton_add, Multiset.nodup_cons] at hnodup
  refine ⟨hnodup.2, fun x hx => howns.live x (Multiset.mem_add.mpr (Or.inr hx)), ?_⟩
  intro x c hc hx
  by_cases hxa : x = a
  · rw [hxa, hb] at hc
    cases hc
    exact hlost
  · apply howns.rest x c hc
    rw [Multiset.singleton_add, Multiset.mem_cons, not_or]
    exact ⟨hxa, hx⟩

end Owns

/-! ## Rules -/

/-- The program ends as `Q` says, or is stopped by an error that `May` happen; it frees no dead
block. -/
def Ends (May : ε → Prop) (m : Prog β ε α) (h : Heap β) (Q : α → Heap β → Prop) : Prop :=
  match m h with
  | .ok r => Q r.1 r.2
  | .error (.error e) => May e
  | .error .dead => False

namespace Ends

variable {May : ε → Prop} {h : Heap β} {Q : α → Heap β → Prop}

theorem pure {a : α} (hQ : Q a h) : Ends May (pure a) h Q := hQ

theorem bind {m : Prog β ε γ} {f : γ → Prog β ε α}
    (hm : Ends May m h fun c h' => Ends May (f c) h' Q) : Ends May (m >>= f) h Q := by
  unfold Ends at hm ⊢
  show match (m h).bind (fun r => f r.1 r.2) with
    | .ok r => Q r.1 r.2
    | .error (.error e) => May e
    | .error .dead => False
  cases hrun : m h with
  | ok r =>
    rw [hrun] at hm
    exact hm
  | error e =>
    rw [hrun] at hm
    cases e <;> exact hm

theorem mono {m : Prog β ε α} {Q' : α → Heap β → Prop} (hm : Ends May m h Q')
    (hQ : ∀ a h', Q' a h' → Q a h') : Ends May m h Q := by
  unfold Ends at hm ⊢
  cases hrun : m h with
  | ok r =>
    rw [hrun] at hm
    exact hQ _ _ hm
  | error e =>
    rw [hrun] at hm
    cases e <;> exact hm

theorem stop {e : ε} (he : May e) : Ends May (stop e : Prog β ε α) h Q := he

variable {Lost : β → Prop} {l : Multiset Nat}

theorem request {grant : Nat → Bool} {b : β} {Q : Option Nat → Heap β → Prop}
    (howns : Owns Lost h l)
    (hgrant : ∀ a h', Owns Lost h' ({a} + l) → h'.blocks a = some b → Q (some a) h')
    (hrefuse : ∀ h', Owns Lost h' l → (∃ n, grant n = false) → Q none h') :
    Ends May (request grant b) h Q := by
  unfold Ends Ownership.request
  cases hg : grant h.requests with
  | true => exact hgrant _ _ (howns.add b) (h.add_here b)
  | false => exact hrefuse _ howns.refuse ⟨_, hg⟩

theorem release {a : Nat} {Q : Unit → Heap β → Prop} (howns : Owns Lost h ({a} + l))
    (hQ : ∀ h', Owns Lost h' l → Q () h') : Ends May (release a) h Q := by
  unfold Ends Ownership.release
  rw [dif_pos howns.here]
  exact hQ _ (howns.drop howns.here)

theorem releaseOpt {p : Option Nat} {Q : Unit → Heap β → Prop}
    (howns : Owns Lost h (pointee p + l)) (hQ : ∀ h', Owns Lost h' l → Q () h') :
    Ends May (releaseOpt p) h Q := by
  cases p with
  | none =>
    rw [pointee_none, zero_add] at howns
    exact hQ h howns
  | some a => exact release howns hQ

end Ends

end Ownership
