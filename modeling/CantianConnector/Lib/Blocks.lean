import Mathlib.Data.List.Nodup
import Mathlib.Data.List.Range
import Mathlib.Logic.Function.Basic

/-!
# Heaps of blocks

A heap whose blocks are numbered in the order of their allocation. It remembers the blocks that
have been freed, so that one can ask whether a program frees each of its blocks exactly once
(`Balanced`). A request may be refused; the use of a block that is not live stops the program.

Programs are compared with their effect through `Runs`: it says that a program is not stopped and
where it ends, and it has one rule for each operation.
-/

namespace Blocks

/-! ## Heaps -/

/-- A heap of blocks. -/
structure Heap (β : Type) where
  blocks : Nat → Option β
  /-- The number of blocks allocated so far. -/
  next : Nat
  /-- The number of requests so far, refused ones included. -/
  requests : Nat
  /-- The freed blocks, in order. -/
  freed : List Nat
  live_iff : ∀ a, (blocks a).isSome ↔ a < next ∧ a ∉ freed
  freed_lt : ∀ a ∈ freed, a < next
  nodup : freed.Nodup

namespace Heap

variable {β : Type}

/-- The heap before the first request. -/
def empty : Heap β where
  blocks _ := none
  next := 0
  requests := 0
  freed := []
  live_iff _ := by simp
  freed_lt _ h := by cases h
  nodup := List.nodup_nil

variable (h : Heap β)

theorem lt_of_live {a : Nat} (hlive : (h.blocks a).isSome) : a < h.next :=
  ((h.live_iff a).mp hlive).1

theorem lt_of_some {a : Nat} {b : β} (hb : h.blocks a = some b) : a < h.next := by
  apply h.lt_of_live
  rw [hb]
  rfl

/-- A refused request. -/
def refuse : Heap β := { h with requests := h.requests + 1 }

/-- A granted request. -/
def add (b : β) : Heap β where
  blocks := Function.update h.blocks h.next (some b)
  next := h.next + 1
  requests := h.requests + 1
  freed := h.freed
  live_iff a := by
    by_cases ha : a = h.next
    · have hnot : h.next ∉ h.freed := fun hmem => Nat.lt_irrefl _ (h.freed_lt _ hmem)
      simp [ha, hnot]
    · rw [Function.update_of_ne ha, h.live_iff]
      constructor
      · exact fun hlive => ⟨by omega, hlive.2⟩
      · exact fun hlive => ⟨by omega, hlive.2⟩
  freed_lt a ha := Nat.lt_succ_of_lt (h.freed_lt a ha)
  nodup := h.nodup

/-- A live block gets a new value. -/
def set (a : Nat) (b : β) (hlive : (h.blocks a).isSome) : Heap β where
  blocks := Function.update h.blocks a (some b)
  next := h.next
  requests := h.requests
  freed := h.freed
  live_iff x := by
    rw [← h.live_iff]
    by_cases hx : x = a
    · simp [hx, hlive]
    · rw [Function.update_of_ne hx]
  freed_lt := h.freed_lt
  nodup := h.nodup

/-- A live block is freed. -/
def drop (a : Nat) (hlive : (h.blocks a).isSome) : Heap β where
  blocks := Function.update h.blocks a none
  next := h.next
  requests := h.requests
  freed := h.freed ++ [a]
  live_iff x := by
    by_cases hx : x = a
    · simp [hx]
    · rw [Function.update_of_ne hx, h.live_iff, List.mem_append, List.mem_singleton]
      simp [hx]
  freed_lt x hx := by
    rcases List.mem_append.mp hx with hx | hx
    · exact h.freed_lt x hx
    · rw [List.mem_singleton.mp hx]
      exact h.lt_of_live hlive
  nodup := by
    have hnot : a ∉ h.freed := ((h.live_iff a).mp hlive).2
    rw [List.nodup_append]
    refine ⟨h.nodup, List.nodup_singleton a, ?_⟩
    rintro x hx y hy rfl
    rw [List.mem_singleton.mp hy] at hx
    exact hnot hx

/-! ### What the operations change -/

@[simp] theorem add_next (b : β) : (h.add b).next = h.next + 1 := rfl

@[simp] theorem set_next {a : Nat} {b : β} {hlive : (h.blocks a).isSome} :
    (h.set a b hlive).next = h.next := rfl

@[simp] theorem add_here (b : β) : (h.add b).blocks h.next = some b := Function.update_self ..

theorem add_elsewhere {a : Nat} (b : β) (ha : a ≠ h.next) : (h.add b).blocks a = h.blocks a :=
  Function.update_of_ne ha ..

@[simp] theorem set_here {a : Nat} {b : β} {hlive : (h.blocks a).isSome} :
    (h.set a b hlive).blocks a = some b := Function.update_self ..

theorem set_elsewhere {a x : Nat} {b : β} {hlive : (h.blocks a).isSome} (hx : x ≠ a) :
    (h.set a b hlive).blocks x = h.blocks x := Function.update_of_ne hx ..

@[simp] theorem drop_here {a : Nat} {hlive : (h.blocks a).isSome} :
    (h.drop a hlive).blocks a = none := Function.update_self ..

theorem drop_elsewhere {a x : Nat} {hlive : (h.blocks a).isSome} (hx : x ≠ a) :
    (h.drop a hlive).blocks x = h.blocks x := Function.update_of_ne hx ..

/-- Blocks are only added, and frees are only recorded. -/
structure Extends (h₀ h : Heap β) : Prop where
  next_le : h₀.next ≤ h.next
  freed : h₀.freed <+: h.freed

namespace Extends

variable {h₀ h₁ h₂ : Heap β}

theorem refl (h : Heap β) : Extends h h := ⟨Nat.le_refl _, List.prefix_rfl⟩

theorem trans (h₀₁ : Extends h₀ h₁) (h₁₂ : Extends h₁ h₂) : Extends h₀ h₂ :=
  ⟨Nat.le_trans h₀₁.next_le h₁₂.next_le, h₀₁.freed.trans h₁₂.freed⟩

theorem refuse (h : Heap β) : Extends h h.refuse := ⟨Nat.le_refl _, List.prefix_rfl⟩

theorem add (h : Heap β) (b : β) : Extends h (h.add b) := ⟨Nat.le_succ _, List.prefix_rfl⟩

theorem set (h : Heap β) (a : Nat) (b : β) (hlive : (h.blocks a).isSome) :
    Extends h (h.set a b hlive) := ⟨Nat.le_refl _, List.prefix_rfl⟩

theorem drop (h : Heap β) (a : Nat) (hlive : (h.blocks a).isSome) :
    Extends h (h.drop a hlive) := ⟨Nat.le_refl _, List.prefix_append _ _⟩

end Extends

/-- From `h₀` to `h` exactly the blocks `l` were freed, and nothing else happened. -/
structure Frees (h₀ h : Heap β) (l : List Nat) : Prop where
  ext : Extends h₀ h
  next : h.next = h₀.next
  gone : ∀ a ∈ l, h.blocks a = none
  kept : ∀ a, a ∉ l → h.blocks a = h₀.blocks a

namespace Frees

variable {h₀ h₁ h₂ : Heap β} {l l₁ l₂ : List Nat}

theorem nil (h : Heap β) : Frees h h [] :=
  ⟨Extends.refl h, rfl, fun _ ha => absurd ha List.not_mem_nil, fun _ _ => rfl⟩

theorem drop (h : Heap β) (a : Nat) (hlive : (h.blocks a).isSome) :
    Frees h (h.drop a hlive) [a] := by
  refine ⟨Extends.drop h a hlive, rfl, fun x hx => ?_, fun x hx => ?_⟩
  · rw [List.mem_singleton.mp hx, drop_here]
  · exact h.drop_elsewhere (fun heq => hx (List.mem_singleton.mpr heq))

theorem append (h₀₁ : Frees h₀ h₁ l₁) (h₁₂ : Frees h₁ h₂ l₂) : Frees h₀ h₂ (l₁ ++ l₂) := by
  refine ⟨h₀₁.ext.trans h₁₂.ext, h₁₂.next.trans h₀₁.next, fun a ha => ?_, fun a ha => ?_⟩
  · by_cases h₂ : a ∈ l₂
    · exact h₁₂.gone a h₂
    · rw [h₁₂.kept a h₂]
      exact h₀₁.gone a ((List.mem_append.mp ha).resolve_right h₂)
  · rw [List.mem_append, not_or] at ha
    rw [h₁₂.kept a ha.2, h₀₁.kept a ha.1]

theorem congr (hfrees : Frees h₀ h₁ l₁) (hmem : ∀ a, a ∈ l₂ ↔ a ∈ l₁) : Frees h₀ h₁ l₂ :=
  ⟨hfrees.ext, hfrees.next, fun a ha => hfrees.gone a ((hmem a).mp ha),
    fun a ha => hfrees.kept a fun h => ha ((hmem a).mpr h)⟩

end Frees

/-- From `h₀` to `h` the old blocks did not change, and each new block was freed exactly once. -/
structure Balanced (h₀ h : Heap β) : Prop where
  old : ∀ a < h₀.next, h.blocks a = h₀.blocks a
  freed : ∃ blocks, h.freed = h₀.freed ++ blocks ∧
    blocks.Perm (List.range' h₀.next (h.next - h₀.next))

/-- **No block is left over:** if no new block is live, each has been freed exactly once. -/
theorem balanced_of_none {h₀ h : Heap β} (hext : Extends h₀ h)
    (hold : ∀ a < h₀.next, h.blocks a = h₀.blocks a)
    (hnew : ∀ a, h₀.next ≤ a → h.blocks a = none) : Balanced h₀ h := by
  obtain ⟨blocks, hblocks⟩ := hext.freed
  refine ⟨hold, blocks, hblocks.symm, ?_⟩
  have hnodup : (h₀.freed ++ blocks).Nodup := hblocks ▸ h.nodup
  have hdead : ∀ a, a ∈ h₀.freed ++ blocks ↔ a < h.next ∧ h.blocks a = none := by
    intro a
    rw [hblocks, ← Option.not_isSome_iff_eq_none, h.live_iff]
    constructor
    · exact fun hmem => ⟨h.freed_lt a hmem, fun hlive => hlive.2 hmem⟩
    · exact fun ⟨hlt, hnot⟩ => by_contra fun hmem => hnot ⟨hlt, hmem⟩
  rw [List.perm_ext_iff_of_nodup (List.nodup_append.mp hnodup).2.1 List.nodup_range']
  intro a
  rw [List.mem_range'_1]
  constructor
  · intro hmem
    obtain ⟨hlt, hnone⟩ := (hdead a).mp (List.mem_append_right _ hmem)
    -- an old block was freed before or is still live
    have hge : h₀.next ≤ a := by
      by_contra hlt₀
      rw [hold a (by omega), ← Option.not_isSome_iff_eq_none, h₀.live_iff] at hnone
      have hfreed : a ∈ h₀.freed := by_contra fun hmem => hnone ⟨by omega, hmem⟩
      exact (List.nodup_append.mp hnodup).2.2 a hfreed a hmem rfl
    omega
  · intro hrange
    have hmem := (hdead a).mpr ⟨by omega, hnew a hrange.1⟩
    rcases List.mem_append.mp hmem with hfreed | hmem
    · have hlt := h₀.freed_lt a hfreed
      omega
    · exact hmem

end Heap

/-! ## Programs -/

/-- A program on a heap; `none` if it uses a block that is not live. -/
abbrev HeapM (β α : Type) := StateT (Heap β) Option α

section

variable {β α γ : Type}

/-- The program is stopped. -/
def fault : HeapM β α := fun _ => none

/-- A request for a block; `grant` says which requests are granted. -/
def request (grant : Nat → Bool) (b : β) : HeapM β (Option Nat) := fun h =>
  some (if grant h.requests then (some h.next, h.add b) else (none, h.refuse))

def load (a : Nat) : HeapM β β := fun h => (h.blocks a).map fun b => (b, h)

def store (a : Nat) (b : β) : HeapM β Unit := fun h =>
  if hlive : (h.blocks a).isSome then some ((), h.set a b hlive) else none

def free (a : Nat) : HeapM β Unit := fun h =>
  if hlive : (h.blocks a).isSome then some ((), h.drop a hlive) else none

/-- From `h` the program is not stopped and ends as `Q` says. -/
def Runs (m : HeapM β α) (h : Heap β) (Q : α → Heap β → Prop) : Prop :=
  ∃ a h', m h = some (a, h') ∧ Q a h'

namespace Runs

variable {h : Heap β} {Q : α → Heap β → Prop}

theorem pure {a : α} (hQ : Q a h) : Runs (pure a) h Q := ⟨a, h, rfl, hQ⟩

theorem bind {m : HeapM β γ} {f : γ → HeapM β α}
    (hm : Runs m h fun c h' => Runs (f c) h' Q) : Runs (m >>= f) h Q := by
  obtain ⟨c, h', hrun, a, h'', hrun', hQ⟩ := hm
  refine ⟨a, h'', ?_, hQ⟩
  show (m h).bind (fun p => f p.1 p.2) = some (a, h'')
  rw [hrun]
  exact hrun'

theorem mono {m : HeapM β α} {Q' : α → Heap β → Prop} (hm : Runs m h Q')
    (hQ : ∀ a h', Q' a h' → Q a h') : Runs m h Q := by
  obtain ⟨a, h', hrun, hQ'⟩ := hm
  exact ⟨a, h', hrun, hQ a h' hQ'⟩

theorem load {a : Nat} {b : β} {Q : β → Heap β → Prop} (hb : h.blocks a = some b) (hQ : Q b h) :
    Runs (load a) h Q := by
  refine ⟨b, h, ?_, hQ⟩
  unfold Blocks.load
  rw [hb]
  rfl

theorem store {a : Nat} {b : β} {Q : Unit → Heap β → Prop} (hlive : (h.blocks a).isSome)
    (hQ : Q () (h.set a b hlive)) : Runs (store a b) h Q := by
  refine ⟨(), _, ?_, hQ⟩
  unfold Blocks.store
  rw [dif_pos hlive]

theorem free {a : Nat} {Q : Unit → Heap β → Prop} (hlive : (h.blocks a).isSome)
    (hQ : Q () (h.drop a hlive)) : Runs (free a) h Q := by
  refine ⟨(), _, ?_, hQ⟩
  unfold Blocks.free
  rw [dif_pos hlive]

theorem request {grant : Nat → Bool} {b : β} {Q : Option Nat → Heap β → Prop}
    (hgrant : Q (some h.next) (h.add b)) (hrefuse : Q none h.refuse) :
    Runs (request grant b) h Q := by
  unfold Runs Blocks.request
  cases grant h.requests with
  | true => exact ⟨_, _, rfl, hgrant⟩
  | false => exact ⟨_, _, rfl, hrefuse⟩

end Runs

/-! ## The requests of a program -/

/-- A program makes its requests in order, and what it does depends on the answers to these only. -/
def Asks (m : (Nat → Bool) → HeapM β α) : Prop :=
  ∀ grant h a h', m grant h = some (a, h') → h.requests ≤ h'.requests ∧
    ∀ grant', (∀ n, h.requests ≤ n → n < h'.requests → grant' n = grant n) →
      m grant' h = some (a, h')

namespace Asks

protected theorem pure (a : α) : Asks fun _ => (pure a : HeapM β α) := by
  intro grant h a' h' hrun
  obtain ⟨-, rfl⟩ := Prod.mk.inj (Option.some.inj hrun)
  exact ⟨le_rfl, fun _ _ => hrun⟩

protected theorem bind {m : (Nat → Bool) → HeapM β γ} {f : (Nat → Bool) → γ → HeapM β α}
    (hm : Asks m) (hf : ∀ c, Asks fun grant => f grant c) :
    Asks fun grant => m grant >>= f grant := by
  intro grant h a h' hrun
  obtain ⟨⟨c, h₁⟩, hfirst, hsecond⟩ := Option.bind_eq_some_iff.mp hrun
  obtain ⟨hle, hsame⟩ := hm grant h c h₁ hfirst
  obtain ⟨hle', hsame'⟩ := hf c grant h₁ a h' hsecond
  refine ⟨hle.trans hle', fun grant' hagree => ?_⟩
  have hfirst' := hsame grant' fun n hn hlt => hagree n hn (hlt.trans_le hle')
  have hsecond' := hsame' grant' fun n hn hlt => hagree n (hle.trans hn) hlt
  exact Option.bind_eq_some_iff.mpr ⟨(c, h₁), hfirst', hsecond'⟩

protected theorem fault : Asks fun _ => (fault : HeapM β α) := by
  intro grant h a h' hrun
  cases hrun

protected theorem request (b : β) : Asks fun grant => request grant b := by
  intro grant h a h' hrun
  have hnext : h'.requests = h.requests + 1 := by
    have hend := Option.some.inj hrun
    cases hgrant : grant h.requests with
    | true =>
      rw [hgrant] at hend
      exact congrArg (Heap.requests ∘ Prod.snd) hend.symm
    | false =>
      rw [hgrant] at hend
      exact congrArg (Heap.requests ∘ Prod.snd) hend.symm
  refine ⟨by omega, fun grant' hagree => ?_⟩
  have hanswer := hagree h.requests le_rfl (by omega)
  unfold Blocks.request at hrun ⊢
  dsimp only at hrun ⊢
  rw [hanswer]
  exact hrun

protected theorem load (a : Nat) : Asks fun _ => (load a : HeapM β β) := by
  intro grant h b h' hrun
  obtain ⟨b', -, hend⟩ := Option.map_eq_some_iff.mp hrun
  obtain ⟨-, rfl⟩ := Prod.mk.inj hend
  exact ⟨le_rfl, fun _ _ => hrun⟩

protected theorem store (a : Nat) (b : β) : Asks fun _ => store a b := by
  intro grant h u h' hrun
  refine ⟨?_, fun _ _ => hrun⟩
  unfold Blocks.store at hrun
  dsimp only at hrun
  split at hrun
  · exact le_of_eq (congrArg (Heap.requests ∘ Prod.snd) (Option.some.inj hrun))
  · cases hrun

protected theorem free (a : Nat) : Asks fun _ => (free a : HeapM β Unit) := by
  intro grant h u h' hrun
  refine ⟨?_, fun _ _ => hrun⟩
  unfold Blocks.free at hrun
  dsimp only at hrun
  split at hrun
  · exact le_of_eq (congrArg (Heap.requests ∘ Prod.snd) (Option.some.inj hrun))
  · cases hrun

protected theorem ite {c : Prop} [Decidable c] {m m' : (Nat → Bool) → HeapM β α} (hm : Asks m)
    (hm' : Asks m') : Asks fun grant => if c then m grant else m' grant := by
  split
  · exact hm
  · exact hm'

/-- What holds of a program under all answers holds as if the requests that it does not make were
granted. -/
theorem runs {m : (Nat → Bool) → HeapM β α} (hm : Asks m) {h : Heap β}
    {Q : (Nat → Bool) → α → Heap β → Prop} (hruns : ∀ grant, Runs (m grant) h (Q grant))
    (grant : Nat → Bool) : Runs (m grant) h fun a h' =>
      Q (fun n => if h.requests ≤ n ∧ n < h'.requests then grant n else true) a h' := by
  obtain ⟨a, h', hrun, -⟩ := hruns grant
  refine ⟨a, h', hrun, ?_⟩
  have hsame := (hm grant h a h' hrun).2
    (fun n => if h.requests ≤ n ∧ n < h'.requests then grant n else true)
    fun n hn hlt => if_pos ⟨hn, hlt⟩
  obtain ⟨a', h'', hrun', hQ⟩ :=
    hruns fun n => if h.requests ≤ n ∧ n < h'.requests then grant n else true
  obtain ⟨rfl, rfl⟩ := Prod.mk.inj (Option.some.inj (hrun'.symm.trans hsame))
  exact hQ

end Asks

end

end Blocks
