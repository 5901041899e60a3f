import CantianConnector.Lib.Blocks
import Mathlib.Algebra.Order.Group.Multiset

/-!
# Cells

What a program knows of the blocks that it has added to a heap: where they are and what is in them.
With one rule for each operation a proof about a program carries the cells along. A program that has
no cells left has freed each of its blocks exactly once (`Cells.balanced`).
-/

namespace Blocks

variable {β : Type}

/-- Since `h₀` the blocks `cells` were added, with these values; other blocks are as before. -/
structure Cells (h₀ : Heap β) (cells : Multiset (Nat × β)) (h : Heap β) : Prop where
  ext : h₀.Extends h
  nodup : (cells.map Prod.fst).Nodup
  new : ∀ c ∈ cells, h₀.next ≤ c.1
  cell : ∀ c ∈ cells, h.blocks c.1 = some c.2
  rest : ∀ a, a ∉ cells.map Prod.fst → h.blocks a = h₀.blocks a

theorem addrs_add (a : Nat) (b : β) (cells : Multiset (Nat × β)) :
    ({(a, b)} + cells).map Prod.fst = a ::ₘ cells.map Prod.fst := by
  rw [Multiset.map_add, Multiset.map_singleton, Multiset.singleton_add]

theorem notMem_addrs {x a : Nat} {b : β} {cells : Multiset (Nat × β)} :
    x ∉ ({(a, b)} + cells).map Prod.fst ↔ x ≠ a ∧ x ∉ cells.map Prod.fst := by
  rw [addrs_add, Multiset.mem_cons, not_or]

theorem mem_add_self (c : Nat × β) (cells : Multiset (Nat × β)) : c ∈ {c} + cells :=
  Multiset.mem_add.mpr (.inl (Multiset.mem_singleton_self c))

theorem forall_mem_add {P : Nat × β → Prop} {c₀ : Nat × β} {cells : Multiset (Nat × β)} :
    (∀ c ∈ {c₀} + cells, P c) ↔ P c₀ ∧ ∀ c ∈ cells, P c := by
  rw [Multiset.singleton_add, Multiset.forall_mem_cons]

namespace Cells

variable {h₀ h : Heap β} {cells cells' : Multiset (Nat × β)} {a : Nat} {b : β}

theorem start (h : Heap β) : Cells h 0 h where
  ext := Heap.Extends.refl h
  nodup := Multiset.nodup_zero
  new _ hc := absurd hc (Multiset.notMem_zero _)
  cell _ hc := absurd hc (Multiset.notMem_zero _)
  rest _ _ := rfl

theorem congr (hcells : Cells h₀ cells h) (heq : cells = cells') : Cells h₀ cells' h := heq ▸ hcells

theorem live (hcells : Cells h₀ ({(a, b)} + cells) h) : (h.blocks a).isSome :=
  Option.isSome_of_eq_some (hcells.cell (a, b) (mem_add_self _ _))

theorem nodup_add (hcells : Cells h₀ ({(a, b)} + cells) h) :
    a ∉ cells.map Prod.fst ∧ (cells.map Prod.fst).Nodup := by
  have hnodup := hcells.nodup
  rw [addrs_add, Multiset.nodup_cons] at hnodup
  exact hnodup

/-- The address of one cell is not that of another. -/
theorem ne_of_mem (hcells : Cells h₀ ({(a, b)} + cells) h) {c : Nat × β} (hc : c ∈ cells) :
    c.1 ≠ a := by
  intro heq
  apply hcells.nodup_add.1
  rw [← heq]
  exact Multiset.mem_map_of_mem Prod.fst hc

/-- A block that is new was not live before. -/
theorem old_none (hcells : Cells h₀ ({(a, b)} + cells) h) : h₀.blocks a = none := by
  have hge : h₀.next ≤ a := (forall_mem_add.mp hcells.new).1
  rw [← Option.not_isSome_iff_eq_none]
  exact fun hlive => Nat.lt_irrefl _ ((h₀.lt_of_live hlive).trans_le hge)

theorem refuse (hcells : Cells h₀ cells h) : Cells h₀ cells h.refuse where
  ext := hcells.ext.trans (Heap.Extends.refuse h)
  nodup := hcells.nodup
  new := hcells.new
  cell := hcells.cell
  rest := hcells.rest

theorem add (hcells : Cells h₀ cells h) (b : β) :
    Cells h₀ ({(h.next, b)} + cells) (h.add b) where
  ext := hcells.ext.trans (Heap.Extends.add h b)
  nodup := by
    rw [addrs_add, Multiset.nodup_cons]
    refine ⟨?_, hcells.nodup⟩
    intro hmem
    obtain ⟨c, hc, hnext⟩ := Multiset.mem_map.mp hmem
    exact Nat.lt_irrefl _ (hnext ▸ h.lt_of_some (hcells.cell c hc))
  new := forall_mem_add.mpr ⟨hcells.ext.next_le, hcells.new⟩
  cell := by
    rw [forall_mem_add]
    refine ⟨h.add_here b, ?_⟩
    intro c hc
    have hlt := h.lt_of_some (hcells.cell c hc)
    rw [h.add_elsewhere b (Nat.ne_of_lt hlt)]
    exact hcells.cell c hc
  rest x hx := by
    rw [notMem_addrs] at hx
    rw [h.add_elsewhere b hx.1]
    exact hcells.rest x hx.2

theorem set (hcells : Cells h₀ ({(a, b)} + cells) h) (b' : β) :
    Cells h₀ ({(a, b')} + cells) (h.set a b' hcells.live) where
  ext := hcells.ext.trans (Heap.Extends.set h a b' hcells.live)
  nodup := by
    rw [addrs_add, Multiset.nodup_cons]
    exact hcells.nodup_add
  new := forall_mem_add.mpr (forall_mem_add.mp hcells.new)
  cell := by
    rw [forall_mem_add]
    refine ⟨h.set_here, ?_⟩
    intro c hc
    rw [h.set_elsewhere (hcells.ne_of_mem hc)]
    exact (forall_mem_add.mp hcells.cell).2 c hc
  rest x hx := by
    rw [notMem_addrs] at hx
    rw [h.set_elsewhere hx.1]
    exact hcells.rest x (notMem_addrs.mpr hx)

theorem drop (hcells : Cells h₀ ({(a, b)} + cells) h) :
    Cells h₀ cells (h.drop a hcells.live) where
  ext := hcells.ext.trans (Heap.Extends.drop h a hcells.live)
  nodup := hcells.nodup_add.2
  new := (forall_mem_add.mp hcells.new).2
  cell c hc := by
    rw [h.drop_elsewhere (hcells.ne_of_mem hc)]
    exact (forall_mem_add.mp hcells.cell).2 c hc
  rest x hx := by
    by_cases hxa : x = a
    · rw [hxa, h.drop_here, hcells.old_none]
    · rw [h.drop_elsewhere hxa]
      exact hcells.rest x (notMem_addrs.mpr ⟨hxa, hx⟩)

/-- **No cells are left over:** the old blocks are as before, and each new one was freed exactly
once. -/
theorem balanced (hcells : Cells h₀ 0 h) : Heap.Balanced h₀ h := by
  have hsame : ∀ a, h.blocks a = h₀.blocks a :=
    fun a => hcells.rest a (Multiset.notMem_zero a)
  apply Heap.balanced_of_none hcells.ext
  · exact fun a _ => hsame a
  · intro a hge
    rw [hsame, ← Option.not_isSome_iff_eq_none]
    exact fun hlive => Nat.lt_irrefl _ ((h₀.lt_of_live hlive).trans_le hge)

/-- Programs that leave no cells compose. -/
theorem zero_trans {h₁ h₂ : Heap β} (h₀₁ : Cells h₀ 0 h₁) (h₁₂ : Cells h₁ 0 h₂) :
    Cells h₀ 0 h₂ where
  ext := h₀₁.ext.trans h₁₂.ext
  nodup := Multiset.nodup_zero
  new _ hc := absurd hc (Multiset.notMem_zero _)
  cell _ hc := absurd hc (Multiset.notMem_zero _)
  rest a ha := (h₁₂.rest a ha).trans (h₀₁.rest a ha)

/-! ## Rules -/

theorem runs_request {grant : Nat → Bool} {Q : Option Nat → Heap β → Prop}
    (hcells : Cells h₀ cells h) (b : β)
    (hgrant : ∀ a h', Cells h₀ ({(a, b)} + cells) h' → Q (some a) h')
    (hrefuse : ∀ h', Cells h₀ cells h' → (∃ n, grant n = false) → Q none h') :
    Runs (request grant b) h Q := by
  unfold Runs request
  cases hg : grant h.requests with
  | true => exact ⟨_, _, rfl, hgrant _ _ (hcells.add b)⟩
  | false => exact ⟨_, _, rfl, hrefuse _ hcells.refuse ⟨_, hg⟩⟩

theorem runs_load {Q : β → Heap β → Prop} (hcells : Cells h₀ cells h) (hmem : (a, b) ∈ cells)
    (hQ : Q b h) : Runs (load a) h Q :=
  Runs.load (hcells.cell (a, b) hmem) hQ

theorem runs_store {Q : Unit → Heap β → Prop} (hcells : Cells h₀ ({(a, b)} + cells) h) (b' : β)
    (hQ : ∀ h', Cells h₀ ({(a, b')} + cells) h' → Q () h') : Runs (store a b') h Q :=
  Runs.store hcells.live (hQ _ (hcells.set b'))

theorem runs_free {Q : Unit → Heap β → Prop} (hcells : Cells h₀ ({(a, b)} + cells) h)
    (hQ : ∀ h', Cells h₀ cells h' → Q () h') : Runs (free a) h Q :=
  Runs.free hcells.live (hQ _ hcells.drop)

end Cells

end Blocks
