import CantianConnector.Pushdown.CondBlocks

/-!
# Trees of blocks

What `free_m_cond` needs: a tree of blocks (`Owned`) that stands in the heap (`Held`), each list
with the number of the nodes that are linked in it. From such a tree it frees every block, and each
block once (`freeMCond_spec`).
-/

namespace CantianConnector.Pushdown.Ownership

open CantianConnector.Convert Blocks

/-! ## Trees of blocks -/

/-- The blocks of a tree: a node with its value, or a node with its list and the nodes in it. -/
inductive Owned where
  | leaf (cond : Nat) (value : Option Nat)
  | branch (cond list : Nat) (children : List Owned)

namespace Owned

def root : Owned → Nat
  | leaf cond _ => cond
  | branch cond _ _ => cond

mutual

/-- The blocks below the root. -/
def inner : Owned → List Nat
  | leaf _ value => value.toList
  | branch _ list children => list :: blocksOf children

def blocksOf : List Owned → List Nat
  | [] => []
  | t :: rest => t.root :: t.inner ++ blocksOf rest

end

def blocks (t : Owned) : List Nat := t.root :: t.inner

theorem blocksOf_append (xs ys : List Owned) :
    blocksOf (xs ++ ys) = blocksOf xs ++ blocksOf ys := by
  induction xs with
  | nil => rfl
  | cons t rest ih => rw [List.cons_append, blocksOf, blocksOf, ih, List.append_assoc]

theorem mem_blocksOf {a : Nat} {children : List Owned} :
    a ∈ blocksOf children ↔ ∃ t ∈ children, a ∈ t.blocks := by
  induction children with
  | nil => simp [blocksOf]
  | cons t rest ih => rw [blocksOf, List.mem_append, ih, List.exists_mem_cons_iff, blocks]

theorem length_blocks_le {t : Owned} {children : List Owned} (ht : t ∈ children) :
    t.blocks.length ≤ (blocksOf children).length := by
  induction children with
  | nil => cases ht
  | cons first rest ih =>
    rw [blocksOf, List.length_append]
    rcases List.mem_cons.mp ht with rfl | ht
    · exact Nat.le_add_right _ _
    · exact Nat.le_trans (ih ht) (Nat.le_add_left _ _)

/-- Induction over a tree: a branch may use all its children. -/
theorem induction {P : Owned → Prop} (hleaf : ∀ cond value, P (leaf cond value))
    (hbranch : ∀ cond list children, (∀ t ∈ children, P t) → P (branch cond list children)) :
    ∀ t, P t
  | leaf cond value => hleaf cond value
  | branch cond list children =>
    hbranch cond list children fun t _ => induction hleaf hbranch t

end Owned

open Owned

/-- The node behind the first of `children`, or else `tail`. -/
def firstOr (children : List Owned) (tail : Option Nat) : Option Nat :=
  match children with
  | [] => tail
  | t :: _ => some t.root

mutual

/-- The blocks of the tree stand in the heap; `next` is the link of the root. -/
def Held (h : Heap Block) : Owned → Option Nat → Prop
  | .leaf cond value, next =>
    (∃ ct ft, h.blocks cond = some (.node ⟨ct, ft, value, none, next⟩)) ∧
      ∀ v ∈ value, ∃ size, h.blocks v = some (.bytes size)
  | .branch cond list children, next =>
    (∃ ct ft, ct ≠ .const ∧ h.blocks cond = some (.node ⟨ct, ft, none, some list, next⟩)) ∧
      h.blocks list =
        some (.list ⟨firstOr children none, (children.map root).getLast?, children.length⟩) ∧
      HeldChain h children none

/-- The trees stand in the heap and are linked; `tail` is the link of the last. -/
def HeldChain (h : Heap Block) : List Owned → Option Nat → Prop
  | [], _ => True
  | t :: rest, tail => Held h t (firstOr rest tail) ∧ HeldChain h rest tail

end

section

variable {h h' : Heap Block} {next tail : Option Nat}

/-- A chain is held if its trees are, each with the link to the one behind. -/
theorem heldChain_append (xs ys : List Owned) :
    HeldChain h (xs ++ ys) tail ↔ HeldChain h xs (firstOr ys tail) ∧ HeldChain h ys tail := by
  induction xs with
  | nil => simp [HeldChain]
  | cons t rest ih =>
    have hfirst : firstOr (rest ++ ys) tail = firstOr rest (firstOr ys tail) := by
      cases rest with
      | nil => rfl
      | cons => rfl
    rw [List.cons_append, HeldChain, HeldChain, ih, hfirst, and_assoc]

/-- Each tree of a chain is held. -/
theorem HeldChain.held {children : List Owned} (hchain : HeldChain h children tail) {t : Owned}
    (ht : t ∈ children) : ∃ next, Held h t next := by
  induction children with
  | nil => cases ht
  | cons first rest ih =>
    obtain ⟨hfirst, hrest⟩ := hchain
    rcases List.mem_cons.mp ht with rfl | ht
    · exact ⟨_, hfirst⟩
    · exact ih hrest ht

theorem HeldChain.mono {children : List Owned} (hchain : HeldChain h children tail)
    (hall : ∀ t ∈ children, ∀ next, Held h t next → Held h' t next) :
    HeldChain h' children tail := by
  induction children with
  | nil => trivial
  | cons t rest ih =>
    obtain ⟨ht, hrest⟩ := hchain
    exact ⟨hall t List.mem_cons_self _ ht,
      ih hrest fun t ht => hall t (List.mem_cons_of_mem _ ht)⟩

/-- A tree is held as long as its blocks stay. -/
theorem Held.congr {t : Owned} (hheld : Held h t next)
    (heq : ∀ a ∈ t.blocks, h'.blocks a = h.blocks a) : Held h' t next := by
  induction t using Owned.induction generalizing next with
  | hleaf cond value =>
    obtain ⟨⟨ct, ft, hcond⟩, hvalue⟩ := hheld
    refine ⟨⟨ct, ft, by rw [heq cond List.mem_cons_self, hcond]⟩, fun v hv => ?_⟩
    obtain ⟨size, hsize⟩ := hvalue v hv
    have hmem : v ∈ (Owned.leaf cond value).blocks :=
      List.mem_cons_of_mem _ (Option.mem_toList.mpr hv)
    exact ⟨size, by rw [heq v hmem, hsize]⟩
  | hbranch cond list children ih =>
    obtain ⟨⟨ct, ft, hct, hcond⟩, hlist, hchain⟩ := hheld
    refine ⟨⟨ct, ft, hct, by rw [heq cond List.mem_cons_self, hcond]⟩, ?_, ?_⟩
    · rw [heq list (List.mem_cons_of_mem _ List.mem_cons_self), hlist]
    · apply hchain.mono
      intro t ht next hheld
      apply ih t ht hheld
      intro a ha
      exact heq a (List.mem_cons_of_mem _ (List.mem_cons_of_mem _ (mem_blocksOf.mpr ⟨t, ht, ha⟩)))

theorem HeldChain.congr {children : List Owned} (hchain : HeldChain h children tail)
    (heq : ∀ a ∈ blocksOf children, h'.blocks a = h.blocks a) : HeldChain h' children tail := by
  apply hchain.mono
  intro t ht next hheld
  apply hheld.congr
  exact fun a ha => heq a (mem_blocksOf.mpr ⟨t, ht, ha⟩)

/-- The node of the root, whatever else it holds. -/
theorem Held.root {t : Owned} (hheld : Held h t next) :
    ∃ ct ft value list, h.blocks t.root = some (.node ⟨ct, ft, value, list, next⟩) := by
  cases t with
  | leaf cond value =>
    obtain ⟨⟨ct, ft, hcond⟩, -⟩ := hheld
    exact ⟨ct, ft, value, none, hcond⟩
  | branch cond list children =>
    obtain ⟨⟨ct, ft, -, hcond⟩, -⟩ := hheld
    exact ⟨ct, ft, none, some list, hcond⟩

/-- Every block of a tree is live. -/
theorem Held.live {t : Owned} (hheld : Held h t next) {a : Nat} (ha : a ∈ t.blocks) :
    (h.blocks a).isSome := by
  induction t using Owned.induction generalizing next with
  | hleaf cond value =>
    obtain ⟨⟨ct, ft, hcond⟩, hvalue⟩ := hheld
    rcases List.mem_cons.mp ha with rfl | ha
    · exact Option.isSome_of_mem hcond
    · obtain ⟨size, hsize⟩ := hvalue a (Option.mem_toList.mp ha)
      exact Option.isSome_of_mem hsize
  | hbranch cond list children ih =>
    obtain ⟨⟨ct, ft, -, hcond⟩, hlist, hchain⟩ := hheld
    rcases List.mem_cons.mp ha with rfl | ha
    · exact Option.isSome_of_mem hcond
    rcases List.mem_cons.mp ha with rfl | ha
    · exact Option.isSome_of_mem hlist
    · obtain ⟨t, ht, hmem⟩ := mem_blocksOf.mp ha
      obtain ⟨next, hnext⟩ := hchain.held ht
      exact ih t ht hnext hmem

/-- What a node says of its list: a literal has none, and the list of another is live. -/
def ListOk (h : Heap Block) (n : CondNode) : Prop :=
  (n.condType = .const → n.condList = none) ∧
    ∀ list, n.condList = some list → ∃ l, h.blocks list = some (.list l)

theorem Held.listOk {t : Owned} (hheld : Held h t next) {a : Nat} (ha : a ∈ t.blocks)
    {n : CondNode} (hn : h.blocks a = some (.node n)) : ListOk h n := by
  induction t using Owned.induction generalizing next with
  | hleaf cond value =>
    obtain ⟨⟨ct, ft, hcond⟩, hvalue⟩ := hheld
    rcases List.mem_cons.mp ha with rfl | ha
    · obtain rfl := Block.node.inj (Option.some.inj (hn.symm.trans hcond))
      exact ⟨fun _ => rfl, fun list hlist => by cases hlist⟩
    · obtain ⟨size, hsize⟩ := hvalue a (Option.mem_toList.mp ha)
      rw [hsize] at hn
      cases hn
  | hbranch cond list children ih =>
    obtain ⟨⟨ct, ft, hct, hcond⟩, hlist, hchain⟩ := hheld
    rcases List.mem_cons.mp ha with rfl | ha
    · obtain rfl := Block.node.inj (Option.some.inj (hn.symm.trans hcond))
      refine ⟨fun hconst => absurd hconst hct, fun l hl => ?_⟩
      obtain rfl := Option.some.inj hl
      exact ⟨_, hlist⟩
    rcases List.mem_cons.mp ha with rfl | ha
    · rw [hlist] at hn
      cases hn
    · obtain ⟨t, ht, hmem⟩ := mem_blocksOf.mp ha
      obtain ⟨next, hnext⟩ := hchain.held ht
      exact ih t ht hnext hmem

end

/-! ## Runs on nodes and lists -/

section

variable {h : Heap Block} {a : Nat} {n : CondNode} {Q : Unit → Heap Block → Prop}

theorem Runs.loadNode {Q : CondNode → Heap Block → Prop} (hn : h.blocks a = some (.node n))
    (hQ : Q n h) : Runs (loadNode a) h Q := Runs.bind (Runs.load hn (Runs.pure hQ))

theorem Runs.loadList {l : CondList} {Q : CondList → Heap Block → Prop}
    (hl : h.blocks a = some (.list l)) (hQ : Q l h) : Runs (loadList a) h Q :=
  Runs.bind (Runs.load hl (Runs.pure hQ))

theorem Runs.modifyNode {f : CondNode → CondNode} (hn : h.blocks a = some (.node n))
    (hQ : Q () (h.set a (.node (f n)) (Option.isSome_of_mem hn))) : Runs (modifyNode a f) h Q :=
  Runs.bind (Runs.loadNode hn (Runs.store _ hQ))

end

/-! ## Freeing a tree -/

section

variable {h : Heap Block} {next : Option Nat}

/-- From the tree exactly its blocks are freed. -/
def FreesTree (depth : Nat) (t : Owned) : Prop :=
  ∀ (h : Heap Block) (next : Option Nat), Held h t next → t.blocks.Nodup →
    Runs (freeToDepth depth (some t.root)) h fun _ h' => h.Frees h' t.blocks

/-- The loop frees the trees of a chain. Each link is read before its node is freed. -/
theorem freeNodes_spec {depth : Nat} {children : List Owned}
    (hfrees : ∀ t ∈ children, FreesTree depth t) (hchain : HeldChain h children none)
    (hnodup : (blocksOf children).Nodup) :
    Runs (freeNodes (freeToDepth depth) children.length (firstOr children none)) h
      fun _ h' => h.Frees h' (blocksOf children) := by
  induction children generalizing h with
  | nil => exact Runs.pure (Heap.Frees.nil h)
  | cons t rest ih =>
    obtain ⟨ht, hrest⟩ := hchain
    obtain ⟨ct, ft, value, list, hroot⟩ := ht.root
    obtain ⟨hnodupT, hnodupRest, hdisjoint⟩ := List.nodup_append.mp hnodup
    refine Runs.bind (Runs.loadNode hroot (Runs.bind ?_))
    apply (hfrees t List.mem_cons_self h _ ht hnodupT).mono
    intro _ h₁ hfreed
    have hkept : HeldChain h₁ rest none := by
      apply hrest.congr
      intro a ha
      exact hfreed.kept a fun hmem => hdisjoint a hmem a ha rfl
    apply (ih (fun t ht => hfrees t (List.mem_cons_of_mem _ ht)) hkept hnodupRest).mono
    intro _ h₂ hfreedRest
    exact hfreed.append hfreedRest

/-- A node whose value is none or a block of its own. -/
theorem freeFieldValue_spec {cond : Nat} {n : CondNode} (hcond : h.blocks cond = some (.node n))
    (hvalue : ∀ v ∈ n.fieldValue, ∃ size, h.blocks v = some (.bytes size)) :
    Runs (freeFieldValue cond) h fun _ h' =>
      ∃ hlive : (h'.blocks cond).isSome,
        h.Frees (h'.drop cond hlive) (cond :: n.fieldValue.toList) := by
  refine Runs.bind (Runs.loadNode hcond ?_)
  cases hv : n.fieldValue with
  | none => exact Runs.pure ⟨Option.isSome_of_mem hcond, Heap.Frees.drop h cond _⟩
  | some v =>
    obtain ⟨size, hsize⟩ := hvalue v hv
    have hne : cond ≠ v := by
      rintro rfl
      rw [hcond] at hsize
      cases hsize
    have hlive : (h.blocks v).isSome := Option.isSome_of_mem hsize
    have hcond' : (h.drop v hlive).blocks cond = some (.node n) :=
      (h.drop_elsewhere hne).trans hcond
    refine Runs.bind (Runs.free hlive (Runs.modifyNode hcond' ?_))
    refine ⟨by rw [Heap.set_here]; rfl, ?_⟩
    refine ⟨(Heap.Extends.drop h v hlive).trans ((Heap.Extends.set _ _ _ _).trans
      (Heap.Extends.drop _ _ _)), rfl, fun a ha => ?_, fun a ha => ?_⟩
    · by_cases hac : a = cond
      · rw [hac, Heap.drop_here]
      · have hav : a = v := by simpa [hac] using ha
        rw [Heap.drop_elsewhere _ hac, Heap.set_elsewhere _ hac, hav, Heap.drop_here]
    · rw [List.mem_cons, not_or] at ha
      have hav : a ≠ v := fun heq => ha.2 (by simp [heq])
      rw [Heap.drop_elsewhere _ ha.1, Heap.set_elsewhere _ ha.1, Heap.drop_elsewhere _ hav]

/-- **`free_m_cond` frees a tree:** every block of it, once, and no other block. -/
theorem freeToDepth_spec (t : Owned) (depth : Nat) (hdepth : t.blocks.length ≤ depth) :
    FreesTree depth t := by
  induction t using Owned.induction generalizing depth with
  | hleaf cond value =>
    intro h next hheld hnodup
    obtain ⟨⟨ct, ft, hcond⟩, hvalue⟩ := hheld
    cases depth with
    | zero => cases hdepth
    | succ depth =>
      refine Runs.bind (Runs.loadNode hcond (Runs.bind (Runs.pure (Runs.bind ?_))))
      apply (freeFieldValue_spec hcond hvalue).mono
      rintro _ h' ⟨hlive, hfrees⟩
      exact Runs.free hlive hfrees
  | hbranch cond list children ih =>
    intro h next hheld hnodup
    obtain ⟨⟨ct, ft, hct, hcond⟩, hlist, hchain⟩ := hheld
    cases depth with
    | zero => cases hdepth
    | succ depth =>
      obtain ⟨hcondNot, hnodup⟩ := List.nodup_cons.mp hnodup
      obtain ⟨hlistNot, hnodup⟩ := List.nodup_cons.mp hnodup
      have hfrees : ∀ t ∈ children, FreesTree depth t := by
        intro t ht
        apply ih t ht
        have hlen := Owned.length_blocks_le ht
        simp only [Owned.blocks, Owned.inner, List.length_cons] at hdepth hlen ⊢
        omega
      refine Runs.bind (Runs.loadNode hcond (Runs.bind (Runs.bind (Runs.loadList hlist
        (Runs.bind ?_)))))
      apply (freeNodes_spec hfrees hchain hnodup).mono
      intro _ h₁ hfreed
      have hlist₁ : h₁.blocks list = _ := (hfreed.kept list hlistNot).trans hlist
      refine Runs.free (Option.isSome_of_mem hlist₁) (Runs.bind ?_)
      have hne : cond ≠ list := fun heq => hcondNot (heq ▸ List.mem_cons_self)
      have hnot : cond ∉ blocksOf children := fun hmem => hcondNot (List.mem_cons_of_mem _ hmem)
      have hcond₂ : (h₁.drop list (Option.isSome_of_mem hlist₁)).blocks cond = _ :=
        (h₁.drop_elsewhere hne).trans ((hfreed.kept cond hnot).trans hcond)
      apply (freeFieldValue_spec hcond₂ fun v hv => by cases hv).mono
      rintro _ h' ⟨hlive, hfrees⟩
      refine Runs.free hlive (((hfreed.append (Heap.Frees.drop h₁ list _)).append hfrees).congr ?_)
      intro a
      simp only [Owned.blocks, Owned.root, Owned.inner, List.mem_cons, List.mem_append,
        Option.toList_none, List.not_mem_nil]
      tauto

theorem freeMCond_spec {t : Owned} (hheld : Held h t next) (hnodup : t.blocks.Nodup) :
    Runs (freeMCond (some t.root)) h fun _ h' => h.Frees h' t.blocks := by
  have hsub : t.blocks ⊆ List.range h.next := by
    intro a ha
    exact List.mem_range.mpr (h.lt_of_live (hheld.live ha))
  have hlen : t.blocks.length ≤ h.next := by
    have hle := (List.subperm_of_subset hnodup hsub).length_le
    rwa [List.length_range] at hle
  exact freeToDepth_spec t h.next hlen h next hheld hnodup

end

end CantianConnector.Pushdown.Ownership
