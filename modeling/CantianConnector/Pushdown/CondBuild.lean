import CantianConnector.Pushdown.CondTree

/-!
# Building a tree of blocks

At every point where `dfs_fill_conds` can end, the blocks that were allocated and not given back
form a tree that hangs from its node (`Built`, `dfsFillConds_spec`). A node is linked before it is
filled, so the tree is whole even if the fill fails; a date gives its list back and clears the
pointer; the buffer of a decimal is gone at the end (`Built.buffer`).
-/

namespace CantianConnector.Pushdown.Ownership

open CantianConnector.Convert Blocks

open Owned

/-! ## Building a tree -/

/-- From `h₀` the tree was built below its root. Apart from the root, the old blocks are as they
were, but for the operator in the node behind `functype`. -/
structure Built (h₀ h : Heap Block) (t : Owned) (next functype : Option Nat) : Prop where
  ext : h₀.Extends h
  held : Held h t next
  nodup : t.inner.Nodup
  root_lt : t.root < h₀.next
  fresh : ∀ a ∈ t.inner, h₀.next ≤ a
  live : ∀ a, h₀.next ≤ a → (h.blocks a).isSome → a ∈ t.inner
  kept : ∀ a < h₀.next, a ≠ t.root → functype ≠ some a → h.blocks a = h₀.blocks a
  parent_ne : functype ≠ some t.root
  parent : ∀ p, functype = some p → ∃ n ft, h₀.blocks p = some (.node n) ∧
    h.blocks p = some (.node { n with funcType := ft })

section

variable {h₀ h : Heap Block} {t : Owned} {cond : Nat} {value next functype : Option Nat}

theorem Built.start {ct : CtcCond} {ft : CtcFunc}
    (hcond : h.blocks cond = some (.node ⟨ct, ft, none, none, next⟩))
    (hne : functype ≠ some cond)
    (hparent : ∀ p, functype = some p → ∃ n, h.blocks p = some (.node n)) :
    Built h h (.leaf cond none) next functype where
  ext := Heap.Extends.refl h
  held := ⟨⟨ct, ft, hcond⟩, fun v hv => by cases hv⟩
  nodup := List.nodup_nil
  root_lt := h.lt_of_some hcond
  fresh a ha := by cases ha
  live a hle hlive := by
    have hlt := h.lt_of_live hlive
    omega
  kept _ _ _ _ := rfl
  parent_ne := hne
  parent p hp := by
    obtain ⟨n, hn⟩ := hparent p hp
    exact ⟨n, n.funcType, hn, hn⟩

theorem Built.refuse (hb : Built h₀ h t next functype) : Built h₀ h.refuse t next functype :=
  { hb with ext := hb.ext.trans (Heap.Extends.refuse h), held := hb.held.congr fun _ _ => rfl }

/-- `ctc_alloc_buf` returned a null pointer. -/
theorem Built.notGranted {h' : Heap Block} (hb : Built h₀ h t next functype)
    (hnull : h' = h ∨ h' = h.refuse) : Built h₀ h' t next functype := by
  rcases hnull with rfl | rfl
  · exact hb
  · exact hb.refuse

theorem Built.root_ne_parent (hb : Built h₀ h t next functype) {p : Nat} (hp : functype = some p) :
    p ≠ t.root := fun heq => hb.parent_ne (heq ▸ hp)

/-- A step that leaves the old blocks other than the root alone. -/
theorem Built.step {h' : Heap Block} {t' : Owned} (hb : Built h₀ h t next functype)
    (hroot : t'.root = t.root) (hext : h.Extends h') (hheld : Held h' t' next)
    (hnodup : t'.inner.Nodup) (hfresh : ∀ a ∈ t'.inner, h₀.next ≤ a)
    (hlive : ∀ a, h₀.next ≤ a → (h'.blocks a).isSome → a ∈ t'.inner)
    (hold : ∀ a < h₀.next, a ≠ t.root → h'.blocks a = h.blocks a) :
    Built h₀ h' t' next functype where
  ext := hb.ext.trans hext
  held := hheld
  nodup := hnodup
  root_lt := hroot ▸ hb.root_lt
  fresh := hfresh
  live := hlive
  kept a ha hneRoot hneParent := by
    rw [hroot] at hneRoot
    rw [hold a ha hneRoot, hb.kept a ha hneRoot hneParent]
  parent_ne := hroot ▸ hb.parent_ne
  parent p hp := by
    obtain ⟨n, ft, hn, hnow⟩ := hb.parent p hp
    exact ⟨n, ft, hn, by rw [hold p (h₀.lt_of_some hn) (hb.root_ne_parent hp), hnow]⟩

/-- The root may be written. -/
theorem Built.setRoot (hb : Built h₀ h t next functype) {t' : Owned} {b : Block}
    {hlive : (h.blocks t.root).isSome} (hroot : t'.root = t.root) (hinner : t'.inner = t.inner)
    (hheld : Held (h.set t.root b hlive) t' next) :
    Built h₀ (h.set t.root b hlive) t' next functype := by
  have hlt := hb.root_lt
  refine hb.step hroot (Heap.Extends.set h _ b _) hheld (hinner ▸ hb.nodup) (hinner ▸ hb.fresh) ?_
    fun a _ hne => h.set_elsewhere hne
  intro a ha hset
  have hne : a ≠ t.root := by omega
  rw [h.set_elsewhere hne] at hset
  rw [hinner]
  exact hb.live a ha hset

/-! ### Leaves -/

theorem Built.modifyLeaf {Q : Unit → Heap Block → Prop} {f : CondNode → CondNode}
    (hb : Built h₀ h (.leaf cond value) next functype)
    (hf : ∀ ct ft, ∃ ct' ft', f ⟨ct, ft, value, none, next⟩ = ⟨ct', ft', value, none, next⟩)
    (hQ : ∀ h', Built h₀ h' (.leaf cond value) next functype → Q () h') :
    Runs (modifyNode cond f) h Q := by
  obtain ⟨⟨ct, ft, hcond⟩, hvalue⟩ := hb.held
  obtain ⟨ct', ft', hnode⟩ := hf ct ft
  refine Runs.modifyNode hcond (hQ _ (hb.setRoot rfl rfl ⟨⟨ct', ft', ?_⟩, fun v hv => ?_⟩))
  · rw [← hnode]
    exact h.set_here
  · obtain ⟨size, hsize⟩ := hvalue v hv
    have hne : v ≠ cond := by
      rintro rfl
      rw [hcond] at hsize
      cases hsize
    exact ⟨size, (h.set_elsewhere hne).trans hsize⟩

/-- What a fill function does to a leaf: it may give it a value. -/
def FillsLeaf (m : HeapM Block Bool) (cond : Nat) (functype : Option Nat) : Prop :=
  ∀ (h₀ h : Heap Block) (next : Option Nat), Built h₀ h (.leaf cond none) next functype →
    Runs m h fun _ h' => ∃ value, Built h₀ h' (.leaf cond value) next functype

theorem FillsLeaf.return (b : Bool) : FillsLeaf (return b) cond functype :=
  fun _ _ _ hb => Runs.pure ⟨none, hb⟩

theorem FillsLeaf.setCondType {m : HeapM Block Bool} {ct : CtcCond}
    (hm : FillsLeaf m cond functype) :
    FillsLeaf (do setCondType cond ct; m) cond functype := by
  intro h₀ h next hb
  refine Runs.bind (hb.modifyLeaf (fun _ ft => ⟨ct, ft, rfl⟩) fun h' hb' => ?_)
  exact hm h₀ h' next hb'

end

section

variable {grant : Nat → Bool} {h₀ h : Heap Block} {cond : Nat} {next functype : Option Nat}

theorem Runs.ctcAllocBuf {b : Block} {Q : Option Nat → Heap Block → Prop}
    (hgrant : Q (some h.next) (h.add b)) (hnull : ∀ h', h' = h ∨ h' = h.refuse → Q none h') :
    Runs (ctcAllocBuf grant b) h Q := by
  unfold Ownership.ctcAllocBuf
  split
  · exact Runs.pure (hnull h (.inl rfl))
  · exact Runs.request hgrant (hnull h.refuse (.inr rfl))

/-- A block is added, and the root is written so that the tree has it. -/
theorem Built.addToLeaf (hb : Built h₀ h (.leaf cond none) next functype) {b b' : Block}
    {hlive : ((h.add b).blocks cond).isSome} {t : Owned} (hroot : t.root = cond)
    (hinner : t.inner = [h.next]) (hheld : Held ((h.add b).set cond b' hlive) t next) :
    Built h₀ ((h.add b).set cond b' hlive) t next functype := by
  have hle := hb.ext.next_le
  have hlt : cond < h₀.next := hb.root_lt
  have hother : ∀ a, a ≠ cond → a ≠ h.next →
      ((h.add b).set cond b' hlive).blocks a = h.blocks a := by
    intro a hcond hnext
    rw [Heap.set_elsewhere _ hcond, Heap.add_elsewhere _ _ hnext]
  refine hb.step hroot ((Heap.Extends.add h b).trans (Heap.Extends.set _ _ _ _)) hheld ?_ ?_ ?_
    fun a ha hneRoot => hother a hneRoot (by omega)
  · rw [hinner]
    exact List.nodup_singleton _
  · intro a ha
    rw [hinner, List.mem_singleton] at ha
    omega
  · intro a ha hset
    rw [hinner, List.mem_singleton]
    by_contra hnext
    rw [hother a (by omega) hnext] at hset
    exact absurd (hb.live a ha hset) List.not_mem_nil

theorem allocValue_fillsLeaf (size : Nat) :
    FillsLeaf (allocValue grant cond size) cond functype := by
  intro h₀ h next hb
  have hlt : cond < h.next := Nat.lt_of_lt_of_le hb.root_lt hb.ext.next_le
  obtain ⟨⟨ct, ft, hcond⟩, -⟩ := hb.held
  refine Runs.bind (Runs.ctcAllocBuf ?_ ?_)
  · have hcond' := (h.add_elsewhere (.bytes size) (Nat.ne_of_lt hlt)).trans hcond
    refine Runs.bind (Runs.modifyNode hcond' (Runs.pure ⟨some h.next, ?_⟩))
    refine hb.addToLeaf rfl rfl ⟨⟨ct, ft, Heap.set_here _⟩, fun v hv => ⟨size, ?_⟩⟩
    obtain rfl := Option.some.inj hv
    rw [Heap.set_elsewhere _ (Nat.ne_of_gt hlt), Heap.add_here]
  · intro h' hnull
    refine Runs.bind ((hb.notGranted hnull).modifyLeaf (fun ct ft => ⟨ct, ft, rfl⟩)
      fun h'' hb'' => ?_)
    exact Runs.pure ⟨none, hb''⟩

/-- The node behind `functype` may be read. -/
theorem Built.loadParent {t : Owned} {α : Type} {m : CondNode → HeapM Block α}
    {Q : α → Heap Block → Prop} (hb : Built h₀ h t next functype) {p : Nat} (hp : functype = some p)
    (hm : ∀ n, Runs (m n) h Q) : Runs (loadNode p >>= m) h Q := by
  obtain ⟨n, ft, -, hnow⟩ := hb.parent p hp
  exact Runs.bind (Runs.loadNode hnow (hm _))

/-- The operator in the node behind `functype` may be written. -/
theorem Built.modifyParent {t : Owned} {Q : Unit → Heap Block → Prop} {f : CtcFunc → CtcFunc}
    (hb : Built h₀ h t next functype) {p : Nat} (hp : functype = some p)
    (hQ : ∀ h', Built h₀ h' t next functype → Q () h') :
    Runs (modifyNode p fun n => { n with funcType := f n.funcType }) h Q := by
  obtain ⟨hext, hheld, hnodup, hlt, hfresh, hlives, hkept, hne, hparent⟩ := hb
  obtain ⟨n, ft, hn, hnow⟩ := hparent p hp
  have hltP := h₀.lt_of_some hn
  have hneRoot : p ≠ t.root := fun heq => hne (heq ▸ hp)
  have hneInner : ∀ a ∈ t.inner, a ≠ p := by
    intro a ha
    have hge := hfresh a ha
    omega
  refine Runs.modifyNode hnow (hQ _ ⟨hext.trans (Heap.Extends.set _ _ _ _), ?_, hnodup, hlt, hfresh,
    ?_, ?_, hne, ?_⟩)
  · apply hheld.congr
    intro a ha
    rcases List.mem_cons.mp ha with rfl | ha
    · exact h.set_elsewhere hneRoot.symm
    · exact h.set_elsewhere (hneInner a ha)
  · intro a ha hset
    rw [h.set_elsewhere (by omega)] at hset
    exact hlives a ha hset
  · intro a ha hneA hneParent
    have hnep : a ≠ p := fun heq => hneParent (heq ▸ hp)
    rw [h.set_elsewhere hnep, hkept a ha hneA hneParent]
  · intro q hq
    obtain rfl := Option.some.inj (hp.symm.trans hq)
    exact ⟨n, f ft, hn, h.set_here⟩

/-- A buffer that is given back leaves no trace. -/
theorem Built.buffer {b : Block} {h' : Heap Block} {value : Option Nat}
    (hb : Built h₀ h (.leaf cond none) next functype)
    (hb' : Built (h.add b) h' (.leaf cond value) next functype) :
    ∃ hlive : (h'.blocks h.next).isSome,
      Built h₀ (h'.drop h.next hlive) (.leaf cond value) next functype := by
  have hle := hb.ext.next_le
  have hlt : cond < h₀.next := hb.root_lt
  have hltP : ∀ p, functype = some p → p < h₀.next := by
    intro p hp
    obtain ⟨n, -, hn, -⟩ := hb.parent p hp
    exact h₀.lt_of_some hn
  have hne : functype ≠ some h.next := by
    intro heq
    have hlt := hltP _ heq
    omega
  have hbuffer : h'.blocks h.next = some b := by
    rw [hb'.kept h.next (Nat.lt_succ_self _) (by show h.next ≠ cond; omega) hne, Heap.add_here]
  have hlive : (h'.blocks h.next).isSome := Option.isSome_of_mem hbuffer
  have hinner : ∀ a ∈ (Owned.leaf cond value).inner, a ≠ h.next := by
    intro a ha heq
    have hge := hb'.fresh a ha
    rw [Heap.add_next] at hge
    omega
  -- the blocks below the buffer
  have hold : ∀ a < h.next, a ≠ cond → functype ≠ some a → h'.blocks a = h.blocks a := by
    intro a ha hneRoot hneParent
    rw [hb'.kept a (Nat.lt_succ_of_lt ha) hneRoot hneParent, h.add_elsewhere b (Nat.ne_of_lt ha)]
  refine ⟨hlive, hb.ext.trans ((Heap.Extends.add h b).trans (hb'.ext.trans
    (Heap.Extends.drop _ _ _))), ?_, hb'.nodup, hlt, ?_, ?_, ?_, hb'.parent_ne, ?_⟩
  · apply hb'.held.congr
    intro a ha
    apply h'.drop_elsewhere
    rcases List.mem_cons.mp ha with rfl | ha
    · exact Nat.ne_of_lt (Nat.lt_of_lt_of_le hlt hle)
    · exact hinner a ha
  · intro a ha
    have hge := hb'.fresh a ha
    rw [Heap.add_next] at hge
    omega
  · intro a ha hdrop
    have hnext : a ≠ h.next := by
      rintro rfl
      rw [Heap.drop_here] at hdrop
      cases hdrop
    rw [h'.drop_elsewhere hnext] at hdrop
    by_cases hnew : h.next < a
    · exact hb'.live a hnew hdrop
    · have hneParent : functype ≠ some a := by
        intro heq
        have hlt := hltP a heq
        omega
      rw [hold a (by omega) (by omega) hneParent] at hdrop
      exact absurd (hb.live a ha hdrop) List.not_mem_nil
  · intro a ha hneRoot hneParent
    rw [h'.drop_elsewhere (by omega), hold a (by omega) hneRoot hneParent,
      hb.kept a ha hneRoot hneParent]
  · intro p hp
    obtain ⟨n, ft, hn, hnow⟩ := hb.parent p hp
    obtain ⟨n', ft', hn', hnow'⟩ := hb'.parent p hp
    have hlt := hltP p hp
    rw [h.add_elsewhere b (by omega), hnow] at hn'
    obtain rfl := Block.node.inj (Option.some.inj hn')
    exact ⟨n, ft', hn, by rw [h'.drop_elsewhere (by omega), hnow']⟩

/-- A leaf that was built on an older heap can be filled from here. -/
theorem Built.restart (hb : Built h₀ h (.leaf cond none) next functype) (b : Block) :
    Built (h.add b) (h.add b) (.leaf cond none) next functype := by
  have hold : ∀ a n, h.blocks a = some (.node n) → (h.add b).blocks a = some (.node n) := by
    intro a n hn
    rw [h.add_elsewhere b (Nat.ne_of_lt (h.lt_of_some hn)), hn]
  obtain ⟨⟨ct, ft, hcond⟩, -⟩ := hb.held
  apply Built.start (hold cond _ hcond) hb.parent_ne
  intro p hp
  obtain ⟨n, ft, -, hnow⟩ := hb.parent p hp
  exact ⟨_, hold p _ hnow⟩

end

/-! ### The fill functions of leaves -/

section

variable {grant : Nat → Bool} {decimalSize : MyDecimal → Nat → Option Nat} {cond : Nat}
  {functype : Option Nat}

theorem condFillDecimal_fillsLeaf (c : ConstItem) :
    FillsLeaf (condFillDecimal decimalSize grant c cond) cond functype := by
  apply FillsLeaf.setCondType
  split
  · exact FillsLeaf.return true
  split
  · next d scale hvalue =>
    intro h₀ h next hb
    refine Runs.bind (Runs.request ?_ (Runs.pure ⟨none, hb.refuse⟩))
    have hstart :=
      hb.restart (.bytes (ColumnType.packLength.decimalBinSize (d.intg + d.frac) scale))
    dsimp only
    cases decimalSize d scale with
    | none =>
      obtain ⟨hlive, hb'⟩ := hb.buffer hstart
      exact Runs.bind (Runs.free hlive (Runs.pure ⟨none, hb'⟩))
    | some size =>
      apply Runs.bind
      apply (allocValue_fillsLeaf size _ _ _ hstart).mono
      rintro success h' ⟨value, hvalue⟩
      obtain ⟨hlive, hb'⟩ := hb.buffer hvalue
      exact Runs.bind (Runs.free hlive (Runs.pure ⟨value, hb'⟩))
  · exact FillsLeaf.return false

/-- A constant that is not null gets a value of 8 bytes. -/
theorem fillsLeaf_value8 (nullValue : Bool) {m : HeapM Block Bool}
    (hm : m = allocValue grant cond 8 ∨ m = return false) :
    FillsLeaf (do setCondType cond .const; if nullValue then return true else m) cond functype := by
  apply FillsLeaf.setCondType
  split
  · exact FillsLeaf.return true
  · rcases hm with rfl | rfl
    · exact allocValue_fillsLeaf 8
    · exact FillsLeaf.return false

/-- A string reads the operator of its parent. -/
theorem condFillString_fillsLeaf (c : ConstItem) (hparent : functype.isSome) :
    FillsLeaf (condFillString grant c cond functype) cond functype := by
  obtain ⟨p, rfl⟩ := Option.isSome_iff_exists.mp hparent
  apply FillsLeaf.setCondType
  split
  · split
    · exact FillsLeaf.return true
    · intro h₀ h next hb
      apply Runs.bind
      apply (allocValue_fillsLeaf _ _ _ _ hb).mono
      rintro success h' ⟨value, hvalue⟩
      cases success with
      | true => exact hvalue.loadParent rfl fun _ => Runs.pure ⟨value, hvalue⟩
      | false => exact Runs.pure ⟨value, hvalue⟩
  · exact FillsLeaf.return false

theorem condFillConst_fillsLeaf (c : ConstItem) (hparent : c.kind = .string → functype.isSome) :
    FillsLeaf (condFillConst decimalSize grant c cond functype) cond functype := by
  unfold condFillConst
  split
  · apply fillsLeaf_value8
    split
    · exact .inl rfl
    · exact .inr rfl
  · apply fillsLeaf_value8
    split
    · exact .inl rfl
    · exact .inr rfl
  · exact condFillDecimal_fillsLeaf c
  · next hkind => exact condFillString_fillsLeaf c (hparent hkind)
  · exact FillsLeaf.setCondType (FillsLeaf.return true)
  · apply fillsLeaf_value8
    split
    · exact .inl rfl
    · exact .inr rfl

/-- A date may write the operator of its parent. -/
theorem condFillDate_fillsLeaf (fn : FuncItem) (hparent : functype.isSome) :
    FillsLeaf (condFillDate grant fn cond functype) cond functype := by
  obtain ⟨p, rfl⟩ := Option.isSome_iff_exists.mp hparent
  unfold condFillDate
  split
  · exact FillsLeaf.return false
  split
  · exact FillsLeaf.return false
  apply FillsLeaf.setCondType
  intro h₀ h next hb
  apply Runs.bind
  apply (allocValue_fillsLeaf _ _ _ _ hb).mono
  rintro success h' ⟨value, hvalue⟩
  cases success with
  | false => exact Runs.pure ⟨value, hvalue⟩
  | true =>
    cases fn.dataType with
    | date =>
      refine Runs.bind (hvalue.modifyParent rfl fun h'' hb'' => ?_)
      exact Runs.pure ⟨value, hb''⟩
    | _ => exact Runs.pure ⟨value, hvalue⟩

/-- The conversion table has an entry for every column. -/
theorem condFillField_code (env : FillEnv) (fields : List Field) (item : FieldItem)
    (noBackslash : Bool) {e : Failure}
    (h : Pushdown.condFillField env fields item noBackslash = .error e) : ∃ rc, e = .code rc := by
  unfold Pushdown.condFillField at h
  cases hno : ctcGetColumnByField env fields item.itemName with
  | none =>
    rw [hno] at h
    exact ⟨_, (Except.error.inj h).symm⟩
  | some fieldNo =>
    obtain ⟨hlt, -⟩ := List.findIdx?_eq_some_iff_getElem.mp hno
    have haux : ∃ info, getAuxiliaryForFieldConvert fields[fieldNo]
        (if fields[fieldNo].columnType.type = .float then .double
          else fields[fieldNo].columnType.type) = some info := by
      split
      · exact ⟨_, rfl⟩
      · obtain ⟨ddl, haux⟩ := getAuxiliary_columnType fields[fieldNo]
        exact ⟨_, haux⟩
    obtain ⟨info, hinfo⟩ := haux
    rw [hno] at h
    simp only [List.getElem?_eq_getElem hlt, hinfo] at h
    rcases result_bind_eq_error.mp h with hsize | ⟨size, -, hok⟩
    · unfold ctcSetCondFieldSize at hsize
      split at hsize
      · cases hsize
      · cases hsize
      · cases hsize
      · exact ⟨_, (Except.error.inj hsize).symm⟩
    · cases hok

theorem condFillField_fillsLeaf (env : FillEnv) (fields : List Field) (noBackslash : Bool)
    (item : FieldItem) :
    FillsLeaf (condFillField env fields noBackslash item cond) cond functype := by
  apply FillsLeaf.setCondType
  split
  · exact FillsLeaf.return true
  · exact FillsLeaf.return false
  · next e hne h =>
    obtain ⟨rc, rfl⟩ := condFillField_code env fields item noBackslash h
    exact absurd rfl (hne rc)

end

/-! ### Lists of arguments -/

theorem setCondTypes_ne_const (fc : Functype) : (setCondTypes fc).2 ≠ .const := by
  cases fc <;> exact fun h => nomatch h

section

variable {h₀ h h' : Heap Block} {cond list sub : Nat} {children : List Owned}
  {next functype : Option Nat}

/-- A tree whose root gets another link. -/
theorem Held.relink {t : Owned} {next' : Option Nat} (hheld : Held h t next)
    (hroot : ∀ ct ft value l, h.blocks t.root = some (.node ⟨ct, ft, value, l, next⟩) →
      h'.blocks t.root = some (.node ⟨ct, ft, value, l, next'⟩))
    (hinner : ∀ a ∈ t.inner, h'.blocks a = h.blocks a) : Held h' t next' := by
  cases t with
  | leaf cond value =>
    obtain ⟨⟨ct, ft, hcond⟩, hvalue⟩ := hheld
    refine ⟨⟨ct, ft, hroot _ _ _ _ hcond⟩, fun v hv => ?_⟩
    rw [hinner v (Option.mem_toList.mpr hv)]
    exact hvalue v hv
  | branch cond list children =>
    obtain ⟨⟨ct, ft, hct, hcond⟩, hlist, hchain⟩ := hheld
    refine ⟨⟨ct, ft, hct, hroot _ _ _ _ hcond⟩, ?_, ?_⟩
    · rw [hinner list List.mem_cons_self, hlist]
    · exact hchain.congr fun a ha => hinner a (List.mem_cons_of_mem _ ha)

theorem Built.root_notMem {t : Owned} (hb : Built h₀ h t next functype) : t.root ∉ t.inner := by
  intro hmem
  have hlt := hb.root_lt
  have hge := hb.fresh _ hmem
  omega

/-- A fresh list is hung below a node. -/
theorem Built.setList {Q : Unit → Heap Block → Prop} {ct : CtcCond} {ft : CtcFunc}
    (hb : Built h₀ h (.leaf cond none) next functype)
    (hcond : h.blocks cond = some (.node ⟨ct, ft, none, none, next⟩)) (hct : ct ≠ .const)
    (hQ : ∀ h', Built h₀ h' (.branch cond h.next []) next functype → Q () h') :
    Runs (modifyNode cond fun n => { n with condList := some h.next }) (h.add (.list .zero)) Q := by
  have hlt : cond < h.next := Nat.lt_of_lt_of_le hb.root_lt hb.ext.next_le
  have hcond' := (h.add_elsewhere (.list .zero) (Nat.ne_of_lt hlt)).trans hcond
  refine Runs.modifyNode hcond' (hQ _ (hb.addToLeaf rfl rfl ⟨⟨ct, ft, hct, Heap.set_here _⟩, ?_,
    trivial⟩))
  rw [Heap.set_elsewhere _ (Nat.ne_of_gt hlt), Heap.add_here]
  rfl

/-- `set_cond_types` on a node with a list. -/
theorem Built.setTypes {Q : Unit → Heap Block → Prop} {types : CtcFunc × CtcCond}
    (hb : Built h₀ h (.branch cond list children) next functype) (htypes : types.2 ≠ .const)
    (hQ : ∀ h', Built h₀ h' (.branch cond list children) next functype → Q () h') :
    Runs (modifyNode cond fun n => { n with condType := types.2, funcType := types.1 }) h Q := by
  obtain ⟨⟨ct, ft, hct, hcond⟩, hlist, hchain⟩ := hb.held
  have hnot := hb.root_notMem
  have hother : ∀ a ∈ (Owned.branch cond list children).inner, a ≠ cond := by
    rintro a ha rfl
    exact hnot ha
  refine Runs.modifyNode hcond (hQ _ (hb.setRoot rfl rfl
    ⟨⟨types.2, types.1, htypes, h.set_here⟩, ?_, ?_⟩))
  · exact (h.set_elsewhere (hother list List.mem_cons_self)).trans hlist
  · apply hchain.congr
    intro a ha
    exact h.set_elsewhere (hother a (List.mem_cons_of_mem _ ha))

/-- A date gives its list back. -/
theorem Built.dropList {α : Type} {m : HeapM Block α} {Q : α → Heap Block → Prop}
    (hb : Built h₀ h (.branch cond list []) next functype)
    (hm : ∀ h', Built h₀ h' (.leaf cond none) next functype → Runs m h' Q) :
    Runs (do ctcFreeBuf (some list); modifyNode cond fun n => { n with condList := none }; m) h
      Q := by
  obtain ⟨⟨ct, ft, -, hcond⟩, hlist, -⟩ := hb.held
  have hge := hb.fresh list List.mem_cons_self
  have hlt : cond < h₀.next := hb.root_lt
  have hlive : (h.blocks list).isSome := Option.isSome_of_mem hlist
  have hcond' : (h.drop list hlive).blocks cond = _ :=
    (h.drop_elsewhere (by omega)).trans hcond
  refine Runs.bind (Runs.free hlive (Runs.bind (Runs.modifyNode hcond' (hm _ ?_))))
  have hother : ∀ a, a ≠ cond → a ≠ list → ((h.drop list hlive).set cond
      (.node ⟨ct, ft, none, none, next⟩) (Option.isSome_of_mem hcond')).blocks a = h.blocks a := by
    intro a hneCond hneList
    rw [Heap.set_elsewhere _ hneCond, Heap.drop_elsewhere _ hneList]
  have hleaf : Held ((h.drop list hlive).set cond (.node ⟨ct, ft, none, none, next⟩)
      (Option.isSome_of_mem hcond')) (.leaf cond none) next :=
    ⟨⟨ct, ft, Heap.set_here _⟩, fun v hv => by cases hv⟩
  refine hb.step rfl ((Heap.Extends.drop h list hlive).trans (Heap.Extends.set _ _ _ _)) hleaf
    List.nodup_nil (fun a ha => absurd ha List.not_mem_nil) ?_
    fun a ha hneRoot => hother a hneRoot (by omega)
  intro a ha hset
  have hneList : a ≠ list := by
    rintro rfl
    rw [Heap.set_elsewhere _ (by omega), Heap.drop_here] at hset
    cases hset
  rw [hother a (by omega) hneList] at hset
  have hmem := hb.live a ha hset
  rcases List.mem_cons.mp hmem with heq | hmem
  · exact absurd heq hneList
  · cases hmem

/-- A chain whose last node gets a link: the nodes in front and below stay. -/
theorem HeldChain.relinkLast {front : List Owned} {last : Owned} {tail' : Option Nat}
    (hchain : HeldChain h (front ++ [last]) none)
    (hroot : ∀ ct ft value l, h.blocks last.root = some (.node ⟨ct, ft, value, l, none⟩) →
      h'.blocks last.root = some (.node ⟨ct, ft, value, l, tail'⟩))
    (hother : ∀ a ∈ blocksOf front ++ last.inner, h'.blocks a = h.blocks a) :
    HeldChain h' (front ++ [last]) tail' := by
  obtain ⟨hfront, hlast, -⟩ := (heldChain_append front [last]).mp hchain
  refine (heldChain_append front [last]).mpr ⟨?_, ?_, trivial⟩
  · exact hfront.congr fun a ha => hother a (List.mem_append_left _ ha)
  · exact Held.relink hlast hroot fun a ha => hother a (List.mem_append_right _ ha)

theorem inner_concat (cond list : Nat) (children : List Owned) (child : Owned) :
    (Owned.branch cond list (children ++ [child])).inner =
      (Owned.branch cond list children).inner ++ child.root :: child.inner := by
  simp only [Owned.inner, Owned.blocksOf_append, blocksOf, List.cons_append, List.append_nil]

/-- A node is counted by its list and linked behind the others. -/
theorem Built.linked (hb : Built h₀ h (.branch cond list children) next functype)
    (hext : h.Extends h')
    (hlist : h'.blocks list =
      some (.list ⟨firstOr (children ++ [.leaf h.next none]) none, some h.next,
        children.length + 1⟩))
    (hchain : HeldChain h' children (some h.next))
    (hsub : h'.blocks h.next = some (.node .zero))
    (hother : ∀ a ∉ list :: blocksOf children, a ≠ h.next → h'.blocks a = h.blocks a) :
    Built h₀ h' (.branch cond list (children ++ [.leaf h.next none])) next functype := by
  have hle := hb.ext.next_le
  have hlt : cond < h₀.next := hb.root_lt
  have hinner : (Owned.branch cond list (children ++ [.leaf h.next none])).inner =
      (Owned.branch cond list children).inner ++ [h.next] := inner_concat _ _ _ _
  have hold : ∀ a < h₀.next, h'.blocks a = h.blocks a := by
    intro a ha
    have hne : a ≠ h.next := by omega
    refine hother a (fun hmem => ?_) hne
    have hge := hb.fresh a hmem
    omega
  have hlive : ∀ a ∈ (Owned.branch cond list children).inner, a ≠ h.next := by
    rintro a ha rfl
    exact Nat.lt_irrefl _ (h.lt_of_live (hb.held.live (List.mem_cons_of_mem _ ha)))
  obtain ⟨⟨ct, ft, hct, hcond⟩, -, -⟩ := hb.held
  refine hb.step rfl hext ⟨⟨ct, ft, hct, (hold cond hlt).trans hcond⟩, ?_, ?_⟩ ?_ ?_ ?_
    fun a ha _ => hold a ha
  · rw [hlist]
    simp only [List.map_append, List.map_cons, List.map_nil, Owned.root, List.getLast?_append,
      List.getLast?_singleton, Option.some_or, List.length_append, List.length_singleton]
  · have hleaf : Held h' (.leaf h.next none) none :=
      ⟨⟨.field, .eq, hsub⟩, fun v hv => by cases hv⟩
    exact (heldChain_append _ _).mpr ⟨hchain, hleaf, trivial⟩
  · rw [hinner, List.nodup_append]
    refine ⟨hb.nodup, List.nodup_singleton _, fun a ha b hmem => ?_⟩
    rw [List.mem_singleton.mp hmem]
    exact hlive a ha
  · intro a ha
    rw [hinner, List.mem_append, List.mem_singleton] at ha
    rcases ha with ha | rfl
    · exact hb.fresh a ha
    · exact hle
  · intro a ha halive
    rw [hinner, List.mem_append, List.mem_singleton]
    by_cases hnext : a = h.next
    · exact .inr hnext
    · by_cases hmem : a ∈ (Owned.branch cond list children).inner
      · exact .inl hmem
      · rw [hother a hmem hnext] at halive
        exact .inl (hb.live a ha halive)

/-- Old blocks of a tree are not the next block. -/
theorem Built.ne_next {t : Owned} (hb : Built h₀ h t next functype) {a : Nat} (ha : a ∈ t.blocks) :
    a ≠ h.next := Nat.ne_of_lt (h.lt_of_live (hb.held.live ha))

/-- The link to a new node: in the empty list, or in the last node. -/
theorem Built.linkAfterLast (hb : Built h₀ h (.branch cond list children) next functype) :
    Runs (linkAfterLast list h.next) (h.add (.node .zero)) fun _ h' =>
      h.Extends h' ∧
      (∃ last, h'.blocks list = some (.list
        ⟨firstOr (children ++ [.leaf h.next none]) none, last, children.length⟩)) ∧
      HeldChain h' children (some h.next) ∧ h'.blocks h.next = some (.node .zero) ∧
      ∀ a ∉ list :: blocksOf children, a ≠ h.next → h'.blocks a = h.blocks a := by
  obtain ⟨-, hlist, hchain⟩ := hb.held
  have hneList : list ≠ h.next := hb.ne_next (List.mem_cons_of_mem _ List.mem_cons_self)
  have hlist' := (h.add_elsewhere (.node .zero) hneList).trans hlist
  have hext := Heap.Extends.add h (.node .zero)
  refine Runs.bind (Runs.loadList hlist' ?_)
  rcases List.eq_nil_or_concat' children with rfl | ⟨front, last, rfl⟩
  · refine Runs.store (Option.isSome_of_mem hlist') ⟨hext.trans (Heap.Extends.set _ _ _ _),
      ⟨_, Heap.set_here _⟩, trivial, ?_, fun a ha hneNext => ?_⟩
    · rw [Heap.set_elsewhere _ hneList.symm, Heap.add_here]
    · have hne : a ≠ list := fun heq => ha (heq ▸ List.mem_cons_self)
      rw [Heap.set_elsewhere _ hne, Heap.add_elsewhere _ _ hneNext]
  · have hlastHeld : Held h last none := ((heldChain_append front [last]).mp hchain).2.1
    obtain ⟨ct, ft, value, l, hroot⟩ := Held.root hlastHeld
    have hmem : last.root ∈ blocksOf (front ++ [last]) :=
      Owned.mem_blocksOf.mpr ⟨last, by simp, List.mem_cons_self⟩
    have hne : last.root ≠ h.next :=
      hb.ne_next (List.mem_cons_of_mem _ (List.mem_cons_of_mem _ hmem))
    obtain ⟨hnotList, hnodup⟩ := List.nodup_cons.mp hb.nodup
    have hneRoot : list ≠ last.root := fun heq => hnotList (heq ▸ hmem)
    have hroot' := (h.add_elsewhere (.node .zero) hne).trans hroot
    have hlastOf : ((front ++ [last]).map root).getLast? = some last.root := by simp
    have hcount : ¬ (front ++ [last]).length = 0 := by simp
    simp only [hcount, if_false, hlastOf]
    have hother : ∀ a, a ≠ last.root → a ≠ h.next → ((h.add (.node .zero)).set last.root
        (.node ⟨ct, ft, value, l, some h.next⟩) (Option.isSome_of_mem hroot')).blocks a =
          h.blocks a := by
      intro a hneLast hneNext
      rw [Heap.set_elsewhere _ hneLast, Heap.add_elsewhere _ _ hneNext]
    refine Runs.modifyNode hroot' ⟨hext.trans (Heap.Extends.set _ _ _ _),
      ⟨some last.root, ?_⟩, ?_, ?_, ?_⟩
    · have hfirst : firstOr (front ++ [last] ++ [.leaf h.next none]) none =
          firstOr (front ++ [last]) none := by cases front <;> rfl
      rw [Heap.set_elsewhere _ hneRoot, hlist', hfirst, hlastOf]
    · refine hchain.relinkLast (fun ct' ft' value' l' hroot₂ => ?_) fun a ha => ?_
      · rw [hroot] at hroot₂
        cases hroot₂
        exact Heap.set_here _
      · rw [Owned.blocksOf_append, blocksOf, blocksOf, List.append_nil] at hnodup
        have hmemA : a ∈ blocksOf (front ++ [last]) := by
          rw [Owned.blocksOf_append, blocksOf, blocksOf, List.append_nil]
          exact (List.perm_middle.mem_iff).mpr (List.mem_cons_of_mem _ ha)
        have hneLast : a ≠ last.root := by
          rintro rfl
          exact (List.nodup_cons.mp (List.perm_middle.nodup_iff.mp hnodup)).1 ha
        exact hother a hneLast
          (hb.ne_next (List.mem_cons_of_mem _ (List.mem_cons_of_mem _ hmemA)))
    · rw [Heap.set_elsewhere _ hne.symm, Heap.add_here]
    · intro a ha hneNext
      have hneLast : a ≠ last.root := fun heq => ha (heq ▸ List.mem_cons_of_mem _ hmem)
      exact hother a hneLast hneNext

/-- **A node enters a list:** the count, the ends and the links agree again. -/
theorem Built.linkNode (hb : Built h₀ h (.branch cond list children) next functype)
    (hlen : children.length + 1 < 65536) :
    Runs (linkNode list h.next) (h.add (.node .zero)) fun _ h' =>
      Built h₀ h' (.branch cond list (children ++ [.leaf h.next none])) next functype ∧
        h'.blocks h.next = some (.node .zero) := by
  have hneList : list ≠ h.next := hb.ne_next (List.mem_cons_of_mem _ List.mem_cons_self)
  have hcount : (children.length + 1) % 65536 = children.length + 1 := Nat.mod_eq_of_lt hlen
  have hnot : list ∉ blocksOf children := (List.nodup_cons.mp hb.nodup).1
  apply Runs.bind
  apply hb.linkAfterLast.mono
  rintro _ h₁ ⟨hext, ⟨last, hlist⟩, hchain, hsub, hother⟩
  refine Runs.bind (Runs.loadList hlist (Runs.store (Option.isSome_of_mem hlist) ?_))
  have hsub' : (h₁.set list (.list ⟨firstOr (children ++ [.leaf h.next none]) none,
      some h.next, (children.length + 1) % 65536⟩) (Option.isSome_of_mem hlist)).blocks h.next =
        some (.node .zero) := (h₁.set_elsewhere hneList.symm).trans hsub
  refine ⟨hb.linked (hext.trans (Heap.Extends.set _ _ _ _)) ?_ ?_ hsub' ?_, hsub'⟩
  · rw [Heap.set_here, hcount]
  · apply hchain.congr
    intro a ha
    exact h₁.set_elsewhere fun heq => hnot (heq ▸ ha)
  · intro a ha hneNext
    have hne : a ≠ list := fun heq => ha (heq ▸ List.mem_cons_self)
    rw [h₁.set_elsewhere hne, hother a ha hneNext]

/-- What is built below a node leaves it as it is, or fills in its function type. -/
theorem Built.keeps_above {child : Owned} {functype' : Option Nat}
    (hc : Built h h' child none functype') (hfunctype : functype' = none ∨ functype' = some cond)
    (hlt : cond < h.next) (hne : cond ≠ child.root) {n : CondNode}
    (hcond : h.blocks cond = some (.node n)) :
    ∃ ft, h'.blocks cond = some (.node { n with funcType := ft }) := by
  rcases hfunctype with rfl | rfl
  · exact ⟨n.funcType, by rw [hc.kept cond hlt hne (fun heq => by cases heq), hcond]⟩
  · obtain ⟨n', ft, hn, hnow⟩ := hc.parent cond rfl
    rw [hcond] at hn
    obtain rfl := Block.node.inj (Option.some.inj hn)
    exact ⟨ft, hnow⟩

/-- **A node of a list is filled:** its tree takes the place of the empty node. -/
theorem Built.fillLast {child : Owned} {functype' : Option Nat}
    (hb : Built h₀ h (.branch cond list (children ++ [.leaf child.root none])) next functype)
    (hfunctype : functype' = none ∨ functype' = some cond)
    (hc : Built h h' child none functype') :
    Built h₀ h' (.branch cond list (children ++ [child])) next functype := by
  have hle := hb.ext.next_le
  have hlt : cond < h₀.next := hb.root_lt
  have hneParent : ∀ a, a ≠ cond → functype' ≠ some a := by
    rintro a hne heq
    rcases hfunctype with rfl | rfl
    · cases heq
    · exact hne (Option.some.inj heq).symm
  have hinnerOld : (Owned.branch cond list (children ++ [.leaf child.root none])).inner =
      list :: blocksOf children ++ [child.root] := inner_concat _ _ _ _
  have hinner : (Owned.branch cond list (children ++ [child])).inner =
      list :: blocksOf children ++ [child.root] ++ child.inner := by
    rw [inner_concat, List.append_assoc]
    rfl
  have hnodup := hb.nodup
  have hfresh := hb.fresh
  rw [hinnerOld] at hnodup hfresh
  have hltNext : ∀ a ∈ list :: blocksOf children ++ [child.root], a < h.next := fun a ha =>
    h.lt_of_live (hb.held.live (List.mem_cons_of_mem _ (hinnerOld ▸ ha)))
  have hrootGe : h₀.next ≤ child.root :=
    hfresh _ (List.mem_append_right _ (List.mem_singleton_self _))
  -- the other blocks of the tree
  have hstay : ∀ a ∈ list :: blocksOf children, h'.blocks a = h.blocks a := by
    intro a ha
    have hge := hfresh a (List.mem_append_left _ ha)
    have hneRoot : a ≠ child.root := fun heq =>
      (List.nodup_append.mp hnodup).2.2 a ha child.root (List.mem_singleton_self _) heq
    exact hc.kept a (hltNext a (List.mem_append_left _ ha)) hneRoot (hneParent a (by omega))
  obtain ⟨⟨ct, ft, hct, hcond⟩, hlist, hchain⟩ := hb.held
  obtain ⟨ft', hcond'⟩ := hc.keeps_above hfunctype (by omega) (by omega) hcond
  obtain ⟨hchain, -⟩ := (heldChain_append _ _).mp hchain
  refine ⟨hb.ext.trans hc.ext, ⟨⟨ct, ft', hct, hcond'⟩, ?_, ?_⟩, ?_, hlt, ?_, ?_, ?_,
    hb.parent_ne, ?_⟩
  · have hfirst : firstOr (children ++ [.leaf child.root none]) none =
        firstOr (children ++ [child]) none := by cases children <;> rfl
    rw [hstay list List.mem_cons_self, hlist, hfirst]
    simp [Owned.root]
  · refine (heldChain_append _ _).mpr ⟨?_, hc.held, trivial⟩
    exact hchain.congr fun a ha => hstay a (List.mem_cons_of_mem _ ha)
  · rw [hinner, List.nodup_append]
    refine ⟨hnodup, hc.nodup, ?_⟩
    rintro a ha b hmem rfl
    have hge := hc.fresh a hmem
    have hltNext := hltNext a ha
    omega
  · intro a ha
    rw [hinner] at ha
    rcases List.mem_append.mp ha with ha | ha
    · exact hfresh a ha
    · have hge := hc.fresh a ha
      omega
  · intro a ha halive
    rw [hinner]
    by_cases hnew : h.next ≤ a
    · exact List.mem_append_right _ (hc.live a hnew halive)
    · apply List.mem_append_left
      by_cases hroot : a = child.root
      · exact List.mem_append_right _ (List.mem_singleton.mpr hroot)
      · rw [hc.kept a (by omega) hroot (hneParent a (by omega))] at halive
        rw [← hinnerOld]
        exact hb.live a ha halive
  · intro a ha hneRoot hneP
    have hneRoot : a ≠ cond := hneRoot
    rw [hc.kept a (by omega) (by omega) (hneParent a hneRoot), hb.kept a ha hneRoot hneP]
  · intro p hp
    obtain ⟨n, ft, hn, hnow⟩ := hb.parent p hp
    have hltP := h₀.lt_of_some hn
    have hne : p ≠ cond := hb.root_ne_parent hp
    exact ⟨n, ft, hn, by rw [hc.kept p (by omega) (by omega) (hneParent p hne), hnow]⟩

end

/-! ### Whole trees -/

/-- A tree whose literals find the operator they refer to: a string or a date stands below a
function. -/
inductive Fillable : Bool → Item → Prop
  | field (belowFunc : Bool) (f : FieldItem) : Fillable belowFunc (.field f)
  | const {belowFunc : Bool} {c : ConstItem} (hstring : c.kind = .string → belowFunc = true) :
      Fillable belowFunc (.const c)
  | func {belowFunc : Bool} {fn : FuncItem} {args : List Item}
      (hdate : (setCondTypes fn.functype).2 = .date → belowFunc = true)
      (hargs : ∀ item ∈ args, Fillable true item) : Fillable belowFunc (.func fn args)
  | cond {kind : CondKind} {args : List Item} (belowFunc : Bool)
      (hargs : ∀ item ∈ args, Fillable false item) : Fillable belowFunc (.cond kind args)
  | other (belowFunc : Bool) (id : Nat) : Fillable belowFunc (.other id)

section

variable {env : FillEnv} {fields : List Field} {noBackslash : Bool}
  {decimalSize : MyDecimal → Nat → Option Nat} {grant : Nat → Bool}

/-- What `dfs_fill_conds` does to an empty node. -/
def FillsNode (env : FillEnv) (fields : List Field) (noBackslash : Bool)
    (decimalSize : MyDecimal → Nat → Option Nat) (grant : Nat → Bool) (belowFunc : Bool)
    (item : Item) : Prop :=
  ∀ (h : Heap Block) (conds : Nat) (functype : Option Nat),
    h.blocks conds = some (.node .zero) → functype ≠ some conds →
    (∀ p, functype = some p → ∃ n, h.blocks p = some (.node n)) →
    (belowFunc = true → functype.isSome) →
    Runs (dfsFillConds env fields noBackslash decimalSize grant item conds functype) h
      fun _ h' => ∃ t, t.root = conds ∧ Built h h' t none functype

/-- **The loop over the arguments:** whether it ends early or not, the list counts what is
linked in it. -/
theorem fillArguments_spec {belowFunc : Bool} {args : List Item}
    (hargs : ∀ item ∈ args, FillsNode env fields noBackslash decimalSize grant belowFunc item)
    {size : Nat} (hsize : size ≤ args.length) {h₀ h : Heap Block} {cond list : Nat}
    {children : List Owned} {next functype functype' : Option Nat}
    (hlen : children.length + size < 65536)
    (hfunctype : functype' = none ∨ functype' = some cond)
    (hbelow : belowFunc = true → functype'.isSome)
    (hb : Built h₀ h (.branch cond list children) next functype) :
    Runs (fillArguments env fields noBackslash decimalSize grant args size list functype') h
      fun _ h' => ∃ children', Built h₀ h' (.branch cond list children') next functype := by
  induction args generalizing size h children with
  | nil =>
    obtain rfl : size = 0 := Nat.le_zero.mp hsize
    exact Runs.pure ⟨children, hb⟩
  | cons item rest ih =>
    cases size with
    | zero => exact Runs.pure ⟨children, hb⟩
    | succ size =>
      refine Runs.bind (Runs.ctcAllocBuf ?_ ?_)
      · apply Runs.bind
        apply (hb.linkNode (by omega)).mono
        rintro _ h₁ ⟨hb₁, hsub⟩
        have hne : cond ≠ h.next := hb.ne_next List.mem_cons_self
        obtain ⟨⟨ct, ft, -, hcond⟩, -⟩ := hb₁.held
        apply Runs.bind
        apply (hargs item List.mem_cons_self h₁ h.next functype' hsub ?_ ?_ hbelow).mono
        · rintro success h₂ ⟨child, hroot, hc⟩
          rw [← hroot] at hb₁
          have hb₂ := hb₁.fillLast hfunctype hc
          cases success with
          | false => exact Runs.pure ⟨_, hb₂⟩
          | true =>
            apply ih (fun item hi => hargs item (List.mem_cons_of_mem _ hi))
              (Nat.le_of_succ_le_succ hsize) ?_ hb₂
            rw [List.length_append, List.length_singleton]
            omega
        · rintro rfl
          rcases hfunctype with heq | heq
          · cases heq
          · exact hne (Option.some.inj heq).symm
        · rintro p rfl
          rcases hfunctype with heq | heq
          · cases heq
          · obtain rfl := Option.some.inj heq
            exact ⟨_, hcond⟩
      · exact fun h' hnull => Runs.pure ⟨children, hb.notGranted hnull⟩

/-- A leaf is filled after its list pointer is cleared. -/
theorem fillsNode_of_fillsLeaf {m : HeapM Block Bool} {h : Heap Block} {conds : Nat}
    {functype : Option Nat} (hm : FillsLeaf m conds functype)
    (hstart : Built h h (.leaf conds none) none functype) :
    Runs (do modifyNode conds fun n => { n with condList := none }; m) h
      fun _ h' => ∃ t, t.root = conds ∧ Built h h' t none functype := by
  refine Runs.bind (hstart.modifyLeaf (fun ct ft => ⟨ct, ft, rfl⟩) fun h₁ hb => ?_)
  apply (hm h h₁ none hb).mono
  rintro success h' ⟨value, hvalue⟩
  exact ⟨.leaf conds value, rfl, hvalue⟩

/-- **`dfs_fill_conds` builds a tree,** wherever it ends. The induction is on the condition. -/
theorem dfsFillConds_spec {belowFunc : Bool} {item : Item} (hfill : Fillable belowFunc item) :
    FillsNode env fields noBackslash decimalSize grant belowFunc item := by
  induction hfill with
  | field belowFunc f =>
    intro h conds functype hconds hne hparent hbelow
    rw [dfsFillConds]
    exact fillsNode_of_fillsLeaf (condFillField_fillsLeaf env fields noBackslash f)
      (Built.start hconds hne hparent)
  | const hstring =>
    intro h conds functype hconds hne hparent hbelow
    rw [dfsFillConds]
    exact fillsNode_of_fillsLeaf
      (condFillConst_fillsLeaf _ fun hkind => hbelow (hstring hkind))
      (Built.start hconds hne hparent)
  | other belowFunc id =>
    intro h conds functype hconds hne hparent hbelow
    rw [dfsFillConds]
    exact Runs.pure ⟨.leaf conds none, rfl, Built.start hconds hne hparent⟩
  | @func belowFunc fn args hdate hargs ih =>
    intro h conds functype hconds hne hparent hbelow
    have hstart := Built.start hconds hne hparent
    rw [dfsFillConds]
    refine Runs.bind (Runs.ctcAllocBuf ?_ ?_)
    · refine Runs.bind (hstart.setList hconds (fun h => nomatch h) fun h₁ hb₁ => ?_)
      refine Runs.bind (hb₁.setTypes (setCondTypes_ne_const fn.functype) fun h₂ hb₂ => ?_)
      split
      · next htype =>
        apply hb₂.dropList
        intro h₃ hb₃
        apply (condFillDate_fillsLeaf fn (hbelow (hdate htype)) _ _ _ hb₃).mono
        rintro success h' ⟨value, hvalue⟩
        exact ⟨.leaf conds value, rfl, hvalue⟩
      · have hmod : args.length % 65536 < 65536 := Nat.mod_lt _ (by omega)
        apply (fillArguments_spec ih (Nat.mod_le _ _) (by simpa using hmod) (.inr rfl)
          (fun _ => rfl) hb₂).mono
        rintro success h' ⟨children, hb'⟩
        exact ⟨_, rfl, hb'⟩
    · exact fun h' hnull => Runs.pure ⟨.leaf conds none, rfl, hstart.notGranted hnull⟩
  | @cond kind args belowFunc hargs ih =>
    intro h conds functype hconds hne hparent hbelow
    have hstart := Built.start hconds hne hparent
    rw [dfsFillConds]
    refine Runs.bind (Runs.ctcAllocBuf ?_ ?_)
    · refine Runs.bind (hstart.setList hconds (fun h => nomatch h) fun h₁ hb₁ => ?_)
      refine Runs.bind (hb₁.setTypes (setCondTypes_ne_const kind.functype) fun h₂ hb₂ => ?_)
      have hmod : args.length % 65536 < 65536 := Nat.mod_lt _ (by omega)
      apply (fillArguments_spec ih (Nat.mod_le _ _) (by simpa using hmod) (.inl rfl)
        (fun h => nomatch h) hb₂).mono
      rintro success h' ⟨children, hb'⟩
      exact ⟨_, rfl, hb'⟩
    · exact fun h' hnull => Runs.pure ⟨.leaf conds none, rfl, hstart.notGranted hnull⟩

end

end CantianConnector.Pushdown.Ownership
