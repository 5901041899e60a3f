import CantianConnector.Pushdown.CondBuild
import CantianConnector.Pushdown.DateCompare

/-!
# Who owns the blocks of a condition

The condition that `cond_push_term` leaves for the engine can be filled without a null operator
(`condPushTerm_ok`). The build of it ends with one tree of blocks, or with none, and from
`cond_push` to `reset` each block is freed exactly once (`condPush_balanced`).
-/

namespace CantianConnector.Pushdown.Ownership

open CantianConnector.Convert Blocks

open Owned

/-! ## Pushed conditions -/

/-- No function item is an AND or OR: these are items of their own. -/
inductive WellTyped : Item → Prop
  | field (f : FieldItem) : WellTyped (.field f)
  | const (c : ConstItem) : WellTyped (.const c)
  | func {fn : FuncItem} {args : List Item} (hfn : fn.functype.isCondParent = false)
      (hargs : ∀ item ∈ args, WellTyped item) : WellTyped (.func fn args)
  | cond {kind : CondKind} {args : List Item} (hargs : ∀ item ∈ args, WellTyped item) :
      WellTyped (.cond kind args)
  | other (id : Nat) : WellTyped (.other id)

/-- What the split leaves to the fill functions. -/
structure PushOk (parent : Functype) (item : Item) (parts : Parts) : Prop where
  pushed : ∀ part, parts.pushed = some part → Fillable (!parent.isCondParent) part
  whole : parts.remainder = none → parts.pushed = some item
  belowFunc : parent.isCondParent = false → ∀ part, parts.pushed = some part → part = item

section

variable {tc : TypeClasses} {newOk : Item → Bool} {parent : Functype} {item : Item}

theorem pushAll_ok (hfill : Fillable (!parent.isCondParent) item) :
    PushOk parent item (pushAllCondItem item) :=
  ⟨fun _ h => Option.some.inj h ▸ hfill, fun _ => rfl, fun _ _ h => (Option.some.inj h).symm⟩

theorem remainAll_ok : PushOk parent item (remainAllCondItem item) :=
  ⟨fun _ h => (nomatch h), fun h => (nomatch h), fun _ _ h => (nomatch h)⟩

theorem isSupport_string {c : ConstItem} (h : isSupport tc (.const c) parent = true)
    (hkind : c.kind = .string) : (!parent.isCondParent) = true := by
  simp only [isSupport, hkind, reduceCtorEq, if_false, isSupportedConst, Bool.and_eq_true] at h
  exact h.1

theorem isSupport_date {fn : FuncItem} {args : List Item}
    (h : isSupport tc (.func fn args) parent = true)
    (hdate : (setCondTypes fn.functype).2 = .date) : (!parent.isCondParent) = true := by
  have h : isSupportedFuncs tc fn args parent = true := h
  unfold setCondTypes at hdate
  unfold isSupportedFuncs at h
  cases hmap : getCondFuncTypeMap fn.functype with
  | none =>
    rw [hmap] at h
    cases h
  | some types =>
    obtain ⟨ft, ct⟩ := types
    rw [hmap] at hdate h
    obtain rfl : ct = .date := hdate
    exact h

theorem pushFuncOperands_fillable {functype : Functype} (hfn : functype.isCondParent = false)
    {args : List Item}
    (hargs : ∀ item ∈ args, PushOk functype item (condPushTerm (isSupport tc) newOk functype item))
    (h : pushFuncOperands (isSupport tc) newOk functype args = true) :
    ∀ item ∈ args, Fillable true item := by
  induction args with
  | nil => exact fun item hi => nomatch hi
  | cons operand rest ih =>
    rw [pushFuncOperands] at h
    split at h
    · cases h
    · next hsome =>
      obtain ⟨part, hpart⟩ := Option.ne_none_iff_exists'.mp (mt Option.isNone_iff_eq_none.mpr hsome)
      have hok := hargs operand List.mem_cons_self
      have hfill := hok.pushed part hpart
      rw [hok.belowFunc hfn part hpart, hfn] at hfill
      rw [List.forall_mem_cons]
      exact ⟨hfill, ih (fun item hi => hargs item (List.mem_cons_of_mem _ hi)) h⟩

theorem pushBooleanOperands_fillable {kind : CondKind} {args : List Item}
    {lists : List Item × List Item}
    (hargs : ∀ item ∈ args,
      PushOk kind.functype item (condPushTerm (isSupport tc) newOk kind.functype item))
    (h : pushBooleanOperands (isSupport tc) newOk kind args = some lists) :
    (∀ part ∈ lists.1, Fillable false part) ∧
      (lists.2 = [] → ∀ item ∈ args, Fillable false item) := by
  have hkind : (!kind.functype.isCondParent) = false := by cases kind <;> rfl
  induction args generalizing lists with
  | nil =>
    obtain rfl := Option.some.inj h
    exact ⟨fun part hp => absurd hp List.not_mem_nil, fun _ item hi => absurd hi List.not_mem_nil⟩
  | cons operand rest ih =>
    rw [pushBooleanOperands] at h
    split at h
    · cases h
    split at h
    · cases h
    · next pushedList remainderList hrest =>
      obtain rfl := Option.some.inj h
      obtain ⟨hpushed, hwhole⟩ := ih (fun item hi => hargs item (List.mem_cons_of_mem _ hi)) hrest
      have hok := hargs operand List.mem_cons_self
      have hfill := hok.pushed
      rw [hkind] at hfill
      constructor
      · intro part hp
        rcases List.mem_append.mp hp with hp | hp
        · exact hfill part (Option.mem_toList.mp hp)
        · exact hpushed part hp
      · intro hnil
        obtain ⟨hnone, hnil⟩ := List.append_eq_nil_iff.mp hnil
        have hnone := Option.toList_eq_nil_iff.mp hnone
        rw [List.forall_mem_cons]
        exact ⟨hfill operand (hok.whole hnone), hwhole hnil⟩

theorem createAndTerm_fillable {terms : List Item} {term : Item}
    (hterms : ∀ item ∈ terms, Fillable false item) (h : createAndTerm newOk terms = some term) :
    Fillable false term := by
  unfold createAndTerm at h
  split at h
  · obtain rfl := Option.some.inj h
    exact hterms _ List.mem_cons_self
  · split at h
    · obtain rfl := Option.some.inj h
      exact Fillable.cond false hterms
    · cases h

theorem createAndConditions_ok {cond : Item} {pushedList remainderList : List Item} {parts : Parts}
    (hparent : parent.isCondParent = true) (hpushed : ∀ part ∈ pushedList, Fillable false part)
    (hwhole : remainderList = [] → Fillable (!parent.isCondParent) cond)
    (h : createAndConditions newOk cond pushedList remainderList = some parts) :
    PushOk parent cond parts := by
  unfold createAndConditions at h
  split at h
  · next hnil =>
    obtain rfl := Option.some.inj h
    exact pushAll_ok (hwhole (List.isEmpty_iff.mp hnil))
  split at h
  · obtain rfl := Option.some.inj h
    exact remainAll_ok
  split at h
  · cases h
  · next pushed hterm =>
    split at h
    · cases h
    · obtain rfl := Option.some.inj h
      refine ⟨fun part hpart => ?_, fun h => (nomatch h), fun h => ?_⟩
      · obtain rfl := Option.some.inj hpart
        rw [hparent]
        exact createAndTerm_fillable hpushed hterm
      · rw [hparent] at h
        cases h

theorem createOrConditions_ok {cond : Item} {pushedList remainderList : List Item} {parts : Parts}
    (hparent : parent.isCondParent = true) (hpushed : ∀ part ∈ pushedList, Fillable false part)
    (hwhole : remainderList = [] → Fillable (!parent.isCondParent) cond)
    (h : createOrConditions newOk cond pushedList remainderList = some parts) :
    PushOk parent cond parts := by
  unfold createOrConditions at h
  split at h
  · next hnil =>
    obtain rfl := Option.some.inj h
    exact pushAll_ok (hwhole (List.isEmpty_iff.mp hnil))
  split at h
  · obtain rfl := Option.some.inj h
    refine ⟨fun part hpart => ?_, fun h => (nomatch h), fun h => ?_⟩
    · obtain rfl := Option.some.inj hpart
      exact Fillable.cond _ hpushed
    · rw [hparent] at h
      cases h
  · cases h

theorem finishBooleanTerm_ok {kind : CondKind} {args : List Item}
    (hparent : parent.isCondParent = true)
    (hargs : ∀ item ∈ args,
      PushOk kind.functype item (condPushTerm (isSupport tc) newOk kind.functype item)) :
    PushOk parent (.cond kind args) (finishBooleanTerm newOk kind (.cond kind args)
      (pushBooleanOperands (isSupport tc) newOk kind args)) := by
  cases hlists : pushBooleanOperands (isSupport tc) newOk kind args with
  | none => exact remainAll_ok
  | some lists =>
    obtain ⟨pushedList, remainderList⟩ := lists
    obtain ⟨hpushed, hargsFill⟩ := pushBooleanOperands_fillable hargs hlists
    have hwhole : remainderList = [] → Fillable (!parent.isCondParent) (.cond kind args) :=
      fun hnil => Fillable.cond _ (hargsFill hnil)
    cases kind with
    | and =>
      cases hcreated : createAndConditions newOk (.cond .and args) pushedList remainderList with
      | none =>
        simp only [finishBooleanTerm, hcreated]
        exact remainAll_ok
      | some parts =>
        simp only [finishBooleanTerm, hcreated]
        exact createAndConditions_ok hparent hpushed hwhole hcreated
    | or =>
      cases hcreated : createOrConditions newOk (.cond .or args) pushedList remainderList with
      | none =>
        simp only [finishBooleanTerm, hcreated]
        exact remainAll_ok
      | some parts =>
        simp only [finishBooleanTerm, hcreated]
        exact createOrConditions_ok hparent hpushed hwhole hcreated

/-- A pushed condition can be filled. -/
theorem condPushTerm_ok (hitem : WellTyped item) (parent : Functype) :
    PushOk parent item (condPushTerm (isSupport tc) newOk parent item) := by
  induction hitem generalizing parent with
  | field f =>
    rw [condPushTerm]
    split
    · exact pushAll_ok (Fillable.field _ f)
    · exact remainAll_ok
  | const c =>
    rw [condPushTerm]
    split
    · next h => exact pushAll_ok (Fillable.const (isSupport_string h))
    · exact remainAll_ok
  | other id =>
    rw [condPushTerm]
    exact remainAll_ok
  | func hfn hargs ih =>
    rw [condPushTerm]
    split
    · next hsupport =>
      split
      · next hoperands =>
        apply pushAll_ok
        exact Fillable.func (isSupport_date hsupport)
          (pushFuncOperands_fillable hfn (fun item hi => ih item hi _) hoperands)
      · exact remainAll_ok
    · exact remainAll_ok
  | cond hargs ih =>
    rw [condPushTerm]
    split
    · next hsupport => exact finishBooleanTerm_ok hsupport fun item hi => ih item hi _
    · exact remainAll_ok

end

/-! ## Building and freeing -/

/-- All that is left of what was allocated since `h₀` is one tree. -/
structure Whole (h₀ h : Heap Block) (t : Owned) : Prop where
  ext : h₀.Extends h
  held : Held h t none
  nodup : t.blocks.Nodup
  fresh : ∀ a ∈ t.blocks, h₀.next ≤ a
  live : ∀ a, h₀.next ≤ a → (h.blocks a).isSome → a ∈ t.blocks
  kept : ∀ a < h₀.next, h.blocks a = h₀.blocks a

section

variable {env : FillEnv} {fields : List Field} {noBackslash : Bool}
  {decimalSize : MyDecimal → Nat → Option Nat} {grant : Nat → Bool}

/-- The build in `cond_push`, wherever it ends. -/
theorem buildCond_spec {pushedConds : Item} (hfill : Fillable false pushedConds)
    (h₀ : Heap Block) :
    Runs (buildCond env fields noBackslash decimalSize grant pushedConds) h₀ fun root built =>
      (root = none ∧ h₀.Extends built ∧ built.blocks = h₀.blocks) ∨
      ∃ t success, root = some (t.root, success) ∧ Whole h₀ built t := by
  refine Runs.bind (Runs.ctcAllocBuf ?_ ?_)
  · have hroot : (h₀.add (.node .zero)).blocks h₀.next = some (.node .zero) := Heap.add_here _ _
    have hlive := Option.isSome_of_mem hroot
    refine Runs.bind (Runs.bind (Runs.store hlive ?_))
    have hkept : ∀ a < h₀.next, ((h₀.add (.node .zero)).set h₀.next (.node .zero) hlive).blocks a =
        h₀.blocks a := by
      intro a ha
      rw [Heap.set_elsewhere _ (Nat.ne_of_lt ha), Heap.add_elsewhere _ _ (Nat.ne_of_lt ha)]
    apply (dfsFillConds_spec hfill _ h₀.next none (Heap.set_here _) (fun h => nomatch h)
      (fun _ h => nomatch h) (fun h => nomatch h)).mono
    rintro success built ⟨t, hrootEq, hb⟩
    have hfresh : ∀ a ∈ t.inner, h₀.next < a := fun a ha => hb.fresh a ha
    refine Runs.pure (.inr ⟨t, success, by rw [hrootEq], ?_⟩)
    refine ⟨(Heap.Extends.add _ _).trans ((Heap.Extends.set _ _ _ _).trans hb.ext), hb.held,
      List.nodup_cons.mpr ⟨hb.root_notMem, hb.nodup⟩, ?_, ?_, ?_⟩
    · intro a ha
      rcases List.mem_cons.mp ha with rfl | ha
      · exact Nat.le_of_eq hrootEq.symm
      · exact Nat.le_of_lt (hfresh a ha)
    · intro a ha halive
      by_cases heq : a = h₀.next
      · rw [heq, ← hrootEq]
        exact List.mem_cons_self
      · exact List.mem_cons_of_mem _ (hb.live a (by simp; omega) halive)
    · intro a ha
      rw [hb.kept a (by simp; omega) (by omega) (fun h => nomatch h), hkept a ha]
  · intro h' hnull
    refine Runs.pure (.inl ⟨rfl, ?_⟩)
    rcases hnull with rfl | rfl
    · exact ⟨Heap.Extends.refl _, rfl⟩
    · exact ⟨Heap.Extends.refuse _, rfl⟩

theorem freeMCond_none {h : Heap Block} {Q : Unit → Heap Block → Prop} (hQ : Q () h) :
    Runs (freeMCond none) h Q := by
  unfold Runs freeMCond freeToDepth
  cases h.next with
  | zero => exact ⟨(), h, rfl, hQ⟩
  | succ _ => exact ⟨(), h, rfl, hQ⟩

/-- Freeing what is left. -/
theorem Whole.free {h₀ h : Heap Block} {t : Owned} (hwhole : Whole h₀ h t) :
    Runs (freeMCond (some t.root)) h fun _ final => h₀.Balanced final := by
  apply (freeMCond_spec hwhole.held hwhole.nodup).mono
  intro _ final hfrees
  apply Heap.balanced_of_none (hwhole.ext.trans hfrees.ext)
  · intro a ha
    have hnot : a ∉ t.blocks := by
      intro hmem
      have hge := hwhole.fresh a hmem
      omega
    rw [hfrees.kept a hnot, hwhole.kept a ha]
  · intro a ha
    by_cases hmem : a ∈ t.blocks
    · exact hfrees.gone a hmem
    · rw [hfrees.kept a hmem, ← Option.not_isSome_iff_eq_none]
      exact fun halive => hmem (hwhole.live a ha halive)

end

/-- **The blocks of a pushed condition.** Wherever the build ends, no literal keeps a list and no
node a list that was freed; and from `cond_push` to `reset` every block that is allocated is freed
exactly once. -/
theorem condPush_balanced (env : FillEnv) (fields : List Field) (noBackslash : Bool)
    (decimalSize : MyDecimal → Nat → Option Nat) (grant : Nat → Bool) (tc : TypeClasses)
    (newOk : Item → Bool) (cond pushedConds : Item) (hcond : WellTyped cond)
    (hpushed : (condPushTerm (isSupport tc) newOk .condAnd cond).pushed = some pushedConds)
    (h₀ : Heap Block) :
    (Runs (buildCond env fields noBackslash decimalSize grant pushedConds) h₀ fun _ built =>
      ∀ a n, h₀.next ≤ a → built.blocks a = some (.node n) → ListOk built n) ∧
    Runs (do
      let mCond ← condPush env fields noBackslash decimalSize grant tc newOk cond
      resetCond mCond) h₀ fun _ final => h₀.Balanced final := by
  have hfill : Fillable false pushedConds := (condPushTerm_ok hcond .condAnd).pushed _ hpushed
  have hbuild := @buildCond_spec env fields noBackslash decimalSize grant pushedConds hfill h₀
  constructor
  · apply hbuild.mono
    rintro root built (⟨-, -, hblocks⟩ | ⟨t, success, -, hwhole⟩) a n ha hn
    · rw [hblocks] at hn
      have hlt := h₀.lt_of_some hn
      omega
    · exact hwhole.held.listOk (hwhole.live a ha (Option.isSome_of_mem hn)) hn
  · unfold condPush
    rw [hpushed]
    refine Runs.bind (Runs.bind ?_)
    apply hbuild.mono
    rintro root built (⟨rfl, hext, hblocks⟩ | ⟨t, success, rfl, hwhole⟩)
    · refine Runs.pure (freeMCond_none (Heap.balanced_of_none hext (fun a _ => by rw [hblocks]) ?_))
      intro a ha
      rw [hblocks, ← Option.not_isSome_iff_eq_none]
      intro halive
      have hlt := h₀.lt_of_live halive
      omega
    · cases success with
      | true => exact Runs.pure hwhole.free
      | false =>
        apply Runs.bind
        apply hwhole.free.mono
        intro _ final hbalanced
        exact Runs.pure (freeMCond_none hbalanced)

/-! ## A date comparison -/

/-- Some of the server's type classes. -/
def plainClasses : TypeClasses where
  isStringType t := t == .varchar || t == .string
  isIntegerType t := t == .long || t == .longlong
  isTemporalType t := t == .date || t == .datetime
  isNumericType t := t == .newDecimal || t == .double

/-- `d < DATE '2024-05-01'`. -/
def beforeMay : Item :=
  .func (comparison .lt) [.field dateColumn, .func (dateLiteral firstOfMay) []]

/-- The sixth request, the value of the literal, is refused. -/
theorem condPush_balanced_beforeMay :
    (Runs (buildCond .plain dateTable.fields false (fun _ _ => none) (fun k => k != 5) beforeMay)
        Heap.empty fun _ built =>
      ∀ a n, 0 ≤ a → built.blocks a = some (.node n) → ListOk built n) ∧
    Runs (do
      let mCond ← condPush .plain dateTable.fields false (fun _ _ => none) (fun k => k != 5)
        plainClasses (fun _ => true) beforeMay
      resetCond mCond) Heap.empty fun _ final => Heap.empty.Balanced final := by
  apply condPush_balanced .plain dateTable.fields false (fun _ _ => none) (fun k => k != 5)
    plainClasses (fun _ => true) beforeMay beforeMay
  · apply WellTyped.func rfl
    rw [List.forall_mem_cons, List.forall_mem_singleton]
    exact ⟨WellTyped.field _, WellTyped.func rfl fun item hi => absurd hi List.not_mem_nil⟩
  · rfl

end CantianConnector.Pushdown.Ownership
