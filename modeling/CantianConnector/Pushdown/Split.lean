import Mathlib.Tactic.Tauto
import CantianConnector.Lib.Kleene
import CantianConnector.Pushdown.Item

/-!
# Splitting a condition into a pushed part and a remainder

`cond_push_term` with `push_func_item`, `cond_push_boolean_term`, `create_and_conditions` and
`create_or_conditions`. The `is_support` predicates and the success of `new` are parameters:
the split is exact under three-valued logic whatever they answer (`condPushTerm_splits`).

A row gives every field, constant and function item a truth value; AND and OR items are then
evaluated by the Kleene connectives. Items below a function item are never rewritten, so no
more has to be known about functions.
-/

namespace CantianConnector.Pushdown

open Kleene

/-! ## The split -/

/-- The out-parameters `pushed_cond` and `remainder_cond`; `none` is a null pointer. -/
structure Parts where
  pushed : Option Item
  remainder : Option Item

/-- `push_all_cond_item`. -/
def pushAllCondItem (term : Item) : Parts := ⟨some term, none⟩

/-- `remain_all_cond_item`. -/
def remainAllCondItem (term : Item) : Parts := ⟨none, some term⟩

section

variable (isSupport : Item → Functype → Bool) (newOk : Item → Bool)

/-- `new Item_cond_and(list)`, or the single element of the list. -/
def createAndTerm : List Item → Option Item
  | [term] => some term
  | terms => if newOk (.cond .and terms) then some (.cond .and terms) else none

/-- `create_and_conditions`; `none` is its error return. -/
def createAndConditions (cond : Item) (pushedList remainderList : List Item) : Option Parts :=
  if remainderList.isEmpty then some ⟨some cond, none⟩
  else if pushedList.isEmpty then some ⟨none, some cond⟩
  else
    match createAndTerm newOk pushedList with
    | none => none
    | some pushed =>
      match createAndTerm newOk remainderList with
      | none => none
      | some remainder => some ⟨some pushed, some remainder⟩

/-- `create_or_conditions`; `none` is its error return. -/
def createOrConditions (cond : Item) (pushedList remainderList : List Item) : Option Parts :=
  if remainderList.isEmpty then some ⟨some cond, none⟩
  else if newOk (.cond .or pushedList) then some ⟨some (.cond .or pushedList), some cond⟩
  else none

/-- The end of `cond_push_boolean_term`, after its loop: `none` is the early return of an OR
with an operand that cannot be pushed. -/
def finishBooleanTerm (kind : CondKind) (cond : Item) : Option (List Item × List Item) → Parts
  | none => remainAllCondItem cond
  | some (pushedList, remainderList) =>
    let created :=
      match kind with
      | .and => createAndConditions newOk cond pushedList remainderList
      | .or => createOrConditions newOk cond pushedList remainderList
    created.getD (remainAllCondItem cond)

mutual

/-- `cond_push_term`. -/
def condPushTerm (parent : Functype) : Item → Parts
  | .func fn args =>
    if isSupport (.func fn args) parent then
      -- `push_func_item`: one operand that cannot be pushed fails the whole function
      if pushFuncOperands fn.functype args then pushAllCondItem (.func fn args)
      else remainAllCondItem (.func fn args)
    else remainAllCondItem (.func fn args)
  | .cond kind args =>
    if isSupport (.cond kind args) parent then
      finishBooleanTerm newOk kind (.cond kind args) (pushBooleanOperands kind args)
    else remainAllCondItem (.cond kind args)
  | .field f =>
    if isSupport (.field f) parent then pushAllCondItem (.field f)
    else remainAllCondItem (.field f)
  | .const c =>
    if isSupport (.const c) parent then pushAllCondItem (.const c)
    else remainAllCondItem (.const c)
  -- no entry in `g_cond_push_map`
  | .other id => remainAllCondItem (.other id)

/-- The loop of `push_func_item`: every operand has a pushed part. -/
def pushFuncOperands (functype : Functype) : List Item → Bool
  | [] => true
  | operand :: rest =>
    if (condPushTerm functype operand).pushed.isNone then false
    else pushFuncOperands functype rest

/-- The loop of `cond_push_boolean_term`: the lists of pushed parts and of remainders. -/
def pushBooleanOperands (kind : CondKind) : List Item → Option (List Item × List Item)
  | [] => some ([], [])
  | operand :: rest =>
    let parts := condPushTerm kind.functype operand
    if parts.pushed.isNone && kind == .or then none
    else
      match pushBooleanOperands kind rest with
      | none => none
      | some (pushedList, remainderList) =>
        some (parts.pushed.toList ++ pushedList, parts.remainder.toList ++ remainderList)

end

end

/-! ## Meaning -/

mutual

/-- The truth value of an item on a row that gives the other items the values `val`. -/
def truth (val : Item → Truth) : Item → Truth
  | .cond .and args => conj (truths val args)
  | .cond .or args => disj (truths val args)
  | .field f => val (.field f)
  | .const c => val (.const c)
  | .func fn args => val (.func fn args)
  | .other id => val (.other id)

def truths (val : Item → Truth) : List Item → List Truth
  | [] => []
  | item :: rest => truth val item :: truths val rest

end

/-- A missing part counts as `TRUE`. -/
def partTruth (val : Item → Truth) : Option Item → Truth
  | none => .tt
  | some item => truth val item

theorem truths_eq_map (val : Item → Truth) (items : List Item) :
    truths val items = items.map (truth val) := by
  induction items with
  | nil => rfl
  | cons item rest ih => simp [truths, ih]

theorem truth_and (val : Item → Truth) (args : List Item) :
    truth val (.cond .and args) = .tt ↔ ∀ item ∈ args, truth val item = .tt := by
  simp [truth, truths_eq_map, conj_eq_tt]

theorem truth_or (val : Item → Truth) (args : List Item) :
    truth val (.cond .or args) = .tt ↔ ∃ item ∈ args, truth val item = .tt := by
  rw [truth, truths_eq_map, disj_eq_tt]
  simp

/-- The pushed part and the remainder are both `TRUE` exactly when the term is. -/
def PartsExact (val : Item → Truth) (term : Item) (parts : Parts) : Prop :=
  Splits (truth val term) (partTruth val parts.pushed) (partTruth val parts.remainder)

theorem pushAll_exact (val : Item → Truth) (term : Item) :
    PartsExact val term (pushAllCondItem term) := splits_left _

theorem remainAll_exact (val : Item → Truth) (term : Item) :
    PartsExact val term (remainAllCondItem term) := splits_right _

/-! ## One AND or OR item -/

section

variable {isSupport : Item → Functype → Bool} {newOk : Item → Bool}

theorem createAndTerm_truth (val : Item → Truth) {terms : List Item} {term : Item}
    (h : createAndTerm newOk terms = some term) :
    truth val term = .tt ↔ ∀ item ∈ terms, truth val item = .tt := by
  unfold createAndTerm at h
  split at h
  · obtain rfl := Option.some.inj h
    simp
  · split at h
    · obtain rfl := Option.some.inj h
      exact truth_and val _
    · cases h

theorem createAndConditions_exact (val : Item → Truth) {args pushedList remainderList : List Item}
    {parts : Parts}
    (hExact : (∀ item ∈ args, truth val item = .tt) ↔
      (∀ item ∈ pushedList, truth val item = .tt) ∧
        ∀ item ∈ remainderList, truth val item = .tt)
    (h : createAndConditions newOk (.cond .and args) pushedList remainderList = some parts) :
    PartsExact val (.cond .and args) parts := by
  unfold createAndConditions at h
  split at h
  · obtain rfl := Option.some.inj h
    exact splits_left _
  · split at h
    · obtain rfl := Option.some.inj h
      exact splits_right _
    · split at h
      · cases h
      · rename_i pushed hPushed
        split at h
        · cases h
        · rename_i remainder hRemainder
          obtain rfl := Option.some.inj h
          simp only [PartsExact, Splits, partTruth, truth_and,
            createAndTerm_truth val hPushed, createAndTerm_truth val hRemainder]
          exact hExact

/-- A partly pushed OR stays whole in the remainder, and its pushed part is weaker. -/
theorem createOrConditions_exact (val : Item → Truth) {args pushedList remainderList : List Item}
    {parts : Parts}
    (hWeaker : (∃ item ∈ args, truth val item = .tt) → ∃ item ∈ pushedList, truth val item = .tt)
    (h : createOrConditions newOk (.cond .or args) pushedList remainderList = some parts) :
    PartsExact val (.cond .or args) parts := by
  unfold createOrConditions at h
  split at h
  · obtain rfl := Option.some.inj h
    exact splits_left _
  · split at h
    · obtain rfl := Option.some.inj h
      refine splits_of_weaker ?_
      simpa only [partTruth, truth_or] using hWeaker
    · cases h

theorem mem_toList_truth (val : Item → Truth) (part : Option Item) :
    (∀ item ∈ part.toList, truth val item = .tt) ↔ partTruth val part = .tt := by
  cases part with
  | none => simp [partTruth]
  | some item => simp [partTruth]

/-- The lists collected by the loop of an AND item hold together exactly when all operands
do. -/
theorem pushBooleanOperands_and (val : Item → Truth) {args : List Item}
    {lists : List Item × List Item}
    (hArgs : ∀ item ∈ args, PartsExact val item (condPushTerm isSupport newOk .condAnd item))
    (h : pushBooleanOperands isSupport newOk .and args = some lists) :
    (∀ item ∈ args, truth val item = .tt) ↔
      (∀ item ∈ lists.1, truth val item = .tt) ∧ ∀ item ∈ lists.2, truth val item = .tt := by
  induction args generalizing lists with
  | nil =>
    simp only [pushBooleanOperands, Option.some.injEq] at h
    subst h
    simp
  | cons operand rest ih =>
    have hKind : (CondKind.and == CondKind.or) = false := rfl
    simp only [pushBooleanOperands, CondKind.functype, hKind, Bool.and_false,
      Bool.false_eq_true, if_false] at h
    split at h
    · cases h
    · rename_i pushedList remainderList hRest
      obtain rfl := Option.some.inj h
      have hOperand := hArgs operand (by simp)
      have hTail := ih (fun item hi => hArgs item (by simp [hi])) hRest
      simp only [PartsExact, Splits] at hOperand
      simp only [List.forall_mem_cons, List.forall_mem_append, mem_toList_truth, hOperand, hTail]
      tauto

/-- A `TRUE` operand of an OR has a `TRUE` pushed part in the list. -/
theorem pushBooleanOperands_or (val : Item → Truth) {args : List Item}
    {lists : List Item × List Item}
    (hArgs : ∀ item ∈ args, PartsExact val item (condPushTerm isSupport newOk .condOr item))
    (h : pushBooleanOperands isSupport newOk .or args = some lists) :
    (∃ item ∈ args, truth val item = .tt) → ∃ item ∈ lists.1, truth val item = .tt := by
  induction args generalizing lists with
  | nil => simp
  | cons operand rest ih =>
    have hKind : (CondKind.or == CondKind.or) = true := rfl
    simp only [pushBooleanOperands, CondKind.functype, hKind, Bool.and_true] at h
    split at h
    · cases h
    · rename_i hPushed
      split at h
      · cases h
      · rename_i pushedList remainderList hRest
        obtain rfl := Option.some.inj h
        rintro ⟨item, hItem, hTrue⟩
        rcases List.mem_cons.mp hItem with rfl | hItem
        · have hOperand := (hArgs item (by simp)).mp hTrue
          cases hPart : (condPushTerm isSupport newOk .condOr item).pushed with
          | none => simp [hPart] at hPushed
          | some pushed =>
            refine ⟨pushed, by simp, ?_⟩
            simpa [hPart, partTruth] using hOperand.1
        · obtain ⟨pushed, hMem, hPushedTrue⟩ :=
            ih (fun item hi => hArgs item (by simp [hi])) hRest ⟨item, hItem, hTrue⟩
          exact ⟨pushed, by simp [hMem], hPushedTrue⟩

theorem finishBooleanTerm_exact (val : Item → Truth) {kind : CondKind} {args : List Item}
    (hArgs : ∀ item ∈ args, PartsExact val item (condPushTerm isSupport newOk kind.functype item)) :
    PartsExact val (.cond kind args)
      (finishBooleanTerm newOk kind (.cond kind args)
        (pushBooleanOperands isSupport newOk kind args)) := by
  cases hLists : pushBooleanOperands isSupport newOk kind args with
  | none => exact remainAll_exact _ _
  | some lists =>
    obtain ⟨pushedList, remainderList⟩ := lists
    cases kind with
    | and =>
      cases hCreated : createAndConditions newOk (.cond .and args) pushedList remainderList with
      | none =>
        simp only [finishBooleanTerm, hCreated]
        exact remainAll_exact _ _
      | some parts =>
        simp only [finishBooleanTerm, hCreated]
        exact createAndConditions_exact val (pushBooleanOperands_and val hArgs hLists) hCreated
    | or =>
      cases hCreated : createOrConditions newOk (.cond .or args) pushedList remainderList with
      | none =>
        simp only [finishBooleanTerm, hCreated]
        exact remainAll_exact _ _
      | some parts =>
        simp only [finishBooleanTerm, hCreated]
        exact createOrConditions_exact val (pushBooleanOperands_or val hArgs hLists) hCreated

/-! ## Whole conditions -/

/-- The induction is on the tree: an AND or OR item uses the splits of its operands. -/
theorem condPushTerm_exact (val : Item → Truth) (parent : Functype) (term : Item) :
    PartsExact val term (condPushTerm isSupport newOk parent term) := by
  match term with
  | .field f =>
    rw [condPushTerm]
    split
    · exact pushAll_exact _ _
    · exact remainAll_exact _ _
  | .const c =>
    rw [condPushTerm]
    split
    · exact pushAll_exact _ _
    · exact remainAll_exact _ _
  | .other id =>
    rw [condPushTerm]
    exact remainAll_exact _ _
  | .func fn args =>
    rw [condPushTerm]
    split
    · split
      · exact pushAll_exact _ _
      · exact remainAll_exact _ _
    · exact remainAll_exact _ _
  | .cond kind args =>
    rw [condPushTerm]
    split
    · refine finishBooleanTerm_exact val ?_
      intro item hItem
      exact condPushTerm_exact val kind.functype item
    · exact remainAll_exact _ _

end

/-- **The split is exact.** Whatever the `is_support` predicates reject and whether or not
`new` succeeds, the condition is `TRUE` on a row exactly when its pushed part and its
remainder are, and a row on which the pushed part is not `TRUE` never satisfies it. -/
theorem condPushTerm_splits (isSupport : Item → Functype → Bool) (newOk : Item → Bool)
    (val : Item → Truth) (parent : Functype) (term : Item) :
    (truth val term = .tt ↔
      partTruth val (condPushTerm isSupport newOk parent term).pushed = .tt ∧
        partTruth val (condPushTerm isSupport newOk parent term).remainder = .tt) ∧
    (partTruth val (condPushTerm isSupport newOk parent term).pushed ≠ .tt →
      truth val term ≠ .tt) := by
  have h : PartsExact val term (condPushTerm isSupport newOk parent term) :=
    condPushTerm_exact val parent term
  refine ⟨h, ?_⟩
  intro hPushed hTerm
  exact hPushed (h.mp hTerm).1

end CantianConnector.Pushdown
