import Mathlib.Data.List.Basic

/-!
# Filling an array and skipping entries

A loop with two indexes: entries are read from a list and written to the slots of an array that has
as many slots. An entry that is skipped makes the array shorter instead, so that the next entry goes
to the same slot, over what the skipped one has left there. If that does no harm (`Overwrites`), the
loop reads every entry once, never one behind the list, and keeps the others in their order
(`compact_eq`).
-/

namespace Compaction

variable {ε τ σ β : Type}

/-- The variables of the loop: the number of slots that count, the two indexes, the slots and
whatever else the loop updates. -/
structure State (τ σ : Type) where
  count : Nat
  slotIdx : Nat
  itemIdx : Nat
  slots : List σ
  acc : τ

/-- What one entry does: the slot afterwards, and whether the entry is kept. -/
structure Filled (τ σ : Type) where
  acc : τ
  slot : σ
  kept : Bool

section

variable (fill : τ → σ → β → Except ε (Filled τ σ)) (outside : ε)

/-- The loop; `outside` says that it reads an entry or a slot that is not there. -/
def compactLoop (items : List β) : Nat → State τ σ → Except ε (State τ σ)
  | 0, st => .ok st
  | fuel + 1, st =>
    if st.slotIdx < st.count then
      match items[st.itemIdx]?, st.slots[st.slotIdx]? with
      | some item, some slot => do
        let done ← fill st.acc slot item
        let st := { st with
          slots := st.slots.set st.slotIdx done.slot
          itemIdx := st.itemIdx + 1
          acc := done.acc }
        compactLoop items fuel
          (if done.kept then { st with slotIdx := st.slotIdx + 1 }
            else { st with count := st.count - 1 })
      | _, _ => .error outside
    else .ok st

/-- What the loop starts with. -/
def start (blank : σ) (acc : τ) (items : List β) : State τ σ :=
  ⟨items.length, 0, 0, List.replicate items.length blank, acc⟩

/-- The loop over as many blank slots as there are entries, and the slots that count in the end. -/
def compact (blank : σ) (acc : τ) (items : List β) : Except ε (τ × List σ) :=
  (compactLoop fill outside items items.length (start blank acc items)).map fun st =>
    (st.acc, st.slots.take st.count)

/-- Every entry in a blank slot, and the kept ones in order. -/
def gather (blank : σ) : τ → List β → Except ε (τ × List σ)
  | acc, [] => .ok (acc, [])
  | acc, item :: items => do
    let done ← fill acc blank item
    let rest ← gather blank done.acc items
    return (rest.1, if done.kept then done.slot :: rest.2 else rest.2)

/-- A slot that holds what a skipped entry has left is filled like a blank one. -/
structure Overwrites (blank : σ) (Stale : σ → Prop) : Prop where
  stale : Stale blank
  same : ∀ acc slot item, Stale slot → fill acc slot item = fill acc blank item
  skipped : ∀ acc item done, fill acc blank item = .ok done → done.kept = false → Stale done.slot

end

section

variable {fill : τ → σ → β → Except ε (Filled τ σ)} {outside : ε} {blank : σ} {Stale : σ → Prop}

/-- The slots of a run: the filled ones, a stale one, and blank ones. -/
def Slots (Stale : σ → Prop) (blank : σ) (out : List σ) (left : Nat) (slots : List σ) : Prop :=
  ∃ tail, slots = out ++ tail ∧ left ≤ tail.length ∧
    (∀ slot ∈ tail.head?, Stale slot) ∧ ∀ slot ∈ tail.tail, slot = blank

theorem Slots.head {out slots : List σ} {left : Nat}
    (h : Slots Stale blank out (left + 1) slots) :
    ∃ slot tail, slots = out ++ slot :: tail ∧ Stale slot ∧ left ≤ tail.length ∧
      ∀ s ∈ tail, s = blank := by
  obtain ⟨tail, rfl, hlen, hstale, hblank⟩ := h
  cases tail with
  | nil => exact absurd hlen (Nat.not_succ_le_zero left)
  | cons slot tail =>
    exact ⟨slot, tail, rfl, hstale slot rfl, Nat.le_of_succ_le_succ hlen, hblank⟩

/-- The rest of a run. -/
theorem compactLoop_from (h : Overwrites fill blank Stale) {items : List β} {rest : List β} :
    ∀ {out : List σ} {acc : τ} {slots : List σ} {before : List β} {count : Nat},
      items = before ++ rest → count = out.length + rest.length →
      Slots Stale blank out rest.length slots →
      (compactLoop fill outside items rest.length
          ⟨count, out.length, before.length, slots, acc⟩).map
        (fun st => (st.acc, st.slots.take st.count)) =
      (gather fill blank acc rest).map fun r => (r.1, out ++ r.2) := by
  induction rest with
  | nil =>
    rintro out acc slots before count - rfl ⟨tail, rfl, -, -, -⟩
    simp [compactLoop, gather, Except.map]
  | cons item rest ih =>
    intro out acc slots before count hitems hcount hslots
    obtain ⟨slot, tail, rfl, hstale, hlen, hblank⟩ := hslots.head
    have hitem : items[before.length]? = some item := by
      rw [hitems, List.getElem?_append_right (Nat.le_refl _), Nat.sub_self]
      rfl
    have hslot : (out ++ slot :: tail)[out.length]? = some slot := by
      rw [List.getElem?_append_right (Nat.le_refl _), Nat.sub_self]
      rfl
    have hset : ∀ s, (out ++ slot :: tail).set out.length s = out ++ s :: tail := by
      intro s
      rw [List.set_append_right _ _ (Nat.le_refl _), Nat.sub_self]
      rfl
    have hlt : out.length < count := by
      rw [hcount, List.length_cons]
      omega
    rw [List.length_cons] at hcount
    rw [List.length_cons, compactLoop, if_pos hlt]
    simp only [hitem, hslot, hset, h.same acc slot item hstale]
    rw [gather]
    cases hfill : fill acc blank item with
    | error e => rfl
    | ok done =>
      have hitems' : items = (before ++ [item]) ++ rest := by
        rw [hitems, List.append_assoc]
        rfl
      have hbefore : before.length + 1 = (before ++ [item]).length := by
        rw [List.length_append, List.length_singleton]
      cases hkept : done.kept with
      | true =>
        -- the next entry goes to the next slot, which is blank
        have hslots' : Slots Stale blank (out ++ [done.slot]) rest.length
            (out ++ done.slot :: tail) := by
          refine ⟨tail, by rw [List.append_assoc]; rfl, hlen, ?_, ?_⟩
          · intro s hs
            rw [hblank s (List.mem_of_head? hs)]
            exact h.stale
          · intro s hs
            exact hblank s (List.mem_of_mem_tail hs)
        have hnext := @ih (out ++ [done.slot]) done.acc (out ++ done.slot :: tail)
          (before ++ [item]) count hitems'
          (by rw [List.length_append, List.length_singleton]; omega) hslots'
        rw [List.length_append, List.length_singleton, ← hbefore] at hnext
        refine Eq.trans ?_ (Eq.trans hnext ?_)
        · simp only [bind, Except.bind, hkept, if_true]
        · simp only [bind, Except.bind, pure, Except.pure, hkept, if_true]
          cases gather fill blank done.acc rest with
          | error e => rfl
          | ok r => simp [Except.map]
      | false =>
        -- the next entry goes to the same slot
        have hslots' : Slots Stale blank out rest.length (out ++ done.slot :: tail) := by
          refine ⟨done.slot :: tail, rfl, Nat.le_succ_of_le hlen, ?_, hblank⟩
          intro s hs
          cases hs
          exact h.skipped acc item done hfill hkept
        have hnext := @ih out done.acc (out ++ done.slot :: tail) (before ++ [item]) (count - 1)
          hitems' (by omega) hslots'
        rw [← hbefore] at hnext
        refine Eq.trans ?_ (Eq.trans hnext ?_)
        · simp only [bind, Except.bind, hkept, Bool.false_eq_true, if_false]
        · simp only [bind, Except.bind, pure, Except.pure, hkept, Bool.false_eq_true, if_false]
          cases gather fill blank done.acc rest <;> rfl

/-- **The loop gathers.** It stops by itself and leaves the kept entries. -/
theorem compact_eq (h : Overwrites fill blank Stale) (items : List β) (acc : τ) :
    compact fill outside blank acc items = gather fill blank acc items := by
  have hslots : Slots Stale blank [] items.length (List.replicate items.length blank) := by
    refine ⟨_, rfl, Nat.le_of_eq List.length_replicate.symm, ?_, ?_⟩
    · intro s hs
      rw [List.eq_of_mem_replicate (List.mem_of_head? hs)]
      exact h.stale
    · intro s hs
      exact List.eq_of_mem_replicate (List.mem_of_mem_tail hs)
  have hrun := @compactLoop_from _ _ _ _ fill outside blank Stale h items items [] acc
    (List.replicate items.length blank) [] items.length rfl (by simp) hslots
  rw [compact, start]
  refine Eq.trans hrun ?_
  cases gather fill blank acc items <;> rfl

/-- Nothing fails, and what is kept does not depend on what is updated. -/
theorem gather_ok {acc : τ} {items : List β} {keep : β → Option σ} {next : τ → β → τ}
    (hfill : ∀ item ∈ items, ∀ acc, ∃ done, fill acc blank item = .ok done ∧
      done.acc = next acc item ∧ keep item = if done.kept then some done.slot else none) :
    gather fill blank acc items = .ok (items.foldl next acc, items.filterMap keep) := by
  induction items generalizing acc with
  | nil => rfl
  | cons item items ih =>
    rw [List.forall_mem_cons] at hfill
    obtain ⟨done, hdone, hacc, hkeep⟩ := hfill.1 acc
    rw [gather, hdone, List.foldl_cons, ← hacc, List.filterMap_cons, hkeep]
    show (do let rest ← gather fill blank done.acc items; _) = _
    rw [ih hfill.2]
    cases done.kept <;> rfl

/-- What is kept is made from its entry alone, and the first entry that cannot be made ends it. -/
theorem gather_mapM {acc : τ} {items : List β} {keep : β → Bool} {make : β → Except ε σ}
    {next : τ → β → τ}
    (hkept : ∀ acc item, keep item = true →
      fill acc blank item = (make item).map fun slot => ⟨next acc item, slot, true⟩)
    (hskipped : ∀ acc item, keep item = false →
      ∃ slot, fill acc blank item = .ok ⟨next acc item, slot, false⟩) :
    gather fill blank acc items =
      ((items.filter keep).mapM make).map fun slots => (items.foldl next acc, slots) := by
  induction items generalizing acc with
  | nil => rfl
  | cons item items ih =>
    rw [gather, List.foldl_cons]
    cases hkeep : keep item with
    | true =>
      rw [hkept acc item hkeep, List.filter_cons_of_pos hkeep, List.mapM_cons]
      cases make item with
      | error e => rfl
      | ok slot =>
        show (do let rest ← gather fill blank (next acc item) items; _) = _
        rw [ih]
        cases (items.filter keep).mapM make <;> rfl
    | false =>
      obtain ⟨slot, hslot⟩ := hskipped acc item hkeep
      rw [hslot, List.filter_cons_of_neg (by rw [hkeep]; decide)]
      show (do let rest ← gather fill blank (next acc item) items; _) = _
      rw [ih]
      cases (items.filter keep).mapM make <;> rfl

end

end Compaction
