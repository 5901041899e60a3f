import CantianConnector.Partition.Prune

/-!
# Pruning over several ranges

`read_range_first_in_part` keeps its decision to prune in `pruned_by_engine` and the partition in
`part_spec`. It looks at both before it looks at the keys of the range at hand, and only
`index_init` and `index_end` reset them: a later range of the same scan meets the decision of an
earlier one.

The ranges of a scan are numbered. The state says which range its decision was computed from.
-/

namespace CantianConnector.Partition

/-! ## Reading a range -/

/-- `pruned_by_engine` and `part_spec.start_part`, with the range they were computed from. -/
structure PruneState where
  prunedByEngine : Bool
  startPart : Nat
  decidedBy : Nat
deriving DecidableEq, Repr

/-- `index_init` and `index_end`. -/
def PruneState.reset (st : PruneState) : PruneState := { st with prunedByEngine := false }

/-- How `read_range_first_in_part` goes on: it reads the partition, or answers
`HA_ERR_END_OF_FILE` by a decision that was computed from the given range. -/
inductive PartRead
  | read
  | endOfFile (decidedBy : Nat)
deriving DecidableEq, Repr

/-- The keys of a range and the partitions that the scan visits for it, in order. -/
structure RangeRead where
  startKey : Option KeyRange
  endKey : Option KeyRange
  visits : List Nat

section

variable (table : PartTable) (getPartition : KeyRange → Nat)

/-- The partition that the keys of the range select, if they select one. -/
def RangeRead.target (range : RangeRead) : Option Nat :=
  match range.startKey, range.endKey with
  | some start, some stop =>
    if needPrunePartitionsByEngine table range.startKey range.endKey &&
        equalRangeOnPartField table start stop then
      some (getPartition { start with flag := .readKeyExact })
    else none
  | _, _ => none

/-- `read_range_first_in_part` for range number `no`, up to the point where it reads. -/
def readRangeFirstInPart (no : Nat) (range : RangeRead) (partId : Nat) (st : PruneState) :
    PartRead × PruneState :=
  if st.prunedByEngine && partId ≠ st.startPart then (.endOfFile st.decidedBy, st)
  else
    match range.target table getPartition with
    | some startPart =>
      (if partId ≠ startPart then .endOfFile no else .read, ⟨true, startPart, no⟩)
    | none => (.read, st)

/-- The visits of one range. -/
def readRange (no : Nat) (range : RangeRead) : List Nat → PruneState → List PartRead × PruneState
  | [], st => ([], st)
  | partId :: rest, st =>
    let first := readRangeFirstInPart table getPartition no range partId st
    let later := readRange no range rest first.2
    (first.1 :: later.1, later.2)

/-- The ranges of a scan, from number `no` on. -/
def readRanges : Nat → List RangeRead → PruneState → List (List PartRead)
  | _, [], _ => []
  | no, range :: rest, st =>
    let done := readRange table getPartition no range range.visits st
    done.1 :: readRanges (no + 1) rest done.2

/-- Every partition that is skipped for range `no` is skipped by a decision from its own keys. -/
def OwnDecisions (no : Nat) (answers : List PartRead) : Prop :=
  ∀ decidedBy, .endOfFile decidedBy ∈ answers → decidedBy = no

/-- No range of the scan is pruned by the decision of another one. -/
def NoLeak : Nat → List (List PartRead) → Prop
  | _, [] => True
  | no, answers :: rest => OwnDecisions no answers ∧ NoLeak (no + 1) rest

/-- The ranges that earlier decisions do not reach: after a range that selects `last`, a range is
first visited at `last`, and either selects a partition itself or is visited at `last` only. -/
def Undisturbed : Option Nat → List RangeRead → Prop
  | _, [] => True
  | last, range :: rest =>
    (∀ startPart partId visits, last = some startPart → range.visits = partId :: visits →
      partId = startPart ∧
        (range.target table getPartition = none → ∀ p ∈ visits, p = startPart)) ∧
    Undisturbed
      (if range.visits = [] then last else (range.target table getPartition).or last) rest

variable {table getPartition}

/-- Keys that select no partition leave the state alone. -/
theorem readRange_of_target_none {range : RangeRead}
    (htarget : range.target table getPartition = none) (no : Nat) (visits : List Nat)
    (st : PruneState) :
    readRange table getPartition no range visits st =
      (visits.map fun partId =>
        if st.prunedByEngine && partId ≠ st.startPart then .endOfFile st.decidedBy else .read,
        st) := by
  induction visits with
  | nil => rfl
  | cons partId rest ih =>
    have hstep : readRangeFirstInPart table getPartition no range partId st =
        (if st.prunedByEngine && partId ≠ st.startPart then .endOfFile st.decidedBy else .read,
          st) := by
      rw [readRangeFirstInPart, htarget]
      split <;> rfl
    rw [readRange, hstep]
    simp only [ih, List.map_cons]

/-- Once a range has set the state it answers by its own decision. -/
theorem readRange_of_target_some {range : RangeRead} {startPart : Nat}
    (htarget : range.target table getPartition = some startPart) (no : Nat) (visits : List Nat) :
    readRange table getPartition no range visits ⟨true, startPart, no⟩ =
      (visits.map fun partId => if partId ≠ startPart then .endOfFile no else .read,
        ⟨true, startPart, no⟩) := by
  induction visits with
  | nil => rfl
  | cons partId rest ih =>
    have hstep : readRangeFirstInPart table getPartition no range partId ⟨true, startPart, no⟩ =
        (if partId ≠ startPart then .endOfFile no else .read, ⟨true, startPart, no⟩) := by
      rw [readRangeFirstInPart, htarget]
      by_cases hpart : partId = startPart
      · simp [hpart]
      · simp [hpart]
    rw [readRange, hstep]
    simp only [ih, List.map_cons]

/-- The state before range `no` holds the decision of an earlier range that selected `last`. -/
structure PruneState.Remembers (st : PruneState) (no : Nat) (last : Option Nat) : Prop where
  pruned : st.prunedByEngine = last.isSome
  startPart : ∀ startPart, last = some startPart → st.startPart = startPart
  decidedBy : last.isSome = true → st.decidedBy < no

theorem PruneState.Remembers.next {st : PruneState} {no : Nat} {last : Option Nat}
    (h : st.Remembers no last) : st.Remembers (no + 1) last where
  pruned := h.pruned
  startPart := h.startPart
  decidedBy hlast := Nat.lt_succ_of_lt (h.decidedBy hlast)

/-- The first visit of a range that is not turned away by an earlier decision sets the state. -/
theorem readRange_cons_of_target_some {range : RangeRead} {startPart : Nat}
    (htarget : range.target table getPartition = some startPart) {no partId : Nat}
    {visits : List Nat} {st : PruneState}
    (hpass : (st.prunedByEngine && decide (partId ≠ st.startPart)) = false) :
    readRange table getPartition no range (partId :: visits) st =
      ((partId :: visits).map fun p => if p ≠ startPart then .endOfFile no else .read,
        ⟨true, startPart, no⟩) := by
  have hstep : readRangeFirstInPart table getPartition no range partId st =
      (if partId ≠ startPart then .endOfFile no else .read, ⟨true, startPart, no⟩) := by
    rw [readRangeFirstInPart, if_neg (by rw [hpass]; exact Bool.false_ne_true), htarget]
  rw [readRange, hstep]
  simp only [readRange_of_target_some htarget, List.map_cons]

theorem ownDecisions_map {no startPart : Nat} (visits : List Nat) :
    OwnDecisions no
      (visits.map fun p => if p ≠ startPart then PartRead.endOfFile no else .read) := by
  intro decidedBy hmem
  obtain ⟨p, -, hp⟩ := List.mem_map.mp hmem
  split at hp
  · exact (PartRead.endOfFile.inj hp).symm
  · cases hp

/-- The decision of an earlier range turns away all partitions but its own. -/
theorem ownDecisions_earlier_iff {no : Nat} {st : PruneState} {startPart : Nat}
    (hst : st.Remembers no (some startPart)) (visits : List Nat) :
    OwnDecisions no (visits.map fun partId =>
      if st.prunedByEngine && partId ≠ st.startPart then PartRead.endOfFile st.decidedBy
      else .read) ↔ ∀ p ∈ visits, p = startPart := by
  have hpruned : st.prunedByEngine = true := hst.pruned
  have hstart := hst.startPart startPart rfl
  have hearlier := hst.decidedBy rfl
  constructor
  · intro hown p hp
    by_contra hne
    have hskip := hown st.decidedBy (List.mem_map.mpr ⟨p, hp, by simp [hpruned, hstart, hne]⟩)
    omega
  · intro hall decidedBy hmem
    obtain ⟨p, hp, hanswer⟩ := List.mem_map.mp hmem
    rw [hstart, hall p hp] at hanswer
    simp at hanswer

/-- For keys that select no partition, the visits must not be turned away. -/
theorem ownDecisions_iff_of_target_none {no partId : Nat} {visits : List Nat} {last : Option Nat}
    {st : PruneState} (hst : st.Remembers no last) :
    OwnDecisions no ((partId :: visits).map fun p =>
      if st.prunedByEngine && p ≠ st.startPart then PartRead.endOfFile st.decidedBy else .read) ↔
      ∀ startPart, last = some startPart → partId = startPart ∧ ∀ p ∈ visits, p = startPart := by
  cases last with
  | none =>
    refine iff_of_true ?_ (fun _ hlast => by cases hlast)
    intro decidedBy hmem
    obtain ⟨p, -, hp⟩ := List.mem_map.mp hmem
    rw [show st.prunedByEngine = false from hst.pruned] at hp
    cases hp
  | some startPart =>
    rw [ownDecisions_earlier_iff hst, List.forall_mem_cons]
    constructor
    · intro hall t ht
      cases ht
      exact hall
    · intro hcond
      exact hcond startPart rfl

/-- The first visit is turned away by the decision of an earlier range. -/
theorem not_ownDecisions_of_turned_away {range : RangeRead} {no partId startPart : Nat}
    {visits : List Nat} {st : PruneState} (hst : st.Remembers no (some startPart))
    (hne : partId ≠ startPart) :
    ¬ OwnDecisions no (readRange table getPartition no range (partId :: visits) st).1 := by
  intro hown
  have hpruned : st.prunedByEngine = true := hst.pruned
  have hskip := hown st.decidedBy (by
    rw [readRange, readRangeFirstInPart, if_pos (by simp [hpruned, hst.startPart _ rfl, hne])]
    exact List.mem_cons_self)
  have hearlier := hst.decidedBy rfl
  omega

/-- Without an earlier decision, or at the partition of one, the first visit passes. -/
theorem PruneState.Remembers.passes_iff {no partId : Nat} {last : Option Nat} {st : PruneState}
    (hst : st.Remembers no last) :
    (st.prunedByEngine && decide (partId ≠ st.startPart)) = false ↔
      ∀ startPart, last = some startPart → partId = startPart := by
  rw [hst.pruned]
  cases last with
  | none => simp
  | some startPart =>
    rw [hst.startPart startPart rfl]
    simp

/-- **Decisions and the ranges they reach.** From a state that remembers `last` on, every range is
pruned by its own keys exactly if no earlier decision reaches one. -/
theorem noLeak_of_remembers {ranges : List RangeRead} {no : Nat} {last : Option Nat}
    {st : PruneState} (hst : st.Remembers no last) :
    NoLeak no (readRanges table getPartition no ranges st) ↔
      Undisturbed table getPartition last ranges := by
  induction ranges generalizing no last st with
  | nil => exact Iff.rfl
  | cons range rest ih =>
    rw [readRanges, NoLeak, Undisturbed]
    cases hvisits : range.visits with
    | nil =>
      have hown : OwnDecisions no [] := by
        intro _ hmem
        cases hmem
      rw [if_pos rfl]
      refine and_congr (iff_of_true hown ?_) (ih hst.next)
      intro _ _ _ _ hnil
      cases hnil
    | cons partId visits =>
      rw [if_neg (List.cons_ne_nil _ _)]
      cases htarget : range.target table getPartition with
      | none =>
        rw [readRange_of_target_none htarget, Option.none_or]
        refine and_congr ?_ (ih hst.next)
        rw [ownDecisions_iff_of_target_none hst]
        constructor
        · intro hcond startPart p ps hlast hcons
          cases hcons
          exact ⟨(hcond startPart hlast).1, fun _ => (hcond startPart hlast).2⟩
        · intro hcond startPart hlast
          obtain ⟨hfirst, hrest⟩ := hcond startPart partId visits hlast rfl
          exact ⟨hfirst, hrest rfl⟩
      | some target =>
        rw [Option.some_or]
        by_cases hpass : ∀ startPart, last = some startPart → partId = startPart
        · rw [readRange_cons_of_target_some htarget (hst.passes_iff.mpr hpass)]
          refine and_congr (iff_of_true (ownDecisions_map _) ?_) (ih ⟨rfl, ?_, ?_⟩)
          · intro startPart p ps hlast hcons
            cases hcons
            exact ⟨hpass startPart hlast, fun hnone => by cases hnone⟩
          · intro startPart hstart
            exact Option.some.inj hstart
          · exact fun _ => Nat.lt_succ_self no
        · push Not at hpass
          obtain ⟨startPart, rfl, hne⟩ := hpass
          refine iff_of_false ?_ ?_
          · rintro ⟨hown, -⟩
            exact not_ownDecisions_of_turned_away hst hne hown
          · rintro ⟨hcond, -⟩
            exact hne (hcond startPart partId visits rfl rfl).1

/-- **Pruning state between ranges.** In a scan from `index_init` on, every range is pruned by its
own keys exactly if after a range that selects a partition each later range is first visited there,
and selects a partition itself or is visited nowhere else. -/
theorem scan_noLeak_iff (ranges : List RangeRead) (st : PruneState) :
    NoLeak 0 (readRanges table getPartition 0 ranges st.reset) ↔
      Undisturbed table getPartition none ranges := by
  apply noLeak_of_remembers
  refine ⟨rfl, ?_, ?_⟩
  · intro startPart hlast
    cases hlast
  · intro hlast
    cases hlast

end

/-! ## Two ranges -/

/-- `p = n AND a BETWEEN 0 AND 9` over four partitions, with `p` first in the index. -/
def pointRange (n : UInt8) : RangeRead :=
  ⟨some (intKey n 0 .readKeyOrNext), some (intKey n 9 .readAfterKey), [0, 1, 2, 3]⟩

/-- The partition of the first key part modulo four. -/
def moduloFour (key : KeyRange) : Nat := (key.key 0).toNat % 4

/-- The range with `p = 5` selects partition 1, which is skipped because the range with `p = 6`
before it had selected partition 2. -/
theorem pruning_leaks :
    (pointRange 5).target (intTable 1 0 (by decide)) moduloFour = some 1 ∧
      readRanges (intTable 1 0 (by decide)) moduloFour 0 [pointRange 6, pointRange 5] ⟨false, 0, 0⟩ =
        [[.endOfFile 0, .endOfFile 0, .read, .endOfFile 0],
          [.endOfFile 0, .endOfFile 0, .endOfFile 1, .endOfFile 1]] ∧
      ¬ NoLeak 0 (readRanges (intTable 1 0 (by decide)) moduloFour 0 [pointRange 6, pointRange 5]
        ⟨false, 0, 0⟩) := by
  have hanswers : readRanges (intTable 1 0 (by decide)) moduloFour 0 [pointRange 6, pointRange 5]
      ⟨false, 0, 0⟩ = [[.endOfFile 0, .endOfFile 0, .read, .endOfFile 0],
        [.endOfFile 0, .endOfFile 0, .endOfFile 1, .endOfFile 1]] := by decide
  refine ⟨by decide, hanswers, ?_⟩
  rw [hanswers]
  rintro ⟨-, hown, -⟩
  have hskip := hown 0 List.mem_cons_self
  cases hskip

end CantianConnector.Partition
