import CantianConnector.Lib.Cells
import CantianConnector.Mq.Stub
import Mathlib.Tactic.Abel

/-!
# The request for statistics

`ctc_get_cbo_stats` builds its request of six blocks of shared memory that point to each other, and
frees each block through the pointers in the others. A read or a free through a block that is gone
would stop the server.

Whichever allocations fail, and whatever the engine answers, no call does so, and after any number
of calls each block has been freed exactly once (`ctcGetCboStats_balanced`).
-/

namespace CantianConnector.Cbo.StatsRequest

open Blocks
open CantianConnector.Mq (errAllocMemory errConnectionFailed)

/-! ## The function -/

/-- A block of shared memory, with its pointers. A pointer that was not written yet is null. -/
inductive Block where
  /-- `get_cbo_stats_request`. -/
  | request (stats table : Option Nat)
  /-- `ctc_cbo_stats_t`. -/
  | stats (ndvKeys : Option Nat)
  | ndvKeys
  /-- The array of `ctc_cbo_stats_table_t`, of each element the pointer `columns`. -/
  | tables (columns : List (Option Nat))
  /-- The array of `ctc_cbo_stats_column_t`; the strings of its columns are in one block. -/
  | columns (strStats : Option Nat)
  | strStats
deriving DecidableEq, Repr

/-- `req->stats`. -/
def Block.stats? : Block → Option Nat
  | .request p _ => p
  | _ => none

/-- `req->ctc_cbo_stats_table`. -/
def Block.table? : Block → Option Nat
  | .request _ p => p
  | _ => none

/-- `stats->ndv_keys`. -/
def Block.ndvKeys? : Block → Option Nat
  | .stats p => p
  | _ => none

/-- `ctc_cbo_stats_table[i].columns`. -/
def Block.columns? (i : Nat) : Block → Option Nat
  | .tables ps => ps.getD i none
  | _ => none

/-- `columns[j].high_value.v_str` and the other pointers to strings. -/
def Block.strStats? : Block → Option Nat
  | .columns p => p
  | _ => none

/-- A pointer in a block. To go through a null pointer is a fault. -/
def loadPtr (pointer : Block → Option Nat) (a : Nat) : HeapM Block Nat := do
  match pointer (← load a) with
  | some p => return p
  | none => fault

def freeStats (req : Nat) : HeapM Block Unit := do
  free (← loadPtr Block.stats? req)

def freeNdvKeys (req : Nat) : HeapM Block Unit := do
  free (← loadPtr Block.ndvKeys? (← loadPtr Block.stats? req))

def freeTable (req : Nat) : HeapM Block Unit := do
  free (← loadPtr Block.table? req)

def freeColumns (req : Nat) : HeapM Block Unit := do
  free (← loadPtr (Block.columns? 0) (← loadPtr Block.table? req))

/-- What the function reads of its arguments: whether the table has partitions, how many of them are
asked for, and whether a column holds strings. -/
structure Args where
  isPartTable : Bool
  numPartFetch : Nat
  hasStrCols : Bool
deriving DecidableEq, Repr

/-- What comes back: whether the request was answered, and `req->result`. -/
structure Reply where
  answered : Bool
  result : Int
deriving DecidableEq, Repr

/-- The number of elements of `ctc_cbo_stats_table`. -/
def Args.numTables (args : Args) : Nat := if args.isPartTable then args.numPartFetch else 1

section

variable (grant : Nat → Bool) (args : Args)

/-- The columns and their strings of a table without partitions; `none` if there is no memory. -/
def allocPlain (req table : Nat) : HeapM Block (Option (Nat × Nat)) := do
  let columns? ← request grant (.columns none)
  store table (.tables [columns?])
  match columns? with
  | none =>
    freeTable req
    freeNdvKeys req
    freeStats req
    free req
    return none
  | some columns =>
    match ← request grant .strStats with
    | none =>
      freeColumns req
      freeTable req
      freeNdvKeys req
      freeStats req
      free req
      return none
    | some strStats =>
      if args.hasStrCols then store columns (.columns (some strStats))
      return some (columns, strStats)

/-- The columns and their strings of the partitions. -/
def allocPart (req table : Nat) : HeapM Block (Option (Nat × Nat)) := do
  match ← request grant (.columns none) with
  | none =>
    freeTable req
    freeNdvKeys req
    freeStats req
    free req
    return none
  | some columns =>
    store table (.tables (List.replicate args.numPartFetch (some columns)))
    match ← request grant .strStats with
    | none =>
      freeTable req
      free columns
      freeNdvKeys req
      freeStats req
      free req
      return none
    | some strStats =>
      if args.hasStrCols then store columns (.columns (some strStats))
      return some (columns, strStats)

/-- The columns of one table, with their strings. -/
def columnsCopy (columns : Nat) : HeapM Block Unit := do
  if args.hasStrCols then
    let _ ← load (← loadPtr Block.strStats? columns)
  let _ ← load columns

/-- The blocks that `ctc_cbo_stats_copy_from_shm` reads. -/
def copyFromShm (req : Nat) : HeapM Block Unit := do
  let _ ← load (← loadPtr Block.ndvKeys? (← loadPtr Block.stats? req))
  (List.range args.numTables).forM fun i => do
    columnsCopy args (← loadPtr (Block.columns? i) (← loadPtr Block.table? req))

/-- The request is sent, its answer is copied, and the blocks are freed. -/
def sendAndFree (reply : Reply) (req columns strStats : Nat) : HeapM Block Int := do
  if reply.answered && reply.result == 0 then copyFromShm args req
  free strStats
  if args.isPartTable then free columns else freeColumns req
  freeNdvKeys req
  freeTable req
  freeStats req
  free req
  return if reply.answered then reply.result else errConnectionFailed

/-- `ctc_get_cbo_stats`. -/
def ctcGetCboStats (reply : Reply) : HeapM Block Int := do
  match ← request grant (.request none none) with
  | none => return errAllocMemory
  | some req =>
    let stats? ← request grant (.stats none)
    store req (.request stats? none)
    match stats? with
    | none =>
      free req
      return errAllocMemory
    | some stats =>
      let ndvKeys? ← request grant .ndvKeys
      store stats (.stats ndvKeys?)
      match ndvKeys? with
      | none =>
        freeStats req
        free req
        return errAllocMemory
      | some _ =>
        let table? ← request grant (.tables (List.replicate args.numTables none))
        store req (.request (some stats) table?)
        match table? with
        | none =>
          freeNdvKeys req
          freeStats req
          free req
          return errAllocMemory
        | some table =>
          match ← (if args.isPartTable then allocPart grant args req table
            else allocPlain grant args req table) with
          | none => return errAllocMemory
          | some (columns, strStats) => sendAndFree args reply req columns strStats

end

/-! ## Through the pointers -/

section

variable {h₀ h : Heap Block} {cells : Multiset (Nat × Block)} {a p req stats keys table : Nat}
  {b : Block} {t s : Option Nat}

theorem loadPtr_runs {pointer : Block → Option Nat} {Q : Nat → Heap Block → Prop}
    (hcells : Cells h₀ cells h) (hmem : (a, b) ∈ cells) (hp : pointer b = some p) (hQ : Q p h) :
    Runs (loadPtr pointer a) h Q := by
  apply Runs.bind
  apply hcells.runs_load hmem
  rw [hp]
  exact Runs.pure hQ

variable {Q : Unit → Heap Block → Prop}

theorem freeStats_runs
    (hcells : Cells h₀ ({(req, .request (some stats) t)} + ({(stats, b)} + cells)) h)
    (hQ : ∀ h', Cells h₀ ({(req, .request (some stats) t)} + cells) h' → Q () h') :
    Runs (freeStats req) h Q := by
  apply Runs.bind
  apply loadPtr_runs hcells (mem_add_self _ _) rfl
  exact (hcells.congr (add_left_comm _ _ _)).runs_free hQ

theorem freeTable_runs
    (hcells : Cells h₀ ({(req, .request s (some table))} + ({(table, b)} + cells)) h)
    (hQ : ∀ h', Cells h₀ ({(req, .request s (some table))} + cells) h' → Q () h') :
    Runs (freeTable req) h Q := by
  apply Runs.bind
  apply loadPtr_runs hcells (mem_add_self _ _) rfl
  exact (hcells.congr (add_left_comm _ _ _)).runs_free hQ

theorem freeNdvKeys_runs
    (hcells : Cells h₀ ({(req, .request (some stats) t)} +
      ({(stats, .stats (some keys))} + ({(keys, b)} + cells))) h)
    (hQ : ∀ h', Cells h₀ ({(req, .request (some stats) t)} +
      ({(stats, .stats (some keys))} + cells)) h' → Q () h') :
    Runs (freeNdvKeys req) h Q := by
  apply Runs.bind
  apply loadPtr_runs hcells (mem_add_self _ _) rfl
  apply Runs.bind
  apply loadPtr_runs hcells (Multiset.mem_add.mpr (.inr (mem_add_self _ _))) rfl
  have hkeys : Cells h₀ ({(keys, b)} + ({(req, .request (some stats) t)} +
      ({(stats, .stats (some keys))} + cells))) h := hcells.congr (by abel)
  exact hkeys.runs_free hQ

theorem freeColumns_runs {columns : Nat} {rest : List (Option Nat)}
    (hcells : Cells h₀ ({(req, .request s (some table))} +
      ({(table, .tables (some columns :: rest))} + ({(columns, b)} + cells))) h)
    (hQ : ∀ h', Cells h₀ ({(req, .request s (some table))} +
      ({(table, .tables (some columns :: rest))} + cells)) h' → Q () h') :
    Runs (freeColumns req) h Q := by
  apply Runs.bind
  apply loadPtr_runs hcells (mem_add_self _ _) rfl
  apply Runs.bind
  apply loadPtr_runs hcells (Multiset.mem_add.mpr (.inr (mem_add_self _ _))) rfl
  have hcolumns : Cells h₀ ({(columns, b)} + ({(req, .request s (some table))} +
      ({(table, .tables (some columns :: rest))} + cells))) h := hcells.congr (by abel)
  exact hcolumns.runs_free hQ

/-- The end of the function, and of most error paths. -/
theorem freeRest_runs {α : Type} {r : α} {Q : α → Heap Block → Prop}
    (hcells : Cells h₀ ({(req, .request (some stats) t)} +
      ({(stats, .stats (some keys))} + {(keys, .ndvKeys)})) h)
    (hQ : ∀ h', Cells h₀ 0 h' → Q r h') :
    Runs (do freeNdvKeys req; freeStats req; free req; return r) h Q := by
  apply Runs.bind
  rw [← add_zero {(keys, Block.ndvKeys)}] at hcells
  apply freeNdvKeys_runs hcells
  intro h₁ hcells₁
  apply Runs.bind
  apply freeStats_runs hcells₁
  intro h₂ hcells₂
  apply Runs.bind
  apply hcells₂.runs_free
  intro h₃ hcells₃
  exact Runs.pure (hQ h₃ hcells₃)

end

/-! ## The parts of the function -/

section

variable {grant : Nat → Bool} {args : Args} {h₀ h : Heap Block} {req stats keys table : Nat}

/-- The blocks of the request, without those of the columns. -/
def head (req stats keys table : Nat) : Multiset (Nat × Block) :=
  {(req, .request (some stats) (some table))} +
    ({(stats, .stats (some keys))} + {(keys, .ndvKeys)})

/-- All the blocks. -/
def built (args : Args) (req stats keys table columns strStats : Nat) : Multiset (Nat × Block) :=
  {(strStats, .strStats)} +
    ({(columns, .columns (if args.hasStrCols then some strStats else none))} +
      ({(table, .tables (List.replicate args.numTables (some columns)))} +
        head req stats keys table))

/-- What the allocation of the columns leaves behind. -/
def Allocated (grant : Nat → Bool) (args : Args) (h₀ : Heap Block) (req stats keys table : Nat)
    (r : Option (Nat × Nat)) (h : Heap Block) : Prop :=
  match r with
  | none => Cells h₀ 0 h ∧ ∃ n, grant n = false
  | some (columns, strStats) => Cells h₀ (built args req stats keys table columns strStats) h

/-- The pointers to the strings are set, if there are any. -/
theorem setStrStats_runs {columns strStats : Nat}
    (hcells : Cells h₀ ({(strStats, .strStats)} + ({(columns, .columns none)} +
      ({(table, .tables (List.replicate args.numTables (some columns)))} +
        head req stats keys table))) h) :
    Runs (do
        if args.hasStrCols then store columns (.columns (some strStats))
        return some (columns, strStats)) h
      (Allocated grant args h₀ req stats keys table) := by
  cases hstr : args.hasStrCols with
  | false =>
    apply Runs.pure
    show Cells h₀ (built args req stats keys table columns strStats) h
    unfold built
    rw [hstr]
    exact hcells
  | true =>
    apply Runs.bind
    apply (hcells.congr (add_left_comm _ _ _)).runs_store
    intro h₁ hcells₁
    apply Runs.pure
    show Cells h₀ (built args req stats keys table columns strStats) h₁
    unfold built
    rw [hstr]
    exact hcells₁.congr (add_left_comm _ _ _)

theorem allocPlain_runs (hplain : args.isPartTable = false) {columns₀ : List (Option Nat)}
    (hcells : Cells h₀ ({(table, .tables columns₀)} + head req stats keys table) h) :
    Runs (allocPlain grant args req table) h (Allocated grant args h₀ req stats keys table) := by
  have hnum : ∀ columns : Nat, List.replicate args.numTables (some columns) = [some columns] := by
    intro columns
    unfold Args.numTables
    rw [hplain]
    rfl
  apply Runs.bind
  apply hcells.runs_request
  · intro columns h₁ hcells₁
    apply Runs.bind
    apply (hcells₁.congr (add_left_comm _ _ _)).runs_store
    intro h₂ hcells₂
    apply Runs.bind
    apply hcells₂.runs_request
    · intro strStats h₃ hcells₃
      apply setStrStats_runs
      rw [hnum]
      exact hcells₃.congr (by unfold head; abel)
    · intro h₃ hcells₃ hrefused
      apply Runs.bind
      have hfree : Cells h₀ ({(req, .request (some stats) (some table))} +
          ({(table, .tables [some columns])} + ({(columns, .columns none)} +
            ({(stats, .stats (some keys))} + {(keys, .ndvKeys)})))) h₃ :=
        hcells₃.congr (by unfold head; abel)
      apply freeColumns_runs hfree
      intro h₄ hcells₄
      apply Runs.bind
      apply freeTable_runs hcells₄
      intro h₅ hcells₅
      exact freeRest_runs hcells₅ fun h₆ hcells₆ => ⟨hcells₆, hrefused⟩
  · intro h₁ hcells₁ hrefused
    apply Runs.bind
    apply hcells₁.runs_store
    intro h₂ hcells₂
    apply Runs.bind
    have hfree : Cells h₀ ({(req, .request (some stats) (some table))} +
        ({(table, .tables [none])} + ({(stats, .stats (some keys))} + {(keys, .ndvKeys)}))) h₂ :=
      hcells₂.congr (by unfold head; abel)
    apply freeTable_runs hfree
    intro h₃ hcells₃
    exact freeRest_runs hcells₃ fun h₄ hcells₄ => ⟨hcells₄, hrefused⟩

theorem allocPart_runs (hpart : args.isPartTable = true) {columns₀ : List (Option Nat)}
    (hcells : Cells h₀ ({(table, .tables columns₀)} + head req stats keys table) h) :
    Runs (allocPart grant args req table) h (Allocated grant args h₀ req stats keys table) := by
  have hnum : args.numTables = args.numPartFetch := by
    unfold Args.numTables
    rw [hpart]
    rfl
  apply Runs.bind
  apply hcells.runs_request
  · intro columns h₁ hcells₁
    apply Runs.bind
    apply (hcells₁.congr (add_left_comm _ _ _)).runs_store
    intro h₂ hcells₂
    apply Runs.bind
    apply hcells₂.runs_request
    · intro strStats h₃ hcells₃
      apply setStrStats_runs
      rw [hnum]
      exact hcells₃.congr (by unfold head; abel)
    · intro h₃ hcells₃ hrefused
      apply Runs.bind
      have hfree : Cells h₀ ({(req, .request (some stats) (some table))} +
          ({(table, .tables (List.replicate args.numPartFetch (some columns)))} +
            ({(columns, .columns none)} +
              ({(stats, .stats (some keys))} + {(keys, .ndvKeys)})))) h₃ :=
        hcells₃.congr (by unfold head; abel)
      apply freeTable_runs hfree
      intro h₄ hcells₄
      apply Runs.bind
      apply (hcells₄.congr (add_left_comm _ _ _)).runs_free
      intro h₅ hcells₅
      exact freeRest_runs hcells₅ fun h₆ hcells₆ => ⟨hcells₆, hrefused⟩
  · intro h₁ hcells₁ hrefused
    apply Runs.bind
    have hfree : Cells h₀ ({(req, .request (some stats) (some table))} +
        ({(table, .tables columns₀)} + ({(stats, .stats (some keys))} + {(keys, .ndvKeys)}))) h₁ :=
      hcells₁.congr (by unfold head; abel)
    apply freeTable_runs hfree
    intro h₂ hcells₂
    exact freeRest_runs hcells₂ fun h₃ hcells₃ => ⟨hcells₃, hrefused⟩

variable {columns strStats : Nat}

theorem columns_mem_built : (columns, .columns (if args.hasStrCols then some strStats else none)) ∈
    built args req stats keys table columns strStats :=
  Multiset.mem_add.mpr (.inr (mem_add_self _ _))

theorem table_mem_built : (table, .tables (List.replicate args.numTables (some columns))) ∈
    built args req stats keys table columns strStats :=
  Multiset.mem_add.mpr (.inr (Multiset.mem_add.mpr (.inr (mem_add_self _ _))))

theorem mem_built_of_mem_head {c : Nat × Block} (hc : c ∈ head req stats keys table) :
    c ∈ built args req stats keys table columns strStats := by
  unfold built
  simp only [Multiset.mem_add]
  exact .inr (.inr (.inr hc))

/-- The answer is copied while all blocks are there. -/
theorem columnsCopy_runs (hcells : Cells h₀ (built args req stats keys table columns strStats) h)
    {Q : Unit → Heap Block → Prop} (hQ : Q () h) : Runs (columnsCopy args columns) h Q := by
  unfold columnsCopy
  split
  · rename_i hstr
    have hptr : Block.strStats? (.columns (if args.hasStrCols then some strStats else none)) =
        some strStats := if_pos hstr
    apply Runs.bind
    apply loadPtr_runs hcells columns_mem_built hptr
    apply Runs.bind
    apply hcells.runs_load (mem_add_self _ _)
    apply Runs.bind
    apply hcells.runs_load columns_mem_built
    exact Runs.pure hQ
  · apply Runs.bind
    apply hcells.runs_load columns_mem_built
    exact Runs.pure hQ

/-- Every element of the array has its columns. -/
theorem forM_columnsCopy_runs (parts : List Nat) (hparts : ∀ i ∈ parts, i < args.numTables)
    (hcells : Cells h₀ (built args req stats keys table columns strStats) h)
    {Q : Unit → Heap Block → Prop} (hQ : Q () h) :
    Runs (parts.forM fun i => do
      columnsCopy args (← loadPtr (Block.columns? i) (← loadPtr Block.table? req))) h Q := by
  induction parts with
  | nil => exact Runs.pure hQ
  | cons i rest ih =>
    have hptr : Block.columns? i (.tables (List.replicate args.numTables (some columns))) =
        some columns := by
      show (List.replicate args.numTables (some columns)).getD i none = some columns
      rw [List.getD_eq_getElem?_getD, List.getElem?_replicate_of_lt (hparts i List.mem_cons_self)]
      rfl
    apply Runs.bind
    apply Runs.bind
    apply loadPtr_runs hcells (mem_built_of_mem_head (mem_add_self _ _)) rfl
    apply Runs.bind
    apply loadPtr_runs hcells table_mem_built hptr
    apply columnsCopy_runs hcells
    exact ih fun j hj => hparts j (List.mem_cons_of_mem i hj)

theorem copyFromShm_runs (hcells : Cells h₀ (built args req stats keys table columns strStats) h)
    {Q : Unit → Heap Block → Prop} (hQ : Q () h) : Runs (copyFromShm args req) h Q := by
  have hstats : (stats, Block.stats (some keys)) ∈ head req stats keys table :=
    Multiset.mem_add.mpr (.inr (mem_add_self _ _))
  have hkeys : (keys, Block.ndvKeys) ∈ head req stats keys table := by
    unfold head
    simp only [Multiset.mem_add]
    exact .inr (.inr (Multiset.mem_singleton_self _))
  apply Runs.bind
  apply loadPtr_runs hcells (mem_built_of_mem_head (mem_add_self _ _)) rfl
  apply Runs.bind
  apply loadPtr_runs hcells (mem_built_of_mem_head hstats) rfl
  apply Runs.bind
  apply hcells.runs_load (mem_built_of_mem_head hkeys)
  apply forM_columnsCopy_runs _ _ hcells hQ
  exact fun i hi => List.mem_range.mp hi

/-- What the function returns for an answer. -/
def Reply.returned (reply : Reply) : Int :=
  if reply.answered then reply.result else errConnectionFailed

/-- No blocks are left over. -/
theorem freeAll_runs (hcells : Cells h₀ (built args req stats keys table columns strStats) h)
    {reply : Reply} {Q : Int → Heap Block → Prop} (hQ : ∀ h', Cells h₀ 0 h' → Q reply.returned h') :
    Runs (do
      free strStats
      if args.isPartTable then free columns else freeColumns req
      freeNdvKeys req
      freeTable req
      freeStats req
      free req
      return if reply.answered then reply.result else errConnectionFailed) h Q := by
  -- the end, once the columns are gone
  have hrest : ∀ h', Cells h₀ ({(table, .tables (List.replicate args.numTables (some columns)))} +
      head req stats keys table) h' → Runs (do
        freeNdvKeys req
        freeTable req
        freeStats req
        free req
        return if reply.answered then reply.result else errConnectionFailed) h' Q := by
    intro h₁ hcells₁
    have hkeys : Cells h₀ ({(req, .request (some stats) (some table))} +
        ({(stats, .stats (some keys))} + ({(keys, .ndvKeys)} +
          {(table, .tables (List.replicate args.numTables (some columns)))}))) h₁ :=
      hcells₁.congr (by unfold head; abel)
    apply Runs.bind
    apply freeNdvKeys_runs hkeys
    intro h₂ hcells₂
    have htable : Cells h₀ ({(req, .request (some stats) (some table))} +
        ({(table, .tables (List.replicate args.numTables (some columns)))} +
          ({(stats, .stats (some keys))} + 0))) h₂ := hcells₂.congr (by abel)
    apply Runs.bind
    apply freeTable_runs htable
    intro h₃ hcells₃
    apply Runs.bind
    apply freeStats_runs hcells₃
    intro h₄ hcells₄
    apply Runs.bind
    apply hcells₄.runs_free
    intro h₅ hcells₅
    exact Runs.pure (hQ h₅ hcells₅)
  apply Runs.bind
  apply hcells.runs_free
  intro h₁ hcells₁
  cases hpart : args.isPartTable with
  | true =>
    apply Runs.bind
    apply hcells₁.runs_free
    exact hrest
  | false =>
    have hone : List.replicate args.numTables (some columns) = [some columns] := by
      unfold Args.numTables
      rw [hpart]
      rfl
    rw [hone] at hcells₁ hrest
    have hcolumns : Cells h₀ ({(req, .request (some stats) (some table))} +
        ({(table, .tables [some columns])} +
          ({(columns, .columns (if args.hasStrCols then some strStats else none))} +
            ({(stats, .stats (some keys))} + {(keys, .ndvKeys)})))) h₁ :=
      hcells₁.congr (by unfold head; abel)
    apply Runs.bind
    apply freeColumns_runs hcolumns
    intro h₂ hcells₂
    exact hrest h₂ (hcells₂.congr (by unfold head; abel))

/-! ## Calls -/

/-- How a call ends: nothing is left over, and it returns what was answered, or that a block could
not be allocated. -/
def Ended (grant : Nat → Bool) (reply : Reply) (h₀ : Heap Block) (r : Int) (h : Heap Block) :
    Prop :=
  Cells h₀ 0 h ∧ (r = reply.returned ∨ r = errAllocMemory ∧ ∃ n, grant n = false)

theorem sendAndFree_runs (hcells : Cells h₀ (built args req stats keys table columns strStats) h)
    (reply : Reply) :
    Runs (sendAndFree args reply req columns strStats) h (Ended grant reply h₀) := by
  have hfree := freeAll_runs hcells (show ∀ h', Cells h₀ 0 h' →
    Ended grant reply h₀ reply.returned h' from fun h' hcells' => ⟨hcells', .inl rfl⟩)
  unfold sendAndFree
  simp only
  split
  · apply Runs.bind
    exact copyFromShm_runs hcells hfree
  · exact hfree

/-- One call. -/
theorem ctcGetCboStats_runs (grant : Nat → Bool) (args : Args) (reply : Reply) (h₀ : Heap Block) :
    Runs (ctcGetCboStats grant args reply) h₀ (Ended grant reply h₀) := by
  apply Runs.bind
  apply (Cells.start h₀).runs_request
  · intro req h₁ hcells₁
    apply Runs.bind
    apply hcells₁.runs_request
    · intro stats h₂ hcells₂
      apply Runs.bind
      apply (hcells₂.congr (add_left_comm _ _ _)).runs_store
      intro h₃ hcells₃
      apply Runs.bind
      apply hcells₃.runs_request
      · intro keys h₄ hcells₄
        have hstats : Cells h₀ ({(stats, .stats none)} + ({(req, .request (some stats) none)} +
            {(keys, .ndvKeys)})) h₄ := hcells₄.congr (by abel)
        apply Runs.bind
        apply hstats.runs_store
        intro h₅ hcells₅
        apply Runs.bind
        apply hcells₅.runs_request
        · intro table h₆ hcells₆
          have hreq : Cells h₀ ({(req, .request (some stats) none)} +
              ({(table, .tables (List.replicate args.numTables none))} +
                ({(stats, .stats (some keys))} + {(keys, .ndvKeys)}))) h₆ :=
            hcells₆.congr (by abel)
          apply Runs.bind
          apply hreq.runs_store
          intro h₇ hcells₇
          have hhead : Cells h₀ ({(table, .tables (List.replicate args.numTables none))} +
              head req stats keys table) h₇ := hcells₇.congr (add_left_comm _ _ _)
          apply Runs.bind
          have halloc : Runs (if args.isPartTable then allocPart grant args req table
              else allocPlain grant args req table) h₇
              (Allocated grant args h₀ req stats keys table) := by
            cases hpart : args.isPartTable with
            | true => exact allocPart_runs hpart hhead
            | false => exact allocPlain_runs hpart hhead
          apply Runs.mono halloc
          intro r h₈ hr
          match r with
          | none => exact Runs.pure ⟨hr.1, .inr ⟨rfl, hr.2⟩⟩
          | some (columns, strStats) => exact sendAndFree_runs hr reply
        · intro h₆ hcells₆ hrefused
          have hreq : Cells h₀ ({(req, .request (some stats) none)} +
              ({(stats, .stats (some keys))} + {(keys, .ndvKeys)})) h₆ :=
            hcells₆.congr (add_left_comm _ _ _)
          apply Runs.bind
          apply hreq.runs_store
          intro h₇ hcells₇
          exact freeRest_runs hcells₇ fun h₈ hcells₈ => ⟨hcells₈, .inr ⟨rfl, hrefused⟩⟩
      · intro h₄ hcells₄ hrefused
        apply Runs.bind
        apply (hcells₄.congr (add_left_comm _ _ _)).runs_store
        intro h₅ hcells₅
        apply Runs.bind
        apply freeStats_runs (hcells₅.congr (add_left_comm _ _ _))
        intro h₆ hcells₆
        apply Runs.bind
        apply hcells₆.runs_free
        intro h₇ hcells₇
        exact Runs.pure ⟨hcells₇, .inr ⟨rfl, hrefused⟩⟩
    · intro h₂ hcells₂ hrefused
      apply Runs.bind
      apply hcells₂.runs_store
      intro h₃ hcells₃
      apply Runs.bind
      apply hcells₃.runs_free
      intro h₄ hcells₄
      exact Runs.pure ⟨hcells₄, .inr ⟨rfl, hrefused⟩⟩
  · intro h₁ hcells₁ hrefused
    exact Runs.pure ⟨hcells₁, .inr ⟨rfl, hrefused⟩⟩

/-- Several calls, each with its own arguments, and what they return. -/
def callAll (grant : Nat → Bool) : List (Args × Reply) → HeapM Block (List Int)
  | [] => return []
  | (args, reply) :: rest => do
    let r ← ctcGetCboStats grant args reply
    return r :: (← callAll grant rest)

/-- What the calls return, with any answers to their requests for blocks. -/
theorem callAll_runs (grant : Nat → Bool) (calls : List (Args × Reply)) (h₀ : Heap Block) :
    Runs (callAll grant calls) h₀ fun results h => Heap.Balanced h₀ h ∧
      List.Forall₂ (fun call r => r = call.2.returned ∨
        r = errAllocMemory ∧ ∃ n, grant n = false) calls results := by
  suffices hcalls : ∀ h₁, Cells h₀ 0 h₁ → Runs (callAll grant calls) h₁ fun results h =>
      Cells h₀ 0 h ∧ List.Forall₂ (fun call r => r = call.2.returned ∨
        r = errAllocMemory ∧ ∃ n, grant n = false) calls results by
    exact (hcalls h₀ (Cells.start h₀)).mono fun results h hr => ⟨hr.1.balanced, hr.2⟩
  intro h₁ hcells
  induction calls generalizing h₁ with
  | nil => exact Runs.pure ⟨hcells, .nil⟩
  | cons call rest ih =>
    obtain ⟨args, reply⟩ := call
    apply Runs.bind
    apply Runs.mono (ctcGetCboStats_runs grant args reply h₁)
    intro r h₂ hr
    apply Runs.bind
    apply Runs.mono (ih h₂ (hcells.zero_trans hr.1))
    intro results h₃ hrest
    exact Runs.pure ⟨hrest.1, .cons hr.2 hrest.2⟩

end

/-! ## The requests for blocks -/

section

variable (req table columns strStats : Nat) (args : Args)

theorem asks_loadPtr (pointer : Block → Option Nat) (a : Nat) :
    Asks fun _ => loadPtr pointer a := by
  refine .bind (.load a) fun b => ?_
  cases pointer b with
  | none => exact .fault
  | some p => exact .pure p

theorem asks_freeStats : Asks fun _ => freeStats req :=
  .bind (asks_loadPtr _ _) .free

theorem asks_freeTable : Asks fun _ => freeTable req :=
  .bind (asks_loadPtr _ _) .free

theorem asks_freeNdvKeys : Asks fun _ => freeNdvKeys req :=
  .bind (asks_loadPtr _ _) fun _ => .bind (asks_loadPtr _ _) .free

theorem asks_freeColumns : Asks fun _ => freeColumns req :=
  .bind (asks_loadPtr _ _) fun _ => .bind (asks_loadPtr _ _) .free

theorem asks_freeRest {α : Type} (r : α) :
    Asks fun _ => (do freeNdvKeys req; freeStats req; free req; return r : HeapM Block α) :=
  .bind (asks_freeNdvKeys req) fun _ => .bind (asks_freeStats req) fun _ =>
    .bind (.free req) fun _ => .pure r

theorem asks_setStrStats : Asks fun _ => (do
    if args.hasStrCols then store columns (.columns (some strStats))
    return some (columns, strStats) : HeapM Block (Option (Nat × Nat))) := by
  cases args.hasStrCols with
  | true => exact .bind (.store _ _) fun _ => .pure _
  | false => exact .pure _

theorem asks_allocPlain : Asks fun grant => allocPlain grant args req table := by
  refine .bind (.request _) fun columns? => .bind (.store _ _) fun _ => ?_
  cases columns? with
  | none => exact .bind (asks_freeTable req) fun _ => asks_freeRest req none
  | some columns =>
    refine .bind (.request _) fun strStats? => ?_
    cases strStats? with
    | none =>
      exact .bind (asks_freeColumns req) fun _ => .bind (asks_freeTable req) fun _ =>
        asks_freeRest req none
    | some strStats => exact asks_setStrStats columns strStats args

theorem asks_allocPart : Asks fun grant => allocPart grant args req table := by
  refine .bind (.request _) fun columns? => ?_
  cases columns? with
  | none => exact .bind (asks_freeTable req) fun _ => asks_freeRest req none
  | some columns =>
    refine .bind (.store _ _) fun _ => .bind (.request _) fun strStats? => ?_
    cases strStats? with
    | none =>
      exact .bind (asks_freeTable req) fun _ => .bind (.free columns) fun _ =>
        asks_freeRest req none
    | some strStats => exact asks_setStrStats columns strStats args

theorem asks_columnsCopy : Asks fun _ => columnsCopy args columns := by
  unfold columnsCopy
  cases args.hasStrCols with
  | true =>
    exact .bind (asks_loadPtr _ _) fun _ => .bind (.load _) fun _ => .bind (.load _) fun _ =>
      .pure ()
  | false => exact .bind (.load _) fun _ => .pure ()

theorem asks_forM {f : Nat → HeapM Block Unit} (hf : ∀ i, Asks fun _ => f i) (parts : List Nat) :
    Asks fun _ => parts.forM f := by
  induction parts with
  | nil => exact .pure ()
  | cons i rest ih => exact .bind (hf i) fun _ => ih

theorem asks_copyFromShm : Asks fun _ => copyFromShm args req := by
  refine .bind (asks_loadPtr _ _) fun _ => .bind (asks_loadPtr _ _) fun _ =>
    .bind (.load _) fun _ => asks_forM (fun i => ?_) _
  exact .bind (asks_loadPtr _ _) fun _ => .bind (asks_loadPtr _ _) fun columns =>
    asks_columnsCopy columns args

theorem asks_sendAndFree (reply : Reply) :
    Asks fun _ => sendAndFree args reply req columns strStats := by
  have hfree : Asks fun _ => (do
      free strStats
      if args.isPartTable then free columns else freeColumns req
      freeNdvKeys req
      freeTable req
      freeStats req
      free req
      return if reply.answered then reply.result else errConnectionFailed : HeapM Block Int) := by
    have hrest : ∀ r : Int, Asks fun _ => (do
        freeNdvKeys req
        freeTable req
        freeStats req
        free req
        return r : HeapM Block Int) := fun r =>
      .bind (asks_freeNdvKeys req) fun _ => .bind (asks_freeTable req) fun _ =>
        .bind (asks_freeStats req) fun _ => .bind (.free req) fun _ => .pure r
    refine .bind (.free _) fun _ => .ite ?_ ?_
    · exact .bind (.free columns) fun _ => hrest _
    · exact .bind (asks_freeColumns req) fun _ => hrest _
  unfold sendAndFree
  cases reply.answered && reply.result == 0 with
  | true => exact .bind (asks_copyFromShm req args) fun _ => hfree
  | false => exact hfree

theorem asks_ctcGetCboStats (reply : Reply) :
    Asks fun grant => ctcGetCboStats grant args reply := by
  refine .bind (.request _) fun req? => ?_
  cases req? with
  | none => exact .pure _
  | some req =>
    refine .bind (.request _) fun stats? => .bind (.store _ _) fun _ => ?_
    cases stats? with
    | none => exact .bind (.free req) fun _ => .pure _
    | some stats =>
      refine .bind (.request _) fun ndvKeys? => .bind (.store _ _) fun _ => ?_
      cases ndvKeys? with
      | none => exact .bind (asks_freeStats req) fun _ => .bind (.free req) fun _ => .pure _
      | some _ =>
        refine .bind (.request _) fun table? => .bind (.store _ _) fun _ => ?_
        cases table? with
        | none => exact asks_freeRest req _
        | some table =>
          refine .bind (.ite (asks_allocPart req table args) (asks_allocPlain req table args))
            fun built? => ?_
          cases built? with
          | none => exact .pure _
          | some built => exact asks_sendAndFree req built.1 built.2 args reply

theorem asks_callAll (calls : List (Args × Reply)) : Asks fun grant => callAll grant calls := by
  induction calls with
  | nil => exact .pure []
  | cons call rest ih =>
    exact .bind (asks_ctcGetCboStats call.1 call.2) fun _ => .bind ih fun _ => .pure _

end

/-- **The blocks of the requests.** Whichever allocations are granted, and whatever the engine
answers: no call goes through the pointer to a block that is gone or frees one twice; after any
number of calls every block has been freed exactly once; and each call returns what was answered, or
that a block could not be allocated, once an allocation has been refused. -/
theorem ctcGetCboStats_balanced (grant : Nat → Bool) (calls : List (Args × Reply))
    (h₀ : Heap Block) :
    Runs (callAll grant calls) h₀ fun results h => Heap.Balanced h₀ h ∧
      List.Forall₂ (fun call r => r = call.2.returned ∨ r = errAllocMemory ∧
        ∃ n, h₀.requests ≤ n ∧ n < h.requests ∧ grant n = false) calls results := by
  have hruns := (asks_callAll calls).runs (fun grant => callAll_runs grant calls h₀) grant
  refine hruns.mono fun results h hr => ⟨hr.1, hr.2.imp ?_⟩
  rintro call r (hreturned | ⟨hmemory, n, hrefused⟩)
  · exact .inl hreturned
  · refine .inr ⟨hmemory, n, ?_⟩
    dsimp only at hrefused
    split at hrefused
    · next hmade => exact ⟨hmade.1, hmade.2, hrefused⟩
    · cases hrefused

end CantianConnector.Cbo.StatsRequest
