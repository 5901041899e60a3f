import CantianConnector.Lib.Machine
import CantianConnector.Lib.Ownership

/-!
# The share of a table

The open handlers of a table have a share in common, which counts them and owns the statistics of
the optimizer. `open` takes the share and makes the statistics, `close` gives it back, and the last
one frees all of it. Requests for memory may be refused at any place. In every run the count is the
number of handlers that hold the share, and each block is freed once (`run_shared`). The run must
not contain an `ha_ctcpart::open` that closes the handler again and still succeeds.
-/

namespace CantianConnector.Handler.Sharing

open Blocks Ownership

/-! ## Blocks -/

inductive Block where
  | share
  | cboStats
  | statsTable
  | columns
  | colType
  | strStats (size : Nat)
  | ndvKeys
deriving DecidableEq, Repr

/-- What stops the server: a null pointer is followed. -/
inductive Fault where
  | nullPointer
deriving DecidableEq, Repr

/-- What is read of a `TABLE`: its partitions, if it has some, and the number of its string columns
that are not virtual. `partitions` counts the subpartitions of a table that has them. -/
structure TableInfo where
  partitions : Option Nat
  numStrCols : Nat
deriving DecidableEq, Repr

/-- `ctc_cbo_stats_t`. `columns` are the pointers of that name in the entries of
`ctc_cbo_stats_table`, and `strStats` is the `high_value.v_str` of the first string column of the
first entry. -/
structure CboStats where
  self : Nat
  ctcCboStatsTable : Option Nat
  columns : List (Option Nat)
  colType : Option Nat
  strStats : Option Nat
  ndvKeys : Option Nat
deriving DecidableEq, Repr

/-- `Ctc_share` and `Ctcpart_share`. -/
structure CtcShare where
  self : Nat
  usedCount : Int
  cboStats : Option CboStats
deriving DecidableEq, Repr

/-- `STATS_HISTGRAM_MAX_SIZE`. -/
def statsHistgramMaxSize : Nat := 254

section

variable (grant : Nat → Bool) (cboStringMaxLen : Nat) (table : TableInfo)

/-! ## The statistics -/

/-- `alloc_str_mysql_mem`. The block for the texts is stored in the string columns of the
partitions, so it is not stored if there are none. -/
def allocStrMysqlMem (stats : CboStats) (partNum : Nat) : Prog Block Fault (CboStats × Bool) := do
  let colType ← request grant .colType
  match colType with
  | none => return ({ stats with colType := none }, false)
  | some colType =>
    let stats := { stats with colType := some colType }
    let size := partNum * table.numStrCols * (statsHistgramMaxSize + 2) * cboStringMaxLen % 2 ^ 32
    let strStats ← request grant (.strStats size)
    match strStats with
    | none => return (stats, false)
    | some strStats =>
      if 0 < partNum * table.numStrCols then
        return ({ stats with strStats := some strStats }, true)
      else return (stats, true)

/-- `ha_ctc::initialize_cbo_stats`, for a share without statistics. -/
def haCtcInitialize : Prog Block Fault (Option CboStats × Bool) := do
  let self ← request grant .cboStats
  match self with
  | none => return (none, false)
  | some self =>
    let stats : CboStats := ⟨self, none, [], none, none, none⟩
    let statsTable ← request grant .statsTable
    match statsTable with
    | none => return (some stats, false)
    | some statsTable =>
      let columns ← request grant .columns
      match columns with
      | none => return (some { stats with ctcCboStatsTable := some statsTable, columns := [none] }, false)
      | some columns =>
        let stats := { stats with ctcCboStatsTable := some statsTable, columns := [some columns] }
        -- an error is only written to the log
        let filled ← allocStrMysqlMem grant cboStringMaxLen table stats 1
        let ndvKeys ← request grant .ndvKeys
        return (some { filled.1 with ndvKeys := ndvKeys }, ndvKeys.isSome)

/-- The loop of `ha_ctcpart::initialize_cbo_stats` over the partitions. -/
def allocColumns : Nat → Prog Block Fault (List (Option Nat) × Bool)
  | 0 => return ([], true)
  | partNum + 1 => do
    let columns ← request grant .columns
    match columns with
    | none => return (List.replicate (partNum + 1) none, false)
    | some columns =>
      let rest ← allocColumns partNum
      return (some columns :: rest.1, rest.2)

/-- `ha_ctcpart::initialize_cbo_stats`, for a share without statistics. -/
def haCtcpartInitialize (partNum : Nat) : Prog Block Fault (Option CboStats × Bool) := do
  let self ← request grant .cboStats
  match self with
  | none => return (none, false)
  | some self =>
    let stats : CboStats := ⟨self, none, [], none, none, none⟩
    let statsTable ← request grant .statsTable
    match statsTable with
    | none => return (some stats, false)
    | some statsTable =>
      let stats := { stats with
        ctcCboStatsTable := some statsTable
        columns := List.replicate partNum none }
      let ndvKeys ← request grant .ndvKeys
      match ndvKeys with
      | none => return (some stats, false)
      | some ndvKeys =>
        let stats := { stats with ndvKeys := some ndvKeys }
        let columns ← allocColumns grant partNum
        let stats := { stats with columns := columns.1 }
        if columns.2 then
          let filled ← allocStrMysqlMem grant cboStringMaxLen table stats partNum
          return (some filled.1, true)
        else return (some stats, false)

/-- `initialize_cbo_stats`. -/
def initializeCboStats (share : CtcShare) : Prog Block Fault (CtcShare × Bool) := do
  if share.cboStats.isSome then return (share, true)
  else
    let made ← match table.partitions with
      | none => haCtcInitialize grant cboStringMaxLen table
      | some partNum => haCtcpartInitialize grant cboStringMaxLen table partNum
    return ({ share with cboStats := made.1 }, made.2)

/-- `free_columns_cbo_stats`; the result is `is_str_first_addr`. -/
def freeColumnsCboStats (columns strStats : Option Nat) (isStrFirstAddr : Bool) :
    Prog Block Fault Bool := do
  if 0 < table.numStrCols then
    match columns with
    | none => stop .nullPointer
    | some columns =>
      releaseOpt (if isStrFirstAddr then strStats else none)
      release columns
      return false
  else
    releaseOpt columns
    return isStrFirstAddr

/-- The loop of `ha_ctcpart::free_cbo_stats` over the partitions. -/
def freePartitions (strStats : Option Nat) : Bool → List (Option Nat) → Prog Block Fault Unit
  | _, [] => return ()
  | isStrFirstAddr, columns :: rest => do
    let isStrFirstAddr ← freeColumnsCboStats table columns strStats isStrFirstAddr
    freePartitions strStats isStrFirstAddr rest

/-- `ha_ctc::free_cbo_stats`. -/
def haCtcFree (stats : CboStats) : Prog Block Fault Unit := do
  releaseOpt stats.ndvKeys
  releaseOpt stats.colType
  match stats.ctcCboStatsTable, stats.columns with
  | some statsTable, columns :: _ =>
    let _ ← freeColumnsCboStats table columns stats.strStats true
    release statsTable
    release stats.self
  | _, _ => stop .nullPointer

/-- `ha_ctcpart::free_cbo_stats`. -/
def haCtcpartFree (partNum : Nat) (stats : CboStats) : Prog Block Fault Unit := do
  if stats.ctcCboStatsTable.isNone ∧ 0 < partNum then stop .nullPointer
  else
    freePartitions table stats.strStats true stats.columns
    releaseOpt stats.ndvKeys
    releaseOpt stats.colType
    releaseOpt stats.ctcCboStatsTable
    release stats.self

/-- `free_cbo_stats`. -/
def freeCboStats : Option CboStats → Prog Block Fault Unit
  | none => return ()
  | some stats =>
    match table.partitions with
    | none => haCtcFree table stats
    | some partNum => haCtcpartFree table partNum stats

/-! ## The share -/

/-- `get_share`. -/
def getShare : Option CtcShare → Prog Block Fault (Option CtcShare)
  | some share => return some { share with usedCount := share.usedCount + 1 }
  | none => do
    let self ← request grant .share
    return self.map fun self => ⟨self, 1, none⟩

/-- `free_share`. -/
def freeShare : Option CtcShare → Prog Block Fault (Option CtcShare)
  | none => return none
  | some share =>
    if share.usedCount - 1 = 0 then do
      freeCboStats table share.cboStats
      release share.self
      return none
    else return some { share with usedCount := share.usedCount - 1 }

/-! ## The handlers -/

/-- What a call of `open` meets. -/
structure OpenCall where
  /-- `test_if_locked` has `HA_OPEN_TMP_TABLE` or `HA_OPEN_INTERNAL_TABLE`. -/
  isInternal : Bool
  /-- A replayed or passed through statement: the engine does not open the table. -/
  isSkipped : Bool
  /-- `ctc_open_table` succeeds. -/
  engineOpens : Bool
  populateFails : Bool
  autoIncMutexFails : Bool
  openPartitioningFails : Bool
  /-- The `ha_ctc::close` of a handler whose `open_partitioning` fails returns zero. -/
  closeSucceeds : Bool
deriving DecidableEq, Repr

/-- How `open` ends: whether it returns zero, and whether the handler has a share then. -/
structure Opened where
  share : Option CtcShare
  succeeds : Bool
  holds : Bool

/-- The end of `ha_ctc::open`, behind the statistics. -/
def engineOpen (call : OpenCall) : Bool := call.isSkipped || call.engineOpens

/-- `ha_ctc::open` of a table without partitions. -/
def haCtcOpen (call : OpenCall) (share : Option CtcShare) : Prog Block Fault Opened := do
  if call.isInternal then return ⟨share, engineOpen call, false⟩
  else
    match ← getShare grant share with
    | none => return ⟨none, false, false⟩
    | some share =>
      let made ← initializeCboStats grant cboStringMaxLen table share
      if made.2 && engineOpen call then return ⟨some made.1, true, true⟩
      else
        let share ← freeShare table (some made.1)
        return ⟨share, false, true⟩

/-- The statistics of an `ha_ctcpart::open`, at the beginning of `ha_ctc::open`. -/
def openStats (call : OpenCall) (share : CtcShare) : Prog Block Fault (CtcShare × Bool) :=
  if call.isInternal then return (share, true)
  else initializeCboStats grant cboStringMaxLen table share

/-- `ha_ctcpart::open`. -/
def haCtcpartOpen (call : OpenCall) (share : Option CtcShare) : Prog Block Fault Opened := do
  match ← getShare grant share with
  | none => return ⟨none, false, false⟩
  | some share =>
    if call.populateFails || call.autoIncMutexFails then
      let share ← freeShare table (some share)
      return ⟨share, false, true⟩
    else
      let made ← openStats grant cboStringMaxLen table call share
      if made.2 && engineOpen call then
        if call.openPartitioningFails then
          -- `close` gives the share back, and its result is the result of `open`
          let share ← freeShare table (some made.1)
          return ⟨share, call.closeSucceeds, true⟩
        else return ⟨some made.1, true, true⟩
      else
        let share ← freeShare table (some made.1)
        return ⟨share, false, true⟩

/-- `open`. -/
def openTable (call : OpenCall) (share : Option CtcShare) : Prog Block Fault Opened :=
  match table.partitions with
  | none => haCtcOpen grant cboStringMaxLen table call share
  | some _ => haCtcpartOpen grant cboStringMaxLen table call share

/-- The memory, the share of the table, and for each open handler whether it has a share. `kept`
counts the handlers that were closed while the server was shut down. -/
structure State where
  heap : Heap Block
  share : Option CtcShare
  opened : List Bool
  kept : Nat

def State.init : State := ⟨Heap.empty, none, [], 0⟩

inductive Label where
  | openTable (call : OpenCall)
  /-- The handler at this place is closed. -/
  | closeTable (k : Nat) (shutdown : Bool)

/-- A program on the memory of the state. -/
def State.run {α : Type} (s : State) (m : Prog Block Fault α) (next : α → State → State) :
    Except (Stop Fault) State :=
  (m s.heap).map fun r => next r.1 { s with heap := r.2 }

/-- `ha_ctc::close` and `ha_ctcpart::close` keep the share in different cases: the first one while
the server is shut down, and if the handler has none. -/
def step (s : State) : Label → Except (Stop Fault) State
  | .openTable call =>
    s.run (openTable grant cboStringMaxLen table call s.share) fun done s =>
      { s with share := done.share
               opened := if done.succeeds then done.holds :: s.opened else s.opened }
  | .closeTable k shutdown =>
    match s.opened[k]? with
    | none => .ok s
    | some holds =>
      if table.partitions.isSome ∨ (shutdown = false ∧ holds = true) then
        s.run (freeShare table s.share) fun share s =>
          { s with share := share, opened := s.opened.eraseIdx k }
      else .ok { s with
        opened := s.opened.eraseIdx k
        kept := s.kept + if holds then 1 else 0 }

end

/-! ## What is owned -/

/-- The blocks of the statistics. -/
def CboStats.owned (stats : CboStats) : Multiset Nat :=
  {stats.self} + (pointee stats.ctcCboStatsTable + ((stats.columns.map pointee).sum +
    (pointee stats.colType + (pointee stats.strStats + pointee stats.ndvKeys))))

/-- The blocks of a share. -/
def CtcShare.owned (share : CtcShare) : Multiset Nat :=
  {share.self} + share.cboStats.elim 0 CboStats.owned

/-- All blocks that are reached from the share of the table. -/
def sharedBlocks (share : Option CtcShare) : Multiset Nat := share.elim 0 CtcShare.owned

/-- A block of no bytes for the texts of no string columns, which is not stored. -/
def Lost (table : TableInfo) (b : Block) : Prop :=
  b = .strStats 0 ∧ table.partitions.getD 1 * table.numStrCols = 0

/-- Some request for memory is refused. -/
def Refused (grant : Nat → Bool) : Prop := ∃ n, grant n = false

/-- How the statistics are left, also if they could not be made completely. -/
structure CboStats.Kept (grant : Nat → Bool) (table : TableInfo) (stats : CboStats) : Prop where
  single : table.partitions = none → stats.ctcCboStatsTable.isSome → ∃ c, stats.columns = [c]
  texts : stats.strStats.isSome → 0 < table.numStrCols ∧ stats.columns ≠ []
  complete : Refused grant ∨ stats.ctcCboStatsTable.isSome ∧ ∀ c ∈ stats.columns, c.isSome

section

variable {grant : Nat → Bool} {cboStringMaxLen : Nat} {table : TableInfo} {h : Heap Block}
  {l : Multiset Nat}

theorem allocStrMysqlMem_ends {stats : CboStats} {partNum : Nat}
    (hpart : partNum = table.partitions.getD 1) (hstr : stats.strStats = none)
    (howns : Owns (Lost table) h l) :
    Ends (fun _ : Fault => Refused grant)
      (allocStrMysqlMem grant cboStringMaxLen table stats partNum) h fun r h' =>
        ∃ colType strStats, r.1 = { stats with colType := colType, strStats := strStats } ∧
          (strStats.isSome → 0 < partNum * table.numStrCols) ∧
          Owns (Lost table) h' (pointee colType + (pointee strStats + l)) := by
  apply Ends.bind
  apply Ends.request howns
  · intro colType h₁ howns₁ _
    apply Ends.bind
    apply Ends.request howns₁
    · intro strStats h₂ howns₂ hblock
      dsimp only
      split
      · rename_i hpos
        refine Ends.pure ⟨some colType, some strStats, rfl, fun _ => hpos, howns₂.congr ?_⟩
        simp only [pointee_some]
        abel
      · -- nobody keeps the address of a block of no bytes
        rename_i hzero
        have hnone : partNum * table.numStrCols = 0 := Nat.eq_zero_of_not_pos hzero
        have hlost : Owns (Lost table) h₂ ({colType} + l) := by
          apply howns₂.forget hblock
          rw [hnone, Nat.zero_mul, Nat.zero_mul, Nat.zero_mod]
          exact ⟨rfl, hpart ▸ hnone⟩
        refine Ends.pure ⟨some colType, none, by rw [hstr], nofun, hlost.congr ?_⟩
        simp only [pointee_some, pointee_none, zero_add]
    · intro h₂ howns₂ _
      refine Ends.pure ⟨some colType, none, by rw [hstr], nofun, howns₂.congr ?_⟩
      simp only [pointee_some, pointee_none, zero_add]
  · intro h₁ howns₁ _
    refine Ends.pure ⟨none, none, by rw [hstr], nofun, howns₁.congr ?_⟩
    simp only [pointee_none, zero_add]

/-- What `initialize_cbo_stats` leaves. -/
def Made (grant : Nat → Bool) (table : TableInfo) (l : Multiset Nat) (made : Option CboStats)
    (h : Heap Block) : Prop :=
  Owns (Lost table) h (made.elim 0 CboStats.owned + l) ∧
    ∀ stats, made = some stats → stats.Kept grant table

theorem Made.some {stats : CboStats} (howns : Owns (Lost table) h (stats.owned + l))
    (hkept : stats.Kept grant table) : Made grant table l (some stats) h := by
  refine ⟨howns, ?_⟩
  rintro _ ⟨⟩
  exact hkept

theorem Made.none (howns : Owns (Lost table) h l) : Made grant table l none h := by
  refine ⟨howns.congr (zero_add l).symm, ?_⟩
  rintro _ ⟨⟩

theorem haCtcInitialize_ends (hpart : table.partitions = none) (howns : Owns (Lost table) h l) :
    Ends (fun _ : Fault => Refused grant) (haCtcInitialize grant cboStringMaxLen table) h
      fun r h' => Made grant table l r.1 h' := by
  apply Ends.bind
  apply Ends.request howns
  · intro self h₁ howns₁ _
    apply Ends.bind
    apply Ends.request howns₁
    · intro statsTable h₂ howns₂ _
      apply Ends.bind
      apply Ends.request howns₂
      · intro columns h₃ howns₃ _
        apply Ends.bind
        have hfilled := @allocStrMysqlMem_ends grant cboStringMaxLen table h₃ _
          ⟨self, some statsTable, [some columns], none, none, none⟩ 1 (by rw [hpart]; rfl) rfl howns₃
        apply Ends.mono hfilled
        rintro ⟨filled, ok⟩ h₄ ⟨colType, strStats, rfl, htexts, howns₄⟩
        have hkept : ∀ ndvKeys, CboStats.Kept grant table
            ⟨self, some statsTable, [some columns], colType, strStats, ndvKeys⟩ := by
          intro ndvKeys
          refine ⟨fun _ _ => ⟨_, rfl⟩, ?_, Or.inr ⟨rfl, ?_⟩⟩
          · intro hsome
            exact ⟨Nat.pos_of_mul_pos_left (htexts hsome), List.cons_ne_nil _ _⟩
          · intro c hc
            rw [List.mem_singleton.mp hc]
            rfl
        apply Ends.bind
        apply Ends.request howns₄
        · intro ndvKeys h₅ howns₅ _
          refine Ends.pure (Made.some (howns₅.congr ?_) (hkept _))
          simp only [CboStats.owned, pointee_some, List.map_cons, List.map_nil, List.sum_cons,
            List.sum_nil]
          abel
        · intro h₅ howns₅ _
          refine Ends.pure (Made.some (howns₅.congr ?_) (hkept _))
          simp only [CboStats.owned, pointee_some, pointee_none, List.map_cons, List.map_nil,
            List.sum_cons, List.sum_nil]
          abel
      · intro h₃ howns₃ hrefused
        refine Ends.pure (Made.some (howns₃.congr ?_)
          ⟨fun _ _ => ⟨_, rfl⟩, nofun, Or.inl hrefused⟩)
        simp only [CboStats.owned, pointee_some, pointee_none, List.map_cons, List.map_nil,
          List.sum_cons, List.sum_nil]
        abel
    · intro h₂ howns₂ hrefused
      refine Ends.pure (Made.some (howns₂.congr ?_) ⟨fun _ => nofun, nofun, Or.inl hrefused⟩)
      simp only [CboStats.owned, pointee_none, List.map_nil, List.sum_nil]
      abel
  · intro h₁ howns₁ _
    exact Ends.pure (Made.none howns₁)

theorem allocColumns_ends (partNum : Nat) (howns : Owns (Lost table) h l) :
    Ends (fun _ : Fault => Refused grant) (allocColumns grant partNum) h fun r h' =>
      Owns (Lost table) h' ((r.1.map pointee).sum + l) ∧ r.1.length = partNum ∧
        (Refused grant ∨ r.2 = true ∧ ∀ c ∈ r.1, c.isSome) := by
  induction partNum generalizing h l with
  | zero =>
    refine Ends.pure ⟨howns.congr (zero_add l).symm, rfl, Or.inr ⟨rfl, ?_⟩⟩
    intro c hc
    cases hc
  | succ partNum ih =>
    apply Ends.bind
    apply Ends.request howns
    · intro columns h₁ howns₁ _
      apply Ends.bind
      apply Ends.mono (ih howns₁)
      rintro ⟨rest, ok⟩ h₂ ⟨howns₂, hlen, hrest⟩
      refine Ends.pure ⟨howns₂.congr ?_, congrArg (· + 1) hlen, ?_⟩
      · simp only [List.map_cons, List.sum_cons, pointee_some]
        abel
      · apply hrest.imp_right
        rintro ⟨hok, hsome⟩
        refine ⟨hok, ?_⟩
        intro c hc
        rcases List.mem_cons.mp hc with rfl | hc
        · rfl
        · exact hsome c hc
    · intro h₁ howns₁ hrefused
      refine Ends.pure ⟨howns₁.congr ?_, List.length_replicate, Or.inl hrefused⟩
      rw [sum_pointee_replicate, zero_add]

theorem haCtcpartInitialize_ends {partNum : Nat} (hpart : table.partitions = some partNum)
    (howns : Owns (Lost table) h l) :
    Ends (fun _ : Fault => Refused grant) (haCtcpartInitialize grant cboStringMaxLen table partNum) h
      fun r h' => Made grant table l r.1 h' := by
  have hsingle : ∀ stats : CboStats, table.partitions = none → stats.ctcCboStatsTable.isSome →
      ∃ c, stats.columns = [c] := by
    intro stats hnone
    rw [hpart] at hnone
    cases hnone
  apply Ends.bind
  apply Ends.request howns
  · intro self h₁ howns₁ _
    apply Ends.bind
    apply Ends.request howns₁
    · intro statsTable h₂ howns₂ _
      apply Ends.bind
      apply Ends.request howns₂
      · intro ndvKeys h₃ howns₃ _
        apply Ends.bind
        apply Ends.mono (allocColumns_ends partNum howns₃)
        rintro ⟨columns, ok⟩ h₄ ⟨howns₄, hlen, hcolumns⟩
        cases ok with
        | true =>
          apply Ends.bind
          have hfilled := @allocStrMysqlMem_ends grant cboStringMaxLen table h₄ _
            ⟨self, some statsTable, columns, none, none, some ndvKeys⟩ partNum (by rw [hpart]; rfl)
            rfl howns₄
          apply Ends.mono hfilled
          rintro ⟨filled, ok⟩ h₅ ⟨colType, strStats, rfl, htexts, howns₅⟩
          refine Ends.pure (Made.some (howns₅.congr ?_) ⟨hsingle _, ?_, ?_⟩)
          · simp only [CboStats.owned, pointee_some]
            abel
          · intro hsome
            have hpos := htexts hsome
            refine ⟨Nat.pos_of_mul_pos_left hpos, ?_⟩
            rintro rfl
            rw [← hlen] at hpos
            exact absurd hpos (by simp)
          · exact hcolumns.imp_right fun hsome => ⟨rfl, hsome.2⟩
        | false =>
          refine Ends.pure (Made.some (howns₄.congr ?_) ⟨hsingle _, nofun, ?_⟩)
          · simp only [CboStats.owned, pointee_some, pointee_none]
            abel
          · exact hcolumns.imp_right fun hsome => ⟨rfl, hsome.2⟩
      · intro h₃ howns₃ hrefused
        refine Ends.pure (Made.some (howns₃.congr ?_) ⟨hsingle _, nofun, Or.inl hrefused⟩)
        simp only [CboStats.owned, pointee_some, pointee_none, sum_pointee_replicate]
        abel
    · intro h₂ howns₂ hrefused
      refine Ends.pure (Made.some (howns₂.congr ?_) ⟨hsingle _, nofun, Or.inl hrefused⟩)
      simp only [CboStats.owned, pointee_none, List.map_nil, List.sum_nil]
      abel
  · intro h₁ howns₁ _
    exact Ends.pure (Made.none howns₁)

/-! ### Giving back -/

/-- The block of the texts, as long as it is still to be given back. -/
def textBlock (strStats : Option Nat) (isStrFirstAddr : Bool) : Multiset Nat :=
  if isStrFirstAddr then pointee strStats else 0

theorem freeColumnsCboStats_ends {columns strStats : Option Nat} {isStrFirstAddr : Bool}
    (hcolumns : Refused grant ∨ columns.isSome)
    (howns : Owns (Lost table) h (pointee columns + (textBlock strStats isStrFirstAddr + l))) :
    Ends (fun _ : Fault => Refused grant)
      (freeColumnsCboStats table columns strStats isStrFirstAddr) h fun first h' =>
        Owns (Lost table) h' (textBlock strStats first + l) ∧
          (0 < table.numStrCols → first = false) := by
  unfold freeColumnsCboStats
  split
  · cases columns with
    | none => exact Ends.stop (hcolumns.resolve_right nofun)
    | some columns =>
      have htext : pointee (if isStrFirstAddr then strStats else none) =
          textBlock strStats isStrFirstAddr := by
        cases isStrFirstAddr <;> rfl
      apply Ends.bind
      apply Ends.releaseOpt (howns.congr (show _ = _ + ({columns} + l) from ?_))
      · intro h₁ howns₁
        apply Ends.bind
        apply Ends.release howns₁
        intro h₂ howns₂
        exact Ends.pure ⟨howns₂.congr (zero_add l).symm, fun _ => rfl⟩
      · rw [htext, pointee_some]
        abel
  · rename_i hzero
    apply Ends.bind
    apply Ends.releaseOpt howns
    intro h₁ howns₁
    exact Ends.pure ⟨howns₁, fun hpos => absurd hpos hzero⟩

theorem freePartitions_ends {strStats : Option Nat} {columns : List (Option Nat)} :
    ∀ {isStrFirstAddr : Bool} {h : Heap Block},
      (Refused grant ∨ ∀ c ∈ columns, c.isSome) →
      (strStats.isSome → 0 < table.numStrCols ∧ (isStrFirstAddr = false ∨ columns ≠ [])) →
      Owns (Lost table) h ((columns.map pointee).sum + (textBlock strStats isStrFirstAddr + l)) →
      Ends (fun _ : Fault => Refused grant) (freePartitions table strStats isStrFirstAddr columns) h
        fun _ h' => Owns (Lost table) h' l := by
  induction columns with
  | nil =>
    intro isStrFirstAddr h _ htexts howns
    refine Ends.pure (howns.congr ?_)
    have hnone : textBlock strStats isStrFirstAddr = 0 := by
      cases strStats with
      | none => cases isStrFirstAddr <;> rfl
      | some a => rw [(htexts rfl).2.resolve_right (fun h => h rfl), textBlock, if_neg nofun]
    rw [hnone, List.map_nil, List.sum_nil, zero_add, zero_add]
  | cons c columns ih =>
    intro isStrFirstAddr h hcolumns htexts howns
    apply Ends.bind
    have hc : Refused grant ∨ c.isSome :=
      hcolumns.imp_right fun hsome => hsome c List.mem_cons_self
    have hfree := @freeColumnsCboStats_ends grant table h ((columns.map pointee).sum + l) c strStats
      isStrFirstAddr hc (howns.congr (by rw [List.map_cons, List.sum_cons]; abel))
    apply Ends.mono hfree
    rintro first h₁ ⟨howns₁, hfirst⟩
    apply ih
    · exact hcolumns.imp_right fun hsome x hx => hsome x (List.mem_cons_of_mem _ hx)
    · intro hsome
      have hpos := (htexts hsome).1
      exact ⟨hpos, Or.inl (hfirst hpos)⟩
    · refine howns₁.congr ?_
      abel

theorem haCtcFree_ends {stats : CboStats} (hpart : table.partitions = none)
    (hkept : stats.Kept grant table) (howns : Owns (Lost table) h (stats.owned + l)) :
    Ends (fun _ : Fault => Refused grant) (haCtcFree table stats) h
      fun _ h' => Owns (Lost table) h' l := by
  obtain ⟨self, statsTable, columns, colType, strStats, ndvKeys⟩ := stats
  apply Ends.bind
  apply Ends.releaseOpt (howns.congr (show _ = pointee ndvKeys + (pointee colType + ({self} +
    (pointee statsTable + ((columns.map pointee).sum + (pointee strStats + l))))) from ?_))
  · intro h₁ howns₁
    apply Ends.bind
    apply Ends.releaseOpt howns₁
    intro h₂ howns₂
    cases statsTable with
    | none => exact Ends.stop (hkept.complete.resolve_right nofun)
    | some statsTable =>
      obtain ⟨c, rfl⟩ := hkept.single hpart rfl
      apply Ends.bind
      have hc : Refused grant ∨ c.isSome :=
        hkept.complete.imp_right fun hsome => hsome.2 c (List.mem_singleton.mpr rfl)
      have hfree := @freeColumnsCboStats_ends grant table h₂ ({statsTable} + ({self} + l)) c strStats
        true hc (howns₂.congr ?_)
      · apply Ends.mono hfree
        rintro first h₃ ⟨howns₃, hfirst⟩
        have htext : textBlock strStats first = 0 := by
          cases strStats with
          | none => cases first <;> rfl
          | some a => rw [hfirst (hkept.texts rfl).1, textBlock, if_neg nofun]
        rw [htext, zero_add] at howns₃
        apply Ends.bind
        apply Ends.release howns₃
        intro h₄ howns₄
        exact Ends.release howns₄ fun h₅ howns₅ => howns₅
      · simp only [textBlock, if_true, pointee_some, List.map_cons, List.map_nil, List.sum_cons,
          List.sum_nil]
        abel
  · simp only [CboStats.owned]
    abel

theorem haCtcpartFree_ends {stats : CboStats} {partNum : Nat} (hkept : stats.Kept grant table)
    (howns : Owns (Lost table) h (stats.owned + l)) :
    Ends (fun _ : Fault => Refused grant) (haCtcpartFree table partNum stats) h
      fun _ h' => Owns (Lost table) h' l := by
  obtain ⟨self, statsTable, columns, colType, strStats, ndvKeys⟩ := stats
  unfold haCtcpartFree
  split
  · rename_i hnone
    apply Ends.stop
    apply hkept.complete.resolve_right
    rintro ⟨hsome, -⟩
    rw [Option.isNone_iff_eq_none.mp hnone.1] at hsome
    cases hsome
  · apply Ends.bind
    have hfree := @freePartitions_ends grant table (pointee ndvKeys + (pointee colType +
        (pointee statsTable + ({self} + l)))) strStats columns true h
      (hkept.complete.imp_right fun hsome => hsome.2)
      (fun hsome => ⟨(hkept.texts hsome).1, Or.inr (hkept.texts hsome).2⟩) (howns.congr ?_)
    · apply Ends.mono hfree
      intro _ h₁ howns₁
      apply Ends.bind
      apply Ends.releaseOpt howns₁
      intro h₂ howns₂
      apply Ends.bind
      apply Ends.releaseOpt howns₂
      intro h₃ howns₃
      apply Ends.bind
      apply Ends.releaseOpt howns₃
      intro h₄ howns₄
      exact Ends.release howns₄ fun h₅ howns₅ => howns₅
    · simp only [CboStats.owned, textBlock, if_true]
      abel

/-! ### The share -/

variable (grant table) in
/-- The share of `n` handlers: it counts them, and there is none if there are no handlers. -/
def SharedBy (h : Heap Block) (share : Option CtcShare) (n : Nat) : Prop :=
  Owns (Lost table) h (sharedBlocks share) ∧
    match share with
    | none => n = 0
    | some share => 0 < n ∧ share.usedCount = n ∧
        ∀ stats, share.cboStats = some stats → stats.Kept grant table

theorem freeCboStats_ends {stats : Option CboStats}
    (hkept : ∀ made, stats = some made → made.Kept grant table)
    (howns : Owns (Lost table) h (stats.elim 0 CboStats.owned + l)) :
    Ends (fun _ : Fault => Refused grant) (freeCboStats table stats) h
      fun _ h' => Owns (Lost table) h' l := by
  cases stats with
  | none => exact Ends.pure (howns.congr (zero_add l))
  | some stats =>
    unfold freeCboStats
    cases hpart : table.partitions with
    | none => exact haCtcFree_ends hpart (hkept stats rfl) howns
    | some partNum => exact haCtcpartFree_ends (hkept stats rfl) howns

theorem getShare_ends {share : Option CtcShare} {n : Nat} (hshare : SharedBy grant table h share n) :
    Ends (fun _ : Fault => Refused grant) (getShare grant share) h fun r h' =>
      match r with
      | none => share = none ∧ SharedBy grant table h' none n
      | some made => SharedBy grant table h' (some made) (n + 1) := by
  obtain ⟨howns, hcount⟩ := hshare
  cases share with
  | some share =>
    refine Ends.pure ⟨howns, Nat.succ_pos n, ?_, hcount.2.2⟩
    rw [hcount.2.1]
    rfl
  | none =>
    obtain rfl : n = 0 := hcount
    apply Ends.bind
    apply Ends.request howns
    · intro self h₁ howns₁ _
      refine Ends.pure ⟨howns₁, Nat.one_pos, rfl, ?_⟩
      rintro _ ⟨⟩
    · intro h₁ howns₁ _
      exact Ends.pure ⟨rfl, howns₁, rfl⟩

theorem initializeCboStats_ends {share : CtcShare} {n : Nat}
    (hshare : SharedBy grant table h (some share) n) :
    Ends (fun _ : Fault => Refused grant) (initializeCboStats grant cboStringMaxLen table share) h
      fun r h' => SharedBy grant table h' (some r.1) n := by
  obtain ⟨howns, hpos, hcount, hkept⟩ := hshare
  unfold initializeCboStats
  split
  · exact Ends.pure ⟨howns, hpos, hcount, hkept⟩
  · rename_i hnone
    have hnone' : share.cboStats = none := by simpa using hnone
    have hself : Owns (Lost table) h {share.self} := by
      refine howns.congr ?_
      simp only [sharedBlocks, Option.elim_some, CtcShare.owned, hnone', Option.elim_none, add_zero]
    have hmade : ∀ m : Prog Block Fault (Option CboStats × Bool),
        Ends (fun _ : Fault => Refused grant) m h
          (fun r h' => Made grant table {share.self} r.1 h') →
        Ends (fun _ : Fault => Refused grant)
          (do let made ← m; return ({ share with cboStats := made.1 }, made.2)) h
          fun r h' => SharedBy grant table h' (some r.1) n := by
      intro m hm
      apply Ends.bind
      apply Ends.mono hm
      rintro ⟨made, ok⟩ h₁ ⟨howns₁, hkept₁⟩
      refine Ends.pure ⟨howns₁.congr ?_, hpos, hcount, hkept₁⟩
      exact add_comm _ _
    cases hpart : table.partitions with
    | none => exact hmade _ (haCtcInitialize_ends hpart hself)
    | some partNum => exact hmade _ (haCtcpartInitialize_ends hpart hself)

theorem freeShare_ends {share : Option CtcShare} {n : Nat}
    (hshare : SharedBy grant table h share (n + 1)) :
    Ends (fun _ : Fault => Refused grant) (freeShare table share) h
      fun r h' => SharedBy grant table h' r n := by
  obtain ⟨howns, hcount⟩ := hshare
  cases share with
  | none => cases hcount
  | some share =>
    obtain ⟨-, hused, hkept⟩ := hcount
    have hless : share.usedCount - 1 = n := by
      rw [hused, Nat.cast_succ, Int.add_sub_cancel]
    unfold freeShare
    dsimp only
    split
    · rename_i hzero
      obtain rfl : n = 0 := by omega
      apply Ends.bind
      apply Ends.mono (freeCboStats_ends hkept (howns.congr (add_comm _ _)))
      intro _ h₁ howns₁
      apply Ends.bind
      apply Ends.release (howns₁.congr (add_zero _).symm)
      intro h₂ howns₂
      exact Ends.pure ⟨howns₂, rfl⟩
    · rename_i hzero
      exact Ends.pure ⟨howns, by omega, hless, hkept⟩

/-! ### The handlers -/

/-- The handlers that an `open` leaves, if there were `n`. -/
def Opened.count (done : Opened) (n : Nat) : Nat :=
  n + if done.succeeds = true ∧ done.holds = true then 1 else 0

/-- A failed `open` gives the share back. -/
theorem openFails_ends {share : CtcShare} {n : Nat} {succeeds : Bool} (hfails : succeeds = false)
    (hshare : SharedBy grant table h (some share) (n + 1)) :
    Ends (fun _ : Fault => Refused grant)
      (do let share ← freeShare table (some share); return (⟨share, succeeds, true⟩ : Opened)) h
      fun done h' => SharedBy grant table h' done.share (done.count n) := by
  apply Ends.bind
  apply Ends.mono (freeShare_ends hshare)
  intro share h₁ hshare₁
  refine Ends.pure ?_
  rw [Opened.count, hfails, if_neg (by simp)]
  exact hshare₁

theorem haCtcOpen_ends {call : OpenCall} {share : Option CtcShare} {n : Nat}
    (hshare : SharedBy grant table h share n) :
    Ends (fun _ : Fault => Refused grant) (haCtcOpen grant cboStringMaxLen table call share) h
      fun done h' => SharedBy grant table h' done.share (done.count n) := by
  unfold haCtcOpen
  split
  · refine Ends.pure ?_
    rw [Opened.count, if_neg (by simp)]
    exact hshare
  · apply Ends.bind
    apply Ends.mono (getShare_ends hshare)
    intro r h₁ hshare₁
    cases r with
    | none => exact Ends.pure hshare₁.2
    | some share =>
      apply Ends.bind
      apply Ends.mono (initializeCboStats_ends hshare₁)
      rintro ⟨share, ok⟩ h₂ hshare₂
      dsimp only
      split
      · exact Ends.pure hshare₂
      · exact openFails_ends rfl hshare₂

theorem haCtcpartOpen_ends {call : OpenCall} {share : Option CtcShare} {n : Nat}
    (hguard : call.openPartitioningFails = true → call.closeSucceeds = false)
    (hshare : SharedBy grant table h share n) :
    Ends (fun _ : Fault => Refused grant) (haCtcpartOpen grant cboStringMaxLen table call share) h
      fun done h' => SharedBy grant table h' done.share (done.count n) ∧
        (done.succeeds = true → done.holds = true) := by
  have hfails : ∀ {share : CtcShare} {succeeds : Bool} {h : Heap Block}, succeeds = false →
      SharedBy grant table h (some share) (n + 1) →
      Ends (fun _ : Fault => Refused grant)
        (do let share ← freeShare table (some share); return (⟨share, succeeds, true⟩ : Opened)) h
        fun done h' => SharedBy grant table h' done.share (done.count n) ∧
          (done.succeeds = true → done.holds = true) := by
    intro share succeeds h hsucceeds hshare
    apply Ends.bind
    apply Ends.mono (freeShare_ends hshare)
    intro share h₁ hshare₁
    refine Ends.pure ⟨?_, fun _ => rfl⟩
    rw [Opened.count, hsucceeds, if_neg (by simp)]
    exact hshare₁
  unfold haCtcpartOpen
  apply Ends.bind
  apply Ends.mono (getShare_ends hshare)
  intro r h₁ hshare₁
  cases r with
  | none => exact Ends.pure ⟨hshare₁.2, nofun⟩
  | some share =>
    dsimp only
    split
    · exact hfails rfl hshare₁
    · apply Ends.bind
      have hmade : Ends (fun _ : Fault => Refused grant)
          (openStats grant cboStringMaxLen table call share) h₁
          fun r h' => SharedBy grant table h' (some r.1) (n + 1) := by
        unfold openStats
        split
        · exact Ends.pure hshare₁
        · exact initializeCboStats_ends hshare₁
      apply Ends.mono hmade
      rintro ⟨share, ok⟩ h₂ hshare₂
      dsimp only
      split
      · split
        · exact hfails (hguard ‹_›) hshare₂
        · exact Ends.pure ⟨hshare₂, fun _ => rfl⟩
      · exact hfails rfl hshare₂

/-! ### Runs -/

/-- The handlers that the share has to count. -/
def State.holders (s : State) : Nat := s.opened.count true + s.kept

/-- `open` does not succeed with a handler that it has closed. -/
def Label.Guard : Label → Prop
  | .openTable call => call.openPartitioningFails = true → call.closeSucceeds = false
  | .closeTable _ _ => True

variable (grant table) in
/-- What holds between two calls. -/
def Inv (s : State) : Prop :=
  SharedBy grant table s.heap s.share s.holders ∧
    (table.partitions.isSome → ∀ holds ∈ s.opened, holds = true)

variable (grant table) in
/-- How a call or a run ends. -/
def EndsIn (r : Except (Stop Fault) State) : Prop :=
  match r with
  | .ok s => Inv grant table s
  | .error (.error _) => Refused grant
  | .error .dead => False

theorem State.run_ends {α : Type} {s : State} {m : Prog Block Fault α} {next : α → State → State}
    (h : Ends (fun _ : Fault => Refused grant) m s.heap fun a h' =>
      Inv grant table (next a { s with heap := h' })) :
    EndsIn grant table (s.run m next) := by
  unfold Ends at h
  unfold State.run
  cases hrun : m s.heap with
  | ok r =>
    rw [hrun] at h
    exact h
  | error e =>
    rw [hrun] at h
    cases e <;> exact h

theorem count_eraseIdx {opened : List Bool} {k : Nat} {holds : Bool} (h : opened[k]? = some holds) :
    opened.count true = (opened.eraseIdx k).count true + if holds = true then 1 else 0 := by
  induction opened generalizing k with
  | nil => cases h
  | cons first rest ih =>
    cases k with
    | zero =>
      cases h
      rw [List.eraseIdx_cons_zero, List.count_cons]
      simp
    | succ k =>
      rw [List.eraseIdx_cons_succ, List.count_cons, List.count_cons, ih h]
      omega

theorem step_ends {s : State} {label : Label} (hinv : Inv grant table s) (hguard : label.Guard) :
    EndsIn grant table (step grant cboStringMaxLen table s label) := by
  obtain ⟨hshare, hparts⟩ := hinv
  cases label with
  | openTable call =>
    rw [step]
    apply State.run_ends
    have hnext : ∀ (done : Opened) (h' : Heap Block),
        SharedBy grant table h' done.share (done.count s.holders) →
        (table.partitions.isSome → done.succeeds = true → done.holds = true) →
        Inv grant table { s with
          heap := h'
          share := done.share
          opened := if done.succeeds then done.holds :: s.opened else s.opened } := by
      rintro ⟨share, succeeds, holds⟩ h' hshare' hholds
      cases succeeds with
      | false => exact ⟨hshare', hparts⟩
      | true =>
        refine ⟨?_, ?_⟩
        · have hcount : (State.holders { s with
              heap := h'
              share := share
              opened := holds :: s.opened }) = Opened.count ⟨share, true, holds⟩ s.holders := by
            rw [State.holders, State.holders, Opened.count, List.count_cons]
            cases holds <;> simp [Nat.add_right_comm]
          exact hcount ▸ hshare'
        · intro hpart b hb
          rcases List.mem_cons.mp hb with rfl | hb
          · exact hholds hpart rfl
          · exact hparts hpart b hb
    unfold openTable
    cases hpart : table.partitions with
    | none =>
      apply Ends.mono (haCtcOpen_ends hshare)
      intro done h' hshare'
      apply hnext done h' hshare'
      rw [hpart]
      exact nofun
    | some partNum =>
      apply Ends.mono (haCtcpartOpen_ends hguard hshare)
      rintro done h' ⟨hshare', hholds⟩
      exact hnext done h' hshare' fun _ => hholds
  | closeTable k shutdown =>
    rw [step]
    split
    · exact ⟨hshare, hparts⟩
    · rename_i holds hget
      have hcount := count_eraseIdx hget
      have hmem : holds ∈ s.opened := List.mem_of_getElem? hget
      have hrest : table.partitions.isSome → ∀ b ∈ s.opened.eraseIdx k, b = true :=
        fun hpart b hb => hparts hpart b (List.mem_of_mem_eraseIdx hb)
      split
      · rename_i hfrees
        have hholds : holds = true := by
          rcases hfrees with hpart | ⟨-, hholds⟩
          · exact hparts hpart holds hmem
          · exact hholds
        rw [hholds, if_pos rfl] at hcount
        have hshare' : SharedBy grant table s.heap s.share
            ((s.opened.eraseIdx k).count true + s.kept + 1) := by
          have heq : s.holders = (s.opened.eraseIdx k).count true + s.kept + 1 := by
            rw [State.holders, hcount]
            omega
          exact heq ▸ hshare
        apply State.run_ends
        apply Ends.mono (freeShare_ends hshare')
        intro share h' hshare''
        exact ⟨hshare'', hrest⟩
      · refine ⟨?_, hrest⟩
        have heq : s.holders = (s.opened.eraseIdx k).count true +
            (s.kept + if holds = true then 1 else 0) := by
          rw [State.holders, hcount]
          omega
        rw [heq] at hshare
        exact hshare

/-- A run of calls of `open` and `close`. -/
def run (grant : Nat → Bool) (cboStringMaxLen : Nat) (table : TableInfo) (labels : List Label) :
    Except (Stop Fault) State :=
  labels.foldlM (step grant cboStringMaxLen table) State.init

/-- How a run ends. -/
inductive EndsShared (grant : Nat → Bool) (table : TableInfo) : Except (Stop Fault) State → Prop
  /-- The share counts the handlers that hold it and is there exactly as long as there are some, and
  the memory holds its blocks only, which are none in the end. -/
  | ends {s : State} (counted : ∀ share, s.share = some share → share.usedCount = s.holders)
    (there : s.share = none ↔ s.holders = 0)
    (owns : Owns (Lost table) s.heap (sharedBlocks s.share))
    (freed : s.holders = 0 → 0 < table.partitions.getD 1 * table.numStrCols →
      ∀ a, s.heap.blocks a = none) : EndsShared grant table (.ok s)
  /-- A null pointer is followed; not all requests of the run are granted. -/
  | stopped (refused : ∃ n, grant n = false) :
    EndsShared grant table (.error (.error .nullPointer))

theorem foldlM_ends {labels : List Label} {s : State} (hinv : Inv grant table s)
    (hguard : ∀ label ∈ labels, label.Guard) :
    EndsIn grant table (labels.foldlM (step grant cboStringMaxLen table) s) := by
  induction labels generalizing s with
  | nil => exact hinv
  | cons label labels ih =>
    rw [List.forall_mem_cons] at hguard
    have hstep := @step_ends grant cboStringMaxLen table s label hinv hguard.1
    rw [List.foldlM_cons]
    cases hrun : step grant cboStringMaxLen table s label with
    | ok s' =>
      rw [hrun] at hstep
      exact ih hstep hguard.2
    | error e =>
      rw [hrun] at hstep
      exact hstep

/-- **Sharing.** Every run of `open` and `close` by any number of handlers, whatever requests for
memory are refused, counts the handlers, loses no block and frees none twice. -/
theorem run_shared {labels : List Label} (hguard : ∀ label ∈ labels, label.Guard) :
    EndsShared grant table (run grant cboStringMaxLen table labels) := by
  have hinit : Inv grant table State.init := by
    refine ⟨⟨Owns.empty, rfl⟩, ?_⟩
    intro _ b hb
    cases hb
  have hrun := @foldlM_ends grant cboStringMaxLen table labels State.init hinit hguard
  unfold run
  cases hend : labels.foldlM (step grant cboStringMaxLen table) State.init with
  | error e =>
    rw [hend] at hrun
    cases e with
    | dead => exact hrun.elim
    | error e => exact .stopped hrun
  | ok s =>
    rw [hend] at hrun
    obtain ⟨⟨howns, hcount⟩, -⟩ := hrun
    have hnone : s.share = none ↔ s.holders = 0 := by
      cases hshare : s.share with
      | none =>
        rw [hshare] at hcount
        exact ⟨fun _ => hcount, fun _ => rfl⟩
      | some share =>
        rw [hshare] at hcount
        exact ⟨nofun, fun hzero => absurd hzero (Nat.ne_of_gt hcount.1)⟩
    refine .ends ?_ hnone howns ?_
    · intro share hshare
      rw [hshare] at hcount
      exact hcount.2.1
    · intro hzero hpos a
      rw [hnone.mpr hzero] at howns
      cases hb : s.heap.blocks a with
      | none => rfl
      | some b => exact absurd (howns.rest a b hb (Multiset.notMem_zero a)).2 (Nat.ne_of_gt hpos)

end

/-- A call of `open` in which nothing fails. -/
def OpenCall.plain : OpenCall := ⟨false, false, true, false, false, false, false⟩

/-- What is left of a run. -/
def left (r : Except (Stop Fault) State) : Option (Bool × List Bool × Nat) :=
  r.toOption.map fun s => (s.share.isSome, s.opened, s.kept)

/-- Three handlers of a table with two partitions and a string column. The first request for the
statistics is refused, so the first one does not open. -/
theorem run_shared_three :
    EndsShared (fun n => n != 1) ⟨some 2, 1⟩ (run (fun n => n != 1) 64 ⟨some 2, 1⟩
      [.openTable .plain, .openTable .plain, .openTable .plain, .closeTable 0 false,
        .closeTable 0 true]) :=
  run_shared (by simp [Label.Guard, OpenCall.plain])

example : left (run (fun n => n != 1) 64 ⟨some 2, 1⟩
    [.openTable .plain, .openTable .plain, .openTable .plain, .closeTable 0 false,
      .closeTable 0 true]) = some (false, [], 0) := by
  decide +kernel

/-- The guard is needed: here the share is freed while a handler is open. -/
theorem share_freed_early : left (run (fun _ => true) 64 ⟨some 2, 1⟩
    [.openTable .plain, .openTable { OpenCall.plain with
      openPartitioningFails := true, closeSucceeds := true }, .closeTable 0 false]) =
    some (false, [true], 0) := by
  decide +kernel

end CantianConnector.Handler.Sharing
