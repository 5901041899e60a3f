import CantianConnector.Cbo.StringSlots
import Mathlib.Algebra.GroupWithZero.Action.Defs
import Mathlib.Algebra.Order.BigOperators.Group.List

/-!
# The batches of the partition statistics

`get_cbo_stats_4share` asks the engine for the statistics of a partitioned table in batches, as
large as the shared memory allows. The batches of a run follow each other from partition 0 on
(`fetchLoop_spec`). If the statistics of one partition alone exceed `MAX_MESSAGE_SIZE`, the size of
a batch is 0 and the next statement divides by it (`batchesRight_iff`).
-/

namespace CantianConnector.Cbo

open CantianConnector.Convert

/-- `MAX_MESSAGE_SIZE`. -/
def maxMessageSize : Nat := 4194304

/-- `sizeof(ctc_cbo_stats_column_t)`: the endpoints and the two bounds behind 24 bytes. -/
def sizeofStatsColumn : Nat := 24 + statsHistgramMaxSize * 16 + 2 * 8

/-- `sizeof(ctc_cbo_stats_table_t)`. -/
def sizeofStatsTable : Nat := 24

/-! ## The functions -/

/-- `ctc_cbo_stats_t` of a partitioned table. -/
structure CboStats where
  partCnt : Nat
  msgLen : Nat
  keyLen : Nat
  numStrCols : Nat
  isUpdated : Bool
deriving DecidableEq, Repr

/-- `ctc_part_share`, as far as the statistics go. -/
structure PartShare where
  cboStats : CboStats
  needFetchCbo : Bool
  getCboTime : Int
deriving DecidableEq, Repr

/-- The partitions of a call of `ctc_get_cbo_stats`. -/
structure Batch where
  firstPartid : Nat
  numPartFetch : Nat
deriving DecidableEq, Repr

/-- What `get_cbo_stats_4share` finds outside: the clock, whether the table has to be opened and
with which result, and the answer to a batch, `is_updated` or an error. -/
structure StatsEnv where
  now : Int
  ctcUpdateAnalyzeTime : Nat
  ctxInvalid : Bool
  openTable : Except Int Unit
  ctcGetCboStats : Batch → Except Int Bool

/-- A run of `get_cbo_stats_4share`: what it returns (`.ok` for `CT_SUCCESS`), the share it leaves
behind, and the batches it has asked for. -/
structure StatsRun where
  ret : Except Int Unit
  share : PartShare
  batches : List Batch

section

variable (withCantian : Bool)

/-- `ha_ctcpart::initialize_cbo_stats`; `none` if it fails. -/
def initializeCboStats (myMalloc : Nat → Option Nat) (fields : List Field) (keys partNum : Nat) :
    Option CboStats := do
  let keyLen := keys * 4 * 16
  let msgLen := fields.length * sizeofStatsColumn % 2 ^ 32
  let _ ← myMalloc (partNum * sizeofStatsTable)
  let _ ← myMalloc keyLen
  let _ ← myMalloc (fields.length * sizeofStatsColumn)
  -- a failure of alloc_str_mysql_mem is logged; the columns are counted once col_type is there
  let numStrCols := if (myMalloc fields.length).isSome then (strColumns fields).length else 0
  return ⟨partNum, msgLen, keyLen, numStrCols, false⟩

/-- `str_data_size`. -/
def strDataSize (stats : CboStats) : Nat :=
  stats.numStrCols * (statsHistgramMaxSize + 2) * cboStringMaxLen withCantian % 2 ^ 32

/-- `data_size`. -/
def dataSize (stats : CboStats) : Nat :=
  if stats.msgLen > strDataSize withCantian stats then stats.msgLen
  else strDataSize withCantian stats

/-- The first `num_part_fetch`; 0 also where the division traps. -/
def numPartFetch (stats : CboStats) : Nat := maxMessageSize / dataSize withCantian stats

/-- The loop over the full batches, `times` of them from partition `first` on: the batches, the next
partition or an error, and the statistics. -/
def fetchLoop (env : StatsEnv) (num : Nat) :
    Nat → Nat → CboStats → List Batch × Except Int Nat × CboStats
  | 0, first, stats => ([], .ok first, stats)
  | times + 1, first, stats =>
    match env.ctcGetCboStats ⟨first, num⟩ with
    | .error e => ([⟨first, num⟩], .error e, stats)
    | .ok isUpdated =>
      let (batches, result) := fetchLoop env num times (first + num) { stats with isUpdated }
      (⟨first, num⟩ :: batches, result)

/-- The last batch, of the partitions from `first` on. -/
def fetchRest (env : StatsEnv) (first : Nat) (stats : CboStats) :
    List Batch × Except Int Unit × CboStats :=
  let num := stats.partCnt - first
  if num > 0 then
    match env.ctcGetCboStats ⟨first, num⟩ with
    | .error e => ([⟨first, num⟩], .error e, stats)
    | .ok isUpdated => ([⟨first, num⟩], .ok (), { stats with isUpdated })
  else ([], .ok (), stats)

/-- `ha_ctcpart::get_cbo_stats_4share`; `none` for a division by zero. -/
def getCboStats4share (env : StatsEnv) (share : PartShare) : Option StatsRun :=
  if share.needFetchCbo ∨ env.now - share.getCboTime > env.ctcUpdateAnalyzeTime then
    match if env.ctxInvalid then env.openTable else .ok () with
    | .error e => some ⟨.error e, share, []⟩
    | .ok () =>
      let stats := share.cboStats
      if dataSize withCantian stats = 0 then none
      else if numPartFetch withCantian stats = 0 then none
      else
        let num := numPartFetch withCantian stats
        match fetchLoop env num (stats.partCnt / num) 0 stats with
        | (batches, .error e, stats) => some ⟨.error e, { share with cboStats := stats }, batches⟩
        | (batches, .ok first, stats) =>
          let (rest, ret, stats) := fetchRest env first stats
          -- the statistics of the indexes are updated with need_fetch_cbo
          let updated := ret.isOk && stats.isUpdated
          some ⟨ret, ⟨stats, share.needFetchCbo && !updated, env.now⟩, batches ++ rest⟩
  else some ⟨.ok (), share, []⟩

end

/-- The partitions of a batch in the 16-bit fields of its `get_cbo_stats_request`. -/
def getCboStatsRequest (batch : Batch) : Batch :=
  ⟨batch.firstPartid % 2 ^ 16, batch.numPartFetch % 2 ^ 16⟩

/-! ## The batches of a run -/

/-- The partitions that a batch asks for. -/
def Batch.parts (batch : Batch) : List Nat := List.range' batch.firstPartid batch.numPartFetch

/-- The partition behind a batch. -/
def Batch.next (batch : Batch) : Nat := batch.firstPartid + batch.numPartFetch

/-- The 16-bit fields hold a batch that ends below `PART_CURSOR_NUM`. -/
theorem getCboStatsRequest_eq {batch : Batch} (h : batch.next ≤ partCursorNum) :
    getCboStatsRequest batch = batch := by
  unfold Batch.next partCursorNum at h
  unfold getCboStatsRequest
  rw [Nat.mod_eq_of_lt (by omega), Nat.mod_eq_of_lt (by omega)]

/-- **Run of the loop:** the batches have the given size and end where `times` of them do, and
without an error there are as many, which follow each other. -/
theorem fetchLoop_spec (env : StatsEnv) (num times first : Nat) (stats : CboStats) :
    (∀ batch ∈ (fetchLoop env num times first stats).1,
        batch.numPartFetch = num ∧ batch.next ≤ first + times * num) ∧
      ∀ first', (fetchLoop env num times first stats).2.1 = .ok first' →
        (fetchLoop env num times first stats).1.flatMap Batch.parts =
            List.range' first (times * num) ∧
          first' = first + times * num ∧
          (fetchLoop env num times first stats).2.2.partCnt = stats.partCnt := by
  induction times generalizing first stats with
  | zero =>
    refine ⟨fun _ h => absurd h List.not_mem_nil, fun first' h => ?_⟩
    obtain rfl := Except.ok.inj h
    simp [fetchLoop]
  | succ times ih =>
    have hsplit : (times + 1) * num = num + times * num := by rw [Nat.succ_mul, Nat.add_comm]
    have hhead : (⟨first, num⟩ : Batch).next ≤ first + (times + 1) * num := by
      rw [hsplit, ← Nat.add_assoc]
      exact Nat.le_add_right ..
    unfold fetchLoop
    cases henv : env.ctcGetCboStats ⟨first, num⟩ with
    | error e =>
      refine ⟨fun batch h => ?_, fun _ h => by cases h⟩
      rw [List.mem_singleton.mp h]
      exact ⟨rfl, hhead⟩
    | ok isUpdated =>
      obtain ⟨ihnum, ihparts⟩ := ih (first + num) { stats with isUpdated }
      refine ⟨?_, fun first' h => ?_⟩
      · rw [List.forall_mem_cons]
        refine ⟨⟨rfl, hhead⟩, fun batch h => ?_⟩
        rw [hsplit, ← Nat.add_assoc]
        exact ihnum batch h
      · obtain ⟨hparts, hfirst, hcnt⟩ := ihparts first' h
        refine ⟨?_, by omega, hcnt⟩
        rw [List.flatMap_cons, hparts, Batch.parts, hsplit]
        exact List.range'_append_1 ..

/-- The last batch asks for what is left. -/
theorem fetchRest_spec (env : StatsEnv) (first : Nat) (stats : CboStats) :
    (∀ batch ∈ (fetchRest env first stats).1,
        batch.numPartFetch = stats.partCnt - first ∧ batch.next ≤ stats.partCnt) ∧
      ((fetchRest env first stats).2.1 = .ok () →
        (fetchRest env first stats).1.flatMap Batch.parts =
          List.range' first (stats.partCnt - first)) := by
  unfold fetchRest
  dsimp only
  split
  · next hleft =>
    have hlast : (⟨first, stats.partCnt - first⟩ : Batch).next ≤ stats.partCnt := by
      unfold Batch.next
      dsimp only
      omega
    cases env.ctcGetCboStats ⟨first, stats.partCnt - first⟩ with
    | error e =>
      refine ⟨fun batch h => ?_, fun h => by cases h⟩
      rw [List.mem_singleton.mp h]
      exact ⟨rfl, hlast⟩
    | ok isUpdated =>
      refine ⟨fun batch h => ?_, fun _ => ?_⟩
      · rw [List.mem_singleton.mp h]
        exact ⟨rfl, hlast⟩
      · rw [List.flatMap_singleton]
        rfl
  · next hnone =>
    refine ⟨fun _ h => absurd h List.not_mem_nil, fun _ => ?_⟩
    rw [Nat.eq_zero_of_not_pos hnone]
    rfl

/-- `need_fetch_cbo`, or the statistics are too old. -/
def PartShare.Due (env : StatsEnv) (share : PartShare) : Prop :=
  share.needFetchCbo = true ∨ env.now - share.getCboTime > env.ctcUpdateAnalyzeTime

/-- What a batch takes of the shared memory, for each kind of data. -/
structure Batch.Fits (withCantian : Bool) (stats : CboStats) (batch : Batch) : Prop where
  columns : batch.numPartFetch * stats.msgLen ≤ maxMessageSize
  strings : batch.numPartFetch *
    (stats.numStrCols * (statsHistgramMaxSize + 2) * cboStringMaxLen withCantian) ≤ maxMessageSize
  tables : batch.numPartFetch * sizeofStatsTable ≤ maxMessageSize

/-- The batches of a table: a batch is not empty, no run divides by zero, the batches of a run
fit, their requests hold them, and those of a successful run are the partitions in order, each
once. -/
structure BatchesRight (withCantian : Bool) (stats : CboStats) : Prop where
  batch_pos : 1 ≤ numPartFetch withCantian stats
  run : ∀ env share, share.cboStats = stats → ∃ run,
    getCboStats4share withCantian env share = some run ∧
      (∀ batch ∈ run.batches, batch.Fits withCantian stats ∧
        (stats.partCnt ≤ partCursorNum → getCboStatsRequest batch = batch)) ∧
      (share.Due env → run.ret = .ok () →
        run.batches.flatMap Batch.parts = List.range stats.partCnt)

section

variable {withCantian : Bool} {stats : CboStats}

/-- **Run of `get_cbo_stats_4share`:** with a batch size there is no division by zero, no batch is
larger, and a successful run asks for every partition. -/
theorem getCboStats4share_spec (hnum : 0 < numPartFetch withCantian stats) (env : StatsEnv)
    (share : PartShare) (hshare : share.cboStats = stats) : ∃ run,
    getCboStats4share withCantian env share = some run ∧
      (∀ batch ∈ run.batches, batch.numPartFetch ≤ numPartFetch withCantian stats ∧
        batch.next ≤ stats.partCnt) ∧
      (share.Due env → run.ret = .ok () →
        run.batches.flatMap Batch.parts = List.range stats.partCnt) := by
  subst hshare
  have hsize : dataSize withCantian share.cboStats ≠ 0 := by
    intro hzero
    rw [numPartFetch, hzero, Nat.div_zero] at hnum
    exact Nat.lt_irrefl 0 hnum
  unfold getCboStats4share
  split
  case isFalse hdue => exact ⟨_, rfl, fun _ h => absurd h List.not_mem_nil, fun h => absurd h hdue⟩
  split
  · refine ⟨_, rfl, fun _ h => absurd h List.not_mem_nil, fun _ h => ?_⟩
    cases h
  rw [if_neg hsize, if_neg hnum.ne']
  dsimp only
  generalize hn : numPartFetch withCantian share.cboStats = num at *
  obtain ⟨hsizes, hparts⟩ :=
    fetchLoop_spec env num (share.cboStats.partCnt / num) 0 share.cboStats
  cases hloop : fetchLoop env num (share.cboStats.partCnt / num) 0 share.cboStats with
  | mk batches reached =>
    obtain ⟨result, stats'⟩ := reached
    rw [hloop] at hsizes hparts
    dsimp only at hparts
    -- the full batches end before the remainder
    have hdivision := Nat.div_add_mod' share.cboStats.partCnt num
    have hremainder := Nat.mod_lt share.cboStats.partCnt hnum
    have hfull : ∀ batch ∈ batches,
        batch.numPartFetch ≤ num ∧ batch.next ≤ share.cboStats.partCnt := by
      intro batch h
      obtain ⟨hsize, hnext⟩ := hsizes batch h
      omega
    cases result with
    | error e =>
      refine ⟨_, rfl, hfull, fun _ h => ?_⟩
      cases h
    | ok first =>
      obtain ⟨hbatches, hfirst, hcnt⟩ := hparts first rfl
      obtain ⟨hrest, hrestParts⟩ := fetchRest_spec env first stats'
      rw [Nat.zero_add] at hfirst
      refine ⟨_, rfl, fun batch h => ?_, fun _ hret => ?_⟩
      · rcases List.mem_append.mp h with h | h
        · exact hfull batch h
        · obtain ⟨hsize, hnext⟩ := hrest batch h
          omega
      · have hcover := hrestParts hret
        have hjoin := List.range'_append_1 (s := 0) (m := first)
          (n := share.cboStats.partCnt - first)
        rw [Nat.zero_add, Nat.add_sub_cancel' (by omega)] at hjoin
        rw [List.flatMap_append, hbatches, hcover, hcnt, ← hfirst, hjoin, List.range_eq_range']

end

/-! ## The size of a batch -/

theorem length_strColumns_le (fields : List Field) :
    (strColumns fields).length ≤ fields.length := by
  have hcolumn : ∀ n ∈ fields.zipIdx.map fun entry => (strColumn fields entry).length, n ≤ 1 := by
    intro n hn
    obtain ⟨entry, -, rfl⟩ := List.mem_map.mp hn
    unfold strColumn
    split
    split
    · exact Nat.zero_le 1
    · split
      · exact Nat.le_refl 1
      · exact Nat.zero_le 1
  have hsum := List.sum_le_card_nsmul _ 1 hcolumn
  rw [List.length_map, List.length_zipIdx, smul_eq_mul, Nat.mul_one] at hsum
  rw [strColumns, List.length_flatMap]
  exact hsum

/-- What `initialize_cbo_stats` leaves behind: nothing wraps below `CTC_MAX_COLUMNS`. -/
theorem initializeCboStats_spec (withCantian : Bool) {myMalloc : Nat → Option Nat}
    {fields : List Field} (hcolumns : fields.length ≤ ctcMaxColumns) {keys partNum : Nat}
    {stats : CboStats} (h : initializeCboStats myMalloc fields keys partNum = some stats) :
    stats.msgLen = fields.length * sizeofStatsColumn ∧ stats.numStrCols ≤ fields.length ∧
      strDataSize withCantian stats =
        stats.numStrCols * (statsHistgramMaxSize + 2) * cboStringMaxLen withCantian := by
  have hlength := length_strColumns_le fields
  simp only [initializeCboStats, Option.bind_eq_bind, Option.bind_eq_some_iff, Option.pure_def,
    Option.some.injEq] at h
  obtain ⟨_, -, _, -, _, -, rfl⟩ := h
  have hstr : (if (myMalloc fields.length).isSome then (strColumns fields).length else 0) ≤
      fields.length := by
    split
    · exact hlength
    · exact Nat.zero_le _
  have hlen : cboStringMaxLen withCantian ≤ 64 := by cases withCantian <;> decide
  unfold ctcMaxColumns at hcolumns
  refine ⟨Nat.mod_eq_of_lt ?_, hstr, Nat.mod_eq_of_lt ?_⟩
  · unfold sizeofStatsColumn statsHistgramMaxSize
    omega
  · have hbound := Nat.mul_le_mul (Nat.mul_le_mul_right (statsHistgramMaxSize + 2)
      (hstr.trans hcolumns)) hlen
    exact hbound.trans_lt (by decide)

/-- A batch of no more partitions than `num_part_fetch` fits. -/
theorem Batch.Fits.of_le {withCantian : Bool} {stats : CboStats} {batch : Batch}
    (hstr : strDataSize withCantian stats =
      stats.numStrCols * (statsHistgramMaxSize + 2) * cboStringMaxLen withCantian)
    (htable : sizeofStatsTable ≤ stats.msgLen)
    (hle : batch.numPartFetch ≤ Cbo.numPartFetch withCantian stats) :
    batch.Fits withCantian stats := by
  have hdata : batch.numPartFetch * dataSize withCantian stats ≤ maxMessageSize :=
    Nat.mul_le_of_le_div _ _ _ hle
  have hmsg : stats.msgLen ≤ dataSize withCantian stats := by
    unfold dataSize
    split <;> omega
  have hstrings : strDataSize withCantian stats ≤ dataSize withCantian stats := by
    unfold dataSize
    split <;> omega
  exact {
    columns := (Nat.mul_le_mul_left _ hmsg).trans hdata
    strings := hstr ▸ (Nat.mul_le_mul_left _ hstrings).trans hdata
    tables := (Nat.mul_le_mul_left _ (htable.trans hmsg)).trans hdata }

/-- **The batches are right** exactly if the statistics of one partition fit a message. -/
theorem batchesRight_iff (withCantian : Bool) (myMalloc : Nat → Option Nat) (fields : List Field)
    (hcolumns : fields.length ≤ ctcMaxColumns) (keys partNum : Nat) (stats : CboStats)
    (h : initializeCboStats myMalloc fields keys partNum = some stats) :
    BatchesRight withCantian stats ↔
      fields ≠ [] ∧ fields.length * sizeofStatsColumn ≤ maxMessageSize ∧
        stats.numStrCols * (statsHistgramMaxSize + 2) * cboStringMaxLen withCantian ≤
          maxMessageSize := by
  obtain ⟨hmsg, hnum, hstr⟩ := initializeCboStats_spec withCantian hcolumns h
  have hdata : dataSize withCantian stats = max (fields.length * sizeofStatsColumn)
      (stats.numStrCols * (statsHistgramMaxSize + 2) * cboStringMaxLen withCantian) := by
    unfold dataSize
    rw [hstr, hmsg]
    split <;> omega
  have hempty : fields = [] ↔ fields.length = 0 := List.length_eq_zero_iff.symm
  constructor
  · intro hright
    obtain ⟨hpos, hfits⟩ := Nat.div_pos_iff.mp hright.batch_pos
    rw [hdata] at hpos hfits
    refine ⟨fun hfields => ?_, (le_max_left _ _).trans hfits, (le_max_right _ _).trans hfits⟩
    have hnone : fields.length = 0 := hempty.mp hfields
    have hnostr : stats.numStrCols = 0 := by omega
    rw [hnone, hnostr, Nat.zero_mul, Nat.zero_mul, Nat.zero_mul, Nat.max_self] at hpos
    exact Nat.lt_irrefl 0 hpos
  · rintro ⟨hfields, hcolumn, hstring⟩
    have hpos : 0 < fields.length := Nat.pos_of_ne_zero fun hzero => hfields (hempty.mpr hzero)
    have hone : 0 < dataSize withCantian stats := by
      rw [hdata]
      exact (Nat.mul_pos hpos (by decide)).trans_le (le_max_left _ _)
    have hbatch : 0 < numPartFetch withCantian stats :=
      Nat.div_pos (hdata ▸ max_le hcolumn hstring) hone
    have htable : sizeofStatsTable ≤ stats.msgLen := by
      rw [hmsg]
      exact (show sizeofStatsTable ≤ sizeofStatsColumn by decide).trans
        (Nat.le_mul_of_pos_left _ hpos)
    refine ⟨hbatch, fun env share hshare => ?_⟩
    obtain ⟨run, hrun, hle, hparts⟩ := getCboStats4share_spec hbatch env share hshare
    refine ⟨run, hrun, fun batch hmem => ?_, hparts⟩
    obtain ⟨hsize, hnext⟩ := hle batch hmem
    exact ⟨.of_le hstr htable hsize, fun hcursors => getCboStatsRequest_eq (hnext.trans hcursors)⟩

/-- A table with one VARCHAR column and 1500 partitions is fetched in batches of 256. -/
theorem batchesRight_iff_varchar : ∃ stats,
    initializeCboStats some [varcharField] 1 1500 = some stats ∧ BatchesRight true stats :=
  ⟨_, rfl, (batchesRight_iff true some [varcharField] (by decide) 1 1500 _ rfl).mpr
    ⟨List.cons_ne_nil _ _, by decide, by decide⟩⟩

/-- With 1023 columns the run divides by zero. -/
theorem not_batchesRight : ∃ stats,
    initializeCboStats some (List.replicate 1023 (statsField (.long false))) 1 2 = some stats ∧
      (∀ env share, share.cboStats = stats → env.ctxInvalid = false → share.needFetchCbo = true →
        getCboStats4share true env share = none) ∧
      ¬BatchesRight true stats := by
  have hmsg : 1023 * sizeofStatsColumn > maxMessageSize := by decide
  obtain ⟨stats, hstats⟩ : ∃ stats, initializeCboStats some
    (List.replicate 1023 (statsField (.long false))) 1 2 = some stats := ⟨_, rfl⟩
  obtain ⟨hlen, -, -⟩ := initializeCboStats_spec true (by rw [List.length_replicate]; decide) hstats
  rw [List.length_replicate] at hlen
  have hzero : numPartFetch true stats = 0 := by
    refine Nat.div_eq_of_lt ?_
    unfold dataSize
    split <;> omega
  refine ⟨stats, hstats, fun env share hshare hctx hneed => ?_, fun hright => ?_⟩
  · unfold getCboStats4share
    rw [if_pos (Or.inl hneed), if_neg (by rw [hctx]; exact Bool.noConfusion)]
    dsimp only
    rw [hshare, if_pos hzero, ite_self]
  · have hpos := hright.batch_pos
    omega

end CantianConnector.Cbo
