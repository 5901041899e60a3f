import CantianConnector.Cbo.KeyOffset
import CantianConnector.Convert.RowHead
import Mathlib.Data.List.ProdSigma

/-!
# The memory of the string statistics

`alloc_str_mysql_mem` takes one block for the string statistics of a table and hands it out in
slots of `CBO_STRING_MAX_LEN` bytes: two bounds and 254 endpoints for every string column of every
partition. The three loops hand out consecutive slots (`handOut_laid`), as many as the four factors
of the size say. The size is a `uint32_t`, so the slots are inside the block exactly while the
product stays below 2^32 (`wellPlaced_iff`).
-/

namespace CantianConnector.Cbo

open CantianConnector.Convert

/-- `STATS_HISTGRAM_MAX_SIZE`. -/
def statsHistgramMaxSize : Nat := 254

/-- `CBO_STRING_MAX_LEN`, which depends on `WITH_CANTIAN`. -/
def cboStringMaxLen (withCantian : Bool) : Nat := if withCantian then 64 else 16

/-- `PART_CURSOR_NUM`. -/
def partCursorNum : Nat := 8192

/-! ## The function -/

/-- The three `real_type()`s that have string statistics. -/
def hasStrStats (field : Field) : Bool :=
  match field.columnType.realType with
  | .varchar | .varString | .string => true
  | _ => false

/-- The pointer of `ctc_cbo_stats_column_t` that a slot is for. -/
inductive StrTarget where
  | highValue
  | lowValue
  | epValue (k : Nat)
deriving DecidableEq, Repr

/-- The pointer `target` of `ctc_cbo_stats_table[part].columns[column]` is set to `addr`. -/
structure StrSlot where
  part : Nat
  column : Nat
  target : StrTarget
  addr : Nat
deriving DecidableEq, Repr

/-- `str_stats_mem`, and the pointers that have been set. -/
structure SlotState where
  strStatsMem : Nat
  slots : List StrSlot
deriving DecidableEq, Repr

/-- `ct_col_id`: the number of a column without the virtual columns before it. -/
def ctColId (fields : List Field) (j : Nat) : Nat := j - calcAccumulateGcolNum fields j

section

variable (maxLen : Nat) (fields : List Field)

/-- One round of the loop over the endpoints. -/
def endpointStep (part column : Nat) (st : SlotState) (k : Nat) : SlotState :=
  ⟨st.strStatsMem + maxLen, st.slots ++ [⟨part, column, .epValue k, st.strStatsMem⟩]⟩

/-- The pointers of one string column. -/
def columnSlots (part column : Nat) (st : SlotState) : SlotState :=
  let bounds : SlotState :=
    ⟨st.strStatsMem + maxLen * 2, st.slots ++ [⟨part, column, .highValue, st.strStatsMem⟩,
      ⟨part, column, .lowValue, st.strStatsMem + maxLen⟩]⟩
  (List.range statsHistgramMaxSize).foldl (endpointStep maxLen part column) bounds

/-- One round of the loop over the columns. -/
def columnStep (part : Nat) (st : SlotState) (entry : Field × Nat) : SlotState :=
  let (field, j) := entry
  if field.isVirtualGcol then st
  else if hasStrStats field then columnSlots maxLen part (ctColId fields j) st
  else st

/-- One round of the loop over the partitions. -/
def partStep (st : SlotState) (part : Nat) : SlotState :=
  fields.zipIdx.foldl (columnStep maxLen fields part) st

/-- The number of a column that the first loop counts. -/
def strColumn (entry : Field × Nat) : List Nat :=
  let (field, j) := entry
  if field.isVirtualGcol then [] else if hasStrStats field then [ctColId fields j] else []

/-- The numbers of the stored string columns, in order. -/
def strColumns : List Nat := fields.zipIdx.flatMap (strColumn fields)

/-- What `alloc_str_mysql_mem` leaves behind on success. -/
structure StrStats where
  /-- The ids of the columns with `col_type` set. -/
  colType : List Nat
  numStrCols : Nat
  /-- The block that `my_malloc` returns, and the size that was asked for. -/
  block : Nat
  strStatsMemSize : Nat
  /-- The pointer behind the last slot. -/
  blockEnd : Nat
  slots : List StrSlot
deriving DecidableEq, Repr

/-- `alloc_str_mysql_mem`; `none` for `ERR_ALLOC_MEMORY`. -/
def allocStrMysqlMem (myMalloc : Nat → Option Nat) (partNum : Nat) : Option StrStats := do
  let _ ← myMalloc fields.length
  let numStrCols := (strColumns fields).length
  let strStatsMemSize := partNum * numStrCols * (statsHistgramMaxSize + 2) * maxLen % 2 ^ 32
  let block ← myMalloc strStatsMemSize
  let final := (List.range partNum).foldl (partStep maxLen fields) ⟨block, []⟩
  return ⟨strColumns fields, numStrCols, block, strStatsMemSize, final.strStatsMem, final.slots⟩

end

/-! ## The slots of a block -/

/-- The partition, the column and the pointer that a slot is for. -/
def StrSlot.place (slot : StrSlot) : Nat × Nat × StrTarget := (slot.part, slot.column, slot.target)

/-- The pointers of a column, in the order of the loops. -/
def strTargets : List StrTarget :=
  [.highValue, .lowValue] ++ (List.range statsHistgramMaxSize).map .epValue

theorem length_strTargets : strTargets.length = statsHistgramMaxSize + 2 := by
  simp [strTargets]

theorem nodup_strTargets : strTargets.Nodup := by
  have hinjective : Function.Injective StrTarget.epValue := fun _ _ h => StrTarget.epValue.inj h
  simp [strTargets, List.nodup_range.map hinjective]

theorem mem_strTargets {target : StrTarget} :
    target ∈ strTargets ↔ ∀ k, target = .epValue k → k < statsHistgramMaxSize := by
  cases target <;> simp [strTargets]

/-- The slots handed out so far are consecutive and for these places. -/
structure Laid (maxLen block : Nat) (places : List (Nat × Nat × StrTarget)) (st : SlotState) :
    Prop where
  place : st.slots.map StrSlot.place = places
  addrs : st.slots.map StrSlot.addr = List.range' block places.length maxLen
  strStatsMem : st.strStatsMem = block + maxLen * places.length

section

variable {maxLen block : Nat} {places : List (Nat × Nat × StrTarget)} {st : SlotState}

theorem laid_start (maxLen block : Nat) : Laid maxLen block [] ⟨block, []⟩ := ⟨rfl, rfl, rfl⟩

/-- A slot is handed out and the pointer moves on. -/
theorem Laid.push (h : Laid maxLen block places st) (part column : Nat) (target : StrTarget) :
    Laid maxLen block (places ++ [(part, column, target)])
      ⟨st.strStatsMem + maxLen, st.slots ++ [⟨part, column, target, st.strStatsMem⟩]⟩ := by
  refine ⟨?_, ?_, ?_⟩
  · rw [List.map_append, h.place]
    rfl
  · rw [List.map_append, h.addrs, List.length_append, ← List.range'_append, h.strStatsMem]
    rfl
  · rw [List.length_append, List.length_singleton, Nat.mul_succ, h.strStatsMem, Nat.add_assoc]

/-- **Run of a loop:** every round hands out the slots of its own places. -/
theorem Laid.foldl {α : Type} {step : SlotState → α → SlotState}
    {placesOf : α → List (Nat × Nat × StrTarget)}
    (hstep : ∀ a places st, Laid maxLen block places st →
      Laid maxLen block (places ++ placesOf a) (step st a))
    (rounds : List α) (h : Laid maxLen block places st) :
    Laid maxLen block (places ++ rounds.flatMap placesOf) (rounds.foldl step st) := by
  induction rounds generalizing places st with
  | nil => simpa using h
  | cons a rest ih =>
    rw [List.foldl_cons, List.flatMap_cons, ← List.append_assoc]
    exact ih (hstep a places st h)

theorem Laid.columnSlots (h : Laid maxLen block places st) (part column : Nat) :
    Laid maxLen block (places ++ strTargets.map fun target => (part, column, target))
      (columnSlots maxLen part column st) := by
  have hbounds := (h.push part column .highValue).push part column .lowValue
  have hstep : ∀ k places st, Laid maxLen block places st →
      Laid maxLen block (places ++ [(part, column, .epValue k)])
        (endpointStep maxLen part column st k) := fun k _ _ hst => hst.push part column (.epValue k)
  have hrun := hbounds.foldl hstep (List.range statsHistgramMaxSize)
  have hplaces : (List.range statsHistgramMaxSize).flatMap
        (fun k => [(part, column, StrTarget.epValue k)]) =
      ((List.range statsHistgramMaxSize).map .epValue).map fun target => (part, column, target) := by
    rw [List.map_map, ← List.flatMap_pure_eq_map]
    rfl
  unfold Cbo.columnSlots strTargets
  rw [List.map_append, ← List.append_assoc, ← hplaces]
  have htwo : st.strStatsMem + maxLen * 2 = st.strStatsMem + maxLen + maxLen := by omega
  simpa only [htwo, List.append_assoc, List.map_cons, List.map_nil, List.cons_append,
    List.nil_append] using hrun

theorem Laid.columnStep (h : Laid maxLen block places st) (fields : List Field) (part : Nat)
    (entry : Field × Nat) :
    Laid maxLen block (places ++ (strColumn fields entry).flatMap fun column =>
      strTargets.map fun target => (part, column, target))
      (columnStep maxLen fields part st entry) := by
  obtain ⟨field, j⟩ := entry
  cases hvirtual : field.isVirtualGcol with
  | true => simpa [Cbo.columnStep, strColumn, hvirtual] using h
  | false =>
    cases hstr : hasStrStats field with
    | true =>
      simpa [Cbo.columnStep, strColumn, hvirtual, hstr] using
        h.columnSlots part (ctColId fields j)
    | false => simpa [Cbo.columnStep, strColumn, hvirtual, hstr] using h

theorem Laid.partStep (h : Laid maxLen block places st) (fields : List Field) (part : Nat) :
    Laid maxLen block (places ++ (strColumns fields ×ˢ strTargets).map fun place => (part, place))
      (partStep maxLen fields st part) := by
  have hrun := h.foldl (fun entry _ _ hst => hst.columnStep fields part entry) fields.zipIdx
  have hplaces : (strColumns fields ×ˢ strTargets).map (fun place => (part, place)) =
      (strColumns fields).flatMap fun column =>
        strTargets.map fun target => (part, column, target) := by
    simp only [SProd.sprod, List.product, List.map_flatMap, List.map_map]
    rfl
  rw [hplaces, strColumns, List.flatMap_assoc]
  exact hrun

/-- All the places of a table. -/
def strPlaces (fields : List Field) (partNum : Nat) : List (Nat × Nat × StrTarget) :=
  List.range partNum ×ˢ (strColumns fields ×ˢ strTargets)

theorem length_strPlaces (fields : List Field) (partNum : Nat) :
    (strPlaces fields partNum).length =
      partNum * (strColumns fields).length * (statsHistgramMaxSize + 2) := by
  unfold strPlaces
  rw [List.length_product, List.length_product, List.length_range, length_strTargets,
    Nat.mul_assoc]

theorem mem_strPlaces {fields : List Field} {partNum part column : Nat} {target : StrTarget} :
    (part, column, target) ∈ strPlaces fields partNum ↔
      part < partNum ∧ column ∈ strColumns fields ∧ target ∈ strTargets := by
  simp only [strPlaces, SProd.sprod, List.pair_mem_product, List.mem_range]

/-- **Run of the three loops:** the slots of all places, one behind the other. -/
theorem handOut_laid (maxLen block : Nat) (fields : List Field) (partNum : Nat) :
    Laid maxLen block (strPlaces fields partNum)
      ((List.range partNum).foldl (partStep maxLen fields) ⟨block, []⟩) := by
  have hrun := (laid_start maxLen block).foldl
    (fun part _ _ hst => hst.partStep fields part) (List.range partNum)
  rw [List.nil_append] at hrun
  exact hrun

end

/-! ## The columns -/

/-- The number of a column counts the stored columns before it. -/
theorem ctColId_eq (fields : List Field) {j : Nat} (hj : j ≤ fields.length) :
    ctColId fields j = (fields.take j).countP fun field => !field.isVirtualGcol := by
  have hlength := List.length_eq_countP_add_countP Field.isVirtualGcol (l := fields.take j)
  rw [List.length_take, Nat.min_eq_left hj] at hlength
  unfold ctColId calcAccumulateGcolNum
  simp only [Bool.not_eq_true, Bool.decide_eq_false] at hlength
  omega

/-- A stored column has a smaller number than every column behind it. -/
theorem ctColId_lt {fields : List Field} {i j : Nat} {field : Field} (hi : fields[i]? = some field)
    (hstored : field.isVirtualGcol = false) (hij : i < j) (hj : j ≤ fields.length) :
    ctColId fields i < ctColId fields j := by
  rw [ctColId_eq fields (by omega), ctColId_eq fields hj]
  have hsplit : fields.take (i + 1) = fields.take i ++ [field] := by
    rw [List.take_add_one, hi]
    rfl
  have hprefix : (fields.take (i + 1)).Sublist (fields.take j) :=
    (List.take_prefix_take_left hij).sublist
  have hle := hprefix.countP_le (p := fun field => !field.isVirtualGcol)
  rw [hsplit, List.countP_append, List.countP_singleton, if_pos (by simp [hstored])] at hle
  omega

/-- A column with string statistics. -/
def IsStrColumn (fields : List Field) (column : Nat) : Prop :=
  ∃ j field, fields[j]? = some field ∧ field.isVirtualGcol = false ∧ hasStrStats field = true ∧
    column = ctColId fields j

theorem mem_strColumn {fields : List Field} {entry : Field × Nat} {column : Nat} :
    column ∈ strColumn fields entry ↔
      entry.1.isVirtualGcol = false ∧ hasStrStats entry.1 = true ∧
        column = ctColId fields entry.2 := by
  obtain ⟨field, j⟩ := entry
  unfold strColumn
  cases hvirtual : field.isVirtualGcol <;> cases hstr : hasStrStats field <;>
    simp [hvirtual, hstr]

theorem mem_strColumns {fields : List Field} {column : Nat} :
    column ∈ strColumns fields ↔ IsStrColumn fields column := by
  unfold strColumns IsStrColumn
  simp only [List.mem_flatMap, mem_strColumn, Prod.exists, List.mk_mem_zipIdx_iff_getElem?]
  exact ⟨fun ⟨field, j, hj, h⟩ => ⟨j, field, hj, h⟩, fun ⟨j, field, hj, h⟩ => ⟨field, j, hj, h⟩⟩

/-- The string columns are counted upwards. -/
theorem pairwise_strColumns (fields : List Field) : (strColumns fields).Pairwise (· < ·) := by
  unfold strColumns
  rw [List.pairwise_flatMap]
  refine ⟨fun entry _ => ?_, ?_⟩
  · unfold strColumn
    split
    split
    · exact .nil
    · split
      · exact List.pairwise_singleton ..
      · exact .nil
  · rw [List.pairwise_iff_getElem]
    intro i j hi hj hij x hx y hy
    obtain ⟨hstored, -, rfl⟩ := mem_strColumn.mp hx
    obtain ⟨-, -, rfl⟩ := mem_strColumn.mp hy
    rw [List.length_zipIdx] at hi hj
    simp only [List.getElem_zipIdx, Nat.zero_add] at hstored ⊢
    exact ctColId_lt (List.getElem?_eq_getElem hi) hstored hij hj.le

theorem nodup_strPlaces (fields : List Field) (partNum : Nat) :
    (strPlaces fields partNum).Nodup := by
  have hcolumns : (strColumns fields).Nodup :=
    (pairwise_strColumns fields).imp fun h => Nat.ne_of_lt h
  exact List.nodup_range.product (hcolumns.product nodup_strTargets)

/-! ## The block -/

/-- The slots are what the statistics of `partNum` partitions need: as many bytes are asked for as
are handed out, the slots do not overlap and lie inside the block, and every pointer of a string
column of a partition has one. -/
structure StrStats.WellPlaced (maxLen : Nat) (fields : List Field) (partNum : Nat) (s : StrStats) :
    Prop where
  handedOut : s.block + s.strStatsMemSize = s.blockEnd
  inside : ∀ slot ∈ s.slots, s.block ≤ slot.addr ∧
    slot.addr + maxLen ≤ s.block + s.strStatsMemSize
  disjoint : s.slots.Pairwise fun a b => a.addr + maxLen ≤ b.addr ∨ b.addr + maxLen ≤ a.addr
  once : (s.slots.map StrSlot.place).Nodup
  complete : ∀ part column target, (part, column, target) ∈ s.slots.map StrSlot.place ↔
    part < partNum ∧ IsStrColumn fields column ∧
      ∀ k, target = .epValue k → k < statsHistgramMaxSize

/-- The bytes that the slots of a table need. -/
def strStatsNeeded (maxLen : Nat) (fields : List Field) (partNum : Nat) : Nat :=
  partNum * (strColumns fields).length * (statsHistgramMaxSize + 2) * maxLen

/-- What `alloc_str_mysql_mem` returns if it does not fail. -/
theorem allocStrMysqlMem_spec {maxLen : Nat} {fields : List Field} {myMalloc : Nat → Option Nat}
    {partNum : Nat} {s : StrStats} (h : allocStrMysqlMem maxLen fields myMalloc partNum = some s) :
    s.numStrCols = (strColumns fields).length ∧
      s.strStatsMemSize = strStatsNeeded maxLen fields partNum % 2 ^ 32 ∧
      Laid maxLen s.block (strPlaces fields partNum) ⟨s.blockEnd, s.slots⟩ := by
  simp only [allocStrMysqlMem, Option.bind_eq_bind, Option.bind_eq_some_iff, Option.pure_def,
    Option.some.injEq] at h
  obtain ⟨_, -, block, -, rfl⟩ := h
  exact ⟨rfl, rfl, handOut_laid maxLen block fields partNum⟩

section

variable {maxLen : Nat} {fields : List Field} {partNum block : Nat} {st : SlotState}
  (h : Laid maxLen block (strPlaces fields partNum) st)
include h

/-- The slots end behind as many bytes as the four factors say. -/
theorem Laid.blockEnd : st.strStatsMem = block + strStatsNeeded maxLen fields partNum := by
  rw [h.strStatsMem, length_strPlaces, strStatsNeeded, Nat.mul_comm maxLen]

theorem Laid.inside {slot : StrSlot} (hslot : slot ∈ st.slots) :
    block ≤ slot.addr ∧ slot.addr + maxLen ≤ block + strStatsNeeded maxLen fields partNum := by
  have haddr : slot.addr ∈ st.slots.map StrSlot.addr := List.mem_map_of_mem hslot
  rw [h.addrs, List.mem_range'] at haddr
  obtain ⟨i, hi, haddr⟩ := haddr
  have hlast : maxLen * (i + 1) ≤ maxLen * (strPlaces fields partNum).length :=
    Nat.mul_le_mul_left maxLen hi
  rw [← h.blockEnd, h.strStatsMem, haddr]
  rw [Nat.mul_succ] at hlast
  omega

theorem Laid.disjoint :
    st.slots.Pairwise fun a b => a.addr + maxLen ≤ b.addr ∨ b.addr + maxLen ≤ a.addr := by
  have haddrs : (st.slots.map StrSlot.addr).Pairwise fun a b => a + maxLen ≤ b := by
    rw [h.addrs, List.pairwise_iff_getElem]
    intro i j _ _ hij
    have hmul : maxLen * (i + 1) ≤ maxLen * j := Nat.mul_le_mul_left maxLen hij
    rw [Nat.mul_succ] at hmul
    rw [List.getElem_range', List.getElem_range']
    omega
  exact (List.pairwise_map.mp haddrs).imp Or.inl

end

/-- **The slots are inside the block** exactly while the size is a `uint32_t`. -/
theorem wellPlaced_iff (withCantian : Bool) (fields : List Field) (partNum : Nat)
    (myMalloc : Nat → Option Nat) (s : StrStats)
    (h : allocStrMysqlMem (cboStringMaxLen withCantian) fields myMalloc partNum = some s) :
    s.WellPlaced (cboStringMaxLen withCantian) fields partNum ↔
      partNum * s.numStrCols * (statsHistgramMaxSize + 2) * cboStringMaxLen withCantian <
        2 ^ 32 := by
  obtain ⟨hnum, hsize, hlaid⟩ := allocStrMysqlMem_spec h
  have hblockEnd : s.blockEnd =
    s.block + strStatsNeeded (cboStringMaxLen withCantian) fields partNum := hlaid.blockEnd
  rw [hnum]
  constructor
  · intro hplaced
    have hend := hplaced.handedOut
    rw [hblockEnd, hsize] at hend
    have hfixed : strStatsNeeded (cboStringMaxLen withCantian) fields partNum % 2 ^ 32 =
      strStatsNeeded (cboStringMaxLen withCantian) fields partNum := Nat.add_left_cancel hend
    have hlt := Nat.mod_lt (strStatsNeeded (cboStringMaxLen withCantian) fields partNum)
      (Nat.two_pow_pos 32)
    rw [hfixed] at hlt
    exact hlt
  · intro hfits
    have hexact : s.strStatsMemSize = strStatsNeeded (cboStringMaxLen withCantian) fields partNum :=
      hsize.trans (Nat.mod_eq_of_lt hfits)
    exact {
      handedOut := by rw [hexact, hblockEnd]
      inside := fun slot hslot => hexact ▸ hlaid.inside hslot
      disjoint := hlaid.disjoint
      once := hlaid.place ▸ nodup_strPlaces fields partNum
      complete := fun part column target => by
        rw [hlaid.place, mem_strPlaces, mem_strColumns, mem_strTargets] }

/-- A VARCHAR column of 20 bytes. -/
def varcharField : Field := statsField (.varchar 20)

/-- One VARCHAR column on two partitions takes 512 slots of 64 bytes. -/
theorem wellPlaced_iff_two : ∃ s, allocStrMysqlMem 64 [varcharField] some 2 = some s ∧
    s.WellPlaced 64 [varcharField] 2 :=
  ⟨_, rfl, (wellPlaced_iff true [varcharField] 2 some _ rfl).mpr (by decide)⟩

/-- 32 VARCHAR columns on 8192 partitions need 2^32 bytes, and none are asked for. -/
theorem not_wellPlaced : ∃ s,
    allocStrMysqlMem 64 (List.replicate 32 varcharField) some partCursorNum = some s ∧
      s.strStatsMemSize = 0 ∧
      ¬s.WellPlaced 64 (List.replicate 32 varcharField) partCursorNum := by
  obtain ⟨s, hs⟩ : ∃ s,
      allocStrMysqlMem 64 (List.replicate 32 varcharField) some partCursorNum = some s := ⟨_, rfl⟩
  obtain ⟨-, hsize, hlaid⟩ := allocStrMysqlMem_spec hs
  have hneeded : strStatsNeeded 64 (List.replicate 32 varcharField) partCursorNum = 2 ^ 32 := by
    decide
  have hblockEnd : s.blockEnd = s.block + 2 ^ 32 := hneeded ▸ hlaid.blockEnd
  have hzero : s.strStatsMemSize = 0 := by rw [hsize, hneeded, Nat.mod_self]
  refine ⟨s, hs, hzero, fun hplaced => ?_⟩
  have hend := hplaced.handedOut
  omega

end CantianConnector.Cbo
