import Mathlib.Algebra.Group.Nat.Defs
import Mathlib.Algebra.Ring.Int.Defs
import Mathlib.Data.List.Basic

/-!
# Which ALTER TABLE is done in place

`ha_ctc::check_if_supported_inplace_alter` answers if an ALTER TABLE can be done without a copy of
the table. The engine cannot fill a column that is NOT NULL and has no constant default. The
function looks for such a column among the last entries of the create list: it computes how many of
them are new from the field counts, the drop list and `index_drop_count`. An index that is rebuilt
is counted and stands in no drop list, so that the window becomes too short (`inplaceRight_iff`).
-/

namespace CantianConnector.Ddl

/-! ## The operations of a statement -/

/-- `Alter_inplace_info::HA_ALTER_FLAGS`, as far as the function names them. -/
inductive AlterFlag where
  | alterColumnDefault | alterColumnColumnFormat | alterColumnStorageType | alterRename
  | changeIndexOption | addCheckConstraint | dropCheckConstraint | suspendCheckConstraint
  | alterColumnVisibility
  | addIndex | addUniqueIndex | addSpatialIndex | dropForeignKey | addForeignKey | dropIndex
  | dropUniqueIndex | renameIndex | alterColumnName | alterIndexComment | alterColumnIndexLength
  | addPkIndex | dropPkIndex | changeCreateOption | alterColumnNullable | alterColumnNotNullable
  | alterStoredColumnOrder | dropStoredColumn | addStoredBaseColumn | recreateTable
  | dropVirtualColumn | alterVirtualColumnOrder
  | addPartition | coalescePartition | reorganizePartition
  | alterStoredColumnType | alterColumnEqualPackLength | addStoredGeneratedColumn
  | other
deriving DecidableEq, Repr

open AlterFlag

/-- `CTC_INPLACE_IGNORE`. -/
def ctcInplaceIgnore : List AlterFlag :=
  [alterColumnDefault, alterColumnColumnFormat, alterColumnStorageType, alterRename,
    changeIndexOption, addCheckConstraint, dropCheckConstraint, suspendCheckConstraint,
    alterColumnVisibility]

/-- `CTC_ALTER_NOREBUILD`. -/
def ctcAlterNorebuild : List AlterFlag :=
  [addIndex, addUniqueIndex, addSpatialIndex, dropForeignKey, addForeignKey, dropIndex,
    dropUniqueIndex, renameIndex, alterColumnName, alterIndexComment, alterColumnIndexLength]

/-- `CTC_ALTER_REBUILD`. -/
def ctcAlterRebuild : List AlterFlag :=
  [addPkIndex, dropPkIndex, changeCreateOption, alterColumnNullable, alterColumnNotNullable,
    alterStoredColumnOrder, dropStoredColumn, addStoredBaseColumn, recreateTable]

/-- `CTC_ALTER_COL_ORDER`; `DROP_COLUMN` is the flag of a stored or of a virtual column. -/
def ctcAlterColOrder : List AlterFlag :=
  [dropStoredColumn, dropVirtualColumn, alterVirtualColumnOrder, alterStoredColumnOrder]

/-- `PARTITION_OPERATIONS`. -/
def partitionOperations : List AlterFlag := [addPartition, coalescePartition]

/-- `COLUMN_TYPE_OPERATIONS`. -/
def columnTypeOperations : List AlterFlag := [alterStoredColumnType, alterColumnEqualPackLength]

/-- `flags & set`. -/
def meets (flags set : List AlterFlag) : Bool := flags.any fun flag => set.contains flag

/-- A `Create_field`: a column of the new table. It is added if no column of the old table becomes
it. -/
structure CreateField where
  added : Bool
  isNullable : Bool
  constantDefault : Option String
deriving DecidableEq, Repr

/-- A row that stands in the table can be given a value of the column. -/
def CreateField.Fillable (field : CreateField) : Prop :=
  field.isNullable = true ∨ field.constantDefault.isSome = true

instance (field : CreateField) : Decidable field.Fillable :=
  inferInstanceAs (Decidable (_ ∨ _))

/-- The condition on which the function gives up. -/
theorem CreateField.unfillable_iff (field : CreateField) :
    (!field.isNullable && !field.constantDefault.isSome) = true ↔ ¬field.Fillable := by
  unfold CreateField.Fillable
  simp

/-- `Alter_drop::drop_type`. -/
inductive AlterDrop where
  | key | column | foreignKey | checkConstraint
deriving DecidableEq, Repr

inductive PartType where
  | range | hash | list
deriving DecidableEq, Repr

/-- An ALTER TABLE, with what the function reads of its session, its two tables and its
`Alter_inplace_info`. -/
structure AlterTable where
  engineDdlPassthru : Bool
  strictMode : Bool
  errorIfNotEmpty : Bool
  handlerFlags : List AlterFlag
  oldDb : String
  newDb : String
  createList : List CreateField
  dropList : List AlterDrop
  /-- The indexes that are dropped or rebuilt. -/
  indexDropCount : Nat
  partType : Option PartType
  /-- The server's limit of the columns of a table. -/
  createList_le : createList.length ≤ 4096

/-- `table->s->fields`: the columns that stay and those that are dropped. -/
def AlterTable.oldTableFields (a : AlterTable) : Nat :=
  a.createList.countP (fun field => !field.added) + a.dropList.count .column

/-- `altered_table->s->fields`. -/
def AlterTable.newTableFields (a : AlterTable) : Nat := a.createList.length

/-! ## The function -/

/-- The two messages that the function takes from the server. -/
inductive ErReason where
  | columnType | notNull
deriving DecidableEq, Repr

inductive InplaceResult where
  | notSupported (unsupportedReason : String)
  | exclusiveLock
deriving DecidableEq, Repr

/-- What ends the loop over the added columns. -/
inductive LoopEnd where
  | finished
  | assertFailed
  | unfillable
deriving DecidableEq, Repr

/-- `uint32_t`. -/
def uint32 (n : Int) : Int := n % 2 ^ 32

/-- `add_column_size`, as the `int` that the loop starts with. -/
def addColumnSize (a : AlterTable) : Int :=
  let oldTableFields := uint32 a.oldTableFields
  let newTableFields := uint32 a.newTableFields
  let dropListSize := uint32 a.dropList.length
  let indexDropCount := uint32 a.indexDropCount
  (uint32 (newTableFields - oldTableFields + (dropListSize - indexDropCount))).bmod (2 ^ 32)

/-- The loop, from its counter on. -/
def addColumnLoop (ndebug : Bool) (createList : List CreateField) : Nat → LoopEnd
  | 0 => .finished
  | i + 1 =>
    let createListSize := uint32 createList.length
    let addColumnIdx := (uint32 (createListSize - (i + 1 : Nat))).bmod (2 ^ 32)
    if addColumnIdx < 0 then
      if ndebug then .finished else .assertFailed
    else
      match createList[addColumnIdx.toNat]? with
      | none => .assertFailed
      | some field =>
        if !field.isNullable && !field.constantDefault.isSome then .unfillable
        else addColumnLoop ndebug createList i

/-- The checks behind the one of the added columns. -/
def checkPartition (a : AlterTable) : InplaceResult :=
  if meets a.handlerFlags [reorganizePartition] then .notSupported "Reorganize Partition"
  else if meets a.handlerFlags partitionOperations && a.partType = some .hash then
    .notSupported "INPLACE is not supported for this operation."
  else .exclusiveLock

/-- The check of the added columns, and those behind it; `none` if the assertion fails. -/
def checkAddColumn (ndebug : Bool) (a : AlterTable) : Option InplaceResult :=
  if meets a.handlerFlags [addStoredBaseColumn] then
    match addColumnLoop ndebug a.createList (addColumnSize a).toNat with
    | .unfillable => some (.notSupported "Field is not NULL and not having default value")
    | .assertFailed => none
    | .finished => some (checkPartition a)
  else some (checkPartition a)

/-- `check_if_supported_inplace_alter`: the answer and `m_error_if_not_empty`, or `none` if an
assertion fails. -/
def checkIfSupportedInplaceAlter (myGetErrMsg : ErReason → String) (ndebug : Bool)
    (a : AlterTable) (mErrorIfNotEmpty : Bool) : Option (InplaceResult × Bool) :=
  if a.engineDdlPassthru then some (.exclusiveLock, mErrorIfNotEmpty)
  else
    let mErrorIfNotEmpty := a.errorIfNotEmpty
    let supported := ctcInplaceIgnore ++ ctcAlterNorebuild ++ ctcAlterRebuild
    if a.handlerFlags.any (fun flag => !supported.contains flag) &&
        meets a.handlerFlags columnTypeOperations then
      some (.notSupported (myGetErrMsg .columnType), mErrorIfNotEmpty)
    else if meets a.handlerFlags [alterColumnNotNullable] && !a.strictMode then
      some (.notSupported (myGetErrMsg .notNull), mErrorIfNotEmpty)
    else if meets a.handlerFlags [addStoredGeneratedColumn] then
      some (.notSupported "Cannot add stored generated column", mErrorIfNotEmpty)
    else if meets a.handlerFlags ctcAlterColOrder then
      some (.notSupported "Altering column order or drop column", mErrorIfNotEmpty)
    else if meets a.handlerFlags [alterRename] && a.newDb ≠ a.oldDb then
      some (.notSupported "Table is renamed cross database", mErrorIfNotEmpty)
    else (checkAddColumn ndebug a).map fun result => (result, mErrorIfNotEmpty)

/-! ## What the function looks at -/

/-- The number of columns that the statement adds. -/
def AlterTable.addedFields (a : AlterTable) : Nat := a.createList.countP fun field => field.added

/-- The entries of the drop list that are no columns: indexes, foreign keys and check
constraints. -/
def AlterTable.otherDrops (a : AlterTable) : Nat := a.dropList.countP fun drop => drop ≠ .column

/-- The length of the window: the added columns, and the other drops less the indexes that are
dropped or rebuilt. -/
def AlterTable.window (a : AlterTable) : Int :=
  ((a.addedFields : Int) + a.otherDrops - a.indexDropCount).bmod (2 ^ 32)

/-- The columns that the function inspects: the last ones, and none if the window is longer than
the list. -/
def AlterTable.inspected (a : AlterTable) : List CreateField :=
  if a.window ≤ a.createList.length then
    a.createList.drop (a.createList.length - a.window.toNat)
  else []

theorem bmod_eq_of_emod_eq {x y : Int} {n : Nat} (h : x % n = y % n) : x.bmod n = y.bmod n := by
  rw [← Int.emod_bmod x n, h, Int.emod_bmod]

theorem addColumnSize_eq (a : AlterTable) : addColumnSize a = a.window := by
  have hnew : a.newTableFields =
      a.addedFields + a.createList.countP fun field => !field.added := by
    have h := List.length_eq_countP_add_countP (fun field : CreateField => field.added)
      (l := a.createList)
    simpa [AlterTable.newTableFields, AlterTable.addedFields] using h
  have hold : a.oldTableFields =
      (a.createList.countP fun field => !field.added) + a.dropList.count .column := rfl
  have hdrop : a.dropList.length = a.dropList.count .column + a.otherDrops := by
    have h := List.length_eq_countP_add_countP (fun drop : AlterDrop => drop == .column)
      (l := a.dropList)
    simpa [AlterTable.otherDrops, List.count] using h
  apply bmod_eq_of_emod_eq
  unfold uint32
  omega

/-- In the loop the index of an entry is the one counted from the end, below 0 if there is none. -/
theorem addColumnIdx_eq {size i : Nat} (hsize : size ≤ 4096) (hi : i < 2 ^ 31) :
    (uint32 (uint32 size - i)).bmod (2 ^ 32) = size - i := by
  unfold uint32
  have hemod : ((size : Int) % 2 ^ 32 - i) % 2 ^ 32 % (2 ^ 32 : Nat) =
      ((size : Int) - i) % (2 ^ 32 : Nat) := by
    omega
  rw [bmod_eq_of_emod_eq hemod]
  exact Int.bmod_eq_of_le (by omega) (by omega)

/-- Counted down from a length within the list, the loop looks at the entries from there on. -/
theorem addColumnLoop_of_le (ndebug : Bool) {createList : List CreateField}
    (hsize : createList.length ≤ 4096) :
    ∀ {i : Nat}, i ≤ createList.length →
      addColumnLoop ndebug createList i =
        if ∀ field ∈ createList.drop (createList.length - i), field.Fillable then .finished
        else .unfillable
  | 0, _ => by simp [addColumnLoop]
  | i + 1, hi => by
    have hlt : createList.length - (i + 1) < createList.length := by omega
    have hidx := addColumnIdx_eq hsize (i := i + 1) (by omega)
    have hnat : ((createList.length : Int) - (i + 1 : Nat)).toNat =
        createList.length - (i + 1) := by
      omega
    have hdrop := List.drop_eq_getElem_cons hlt
    have hnext : createList.length - (i + 1) + 1 = createList.length - i := by omega
    rw [hnext] at hdrop
    unfold addColumnLoop
    dsimp only
    rw [hidx, if_neg (by omega), hnat, List.getElem?_eq_getElem hlt, hdrop,
      addColumnLoop_of_le ndebug hsize (by omega)]
    simp only [CreateField.unfillable_iff, List.forall_mem_cons]
    by_cases hfill : createList[createList.length - (i + 1)].Fillable
    · rw [if_neg (not_not_intro hfill)]
      simp only [hfill, true_and]
    · rw [if_pos hfill, if_neg fun h => hfill h.1]

/-- Counted down from a greater length, it ends at once. -/
theorem addColumnLoop_of_lt (ndebug : Bool) {createList : List CreateField}
    (hsize : createList.length ≤ 4096) {i : Nat} (hlt : createList.length < i) (hi : i < 2 ^ 31) :
    addColumnLoop ndebug createList i = if ndebug then .finished else .assertFailed := by
  obtain _ | i := i
  · omega
  unfold addColumnLoop
  dsimp only
  rw [addColumnIdx_eq hsize (by omega), if_pos (by omega)]

theorem AlterTable.addColumnLoop_eq (ndebug : Bool) (a : AlterTable) :
    addColumnLoop ndebug a.createList (addColumnSize a).toNat =
      if ndebug = false ∧ a.createList.length < a.window then .assertFailed
      else if ∀ field ∈ a.inspected, field.Fillable then .finished
      else .unfillable := by
  have hwindow : a.window < 2 ^ 31 := by
    have h := Int.bmod_lt (x := (a.addedFields : Int) + a.otherDrops - a.indexDropCount)
      (m := 2 ^ 32) (by decide)
    simpa [AlterTable.window] using h
  rw [addColumnSize_eq]
  unfold AlterTable.inspected
  by_cases hle : a.window ≤ a.createList.length
  · have hno : ¬(ndebug = false ∧ a.createList.length < a.window) := fun h => by omega
    rw [addColumnLoop_of_le ndebug a.createList_le (by omega), if_pos hle, if_neg hno]
  · rw [addColumnLoop_of_lt ndebug a.createList_le (by omega) (by omega), if_neg hle]
    cases ndebug
    · rw [if_neg Bool.false_ne_true, if_pos ⟨rfl, by omega⟩]
    · simp

/-! ## What is accepted -/

/-- One of the other checks of the function refuses the statement. -/
def AlterTable.Refused (a : AlterTable) : Prop :=
  meets a.handlerFlags columnTypeOperations = true ∨
    (meets a.handlerFlags [alterColumnNotNullable] = true ∧ a.strictMode = false) ∨
    meets a.handlerFlags [addStoredGeneratedColumn] = true ∨
    meets a.handlerFlags ctcAlterColOrder = true ∨
    (meets a.handlerFlags [alterRename] = true ∧ a.newDb ≠ a.oldDb) ∨
    meets a.handlerFlags [reorganizePartition] = true ∨
    (meets a.handlerFlags partitionOperations = true ∧ a.partType = some .hash)

instance (a : AlterTable) : Decidable a.Refused := inferInstanceAs (Decidable (_ ∨ _))

/-- No operation on the type of a column is supported. -/
theorem any_unsupported {flags : List AlterFlag}
    (h : meets flags columnTypeOperations = true) :
    (flags.any fun flag =>
      !(ctcInplaceIgnore ++ ctcAlterNorebuild ++ ctcAlterRebuild).contains flag) = true := by
  obtain ⟨flag, hflag, hmem⟩ := List.any_eq_true.mp h
  refine List.any_eq_true.mpr ⟨flag, hflag, ?_⟩
  revert hmem
  cases flag <;> decide

theorem checkPartition_eq_exclusiveLock_iff (a : AlterTable) :
    checkPartition a = .exclusiveLock ↔
      ¬(meets a.handlerFlags [reorganizePartition] = true ∨
        (meets a.handlerFlags partitionOperations = true ∧ a.partType = some .hash)) := by
  unfold checkPartition
  split
  · simp_all
  · split
    · simp_all
    · simp_all

theorem checkAddColumn_eq_exclusiveLock_iff (ndebug : Bool) {a : AlterTable}
    (hadd : meets a.handlerFlags [addStoredBaseColumn] = true) :
    checkAddColumn ndebug a = some .exclusiveLock ↔
      checkPartition a = .exclusiveLock ∧ (∀ field ∈ a.inspected, field.Fillable) ∧
        ¬(ndebug = false ∧ a.createList.length < a.window) := by
  unfold checkAddColumn
  rw [if_pos hadd, a.addColumnLoop_eq ndebug]
  by_cases hlong : ndebug = false ∧ a.createList.length < a.window
  · simp [hlong]
  rw [if_neg hlong]
  by_cases hfill : ∀ field ∈ a.inspected, field.Fillable
  · rw [if_pos hfill]
    exact ⟨fun h => ⟨Option.some.inj h, hfill, hlong⟩, fun h => congrArg some h.1⟩
  · rw [if_neg hfill]
    exact ⟨fun h => InplaceResult.noConfusion (Option.some.inj h), fun h => absurd h.2.1 hfill⟩

/-- **What is accepted outside passthrough mode** of the statements that add a stored base column.
The columns that are not inspected play no part in it. -/
theorem inplaceAccepted_iff (myGetErrMsg : ErReason → String) (ndebug mErrorIfNotEmpty : Bool)
    {a : AlterTable} (hpassthru : a.engineDdlPassthru = false)
    (hadd : meets a.handlerFlags [addStoredBaseColumn] = true) :
    (checkIfSupportedInplaceAlter myGetErrMsg ndebug a mErrorIfNotEmpty).map Prod.fst =
        some .exclusiveLock ↔
      ¬a.Refused ∧ (∀ field ∈ a.inspected, field.Fillable) ∧
        ¬(ndebug = false ∧ a.createList.length < a.window) := by
  have hlast := checkAddColumn_eq_exclusiveLock_iff ndebug hadd
  rw [checkPartition_eq_exclusiveLock_iff] at hlast
  unfold checkIfSupportedInplaceAlter AlterTable.Refused
  dsimp only
  rw [if_neg (by rw [hpassthru]; exact Bool.false_ne_true)]
  by_cases htype : meets a.handlerFlags columnTypeOperations = true
  · rw [any_unsupported htype, htype]
    simp
  rw [if_neg (by simp [htype])]
  split
  · simp_all
  split
  · simp_all
  split
  · simp_all
  split
  · simp_all
  rw [Option.map_map]
  simp_all

section

variable (myGetErrMsg : ErReason → String) (ndebug mErrorIfNotEmpty : Bool)

/-- A statement that is accepted adds no column that the engine cannot fill. -/
def InplaceRight (a : AlterTable) : Prop :=
  (checkIfSupportedInplaceAlter myGetErrMsg ndebug a mErrorIfNotEmpty).map Prod.fst =
      some .exclusiveLock →
    ∀ field ∈ a.createList, field.added = true → field.Fillable

/-- Every added column can be filled, or one that is inspected cannot, or another check refuses the
statement, or the window is longer than the list and the assertion is compiled in. -/
def InplaceMeets (a : AlterTable) : Prop :=
  (∀ field ∈ a.createList, field.added = true → field.Fillable) ∨
    (∃ field ∈ a.inspected, ¬field.Fillable) ∨ a.Refused ∨
    (ndebug = false ∧ a.createList.length < a.window)

instance (a : AlterTable) : Decidable (InplaceMeets ndebug a) :=
  inferInstanceAs (Decidable (_ ∨ _))

/-- Of the statements that add a stored base column, those are answered right that meet the
condition. -/
theorem inplaceRight_iff {a : AlterTable} (hpassthru : a.engineDdlPassthru = false)
    (hadd : meets a.handlerFlags [addStoredBaseColumn] = true) :
    InplaceRight myGetErrMsg ndebug mErrorIfNotEmpty a ↔ InplaceMeets ndebug a := by
  unfold InplaceRight InplaceMeets
  rw [inplaceAccepted_iff myGetErrMsg ndebug mErrorIfNotEmpty hpassthru hadd]
  constructor
  · intro hright
    by_contra hnone
    push Not at hnone
    obtain ⟨⟨field, hfield, hadded, hunfill⟩, hinspected, hrefused, hlong⟩ := hnone
    exact hunfill (hright ⟨hrefused, hinspected, fun h => absurd h.2 (by have := hlong h.1; omega)⟩
      field hfield hadded)
  · rintro (hfill | ⟨field, hfield, hunfill⟩ | hrefused | hlong) ⟨hnot, hinspected, hshort⟩
    · exact hfill
    · exact absurd (hinspected field hfield) hunfill
    · exact absurd hrefused hnot
    · exact absurd hlong hshort

end

/-- If the added columns stand last and the drop list accounts for every index that is dropped or
rebuilt, the window covers the added columns. -/
theorem AlterTable.inspected_eq_added {a : AlterTable} {kept added : List CreateField}
    (hlist : a.createList = kept ++ added) (hkept : ∀ field ∈ kept, field.added = false)
    (hadded : ∀ field ∈ added, field.added = true) (hdrops : a.otherDrops = a.indexDropCount) :
    a.inspected = added := by
  have hle := a.createList_le
  have hlength : a.createList.length = kept.length + added.length := by
    rw [hlist, List.length_append]
  have hcount : a.addedFields = added.length := by
    unfold AlterTable.addedFields
    rw [hlist, List.countP_append, List.countP_eq_length.mpr hadded,
      List.countP_eq_zero.mpr fun field hfield => by simp [hkept field hfield], Nat.zero_add]
  have hwindow : a.window = added.length := by
    unfold AlterTable.window
    rw [hcount, hdrops, Int.add_sub_cancel]
    exact Int.bmod_eq_of_le (by omega) (by omega)
  unfold AlterTable.inspected
  rw [hwindow, if_pos (by omega), Int.toNat_natCast, hlength, Nat.add_sub_cancel, hlist,
    List.drop_left]

/-- Such a statement meets the condition. -/
theorem inplaceMeets_of_last (ndebug : Bool) {a : AlterTable} {kept added : List CreateField}
    (hlist : a.createList = kept ++ added) (hkept : ∀ field ∈ kept, field.added = false)
    (hadded : ∀ field ∈ added, field.added = true) (hdrops : a.otherDrops = a.indexDropCount) :
    InplaceMeets ndebug a := by
  have hinspected := AlterTable.inspected_eq_added hlist hkept hadded hdrops
  by_cases hfill : ∀ field ∈ added, field.Fillable
  · refine Or.inl fun field hfield hnew => ?_
    rw [hlist, List.mem_append] at hfield
    rcases hfield with hfield | hfield
    · exact absurd ((hkept field hfield).symm.trans hnew) Bool.false_ne_true
    · exact hfill field hfield
  · push Not at hfill
    rw [← hinspected] at hfill
    exact Or.inr (Or.inl hfill)

/-- Two columns of a table, and a third one, NOT NULL and without a default, that is added while
an index is rebuilt. -/
def alterWithRebuild : AlterTable where
  engineDdlPassthru := false
  strictMode := true
  errorIfNotEmpty := true
  handlerFlags := [addStoredBaseColumn, addIndex, dropIndex]
  oldDb := "db"
  newDb := "db"
  createList := [⟨false, true, none⟩, ⟨false, true, none⟩, ⟨true, false, none⟩]
  dropList := []
  indexDropCount := 1
  partType := none
  createList_le := by decide

/-- The same statement without the index. -/
def alterWithoutRebuild : AlterTable :=
  { alterWithRebuild with
    handlerFlags := [addStoredBaseColumn]
    indexDropCount := 0 }

theorem inplaceRight_iff_withoutRebuild :
    InplaceRight (fun _ => "") false false alterWithoutRebuild :=
  (inplaceRight_iff _ _ _ rfl (by decide)).mpr (by decide)

/-- The window is empty, and the statement is accepted. -/
theorem not_inplaceRight :
    alterWithRebuild.window = 0 ∧ ¬InplaceRight (fun _ => "") false false alterWithRebuild := by
  refine ⟨by decide, fun hright => ?_⟩
  have hfill := hright (by decide) ⟨true, false, none⟩ (by decide) rfl
  revert hfill
  decide

end CantianConnector.Ddl
