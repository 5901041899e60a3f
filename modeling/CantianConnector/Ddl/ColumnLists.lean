import CantianConnector.Ddl.AlterRequest

/-!
# The drop list and the columns of a request

`fill_ctc_alter_drop_list`, `fill_ctc_alter_create_list` and `fill_create_table_req_columns_info` fill
lists that have as many entries as the statement has. An entry that the engine does not get makes the
list shorter by one, and its slot is used again. Each list holds every other entry once, in order
(`fillCtcAlterDropList_eq`, `fillCtcAlterCreateList_eq`, `fillCreateTableReqColumnsInfo_eq`).
-/

namespace CantianConnector.Ddl.RequestLists

open CantianConnector.Convert Compaction

/-! ## The drop list -/

/-- `Alter_drop::drop_type`. -/
inductive DropType where
  | key
  | column
  | foreignKey
  | checkConstraint
  | anyConstraint
deriving DecidableEq, Repr

/-- `Alter_drop`. -/
structure AlterDrop where
  name : SqlText
  type : DropType
deriving DecidableEq, Repr

/-- `ctc_alter_table_drop_type`. -/
inductive CtcDropType where
  | dropKey
  | dropColumn
  | dropForeignKey
  | dropCheckConstraint
  | dropAnyConstraint
deriving DecidableEq, Repr

/-- `ctc_ddl_get_drop_type_from_mysql_type`. -/
def ctcDdlGetDropTypeFromMysqlType : DropType → CtcDropType
  | .key => .dropKey
  | .column => .dropColumn
  | .foreignKey => .dropForeignKey
  | .checkConstraint => .dropCheckConstraint
  | .anyConstraint => .dropAnyConstraint

/-- `TcDb__CtcDDLAlterTableDrop`. -/
structure ReqDrop where
  name : SqlText
  dropType : CtcDropType
  keyType : CtcKeyType
deriving DecidableEq, Repr

/-- `tc_db__ctc_ddlalter_table_drop__init`: zero is `CTC_ALTER_TABLE_DROP_KEY` and
`CTC_KEYTYPE_PRIMARY`. -/
def ReqDrop.init : ReqDrop := ⟨[], .dropKey, .primary⟩

section

-- `sameName` is `my_strcasecmp` over the system's character set; true if the names are the same
variable (sameName : SqlText → SqlText → Bool) (build : Build) (oldTableDef : List DdColumn)

/-- `ctc_ddl_get_column_by_name`. -/
def ctcDdlGetColumnByName (colName : SqlText) : Option DdColumn :=
  oldTableDef.find? fun col => sameName col.name colName

/-- One round of the loop of `fill_ctc_alter_drop_list`. -/
def fillDrop (_ : Unit) (reqDrop : ReqDrop) (drop : AlterDrop) : Result (Filled Unit ReqDrop) :=
  let reqDrop := { reqDrop with
    name := drop.name
    dropType := ctcDdlGetDropTypeFromMysqlType drop.type }
  match reqDrop.dropType with
  | .dropColumn =>
    match ctcDdlGetColumnByName sameName oldTableDef drop.name with
    | none => do
      cAssert build false
      .error .undefined
    | some col => .ok ⟨(), reqDrop, !col.isVirtual⟩
  | .dropForeignKey => .ok ⟨(), { reqDrop with keyType := .foreign }, true⟩
  | .dropKey => .ok ⟨(), reqDrop, false⟩
  | _ => .ok ⟨(), reqDrop, true⟩

/-- `fill_ctc_alter_drop_list`, over the list that `init_drop_list_4alter_table` has made. -/
def fillCtcAlterDropList (dropList : List AlterDrop) : Result (List ReqDrop) := do
  let done ← compact (fillDrop sameName build oldTableDef) .undefined .init () dropList
  return done.2

/-- What is sent of a drop: nothing of a virtual column, and nothing of an index, which the list of
dropped keys has. -/
def sentDrop (drop : AlterDrop) : Option ReqDrop :=
  match drop.type with
  | .key => none
  | .column =>
    if (ctcDdlGetColumnByName sameName oldTableDef drop.name).any (·.isVirtual) then none
    else some ⟨drop.name, .dropColumn, .primary⟩
  | .foreignKey => some ⟨drop.name, .dropForeignKey, .foreign⟩
  | .checkConstraint => some ⟨drop.name, .dropCheckConstraint, .primary⟩
  | .anyConstraint => some ⟨drop.name, .dropAnyConstraint, .primary⟩

end

section

variable {sameName : SqlText → SqlText → Bool} {build : Build} {oldTableDef : List DdColumn}

/-- What a skipped entry leaves in its slot has the key type of a blank one. -/
theorem fillDrop_overwrites :
    Overwrites (fillDrop sameName build oldTableDef) .init fun slot => slot.keyType = .primary where
  stale := rfl
  same := by
    intro acc slot drop hstale
    obtain ⟨name, dropType, keyType⟩ := slot
    cases hstale
    rfl
  skipped := by
    intro acc drop done hfill hkept
    obtain ⟨name, type⟩ := drop
    cases type with
    | column =>
      simp only [fillDrop, ctcDdlGetDropTypeFromMysqlType] at hfill
      split at hfill
      · cases build <;> cases hfill
      · cases hfill
        rfl
    | _ =>
      cases hfill
      first
        | rfl
        | cases hkept

theorem fillDrop_ok {drop : AlterDrop}
    (hfound : drop.type = .column →
      ∃ col, ctcDdlGetColumnByName sameName oldTableDef drop.name = some col) :
    ∃ done, fillDrop sameName build oldTableDef () .init drop = .ok done ∧ done.acc = () ∧
      sentDrop sameName oldTableDef drop = if done.kept then some done.slot else none := by
  obtain ⟨name, type⟩ := drop
  cases type with
  | column =>
    obtain ⟨col, hcol⟩ := hfound rfl
    refine ⟨⟨(), ⟨name, .dropColumn, .primary⟩, !col.isVirtual⟩, ?_, rfl, ?_⟩
    · simp only [fillDrop, ctcDdlGetDropTypeFromMysqlType, hcol, ReqDrop.init]
    · simp only [sentDrop, hcol, Option.any_some]
      cases col.isVirtual <;> rfl
  | _ => exact ⟨_, rfl, rfl, rfl⟩

/-- **The drop list.** It holds the drops that the engine gets, each once, in the order of the
statement, also where some of them are skipped in between. -/
theorem fillCtcAlterDropList_eq {dropList : List AlterDrop}
    (hfound : ∀ drop ∈ dropList, drop.type = .column →
      ∃ col, ctcDdlGetColumnByName sameName oldTableDef drop.name = some col) :
    fillCtcAlterDropList sameName build oldTableDef dropList =
      .ok (dropList.filterMap (sentDrop sameName oldTableDef)) := by
  have hgather : gather (fillDrop sameName build oldTableDef) .init () dropList = _ :=
    gather_ok fun drop hmem _ => fillDrop_ok (hfound drop hmem)
  rw [fillCtcAlterDropList, compact_eq fillDrop_overwrites, hgather]
  rfl

/-- A virtual column and an index are skipped between a foreign key and a stored column. -/
theorem fillCtcAlterDropList_skips :
    fillCtcAlterDropList (fun a b => a == b) .debug
        [⟨['v'], false, false, true⟩, ⟨['c'], false, false, false⟩]
        [⟨['f'], .foreignKey⟩, ⟨['v'], .column⟩, ⟨['k'], .key⟩, ⟨['c'], .column⟩] =
      .ok [⟨['f'], .dropForeignKey, .foreign⟩, ⟨['c'], .dropColumn, .primary⟩] := by
  apply fillCtcAlterDropList_eq
  intro drop hmem hcolumn
  simp only [List.mem_cons, List.not_mem_nil, or_false] at hmem
  rcases hmem with rfl | rfl | rfl | rfl
  · cases hcolumn
  · exact ⟨_, rfl⟩
  · cases hcolumn
  · exact ⟨_, rfl⟩

end

/-! ## The columns -/

/-- `ctc_alter_column_alter_mode`. -/
inductive AlterMode where
  | none
  | addColumn
  | modifyColumn
deriving DecidableEq, Repr

/-- A column of a request: what is known of it beside its names is `rest`. -/
structure ReqColumn (δ : Type) where
  name : SqlText
  newName : SqlText
  alterMode : AlterMode
  rest : Option δ
deriving DecidableEq, Repr

/-- `tc_db__ctc_ddlcolumn_def__init`. -/
def ReqColumn.init (δ : Type) : ReqColumn δ := ⟨[], [], .none, none⟩

/-- A `Field` of the new table and, in ALTER TABLE, its `Create_field`. -/
structure NewField where
  fieldName : SqlText
  isFieldForFunctionalIndex : Bool
  isVirtualGcol : Bool
  /-- `fld->field` is not null: the column has been there before. -/
  isOld : Bool
  /-- `fld->change`. -/
  change : Option SqlText
deriving DecidableEq, Repr

/-- The columns of a request, and whether `CTC_FLAG_TABLE_CONTAINS_VIRCOL` is set. -/
structure ReqColumns (δ : Type) where
  columns : List (ReqColumn δ)
  containsVircol : Bool
deriving DecidableEq, Repr

/-- What a loop over the columns counts. -/
structure VirtualCols where
  containsVircol : Bool
  virtualCols : Nat

section

variable {δ : Type}

-- `rest` is what else is filled in of a column, its type, its options and its default value; `none`
-- says that the engine does not have them
variable (rest : NewField → Option δ)

/-- `ctc_ddl_fill_column_by_field`. -/
def ctcDdlFillColumnByField (column : ReqColumn δ) (field : NewField) (change : Option SqlText)
    (alterMode : AlterMode) : Option (ReqColumn δ) :=
  let column := match change with
    | some change =>
      let column := { column with name := change }
      if change ≠ field.fieldName then { column with newName := field.fieldName } else column
    | none => { column with name := field.fieldName }
  (rest field).map fun rest => { column with rest := some rest, alterMode := alterMode }

/-- One round of a loop over the columns; `fill` fills one in, or fails with `code`. -/
def fillColumn (fill : ReqColumn δ → NewField → Option (ReqColumn δ)) (code : Int)
    (count : VirtualCols) (column : ReqColumn δ) (field : NewField) :
    Result (Filled VirtualCols (ReqColumn δ)) :=
  if field.isFieldForFunctionalIndex then .ok ⟨count, column, false⟩
  else
    let count := if field.isVirtualGcol then ⟨true, count.virtualCols + 1⟩ else count
    match fill column field with
    | none => .error (.code code)
    | some column => .ok ⟨count, column, true⟩

/-- A loop over the columns, and the check behind it. -/
def fillColumns (fill : ReqColumn δ → NewField → Option (ReqColumn δ)) (code : Int)
    (fields : List NewField) : Result (ReqColumns δ) := do
  let done ← compact (fillColumn fill code) .undefined (.init δ) ⟨false, 0⟩ fields
  if done.2.length = done.1.virtualCols then .error (.code haErrWrongCommand)
  else return ⟨done.2, done.1.containsVircol⟩

/-- `alter_mode` of `fill_ctc_alter_create_list`. -/
def alterMode (fld : NewField) : AlterMode :=
  let mode := if fld.isOld then AlterMode.none else .addColumn
  if fld.change.isSome then .modifyColumn else mode

/-- `fill_ctc_alter_create_list`. -/
def fillCtcAlterCreateList (fields : List NewField) : Result (ReqColumns δ) :=
  fillColumns (fun column fld => ctcDdlFillColumnByField rest column fld fld.change (alterMode fld))
    (-1) fields

/-- `fill_create_table_req_columns_info`. -/
def fillCreateTableReqColumnsInfo (fields : List NewField) : Result (ReqColumns δ) :=
  fillColumns (fun column field => ctcDdlFillColumnByField rest column field none .addColumn)
    haErrWrongCommand fields

/-- The fields that the engine has columns for. -/
def engineFields (fields : List NewField) : List NewField :=
  fields.filter fun field => !field.isFieldForFunctionalIndex

end

section

variable {δ : Type} {rest : NewField → Option δ}
  {fill : ReqColumn δ → NewField → Option (ReqColumn δ)} {code : Int}

/-- A functional index leaves its slot as it is. -/
theorem fillColumn_overwrites :
    Overwrites (fillColumn fill code) (.init δ) fun slot => slot = .init δ where
  stale := rfl
  same := by
    rintro count slot field rfl
    rfl
  skipped := by
    intro count field done hfill hkept
    unfold fillColumn at hfill
    split at hfill
    · cases hfill
      rfl
    · cases hmade : fill (.init δ) field with
      | none => simp only [hmade, reduceCtorEq] at hfill
      | some column =>
        simp only [hmade] at hfill
        cases hfill
        cases hkept

/-- What one field adds to the count. -/
def countField (count : VirtualCols) (field : NewField) : VirtualCols :=
  if !field.isFieldForFunctionalIndex && field.isVirtualGcol then ⟨true, count.virtualCols + 1⟩
  else count

theorem foldl_countField (fields : List NewField) (count : VirtualCols) :
    fields.foldl countField count =
      ⟨count.containsVircol || (engineFields fields).any (·.isVirtualGcol),
        count.virtualCols + (engineFields fields).countP (·.isVirtualGcol)⟩ := by
  induction fields generalizing count with
  | nil => simp [engineFields]
  | cons field fields ih =>
    rw [List.foldl_cons, ih]
    cases hfunc : field.isFieldForFunctionalIndex with
    | true => simp [countField, engineFields, hfunc]
    | false =>
      cases hvirtual : field.isVirtualGcol with
      | true => simp [countField, engineFields, hfunc, hvirtual, Nat.add_assoc, Nat.add_comm]
      | false => simp [countField, engineFields, hfunc, hvirtual]

/-- What a column is made of, in a blank slot. -/
def makeColumn (fill : ReqColumn δ → NewField → Option (ReqColumn δ)) (code : Int)
    (field : NewField) : Result (ReqColumn δ) :=
  match fill (.init δ) field with
  | none => .error (.code code)
  | some column => .ok column

theorem gather_fillColumn (fields : List NewField) (count : VirtualCols) :
    gather (fillColumn fill code) (.init δ) count fields =
      ((engineFields fields).mapM (makeColumn fill code)).map fun columns =>
        (fields.foldl countField count, columns) := by
  apply gather_mapM
  · intro count field hkeep
    have hfunc : field.isFieldForFunctionalIndex = false := by simpa using hkeep
    simp only [fillColumn, hfunc, Bool.false_eq_true, if_false, makeColumn, countField, Bool.not_false,
      Bool.true_and]
    cases fill (.init δ) field <;> rfl
  · intro count field hkeep
    have hfunc : field.isFieldForFunctionalIndex = true := by simpa using hkeep
    exact ⟨.init δ, by simp [fillColumn, hfunc, countField]⟩

theorem length_mapM_makeColumn {fields : List NewField} {columns : List (ReqColumn δ)}
    (h : fields.mapM (makeColumn fill code) = .ok columns) : columns.length = fields.length := by
  induction fields generalizing columns with
  | nil =>
    cases h
    rfl
  | cons field fields ih =>
    rw [List.mapM_cons] at h
    obtain ⟨column, -, h⟩ := result_bind_eq_ok.mp h
    obtain ⟨rest, hrest, h⟩ := result_bind_eq_ok.mp h
    cases h
    rw [List.length_cons, List.length_cons, ih hrest]

/-- What both loops do. -/
theorem fillColumns_eq (fields : List NewField) :
    fillColumns fill code fields =
      ((engineFields fields).mapM (makeColumn fill code) >>= fun columns =>
        if (engineFields fields).all (·.isVirtualGcol) then .error (.code haErrWrongCommand)
        else .ok ⟨columns, (engineFields fields).any (·.isVirtualGcol)⟩) := by
  rw [fillColumns, compact_eq fillColumn_overwrites, gather_fillColumn, foldl_countField]
  cases hmade : (engineFields fields).mapM (makeColumn fill code) with
  | error e => rfl
  | ok columns =>
    have hall : columns.length = (engineFields fields).countP (·.isVirtualGcol) ↔
        (engineFields fields).all (·.isVirtualGcol) = true := by
      rw [length_mapM_makeColumn hmade, eq_comm, List.countP_eq_length, List.all_eq_true]
    simp only [Except.map, result_bind_ok, Bool.false_or, Nat.zero_add, hall]
    rfl

/-- The column that a field of ALTER TABLE becomes. -/
def alteredColumn (rest : NewField → Option δ) (fld : NewField) : Result (ReqColumn δ) :=
  match rest fld with
  | none => .error (.code (-1))
  | some rest =>
    .ok {
      name := fld.change.getD fld.fieldName
      newName := if (fld.change.getD fld.fieldName) = fld.fieldName then [] else fld.fieldName
      alterMode := alterMode fld
      rest := some rest }

/-- **The columns of ALTER TABLE.** There is one column for each field that is not one of a
functional index, in the order of the table, under its old name and with its new name if it gets
one. The request is refused if there is no column beside the virtual ones. -/
theorem fillCtcAlterCreateList_eq (rest : NewField → Option δ) (fields : List NewField) :
    fillCtcAlterCreateList rest fields =
      ((engineFields fields).mapM (alteredColumn rest) >>= fun columns =>
        if (engineFields fields).all (·.isVirtualGcol) then .error (.code haErrWrongCommand)
        else .ok ⟨columns, (engineFields fields).any (·.isVirtualGcol)⟩) := by
  rw [fillCtcAlterCreateList, fillColumns_eq]
  congr 1
  congr 1
  funext fld
  simp only [makeColumn, alteredColumn, ctcDdlFillColumnByField]
  cases rest fld with
  | none => rfl
  | some made =>
    cases hchange : fld.change with
    | none => simp [ReqColumn.init]
    | some change =>
      by_cases hsame : change = fld.fieldName
      · simp [ReqColumn.init, hsame]
      · simp [ReqColumn.init, hsame]

/-- The column that a field of CREATE TABLE becomes. -/
def createdColumn (rest : NewField → Option δ) (field : NewField) : Result (ReqColumn δ) :=
  match rest field with
  | none => .error (.code haErrWrongCommand)
  | some rest => .ok ⟨field.fieldName, [], .addColumn, some rest⟩

/-- The columns of CREATE TABLE. -/
theorem fillCreateTableReqColumnsInfo_eq (rest : NewField → Option δ) (fields : List NewField) :
    fillCreateTableReqColumnsInfo rest fields =
      ((engineFields fields).mapM (createdColumn rest) >>= fun columns =>
        if (engineFields fields).all (·.isVirtualGcol) then .error (.code haErrWrongCommand)
        else .ok ⟨columns, (engineFields fields).any (·.isVirtualGcol)⟩) := by
  rw [fillCreateTableReqColumnsInfo, fillColumns_eq]
  congr 1
  congr 1
  funext field
  simp only [makeColumn, createdColumn, ctcDdlFillColumnByField]
  cases rest field <;> rfl

end

end CantianConnector.Ddl.RequestLists
