import CantianConnector.Convert.UpdatedRow
import CantianConnector.Handler.AutoIncrement
import CantianConnector.Handler.BulkInsert

/-!
# Rows that are updated and read again

`update_row` encodes the columns of the new record that the statement writes, and sends them with a
list of their numbers. The engine replaces these columns of the row at the cursor (`Updates`). After
a run of updates that all succeed, the row is decoded to the last record (`updateAll_reads_back`).

The row and the LOBs are two parts of the engine's state: encoding a record writes LOBs and leaves
the row alone.
-/

namespace CantianConnector.Handler

open CantianConnector.Convert

/-! ## Data -/

/-- The rules of a foreign key. -/
inductive ForeignKeyRule where
  | noAction
  | restrict
  | cascade
  | setNull
  | setDefault
deriving DecidableEq, Repr

/-- `TABLE_SHARE_FOREIGN_KEY_PARENT_INFO`. -/
structure ForeignKeyParent where
  updateRule : ForeignKeyRule
  deleteRule : ForeignKeyRule

/-- `KEY_PART_INFO`. -/
structure KeyPartInfo where
  /-- The number of the column, from 1 on. -/
  fieldnr : Nat
  field : Field
  offset : Nat
  length : Nat
  /-- `HA_BLOB_PART` or `HA_VAR_LENGTH_PART` in `key_part_flag`. -/
  varLength : Bool

/-- `update_row_request`; the record is passed by its address. -/
structure UpdateRowRequest where
  newRecordLen : Nat
  newRecord : Mem UInt8
  updCols : List Nat
  flag : DmlFlag

/-- What comes back of a request: whether it was answered at all, `req->result`, the engine's state
and `change_data_capture` of `req->tch`. -/
structure UpdateReply (σ τ : Type) where
  answered : Bool
  result : Int
  lobs : σ
  rows : τ
  changeDataCapture : Bool

/-- The engine's side. -/
structure UpdateEngine (σ τ : Type) where
  lobs : LobStore σ
  /-- `ctc_alloc_buf`: a block of `BIG_RECORD_SIZE` bytes. -/
  allocBuf : τ → Option (Mem UInt8)
  /-- Does `alloc_share_mem` find memory for a request? -/
  allocShareMem : τ → Bool
  /-- `ctc_mq_deal_func` for `CTC_FUNC_TYPE_UPDATE_ROW`. -/
  dealFunc : σ → τ → UpdateRowRequest → UpdateReply σ τ

/-- An open table. -/
structure UpdateEnv (σ τ : Type) where
  build : Build
  prims : ServerPrims
  table : Table
  /-- The user-defined parts of each key. -/
  keys : List (List KeyPartInfo)
  primaryKey : Option Nat
  foreignKeyParents : List ForeignKeyParent
  ctcAutoincLockMode : Nat
  /-- The memory that a flag is built in. -/
  flag : DmlFlag
  engine : UpdateEngine σ τ

/-- The members of the handler that an update uses. -/
structure UpdateHandler (σ τ : Type) where
  /-- `m_ctc_buf`. -/
  ctcBuf : Option (Mem UInt8)
  isReplace : Bool
  isInsertDup : Bool
  ignoreDup : Bool
  /-- `m_tch.change_data_capture`. -/
  changeDataCapture : Bool
  lobs : σ
  rows : τ

/-- A call of `update_row`, with what it reads of the session and the statement. -/
structure UpdateCall where
  thd : Thd
  /-- The command is REPLACE or REPLACE ... SELECT. -/
  sqlReplace : Bool
  /-- `table->file->errkey`, if it is below `MAX_KEY`. -/
  errkey : Option Nat
  /-- `table->write_set`. -/
  writeSet : Nat → Bool
  oldData : MysqlRecord
  newData : MysqlRecord

/-- Why a call fails. -/
inductive UpdateError where
  /-- `HA_ERR_KEY_NOT_FOUND`. -/
  | keyNotFound
  /-- `HA_ERR_RECORD_IS_THE_SAME`. -/
  | recordIsTheSame
  | engine (error : Ddl.HaErr)
  | encode (failure : Failure)
  /-- A failed `assert` or an access outside of an array. -/
  | failure (failure : Failure)
deriving DecidableEq, Repr

abbrev UpdateResult (σ τ : Type) := Except (UpdateError × UpdateHandler σ τ) (UpdateHandler σ τ)

/-! ## The functions -/

/-- `pre_check_for_cascade`. -/
def preCheckForCascade (parents : List ForeignKeyParent) (isUpdate : Bool) : Bool :=
  parents.all fun fk =>
    let rule := if isUpdate then fk.updateRule else fk.deleteRule
    decide (rule = .cascade) || decide (rule = .setNull)

/-- `Field::cmp_binary` of the server for two values of a column: do they differ in their first
`maxLength` bytes? -/
def cmpBinary (field : Field) (offset maxLength : Nat) (oldData newData : MysqlRecord) : Bool :=
  let value (record : MysqlRecord) : List UInt8 :=
    match field.columnType with
    | .varchar _ => (record.stringData { field with offset }).take maxLength
    | .blob _ | .json => (record.blobData field offset).take maxLength
    | c => record.readBytes offset c.packLength
  value oldData != value newData

/-- A part of a key in which two records differ. -/
def KeyPartInfo.differs (part : KeyPartInfo) (oldData newData : MysqlRecord) : Bool :=
  if part.varLength then cmpBinary part.field part.offset part.length oldData newData
  else oldData.readBytes part.offset part.length != newData.readBytes part.offset part.length

namespace UpdateEnv

variable {σ τ : Type} (env : UpdateEnv σ τ)

/-- `ctc_cmp_key_values`. -/
def ctcCmpKeyValues (oldData newData : MysqlRecord) (keyNr : Option Nat) : Bool :=
  ((keyNr.bind fun nr => env.keys[nr]?).getD []).any fun part => part.differs oldData newData

/-- `check_if_update_primary_key`. -/
def checkIfUpdatePrimaryKey (writeSet : Nat → Bool) : Bool :=
  ((env.primaryKey.bind fun nr => env.keys[nr]?).getD []).any fun part =>
    writeSet (part.fieldnr - 1)

/-- The columns to be updated, generated columns among them. -/
def updFields (changeDataCapture : Bool) (call : UpdateCall) : List Nat :=
  let updatePrimaryKey := changeDataCapture && env.checkIfUpdatePrimaryKey call.writeSet
  (List.range env.table.fields.length).filter fun i => updatePrimaryKey || call.writeSet i

/-- The flag of the request. -/
def updateFlag (call : UpdateCall) (h : UpdateHandler σ τ) : DmlFlag :=
  -- LOAD DATA ... REPLACE sets both m_ignore_dup and m_is_replace
  let dupUpdate := h.isInsertDup || (h.ignoreDup && h.isReplace)
  let flag := ctcGetDmlFlag env.flag env.ctcAutoincLockMode call.thd h.isReplace false false
    dupUpdate
  if flag.noForeignKeyCheck then flag
  else
    { flag with
      noCascadeCheck := flag.ddUpdate || preCheckForCascade env.foreignKeyParents true }

/-- The request of `ctc_update_row`; the number of columns has 16 bits, as the length has. -/
def updateRequest (out : EncodedRecord σ) (flag : DmlFlag) : UpdateRowRequest where
  newRecordLen := out.size % 65536
  newRecord := out.buf
  updCols := out.fields.take (out.fields.length % 65536)
  flag := flag

/-- `ctc_update_row`: its result and the handler after it. -/
def ctcUpdateRow (out : EncodedRecord σ) (flag : DmlFlag) (h : UpdateHandler σ τ) :
    Int × UpdateHandler σ τ :=
  if env.engine.allocShareMem h.rows then
    let reply := env.engine.dealFunc h.lobs h.rows (updateRequest out flag)
    -- ERR_CONNECTION_FAILED
    (if reply.answered then reply.result else 4004,
      { h with
        lobs := reply.lobs
        rows := reply.rows
        changeDataCapture := reply.changeDataCapture })
  else
    -- ERR_ALLOC_MEMORY
    (1, h)

/-- The end of a call, by the code of the engine. -/
def finish (ret : Int) (h : UpdateHandler σ τ) : UpdateResult σ τ :=
  match Ddl.convertCtcErrorCodeToMysql ret with
  | none => .ok h
  | some e => .error (.engine e, h)

/-- Sending an encoded record. -/
def sendRow (call : UpdateCall) (out : EncodedRecord σ) (h : UpdateHandler σ τ) :
    UpdateResult σ τ :=
  -- only virtual columns are updated
  if out.fields = [] then .ok h
  else if out.fields.length % 65536 ≤ ctcMaxColumns then
    let (ret, h') := env.ctcUpdateRow out (env.updateFlag call h) h
    finish (checkErrorCodeToMysql call.thd.optionNoForeignKeyChecks ret) h'
  else .error (.failure (if env.build = .debug then .assertion else .undefined), h)

/-- Encoding the columns of a list into the buffer of the handler. -/
def encodeAndSend (call : UpdateCall) (ids : List Nat) (buf : Mem UInt8) (h : UpdateHandler σ τ) :
    UpdateResult σ τ :=
  -- memset(m_ctc_buf, 0, sizeof(row_head_t))
  let slot := buf.write 0 (List.replicate rowHeadSize 0)
  match mysqlRecordToCantianRecord env.build env.prims env.engine.lobs env.table call.newData slot
      h.lobs (some ids) with
  | .error f => .error (.encode f, { h with ctcBuf := some slot })
  | .ok out => env.sendRow call out { h with ctcBuf := some out.buf, lobs := out.lob }

/-- `update_row`. -/
def updateRow (call : UpdateCall) (h : UpdateHandler σ τ) : UpdateResult σ τ :=
  let h := { h with isReplace := call.sqlReplace || h.isReplace }
  if call.sqlReplace && env.ctcCmpKeyValues call.oldData call.newData call.errkey then
    .error (.keyNotFound, h)
  else
    let ids := env.updFields h.changeDataCapture call
    if ids = [] then .error (.recordIsTheSame, h)
    else
      match h.ctcBuf.or (env.engine.allocBuf h.rows) with
      | none => finish 1 h
      | some buf => env.encodeAndSend call ids buf h

/-- Updates of the row at the cursor, up to the first that fails. -/
def updateAll : List UpdateCall → UpdateHandler σ τ → UpdateResult σ τ
  | [], h => .ok h
  | call :: calls, h =>
    match env.updateRow call h with
    | .error e => .error e
    | .ok h => updateAll calls h

end UpdateEnv

/-! ## What the engine does with a request -/

/-- A request carries some columns: its record is a row of them that ends at `new_record_len`, and
its list has a number for each, none twice. -/
structure UpdateRowRequest.Carries (req : UpdateRowRequest) (imgs : List ColImage) : Prop where
  columns : HoldsColumns req.newRecord imgs
  length : req.updCols.length = imgs.length
  nodup : req.updCols.Nodup
  size : req.newRecordLen = rowHeadSize + colBitmapExSize imgs.length + widths imgs

/-- The engine replaces the columns of the row at the cursor that a request names, and keeps the
LOBs of the new row. Told not to check foreign keys, it does not answer with one of their errors. -/
structure UpdateEngine.Updates {σ τ : Type} (engine : UpdateEngine σ τ) (row : τ → Mem UInt8)
    (contents : σ → List UInt8 → Option (List UInt8)) : Prop where
  replaces : ∀ lobs rows req imgs newImgs, HoldsColumns (row rows) imgs → req.Carries newImgs →
    (∀ k ∈ req.updCols, k < imgs.length) →
    (engine.dealFunc lobs rows req).answered = true → (engine.dealFunc lobs rows req).result = 0 →
    HoldsColumns (row (engine.dealFunc lobs rows req).rows)
        (PointUpdates.apply imgs (req.updCols.zip newImgs)) ∧
      ∀ img ∈ PointUpdates.apply imgs (req.updCols.zip newImgs),
        KeepsLob contents lobs (engine.dealFunc lobs rows req).lobs img
  unchecked : ∀ lobs rows req, req.flag.noForeignKeyCheck = true →
    (engine.dealFunc lobs rows req).result ≠ 1128 ∧ (engine.dealFunc lobs rows req).result ≠ 1123

namespace UpdateEnv

section

variable {σ τ : Type} (env : UpdateEnv σ τ)

/-- The row at the cursor holds a record. -/
def HoldsRow (row : τ → Mem UInt8) (contents : σ → List UInt8 → Option (List UInt8))
    (h : UpdateHandler σ τ) (record : MysqlRecord) : Prop :=
  ∃ imgs, FieldImages env.build env.prims contents env.table record h.lobs
      (env.table.encodedColumns none) imgs ∧
    HoldsColumns (row h.rows) imgs

/-- The bitmap extension of an update record is as long as its columns need. -/
def MapsFit (ids : List Nat) : Prop :=
  colBitmapExSize (ids.length - calGcolCntsForUpdate env.table.fields ids.length) =
    colBitmapExSize (ids.filter env.table.isStored).length

/-- A call whose record can be stored and read back; the record of the columns to be updated fits
into the buffer. -/
structure Updatable (call : UpdateCall) : Prop where
  input : RoundTripInput env.prims env.table call.newData
  maps : env.MapsFit (env.updFields false call)
  short : ∀ changeDataCapture, recordSize env.prims env.table call.newData
    (some (env.updFields changeDataCapture call)) < 65536

/-- Each new record has the values of the one before in the stored columns that are not written. -/
def Follows : MysqlRecord → List UpdateCall → Prop
  | _, [] => True
  | record, call :: calls =>
    (∀ (c : Nat) (f : Field), env.table.fields[c]? = some f → f.isVirtualGcol = false →
      call.writeSet c = false → call.newData.fieldValue f = record.fieldValue f) ∧
    Follows call.newData calls

end

/-- The record after some updates. -/
def lastRecord (record : MysqlRecord) (calls : List UpdateCall) : MysqlRecord :=
  (calls.map UpdateCall.newData).getLastD record

section

variable {σ τ : Type} {env : UpdateEnv σ τ} {row : τ → Mem UInt8}
  {contents : σ → List UInt8 → Option (List UInt8)} {h h' : UpdateHandler σ τ}
  {call : UpdateCall} {record : MysqlRecord}

/-! ## The list of an update -/

theorem updFields_lt {cdc : Bool} : ∀ c ∈ env.updFields cdc call, c < env.table.fields.length :=
  fun _ hc => List.mem_range.mp (List.mem_filter.mp hc).1

theorem updFields_nodup {cdc : Bool} : (env.updFields cdc call).Nodup :=
  List.nodup_range.filter _

theorem not_written {cdc : Bool} {c : Nat} (hlt : c < env.table.fields.length)
    (hc : c ∉ env.updFields cdc call) : call.writeSet c = false := by
  by_contra hset
  apply hc
  unfold updFields
  rw [List.mem_filter]
  exact ⟨List.mem_range.mpr hlt, by simp [hset]⟩

/-- All columns are updated with their primary key, else those that are written. -/
theorem updFields_cases (cdc : Bool) :
    env.updFields cdc call = List.range env.table.fields.length ∨
      env.updFields cdc call = env.updFields false call := by
  unfold updFields
  cases hkey : cdc && env.checkIfUpdatePrimaryKey call.writeSet with
  | true =>
    left
    simp
  | false =>
    right
    simp

theorem Updatable.mapsFit (hcall : env.Updatable call) (cdc : Bool) :
    env.MapsFit (env.updFields cdc call) := by
  rcases @updFields_cases _ _ env call cdc with hall | hwritten
  · rw [hall]
    unfold MapsFit
    rw [length_filter_isStored le_rfl, List.length_range]
    rfl
  · rw [hwritten]
    exact hcall.maps

theorem stored_lt (hcall : env.Updatable call) {cdc : Bool} :
    ((env.updFields cdc call).filter env.table.isStored).length < sprsColumns := by
  refine Nat.lt_of_le_of_lt ?_ hcall.input.columns
  refine (List.length_filter_le _ _).trans ?_
  unfold updFields
  exact (List.length_filter_le _ _).trans_eq List.length_range

/-! ## One update -/

/-- What encoding the columns of an update leaves. -/
theorem encoded_carries (hlaw : env.engine.lobs.Lawful contents) (hcall : env.Updatable call)
    {cdc : Bool} {slot : Mem UInt8} {lob : σ} {out : EncodedRecord σ}
    (hout : mysqlRecordToCantianRecord env.build env.prims env.engine.lobs env.table call.newData
      slot lob (some (env.updFields cdc call)) = .ok out) :
    ∃ newImgs, FieldImages env.build env.prims contents env.table call.newData out.lob
        ((env.updFields cdc call).filter env.table.isStored) newImgs ∧
      out.fields = ((env.updFields cdc call).filter env.table.isStored).map env.table.cantianId ∧
      ∀ flag, (updateRequest out flag).updCols = out.fields ∧
        (updateRequest out flag).Carries newImgs := by
  have hvalid := hcall.input.valid
  have hlt := @stored_lt _ _ env call hcall cdc
  unfold sprsColumns at hlt
  have hmaps : colBitmapExSize (exMapColumns env.table (some (env.updFields cdc call))) =
      colBitmapExSize ((env.updFields cdc call).filter env.table.isStored).length := by
    rw [exMapColumns_update]
    exact hcall.mapsFit cdc
  obtain ⟨newImgs, himgs, hsize, hrow⟩ := rowAt_encoded hlaw hvalid hout hmaps.ge
  obtain ⟨_, -, -, hbuf, hfields⟩ := mysqlRecordToCantianRecord_spec hlaw hvalid.types hout
  obtain ⟨hrecordSize, -, hcount⟩ := rowHead_eq hlaw hvalid hout
  have hlen : ((env.updFields cdc call).filter env.table.isStored).length = newImgs.length :=
    himgs.length_eq
  have hfst : out.fields =
      ((env.updFields cdc call).filter env.table.isStored).map env.table.cantianId := hfields rfl
  have hbase : firstFieldOffset env.table (some (env.updFields cdc call)) =
      rowHeadSize + colBitmapExSize newImgs.length := by
    rw [firstFieldOffset, hmaps, hlen]
  refine ⟨newImgs, himgs, hfst, ?_⟩
  intro flag
  have hcols : (updateRequest out flag).updCols = out.fields := by
    unfold updateRequest
    dsimp only
    rw [Nat.mod_eq_of_lt (by rw [hfst, List.length_map]; omega), List.take_length]
  refine ⟨hcols, ⟨?_, ?_, himgs.sized, ?_⟩, ?_, ?_, ?_⟩
  · change headColumnCount out.buf = newImgs.length
    rw [hcount, ← hlen]
    exact Nat.mod_eq_of_lt hlt
  · change headFlags out.buf = 0
    rw [hbuf, headFlags_setRowHead]
  · rw [← hbase]
    exact hrow
  · rw [hcols, hfst, List.length_map, hlen]
  · rw [hcols, hfst, ← updateEntries_fst hlen]
    exact updateEntries_nodup updFields_nodup updFields_lt hlen
  · have hshort := hcall.short cdc
    change out.size % 65536 = _
    rw [Nat.mod_eq_of_lt (by rw [hrecordSize]; exact hshort), hsize, hbase]

/-- A code that the server sees as no error. -/
theorem finish_ok {ret : Int} {h1 : UpdateHandler σ τ} (hrun : finish ret h1 = .ok h') :
    ret = 0 ∧ h' = h1 := by
  unfold finish at hrun
  cases hcode : Ddl.convertCtcErrorCodeToMysql ret with
  | some e =>
    rw [hcode] at hrun
    cases hrun
  | none =>
    rw [hcode] at hrun
    cases hrun
    exact ⟨(Ddl.convertCtcErrorCodeToMysql_eq_none_iff ret).mp hcode, rfl⟩

theorem updateFlag_noForeignKeyCheck :
    (env.updateFlag call h).noForeignKeyCheck = call.thd.optionNoForeignKeyChecks := by
  unfold updateFlag
  dsimp only
  split <;> rfl

/-- A request that ends without an error was granted by the engine. -/
theorem ctcUpdateRow_ok (hengine : env.engine.Updates row contents) {out : EncodedRecord σ}
    {ret : Int} {h1 : UpdateHandler σ τ}
    (hrun : env.ctcUpdateRow out (env.updateFlag call h) h = (ret, h1))
    (hret : checkErrorCodeToMysql call.thd.optionNoForeignKeyChecks ret = 0) :
    let reply := env.engine.dealFunc h.lobs h.rows (updateRequest out (env.updateFlag call h))
    reply.answered = true ∧ reply.result = 0 ∧ h1.lobs = reply.lobs ∧ h1.rows = reply.rows := by
  have hcheck : ret ≠ 1128 → ret ≠ 1123 → ret = 0 := by
    intro h1128 h1123
    unfold checkErrorCodeToMysql at hret
    rw [if_neg (by simp [h1128, h1123])] at hret
    exact hret
  unfold ctcUpdateRow at hrun
  cases halloc : env.engine.allocShareMem h.rows with
  | false =>
    rw [halloc, if_neg Bool.false_ne_true] at hrun
    cases hrun
    exact absurd (hcheck (by decide) (by decide)) (by decide)
  | true =>
    rw [halloc, if_pos rfl] at hrun
    dsimp only at hrun
    cases hanswer : (env.engine.dealFunc h.lobs h.rows
        (updateRequest out (env.updateFlag call h))).answered with
    | false =>
      rw [hanswer, if_neg Bool.false_ne_true] at hrun
      cases hrun
      exact absurd (hcheck (by decide) (by decide)) (by decide)
    | true =>
      rw [hanswer, if_pos rfl] at hrun
      cases hrun
      refine ⟨hanswer, ?_, rfl, rfl⟩
      cases hfk : call.thd.optionNoForeignKeyChecks with
      | false =>
        rw [hfk] at hret
        exact hret
      | true =>
        obtain ⟨h1128, h1123⟩ := hengine.unchecked h.lobs h.rows
          (updateRequest out (env.updateFlag call h)) (updateFlag_noForeignKeyCheck.trans hfk)
        exact hcheck h1128 h1123

/-- Sending a record: the row holds it afterwards. -/
theorem sendRow_holds (hengine : env.engine.Updates row contents)
    {out : EncodedRecord σ} {imgs newImgs : List ColImage} (hlobs : h.lobs = out.lob)
    (hcarries : (updateRequest out (env.updateFlag call h)).Carries newImgs)
    (hcols : (updateRequest out (env.updateFlag call h)).updCols = out.fields)
    (hlt : ∀ k ∈ out.fields, k < imgs.length) (hrow : HoldsColumns (row h.rows) imgs)
    (himgs : FieldImages env.build env.prims contents env.table call.newData out.lob
      (env.table.encodedColumns none) (PointUpdates.apply imgs (out.fields.zip newImgs)))
    (hrun : env.sendRow call out h = .ok h') : env.HoldsRow row contents h' call.newData := by
  unfold sendRow at hrun
  by_cases hempty : out.fields = []
  · rw [if_pos hempty] at hrun
    cases hrun
    rw [hempty, List.zip_nil_left, PointUpdates.apply_nil, ← hlobs] at himgs
    exact ⟨imgs, himgs, hrow⟩
  · rw [if_neg hempty] at hrun
    split at hrun
    · cases hsend : env.ctcUpdateRow out (env.updateFlag call h) h with
      | mk ret h1 =>
      rw [hsend] at hrun
      obtain ⟨hret, rfl⟩ := finish_ok hrun
      obtain ⟨hanswered, hresult, hlob, hrows⟩ := ctcUpdateRow_ok hengine hsend hret
      obtain ⟨hnew, hkeep⟩ := hengine.replaces h.lobs h.rows _ imgs newImgs hrow hcarries
        (by rw [hcols]; exact hlt) hanswered hresult
      rw [hcols] at hnew hkeep
      rw [← hlobs] at himgs
      refine ⟨PointUpdates.apply imgs (out.fields.zip newImgs), ?_, ?_⟩
      · rw [hlob]
        exact himgs.keeps hkeep
      · rw [hrows]
        exact hnew
    · cases hrun

/-- One update: the row holds the new record. -/
theorem updateRow_holds (hlaw : env.engine.lobs.Lawful contents)
    (hengine : env.engine.Updates row contents) (hcall : env.Updatable call)
    (hstays : ∀ (c : Nat) (f : Field), env.table.fields[c]? = some f → f.isVirtualGcol = false →
      call.writeSet c = false → call.newData.fieldValue f = record.fieldValue f)
    (hrow : env.HoldsRow row contents h record) (hrun : env.updateRow call h = .ok h') :
    env.HoldsRow row contents h' call.newData := by
  obtain ⟨imgs, himgs, hcolumns⟩ := hrow
  unfold updateRow at hrun
  dsimp only at hrun
  split at hrun
  · cases hrun
  · split at hrun
    · cases hrun
    · split at hrun
      · obtain ⟨hret, -⟩ := finish_ok hrun
        exact absurd hret (by decide)
      · unfold encodeAndSend at hrun
        dsimp only at hrun
        split at hrun
        · cases hrun
        · rename_i out hout
          obtain ⟨newImgs, hnew, hfields, hrequest⟩ := encoded_carries hlaw hcall hout
          have hold := himgs.grows (encoded_grows hlaw hcall.input.valid.types hout)
          have hreplaced := hold.replaced updFields_nodup updFields_lt hnew (by
            intro c f hf hvirt hc
            exact hstays c f hf hvirt
              (not_written (List.getElem?_eq_some_iff.mp hf).1 hc))
          unfold updateEntries at hreplaced
          rw [← hfields] at hreplaced
          obtain ⟨hcols, hcarries⟩ := hrequest (env.updateFlag call { h with
            isReplace := call.sqlReplace || h.isReplace, ctcBuf := some out.buf, lobs := out.lob })
          refine sendRow_holds hengine rfl hcarries hcols ?_ hcolumns hreplaced hrun
          intro k hk
          rw [hfields] at hk
          obtain ⟨c, hc, rfl⟩ := List.mem_map.mp hk
          obtain ⟨f, hf, hvirt⟩ := mem_encodedColumns hc (updFields_lt c (List.mem_filter.mp hc).1)
          have hlen : (env.table.encodedColumns none).length = imgs.length := himgs.length_eq
          rw [← hlen]
          exact (List.getElem?_eq_some_iff.mp (encodedColumns_getElem? hf hvirt)).1

/-! ## A run of updates -/

theorem updateAll_holds (hlaw : env.engine.lobs.Lawful contents)
    (hengine : env.engine.Updates row contents) {calls : List UpdateCall}
    (hcalls : ∀ call ∈ calls, env.Updatable call) (hfollows : env.Follows record calls)
    (hrow : env.HoldsRow row contents h record) (hrun : env.updateAll calls h = .ok h') :
    env.HoldsRow row contents h' (lastRecord record calls) := by
  induction calls generalizing h record with
  | nil =>
    cases hrun
    exact hrow
  | cons call calls ih =>
    obtain ⟨hstays, hrest⟩ := hfollows
    rw [updateAll] at hrun
    split at hrun
    · cases hrun
    · rename_i h1 hone
      have hnext := updateRow_holds hlaw hengine (hcalls call List.mem_cons_self) hstays hrow hone
      have hlast := ih (fun c hc => hcalls c (List.mem_cons_of_mem call hc)) hrest hnext hrun
      unfold lastRecord at hlast ⊢
      rw [List.map_cons, List.getLastD_cons]
      exact hlast

/-- **Update, then read.** The row at the cursor holds a record; each call of a run of updates
writes columns of the record before it, and all succeed. The row is then decoded to the values of the last
record, in every column that is stored. -/
theorem updateAll_reads_back (hlaw : env.engine.lobs.Lawful contents)
    (hengine : env.engine.Updates row contents) {calls : List UpdateCall}
    (hcalls : ∀ call ∈ calls, env.Updatable call) (hfollows : env.Follows record calls)
    (hrow : env.HoldsRow row contents h record) (hrun : env.updateAll calls h = .ok h')
    (hinput : RoundTripInput env.prims env.table record)
    (hsafe : Decodable env.build env.table (lastRecord record calls)) {ctx : ReadCtx}
    (hctx : ∀ c, c < env.table.fields.length → ctx.copies c = true ∧ c ≤ ctx.maxColIdx)
    (m : MysqlRecord) :
    ∃ m', cantianRecordToMysqlRecord env.build env.prims env.engine.lobs ctx env.table h'.lobs
        (row h'.rows) m = .ok m' ∧
      ∀ f ∈ env.table.fields, f.isVirtualGcol = false →
        m'.fieldValue f = (lastRecord record calls).fieldValue f := by
  obtain ⟨imgs, himgs, hcolumns⟩ := updateAll_holds hlaw hengine hcalls hfollows hrow hrun
  have hlast : RoundTripInput env.prims env.table (lastRecord record calls) := by
    unfold lastRecord
    rcases List.eq_nil_or_concat calls with rfl | ⟨before, call, rfl⟩
    · exact hinput
    · rw [List.concat_eq_append, List.map_append, List.map_singleton, List.getLastD_concat]
      exact (hcalls call (by simp)).input
  have hholds : HoldsRecord env.build env.prims contents env.table (lastRecord record calls)
      h'.lobs (row h'.rows) imgs := ⟨himgs, hcolumns.count, hcolumns.at_base⟩
  exact hholds.decodes hlaw hlast hsafe hcolumns.flags hctx m

end

end UpdateEnv

/-! ### Two updates of a table with a virtual column -/

/-- An engine that keeps the row at the cursor as it stands in memory. -/
def rowEngine : UpdateEngine Unit (Mem UInt8) where
  lobs := .refusing
  allocBuf _ := some fun _ => 0
  allocShareMem _ := true
  dealFunc _ row req :=
    ⟨true, 0, (), rowOfColumns (PointUpdates.apply (rowColumns row)
      (req.updCols.zip (rowColumns req.newRecord))), false⟩

theorem rowEngine_updates : rowEngine.Updates id fun _ _ => none where
  replaces _ row req imgs newImgs hrow hcarries _ _ _ := by
    have hcount := hrow.count
    have hlt : headColumnCount row < sprsColumns := Nat.mod_lt _ (by decide)
    change HoldsColumns (rowOfColumns (PointUpdates.apply (rowColumns row)
      (req.updCols.zip (rowColumns req.newRecord)))) _ ∧ _
    have himgs : rowColumns row = imgs := hrow.rowColumns_eq
    rw [himgs, hcarries.columns.rowColumns_eq]
    refine ⟨rowOfColumns_holds ?_ ?_, fun _ _ _ _ _ h => h⟩
    · apply PointUpdates.forall_mem_apply hrow.sized
      intro update hupdate
      exact hcarries.columns.sized _ (List.of_mem_zip hupdate).2
    · rw [PointUpdates.length_apply, ← hcount]
      exact hlt
  unchecked _ _ _ _ := ⟨show (0 : Int) ≠ 1128 by decide, show (0 : Int) ≠ 1123 by decide⟩

/-- Two texts with a virtual column between them. -/
def textsEnv : UpdateEnv Unit (Mem UInt8) where
  build := .debug
  prims := .none
  table := ⟨[plainField "first" (.varchar 20) 1 none .none,
    plainField "both" (.varchar 40) 22 none .virtual,
    plainField "second" (.varchar 20) 63 none .none], 1⟩
  keys := []
  primaryKey := none
  foreignKeyParents := []
  ctcAutoincLockMode := 1
  flag := .zero
  engine := rowEngine

/-- A record with two texts of one letter. -/
def textsRecord (first second : UInt8) : MysqlRecord := fun a =>
  .byte (if a = 1 ∨ a = 63 then 1 else if a = 2 then first else if a = 64 then second else 0)

def textsHandler : UpdateHandler Unit (Mem UInt8) :=
  ⟨none, false, false, false, false, (), rowOfColumns [.var [97], .var [98]]⟩

/-- An update of one text and the virtual column. -/
def textsCall (written : Nat) (oldData newData : MysqlRecord) : UpdateCall :=
  ⟨sessionOfTen 1 (by decide), false, none, fun i => i == written || i == 1, oldData, newData⟩

/-- The first text is set to `'c'`, then the second to `'d'`. -/
def textsCalls : List UpdateCall :=
  [textsCall 0 (textsRecord 97 98) (textsRecord 99 98),
    textsCall 2 (textsRecord 99 98) (textsRecord 99 100)]

theorem texts_input (first second : UInt8) :
    RoundTripInput .none textsEnv.table (textsRecord first second) := by
  refine ⟨⟨by decide, ?_⟩, ⟨by decide, by decide, by decide⟩, by decide, ?_⟩
  · intro f hf
    simp only [textsEnv, List.mem_cons, List.not_mem_nil, or_false] at hf
    rcases hf with rfl | rfl | rfl
    all_goals simp [plainField, ColumnType.Valid]
  · intro f hf hvirt _
    simp only [textsEnv, List.mem_cons, List.not_mem_nil, or_false] at hf
    rcases hf with rfl | rfl | rfl
    · change ((textsRecord first second).stringData _).length ≤ 20
      exact (by decide : (1 : Nat) ≤ 20)
    · cases hvirt
    · change ((textsRecord first second).stringData _).length ≤ 20
      exact (by decide : (1 : Nat) ≤ 20)

theorem textsHandler_holds : textsEnv.HoldsRow id (fun _ _ => none) textsHandler
    (textsRecord 97 98) := by
  have hone : ∀ letter : UInt8, (ColImage.var [letter]).Sized := fun _ =>
    show 1 < 65536 by decide
  have hsized : ∀ img ∈ [ColImage.var [97], ColImage.var [98]], img.Sized := by
    intro img himg
    rcases List.mem_pair.mp himg with rfl | rfl
    · exact hone 97
    · exact hone 98
  refine ⟨[.var [97], .var [98]], ?_, rowOfColumns_holds hsized (by decide)⟩
  exact .cons ⟨_, rfl, .string rfl rfl rfl, hone 97⟩
    (.cons ⟨_, rfl, .string rfl rfl rfl, hone 98⟩ .nil)

theorem updateAll_reads_back_texts : ∃ h' m', textsEnv.updateAll textsCalls textsHandler = .ok h' ∧
    cantianRecordToMysqlRecord .debug .none .refusing .all textsEnv.table h'.lobs h'.rows
      (textsRecord 0 0) = .ok m' ∧
    ∀ f ∈ textsEnv.table.fields, f.isVirtualGcol = false →
      m'.fieldValue f = (textsRecord 99 100).fieldValue f := by
  have hctx : ∀ c, c < textsEnv.table.fields.length →
      ReadCtx.all.copies c = true ∧ c ≤ ReadCtx.all.maxColIdx := by
    intro c hc
    have hc' : c < 3 := hc
    exact ⟨rfl, show c ≤ 4096 by omega⟩
  have hcalls : ∀ call ∈ textsCalls, textsEnv.Updatable call := by
    simp only [textsCalls, List.forall_mem_cons]
    refine ⟨⟨texts_input _ _, ?_, ?_⟩, ⟨texts_input _ _, ?_, ?_⟩, fun _ h => nomatch h⟩
    · rfl
    · decide
    · rfl
    · decide
  have hfollows : textsEnv.Follows (textsRecord 97 98) textsCalls := by
    refine ⟨?_, ?_, trivial⟩
    · intro c f hf hvirt hset
      match c with
      | 0 => cases hset
      | 1 => cases hset
      | 2 =>
        cases hf
        rfl
      | c + 3 => cases hf
    · intro c f hf hvirt hset
      match c with
      | 0 =>
        cases hf
        rfl
      | 1 => cases hset
      | 2 => cases hset
      | c + 3 => cases hf
  obtain ⟨h', hrun⟩ : ∃ h', textsEnv.updateAll textsCalls textsHandler = .ok h' := ⟨_, rfl⟩
  obtain ⟨m', hdecode, hvalues⟩ := UpdateEnv.updateAll_reads_back LobStore.refusing_lawful
    rowEngine_updates hcalls hfollows textsHandler_holds hrun (texts_input _ _) (by
      right
      decide) hctx (textsRecord 0 0)
  exact ⟨h', m', hrun, hdecode, hvalues⟩

end CantianConnector.Handler
