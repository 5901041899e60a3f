import CantianConnector.Convert.RecordLength
import CantianConnector.Ddl.ErrorCode
import Mathlib.Logic.Function.Basic

/-!
# Bulk insert

`start_bulk_insert`, `write_row` and `end_bulk_insert` of `ha_ctc`, with `write_row_in_part` and
the other functions that `ha_ctcpart` puts in their place. Rows are encoded into the slots of
one buffer, and a full buffer is sent before the next row is added. The partition of a row is
noted beside its slot after the row has been added.

The invariant is about everything that was handed over, sent or not: `delivered` lists the
slots of the requests and then those of the buffer. A flush leaves it as it is, and a row adds
one slot at its end.
-/

namespace CantianConnector.Handler

open CantianConnector.Convert

/-! ## Data -/

/-- `ctc_part_t`. -/
structure CtcPart where
  partId : Nat
  subpartId : Nat
deriving DecidableEq, Repr

/-- `INVALID_PART_ID`. -/
def invalidPartId : Nat := 4294967295

/-- `MAX_BULK_INSERT_PART_ROWS`. -/
def maxBulkInsertPartRows : Nat := 128

/-- `MAX_RECORD_SIZE`, the size of `m_rec_buf_data` and of `req->record`. -/
def bulkRecordSize : Nat := 65536

/-- The class of the handler: `ha_ctc`, or `ha_ctcpart` with the number of subpartitions of a
partition of a subpartitioned table. -/
inductive HandlerKind where
  | plain
  | partitioned (numSubparts : Option Nat)
deriving DecidableEq, Repr

def HandlerKind.isPartitioned : HandlerKind → Bool
  | plain => false
  | partitioned _ => true

/-- The server's `Record_buffer` over `m_rec_buf_data`. -/
structure WriteBuffer where
  maxRecords : Nat
  count : Nat
deriving DecidableEq, Repr

/-- `bulk_write_request`, with the bytes and the part ids that are copied into it. -/
structure BulkWriteRequest where
  recordLen : Nat
  recordNum : Nat
  record : List UInt8
  partIds : Option (List CtcPart)

/-- The slots of a request, each with the part id beside it. -/
def BulkWriteRequest.rows (req : BulkWriteRequest) : List (List UInt8 × Option CtcPart) :=
  (List.range req.recordNum).map fun i =>
    ((req.record.drop (req.recordLen * i)).take req.recordLen, req.partIds.bind fun ids => ids[i]?)

/-- What comes back of a request: whether it was answered at all, `req->result`, and the part ids
of `req->tch`. -/
structure BulkReply (σ : Type) where
  answered : Bool
  result : Int
  engine : σ
  part : CtcPart

/-- The engine's side. -/
structure BulkEngine (σ : Type) where
  lobs : LobStore σ
  /-- The part ids of the handle after the LOBs of a record are written. -/
  lobPart : σ → CtcPart → CtcPart
  /-- Does `alloc_share_mem` find memory for a request? -/
  allocShareMem : σ → Bool
  /-- `ctc_mq_deal_func` for `CTC_FUNC_TYPE_BULK_INSERT`. -/
  dealFunc : σ → CtcPart → BulkWriteRequest → BulkReply σ

/-- The engine hands the handle back with the part ids it was given. -/
structure BulkEngine.KeepsPart {σ : Type} (engine : BulkEngine σ) : Prop where
  lob : ∀ s part, engine.lobPart s part = part
  deal : ∀ s part req, (engine.dealFunc s part req).part = part

/-- What the functions read of the statement. -/
structure BulkStmt where
  /-- `engine_ddl_passthru(thd)`. -/
  ddlPassthru : Bool
  /-- `is_alter_table_copy(thd)`. -/
  alterTableCopy : Bool
  /-- `is_create_table_check(thd)`. -/
  createTableCheck : Bool
  /-- `OPTION_NO_FOREIGN_KEY_CHECKS`. -/
  noForeignKeyCheck : Bool
  isInsertDup : Bool
  isReplace : Bool
  ignoreDup : Bool
  /-- `table->next_number_field`. -/
  nextNumberField : Bool

/-- An open table and the statement that inserts into it. -/
structure BulkEnv (σ : Type) where
  build : Build
  prims : ServerPrims
  table : Table
  kind : HandlerKind
  engine : BulkEngine σ
  stmt : BulkStmt

/-- The members of the handler that a bulk insert uses. -/
structure BulkHandler (σ : Type) where
  /-- `m_rec_buf_4_writing`. -/
  buf : Option WriteBuffer
  /-- `m_rec_buf_data`. -/
  data : Mem UInt8
  /-- `m_bulk_insert_parts`. -/
  parts : Nat → CtcPart
  /-- `m_tch.part_id` and `m_tch.subpart_id`. -/
  part : CtcPart
  engine : σ
  /-- The requests of `ctc_bulk_write` since `start_bulk_insert`. -/
  sent : List BulkWriteRequest

/-- Why a call fails. -/
inductive WriteError where
  /-- An error of the engine, as the server sees it. -/
  | engine (error : Ddl.HaErr)
  | encode (failure : Failure)
  /-- A failed `assert` or an access outside of an array. -/
  | failure (failure : Failure)
  /-- There is no record buffer: the row goes to the engine by itself. -/
  | unbuffered
deriving DecidableEq, Repr

/-- A call succeeds, or fails and leaves the handler in some state. -/
abbrev BulkResult (σ : Type) := Except (WriteError × BulkHandler σ) (BulkHandler σ)

/-- A call of the server: the record, and the partition that the server has found for it. -/
structure WriteCall where
  record : MysqlRecord
  partId : Nat

/-! ## The functions -/

/-- `set_partition`. -/
def setPartition (numSubparts : Option Nat) (partId : Nat) : CtcPart :=
  match numSubparts with
  | some n => ⟨partId / n, partId % n⟩
  | none => ⟨partId, invalidPartId⟩

/-- `reset_partition`. -/
def resetPartition : CtcPart := ⟨invalidPartId, invalidPartId⟩

/-- `check_error_code_to_mysql`: without foreign key checks two errors are none. -/
def checkErrorCodeToMysql (noForeignKeyCheck : Bool) (ret : Int) : Int :=
  if noForeignKeyCheck && (ret == 1128 || ret == 1123) then 0 else ret

namespace BulkEnv

variable {σ : Type} (env : BulkEnv σ)

/-- `m_cantian_rec_len`. -/
def recLen : Nat := (getCantianRecordLength env.table).toNat

/-- `m_max_batch_num`, as `ha_ctc::open` and `ha_ctcpart::open` leave it. -/
def maxBatchNum : Nat :=
  let num := min (bulkRecordSize / env.recLen) 4294967295
  if env.kind.isPartitioned then min num maxBulkInsertPartRows else num

/-- The request of `bulk_insert_low`. -/
def bulkRequest (buf : WriteBuffer) (h : BulkHandler σ) : BulkWriteRequest :=
  let recordLen := env.recLen % 65536
  { recordLen := recordLen
    recordNum := buf.count
    record := h.data.read 0 (recordLen * buf.count)
    partIds :=
      if env.kind.isPartitioned then some ((List.range buf.count).map h.parts) else none }

/-- Does the request fit into its structure? -/
def requestFits (buf : WriteBuffer) : Bool :=
  decide (env.recLen % 65536 * buf.count ≤ bulkRecordSize) &&
    (!env.kind.isPartitioned || decide (buf.count ≤ maxBulkInsertPartRows))

/-- `ctc_bulk_write`: its result and the handler after it. -/
def ctcBulkWrite (buf : WriteBuffer) (h : BulkHandler σ) : Int × BulkHandler σ :=
  if env.engine.allocShareMem h.engine then
    let req := env.bulkRequest buf h
    let reply := env.engine.dealFunc h.engine h.part req
    -- ERR_CONNECTION_FAILED
    (if reply.answered then reply.result else 4004,
      { h with engine := reply.engine, part := reply.part, sent := h.sent ++ [req] })
  else
    -- ERR_ALLOC_MEMORY
    (1, h)

/-- `bulk_insert`. -/
def bulkInsert (buf : WriteBuffer) (h : BulkHandler σ) : BulkResult σ :=
  if env.requestFits buf then
    let (ret, h) := env.ctcBulkWrite buf h
    match Ddl.convertCtcErrorCodeToMysql (checkErrorCodeToMysql env.stmt.noForeignKeyCheck ret) with
    | none => .ok h
    | some e => .error (.engine e, h)
  else .error (.failure (if env.build = .debug then .assertion else .undefined), h)

/-- `start_bulk_insert`; `allocated` says whether there is memory for `m_rec_buf_data`. -/
def startBulkInsert (rows : Nat) (allocated : Bool) (h : BulkHandler σ) : BulkHandler σ :=
  let stmt := env.stmt
  if stmt.ddlPassthru && (stmt.alterTableCopy || stmt.createTableCheck) then h
  else if rows == 1 || stmt.isInsertDup || stmt.isReplace || stmt.ignoreDup ||
      env.table.fields.any Field.isBlob || stmt.nextNumberField || !allocated then
    { h with buf := none, sent := [] }
  else { h with buf := some ⟨env.maxBatchNum, 0⟩, sent := [] }

/-- Sending the records when the buffer is full. -/
def flushIfFull (buf : WriteBuffer) (h : BulkHandler σ) :
    Except (WriteError × BulkHandler σ) (WriteBuffer × BulkHandler σ) :=
  if buf.count = buf.maxRecords then
    match env.bulkInsert buf h with
    | .error (e, h) => .error (e, { h with buf := none })
    | .ok h => .ok ({ buf with count := 0 }, { h with buf := some { buf with count := 0 } })
  else .ok (buf, h)

/-- Encoding a record into the next slot. -/
def addRow (record : MysqlRecord) (buf : WriteBuffer) (h : BulkHandler σ) : BulkResult σ :=
  let pos := env.recLen * buf.count
  -- memset(cur_write_pos, 0, sizeof(row_head_t))
  let slot := (h.data.shift pos).write 0 (List.replicate rowHeadSize 0)
  match mysqlRecordToCantianRecord env.build env.prims env.engine.lobs env.table record slot
      h.engine none with
  | .error f => .error (.encode f, { h with buf := some { buf with count := 0 } })
  | .ok out =>
    let h' := { h with
      buf := some { buf with count := buf.count + 1 }
      data := h.data.graft pos out.buf
      part := env.engine.lobPart out.lob h.part
      engine := out.lob }
    if env.build = .debug ∧ env.recLen < out.size then .error (.failure .assertion, h') else .ok h'

/-- `ha_ctc::write_row`, for a handler with a record buffer. -/
def writeRow (record : MysqlRecord) (h : BulkHandler σ) : BulkResult σ :=
  if env.stmt.ddlPassthru && env.stmt.createTableCheck then .ok h
  else
    match h.buf with
    | none => .error (.unbuffered, h)
    | some buf =>
      match env.flushIfFull buf h with
      | .error e => .error e
      | .ok (buf, h) => env.addRow record buf h

/-- `ha_ctcpart::write_row_in_part`. -/
def writeRowInPart (numSubparts : Option Nat) (call : WriteCall) (h : BulkHandler σ) :
    BulkResult σ :=
  match env.writeRow call.record { h with part := setPartition numSubparts call.partId } with
  | .error (e, h) => .error (e, { h with part := resetPartition })
  | .ok h =>
    match h.buf with
    | none => .ok { h with part := resetPartition }
    | some buf =>
      if buf.count = 0 then
        .error (.failure (if env.build = .debug then .assertion else .undefined), h)
      else
        .ok { h with
          parts := Function.update h.parts (buf.count - 1) h.part
          part := resetPartition }

/-- One row of the statement. -/
def writeOne (call : WriteCall) (h : BulkHandler σ) : BulkResult σ :=
  match env.kind with
  | .plain => env.writeRow call.record h
  | .partitioned numSubparts => env.writeRowInPart numSubparts call h

/-- The rows of the statement, up to the first that fails. -/
def writeAll : List WriteCall → BulkHandler σ → BulkResult σ
  | [], h => .ok h
  | call :: calls, h =>
    match env.writeOne call h with
    | .error e => .error e
    | .ok h => writeAll calls h

/-- `end_bulk_insert`. -/
def endBulkInsert (h : BulkHandler σ) : BulkResult σ :=
  if env.stmt.ddlPassthru && env.stmt.createTableCheck then .ok h
  else
    match h.buf with
    | none => .ok h
    | some buf =>
      if buf.count ≠ 0 then
        match env.bulkInsert buf h with
        | .error (e, h) => .error (e, { h with buf := none })
        | .ok h => .ok { h with buf := none }
      else .ok { h with buf := none }

/-! ## What is delivered -/

/-- Slot `i` of the buffer, with the part id noted for it. -/
def slotAt (h : BulkHandler σ) (i : Nat) : List UInt8 × Option CtcPart :=
  (h.data.read (env.recLen * i) env.recLen,
    if env.kind.isPartitioned then some (h.parts i) else none)

/-- The slots of the buffer. -/
def pending (h : BulkHandler σ) : List (List UInt8 × Option CtcPart) :=
  (List.range ((h.buf.map WriteBuffer.count).getD 0)).map (env.slotAt h)

/-- The slots that were handed over, sent or not. -/
def delivered (h : BulkHandler σ) : List (List UInt8 × Option CtcPart) :=
  h.sent.flatMap BulkWriteRequest.rows ++ env.pending h

/-- The encoder's result for the record of a call. -/
def Encodes (call : WriteCall) (row : EncodedRecord σ) : Prop :=
  ∃ slot lob, mysqlRecordToCantianRecord env.build env.prims env.engine.lobs env.table call.record
    slot lob none = .ok row

/-- The part id that is set for a call. -/
def partOf (call : WriteCall) : Option CtcPart :=
  match env.kind with
  | .plain => none
  | .partitioned numSubparts => some (setPartition numSubparts call.partId)

/-- The slot of a call: the first `m_cantian_rec_len` bytes from the start of its row, and its
part id. -/
def slotOf (call : WriteCall) (row : EncodedRecord σ) : List UInt8 × Option CtcPart :=
  (row.buf.read 0 env.recLen, env.partOf call)

/-- The tables whose rows can be inserted in bulk: the server and `create` have accepted them. -/
structure Insertable : Prop where
  supported : env.table.Supported
  recLen_le : getCantianRecordLength env.table ≤ maxSupportedRecordLength
  noBlob : ∀ f ∈ env.table.fields, f.isBlob = false

/-- The handler while the record buffer is `buf`. -/
structure Buffered (h : BulkHandler σ) (buf : WriteBuffer) : Prop where
  buf_eq : h.buf = some buf
  max : buf.maxRecords = env.maxBatchNum
  count_le : buf.count ≤ env.maxBatchNum
  sent : ∀ req ∈ h.sent, req.recordLen = env.recLen ∧ req.recordNum ≤ env.maxBatchNum

end BulkEnv

/-! ## Flushing -/

namespace BulkEnv

variable {σ : Type} {env : BulkEnv σ} {h h' : BulkHandler σ} {buf buf' : WriteBuffer}

theorem Insertable.recLen_bounds (hins : env.Insertable) :
    8 ≤ env.recLen ∧ env.recLen ≤ maxSupportedRecordLength ∧
      (env.recLen : Int) = getCantianRecordLength env.table := by
  have hlen := getCantianRecordLength_eq env.table
  have hle := hins.recLen_le
  unfold recLen
  unfold rowHeadSize at hlen
  omega

theorem Insertable.maxBatchNum_pos (hins : env.Insertable) : 0 < env.maxBatchNum := by
  obtain ⟨hpos, hle, -⟩ := hins.recLen_bounds
  have hdiv : 0 < bulkRecordSize / env.recLen := by
    apply Nat.div_pos
    · unfold maxSupportedRecordLength at hle
      unfold bulkRecordSize
      omega
    · omega
  unfold maxBatchNum maxBulkInsertPartRows
  dsimp only
  split <;> omega

/-- The request holds the slots of the buffer. -/
theorem bulkRequest_rows (hins : env.Insertable) :
    (env.bulkRequest buf h).rows = (List.range buf.count).map (env.slotAt h) := by
  obtain ⟨-, hle, -⟩ := hins.recLen_bounds
  have hmod : env.recLen % 65536 = env.recLen :=
    Nat.mod_eq_of_lt (by unfold maxSupportedRecordLength at hle; omega)
  refine List.map_congr_left ?_
  intro i hi
  have hlt : i < buf.count := List.mem_range.mp hi
  have hslot : env.recLen * i + env.recLen ≤ env.recLen * buf.count := by
    rw [← Nat.mul_succ]
    exact Nat.mul_le_mul_left _ hlt
  unfold slotAt
  simp only [bulkRequest, hmod]
  refine Prod.ext ?_ ?_
  · rw [Mem.drop_read _ _ (by omega), Mem.take_read _ _ (by omega), Nat.zero_add]
  · cases env.kind.isPartitioned with
    | false => rfl
    | true => simp [hlt]

/-- A flush that succeeds has sent the buffer and changed nothing else. -/
theorem bulkInsert_ok (hrun : env.bulkInsert buf h = .ok h') :
    h'.sent = h.sent ++ [env.bulkRequest buf h] ∧ h'.buf = h.buf ∧ h'.data = h.data ∧
      h'.parts = h.parts ∧ (env.engine.KeepsPart → h'.part = h.part) := by
  unfold bulkInsert at hrun
  by_cases hfits : env.requestFits buf = true
  · rw [if_pos hfits] at hrun
    unfold ctcBulkWrite at hrun
    cases halloc : env.engine.allocShareMem h.engine with
    | false =>
      -- an error of the allocation is never ignored
      simp only [halloc, Bool.false_eq_true, if_false] at hrun
      cases hcheck : env.stmt.noForeignKeyCheck <;> rw [hcheck] at hrun <;> cases hrun
    | true =>
      simp only [halloc, if_true] at hrun
      split at hrun
      · cases hrun
        exact ⟨rfl, rfl, rfl, rfl, fun hkeep => hkeep.deal _ _ _⟩
      · cases hrun
  · rw [if_neg hfits] at hrun
    cases hrun

/-- A batch fits its request, so that only the engine can refuse it. -/
theorem bulkInsert_error {e : WriteError} (hins : env.Insertable) (hbuf : env.Buffered h buf)
    (hrun : env.bulkInsert buf h = .error (e, h')) : ∃ error, e = .engine error := by
  obtain ⟨hpos, hle, -⟩ := hins.recLen_bounds
  have hcount := hbuf.count_le
  have hfits : env.requestFits buf = true := by
    have hmod : env.recLen % 65536 = env.recLen :=
      Nat.mod_eq_of_lt (by unfold maxSupportedRecordLength at hle; omega)
    have hbatch : env.maxBatchNum ≤ bulkRecordSize / env.recLen := by
      unfold maxBatchNum
      dsimp only
      split <;> omega
    have hbytes : env.recLen * buf.count ≤ bulkRecordSize :=
      (Nat.mul_le_mul_left _ (hcount.trans hbatch)).trans (Nat.mul_div_le _ _)
    unfold requestFits
    rw [hmod, decide_eq_true hbytes, Bool.true_and]
    cases hkind : env.kind.isPartitioned with
    | false => rfl
    | true =>
      have hparts : buf.count ≤ maxBulkInsertPartRows := by
        unfold maxBatchNum at hcount
        simp only [hkind, if_true] at hcount
        omega
      simpa using hparts
  unfold bulkInsert at hrun
  rw [if_pos hfits] at hrun
  dsimp only at hrun
  split at hrun
  · cases hrun
  · cases hrun
    exact ⟨_, rfl⟩

/-- After a flush the buffer has room, and nothing was lost or doubled. -/
theorem flushIfFull_ok (hins : env.Insertable) (hbuf : env.Buffered h buf)
    (hrun : env.flushIfFull buf h = .ok (buf', h')) :
    env.Buffered h' buf' ∧ buf'.count < env.maxBatchNum ∧ env.delivered h' = env.delivered h ∧
      (env.engine.KeepsPart → h'.part = h.part) := by
  unfold flushIfFull at hrun
  by_cases hfull : buf.count = buf.maxRecords
  · rw [if_pos hfull] at hrun
    cases hflush : env.bulkInsert buf h with
    | error e =>
      rw [hflush] at hrun
      cases hrun
    | ok h1 =>
      rw [hflush] at hrun
      cases hrun
      obtain ⟨hsent, -, -, -, hpart⟩ := bulkInsert_ok hflush
      refine ⟨⟨rfl, hbuf.max, Nat.zero_le _, ?_⟩, hins.maxBatchNum_pos, ?_, hpart⟩
      · intro req hreq
        simp only [hsent, List.mem_append, List.mem_singleton] at hreq
        rcases hreq with hreq | rfl
        · exact hbuf.sent req hreq
        · obtain ⟨-, hle, -⟩ := hins.recLen_bounds
          unfold maxSupportedRecordLength at hle
          exact ⟨Nat.mod_eq_of_lt (by omega), hbuf.count_le⟩
      · have hempty : env.pending { h1 with buf := some { buf with count := 0 } } = [] := rfl
        unfold delivered
        rw [hempty, List.append_nil]
        simp only [hsent, List.flatMap_append, List.flatMap_singleton, bulkRequest_rows hins]
        unfold pending
        rw [hbuf.buf_eq]
        rfl
  · rw [if_neg hfull] at hrun
    cases hrun
    have hle := hbuf.count_le
    have hmax := hbuf.max
    exact ⟨hbuf, by omega, rfl, fun _ => rfl⟩

/-! ## Adding a row -/

/-- A row that was encoded into a slot of the buffer. -/
structure AddsRow (env : BulkEnv σ) (h : BulkHandler σ) (buf : WriteBuffer) (row : EncodedRecord σ)
    (h' : BulkHandler σ) : Prop where
  size_le : row.size ≤ env.recLen
  buf_eq : h'.buf = some { buf with count := buf.count + 1 }
  before : ∀ i, i < buf.count →
    h'.data.read (env.recLen * i) env.recLen = h.data.read (env.recLen * i) env.recLen
  slot : h'.data.read (env.recLen * buf.count) env.recLen = row.buf.read 0 env.recLen
  parts : h'.parts = h.parts
  sent : h'.sent = h.sent

theorem addRow_ok {contents : σ → List UInt8 → Option (List UInt8)}
    (hlaw : env.engine.lobs.Lawful contents) (hins : env.Insertable) {call : WriteCall}
    (hrecord : call.record.Of env.table) (hrun : env.addRow call.record buf h = .ok h') :
    ∃ row, env.Encodes call row ∧ AddsRow env h buf row h' ∧
      (env.engine.KeepsPart → h'.part = h.part) := by
  obtain ⟨-, -, hlen⟩ := hins.recLen_bounds
  unfold addRow at hrun
  dsimp only at hrun
  split at hrun
  · cases hrun
  · rename_i row hencode
    split at hrun
    · cases hrun
    · cases hrun
      obtain ⟨hsize, -⟩ := encodedRecord_le_recordLength hlaw hins.supported hins.noBlob hrecord
        (fun ids hids => by cases hids) hencode
      refine ⟨row, ⟨_, _, hencode⟩, ⟨by omega, rfl, ?_, ?_, rfl, rfl⟩, fun hkeep => hkeep.lob _ _⟩
      · intro i hi
        apply Mem.read_graft_before
        rw [← Nat.mul_succ]
        exact Nat.mul_le_mul_left _ hi
      · exact Mem.read_graft_self _ _ _

/-- The part id of the new row is noted afterwards. -/
structure NotesPart (buf : WriteBuffer) (h' g : BulkHandler σ) : Prop where
  buf_eq : g.buf = h'.buf
  data : g.data = h'.data
  sent : g.sent = h'.sent
  parts : ∀ i, i < buf.count → g.parts i = h'.parts i

theorem AddsRow.delivered {row : EncodedRecord σ} {g : BulkHandler σ}
    (hadd : AddsRow env h buf row h') (hbuf : env.Buffered h buf) (hnote : NotesPart buf h' g) :
    env.delivered g = env.delivered h ++
      [(row.buf.read 0 env.recLen,
        if env.kind.isPartitioned then some (g.parts buf.count) else none)] := by
  have hslots : (List.range buf.count).map (env.slotAt g) =
      (List.range buf.count).map (env.slotAt h) := by
    refine List.map_congr_left ?_
    intro i hi
    have hlt := List.mem_range.mp hi
    unfold slotAt
    rw [hnote.data, hadd.before i hlt, hnote.parts i hlt, hadd.parts]
  have hnew : env.slotAt g buf.count = (row.buf.read 0 env.recLen,
      if env.kind.isPartitioned then some (g.parts buf.count) else none) := by
    unfold slotAt
    rw [hnote.data, hadd.slot]
  unfold BulkEnv.delivered pending
  rw [hnote.sent, hadd.sent, hnote.buf_eq, hadd.buf_eq, hbuf.buf_eq]
  simp only [Option.map_some, Option.getD_some]
  rw [List.range_succ, List.map_append, hslots, List.map_singleton, hnew, List.append_assoc]

theorem AddsRow.buffered {row : EncodedRecord σ} {g : BulkHandler σ}
    (hadd : AddsRow env h buf row h') (hbuf : env.Buffered h buf)
    (hroom : buf.count < env.maxBatchNum) (hnote : NotesPart buf h' g) :
    env.Buffered g { buf with count := buf.count + 1 } := by
  refine ⟨hnote.buf_eq.trans hadd.buf_eq, hbuf.max, hroom, ?_⟩
  intro req hreq
  rw [hnote.sent, hadd.sent] at hreq
  exact hbuf.sent req hreq

/-- `write_row` flushes a full buffer and adds the row. -/
theorem writeRow_ok {contents : σ → List UInt8 → Option (List UInt8)}
    (hlaw : env.engine.lobs.Lawful contents) (hins : env.Insertable)
    (hpass : (env.stmt.ddlPassthru && env.stmt.createTableCheck) = false)
    (hbuf : env.Buffered h buf) {call : WriteCall} (hrecord : call.record.Of env.table)
    (hrun : env.writeRow call.record h = .ok h') :
    ∃ h1 buf1 row, env.Buffered h1 buf1 ∧ buf1.count < env.maxBatchNum ∧
      env.delivered h1 = env.delivered h ∧ env.Encodes call row ∧ AddsRow env h1 buf1 row h' ∧
      (env.engine.KeepsPart → h'.part = h.part) := by
  unfold writeRow at hrun
  rw [hpass, if_neg Bool.false_ne_true, hbuf.buf_eq] at hrun
  dsimp only at hrun
  split at hrun
  · cases hrun
  · rename_i buf1 h1 hflush
    obtain ⟨hbuf1, hroom, hsame, hpart1⟩ := flushIfFull_ok hins hbuf hflush
    obtain ⟨row, hencodes, hadd, hpart⟩ := addRow_ok hlaw hins hrecord hrun
    exact ⟨h1, buf1, row, hbuf1, hroom, hsame, hencodes, hadd,
      fun hkeep => (hpart hkeep).trans (hpart1 hkeep)⟩

/-- **One row:** its slot is added at the end of what is delivered, with its part id. -/
theorem writeOne_ok {contents : σ → List UInt8 → Option (List UInt8)}
    (hlaw : env.engine.lobs.Lawful contents)
    (hkeep : env.kind.isPartitioned = true → env.engine.KeepsPart) (hins : env.Insertable)
    (hpass : (env.stmt.ddlPassthru && env.stmt.createTableCheck) = false)
    (hbuf : env.Buffered h buf) {call : WriteCall} (hrecord : call.record.Of env.table)
    (hrun : env.writeOne call h = .ok h') :
    ∃ buf' row, env.Buffered h' buf' ∧ env.Encodes call row ∧ row.size ≤ env.recLen ∧
      env.delivered h' = env.delivered h ++ [env.slotOf call row] := by
  unfold writeOne at hrun
  cases hkind : env.kind with
  | plain =>
    rw [hkind] at hrun
    obtain ⟨h1, buf1, row, hbuf1, hroom, hsame, hencodes, hadd, -⟩ :=
      writeRow_ok hlaw hins hpass hbuf hrecord hrun
    have hnote : NotesPart buf1 h' h' := ⟨rfl, rfl, rfl, fun _ _ => rfl⟩
    refine ⟨_, row, hadd.buffered hbuf1 hroom hnote, hencodes, hadd.size_le, ?_⟩
    rw [hadd.delivered hbuf1 hnote, hsame, slotOf, partOf, hkind]
    rfl
  | partitioned numSubparts =>
    rw [hkind] at hrun
    dsimp only at hrun
    unfold writeRowInPart at hrun
    split at hrun
    · cases hrun
    · rename_i h2 hwrite
      have hbuf0 : env.Buffered { h with part := setPartition numSubparts call.partId } buf :=
        ⟨hbuf.buf_eq, hbuf.max, hbuf.count_le, hbuf.sent⟩
      obtain ⟨h1, buf1, row, hbuf1, hroom, hsame, hencodes, hadd, hpart⟩ :=
        writeRow_ok hlaw hins hpass hbuf0 hrecord hwrite
      split at hrun
      · rename_i hnone
        rw [hadd.buf_eq] at hnone
        cases hnone
      · rename_i buf2 hbuf2
        obtain rfl := Option.some.inj (hbuf2.symm.trans hadd.buf_eq)
        rw [if_neg (Nat.succ_ne_zero _)] at hrun
        simp only [Nat.add_sub_cancel] at hrun
        cases hrun
        -- the part id is noted at the slot of the row just added
        have hnote : NotesPart buf1 h2 { h2 with
            parts := Function.update h2.parts buf1.count h2.part, part := resetPartition } :=
          ⟨rfl, rfl, rfl, fun i hi => Function.update_of_ne (by omega) _ _⟩
        refine ⟨_, row, hadd.buffered hbuf1 hroom hnote, hencodes, hadd.size_le, ?_⟩
        rw [hadd.delivered hbuf1 hnote, hsame]
        simp only [Function.update_self, hpart (hkeep (by rw [hkind]; rfl)), slotOf, partOf, hkind]
        rfl

/-! ## A statement -/

/-- **The rows of a statement:** their slots are added in the order of the calls. -/
theorem writeAll_ok {contents : σ → List UInt8 → Option (List UInt8)}
    (hlaw : env.engine.lobs.Lawful contents)
    (hkeep : env.kind.isPartitioned = true → env.engine.KeepsPart) (hins : env.Insertable)
    (hpass : (env.stmt.ddlPassthru && env.stmt.createTableCheck) = false) {calls : List WriteCall}
    (hrecords : ∀ call ∈ calls, call.record.Of env.table) (hbuf : env.Buffered h buf)
    (hrun : env.writeAll calls h = .ok h') :
    ∃ buf' rows, env.Buffered h' buf' ∧ List.Forall₂ env.Encodes calls rows ∧
      (∀ row ∈ rows, row.size ≤ env.recLen) ∧
      env.delivered h' = env.delivered h ++ List.zipWith env.slotOf calls rows := by
  induction calls generalizing h buf with
  | nil =>
    cases hrun
    exact ⟨buf, [], hbuf, .nil, by simp, by simp⟩
  | cons call calls ih =>
    rw [writeAll] at hrun
    split at hrun
    · cases hrun
    · rename_i h1 hone
      obtain ⟨buf1, row, hbuf1, hencodes, hsize, hdel⟩ :=
        writeOne_ok hlaw hkeep hins hpass hbuf (hrecords call (by simp)) hone
      obtain ⟨buf', rows, hbuf', hall, hsizes, hdel'⟩ :=
        ih (fun c hc => hrecords c (by simp [hc])) hbuf1 hrun
      refine ⟨buf', row :: rows, hbuf', .cons hencodes hall, ?_, ?_⟩
      · exact List.forall_mem_cons.mpr ⟨hsize, hsizes⟩
      · rw [hdel', hdel, List.zipWith_cons_cons, List.append_assoc]
        rfl

/-- At the end nothing is left in the buffer. -/
theorem endBulkInsert_ok (hins : env.Insertable)
    (hpass : (env.stmt.ddlPassthru && env.stmt.createTableCheck) = false)
    (hbuf : env.Buffered h buf) (hrun : env.endBulkInsert h = .ok h') :
    h'.sent.flatMap BulkWriteRequest.rows = env.delivered h ∧
      ∀ req ∈ h'.sent, req.recordLen = env.recLen ∧ req.recordNum ≤ env.maxBatchNum := by
  unfold endBulkInsert at hrun
  rw [hpass, if_neg Bool.false_ne_true, hbuf.buf_eq] at hrun
  dsimp only at hrun
  by_cases hcount : buf.count = 0
  · rw [if_neg (by simpa using hcount)] at hrun
    cases hrun
    refine ⟨?_, hbuf.sent⟩
    unfold delivered pending
    simp [hbuf.buf_eq, hcount]
  · rw [if_pos hcount] at hrun
    split at hrun
    · cases hrun
    · rename_i h1 hflush
      cases hrun
      obtain ⟨hsent, -⟩ := bulkInsert_ok hflush
      obtain ⟨-, hle, -⟩ := hins.recLen_bounds
      unfold maxSupportedRecordLength at hle
      refine ⟨?_, ?_⟩
      · unfold delivered pending
        simp only [hsent, List.flatMap_append, List.flatMap_singleton, bulkRequest_rows hins,
          hbuf.buf_eq, Option.map_some, Option.getD_some]
      · intro req hreq
        simp only [hsent, List.mem_append, List.mem_singleton] at hreq
        rcases hreq with hreq | rfl
        · exact hbuf.sent req hreq
        · exact ⟨Nat.mod_eq_of_lt (by omega), hbuf.count_le⟩

/-- A statement in bulk mode starts with an empty buffer. -/
theorem startBulkInsert_buffered {rows : Nat} {allocated : Bool} (hnone : h.buf = none)
    (hmode : (env.startBulkInsert rows allocated h).buf ≠ none) :
    (env.stmt.ddlPassthru && env.stmt.createTableCheck) = false ∧
      env.Buffered (env.startBulkInsert rows allocated h) ⟨env.maxBatchNum, 0⟩ ∧
      (∀ f ∈ env.table.fields, f.isBlob = false) ∧
      env.delivered (env.startBulkInsert rows allocated h) = [] := by
  unfold startBulkInsert at hmode ⊢
  dsimp only at hmode ⊢
  split at hmode
  · exact absurd hnone hmode
  · rename_i hpass
    split at hmode
    · exact absurd rfl hmode
    · rename_i hrows
      simp only [Bool.or_eq_true, not_or, Bool.not_eq_true] at hrows
      rw [if_neg hpass, if_neg (by simpa using hrows)]
      refine ⟨?_, ⟨rfl, rfl, Nat.zero_le _, by simp⟩, ?_, rfl⟩
      · cases hddl : env.stmt.ddlPassthru with
        | false => rfl
        | true =>
          rw [hddl] at hpass
          cases hcheck : env.stmt.createTableCheck with
          | false => rfl
          | true => simp [hcheck] at hpass
      · intro f hf
        have hany := List.any_eq_false.mp hrows.1.1.2 f hf
        simpa using hany

/-- **Bulk insert delivers every row once, in order and to its partition.** If no call of a
statement in bulk mode fails, the slots of the requests are those of the calls, one for each in
the order of the calls. A slot holds all bytes of its row and stands beside the part id that
was set for its call; no request has more rows than the buffer has slots. -/
theorem bulkInsert_delivers {contents : σ → List UInt8 → Option (List UInt8)}
    (hlaw : env.engine.lobs.Lawful contents)
    (hkeep : env.kind.isPartitioned = true → env.engine.KeepsPart)
    (htable : env.table.Supported)
    (hcreate : getCantianRecordLength env.table ≤ maxSupportedRecordLength) {count : Nat}
    {allocated : Bool} (hnone : h.buf = none)
    (hmode : (env.startBulkInsert count allocated h).buf ≠ none) {calls : List WriteCall}
    (hrecords : ∀ call ∈ calls, call.record.Of env.table) {h1 h2 : BulkHandler σ}
    (hwrite : env.writeAll calls (env.startBulkInsert count allocated h) = .ok h1)
    (hend : env.endBulkInsert h1 = .ok h2) :
    ∃ rows, List.Forall₂ env.Encodes calls rows ∧ (∀ row ∈ rows, row.size ≤ env.recLen) ∧
      h2.sent.flatMap BulkWriteRequest.rows = List.zipWith env.slotOf calls rows ∧
      ∀ req ∈ h2.sent, req.recordLen = env.recLen ∧ req.recordNum ≤ env.maxBatchNum := by
  obtain ⟨hpass, hstart, hblob, hempty⟩ := startBulkInsert_buffered hnone hmode
  have hins : env.Insertable := ⟨htable, hcreate, hblob⟩
  obtain ⟨buf', rows, hbuf', hall, hsizes, hdel⟩ :=
    writeAll_ok hlaw hkeep hins hpass hrecords hstart hwrite
  obtain ⟨hsent, hreqs⟩ := endBulkInsert_ok hins hpass hbuf' hend
  refine ⟨rows, hall, hsizes, ?_, hreqs⟩
  rw [hsent, hdel, hempty, List.nil_append]

end BulkEnv

/-! ### Three rows for two slots -/

/-- An engine that accepts every batch. -/
def acceptingEngine : BulkEngine Unit where
  lobs := .refusing
  lobPart := fun _ part => part
  allocShareMem := fun _ => true
  dealFunc := fun _ part _ => ⟨true, 0, (), part⟩

/-- `INSERT INTO t` for a table with a `VARCHAR(30000)` and two subpartitions in each partition:
65536 bytes hold two slots. -/
def longRowsEnv : BulkEnv Unit where
  build := .debug
  prims := .none
  table := ⟨[⟨"text", .varchar 30000, 1, none, .none, false, false⟩], 1⟩
  kind := .partitioned (some 2)
  engine := acceptingEngine
  stmt := ⟨false, false, false, false, false, false, false, false⟩

/-- A record with a text of one letter. -/
def letterRecord (letter : UInt8) : MysqlRecord := fun a =>
  .byte (([0, 1, 0, letter] : List UInt8).getD a 0)

/-- `'a'` for partition 0, `'b'` for 3 and `'c'` for 2. -/
def letterCalls : List WriteCall :=
  [⟨letterRecord 97, 0⟩, ⟨letterRecord 98, 3⟩, ⟨letterRecord 99, 2⟩]

def emptyHandler : BulkHandler Unit :=
  ⟨none, fun _ => 0, fun _ => resetPartition, resetPartition, (), []⟩

theorem bulkInsert_delivers_letters : ∃ h1 h2 rows,
    longRowsEnv.writeAll letterCalls (longRowsEnv.startBulkInsert 3 true emptyHandler) = .ok h1 ∧
      longRowsEnv.endBulkInsert h1 = .ok h2 ∧ h2.sent.map BulkWriteRequest.recordNum = [2, 1] ∧
      List.Forall₂ longRowsEnv.Encodes letterCalls rows ∧
      h2.sent.flatMap BulkWriteRequest.rows = List.zipWith longRowsEnv.slotOf letterCalls rows := by
  have htable : longRowsEnv.table.Supported := by
    refine ⟨⟨by decide, ?_⟩, by decide⟩
    intro f hf
    obtain rfl := List.mem_singleton.mp hf
    exact (by decide : 30000 < 65536)
  have hrecords : ∀ call ∈ letterCalls, call.record.Of longRowsEnv.table := by
    unfold MysqlRecord.Of
    decide
  obtain ⟨h1, hwrite⟩ : ∃ h1, longRowsEnv.writeAll letterCalls
      (longRowsEnv.startBulkInsert 3 true emptyHandler) = .ok h1 := ⟨_, rfl⟩
  have hfinish : ∃ h2, longRowsEnv.endBulkInsert h1 = .ok h2 ∧
      h2.sent.map BulkWriteRequest.recordNum = [2, 1] := by
    cases hwrite
    exact ⟨_, rfl, rfl⟩
  obtain ⟨h2, hend, hnums⟩ := hfinish
  obtain ⟨rows, hall, -, hrows, -⟩ := BulkEnv.bulkInsert_delivers LobStore.refusing_lawful
    (fun _ => ⟨fun _ _ => rfl, fun _ _ _ => rfl⟩) htable (by decide) rfl (by decide) hrecords
    hwrite hend
  exact ⟨h1, h2, rows, hwrite, hend, hnums, hall, hrows⟩

end CantianConnector.Handler
