import CantianConnector.Convert.RowHead
import CantianConnector.Index.Decode

/-!
# Decoding with the offsets of a prefetch

In single run mode a prefetched record comes with the offsets and lengths of its columns
(`record_info->offsets`, `record_info->lens`). `ctc_update_offset_single` then takes a column from
these arrays instead of walking over the record. If the arrays hold what the walk finds, both
decoders agree: for rows of a table (`decode_offsets_eq`) and for records of an index
(`index_decode_offsets_eq`).
-/

namespace CantianConnector.Convert

open Index

/-! ## The functions -/

/-- The arrays of `record_info_t`. -/
structure RecordInfo where
  offsets : Nat → Nat
  lens : Nat → Nat

/-- `ctc_update_offset_single` for a column that is not NULL. -/
def ctcUpdateOffsetSingle (info : RecordInfo) (isIndexOnly : Bool) (colId : Nat)
    (mysqlInfo : FieldCnvrtAux) (field : Field) (bits : ColBits) (buf : Mem UInt8) : ParsedColumn :=
  let fieldLen := info.lens colId
  let offset := info.offsets colId
  match bits with
  | .four | .eight => ⟨fieldLen, 0, offset, []⟩
  | _ =>
    let len :=
      if !isIndexOnly && ctcFieldTypeIsLob mysqlInfo field then
        lobHeadSize (buf.read offset lobLocatorSize)
      else fieldLen
    ⟨fieldLen, 0, offset, paddingVariableByte mysqlInfo field len⟩

section

variable {σ : Type} (build : Build) (prims : ServerPrims) (store : LobStore σ) (info : RecordInfo)

/-- `convert_cantian_field_to_mysql_field`, for a row that comes with `info`. -/
def convertFieldSingle (ctx : ReadCtx) (field : Field) (columnId colId : Nat) (bits : ColBits)
    (lob : σ) (buf : Mem UInt8) (record : MysqlRecord) : Result MysqlRecord :=
  match getAuxiliaryForFieldConvert field field.columnType.type with
  | none => do
    cAssert build false
    .error .undefined
  | some mysqlInfo =>
    if bits = .null then record.setNull field
    else
      let col := ctcUpdateOffsetSingle info false colId mysqlInfo field bits buf
      let record := record.writeBytes field.offset col.head
      copyColumnDataToMysql build prims store ctx mysqlInfo field columnId lob
        (buf.shift col.cantianOffset) col.fieldLen record (field.offset + col.head.length)

/-- One round of the loop of `cantian_record_to_mysql_record`: the virtual columns so far, and the
record. -/
def decodeStepSingle (ctx : ReadCtx) (table : Table) (lob : σ) (buf : Mem UInt8) (columnId : Nat)
    (virtualGcolCnt : Nat) (record : MysqlRecord) : Result (Nat × MysqlRecord) :=
  match table.fields[columnId]? with
  | none => .error .undefined
  | some field =>
    if field.isVirtualGcol then .ok (virtualGcolCnt + 1, record)
    else do
      let colId := columnId - virtualGcolCnt
      let bits :=
        if headColumnCount buf ≤ colId then ColBits.null else .ofCode (rowGetColumnBits2 buf colId)
      let record ← convertFieldSingle build prims store info ctx field columnId colId bits lob buf record
      return (virtualGcolCnt, record)

def decodeLoopSingle (ctx : ReadCtx) (table : Table) (lob : σ) (buf : Mem UInt8) :
    Nat → Nat → Nat → MysqlRecord → Result MysqlRecord
  | 0, _, _, record => .ok record
  | fuel + 1, columnId, virtualGcolCnt, record =>
    if ctx.maxColIdx < columnId then .ok record
    else do
      let next ← decodeStepSingle build prims store info ctx table lob buf columnId virtualGcolCnt record
      decodeLoopSingle ctx table lob buf fuel (columnId + 1) next.1 next.2

/-- `cantian_record_to_mysql_record`, for a row that comes with `info`. -/
def cantianRecordToMysqlRecordSingle (ctx : ReadCtx) (table : Table) (lob : σ) (buf : Mem UInt8)
    (record : MysqlRecord) : Result MysqlRecord := do
  cAssert build (!headIsCsf buf)
  cAssert build (headColumnCount buf != 0)
  let record := record.writeBytes 0 (List.replicate table.nullBytes 0)
  decodeLoopSingle build prims store info ctx table lob buf table.fields.length 0 0 record

variable (ctx : ReadCtx) (lob : σ) (buf : Mem UInt8)

/-- One round of the loop of `cantian_index_record_to_mysql_record`: the read set and the record. -/
def indexDecodeStepSingle (part : IndexColumn) (keyId : Nat) (readSet : Nat → Bool)
    (record : MysqlRecord) : Result ((Nat → Bool) × MysqlRecord) :=
  match getAuxiliaryForFieldConvert part.field part.field.columnType.type with
  | none => do
    cAssert build false
    .error .undefined
  | some mysqlInfo =>
    let bits := ColBits.ofCode (rowGetColumnBits2 buf keyId)
    if bits = .null then do
      let record ← record.setNull part.field
      return (readSet, record)
    else do
      let col := ctcUpdateOffsetSingle info true keyId mysqlInfo part.field bits buf
      let record := record.writeBytes part.field.offset col.head
      let done ← copyIndexColumnToMysql build prims store { ctx with readSet := readSet } mysqlInfo
        part.field part.fieldIndex lob (buf.shift col.cantianOffset) col.fieldLen record
        (part.field.offset + col.head.length)
      return (done.2, done.1)

def indexDecodeLoopSingle :
    List IndexColumn → Nat → (Nat → Bool) → MysqlRecord → Result MysqlRecord
  | [], _, _, record => .ok record
  | part :: rest, keyId, readSet, record => do
    let next ← indexDecodeStepSingle build prims store info ctx lob buf part keyId readSet record
    if part.fieldIndex = ctx.maxColIdx then return next.2
    else indexDecodeLoopSingle rest (keyId + 1) next.1 next.2

/-- `cantian_index_record_to_mysql_record`, for a record that comes with `info`. -/
def cantianIndexRecordToMysqlRecordSingle (nullBytes : Nat) (parts : List IndexColumn)
    (record : MysqlRecord) : Result MysqlRecord :=
  indexDecodeLoopSingle build prims store info ctx lob buf parts 0 ctx.readSet
    (record.writeBytes 0 (List.replicate nullBytes 0))

end

/-! ## What the walk finds -/

/-- Where the data of a stored column is, how long it is, and where the next column is. -/
structure Found where
  offset : Nat
  fieldLen : Nat
  next : Nat

/-- A column of a row at `offset`. -/
def findColumn (bits : ColBits) (buf : Mem UInt8) (offset : Nat) : Found :=
  match bits with
  | .null => ⟨offset, 0, offset⟩
  | .four => ⟨offset, 4, offset + 4⟩
  | .eight => ⟨offset, 8, offset + 8⟩
  | .var =>
    let fieldLen := Bytes.ofLe (buf.read offset 2)
    ⟨offset + 2, fieldLen, offset + 2 + (roundUp4 (fieldLen + 2) - 2) % 65536⟩

/-- The bits of the column `colId` of a row; a column that the row does not have is NULL. -/
def columnBits (buf : Mem UInt8) (colId : Nat) : ColBits :=
  if headColumnCount buf ≤ colId then .null else .ofCode (rowGetColumnBits2 buf colId)

/-- The offset of the column `colId`. -/
def columnOffset (buf : Mem UInt8) : Nat → Nat
  | 0 => rowHeadSize + colBitmapExSize (headColumnCount buf) + if headIsMigr buf then 8 else 0
  | colId + 1 => (findColumn (columnBits buf colId) buf (columnOffset buf colId)).next

/-- The arrays hold where the data of the columns of a row is. -/
def RecordInfo.Describes (info : RecordInfo) (buf : Mem UInt8) : Prop :=
  ∀ colId, columnBits buf colId ≠ .null →
    info.offsets colId = (findColumn (columnBits buf colId) buf (columnOffset buf colId)).offset ∧
    info.lens colId = (findColumn (columnBits buf colId) buf (columnOffset buf colId)).fieldLen

/-- A part of an index record at `offset`; a decimal is stored without its length. -/
def findPart (tmpTable : Bool) (part : IndexColumn) (bits : ColBits) (buf : Mem UInt8)
    (offset : Nat) : Found :=
  if bits = .var ∧ tmpTable = false ∧
      (getAuxiliaryForFieldConvert part.field part.field.columnType.type).any
        (·.mysqlFieldType == .newDecimal) then
    let fieldLen := cmDec4StorSz (Dec4.ofMem (buf.shift offset))
    ⟨offset, fieldLen, offset + roundUp4 fieldLen⟩
  else findColumn bits buf offset

/-- The arrays hold where the data of the parts of an index record is, from part `keyId` on. -/
def RecordInfo.DescribesParts (info : RecordInfo) (tmpTable : Bool) (buf : Mem UInt8) :
    List IndexColumn → Nat → Nat → Prop
  | [], _, _ => True
  | part :: rest, keyId, offset =>
    let bits := ColBits.ofCode (rowGetColumnBits2 buf keyId)
    let found := findPart tmpTable part bits buf offset
    (bits ≠ .null → info.offsets keyId = found.offset ∧ info.lens keyId = found.fieldLen) ∧
      info.DescribesParts tmpTable buf rest (keyId + 1) found.next

/-! ## Rows of a table -/

section

variable {σ : Type} {build : Build} {prims : ServerPrims} {store : LobStore σ} {info : RecordInfo}
  {ctx : ReadCtx} {table : Table} {lob : σ} {buf : Mem UInt8}

/-- A column is taken from the arrays as from the row. -/
theorem ctcUpdateOffsetSingle_eq {bits : ColBits} {colId offset : Nat} (hbits : bits ≠ .null)
    (hoffset : info.offsets colId = (findColumn bits buf offset).offset)
    (hlen : info.lens colId = (findColumn bits buf offset).fieldLen) (mysqlInfo : FieldCnvrtAux)
    (field : Field) :
    ctcUpdateOffsetSingle info false colId mysqlInfo field bits buf =
        { ctcParseCantianColumn mysqlInfo field bits buf offset with alignedFieldLen := 0 } ∧
      (ctcParseCantianColumn mysqlInfo field bits buf offset).cantianOffset +
        (ctcParseCantianColumn mysqlInfo field bits buf offset).alignedFieldLen =
          (findColumn bits buf offset).next := by
  cases bits with
  | null => exact absurd rfl hbits
  | _ => simp [ctcUpdateOffsetSingle, ctcParseCantianColumn, hoffset, hlen, findColumn]

theorem convertField_eq_single {bits : ColBits} {colId offset : Nat}
    (hinfo : bits ≠ .null → info.offsets colId = (findColumn bits buf offset).offset ∧
      info.lens colId = (findColumn bits buf offset).fieldLen)
    (field : Field) (columnId : Nat) (record : MysqlRecord) :
    convertCantianFieldToMysqlField build prims store ctx field columnId bits lob buf offset record =
      (convertFieldSingle build prims store info ctx field columnId colId bits lob buf record).map
        fun record => (record, (findColumn bits buf offset).next) := by
  unfold convertCantianFieldToMysqlField convertFieldSingle
  cases getAuxiliaryForFieldConvert field field.columnType.type with
  | none => cases build <;> rfl
  | some mysqlInfo =>
    by_cases hbits : bits = .null
    · rw [hbits]
      dsimp only
      rw [if_pos rfl, if_pos rfl]
      cases record.setNull field <;> rfl
    · obtain ⟨hcol, hnext⟩ := ctcUpdateOffsetSingle_eq hbits (hinfo hbits).1 (hinfo hbits).2 mysqlInfo field
      dsimp only
      rw [if_neg hbits, if_neg hbits, hcol, ← hnext]
      unfold convertCantianValue
      dsimp only
      generalize copyColumnDataToMysql build prims store ctx mysqlInfo field columnId lob _ _ _ _ =
        copied
      cases copied <;> rfl

/-- One round, at the offset of the column. -/
theorem decodeStep_eq_single (hinfo : info.Describes buf) {columnId : Nat} {st : DecodeState}
    (hcnt : st.virtualGcolCnt ≤ columnId)
    (hoffset : st.cantianFieldOffset = columnOffset buf (columnId - st.virtualGcolCnt)) :
    decodeStep build prims store ctx table lob buf columnId st =
      (decodeStepSingle build prims store info ctx table lob buf columnId st.virtualGcolCnt
        st.record).map fun next =>
          ⟨next.1, columnOffset buf (columnId + 1 - next.1), next.2⟩ := by
  unfold decodeStep decodeStepSingle
  cases table.fields[columnId]? with
  | none => rfl
  | some field =>
    dsimp only
    split
    · have hsame : columnOffset buf (columnId + 1 - (st.virtualGcolCnt + 1)) =
          st.cantianFieldOffset := by
        rw [Nat.add_sub_add_right, hoffset]
      simp only [Except.map, hsame]
    · have hnext : columnOffset buf (columnId + 1 - st.virtualGcolCnt) =
          (findColumn (columnBits buf (columnId - st.virtualGcolCnt)) buf
            st.cantianFieldOffset).next := by
        rw [Nat.sub_add_comm hcnt, columnOffset, hoffset]
      have hfound := hinfo (columnId - st.virtualGcolCnt)
      rw [← hoffset] at hfound
      have hconvert := @convertField_eq_single σ build prims store info ctx lob buf _
        (columnId - st.virtualGcolCnt) st.cantianFieldOffset hfound field columnId st.record
      unfold columnBits at hconvert hnext
      rw [hconvert]
      cases convertFieldSingle build prims store info ctx field columnId _ _ lob buf st.record with
      | error e => rfl
      | ok record => simp only [Except.map, result_bind_ok, result_pure, hnext]

/-- The count of virtual columns stays behind the columns. -/
theorem decodeStepSingle_cnt {columnId virtualGcolCnt : Nat} {record : MysqlRecord}
    {next : Nat × MysqlRecord} (hcnt : virtualGcolCnt ≤ columnId)
    (h : decodeStepSingle build prims store info ctx table lob buf columnId virtualGcolCnt record =
      .ok next) : next.1 ≤ columnId + 1 := by
  unfold decodeStepSingle at h
  cases hfield : table.fields[columnId]? with
  | none =>
    rw [hfield] at h
    cases h
  | some field =>
    rw [hfield] at h
    dsimp only at h
    split at h
    · cases h
      exact Nat.succ_le_succ hcnt
    · obtain ⟨record', -, h⟩ := result_bind_eq_ok.mp h
      cases h
      exact Nat.le_succ_of_le hcnt

theorem decodeLoop_eq_single (hinfo : info.Describes buf) (fuel : Nat) {columnId : Nat}
    {st : DecodeState} (hcnt : st.virtualGcolCnt ≤ columnId)
    (hoffset : st.cantianFieldOffset = columnOffset buf (columnId - st.virtualGcolCnt)) :
    (decodeLoop build prims store ctx table lob buf fuel columnId st).map (·.record) =
      decodeLoopSingle build prims store info ctx table lob buf fuel columnId st.virtualGcolCnt
        st.record := by
  induction fuel generalizing columnId st with
  | zero => rfl
  | succ fuel ih =>
    unfold decodeLoop decodeLoopSingle
    split
    · rfl
    · rw [decodeStep_eq_single hinfo hcnt hoffset]
      cases hstep : decodeStepSingle build prims store info ctx table lob buf columnId
          st.virtualGcolCnt st.record with
      | error e => rfl
      | ok next => exact ih (decodeStepSingle_cnt hcnt hstep) rfl

/-- **Rows with offsets.** If the arrays hold what the walk over the row finds, the decoder that uses
them does the same as the one that walks, for every table, read set and row, also where it fails. -/
theorem decode_offsets_eq (hinfo : info.Describes buf) (record : MysqlRecord) :
    cantianRecordToMysqlRecordSingle build prims store info ctx table lob buf record =
      cantianRecordToMysqlRecord build prims store ctx table lob buf record := by
  unfold cantianRecordToMysqlRecordSingle cantianRecordToMysqlRecord
  congr 1
  funext _
  congr 1
  funext _
  have hloop := @decodeLoop_eq_single σ build prims store info ctx table lob buf hinfo
    table.fields.length 0 ⟨0, columnOffset buf 0, record.writeBytes 0 (List.replicate table.nullBytes 0)⟩
    (Nat.le_refl 0) rfl
  dsimp only
  rw [← hloop]
  unfold columnOffset
  generalize decodeLoop build prims store ctx table lob buf table.fields.length 0 _ = decoded
  cases decoded <;> rfl

end

/-- A table with a number and a short text. -/
def shortTable : Table :=
  ⟨[⟨"id", .long false, 1, none, .none, false, false⟩,
    ⟨"name", .varchar 20, 5, none, .none, false, false⟩], 1⟩

/-- The row `(7, 'hi')`. -/
def shortRow : Mem UInt8 :=
  Mem.write (fun _ => 0) 0 [16, 0, 2, 0, 0, 13, 0, 0, 7, 0, 0, 0, 2, 0, 0x68, 0x69]

/-- The arrays that come with it. -/
def shortInfo : RecordInfo := ⟨fun c => if c = 0 then 8 else 14, fun c => if c = 0 then 4 else 2⟩

theorem shortInfo_describes : shortInfo.Describes shortRow := by
  have hcount : headColumnCount shortRow = 2 := by decide
  intro colId hbits
  match colId with
  | 0 => decide
  | 1 => decide
  | colId + 2 =>
    apply absurd _ hbits
    rw [columnBits, hcount, if_pos (Nat.le_add_left 2 colId)]

theorem decode_offsets_eq_short :
    cantianRecordToMysqlRecordSingle .debug .none .refusing shortInfo ⟨fun _ => true, true, false, 9⟩
        shortTable () shortRow (fun _ => .byte 0) =
      cantianRecordToMysqlRecord .debug .none .refusing ⟨fun _ => true, true, false, 9⟩ shortTable ()
        shortRow fun _ => .byte 0 :=
  decode_offsets_eq shortInfo_describes _

example : ((cantianRecordToMysqlRecordSingle .debug .none .refusing shortInfo
    ⟨fun _ => true, true, false, 9⟩ shortTable () shortRow fun _ => .byte 0).map
      fun record => record.readBytes 0 8) = .ok [0, 7, 0, 0, 0, 2, 0x68, 0x69] := by
  decide

/-! ## Records of an index -/

section

variable {σ : Type} {build : Build} {prims : ServerPrims} {store : LobStore σ} {info : RecordInfo}
  {tmpTable : Bool} {ctx : ReadCtx} {lob : σ} {buf : Mem UInt8}

/-- A part is taken from the arrays as from the record. -/
theorem ctcUpdateOffsetSingle_part_eq {part : IndexColumn} {mysqlInfo : FieldCnvrtAux}
    {bits : ColBits} {keyId offset : Nat} (hbits : bits ≠ .null)
    (haux : getAuxiliaryForFieldConvert part.field part.field.columnType.type = some mysqlInfo)
    (hoffset : info.offsets keyId = (findPart tmpTable part bits buf offset).offset)
    (hlen : info.lens keyId = (findPart tmpTable part bits buf offset).fieldLen) :
    ctcUpdateOffsetSingle info true keyId mysqlInfo part.field bits buf =
        { ctcParseIndexColumn tmpTable mysqlInfo part.field bits buf offset with
          alignedFieldLen := 0 } ∧
      (ctcParseIndexColumn tmpTable mysqlInfo part.field bits buf offset).cantianOffset +
        (ctcParseIndexColumn tmpTable mysqlInfo part.field bits buf offset).alignedFieldLen =
          (findPart tmpTable part bits buf offset).next := by
  unfold findPart at hoffset hlen ⊢
  rw [haux, Option.any_some] at hoffset hlen ⊢
  cases bits with
  | null => exact absurd rfl hbits
  | four | eight =>
    rw [if_neg (fun h => absurd h.1 (by decide))] at hoffset hlen ⊢
    simp [ctcUpdateOffsetSingle, ctcParseIndexColumn, hoffset, hlen, findColumn]
  | var =>
    cases tmpTable with
    | true =>
      rw [if_neg (fun h => absurd h.2.1 (by decide))] at hoffset hlen ⊢
      simp [ctcUpdateOffsetSingle, ctcParseIndexColumn, hoffset, hlen, findColumn]
    | false =>
      by_cases hdec : (mysqlInfo.mysqlFieldType == FieldType.newDecimal) = true
      · rw [if_pos ⟨rfl, rfl, hdec⟩] at hoffset hlen ⊢
        simp [ctcUpdateOffsetSingle, ctcParseIndexColumn, hoffset, hlen, hdec]
      · rw [if_neg (fun h => hdec h.2.2)] at hoffset hlen ⊢
        simp [ctcUpdateOffsetSingle, ctcParseIndexColumn, hoffset, hlen, hdec, findColumn]

theorem indexDecodeStep_eq_single {part : IndexColumn} {keyId : Nat} {st : IndexDecodeState}
    (hinfo : ColBits.ofCode (rowGetColumnBits2 buf keyId) ≠ .null →
      info.offsets keyId = (findPart tmpTable part (.ofCode (rowGetColumnBits2 buf keyId)) buf
          st.cantianFieldOffset).offset ∧
        info.lens keyId = (findPart tmpTable part (.ofCode (rowGetColumnBits2 buf keyId)) buf
          st.cantianFieldOffset).fieldLen) :
    indexDecodeStep build prims store tmpTable ctx lob buf part keyId st =
      (indexDecodeStepSingle build prims store info ctx lob buf part keyId st.readSet
        st.record).map fun next =>
          ⟨next.1, (findPart tmpTable part (.ofCode (rowGetColumnBits2 buf keyId)) buf
            st.cantianFieldOffset).next, next.2⟩ := by
  unfold indexDecodeStep indexDecodeStepSingle
  cases haux : getAuxiliaryForFieldConvert part.field part.field.columnType.type with
  | none => cases build <;> rfl
  | some mysqlInfo =>
    dsimp only
    generalize ColBits.ofCode (rowGetColumnBits2 buf keyId) = bits at hinfo ⊢
    by_cases hbits : bits = .null
    · rw [hbits, if_pos rfl, if_pos rfl]
      have hnext : (findPart tmpTable part .null buf st.cantianFieldOffset).next =
          st.cantianFieldOffset := by
        unfold findPart
        rw [if_neg (fun h => nomatch h.1)]
        rfl
      rw [hnext]
      cases st.record.setNull part.field <;> rfl
    · obtain ⟨hcol, hnext⟩ :=
        ctcUpdateOffsetSingle_part_eq hbits haux (hinfo hbits).1 (hinfo hbits).2
      rw [if_neg hbits, if_neg hbits, hcol, ← hnext]
      unfold convertIndexValue
      dsimp only
      generalize copyIndexColumnToMysql build prims store _ mysqlInfo part.field part.fieldIndex lob
        _ _ _ _ = copied
      cases copied <;> rfl

theorem indexDecodeLoop_eq_single {parts : List IndexColumn} {keyId : Nat} {st : IndexDecodeState}
    (hinfo : info.DescribesParts tmpTable buf parts keyId st.cantianFieldOffset) :
    (indexDecodeLoop build prims store tmpTable ctx lob buf parts keyId st).map (·.record) =
      indexDecodeLoopSingle build prims store info ctx lob buf parts keyId st.readSet st.record := by
  induction parts generalizing keyId st with
  | nil => rfl
  | cons part rest ih =>
    unfold indexDecodeLoop indexDecodeLoopSingle
    rw [indexDecodeStep_eq_single hinfo.1]
    cases indexDecodeStepSingle build prims store info ctx lob buf part keyId st.readSet st.record with
    | error e => rfl
    | ok next =>
      simp only [Except.map, result_bind_ok]
      by_cases hlast : part.fieldIndex = ctx.maxColIdx
      · rw [if_pos hlast, if_pos hlast]
        rfl
      · rw [if_neg hlast, if_neg hlast]
        exact @ih (keyId + 1) ⟨next.1, _, next.2⟩ hinfo.2

/-- **Index records with offsets.** The same holds for the records of an index, whose decimals have
no length of their own. -/
theorem index_decode_offsets_eq {parts : List IndexColumn}
    (hinfo : info.DescribesParts tmpTable buf parts 0
      (rowHeadSize + colBitmapExSize (headColumnCount buf)))
    (nullBytes : Nat) (record : MysqlRecord) :
    cantianIndexRecordToMysqlRecordSingle build prims store info ctx lob buf nullBytes parts record =
      cantianIndexRecordToMysqlRecord build prims store tmpTable ctx lob buf nullBytes parts
        record := by
  unfold cantianIndexRecordToMysqlRecordSingle cantianIndexRecordToMysqlRecord
  have hloop := @indexDecodeLoop_eq_single σ build prims store info tmpTable ctx lob buf parts 0
    ⟨ctx.readSet, rowHeadSize + colBitmapExSize (headColumnCount buf),
      record.writeBytes 0 (List.replicate nullBytes 0)⟩ hinfo
  dsimp only
  rw [← hloop]
  generalize indexDecodeLoop build prims store tmpTable ctx lob buf parts 0 _ = decoded
  cases decoded <;> rfl

end

/-- The columns of the table, as parts of an index. -/
def shortParts : List IndexColumn :=
  [⟨⟨"id", .long false, 1, none, .none, false, false⟩, 0⟩,
    ⟨⟨"name", .varchar 20, 5, none, .none, false, false⟩, 1⟩]

theorem shortInfo_describesParts : shortInfo.DescribesParts false shortRow shortParts 0
    (rowHeadSize + colBitmapExSize (headColumnCount shortRow)) :=
  ⟨fun _ => ⟨rfl, rfl⟩, fun _ => ⟨rfl, rfl⟩, trivial⟩

theorem index_decode_offsets_eq_short :
    cantianIndexRecordToMysqlRecordSingle .debug .none .refusing shortInfo
        ⟨fun _ => true, true, false, 9⟩ () shortRow 1 shortParts (fun _ => .byte 0) =
      cantianIndexRecordToMysqlRecord .debug .none .refusing false ⟨fun _ => true, true, false, 9⟩ ()
        shortRow 1 shortParts fun _ => .byte 0 :=
  index_decode_offsets_eq shortInfo_describesParts _ _

end CantianConnector.Convert
