import CantianConnector.Convert.Decode

/-!
# Decoding a record of an index

`cantian_index_record_to_mysql_record`. When a search needs no column outside of the index, the
engine returns the index entry, and the decoder walks over the parts of the index instead of the
columns of the table. It shares `convert_cantian_field_to_mysql_field` with the decoder of
`Convert.Decode`; the flag `is_index_only` selects what is modelled here.

A value is one write to the column, and what is written does not depend on the record it goes to
(`convertIndexValue_write`).
-/

namespace CantianConnector.Index

open CantianConnector.Convert

/-! ## The functions -/

/-- `key_part[i].field`, with its `field_index()`. -/
structure IndexColumn where
  field : Field
  fieldIndex : Nat

/-- `ctc_parse_cantian_column_and_update_offset` for a value of an index record. A decimal comes
without its length, except in a temporary table. -/
def ctcParseIndexColumn (tmpTable : Bool) (mysqlInfo : FieldCnvrtAux) (field : Field)
    (bits : ColBits) (buf : Mem UInt8) (offset : Nat) : ParsedColumn :=
  match bits with
  | .four => ⟨4, 4, offset, []⟩
  | .eight => ⟨8, 8, offset, []⟩
  | _ =>
    if !tmpTable && mysqlInfo.mysqlFieldType == .newDecimal then
      let fieldLen := cmDec4StorSz (Dec4.ofMem (buf.shift offset))
      ⟨fieldLen, roundUp4 fieldLen, offset, paddingVariableByte mysqlInfo field fieldLen⟩
    else
      let fieldLen := Bytes.ofLe (buf.read offset 2)
      ⟨fieldLen, (roundUp4 (fieldLen + 2) - 2) % 65536, offset + 2,
        paddingVariableByte mysqlInfo field fieldLen⟩

section

variable {σ : Type} (build : Build) (prims : ServerPrims) (store : LobStore σ)

/-- `copy_column_data_to_mysql` for a value of an index record: the record and the read set. -/
def copyIndexColumnToMysql (ctx : ReadCtx) (mysqlInfo : FieldCnvrtAux) (field : Field)
    (columnId : Nat) (lob : σ) (cantian : Mem UInt8) (fieldLen : Nat) (record : MysqlRecord)
    (mysqlOffset : Nat) : Result (MysqlRecord × (Nat → Bool)) :=
  match mysqlInfo.sqlDataType with
  | .lob =>
    if ctx.copies columnId then
      .ok (record.writePtr mysqlOffset (some (cantian.read 0 fieldLen)),
        Function.update ctx.readSet columnId true)
    else .ok (record, ctx.readSet)
  | _ => do
    let record ← copyColumnDataToMysql build prims store ctx mysqlInfo field columnId lob cantian
      fieldLen record mysqlOffset
    return (record, ctx.readSet)

/-- The variables of the loop of `cantian_index_record_to_mysql_record`. -/
structure IndexDecodeState where
  readSet : Nat → Bool
  cantianFieldOffset : Nat
  record : MysqlRecord

variable (tmpTable : Bool) (ctx : ReadCtx) (lob : σ) (buf : Mem UInt8)

/-- `convert_cantian_field_to_mysql_field` for a value that is not NULL. -/
def convertIndexValue (mysqlInfo : FieldCnvrtAux) (part : IndexColumn) (bits : ColBits)
    (st : IndexDecodeState) : Result IndexDecodeState := do
  let col := ctcParseIndexColumn tmpTable mysqlInfo part.field bits buf st.cantianFieldOffset
  let record := st.record.writeBytes part.field.offset col.head
  let (record, readSet) ← copyIndexColumnToMysql build prims store { ctx with readSet := st.readSet }
    mysqlInfo part.field part.fieldIndex lob (buf.shift col.cantianOffset) col.fieldLen record
    (part.field.offset + col.head.length)
  return ⟨readSet, col.cantianOffset + col.alignedFieldLen, record⟩

/-- One round of the loop. -/
def indexDecodeStep (part : IndexColumn) (keyId : Nat) (st : IndexDecodeState) :
    Result IndexDecodeState :=
  match getAuxiliaryForFieldConvert part.field part.field.columnType.type with
  | none => do
    cAssert build false
    .error .undefined
  | some mysqlInfo =>
    let bits := ColBits.ofCode (rowGetColumnBits2 buf keyId)
    if bits = .null then do
      let record ← st.record.setNull part.field
      return { st with record := record }
    else convertIndexValue build prims store tmpTable ctx lob buf mysqlInfo part bits st

/-- The loop, from part `keyId` on. -/
def indexDecodeLoop : List IndexColumn → Nat → IndexDecodeState → Result IndexDecodeState
  | [], _, st => .ok st
  | part :: rest, keyId, st => do
    let st ← indexDecodeStep build prims store tmpTable ctx lob buf part keyId st
    if part.fieldIndex = ctx.maxColIdx then return st
    else indexDecodeLoop rest (keyId + 1) st

/-- `cantian_index_record_to_mysql_record`; `parts` are the `actual_key_parts` of the index. -/
def cantianIndexRecordToMysqlRecord (nullBytes : Nat) (parts : List IndexColumn)
    (record : MysqlRecord) : Result MysqlRecord := do
  let offset := rowHeadSize + colBitmapExSize (headColumnCount buf)
  let record := record.writeBytes 0 (List.replicate nullBytes 0)
  let st ← indexDecodeLoop build prims store tmpTable ctx lob buf parts 0
    ⟨ctx.readSet, offset, record⟩
  return st.record

end

/-! ## The length of a value -/

/-- The lengths of what the server's functions return. -/
structure PrimsSized (prims : ServerPrims) : Prop where
  doubleToFloat : ∀ bytes, (prims.doubleToFloat bytes).length = 4
  myDecimal2binary : ∀ d p s image, prims.myDecimal2binary d p s = .ok image →
    image.length = (ColumnType.newDecimal p s).packLength

/-- The cells that a decoded value takes. A BIT of 3 bytes is stored as 4 bytes, one of 5 to 7
bytes as 8. -/
def decodedLength : ColumnType → Nat
  | .bit n => if n = 3 then 4 else if 5 ≤ n then max n 8 else n
  | c => c.packLength

section

variable {build : Build} {prims : ServerPrims} {mysqlInfo : FieldCnvrtAux} {field : Field}
  {cantian : Mem UInt8} {image : List UInt8}

theorem packLength_le_decodedLength (c : ColumnType) : c.packLength ≤ decodedLength c := by
  cases c with
  | bit n =>
    simp only [ColumnType.packLength, decodedLength]
    split
    · omega
    · split <;> omega
  | _ => exact le_rfl

/-- A decoded BIT: its bytes, and zeros up to the length it is stored with. -/
theorem bitCnvtCantianMysql_eq {n : Nat} (hn : n ≤ 8) {bytes : List UInt8}
    (h : bytes.length = 8) : ∃ bs : List UInt8, bs.length = n ∧
      bitCnvtCantianMysql n bytes = bs ++ List.replicate (decodedLength (.bit n) - n) 0 := by
  have htake : (bytes.take n).reverse.length = n := by
    rw [List.length_reverse, List.length_take, h]
    omega
  by_cases h1 : n = 1
  · subst h1
    refine ⟨bytes.take 1, by simp [h], ?_⟩
    simp [bitCnvtCantianMysql, decodedLength]
  · refine ⟨(bytes.take n).reverse, htake, ?_⟩
    rw [← Bytes.le_ofLe_zeros, htake]
    interval_cases n <;> first | rfl | exact absurd rfl h1

theorem length_bitCnvtCantianMysql {n : Nat} (hn : n ≤ 8) {bytes : List UInt8}
    (h : bytes.length = 8) : (bitCnvtCantianMysql n bytes).length = decodedLength (.bit n) := by
  obtain ⟨bs, hbs, himage⟩ := bitCnvtCantianMysql_eq hn h
  have hle : n ≤ decodedLength (.bit n) := packLength_le_decodedLength (.bit n)
  rw [himage, List.length_append, List.length_replicate]
  omega

theorem length_convertNumericToMysql (hsized : PrimsSized prims)
    (hinfo : mysqlInfo.mysqlFieldType = field.columnType.auxType)
    (hvalid : field.columnType.Valid) (hkind : field.columnType.auxKind = .numeric)
    (h : convertNumericToMysql build prims mysqlInfo cantian field = .ok image) :
    image.length = decodedLength field.columnType := by
  unfold convertNumericToMysql at h
  rw [hinfo] at h
  cases hc : field.columnType with
  | enum n =>
    rw [hc] at h hvalid
    rcases hvalid with rfl | rfl
    all_goals
      cases h
      exact length_convertNumericDatatype _ _ _ _
  | set n =>
    rw [hc] at h hvalid
    rcases hvalid with rfl | rfl | rfl | rfl | rfl
    case inr.inr.inl =>
      cases h
      exact Mem.length_read _ _ _
    all_goals
      cases h
      exact length_convertNumericDatatype _ _ _ _
  | bit n =>
    rw [hc] at h hvalid
    cases h
    exact length_bitCnvtCantianMysql hvalid (Mem.length_read _ _ _)
  | newDecimal p q =>
    rw [hc] at h
    simp only [ColumnType.auxType, ColumnType.type, decimalCantianToMysql,
      ColumnType.precision, ColumnType.decimals] at h
    split at h
    · cases h
    · split at h
      · obtain ⟨_, -, hout⟩ := result_bind_eq_ok.mp h
        cases hout
      · cases h
        exact hsized.myDecimal2binary _ _ _ _ ‹_›
  | float =>
    rw [hc] at h
    cases h
    exact hsized.doubleToFloat _
  | int24 u | double =>
    rw [hc] at h
    cases h
    exact Mem.length_read _ _ _
  | tiny u | short u | long u | longlong u =>
    rw [hc] at h
    cases h
    exact length_convertNumericDatatype _ _ _ _
  | _ => rw [hc] at hkind; cases hkind

theorem length_timestampBinary_le (tm : Nat × Nat) (dec : Nat) :
    (timestampBinary tm dec).length ≤ (ColumnType.timestamp dec).packLength := by
  have hbe : ∀ n v, (Bytes.be n v).length = n := fun n v => by simp [Bytes.be]
  unfold timestampBinary ColumnType.packLength
  split
  all_goals
    simp only [List.length_append, hbe, List.length_cons, List.length_nil]
    omega

theorem length_convertDatetimeToMysql {prims : TimePrims} {bytes : List UInt8}
    (hinfo : mysqlInfo.mysqlFieldType = field.columnType.auxType)
    (hkind : field.columnType.auxKind = .datetime) (hbytes : bytes.length = 8)
    (h : convertDatetimeToMysql build prims mysqlInfo bytes field = .ok image) :
    image.length ≤ field.columnType.packLength := by
  unfold convertDatetimeToMysql at h
  rw [hinfo] at h
  cases hc : field.columnType <;> rw [hc] at hkind h <;> cases hkind
  case year =>
    cases h
    simp [ColumnType.packLength]
  case date =>
    cases h
    simp [ColumnType.packLength, hbytes]
  case time dec =>
    cases h
    simp [cnvrtTimeDecimal, ColumnType.packLength]
  case datetime dec =>
    cases h
    simp [cnvrtDatetimeDecimal, ColumnType.packLength]
  case timestamp dec =>
    obtain ⟨tm, -, h⟩ := result_bind_eq_ok.mp h
    cases tm with
    | none =>
      obtain ⟨_, -, hout⟩ := result_bind_eq_ok.mp h
      cases hout
    | some tm =>
      simp only [ctcMyTimestampToBinary] at h
      obtain ⟨_, -, h⟩ := result_bind_eq_ok.mp h
      obtain ⟨_, -, h⟩ := result_bind_eq_ok.mp h
      cases h
      exact length_timestampBinary_le tm dec

end

/-! ## A value is one write -/

/-- The bytes before the data of a column. -/
def headLength : ColumnType → Nat
  | .varchar n => (ColumnType.varchar n).lengthBytes
  | .blob k => k
  | .json => 4
  | _ => 0

/-- The value of a CHAR or VARCHAR column that is kept in the row. -/
def stringCells (field : Field) (cantian : Mem UInt8) (fieldLen : Nat) : List UInt8 :=
  match field.columnType with
  | .string n padChar => cantian.read 0 fieldLen ++ List.replicate (n - fieldLen) padChar
  | _ => cantian.read 0 fieldLen

/-- What is written for a value. -/
def valueCells (build : Build) (prims : ServerPrims) (mysqlInfo : FieldCnvrtAux) (field : Field)
    (cantian : Mem UInt8) (fieldLen : Nat) : Result (List Cell) :=
  match mysqlInfo.sqlDataType with
  | .numeric => do
    let image ← convertNumericToMysql build prims mysqlInfo cantian field
    return image.map Cell.byte
  | .datetime => do
    let image ← convertDatetimeToMysql build prims.time mysqlInfo (cantian.read 0 8) field
    return image.map Cell.byte
  | .string => .ok ((stringCells field cantian fieldLen).map Cell.byte)
  | .lob => .ok (ptrCells (cantian.read 0 fieldLen))
  | .unknown => do
    cAssert build false
    return []

/-- The read set after a value: a copied LOB is added to it. -/
def readSetAfter (ctx : ReadCtx) (mysqlInfo : FieldCnvrtAux) (columnId : Nat) : Nat → Bool :=
  if mysqlInfo.sqlDataType = .lob ∧ ctx.copies columnId = true then
    Function.update ctx.readSet columnId true
  else ctx.readSet

section

variable {σ : Type} {build : Build} {prims : ServerPrims} {store : LobStore σ} {tmpTable : Bool}
  {ctx : ReadCtx} {mysqlInfo : FieldCnvrtAux} {field : Field} {columnId fieldLen : Nat} {lob : σ}
  {cantian buf : Mem UInt8}

theorem length_paddingVariableByte_le (hinfo : mysqlInfo.mysqlFieldType = field.columnType.auxType)
    (len : Nat) :
    (paddingVariableByte mysqlInfo field len).length ≤ headLength field.columnType := by
  unfold paddingVariableByte
  rw [hinfo]
  cases hc : field.columnType with
  | enum n | set n =>
    simp only [ColumnType.auxType]
    rcases enumStorageType_cases n with h | h | h | h | h <;> simp [h]
  | _ => simp [ColumnType.auxType, ColumnType.type, headLength, ColumnType.rowPackLength]

theorem copyStringToMysql_write (hinfo : mysqlInfo.mysqlFieldType = field.columnType.auxType)
    (hrow : varcharAsBlob field.columnType.rowPackLength = false) (m : MysqlRecord) (off : Nat) :
    copyStringToMysql build store mysqlInfo field lob cantian fieldLen m off =
      .ok (m.writeBytes off (stringCells field cantian fieldLen)) := by
  unfold copyStringToMysql stringCells
  rw [hrow]
  simp only [Bool.false_eq_true, if_false, result_bind_ok]
  cases hc : field.columnType with
  | string n padChar =>
    rw [hc] at hinfo
    have htype : mysqlInfo.mysqlFieldType = .string := hinfo
    dsimp only
    by_cases hlt : fieldLen < n
    · rw [if_pos ⟨htype, hlt⟩]
      unfold MysqlRecord.writeBytes
      rw [List.map_append, Mem.write_append, List.length_map, Mem.length_read]
      rfl
    · rw [if_neg (fun h => hlt h.2), Nat.sub_eq_zero_of_le (Nat.le_of_not_lt hlt)]
      simp
  | _ => rfl

theorem copies_readSetAfter (columnId c : Nat) :
    { ctx with readSet := readSetAfter ctx mysqlInfo columnId }.copies c = ctx.copies c := by
  unfold readSetAfter
  by_cases h : mysqlInfo.sqlDataType = .lob ∧ ctx.copies columnId = true
  · rw [if_pos h]
    obtain ⟨-, hcopies⟩ := h
    by_cases hc : c = columnId
    · subst hc
      rw [hcopies]
      simp [ReadCtx.copies]
    · simp [ReadCtx.copies, Function.update_of_ne hc]
  · rw [if_neg h]

/-- **Copying a value is one write.** -/
theorem copyIndexColumnToMysql_write
    (hinfo : mysqlInfo.mysqlFieldType = field.columnType.auxType)
    (hrow : varcharAsBlob field.columnType.rowPackLength = false)
    (hcopies : ctx.copies columnId = true) (m : MysqlRecord) (off : Nat) :
    copyIndexColumnToMysql build prims store ctx mysqlInfo field columnId lob cantian fieldLen m
        off =
      (valueCells build prims mysqlInfo field cantian fieldLen).map fun cells =>
        (m.write off cells, readSetAfter ctx mysqlInfo columnId) := by
  unfold copyIndexColumnToMysql valueCells readSetAfter copyColumnDataToMysql
  cases hkind : mysqlInfo.sqlDataType with
  | lob =>
    simp only [hcopies, if_true]
    rfl
  | string =>
    simp only [hcopies, if_true, copyStringToMysql_write hinfo hrow]
    rfl
  | numeric =>
    simp only [hcopies, if_true]
    cases convertNumericToMysql build prims mysqlInfo cantian field <;> rfl
  | datetime =>
    simp only [hcopies, if_true]
    cases convertDatetimeToMysql build prims.time mysqlInfo (cantian.read 0 8) field <;> rfl
  | unknown =>
    simp only [hcopies, if_true]
    cases cAssert build false with
    | error e => rfl
    | ok u => simp [Except.map]

theorem copyIndexColumnToMysql_skip (hcopies : ctx.copies columnId = false) (m : MysqlRecord)
    (off : Nat) :
    copyIndexColumnToMysql build prims store ctx mysqlInfo field columnId lob cantian fieldLen m
        off = .ok (m, readSetAfter ctx mysqlInfo columnId) := by
  unfold copyIndexColumnToMysql readSetAfter copyColumnDataToMysql
  rw [hcopies]
  cases mysqlInfo.sqlDataType <;> rfl

theorem headLength_eq_zero {c : ColumnType} (h : c.auxKind = .numeric ∨ c.auxKind = .datetime) :
    headLength c = 0 := by
  cases c with
  | varchar n | blob k | json => rcases h with h | h <;> cases h
  | _ => rfl

theorem length_valueCells (hsized : PrimsSized prims) (hinfo : IsAux mysqlInfo field.columnType)
    (hvalid : field.columnType.Valid) {cells : List Cell}
    (h : valueCells build prims mysqlInfo field cantian fieldLen = .ok cells)
    (hfit : field.columnType.auxKind = .string → fieldLen ≤ field.columnType.rowPackLength) :
    headLength field.columnType + cells.length ≤ decodedLength field.columnType := by
  have hpack := packLength_le_decodedLength field.columnType
  unfold valueCells at h
  rw [hinfo.kind] at h
  cases hkind : field.columnType.auxKind with
  | numeric =>
    rw [hkind] at h
    obtain ⟨image, himage, h⟩ := result_bind_eq_ok.mp h
    cases h
    rw [headLength_eq_zero (Or.inl hkind), List.length_map, Nat.zero_add]
    exact (length_convertNumericToMysql hsized hinfo.type hvalid hkind himage).le
  | datetime =>
    rw [hkind] at h
    obtain ⟨image, himage, h⟩ := result_bind_eq_ok.mp h
    cases h
    rw [headLength_eq_zero (Or.inr hkind), List.length_map, Nat.zero_add]
    exact (length_convertDatetimeToMysql hinfo.type hkind (Mem.length_read _ _ _) himage).trans
      hpack
  | string =>
    rw [hkind] at h
    cases h
    have hlen := hfit hkind
    cases hc : field.columnType with
    | varchar n =>
      rw [hc] at hlen
      simp only [stringCells, hc, List.length_map, Mem.length_read]
      exact (Nat.add_comm _ _).trans_le (Nat.add_le_add_right hlen _)
    | string n padChar =>
      rw [hc] at hlen
      have hle : fieldLen ≤ n := hlen
      simp only [stringCells, hc, List.length_map, Mem.length_read, List.length_append,
        List.length_replicate, headLength, decodedLength, ColumnType.packLength]
      omega
    | _ => rw [hc] at hkind; cases hkind
  | lob =>
    rw [hkind] at h
    cases h
    rw [length_ptrCells]
    cases hc : field.columnType <;> rw [hc] at hkind <;> cases hkind <;> exact le_rfl
  | unknown => cases hc : field.columnType <;> rw [hc] at hkind <;> cases hkind

/-- The cells of a decoded BIT: its bytes, and zeros up to the length it is stored with. -/
def BitCells (n : Nat) (cells : List Cell) : Prop :=
  ∃ bs : List Cell, bs.length = n ∧
    cells = bs ++ List.replicate (decodedLength (.bit n) - n) (.byte 0)

theorem bitCells_valueCells (hinfo : IsAux mysqlInfo field.columnType)
    (hvalid : field.columnType.Valid) {n : Nat} (hc : field.columnType = .bit n)
    {cells : List Cell}
    (h : valueCells build prims mysqlInfo field cantian fieldLen = .ok cells) :
    BitCells n cells := by
  unfold valueCells at h
  rw [hinfo.kind, hc] at h
  obtain ⟨image, himage, h⟩ := result_bind_eq_ok.mp h
  cases h
  unfold convertNumericToMysql at himage
  rw [hinfo.type, hc] at himage
  cases himage
  rw [hc] at hvalid
  obtain ⟨bs, hbs, heq⟩ := bitCnvtCantianMysql_eq hvalid (Mem.length_read cantian 0 8)
  refine ⟨bs.map Cell.byte, by rw [List.length_map, hbs], ?_⟩
  show (bitCnvtCantianMysql n (cantian.read 0 8)).map Cell.byte = _
  rw [heq, List.map_append, List.map_replicate]

theorem length_head_ctcParseIndexColumn_le (tmpTable : Bool) (buf : Mem UInt8)
    (hinfo : mysqlInfo.mysqlFieldType = field.columnType.auxType) (bits : ColBits)
    (offset : Nat) :
    (ctcParseIndexColumn tmpTable mysqlInfo field bits buf offset).head.length ≤
      headLength field.columnType := by
  have hle := length_paddingVariableByte_le hinfo
  unfold ctcParseIndexColumn
  split
  · exact Nat.zero_le _
  · exact Nat.zero_le _
  · split
    · exact hle _
    · exact hle _

/-- What a value writes to its column: the place of the next column, the read set and the
cells. -/
structure ValueWrite where
  next : Nat
  readSet : Nat → Bool
  cells : List Cell

/-- The record with a value in its column. -/
def ValueWrite.apply (out : ValueWrite) (part : IndexColumn) (m : MysqlRecord) :
    IndexDecodeState :=
  ⟨out.readSet, out.next, m.write part.field.offset out.cells⟩

/-- What is written for a value: how many cells, and the zeros behind a BIT. -/
structure ValueWrite.Bounded (out : ValueWrite) (ctx : ReadCtx) (part : IndexColumn) (fieldLen : Nat) :
    Prop where
  copies : ∀ c, { ctx with readSet := out.readSet }.copies c = ctx.copies c
  skipped : ctx.copies part.fieldIndex = false →
    out.cells.length ≤ part.field.columnType.packLength
  within : (part.field.columnType.auxKind = .string →
      fieldLen ≤ part.field.columnType.rowPackLength) →
    out.cells.length ≤ decodedLength part.field.columnType
  bit : ctx.copies part.fieldIndex = true → ∀ n, part.field.columnType = .bit n →
    BitCells n out.cells

theorem headLength_le (c : ColumnType) : headLength c ≤ c.packLength := by
  cases c with
  | varchar n => exact Nat.le_add_left _ _
  | blob k => exact Nat.le_add_right _ _
  | json => exact Nat.le_add_right _ _
  | _ => exact Nat.zero_le _

/-- A value that is not copied writes the bytes before the data. -/
theorem bounded_skipped (readSet : Nat → Bool) {part : IndexColumn} {head : List UInt8}
    (hhead : head.length ≤ headLength part.field.columnType)
    (hcopies : { ctx with readSet := readSet }.copies part.fieldIndex = false) (next : Nat) :
    ValueWrite.Bounded
      ⟨next, readSetAfter { ctx with readSet := readSet } mysqlInfo part.fieldIndex,
        head.map Cell.byte⟩ { ctx with readSet := readSet } part fieldLen := by
  have hpack := packLength_le_decodedLength part.field.columnType
  have hheadPack := headLength_le part.field.columnType
  refine ⟨fun c => copies_readSetAfter part.fieldIndex c, fun _ => ?_, fun _ => ?_, ?_⟩
  · rw [List.length_map]
    omega
  · rw [List.length_map]
    omega
  · intro h
    rw [hcopies] at h
    cases h

/-- A value that is copied writes its cells behind them. -/
theorem bounded_copied (hsized : PrimsSized prims) (readSet : Nat → Bool) {part : IndexColumn}
    (hinfo : IsAux mysqlInfo part.field.columnType) (hvalid : part.field.columnType.Valid)
    {head : List UInt8} (hhead : head.length ≤ headLength part.field.columnType)
    (hcopies : { ctx with readSet := readSet }.copies part.fieldIndex = true) {cells : List Cell}
    (hvalue : valueCells build prims mysqlInfo part.field cantian fieldLen = .ok cells)
    (next : Nat) :
    ValueWrite.Bounded
      ⟨next, readSetAfter { ctx with readSet := readSet } mysqlInfo part.fieldIndex,
        head.map Cell.byte ++ cells⟩ { ctx with readSet := readSet } part fieldLen := by
  refine ⟨fun c => copies_readSetAfter part.fieldIndex c, ?_, ?_, ?_⟩
  · intro h
    rw [hcopies] at h
    cases h
  · intro hfit
    have hle := length_valueCells hsized hinfo hvalid hvalue hfit
    rw [List.length_append, List.length_map]
    omega
  · intro _ n hc
    have hnil : head = [] := by
      apply List.eq_nil_of_length_eq_zero
      rw [hc] at hhead
      exact Nat.le_zero.mp hhead
    rw [hnil]
    exact bitCells_valueCells hinfo hvalid hc hvalue

/-- **A value is one write,** whatever the record. -/
theorem convertIndexValue_write (hsized : PrimsSized prims) {part : IndexColumn}
    (hinfo : IsAux mysqlInfo part.field.columnType) (hvalid : part.field.columnType.Valid)
    (hrow : varcharAsBlob part.field.columnType.rowPackLength = false) (bits : ColBits)
    (readSet : Nat → Bool) (offset : Nat) :
    ∃ r : Result ValueWrite,
      (∀ m, convertIndexValue build prims store tmpTable ctx lob buf mysqlInfo part bits
        ⟨readSet, offset, m⟩ = r.map fun out => out.apply part m) ∧
      ∀ out, r = .ok out → out.Bounded { ctx with readSet := readSet } part
        (ctcParseIndexColumn tmpTable mysqlInfo part.field bits buf offset).fieldLen ∧
        out.next = (ctcParseIndexColumn tmpTable mysqlInfo part.field bits buf offset).cantianOffset +
          (ctcParseIndexColumn tmpTable mysqlInfo part.field bits buf offset).alignedFieldLen := by
  have hhead := length_head_ctcParseIndexColumn_le tmpTable buf hinfo.type bits offset
  unfold convertIndexValue
  dsimp only
  generalize ctcParseIndexColumn tmpTable mysqlInfo part.field bits buf offset = col at hhead ⊢
  have hcells : ∀ (m : MysqlRecord) (cells : List Cell),
      (m.writeBytes part.field.offset col.head).write (part.field.offset + col.head.length) cells =
        m.write part.field.offset (col.head.map Cell.byte ++ cells) := by
    intro m cells
    rw [Mem.write_append, List.length_map]
    rfl
  cases hcopies : { ctx with readSet := readSet }.copies part.fieldIndex with
  | false =>
    refine ⟨.ok ⟨col.cantianOffset + col.alignedFieldLen,
      readSetAfter { ctx with readSet := readSet } mysqlInfo part.fieldIndex,
      col.head.map Cell.byte⟩, ?_, ?_⟩
    · intro m
      rw [copyIndexColumnToMysql_skip hcopies]
      rfl
    · rintro out hout
      cases hout
      exact ⟨bounded_skipped readSet hhead hcopies _, rfl⟩
  | true =>
    refine ⟨(valueCells build prims mysqlInfo part.field (buf.shift col.cantianOffset)
      col.fieldLen).map fun cells => ⟨col.cantianOffset + col.alignedFieldLen,
        readSetAfter { ctx with readSet := readSet } mysqlInfo part.fieldIndex,
        col.head.map Cell.byte ++ cells⟩, ?_, ?_⟩
    · intro m
      rw [copyIndexColumnToMysql_write hinfo.type hrow hcopies]
      cases valueCells build prims mysqlInfo part.field (buf.shift col.cantianOffset)
        col.fieldLen with
      | error e => rfl
      | ok cells =>
        simp only [Except.map, result_bind_ok, hcells]
        rfl
    · rintro out hout
      cases hvalue : valueCells build prims mysqlInfo part.field (buf.shift col.cantianOffset)
        col.fieldLen with
      | error e =>
        rw [hvalue] at hout
        cases hout
      | ok cells =>
        rw [hvalue] at hout
        cases hout
        exact ⟨bounded_copied hsized readSet hinfo hvalid hhead hcopies hvalue _, rfl⟩

end

end CantianConnector.Index
