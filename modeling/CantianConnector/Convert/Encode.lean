import CantianConnector.Convert.Lob
import CantianConnector.Convert.Numeric
import CantianConnector.Convert.RowFormat

/-!
# Encoding a MySQL record

`mysql_record_to_cantian_record`. In insert mode it stores every column of the table that is
not a virtual generated one; in update mode the columns of a list, from which it erases the
virtual ones while it walks along it. The model keeps the loop with its counters
(`encodeStep`, `encodeLoop`).

Both modes come down to the same thing: the non-virtual columns are stored one after the
other (`putFields`), and the row ends up with one `ColImage` for each.
-/

namespace CantianConnector.Convert

/-! ## MySQL records -/

/-- A cell of a MySQL record: a byte, or one of the eight parts of a pointer to a block. -/
inductive Cell where
  | byte (b : UInt8)
  | ptr (block : List UInt8) (part : Nat)
deriving DecidableEq, Repr

def Cell.toByte : Cell → UInt8
  | .byte b => b
  | .ptr _ _ => 0

/-- The cells of a pointer to a block. -/
def ptrCells (block : List UInt8) : List Cell := (List.range 8).map (Cell.ptr block)

/-- The block a pointer points to; `none` if the cells hold no pointer. -/
def readPtr (cells : List Cell) : Option (List UInt8) :=
  match cells with
  | .ptr block 0 :: _ => if cells = ptrCells block then some block else none
  | _ => none

abbrev MysqlRecord := Mem Cell

namespace MysqlRecord

def readBytes (record : MysqlRecord) (off n : Nat) : List UInt8 :=
  (record.read off n).map Cell.toByte

/-- Is the NULL bit of the column set? -/
def isNull (record : MysqlRecord) (field : Field) : Bool :=
  match field.nullBit with
  | none => false
  | some nb => (record nb.offset).toByte &&& (1 <<< UInt8.ofNat nb.pos) != 0

/-- `Field_blob::get_length` and the data its pointer leads to. -/
def blobData (record : MysqlRecord) (field : Field) (off : Nat) : List UInt8 :=
  let lenBytes := field.columnType.rowPackLength
  let len := Bytes.ofLe (record.readBytes off lenBytes)
  ((readPtr (record.read (off + lenBytes) 8)).getD []).take len

end MysqlRecord

/-! ## One column -/

/-- `VARCHAR_AS_BLOB`. -/
def varcharAsBlob (len : Nat) : Bool := decide (8000 < len)

/-- The CHAR length without the trailing pad characters. -/
def trimPad (padChar : UInt8) (bytes : List UInt8) : Nat :=
  (bytes.reverse.dropWhile (· == padChar)).length

/-- `calculate_variable_len`: the data length and the bytes of the length prefix. -/
def calculateVariableLen (mysqlInfo : FieldCnvrtAux) (field : Field) (record : MysqlRecord)
    (mysqlOffset : Nat) : Nat × Nat :=
  let c := field.columnType
  match mysqlInfo.mysqlFieldType with
  | .varchar => (Bytes.ofLe (record.readBytes mysqlOffset c.lengthBytes), c.lengthBytes)
  | .json | .blob =>
    (Bytes.ofLe (record.readBytes mysqlOffset c.rowPackLength), c.rowPackLength)
  | .string =>
    match c with
    | .string n padChar => (trimPad padChar (record.readBytes mysqlOffset n), 0)
    | _ => (c.rowPackLength, 0)
  | .newDecimal =>
    ((1 + (alignUp (c.precision - c.decimals) 4 + alignUp c.decimals 4)) * 2, 0)
  | _ => (0, 0)

/-- `get_map_and_field_len`: the field length, the offset of the data in the MySQL record, and
the length prefix stored in the row. -/
def getMapAndFieldLen (build : Build) (mysqlInfo : FieldCnvrtAux) (field : Field)
    (record : MysqlRecord) (mysqlOffset : Nat) : Result (Nat × Nat × List UInt8) :=
  match mysqlInfo.cantianMapType with
  | .four => .ok (4, mysqlOffset, [])
  | .eight => .ok (8, mysqlOffset, [])
  | .var =>
    if mysqlInfo.sqlDataType = .lob then .ok (0, mysqlOffset, [])
    else
      let (fieldLen, lengthBytes) := calculateVariableLen mysqlInfo field record mysqlOffset
      let asBlob := mysqlInfo.sqlDataType == .string && varcharAsBlob field.columnType.rowPackLength
      .ok (fieldLen, mysqlOffset + lengthBytes, if asBlob then [] else Bytes.le 2 fieldLen)
  | .null => do
    cAssert build false
    return (0, mysqlOffset, [])

/-- What a conversion leaves in the row: the bytes stored from the column's offset on and the
final field length. `serial` is the place of an auto-increment value among the bytes. -/
structure StoredField (σ : Type) where
  lob : σ
  stored : List UInt8
  fieldLen : Nat
  serial : Option Nat

section

variable {σ : Type} (build : Build) (prims : ServerPrims) (store : LobStore σ)

/-- `convert_data_from_mysql_to_cantian`. -/
def convertDataFromMysqlToCantian (mysqlInfo : FieldCnvrtAux) (field : Field)
    (record : MysqlRecord) (mysqlOffset fieldLen : Nat) (lengthPrefix : List UInt8) (lob : σ)
    (columnId : Nat) : Result (StoredField σ) :=
  match mysqlInfo.sqlDataType with
  | .numeric => do
    let image := record.readBytes mysqlOffset field.columnType.packLength
    let (bytes, fieldLen) ← convertNumericToCantian build prims mysqlInfo image field fieldLen
    let lengthPrefix :=
      if field.columnType.type = .newDecimal then Bytes.le 2 fieldLen else lengthPrefix
    let serial := if field.autoIncrement then some lengthPrefix.length else none
    return ⟨lob, lengthPrefix ++ bytes, fieldLen, serial⟩
  | .datetime => do
    let image := record.readBytes mysqlOffset field.columnType.packLength
    let bytes ← convertDatetimeToCantian build prims.time mysqlInfo image field
    return ⟨lob, lengthPrefix ++ bytes, fieldLen, none⟩
  | .string =>
    if varcharAsBlob field.columnType.rowPackLength then do
      let (lob, bytes, fieldLen) ←
        convertBlobToCantian store build lob (record.readBytes mysqlOffset fieldLen) columnId
      return ⟨lob, bytes, fieldLen, none⟩
    else .ok ⟨lob, lengthPrefix ++ record.readBytes mysqlOffset fieldLen, fieldLen, none⟩
  | .lob => do
    let (lob, bytes, fieldLen) ←
      convertBlobToCantian store build lob (record.blobData field mysqlOffset) columnId
    return ⟨lob, bytes, fieldLen, none⟩
  | .unknown => do
    cAssert build false
    return ⟨lob, lengthPrefix, fieldLen, none⟩

/-- What the body of the loop stores for a column that is not NULL. -/
def storeField (field : Field) (record : MysqlRecord) (lob : σ) (columnId : Nat) :
    Result (ColBits × StoredField σ) :=
  match getAuxiliaryForFieldConvert field field.columnType.type with
  | none => do
    cAssert build false
    .error .undefined
  | some mysqlInfo => do
    let (fieldLen, mysqlOffset, lengthPrefix) ←
      getMapAndFieldLen build mysqlInfo field record field.offset
    let out ← convertDataFromMysqlToCantian build prims store mysqlInfo field record mysqlOffset
      fieldLen lengthPrefix lob columnId
    return (mysqlInfo.cantianMapType, out)

end

/-- The bytes the loop advances by for a stored column. -/
def advance (map : ColBits) (fieldLen : Nat) : Nat :=
  if map = .var then roundUp4 (fieldLen + 2) else fieldLen

/-! ## The loop -/

/-- `cal_gcol_cnts_for_update`. -/
def calGcolCntsForUpdate (fields : List Field) (columnId : Nat) : Nat :=
  (fields.take columnId).countP Field.isVirtualGcol

/-- The record being built. -/
structure RowBuf (σ : Type) where
  buf : Mem UInt8
  offset : Nat
  lob : σ
  serialColumnOffset : Nat

/-- The variables of the loop of `mysql_record_to_cantian_record`. -/
structure EncodeState (σ : Type) where
  columnCnt : Nat
  nFields : Nat
  virtualGcolCnt : Nat
  /-- The update list; unused in insert mode. -/
  fields : List Nat
  row : RowBuf σ

section

variable {σ : Type} (build : Build) (prims : ServerPrims) (store : LobStore σ) (table : Table)
  (record : MysqlRecord)

/-- Storing one column, as column `k` of the row. -/
def putField (field : Field) (columnId k : Nat) (row : RowBuf σ) : Result (RowBuf σ) :=
  if record.isNull field then
    .ok { row with buf := rowSetColumnBits2 row.buf ColBits.null.code k }
  else do
    let (map, out) ← storeField build prims store field record row.lob columnId
    let serial := out.serial.map fun i => (row.offset + i) % 65536
    return { buf := rowSetColumnBits2 (row.buf.write row.offset out.stored) map.code k
             offset := row.offset + advance map out.fieldLen
             lob := out.lob
             serialColumnOffset := serial.getD row.serialColumnOffset }

/-- One round of the loop. -/
def encodeStep (isUpdate : Bool) (st : EncodeState σ) : Result (EncodeState σ) :=
  match (if isUpdate then st.fields[st.columnCnt]? else some st.columnCnt) with
  | none => .error .undefined
  | some columnId =>
    match table.fields[columnId]? with
    | none => .error .undefined
    | some field =>
      if field.isVirtualGcol then
        if isUpdate then
          .ok { st with fields := st.fields.eraseIdx st.columnCnt, nFields := st.nFields - 1 }
        else
          .ok { st with virtualGcolCnt := st.virtualGcolCnt + 1, columnCnt := st.columnCnt + 1 }
      else if isUpdate && table.hasGcol then do
        let row ← putField build prims store record field columnId st.columnCnt st.row
        let virtualGcolCnt := calGcolCntsForUpdate table.fields columnId
        return { st with
          columnCnt := st.columnCnt + 1
          virtualGcolCnt := virtualGcolCnt
          fields := st.fields.set st.columnCnt (columnId - virtualGcolCnt)
          row := row }
      else do
        let row ← putField build prims store record field columnId
          (st.columnCnt - st.virtualGcolCnt) st.row
        return { st with columnCnt := st.columnCnt + 1, row := row }

/-- The loop; `nFields - columnCnt` rounds are left. -/
def encodeLoop (isUpdate : Bool) : Nat → EncodeState σ → Result (EncodeState σ)
  | 0, st => .ok st
  | fuel + 1, st =>
    if st.columnCnt < st.nFields then do
      let st ← encodeStep build prims store table record isUpdate st
      encodeLoop isUpdate fuel st
    else .ok st

/-- The result of `mysql_record_to_cantian_record`. -/
structure EncodedRecord (σ : Type) where
  buf : Mem UInt8
  /-- `*cantian_record_buf_size`. -/
  size : Nat
  lob : σ
  serialColumnOffset : Nat
  /-- The update list after the call. -/
  fields : List Nat

/-- The number of columns `col_bitmap_ex_size` is called with. The generated columns it leaves
out are those among the first `n_fields` columns of the table. -/
def exMapColumns (fields : Option (List Nat)) : Nat :=
  let nFields := (fields.map List.length).getD table.fields.length
  nFields - (if table.hasGcol then calGcolCntsForUpdate table.fields nFields else 0)

/-- The first value of `cantian_field_offset`. -/
def firstFieldOffset (fields : Option (List Nat)) : Nat :=
  rowHeadSize + colBitmapExSize (exMapColumns table fields)

/-- `mysql_record_to_cantian_record`; `fields` is the list of an update. -/
def mysqlRecordToCantianRecord (buf : Mem UInt8) (lob : σ) (fields : Option (List Nat)) :
    Result (EncodedRecord σ) := do
  let isUpdate := fields.isSome
  let nFields := (fields.map List.length).getD table.fields.length
  let st ← encodeLoop build prims store table record isUpdate nFields
    { columnCnt := 0, nFields := nFields, virtualGcolCnt := 0, fields := fields.getD []
      row := ⟨buf, firstFieldOffset table fields, lob, 0⟩ }
  let columnCount := if isUpdate then st.nFields else st.nFields - st.virtualGcolCnt
  return { buf := setRowHead st.row.buf st.row.offset columnCount
           size := st.row.offset
           lob := st.row.lob
           serialColumnOffset := st.row.serialColumnOffset
           fields := st.fields }

end

/-! ## The image of a column -/

/-- A value of four, eight or any number of bytes, as the conversion table has it. -/
def ColImage.ofBits : ColBits → List UInt8 → ColImage
  | .null, _ => .null
  | .four, bytes => .four bytes
  | .eight, bytes => .eight bytes
  | .var, data => .var data

/-- The bytes of a CHAR or VARCHAR value: without the padding, without the length. -/
def MysqlRecord.stringData (record : MysqlRecord) (field : Field) : List UInt8 :=
  let c := field.columnType
  let off := field.offset + c.lengthBytes
  match c with
  | .varchar _ => record.readBytes off (Bytes.ofLe (record.readBytes field.offset c.lengthBytes))
  | .string n padChar => record.readBytes off (trimPad padChar (record.readBytes field.offset n))
  | _ => []

/-- What the row holds for a column of the record, when the engine's LOB store is in state
`s`. -/
inductive FieldImage {σ : Type} (build : Build) (prims : ServerPrims)
    (contents : σ → List UInt8 → Option (List UInt8)) (s : σ) (record : MysqlRecord)
    (field : Field) : ColImage → Prop
  | null (hnull : record.isNull field = true) :
      FieldImage build prims contents s record field .null
  | numeric {mysqlInfo : FieldCnvrtAux} {bytes : List UInt8} {length fieldLen : Nat}
      (hnull : record.isNull field = false) (hkind : field.columnType.auxKind = .numeric)
      (hinfo : mysqlInfo.mysqlFieldType = field.columnType.auxType)
      (h : convertNumericToCantian build prims mysqlInfo
        (record.readBytes field.offset field.columnType.packLength) field length =
          .ok (bytes, fieldLen)) :
      FieldImage build prims contents s record field (.ofBits field.columnType.auxBits bytes)
  | datetime {mysqlInfo : FieldCnvrtAux} {bytes : List UInt8}
      (hnull : record.isNull field = false) (hkind : field.columnType.auxKind = .datetime)
      (hinfo : mysqlInfo.mysqlFieldType = field.columnType.auxType)
      (h : convertDatetimeToCantian build prims.time mysqlInfo
        (record.readBytes field.offset field.columnType.packLength) field = .ok bytes) :
      FieldImage build prims contents s record field (.eight bytes)
  | string (hnull : record.isNull field = false) (hkind : field.columnType.auxKind = .string)
      (hshort : varcharAsBlob field.columnType.rowPackLength = false) :
      FieldImage build prims contents s record field (.var (record.stringData field))
  | stringLob {locator : List UInt8} (hnull : record.isNull field = false)
      (hkind : field.columnType.auxKind = .string)
      (hlong : varcharAsBlob field.columnType.rowPackLength = true)
      (hat : LobAt contents s locator (record.stringData field)) :
      FieldImage build prims contents s record field (.var locator)
  | lob {locator : List UInt8} (hnull : record.isNull field = false)
      (hkind : field.columnType.auxKind = .lob)
      (hat : LobAt contents s locator (record.blobData field field.offset)) :
      FieldImage build prims contents s record field (.var locator)

theorem MysqlRecord.length_readBytes (record : MysqlRecord) (off n : Nat) :
    (record.readBytes off n).length = n := by
  simp [MysqlRecord.readBytes]

theorem length_trimPad (padChar : UInt8) (bytes : List UInt8) :
    trimPad padChar bytes ≤ bytes.length := by
  unfold trimPad
  exact (List.dropWhile_sublist _).length_le.trans_eq List.length_reverse

theorem ofLe_readBytes_lt (record : MysqlRecord) (off n : Nat) :
    Bytes.ofLe (record.readBytes off n) < 256 ^ n := by
  have h := Bytes.ofLe_lt (record.readBytes off n)
  rwa [record.length_readBytes] at h

theorem length_blobData_lt (record : MysqlRecord) {field : Field}
    (hvalid : field.columnType.Valid) (hkind : field.columnType.auxKind = .lob) (off : Nat) :
    (record.blobData field off).length < 2 ^ 32 := by
  have hlen := ofLe_readBytes_lt record off field.columnType.rowPackLength
  have hpack : field.columnType.rowPackLength ≤ 4 := by
    cases hc : field.columnType <;> rw [hc] at hkind hvalid <;> cases hkind
    · exact hvalid.2
    · exact le_rfl
  have hpow : (256 : Nat) ^ field.columnType.rowPackLength ≤ 256 ^ 4 :=
    Nat.pow_le_pow_right (by omega) hpack
  unfold MysqlRecord.blobData
  rw [List.length_take]
  omega

theorem length_stringData_lt (record : MysqlRecord) {field : Field}
    (hvalid : field.columnType.Valid) : (record.stringData field).length < 65536 := by
  unfold MysqlRecord.stringData
  cases hc : field.columnType with
  | varchar n =>
    have hlen := ofLe_readBytes_lt record field.offset (ColumnType.varchar n).lengthBytes
    have hpow : (256 : Nat) ^ (ColumnType.varchar n).lengthBytes ≤ 256 ^ 2 := by
      apply Nat.pow_le_pow_right (by omega)
      simp only [ColumnType.lengthBytes]
      split <;> omega
    simp only [MysqlRecord.length_readBytes]
    omega
  | string n padChar =>
    rw [hc] at hvalid
    have htrim := length_trimPad padChar (record.readBytes field.offset n)
    simp only [MysqlRecord.length_readBytes] at htrim ⊢
    have hn : n ≤ 1020 := hvalid
    omega
  | _ => simp

theorem length_convertDatetimeToCantian {build : Build} {prims : TimePrims}
    {mysqlInfo : FieldCnvrtAux} {field : Field} {image bytes : List UInt8}
    (h : convertDatetimeToCantian build prims mysqlInfo image field = .ok bytes) :
    bytes.length = 8 := by
  unfold convertDatetimeToCantian at h
  split at h
  · cases h
    simp [cnvrtTimeDecimal]
  · cases h
    simp [cnvrtDatetimeDecimal]
  · cases h
    simp
  · obtain ⟨ltime, -, h⟩ := result_bind_eq_ok.mp h
    obtain ⟨date, -, h⟩ := result_bind_eq_ok.mp h
    cases h
    simp

section

variable {σ : Type} {build : Build} {prims : ServerPrims} {store : LobStore σ}
  {contents : σ → List UInt8 → Option (List UInt8)} {record : MysqlRecord} {field : Field}

theorem FieldImage.mono {s s' : σ} {img : ColImage}
    (h : FieldImage build prims contents s record field img)
    (hkeep : ∀ k w, contents s k = some w → contents s' k = some w) :
    FieldImage build prims contents s' record field img := by
  cases h with
  | null hnull => exact .null hnull
  | numeric hnull hkind hinfo h => exact .numeric hnull hkind hinfo h
  | datetime hnull hkind hinfo h => exact .datetime hnull hkind hinfo h
  | string hnull hkind hshort => exact .string hnull hkind hshort
  | stringLob hnull hkind hlong hat => exact .stringLob hnull hkind hlong (hat.mono hkeep)
  | lob hnull hkind hat => exact .lob hnull hkind (hat.mono hkeep)

/-- The image a column conversion leaves in the row. -/
structure Stores (build : Build) (prims : ServerPrims)
    (contents : σ → List UInt8 → Option (List UInt8)) (record : MysqlRecord) (field : Field)
    (lob : σ) (map : ColBits) (out : StoredField σ) (img : ColImage) : Prop where
  image : FieldImage build prims contents out.lob record field img
  bits : img.bits = map
  stored : img.stored = out.stored
  width : img.width = advance map out.fieldLen
  sized : img.Sized
  keep : ∀ k w, contents lob k = some w → contents out.lob k = some w

/-- The entry of the conversion table that a column has. -/
structure IsAux (mysqlInfo : FieldCnvrtAux) (c : ColumnType) : Prop where
  type : mysqlInfo.mysqlFieldType = c.auxType
  bits : mysqlInfo.cantianMapType = c.auxBits
  kind : mysqlInfo.sqlDataType = c.auxKind

theorem auxBits_cases (c : ColumnType) :
    c.auxBits = .four ∨ c.auxBits = .eight ∨ c.auxBits = .var := by
  cases c with
  | enum n => by_cases h : enumStorageType n = .longlong <;> simp [ColumnType.auxBits, h]
  | set n => by_cases h : enumStorageType n = .longlong <;> simp [ColumnType.auxBits, h]
  | _ => simp [ColumnType.auxBits]

theorem auxBits_ne_null (c : ColumnType) : c.auxBits ≠ .null := by
  rcases auxBits_cases c with h | h | h <;> rw [h] <;> simp

@[simp] theorem ColImage.bits_ofBits (bits : ColBits) (bytes : List UInt8) :
    (ColImage.ofBits bits bytes).bits = bits := by
  cases bits <;> rfl

theorem newDecimal_of_var {c : ColumnType} (hbits : c.auxBits = .var)
    (hkind : c.auxKind = .numeric) : ∃ p s, c = .newDecimal p s := by
  cases c with
  | newDecimal p s => exact ⟨p, s, rfl⟩
  | enum n => by_cases h : enumStorageType n = .longlong <;> simp [ColumnType.auxBits, h] at hbits
  | set n => by_cases h : enumStorageType n = .longlong <;> simp [ColumnType.auxBits, h] at hbits
  | _ => simp [ColumnType.auxBits, ColumnType.auxKind] at hbits hkind

theorem auxBits_datetime {c : ColumnType} (hkind : c.auxKind = .datetime) : c.auxBits = .eight := by
  cases c with
  | _ => first | rfl | cases hkind

theorem auxType_datetime {c : ColumnType} (hkind : c.auxKind = .datetime) :
    c.auxType = c.type := by
  cases c with
  | _ => first | rfl | cases hkind

theorem auxBits_string {c : ColumnType} (hkind : c.auxKind = .string) : c.auxBits = .var := by
  cases c with
  | _ => first | rfl | cases hkind

theorem auxBits_lob {c : ColumnType} (hkind : c.auxKind = .lob) : c.auxBits = .var := by
  cases c with
  | _ => first | rfl | cases hkind

section

variable {mysqlInfo : FieldCnvrtAux} {lob : σ} {columnId fieldLen off : Nat}
  {lengthPrefix : List UInt8} {out : StoredField σ}

/-- The image of a DECIMAL is found at the offset of its column. -/
theorem getMapAndFieldLen_decimal {p s : Nat} (hc : field.columnType = .newDecimal p s)
    (hinfo : IsAux mysqlInfo field.columnType) :
    ∃ len lengthPrefix, getMapAndFieldLen build mysqlInfo field record field.offset =
      .ok (len, field.offset, lengthPrefix) := by
  have htype := hinfo.type
  have hbits := hinfo.bits
  have hkind := hinfo.kind
  rw [hc] at htype hbits hkind
  unfold getMapAndFieldLen calculateVariableLen
  rw [hbits, hkind, htype]
  exact ⟨_, _, rfl⟩

/-- A DECIMAL: its length is stored once the digits are known. -/
theorem storeDecimal_spec (hnull : record.isNull field = false) {p s : Nat}
    (hc : field.columnType = .newDecimal p s) (hvalid : field.columnType.Valid)
    (hinfo : IsAux mysqlInfo field.columnType)
    (hmap : getMapAndFieldLen build mysqlInfo field record field.offset =
      .ok (fieldLen, off, lengthPrefix))
    (h : convertDataFromMysqlToCantian build prims store mysqlInfo field record off fieldLen
      lengthPrefix lob columnId = .ok out) :
    ∃ img, Stores build prims contents record field lob field.columnType.auxBits out img := by
  have hkind := hinfo.kind
  rw [hc] at hkind
  obtain ⟨len, pre, hplace⟩ := @getMapAndFieldLen_decimal build record field mysqlInfo p s hc hinfo
  rw [hplace] at hmap
  cases hmap
  unfold convertDataFromMysqlToCantian at h
  rw [hkind] at h
  obtain ⟨⟨bytes, len⟩, hconv, h⟩ := result_bind_eq_ok.mp h
  cases h
  obtain ⟨-, -, hlen⟩ := length_convertNumericToCantian hinfo.type hvalid (by rw [hc]; rfl)
    (record.length_readBytes _ _) hconv
  obtain ⟨rfl, hle⟩ := hlen (by rw [hc]; rfl)
  have himg : FieldImage build prims contents lob record field
      (.ofBits field.columnType.auxBits bytes) :=
    .numeric hnull (by rw [hc]; rfl) hinfo.type hconv
  rw [hc] at himg
  refine ⟨.var bytes, himg, ?_, ?_, ?_, ?_, fun _ _ hk => hk⟩
  · rw [hc]
    rfl
  · simp [ColImage.stored, hc, ColumnType.type]
  · rw [hc]
    rfl
  · show bytes.length < 65536
    omega

/-- The other numeric columns and the temporal ones take four or eight bytes. -/
theorem getMapAndFieldLen_fixed (hinfo : IsAux mysqlInfo field.columnType)
    (hbits : field.columnType.auxBits ≠ .var) :
    getMapAndFieldLen build mysqlInfo field record field.offset =
      .ok ((ColImage.ofBits field.columnType.auxBits []).width, field.offset, []) := by
  unfold getMapAndFieldLen
  rw [hinfo.bits]
  rcases auxBits_cases field.columnType with h | h | h
  · rw [h]
    rfl
  · rw [h]
    rfl
  · exact absurd h hbits

theorem stores_fixed {bits : ColBits} {bytes : List UInt8} {serial : Option Nat}
    (hbits : bits ≠ .var)
    (h4 : bits = .four → bytes.length = 4) (h8 : bits = .eight → bytes.length = 8)
    (himg : FieldImage build prims contents lob record field (.ofBits bits bytes))
    (hnull : bits ≠ .null) :
    Stores build prims contents record field lob bits
      ⟨lob, bytes, (ColImage.ofBits bits []).width, serial⟩ (.ofBits bits bytes) := by
  cases bits with
  | null => exact absurd rfl hnull
  | four => exact ⟨himg, rfl, rfl, rfl, h4 rfl, fun _ _ hk => hk⟩
  | eight => exact ⟨himg, rfl, rfl, rfl, h8 rfl, fun _ _ hk => hk⟩
  | var => exact absurd rfl hbits

theorem storeNumeric_spec (hnull : record.isNull field = false) (hvalid : field.columnType.Valid)
    (hkind : field.columnType.auxKind = .numeric) (hinfo : IsAux mysqlInfo field.columnType)
    (hmap : getMapAndFieldLen build mysqlInfo field record field.offset =
      .ok (fieldLen, off, lengthPrefix))
    (h : convertDataFromMysqlToCantian build prims store mysqlInfo field record off fieldLen
      lengthPrefix lob columnId = .ok out) :
    ∃ img, Stores build prims contents record field lob field.columnType.auxBits out img := by
  by_cases hbits : field.columnType.auxBits = .var
  · obtain ⟨p, s, hc⟩ := newDecimal_of_var hbits hkind
    exact storeDecimal_spec hnull hc hvalid hinfo hmap h
  · rw [getMapAndFieldLen_fixed hinfo hbits] at hmap
    cases hmap
    unfold convertDataFromMysqlToCantian at h
    rw [hinfo.kind, hkind] at h
    obtain ⟨⟨bytes, len⟩, hconv, h⟩ := result_bind_eq_ok.mp h
    obtain ⟨h4, h8, -⟩ := length_convertNumericToCantian hinfo.type hvalid hkind
      (record.length_readBytes _ _) hconv
    have hnot : field.columnType.type ≠ .newDecimal := by
      intro ht
      cases hc : field.columnType <;> rw [hc] at ht hbits <;> cases ht
      exact hbits rfl
    have hlen : len = (ColImage.ofBits field.columnType.auxBits []).width := by
      rcases auxBits_cases field.columnType with hb | hb | hb
      · exact (h4 hb).2
      · exact (h8 hb).2
      · exact absurd hb hbits
    subst hlen
    simp only [hnot, if_false, List.nil_append] at h
    cases h
    refine ⟨.ofBits field.columnType.auxBits bytes, ?_⟩
    apply stores_fixed hbits (fun hb => (h4 hb).1) (fun hb => (h8 hb).1)
    · exact .numeric hnull hkind hinfo.type hconv
    · exact auxBits_ne_null _

theorem storeDatetime_spec (hnull : record.isNull field = false)
    (hkind : field.columnType.auxKind = .datetime) (hinfo : IsAux mysqlInfo field.columnType)
    (hmap : getMapAndFieldLen build mysqlInfo field record field.offset =
      .ok (fieldLen, off, lengthPrefix))
    (h : convertDataFromMysqlToCantian build prims store mysqlInfo field record off fieldLen
      lengthPrefix lob columnId = .ok out) :
    ∃ img, Stores build prims contents record field lob field.columnType.auxBits out img := by
  have hbits := auxBits_datetime hkind
  rw [getMapAndFieldLen_fixed hinfo (by rw [hbits]; simp)] at hmap
  cases hmap
  unfold convertDataFromMysqlToCantian at h
  rw [hinfo.kind, hkind] at h
  obtain ⟨bytes, hconv, h⟩ := result_bind_eq_ok.mp h
  cases h
  rw [hbits]
  refine ⟨.eight bytes, ?_⟩
  have h8 := length_convertDatetimeToCantian hconv
  exact ⟨.datetime hnull hkind hinfo.type hconv, rfl, rfl, rfl, h8, fun _ _ hk => hk⟩

/-- The length and the place of a CHAR or VARCHAR value. -/
theorem getMapAndFieldLen_string (hkind : field.columnType.auxKind = .string)
    (hinfo : IsAux mysqlInfo field.columnType) :
    getMapAndFieldLen build mysqlInfo field record field.offset =
      .ok ((record.stringData field).length, field.offset + field.columnType.lengthBytes,
        if varcharAsBlob field.columnType.rowPackLength then []
        else Bytes.le 2 (record.stringData field).length) := by
  have htype := hinfo.type
  have hbits := hinfo.bits
  have hdata := hinfo.kind
  unfold getMapAndFieldLen MysqlRecord.stringData
  cases hc : field.columnType with
  | varchar n =>
    rw [hc] at htype hbits hdata
    simp [hbits, hdata, htype, ColumnType.auxBits, ColumnType.auxKind, ColumnType.auxType,
      ColumnType.type, calculateVariableLen, hc, MysqlRecord.length_readBytes]
  | string n padChar =>
    rw [hc] at htype hbits hdata
    simp [hbits, hdata, htype, ColumnType.auxBits, ColumnType.auxKind, ColumnType.auxType,
      ColumnType.type, calculateVariableLen, hc, MysqlRecord.length_readBytes,
      ColumnType.lengthBytes]
  | _ =>
    rw [hc] at hkind
    cases hkind

theorem readBytes_stringData (hkind : field.columnType.auxKind = .string) :
    record.readBytes (field.offset + field.columnType.lengthBytes)
      (record.stringData field).length = record.stringData field := by
  unfold MysqlRecord.stringData
  cases hc : field.columnType with
  | varchar n => simp [MysqlRecord.length_readBytes]
  | string n padChar => simp [MysqlRecord.length_readBytes]
  | _ =>
    rw [hc] at hkind
    cases hkind

theorem stores_lob (hlaw : store.Lawful contents) {blob bytes : List UInt8} {lob' : σ}
    (hblob : blob.length < 2 ^ 32)
    (hrun : convertBlobToCantian store build lob blob columnId = .ok (lob', bytes, fieldLen))
    (himg : ∀ locator, LobAt contents lob' locator blob →
      FieldImage build prims contents lob' record field (.var locator)) :
    ∃ img, Stores build prims contents record field lob .var ⟨lob', bytes, fieldLen, none⟩ img := by
  obtain ⟨locator, rfl, rfl, hlen, hat, hkeep⟩ := convertBlobToCantian_spec hlaw hblob hrun
  refine ⟨.var locator, himg locator hat, rfl, rfl, rfl, ?_, hkeep⟩
  show locator.length < 65536
  rw [hlen, lobFieldLen]
  unfold lobMaxInlineSize lobLocatorBufSize lobDataOffset lobLocatorSize
  split <;> omega

theorem storeString_spec (hlaw : store.Lawful contents) (hnull : record.isNull field = false)
    (hvalid : field.columnType.Valid) (hkind : field.columnType.auxKind = .string)
    (hinfo : IsAux mysqlInfo field.columnType)
    (hmap : getMapAndFieldLen build mysqlInfo field record field.offset =
      .ok (fieldLen, off, lengthPrefix))
    (h : convertDataFromMysqlToCantian build prims store mysqlInfo field record off fieldLen
      lengthPrefix lob columnId = .ok out) :
    ∃ img, Stores build prims contents record field lob field.columnType.auxBits out img := by
  have hlt := length_stringData_lt record hvalid
  rw [getMapAndFieldLen_string hkind hinfo] at hmap
  cases hmap
  unfold convertDataFromMysqlToCantian at h
  rw [hinfo.kind, hkind] at h
  simp only [readBytes_stringData hkind] at h
  rw [auxBits_string hkind]
  by_cases hlong : varcharAsBlob field.columnType.rowPackLength = true
  · rw [if_pos hlong] at h
    obtain ⟨⟨lob', bytes, len⟩, hrun, h⟩ := result_bind_eq_ok.mp h
    cases h
    apply stores_lob hlaw (by omega) hrun
    intro locator hat
    exact .stringLob hnull hkind hlong hat
  · rw [if_neg hlong, if_neg hlong] at h
    cases h
    refine ⟨.var (record.stringData field), ?_, rfl, rfl, rfl, hlt, fun _ _ hk => hk⟩
    exact .string hnull hkind (by simpa using hlong)

theorem storeLob_spec (hlaw : store.Lawful contents) (hnull : record.isNull field = false)
    (hvalid : field.columnType.Valid) (hkind : field.columnType.auxKind = .lob)
    (hinfo : IsAux mysqlInfo field.columnType)
    (hmap : getMapAndFieldLen build mysqlInfo field record field.offset =
      .ok (fieldLen, off, lengthPrefix))
    (h : convertDataFromMysqlToCantian build prims store mysqlInfo field record off fieldLen
      lengthPrefix lob columnId = .ok out) :
    ∃ img, Stores build prims contents record field lob field.columnType.auxBits out img := by
  have hbits := auxBits_lob hkind
  simp only [getMapAndFieldLen, hinfo.bits, hbits, hinfo.kind, hkind, if_true] at hmap
  cases hmap
  unfold convertDataFromMysqlToCantian at h
  rw [hinfo.kind, hkind] at h
  obtain ⟨⟨lob', bytes, len⟩, hrun, h⟩ := result_bind_eq_ok.mp h
  cases h
  rw [hbits]
  apply stores_lob hlaw (length_blobData_lt record hvalid hkind field.offset) hrun
  intro locator hat
  exact .lob hnull hkind hat

end

/-- Storing a column that is not NULL, whatever its type. -/
theorem storeField_spec (hlaw : store.Lawful contents) (hvalid : field.columnType.Valid)
    (hnull : record.isNull field = false) {lob : σ} {columnId : Nat} {map : ColBits}
    {out : StoredField σ}
    (h : storeField build prims store field record lob columnId = .ok (map, out)) :
    ∃ img, Stores build prims contents record field lob map out img := by
  obtain ⟨ddl, haux⟩ := getAuxiliary_columnType field
  unfold storeField at h
  rw [haux] at h
  obtain ⟨⟨fieldLen, off, lengthPrefix⟩, hmap, h⟩ := result_bind_eq_ok.mp h
  obtain ⟨out', hconv, h⟩ := result_bind_eq_ok.mp h
  cases h
  have hinfo : IsAux ⟨field.columnType.auxType, field.columnType.auxBits,
    field.columnType.auxKind, ddl⟩ field.columnType := ⟨rfl, rfl, rfl⟩
  cases hkind : field.columnType.auxKind with
  | unknown => cases hc : field.columnType <;> rw [hc] at hkind <;> cases hkind
  | numeric => exact storeNumeric_spec hnull hvalid hkind hinfo hmap hconv
  | datetime => exact storeDatetime_spec hnull hkind hinfo hmap hconv
  | string => exact storeString_spec hlaw hnull hvalid hkind hinfo hmap hconv
  | lob => exact storeLob_spec hlaw hnull hvalid hkind hinfo hmap hconv

end

/-! ## The columns of a record -/

section

variable {σ : Type} (build : Build) (prims : ServerPrims) (store : LobStore σ) (table : Table)
  (record : MysqlRecord)

/-- Storing the columns of a list as columns `k`, `k + 1` and so on of the row. -/
def putFields : List Nat → Nat → RowBuf σ → Result (RowBuf σ)
  | [], _, row => .ok row
  | columnId :: ids, k, row =>
    match table.fields[columnId]? with
    | none => .error .undefined
    | some field => do
      let row ← putField build prims store record field columnId k row
      putFields ids (k + 1) row

end

/-- Is the column with this id stored in a row? -/
def Table.isStored (table : Table) (columnId : Nat) : Bool :=
  !((table.fields[columnId]?).any Field.isVirtualGcol)

/-- The columns that the row of an insert or an update holds. -/
def Table.encodedColumns (table : Table) (fields : Option (List Nat)) : List Nat :=
  (fields.getD (List.range table.fields.length)).filter table.isStored

/-- The number of a column in Cantian. -/
def Table.cantianId (table : Table) (columnId : Nat) : Nat :=
  columnId - calGcolCntsForUpdate table.fields columnId

section

variable {σ : Type} {build : Build} {prims : ServerPrims} {store : LobStore σ} {table : Table}
  {contents : σ → List UInt8 → Option (List UInt8)} {record : MysqlRecord}

/-- The images of a list of columns. -/
def FieldImages (build : Build) (prims : ServerPrims)
    (contents : σ → List UInt8 → Option (List UInt8)) (table : Table) (record : MysqlRecord)
    (s : σ) (ids : List Nat) (imgs : List ColImage) : Prop :=
  List.Forall₂ (fun id img => ∃ field, table.fields[id]? = some field ∧
    FieldImage build prims contents s record field img ∧ img.Sized) ids imgs

theorem FieldImages.sized {s : σ} {ids : List Nat} {imgs : List ColImage}
    (h : FieldImages build prims contents table record s ids imgs) : ∀ img ∈ imgs, img.Sized := by
  induction h with
  | nil => simp
  | cons himg _ ih =>
    obtain ⟨_, -, -, hsized⟩ := himg
    exact List.forall_mem_cons.mpr ⟨hsized, ih⟩

theorem putField_spec (hlaw : store.Lawful contents) {field : Field}
    (hvalid : field.columnType.Valid) {columnId k : Nat} {row row' : RowBuf σ}
    (h : putField build prims store record field columnId k row = .ok row') :
    ∃ img, FieldImage build prims contents row'.lob record field img ∧ img.Sized ∧
      row'.buf = rowSetColumnBits2 (row.buf.write row.offset img.stored) img.bits.code k ∧
      row'.offset = row.offset + img.width ∧
      ∀ key w, contents row.lob key = some w → contents row'.lob key = some w := by
  unfold putField at h
  by_cases hnull : record.isNull field = true
  · rw [if_pos hnull] at h
    cases h
    refine ⟨.null, .null hnull, trivial, ?_, rfl, fun _ _ hk => hk⟩
    simp [ColImage.stored, ColImage.bits]
  · rw [if_neg hnull] at h
    obtain ⟨⟨map, out⟩, hstore, h⟩ := result_bind_eq_ok.mp h
    cases h
    obtain ⟨img, himg⟩ := storeField_spec hlaw hvalid (by simpa using hnull) hstore
    refine ⟨img, himg.image, himg.sized, ?_, ?_, himg.keep⟩
    · simp only [himg.stored, himg.bits]
    · simp only [himg.width]

/-- Storing columns amounts to storing their images. -/
theorem putFields_spec (hlaw : store.Lawful contents)
    (hvalid : ∀ f ∈ table.fields, f.columnType.Valid) {ids : List Nat} {k : Nat}
    {row row' : RowBuf σ} (h : putFields build prims store table record ids k row = .ok row') :
    ∃ imgs, FieldImages build prims contents table record row'.lob ids imgs ∧
      (row'.buf, row'.offset) = putColumns imgs k (row.buf, row.offset) ∧
      ∀ key w, contents row.lob key = some w → contents row'.lob key = some w := by
  induction ids generalizing k row with
  | nil =>
    cases h
    exact ⟨[], .nil, rfl, fun _ _ hk => hk⟩
  | cons id ids ih =>
    rw [putFields] at h
    cases hfield : table.fields[id]? with
    | none =>
      rw [hfield] at h
      cases h
    | some field =>
      rw [hfield] at h
      obtain ⟨row1, hput, hrest⟩ := result_bind_eq_ok.mp h
      obtain ⟨img, himg, hsized, hbuf, hoff, hkeep1⟩ :=
        putField_spec hlaw (hvalid field (List.mem_of_getElem? hfield)) hput
      obtain ⟨imgs, himgs, hput2, hkeep2⟩ := ih hrest
      refine ⟨img :: imgs, ?_, ?_, fun key w hk => hkeep2 key w (hkeep1 key w hk)⟩
      · exact .cons ⟨field, hfield, himg.mono hkeep2, hsized⟩ himgs
      · rw [hput2, putColumns, hbuf, hoff]

/-! ## The loop stores the columns -/

theorem calGcolCntsForUpdate_le (fields : List Field) (columnId : Nat) :
    calGcolCntsForUpdate fields columnId ≤ columnId := by
  unfold calGcolCntsForUpdate
  exact List.countP_le_length.trans (List.length_take_le _ _)

theorem calGcolCntsForUpdate_succ {fields : List Field} {columnId : Nat} {field : Field}
    (h : fields[columnId]? = some field) :
    calGcolCntsForUpdate fields (columnId + 1) =
      calGcolCntsForUpdate fields columnId + (if field.isVirtualGcol then 1 else 0) := by
  unfold calGcolCntsForUpdate
  rw [List.take_add_one, h, List.countP_append]
  simp

theorem cantianId_succ {columnId : Nat} {field : Field}
    (h : table.fields[columnId]? = some field) :
    table.cantianId (columnId + 1) =
      table.cantianId columnId + (if field.isVirtualGcol then 0 else 1) := by
  have hle := calGcolCntsForUpdate_le table.fields columnId
  unfold Table.cantianId
  rw [calGcolCntsForUpdate_succ h]
  split <;> omega

theorem isStored_of_getElem? {columnId : Nat} {field : Field}
    (h : table.fields[columnId]? = some field) :
    table.isStored columnId = !field.isVirtualGcol := by
  simp [Table.isStored, h]

/-- The insert loop at column `c`, with the virtual columns before it counted. -/
theorem encodeLoop_insert (fuel : Nat) {st st' : EncodeState σ}
    (hn : st.nFields = table.fields.length) (hle : st.columnCnt ≤ st.nFields)
    (hfuel : st.nFields ≤ st.columnCnt + fuel)
    (hv : st.virtualGcolCnt = calGcolCntsForUpdate table.fields st.columnCnt)
    (h : encodeLoop build prims store table record false fuel st = .ok st') :
    putFields build prims store table record
        ((List.range' st.columnCnt (st.nFields - st.columnCnt)).filter table.isStored)
        (table.cantianId st.columnCnt) st.row = .ok st'.row ∧
      st'.nFields = st.nFields ∧
      st'.virtualGcolCnt = calGcolCntsForUpdate table.fields st.nFields ∧
      st'.fields = st.fields := by
  induction fuel generalizing st with
  | zero =>
    have hc : st.columnCnt = st.nFields := by omega
    cases h
    rw [hc, Nat.sub_self]
    exact ⟨rfl, rfl, by rw [hv, hc], rfl⟩
  | succ fuel ih =>
    rw [encodeLoop] at h
    by_cases hlt : st.columnCnt < st.nFields
    · rw [if_pos hlt] at h
      obtain ⟨st1, hstep, hrest⟩ := result_bind_eq_ok.mp h
      obtain ⟨field, hfield⟩ : ∃ field, table.fields[st.columnCnt]? = some field :=
        ⟨_, List.getElem?_eq_getElem (by omega)⟩
      have hid := cantianId_succ hfield
      have hcal := calGcolCntsForUpdate_succ hfield
      have hstored := isStored_of_getElem? hfield
      rw [show st.nFields - st.columnCnt = (st.nFields - (st.columnCnt + 1)) + 1 by omega,
        List.range'_succ]
      simp only [encodeStep, Bool.false_eq_true, if_false, hfield, Bool.false_and] at hstep
      cases hvirt : field.isVirtualGcol with
      | true =>
        simp only [hvirt, if_true] at hstep hid hcal
        cases hstep
        rw [List.filter_cons_of_neg (by simp [hstored, hvirt])]
        have hrun := @ih { st with
          virtualGcolCnt := st.virtualGcolCnt + 1, columnCnt := st.columnCnt + 1 } hn hlt
          (by simp only; omega) (by simp only; omega) hrest
        simp only [hid, Nat.add_zero] at hrun
        exact hrun
      | false =>
        simp only [hvirt, Bool.false_eq_true, if_false] at hstep hid hcal
        obtain ⟨row, hput, hstep⟩ := result_bind_eq_ok.mp hstep
        cases hstep
        rw [List.filter_cons_of_pos (by simp [hstored, hvirt]), putFields, hfield]
        have hrun := @ih { st with columnCnt := st.columnCnt + 1, row := row } hn hlt
          (by simp only; omega) (by simp only; omega) hrest
        simp only [hid] at hrun
        have hk : st.columnCnt - st.virtualGcolCnt = table.cantianId st.columnCnt := by
          rw [hv, Table.cantianId]
        rw [hk] at hput
        simp only [hput, result_bind_ok]
        exact hrun
    · have hc : st.columnCnt = st.nFields := by omega
      rw [if_neg hlt] at h
      cases h
      rw [hc, Nat.sub_self]
      exact ⟨rfl, rfl, by rw [hv, hc], rfl⟩

theorem Field.isGcol_of_virtual {field : Field} (h : field.isVirtualGcol = true) :
    field.isGcol = true := by
  unfold Field.isVirtualGcol at h
  unfold Field.isGcol
  rw [eq_of_beq h]
  rfl

/-- Without generated columns the numbers of the columns are the same on both sides. -/
theorem cantianId_of_no_gcol (h : table.hasGcol = false) (columnId : Nat) :
    table.cantianId columnId = columnId := by
  have hzero : calGcolCntsForUpdate table.fields columnId = 0 := by
    unfold calGcolCntsForUpdate
    rw [List.countP_eq_zero]
    intro field hfield hvirt
    have hany := List.any_eq_false.mp h field (List.mem_of_mem_take hfield)
    exact hany (Field.isGcol_of_virtual hvirt)
  rw [Table.cantianId, hzero, Nat.sub_zero]

/-- One round of the update loop at the entry `id` of the list: a virtual column is erased,
another one is stored and its entry rewritten. -/
theorem encodeStep_update {done rest : List Nat} {id : Nat} {st st1 : EncodeState σ}
    (hfields : st.fields = done ++ id :: rest) (hcnt : st.columnCnt = done.length)
    (hv : table.hasGcol = false → st.virtualGcolCnt = 0)
    (h : encodeStep build prims store table record true st = .ok st1) :
    (table.isStored id = false ∧
      st1 = { st with fields := done ++ rest, nFields := st.nFields - 1 }) ∨
    (table.isStored id = true ∧ ∃ row v, putFields build prims store table record [id] done.length
        st.row = .ok row ∧ (table.hasGcol = false → v = 0) ∧
      st1 = { st with
        columnCnt := done.length + 1
        virtualGcolCnt := v
        fields := done ++ table.cantianId id :: rest
        row := row }) := by
  have hget : st.fields[st.columnCnt]? = some id := by
    rw [hfields, hcnt]
    simp
  simp only [encodeStep, if_true, hget] at h
  cases hfield : table.fields[id]? with
  | none =>
    rw [hfield] at h
    cases h
  | some field =>
    have hstored := isStored_of_getElem? hfield
    simp only [hfield] at h
    cases hvirt : field.isVirtualGcol with
    | true =>
      simp only [hvirt, if_true, Except.ok.injEq] at h
      refine Or.inl ⟨by simp [hstored, hvirt], ?_⟩
      rw [← h, hfields, hcnt]
      simp [List.eraseIdx_append_of_length_le]
    | false =>
      simp only [hvirt, Bool.false_eq_true, if_false, Bool.true_and] at h
      refine Or.inr ⟨by simp [hstored, hvirt], ?_⟩
      simp only [putFields, hfield]
      cases hgcol : table.hasGcol with
      | true =>
        simp only [hgcol, if_true] at h
        obtain ⟨row, hput, h⟩ := result_bind_eq_ok.mp h
        cases h
        rw [hcnt] at hput
        refine ⟨row, calGcolCntsForUpdate table.fields id, ?_, by simp, ?_⟩
        · rw [hput]
          rfl
        · rw [hcnt, hfields]
          simp [Table.cantianId]
      | false =>
        simp only [hgcol, Bool.false_eq_true, if_false, hv hgcol, Nat.sub_zero] at h
        obtain ⟨row, hput, h⟩ := result_bind_eq_ok.mp h
        cases h
        rw [hcnt] at hput
        refine ⟨row, 0, ?_, fun _ => rfl, ?_⟩
        · rw [hput]
          rfl
        · rw [hcnt, cantianId_of_no_gcol hgcol, ← hfields]

theorem putFields_cons {id k : Nat} {ids : List Nat} {row row1 : RowBuf σ}
    (h : putFields build prims store table record [id] k row = .ok row1) :
    putFields build prims store table record (id :: ids) k row =
      putFields build prims store table record ids (k + 1) row1 := by
  rw [putFields] at h ⊢
  cases hfield : table.fields[id]? with
  | none =>
    rw [hfield] at h
    cases h
  | some field =>
    rw [hfield] at h
    obtain ⟨row2, hput, h⟩ := result_bind_eq_ok.mp h
    cases h
    simp only [hput, result_bind_ok]

/-- The update loop, with the entries `done` behind it and `rest` before it. -/
theorem encodeLoop_update (fuel : Nat) {done rest : List Nat} {st st' : EncodeState σ}
    (hfields : st.fields = done ++ rest) (hcnt : st.columnCnt = done.length)
    (hn : st.nFields = st.fields.length) (hfuel : rest.length ≤ fuel)
    (hv : table.hasGcol = false → st.virtualGcolCnt = 0)
    (h : encodeLoop build prims store table record true fuel st = .ok st') :
    putFields build prims store table record (rest.filter table.isStored) done.length st.row =
        .ok st'.row ∧
      st'.fields = done ++ (rest.filter table.isStored).map table.cantianId ∧
      st'.nFields = st'.fields.length := by
  induction fuel generalizing done rest st with
  | zero =>
    have hrest : rest = [] := List.length_eq_zero_iff.mp (by omega)
    subst hrest
    cases h
    exact ⟨rfl, by simpa using hfields, hn⟩
  | succ fuel ih =>
    rw [encodeLoop] at h
    cases rest with
    | nil =>
      rw [if_neg (by rw [hn, hfields, hcnt]; simp)] at h
      cases h
      exact ⟨rfl, by simpa using hfields, hn⟩
    | cons id rest =>
      rw [if_pos (by rw [hn, hfields, hcnt]; simp)] at h
      rw [List.length_cons] at hfuel
      obtain ⟨st1, hstep, hrest⟩ := result_bind_eq_ok.mp h
      rcases encodeStep_update hfields hcnt hv hstep with ⟨hvirt, hst1⟩ |
        ⟨hstored, row, v, hput, hv', hst1⟩
      · have hf : st1.fields = done ++ rest := by rw [hst1]
        have hn1 : st1.nFields = st1.fields.length := by
          rw [hst1]
          simp only [hn, hfields, List.length_append, List.length_cons]
          omega
        have hrow : st1.row = st.row := by rw [hst1]
        rw [List.filter_cons_of_neg (by simp [hvirt]), ← hrow]
        exact ih hf (by rw [hst1]; exact hcnt) hn1 (by omega) (by rw [hst1]; exact hv) hrest
      · have hf : st1.fields = (done ++ [table.cantianId id]) ++ rest := by
          rw [hst1]
          simp
        have hn1 : st1.nFields = st1.fields.length := by
          rw [hst1]
          simp [hn, hfields]
        have hrun := ih hf (by rw [hst1]; simp) hn1 (by omega) (by rw [hst1]; exact hv') hrest
        rw [List.filter_cons_of_pos (by simp [hstored]), putFields_cons hput, List.map_cons]
        have hrow : st1.row = row := by rw [hst1]
        rw [hrow, List.length_append, List.append_assoc] at hrun
        exact hrun

/-- The number of a column in Cantian counts the stored columns before it. -/
theorem length_filter_isStored {columnId : Nat} (h : columnId ≤ table.fields.length) :
    ((List.range columnId).filter table.isStored).length = table.cantianId columnId := by
  induction columnId with
  | zero => rfl
  | succ n ih =>
    obtain ⟨field, hfield⟩ : ∃ field, table.fields[n]? = some field :=
      ⟨_, List.getElem?_eq_getElem (by omega)⟩
    rw [List.range_succ, List.filter_append, List.length_append, ih (by omega),
      cantianId_succ hfield, List.filter_singleton, isStored_of_getElem? hfield]
    cases field.isVirtualGcol <;> rfl

/-- A stored column stands at its Cantian number among the encoded columns. -/
theorem encodedColumns_getElem? {c : Nat} {field : Field} (hfield : table.fields[c]? = some field)
    (hstored : field.isVirtualGcol = false) :
    (table.encodedColumns none)[table.cantianId c]? = some c := by
  obtain ⟨hlt, -⟩ := List.getElem?_eq_some_iff.mp hfield
  have hlen := @length_filter_isStored table c hlt.le
  obtain ⟨k, hk⟩ : ∃ k, table.fields.length = c + (k + 1) :=
    ⟨table.fields.length - c - 1, by omega⟩
  unfold Table.encodedColumns
  rw [Option.getD_none, hk, List.range_eq_range', ← List.range'_append_1, List.filter_append,
    List.getElem?_append_right (by rw [← List.range_eq_range', hlen]), ← List.range_eq_range',
    hlen, Nat.sub_self, Nat.zero_add, List.range'_succ, List.filter_cons_of_pos]
  · rfl
  · rw [isStored_of_getElem? hfield, hstored]
    rfl

theorem exMapColumns_insert : exMapColumns table none = (table.encodedColumns none).length := by
  change _ = ((List.range table.fields.length).filter table.isStored).length
  rw [length_filter_isStored le_rfl]
  unfold exMapColumns
  cases hgcol : table.hasGcol with
  | true => rfl
  | false => rw [cantianId_of_no_gcol hgcol]; rfl

/-- **What a successful encoding leaves in the buffer:** one image for each encoded column, in
order, from `firstFieldOffset` on. -/
theorem mysqlRecordToCantianRecord_spec (hlaw : store.Lawful contents)
    (hvalid : ∀ f ∈ table.fields, f.columnType.Valid) {buf : Mem UInt8} {lob : σ}
    {fields : Option (List Nat)} {out : EncodedRecord σ}
    (h : mysqlRecordToCantianRecord build prims store table record buf lob fields = .ok out) :
    ∃ imgs, FieldImages build prims contents table record out.lob (table.encodedColumns fields)
        imgs ∧
      out.size = firstFieldOffset table fields + widths imgs ∧
      out.buf = setRowHead (putColumns imgs 0 (buf, firstFieldOffset table fields)).1 out.size
        imgs.length ∧
      (fields.isSome → out.fields = (table.encodedColumns fields).map table.cantianId) := by
  unfold mysqlRecordToCantianRecord at h
  obtain ⟨st, hloop, h⟩ := result_bind_eq_ok.mp h
  cases h
  have hrun : putFields build prims store table record (table.encodedColumns fields) 0
        ⟨buf, firstFieldOffset table fields, lob, 0⟩ = .ok st.row ∧
      (if fields.isSome then st.nFields else st.nFields - st.virtualGcolCnt) =
        (table.encodedColumns fields).length ∧
      (fields.isSome → st.fields = (table.encodedColumns fields).map table.cantianId) := by
    cases fields with
    | none =>
      obtain ⟨hput, hn, hv, -⟩ := encodeLoop_insert table.fields.length rfl (Nat.zero_le _)
        (by simp) rfl hloop
      refine ⟨?_, ?_, by simp⟩
      · simpa [List.range_eq_range', Table.encodedColumns, Table.cantianId] using hput
      · change _ = ((List.range table.fields.length).filter table.isStored).length
        rw [length_filter_isStored le_rfl, hn, hv]
        rfl
    | some ids =>
      obtain ⟨hput, hf, hn⟩ := encodeLoop_update ids.length (List.nil_append ids).symm rfl rfl
        le_rfl (fun _ => rfl) hloop
      refine ⟨hput, ?_, fun _ => hf⟩
      rw [hn, hf]
      simp [Table.encodedColumns]
  obtain ⟨hput, hcount, hfields⟩ := hrun
  obtain ⟨imgs, himgs, hcols, -⟩ := putFields_spec hlaw hvalid hput
  have hlen : (table.encodedColumns fields).length = imgs.length := himgs.length_eq
  have hoff : st.row.offset = firstFieldOffset table fields + widths imgs := by
    have := congrArg Prod.snd hcols
    rwa [putColumns_offset] at this
  refine ⟨imgs, himgs, hoff, ?_, hfields⟩
  simp only [hcount, hlen, ← hcols]

/-- An insert fails only at a column that cannot be stored. -/
theorem mysqlRecordToCantianRecord_insert_error {buf : Mem UInt8} {lob : σ} {e : Failure}
    (h : mysqlRecordToCantianRecord build prims store table record buf lob none = .error e) :
    ∃ id field k row, table.fields[id]? = some field ∧ field.isVirtualGcol = false ∧
      putField build prims store record field id k row = .error e := by
  have hloop : ∀ fuel (st : EncodeState σ), st.nFields = table.fields.length →
      encodeLoop build prims store table record false fuel st = .error e →
      ∃ id field k row, table.fields[id]? = some field ∧ field.isVirtualGcol = false ∧
        putField build prims store record field id k row = .error e := by
    intro fuel
    induction fuel with
    | zero =>
      intro st _ hrun
      cases hrun
    | succ fuel ih =>
      intro st hn hrun
      rw [encodeLoop] at hrun
      by_cases hlt : st.columnCnt < st.nFields
      · obtain ⟨field, hfield⟩ : ∃ field, table.fields[st.columnCnt]? = some field :=
          ⟨_, List.getElem?_eq_getElem (by omega)⟩
        rw [if_pos hlt] at hrun
        simp only [encodeStep, Bool.false_eq_true, if_false, hfield, Bool.false_and] at hrun
        cases hvirt : field.isVirtualGcol with
        | true =>
          rw [hvirt, if_pos rfl, result_bind_ok] at hrun
          exact ih _ (by exact hn) hrun
        | false =>
          rw [hvirt, if_neg Bool.false_ne_true] at hrun
          rcases result_bind_eq_error.mp hrun with hput | ⟨st', hput, hrest⟩
          · rcases result_bind_eq_error.mp hput with hput | ⟨row, -, hout⟩
            · exact ⟨_, field, _, _, hfield, hvirt, hput⟩
            · cases hout
          · obtain ⟨row, -, hout⟩ := result_bind_eq_ok.mp hput
            cases hout
            exact ih _ (by exact hn) hrest
      · rw [if_neg hlt] at hrun
        cases hrun
  unfold mysqlRecordToCantianRecord at h
  rcases result_bind_eq_error.mp h with hrun | ⟨st, -, hout⟩
  · exact hloop _ _ (by rfl) hrun
  · cases hout

theorem putField_error {field : Field} {id k : Nat} {row : RowBuf σ} {e : Failure}
    (h : putField build prims store record field id k row = .error e) :
    record.isNull field = false ∧
      storeField build prims store field record row.lob id = .error e := by
  unfold putField at h
  cases hnull : record.isNull field with
  | true =>
    rw [hnull, if_pos rfl] at h
    cases h
  | false =>
    rw [hnull, if_neg Bool.false_ne_true] at h
    rcases result_bind_eq_error.mp h with hstore | ⟨out, -, hout⟩
    · exact ⟨rfl, hstore⟩
    · cases hout

/-- A LOB value is stored unless it is too long for the row and the engine refuses it. -/
theorem storeField_lob_error {field : Field} (hkind : field.columnType.auxKind = .lob) {lob : σ}
    {id : Nat} {e : Failure} (h : storeField build prims store field record lob id = .error e) :
    lobMaxInlineSize < (record.blobData field field.offset).length ∧ store.Refused e := by
  obtain ⟨ddl, haux⟩ := getAuxiliary_columnType field
  simp only [storeField, haux, getMapAndFieldLen, auxBits_lob hkind, hkind, if_true,
    result_bind_ok, convertDataFromMysqlToCantian] at h
  rcases result_bind_eq_error.mp h with hconv | ⟨out, -, hout⟩
  · rcases result_bind_eq_error.mp hconv with hblob | ⟨out, -, hout⟩
    · exact convertBlobToCantian_error hblob
    · cases hout
  · cases hout

end

end CantianConnector.Convert
