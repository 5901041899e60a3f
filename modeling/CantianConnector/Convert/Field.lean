import Mathlib.Data.List.Basic

/-!
# Table columns and the conversion table

The part of MySQL's `Field` and `TABLE` that the connector reads, and
`g_field_cnvrt_aux_array` of `datatype_cnvrtr.cc` with its lookup. A column is described by
its MySQL field class (`ColumnType`), so that the accessors `type()`, `real_type()`,
`pack_length()`, `row_pack_length()`, `get_length_bytes()` and `decimals()` cannot disagree
with each other.
-/

namespace CantianConnector.Convert

/-- MySQL's `enum_field_types`. -/
inductive FieldType where
  | decimal | tiny | short | long | float | double | null | timestamp | longlong | int24
  | date | time | datetime | year | newDate | varchar | bit | timestamp2 | datetime2 | time2
  | typedArray | invalid | bool | json | newDecimal | enum | set | tinyBlob | mediumBlob
  | longBlob | blob | varString | string | geometry
deriving DecidableEq, Repr

/-- `enum_sql_data_types`. -/
inductive SqlDataType where
  | unknown | numeric | datetime | string | lob
deriving DecidableEq, Repr

/-- The two bits a column takes in the bitmap of a Cantian row. -/
inductive ColBits where
  | null | four | eight | var
deriving DecidableEq, Repr

/-- `enum_ctc_ddl_field_types`, as far as the conversion table names them. -/
inductive DdlType where
  | decimal | long | double | null | timestamp | longlong | date | time | datetime | year
  | newDate | varchar | timestamp2 | datetime2 | time2 | typedArray | json | newDecimal
  | tinyBlob | mediumBlob | longBlob | blob | clob | varString | string
deriving DecidableEq, Repr

/-- `field_cnvrt_aux_t`. -/
structure FieldCnvrtAux where
  mysqlFieldType : FieldType
  cantianMapType : ColBits
  sqlDataType : SqlDataType
  ddlFieldType : DdlType
deriving DecidableEq, Repr

/-- The MySQL field classes, with the parameters that fix their accessors. `varchar` and
`string` carry `field_length` in bytes, `blob` its `packlength`. -/
inductive ColumnType where
  | tiny (unsigned : Bool)
  | short (unsigned : Bool)
  | int24 (unsigned : Bool)
  | long (unsigned : Bool)
  | longlong (unsigned : Bool)
  | float
  | double
  | bit (bytesInRec : Nat)
  | newDecimal (precision scale : Nat)
  | year
  | date
  | time (dec : Nat)
  | datetime (dec : Nat)
  | timestamp (dec : Nat)
  | varchar (fieldLength : Nat)
  | string (fieldLength : Nat) (padChar : UInt8)
  | enum (packLength : Nat)
  | set (packLength : Nat)
  | blob (packlength : Nat)
  | json
deriving DecidableEq, Repr

namespace ColumnType

/-- `Field::type()`. ENUM and SET columns answer `MYSQL_TYPE_STRING`. -/
def type : ColumnType → FieldType
  | tiny _ => .tiny
  | short _ => .short
  | int24 _ => .int24
  | long _ => .long
  | longlong _ => .longlong
  | float => .float
  | double => .double
  | bit _ => .bit
  | newDecimal _ _ => .newDecimal
  | year => .year
  | date => .date
  | time _ => .time
  | datetime _ => .datetime
  | timestamp _ => .timestamp
  | varchar _ => .varchar
  | string _ _ => .string
  | enum _ => .string
  | set _ => .string
  | blob _ => .blob
  | json => .json

/-- `Field::real_type()`. -/
def realType : ColumnType → FieldType
  | enum _ => .enum
  | set _ => .set
  | date => .newDate
  | time _ => .time2
  | datetime _ => .datetime2
  | timestamp _ => .timestamp2
  | c => c.type

/-- `Field::pack_length()`: the bytes the column takes in the MySQL record. A BLOB holds its
length and a pointer of 8 bytes. -/
def packLength : ColumnType → Nat
  | tiny _ => 1
  | short _ => 2
  | int24 _ => 3
  | long _ => 4
  | longlong _ => 8
  | float => 4
  | double => 8
  | bit n => n
  | newDecimal p s => decimalBinSize p s
  | year => 1
  | date => 3
  | time dec => 3 + (dec + 1) / 2
  | datetime dec => 5 + (dec + 1) / 2
  | timestamp dec => 4 + (dec + 1) / 2
  | varchar n => n + (if n < 256 then 1 else 2)
  | string n _ => n
  | enum n => n
  | set n => n
  | blob k => k + 8
  | json => 4 + 8
where
  /-- `my_decimal_get_binary_size`. -/
  decimalBinSize (p s : Nat) : Nat :=
    let dig2bytes := fun d : Nat => (d + 1) / 2
    (p - s) / 9 * 4 + dig2bytes ((p - s) % 9) + s / 9 * 4 + dig2bytes (s % 9)

/-- `Field::row_pack_length()`. The connector reads it for strings and BLOBs only. -/
def rowPackLength : ColumnType → Nat
  | varchar n => n
  | string n _ => n
  | blob k => k
  | json => 4
  | c => c.packLength

/-- `Field::get_length_bytes()` of a VARCHAR. -/
def lengthBytes : ColumnType → Nat
  | varchar n => if n < 256 then 1 else 2
  | _ => 0

/-- `Field::decimals()`. -/
def decimals : ColumnType → Nat
  | newDecimal _ s => s
  | time dec => dec
  | datetime dec => dec
  | timestamp dec => dec
  | _ => 0

def isUnsigned : ColumnType → Bool
  | tiny u => u
  | short u => u
  | int24 u => u
  | long u => u
  | longlong u => u
  | _ => false

end ColumnType

/-- How a column's value comes about. -/
inductive Gcol where
  | none
  | virtual
  | stored
deriving DecidableEq, Repr

/-- The place of a nullable column's NULL bit: `null_offset()` and `null_bit = 1 << pos`. -/
structure NullBit where
  offset : Nat
  pos : Fin 8
deriving DecidableEq, Repr

/-- The NULL bit of the first nullable column. -/
def NullBit.first : NullBit := ⟨0, ⟨0, Nat.succ_pos 7⟩⟩

/-- A column of a table, as far as the connector reads `Field`. -/
structure Field where
  fieldName : String
  columnType : ColumnType
  /-- `field->offset(table.record[0])`. -/
  offset : Nat
  /-- The NULL bit of a nullable column. -/
  nullBit : Option NullBit
  gcol : Gcol
  autoIncrement : Bool
  /-- `BLOB_FLAG` column with `my_charset_bin` and `BINARY_FLAG`. -/
  binaryCharset : Bool
deriving DecidableEq, Repr

namespace Field

def isGcol (f : Field) : Bool := f.gcol != .none
def isVirtualGcol (f : Field) : Bool := f.gcol == .virtual

/-- `is_flag_set(BLOB_FLAG)`. -/
def isBlob (f : Field) : Bool :=
  match f.columnType with
  | .blob _ | .json => true
  | _ => false

end Field

/-- The columns of a table and the size of the NULL bitmap of its records. -/
structure Table where
  fields : List Field
  nullBytes : Nat
deriving Repr

namespace Table

/-- `table.has_gcol()`: some column is generated. -/
def hasGcol (t : Table) : Bool := t.fields.any Field.isGcol

end Table

/-! ## The conversion table -/

/-- `g_field_cnvrt_aux_array`, read through `get_idx_for_field_convert`. -/
def fieldCnvrtAux : FieldType → Option FieldCnvrtAux
  | .decimal => some ⟨.decimal, .null, .unknown, .decimal⟩
  | .tiny => some ⟨.tiny, .four, .numeric, .long⟩
  | .short => some ⟨.short, .four, .numeric, .long⟩
  | .long => some ⟨.long, .four, .numeric, .long⟩
  | .float => some ⟨.float, .eight, .numeric, .double⟩
  | .double => some ⟨.double, .eight, .numeric, .double⟩
  | .null => some ⟨.null, .null, .unknown, .null⟩
  | .timestamp => some ⟨.timestamp, .eight, .datetime, .timestamp⟩
  | .longlong => some ⟨.longlong, .eight, .numeric, .longlong⟩
  | .int24 => some ⟨.int24, .four, .numeric, .long⟩
  | .date => some ⟨.date, .eight, .datetime, .date⟩
  | .time => some ⟨.time, .eight, .datetime, .time⟩
  | .datetime => some ⟨.datetime, .eight, .datetime, .datetime⟩
  | .year => some ⟨.year, .eight, .datetime, .year⟩
  | .newDate => some ⟨.newDate, .null, .unknown, .newDate⟩
  | .varchar => some ⟨.varchar, .var, .string, .varchar⟩
  | .bit => some ⟨.bit, .eight, .numeric, .longlong⟩
  | .timestamp2 => some ⟨.timestamp2, .null, .unknown, .timestamp2⟩
  | .datetime2 => some ⟨.datetime2, .null, .unknown, .datetime2⟩
  | .time2 => some ⟨.time2, .null, .unknown, .time2⟩
  | .typedArray => some ⟨.typedArray, .null, .unknown, .typedArray⟩
  | .json => some ⟨.json, .var, .lob, .json⟩
  | .newDecimal => some ⟨.newDecimal, .var, .numeric, .newDecimal⟩
  | .tinyBlob => some ⟨.tinyBlob, .var, .lob, .tinyBlob⟩
  | .mediumBlob => some ⟨.mediumBlob, .var, .lob, .mediumBlob⟩
  | .longBlob => some ⟨.longBlob, .var, .lob, .longBlob⟩
  | .blob => some ⟨.blob, .var, .lob, .blob⟩
  | .varString => some ⟨.varString, .null, .unknown, .varString⟩
  | .string => some ⟨.string, .var, .string, .string⟩
  | .invalid | .bool | .enum | .set | .geometry => none

/-- The type numbers below `MYSQL_TYPE_INVALID`, which index the array directly. -/
def FieldType.belowInvalid : FieldType → Bool
  | .invalid | .bool | .json | .newDecimal | .enum | .set | .tinyBlob | .mediumBlob
  | .longBlob | .blob | .varString | .string | .geometry => false
  | _ => true

/-- The integer type that stores an ENUM or SET of the given `pack_length`. -/
def enumStorageType : Nat → FieldType
  | 1 => .tiny
  | 2 => .short
  | 3 => .int24
  | 4 => .long
  | _ => .longlong

/-- `get_auxiliary_for_field_convert`. -/
def getAuxiliaryForFieldConvert (field : Field) (mysqlFieldType : FieldType) :
    Option FieldCnvrtAux :=
  if mysqlFieldType.belowInvalid then
    fieldCnvrtAux mysqlFieldType
  else
    let realType := field.columnType.realType
    let mysqlRealType :=
      if realType = .enum ∨ realType = .set then enumStorageType field.columnType.packLength
      else mysqlFieldType
    (fieldCnvrtAux mysqlRealType).map fun ret =>
      if field.isBlob then
        { ret with ddlFieldType := if field.binaryCharset then .blob else .clob }
      else ret

/-! ## The entry of a column -/

namespace ColumnType

/-- The type under which a column is converted. -/
def auxType : ColumnType → FieldType
  | enum n => enumStorageType n
  | set n => enumStorageType n
  | c => c.type

def auxKind : ColumnType → SqlDataType
  | year | date | time _ | datetime _ | timestamp _ => .datetime
  | varchar _ | string _ _ => .string
  | blob _ | json => .lob
  | _ => .numeric

def auxBits : ColumnType → ColBits
  | tiny _ | short _ | int24 _ | long _ => .four
  | newDecimal _ _ | varchar _ | string _ _ | blob _ | json => .var
  | enum n | set n => if enumStorageType n = .longlong then .eight else .four
  | _ => .eight

/-- The limits of the server. A CHAR has at most 255 characters of four bytes. -/
def Valid : ColumnType → Prop
  | newDecimal p s => 1 ≤ p ∧ p ≤ 65 ∧ s ≤ 30 ∧ s ≤ p
  | varchar n => n < 65536
  | string n _ => n ≤ 1020
  | enum n => n = 1 ∨ n = 2
  | set n => n = 1 ∨ n = 2 ∨ n = 3 ∨ n = 4 ∨ n = 8
  | blob k => 1 ≤ k ∧ k ≤ 4
  | bit n => n ≤ 8
  | _ => True

end ColumnType

theorem enumStorageType_cases (n : Nat) :
    enumStorageType n = .tiny ∨ enumStorageType n = .short ∨ enumStorageType n = .int24 ∨
      enumStorageType n = .long ∨ enumStorageType n = .longlong := by
  unfold enumStorageType
  split <;> simp

/-- Every column has an entry in the conversion table. -/
theorem getAuxiliary_columnType (field : Field) :
    ∃ ddl, getAuxiliaryForFieldConvert field field.columnType.type =
      some ⟨field.columnType.auxType, field.columnType.auxBits, field.columnType.auxKind, ddl⟩ := by
  have hentry : ∀ {c : ColumnType} (t : FieldType), field.columnType = c → c.type = .string →
      (c.realType = .enum ∨ c.realType = .set) → enumStorageType c.packLength = t →
      getAuxiliaryForFieldConvert field .string = fieldCnvrtAux t := by
    intro c t hc htype hreal ht
    have hblob : field.isBlob = false := by
      unfold Field.isBlob
      rw [hc]
      cases c <;> simp_all [ColumnType.type, ColumnType.realType]
    simp only [getAuxiliaryForFieldConvert, FieldType.belowInvalid, hc, hreal, ht, hblob]
    simp
  cases hc : field.columnType with
  | enum n =>
    have h := hentry _ hc rfl (Or.inl rfl) rfl
    simp only [ColumnType.type, h, ColumnType.packLength, ColumnType.auxType, ColumnType.auxBits,
      ColumnType.auxKind]
    rcases enumStorageType_cases n with h | h | h | h | h <;> rw [h] <;> exact ⟨_, rfl⟩
  | set n =>
    have h := hentry _ hc rfl (Or.inr rfl) rfl
    simp only [ColumnType.type, h, ColumnType.packLength, ColumnType.auxType, ColumnType.auxBits,
      ColumnType.auxKind]
    rcases enumStorageType_cases n with h | h | h | h | h <;> rw [h] <;> exact ⟨_, rfl⟩
  | blob k =>
    simp [getAuxiliaryForFieldConvert, FieldType.belowInvalid, fieldCnvrtAux, Field.isBlob, hc,
      ColumnType.type, ColumnType.realType, ColumnType.auxType, ColumnType.auxBits,
      ColumnType.auxKind]
  | json =>
    simp [getAuxiliaryForFieldConvert, FieldType.belowInvalid, fieldCnvrtAux, Field.isBlob, hc,
      ColumnType.type, ColumnType.realType, ColumnType.auxType, ColumnType.auxBits,
      ColumnType.auxKind]
  | _ =>
    simp [getAuxiliaryForFieldConvert, FieldType.belowInvalid, fieldCnvrtAux, Field.isBlob, hc,
      ColumnType.type, ColumnType.realType, ColumnType.auxType, ColumnType.auxBits,
      ColumnType.auxKind]

end CantianConnector.Convert
