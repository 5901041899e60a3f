import CantianConnector.Convert.RoundTrip
import CantianConnector.Index.KeyParts

/-!
# The bytes of a search key

`ctc_convert_index_datatype` with `ctc_convert_key_from_mysql_to_cantian`. The engine compares the
bytes of a search key with those of its rows, so the keys go through the conversions of the
columns once more: the converted bytes are written to buffers of the caller, and the key pointers
are turned there.

The rows are written by another switch over the column types. `ctcConvertIndexDatatype_stored`
says that both give the same bytes.
-/

namespace CantianConnector.Index

open CantianConnector.Convert

/-! ## The functions -/

/-- Where a key pointer leads: into the image of the key, or to a buffer of the caller. -/
inductive KeyPtr where
  | image (pos : Nat)
  | data (i : Nat)
deriving DecidableEq, Repr

/-- One side of `key_info_t` after the conversion. -/
structure DataSide where
  key : Option KeyPtr
  len : Nat
deriving DecidableEq, Repr

def KeySide.toDataSide (side : KeySide) : DataSide := ⟨side.key.map .image, side.len⟩

/-- The buffers `data` of the caller, and the number of those passed by. -/
structure DataBufs where
  data : Nat → List UInt8
  next : Nat

/-- The two sides of a part after the conversion. -/
structure DataKeyInfo where
  left : DataSide
  right : DataSide

section

variable (build : Build) (prims : ServerPrims)

/-- `ctc_convert_key_from_mysql_to_cantian`: what is written to `cantian_ptr` if the key is to
lead there, and the length. `pos` is where `*mysql_ptr` stands. -/
def ctcConvertKeyFromMysqlToCantian (field : Field) (key : Mem UInt8) (pos len : Nat) :
    Result (Option (List UInt8) × Nat) :=
  let c := field.columnType
  let image := key.read pos c.packLength
  match getAuxiliaryForFieldConvert field c.type with
  | none => do
    cAssert build false
    .error .undefined
  | some mysqlInfo =>
    if mysqlInfo.mysqlFieldType = .tiny ∨ mysqlInfo.mysqlFieldType = .short ∨
        mysqlInfo.mysqlFieldType = .int24 then do
      let (bytes, _) ← convertNumericToCantian build prims mysqlInfo image field len
      return (some bytes, 4)
    else if c.type = .bit then
      .ok (some (Bytes.le 8 (bitCnvtMysqlCantian c.packLength image)), 8)
    else if c.type = .float then
      .ok (some (prims.floatToDouble (image.take 4)), 8)
    else if mysqlInfo.sqlDataType = .datetime then do
      let bytes ← convertDatetimeToCantian build prims.time mysqlInfo image field
      return (some bytes, 8)
    else if c.type = .decimal ∨ c.type = .newDecimal then do
      let (bytes, len) ← decimalMysqlToCantian prims image c.precision c.decimals
      return (some bytes, len)
    else .ok (none, len)

/-- One key of the loop. Each call passes by one buffer, used or not. -/
def convertSide (field : Field) (key : Mem UInt8) (side : KeySide) (bufs : DataBufs) :
    Result (DataSide × DataBufs) :=
  if side.len = 0 then .ok (side.toDataSide, bufs)
  else
    match side.key with
    | none => .error .undefined
    | some pos => do
      let (bytes, len) ← ctcConvertKeyFromMysqlToCantian build prims field key pos side.len
      match bytes with
      | none => return (⟨some (.image pos), len⟩, { bufs with next := bufs.next + 1 })
      | some bytes =>
        return (⟨some (.data bufs.next), len⟩,
          ⟨Function.update bufs.data bufs.next bytes, bufs.next + 1⟩)

/-- The right key of a part. -/
def convertRightSide (hasRightKey : Bool) (field : Field) (key : Mem UInt8) (side : KeySide)
    (bufs : DataBufs) : Result (DataSide × DataBufs) :=
  if hasRightKey then convertSide build prims field key side bufs
  else .ok (side.toDataSide, bufs)

variable (keyInfo : Nat → KeyInfo) (hasRightKey : Bool) (leftKey rightKey : Mem UInt8)

/-- The loop over the parts from number `i` on. -/
def convertParts : List KeyPart → Nat → DataBufs → Result (List DataKeyInfo × DataBufs)
  | [], _, bufs => .ok ([], bufs)
  | part :: rest, i, bufs => do
    let (left, bufs) ← convertSide build prims part.field leftKey (keyInfo i).left bufs
    let (right, bufs) ←
      convertRightSide build prims hasRightKey part.field rightKey (keyInfo i).right bufs
    let (infos, bufs) ← convertParts rest (i + 1) bufs
    return (⟨left, right⟩ :: infos, bufs)

/-- `ctc_convert_index_datatype`. The left keys lead into `leftKey`, the right ones into
`rightKey`. -/
def ctcConvertIndexDatatype (parts : List KeyPart) (info : IndexKeyInfo) (data : Nat → List UInt8) :
    Result (List DataKeyInfo × DataBufs) :=
  convertParts build prims info.keyInfo hasRightKey leftKey rightKey (parts.take info.keyNum) 0
    ⟨data, 0⟩

end

/-- The bytes of a key. -/
def DataSide.bytes (side : DataSide) (key : Mem UInt8) (data : Nat → List UInt8) : List UInt8 :=
  match side.key with
  | none => []
  | some (.image pos) => key.read pos side.len
  | some (.data i) => (data i).take side.len

/-! ## Keys and rows of the same value -/

/-- A column that an index can have whole, or a prefix of one: the engine keeps its values in the
row. A VARCHAR of more than 8000 bytes is a CLOB there. -/
structure Indexable (c : ColumnType) : Prop where
  valid : c.Valid
  notLob : c.auxKind ≠ .lob
  inRow : varcharAsBlob c.rowPackLength = false

/-- The data of a key part when the record has the same value in a column. The part may be a
prefix of the column as long as it holds the whole value. -/
def KeyPart.KeyData (part : KeyPart) (record : MysqlRecord) (field : Field)
    (data : List UInt8) : Prop :=
  match field.columnType with
  | .varchar n => ∃ m ≤ n, part.field.columnType = .varchar m ∧ data = record.stringData field
  | .string n padChar => ∃ m ≤ n, part.field.columnType = .string m padChar ∧
      data = record.readBytes field.offset m ∧
      record.readBytes (field.offset + m) (n - m) = List.replicate (n - m) padChar
  | c => part.field.columnType = c ∧ data = record.readBytes field.offset c.packLength

/-- `CTC_MAX_KEY_PART_LENGTH`. -/
def ctcMaxKeyPartLength : Nat := 4095

/-- A column that fits into a key part is kept in the row. -/
theorem indexable_of_keyLength_le {c : ColumnType} (hvalid : c.Valid) (hlob : c.auxKind ≠ .lob)
    (h : keyLength c ≤ ctcMaxKeyPartLength) : Indexable c := by
  refine ⟨hvalid, hlob, ?_⟩
  unfold ctcMaxKeyPartLength at h
  have hle : c.rowPackLength ≤ 8000 := by
    cases c with
    | blob k => exact absurd rfl hlob
    | json => exact absurd rfl hlob
    | varchar n =>
      have hn : n ≤ 4095 := h
      exact hn.trans (by omega)
    | string n padChar =>
      have hn : n ≤ 4095 := h
      exact hn.trans (by omega)
    | _ => exact h.trans (by omega)
  unfold varcharAsBlob
  exact decide_eq_false (by omega)

/-! ## One key -/

/-- A converted key and its length: the bytes are in the buffer, or where they were. -/
structure GivesKey (key : Mem UInt8) (pos : Nat) (out : Option (List UInt8) × Nat)
    (bytes : List UInt8) : Prop where
  bytes_eq : out.1.getD (key.read pos out.2) = bytes
  len_eq : out.2 = bytes.length

section

variable {build : Build} {prims : ServerPrims} {mysqlInfo : FieldCnvrtAux} {field : Field}
  {part : KeyPart} {key : Mem UInt8} {pos len length fieldLen : Nat} {bytes image : List UInt8}

/-- The columns kept as four- or eight-byte integers. -/
theorem ColumnType.wide_cases {c : ColumnType} (hvalid : c.Valid)
    (h : c.auxType = .long ∨ c.auxType = .longlong) :
    (c.auxType = .long ∧ c.packLength = 4 ∨ c.auxType = .longlong ∧ c.packLength = 8) ∧
      c.auxKind = .numeric ∧ (c.type = .long ∨ c.type = .longlong ∨ c.type = .string) := by
  cases c with
  | enum n =>
    rcases hvalid with rfl | rfl
    all_goals exact absurd h (by decide)
  | set n =>
    rcases hvalid with rfl | rfl | rfl | rfl | rfl
    all_goals revert h; decide
  | long u => exact ⟨Or.inl ⟨rfl, rfl⟩, rfl, Or.inl rfl⟩
  | longlong u => exact ⟨Or.inr ⟨rfl, rfl⟩, rfl, Or.inr (Or.inl rfl)⟩
  | _ => rcases h with h | h <;> cases h

/-- The types whose keys stay as they are. -/
theorem convertKey_unchanged (hwide : field.columnType.auxType ≠ .tiny ∧
      field.columnType.auxType ≠ .short ∧ field.columnType.auxType ≠ .int24)
    (hbit : field.columnType.type ≠ .bit) (hfloat : field.columnType.type ≠ .float)
    (hkind : field.columnType.auxKind ≠ .datetime)
    (hdec : field.columnType.type ≠ .decimal ∧ field.columnType.type ≠ .newDecimal) :
    ctcConvertKeyFromMysqlToCantian build prims field key pos len = .ok (none, len) := by
  obtain ⟨ddl, haux⟩ := getAuxiliary_columnType field
  unfold ctcConvertKeyFromMysqlToCantian
  simp only [haux]
  rw [if_neg (by simp [hwide]), if_neg hbit, if_neg hfloat, if_neg hkind, if_neg (by simp [hdec])]

/-- The small integers are widened. -/
theorem convertKey_small (hc : part.field.columnType = field.columnType)
    (hsmall : field.columnType.auxType = .tiny ∨ field.columnType.auxType = .short ∨
      field.columnType.auxType = .int24)
    (hinfo : mysqlInfo.mysqlFieldType = field.columnType.auxType)
    (hread : key.read pos field.columnType.packLength = image)
    (h : convertNumericToCantian build prims mysqlInfo image field length = .ok (bytes, fieldLen)) :
    ∃ out, ctcConvertKeyFromMysqlToCantian build prims part.field key pos len = .ok out ∧
      GivesKey key pos out bytes := by
  obtain ⟨ddl, haux⟩ := getAuxiliary_columnType part.field
  have hlen : bytes.length = 4 := by
    unfold convertNumericToCantian at h
    rw [hinfo] at h
    rcases hsmall with htype | htype | htype
    all_goals
      rw [htype] at h
      cases h
      exact length_convertNumericDatatype _ _ _ _
  have htype : mysqlInfo.mysqlFieldType = (⟨part.field.columnType.auxType,
      part.field.columnType.auxBits, part.field.columnType.auxKind, ddl⟩ :
        FieldCnvrtAux).mysqlFieldType := by
    rw [hinfo, hc]
  obtain ⟨fieldLen', hconv⟩ := convertNumericToCantian_congr htype hc.symm h len
  refine ⟨(some bytes, 4), ?_, rfl, hlen.symm⟩
  unfold ctcConvertKeyFromMysqlToCantian
  simp only [haux]
  rw [if_pos (by rw [hc]; exact hsmall), hc, hread, ← hc, hconv]
  rfl

/-- The four- and eight-byte integers stay as they are. -/
theorem convertKey_wide (hc : part.field.columnType = field.columnType)
    (hvalid : field.columnType.Valid)
    (hwide : field.columnType.auxType = .long ∨ field.columnType.auxType = .longlong)
    (hinfo : mysqlInfo.mysqlFieldType = field.columnType.auxType)
    (hread : key.read pos field.columnType.packLength = image)
    (h : convertNumericToCantian build prims mysqlInfo image field length = .ok (bytes, fieldLen)) :
    ∃ out, ctcConvertKeyFromMysqlToCantian build prims part.field key pos
        field.columnType.packLength = .ok out ∧ GivesKey key pos out bytes := by
  obtain ⟨hpack, hkind, htype⟩ := ColumnType.wide_cases hvalid hwide
  have himage : image.length = field.columnType.packLength := by rw [← hread, Mem.length_read]
  have hbytes : bytes = image := by
    unfold convertNumericToCantian at h
    rw [hinfo] at h
    rcases hpack with ⟨htype, hpack⟩ | ⟨htype, hpack⟩
    all_goals
      rw [htype] at h
      cases h
      apply convertNumericDatatype_self
      rw [himage, hpack]
  subst hbytes
  refine ⟨(none, field.columnType.packLength), ?_, hread, himage.symm⟩
  apply convertKey_unchanged
  · rw [hc]
    rcases hwide with h | h <;> simp [h]
  all_goals rw [hc]
  · rcases htype with h | h | h <;> simp [h]
  · rcases htype with h | h | h <;> simp [h]
  · simp [hkind]
  · rcases htype with h | h | h <;> simp [h]

/-- A numeric key becomes what the row holds. -/
theorem convertKey_numeric (hc : part.field.columnType = field.columnType)
    (hvalid : field.columnType.Valid) (hkind : field.columnType.auxKind = .numeric)
    (hinfo : mysqlInfo.mysqlFieldType = field.columnType.auxType)
    (hread : key.read pos field.columnType.packLength = image)
    (h : convertNumericToCantian build prims mysqlInfo image field length = .ok (bytes, fieldLen)) :
    ∃ out, ctcConvertKeyFromMysqlToCantian build prims part.field key pos
        field.columnType.packLength = .ok out ∧ GivesKey key pos out bytes := by
  by_cases hsmall : field.columnType.auxType = .tiny ∨ field.columnType.auxType = .short ∨
      field.columnType.auxType = .int24
  · exact convertKey_small hc hsmall hinfo hread h
  by_cases hwide : field.columnType.auxType = .long ∨ field.columnType.auxType = .longlong
  · exact convertKey_wide hc hvalid hwide hinfo hread h
  obtain ⟨ddl, haux⟩ := getAuxiliary_columnType part.field
  cases hcol : field.columnType with
  | double =>
    rw [hcol] at hc hinfo hread
    have himage : image.length = 8 := by rw [← hread, Mem.length_read]; rfl
    simp only [convertNumericToCantian, hinfo, ColumnType.auxType, ColumnType.type,
      List.take_of_length_le himage.le] at h
    cases h
    refine ⟨(none, 8), ?_, hread, himage.symm⟩
    apply convertKey_unchanged
    all_goals simp [hc, ColumnType.auxType, ColumnType.type, ColumnType.auxKind]
  | float =>
    rw [hcol] at hc hinfo hread
    simp only [convertNumericToCantian, hinfo, ColumnType.auxType, ColumnType.type] at h
    cases h
    refine ⟨(some (prims.floatToDouble (image.take 4)), 8), ?_, rfl,
      (prims.floatToDouble_length _).symm⟩
    rw [hc] at haux
    unfold ctcConvertKeyFromMysqlToCantian
    simp only [hc, haux, hread]
    simp [ColumnType.auxType, ColumnType.type]
  | bit n =>
    rw [hcol] at hc hinfo hread
    simp only [convertNumericToCantian, hinfo, ColumnType.auxType, ColumnType.type, hcol] at h
    cases h
    refine ⟨(some (Bytes.le 8 (bitCnvtMysqlCantian (ColumnType.bit n).packLength image)), 8), ?_,
      rfl, (Bytes.length_le 8 _).symm⟩
    rw [hc] at haux
    unfold ctcConvertKeyFromMysqlToCantian
    simp only [hc, haux, hread]
    simp [ColumnType.auxType, ColumnType.type]
  | newDecimal p q =>
    rw [hcol] at hc hinfo hread hvalid
    obtain ⟨t, rfl, rfl⟩ := hvalid.decimalType
    simp only [convertNumericToCantian, hinfo, ColumnType.auxType, ColumnType.type, hcol] at h
    refine ⟨(some bytes, fieldLen), ?_, rfl, (length_decimalMysqlToCantian t h).1⟩
    rw [hc] at haux
    unfold ctcConvertKeyFromMysqlToCantian
    simp only [hc, haux, hread]
    simp [ColumnType.auxType, ColumnType.type, ColumnType.auxKind, h]
  | tiny u => exact absurd (Or.inl (by rw [hcol]; rfl)) hsmall
  | short u => exact absurd (Or.inr (Or.inl (by rw [hcol]; rfl))) hsmall
  | int24 u => exact absurd (Or.inr (Or.inr (by rw [hcol]; rfl))) hsmall
  | long u => exact absurd (Or.inl (by rw [hcol]; rfl)) hwide
  | longlong u => exact absurd (Or.inr (by rw [hcol]; rfl)) hwide
  | enum n | set n =>
    rw [hcol] at hsmall hwide
    rcases enumStorageType_cases n with hs | hs | hs | hs | hs
    all_goals simp [ColumnType.auxType, hs] at hsmall hwide
  | _ => rw [hcol] at hkind; cases hkind

theorem convertKey_datetime (hc : part.field.columnType = field.columnType)
    (hkind : field.columnType.auxKind = .datetime)
    (hinfo : mysqlInfo.mysqlFieldType = field.columnType.auxType)
    (hread : key.read pos field.columnType.packLength = image)
    (h : convertDatetimeToCantian build prims.time mysqlInfo image field = .ok bytes) :
    ∃ out, ctcConvertKeyFromMysqlToCantian build prims part.field key pos len = .ok out ∧
      GivesKey key pos out bytes := by
  obtain ⟨ddl, haux⟩ := getAuxiliary_columnType part.field
  refine ⟨(some bytes, 8), ?_, rfl, (length_convertDatetimeToCantian h).symm⟩
  have htype : mysqlInfo.mysqlFieldType = (⟨part.field.columnType.auxType,
      part.field.columnType.auxBits, part.field.columnType.auxKind, ddl⟩ :
        FieldCnvrtAux).mysqlFieldType := by
    rw [hinfo, hc]
  rw [convertDatetimeToCantian_congr htype hc.symm] at h
  have hother : (field.columnType.auxType ≠ .tiny ∧ field.columnType.auxType ≠ .short ∧
      field.columnType.auxType ≠ .int24) ∧ field.columnType.type ≠ .bit ∧
      field.columnType.type ≠ .float := by
    cases hcol : field.columnType <;> rw [hcol] at hkind <;> cases hkind
    all_goals simp [ColumnType.auxType, ColumnType.type]
  obtain ⟨hwide, hbit, hfloat⟩ := hother
  unfold ctcConvertKeyFromMysqlToCantian
  simp only [haux]
  rw [if_neg (by simp [hc, hwide]), if_neg (by rw [hc]; exact hbit),
    if_neg (by rw [hc]; exact hfloat), if_pos (by rw [hc]; exact hkind), hc, hread, ← hc, h]
  rfl

/-- The keys of CHAR and VARCHAR columns stay as they are. -/
theorem convertKey_string (hkind : part.field.columnType.auxKind = .string)
    (hread : key.read pos len = bytes) :
    ∃ out, ctcConvertKeyFromMysqlToCantian build prims part.field key pos len = .ok out ∧
      GivesKey key pos out bytes := by
  refine ⟨(none, len), ?_, hread, by rw [← hread, Mem.length_read]⟩
  apply convertKey_unchanged
  all_goals
    cases hcol : part.field.columnType <;> rw [hcol] at hkind <;> cases hkind
    all_goals simp [ColumnType.auxType, ColumnType.type, ColumnType.auxKind]

end

/-! ## A key and the row -/

theorem payload_ofBits {bits : ColBits} (h : bits ≠ .null) (bytes : List UInt8) :
    (ColImage.ofBits bits bytes).payload = bytes := by
  cases bits with
  | null => exact absurd rfl h
  | _ => rfl

section

variable {σ : Type} {build : Build} {prims : ServerPrims}
  {contents : σ → List UInt8 → Option (List UInt8)} {s : σ} {record : MysqlRecord} {field : Field}
  {part : KeyPart} {key : Mem UInt8} {side : KeySide} {data : List UInt8} {img : ColImage}

/-- The key part of a numeric or temporal column. -/
theorem KeyPart.KeyData.fixed (hdata : part.KeyData record field data) (hpart : part.Valid)
    (hkind : field.columnType.auxKind = .numeric ∨ field.columnType.auxKind = .datetime) :
    part.field.columnType = field.columnType ∧ 0 < field.columnType.packLength ∧
      partData part data = record.readBytes field.offset field.columnType.packLength := by
  unfold KeyPart.KeyData at hdata
  have hlength := hpart.length
  have hpos := hpart.length_pos
  unfold Field.isBlob at hlength
  cases hcol : field.columnType <;> rw [hcol] at hkind hdata
  case varchar => rcases hkind with h | h <;> cases h
  case string => rcases hkind with h | h <;> cases h
  case blob => rcases hkind with h | h <;> cases h
  case json => rcases hkind with h | h <;> cases h
  all_goals
    obtain ⟨hc, rfl⟩ := hdata
    rw [hc] at hlength
    refine ⟨hc, hpos.trans_eq (hlength rfl), ?_⟩
    unfold partData
    rw [hc]

/-- The key part of a CHAR or VARCHAR column. -/
theorem KeyPart.KeyData.string (hdata : part.KeyData record field data)
    (hkind : field.columnType.auxKind = .string) :
    part.field.columnType.auxKind = .string ∧ partData part data = record.stringData field := by
  unfold KeyPart.KeyData at hdata
  cases hcol : field.columnType <;> rw [hcol] at hkind hdata <;> cases hkind
  case varchar n =>
    obtain ⟨m, -, hpart, rfl⟩ := hdata
    refine ⟨by rw [hpart]; rfl, ?_⟩
    unfold partData
    rw [hpart]
  case string n padChar =>
    obtain ⟨m, hmn, hpart, rfl, hpad⟩ := hdata
    refine ⟨by rw [hpart]; rfl, ?_⟩
    have hwhole : record.readBytes field.offset n =
        record.readBytes field.offset m ++ List.replicate (n - m) padChar := by
      rw [← hpad, ← MysqlRecord.readBytes_add, Nat.add_sub_cancel' hmn]
    have htrim := length_trimPad padChar (record.readBytes field.offset m)
    rw [MysqlRecord.length_readBytes] at htrim
    rw [partData_string hpart]
    unfold MysqlRecord.stringData
    rw [hcol]
    dsimp only
    rw [hwhole, trimPad_append_replicate]
    unfold MysqlRecord.readBytes at htrim ⊢
    rw [← List.map_take, Mem.take_read _ _ htrim]
    rfl

/-- **A key becomes what the row of the same value holds.** -/
theorem convertKey_stored (hpart : part.Valid) (hcol : Indexable field.columnType)
    (hnull : record.isNull field = false) (hdata : part.KeyData record field data)
    (hden : Denotes key part side (some data))
    (himg : FieldImage build prims contents s record field img) :
    (side.len = 0 → img.payload = []) ∧ ∃ pos, side.key = some pos ∧
      ∃ out, ctcConvertKeyFromMysqlToCantian build prims part.field key pos side.len = .ok out ∧
        GivesKey key pos out img.payload := by
  obtain ⟨pos, hkey, hlen, hread⟩ := hden
  cases himg with
  | null h => rw [hnull] at h; cases h
  | numeric _ hkind hinfo h =>
    obtain ⟨hc, hpos, hpd⟩ := hdata.fixed hpart (Or.inl hkind)
    rw [hpd, MysqlRecord.length_readBytes] at hlen
    rw [hpd, hlen] at hread
    rw [payload_ofBits (auxBits_ne_null _), hlen]
    refine ⟨fun h0 => absurd h0 hpos.ne', pos, hkey, ?_⟩
    exact convertKey_numeric hc hcol.valid hkind hinfo hread h
  | datetime _ hkind hinfo h =>
    obtain ⟨hc, hpos, hpd⟩ := hdata.fixed hpart (Or.inr hkind)
    rw [hpd, MysqlRecord.length_readBytes] at hlen
    rw [hpd, hlen] at hread
    rw [hlen]
    refine ⟨fun h0 => absurd h0 hpos.ne', pos, hkey, ?_⟩
    exact convertKey_datetime hc hkind hinfo hread h
  | string _ hkind hshort =>
    obtain ⟨hk, hpd⟩ := hdata.string hkind
    rw [hpd] at hlen hread
    refine ⟨?_, pos, hkey, convertKey_string hk hread⟩
    intro h0
    exact List.length_eq_zero_iff.mp (hlen ▸ h0)
  | stringLob _ _ hlong _ =>
    rw [hcol.inRow] at hlong
    cases hlong
  | lob _ hkind _ => exact absurd hkind hcol.notLob

end

/-! ## The loop -/

/-- A column of a row that `mysql_record_to_cantian_record` has encoded, not NULL. -/
structure RowValue {σ : Type} (build : Build) (prims : ServerPrims) (store : LobStore σ) where
  table : Table
  record : MysqlRecord
  buf : Mem UInt8
  lob : σ
  /-- The list of an update. -/
  fields : Option (List Nat)
  out : EncodedRecord σ
  /-- The number of the column in the row. -/
  k : Nat
  columnId : Nat
  field : Field
  valid : table.Valid
  encoded : mysqlRecordToCantianRecord build prims store table record buf lob fields = .ok out
  column : (table.encodedColumns fields)[k]? = some columnId
  fieldAt : table.fields[columnId]? = some field
  notNull : record.isNull field = false
  indexable : Indexable field.columnType

namespace RowValue

variable {σ : Type} {build : Build} {prims : ServerPrims} {store : LobStore σ}
  (row : RowValue build prims store)

/-- What was stored for the column, among the images of the row. The bitmap of the row ends before
its values if the extension is large enough for its columns, as in every insert. -/
def Image (img : ColImage) : Prop :=
  ∃ imgs : List ColImage, imgs[row.k]? = some img ∧
    row.out.buf = setRowHead
      (putColumns imgs 0 (row.buf, firstFieldOffset row.table row.fields)).1 row.out.size
      imgs.length ∧
    (colBitmapExSize (row.table.encodedColumns row.fields).length ≤
        colBitmapExSize (exMapColumns row.table row.fields) →
      RowAt row.out.buf (firstFieldOffset row.table row.fields) imgs)

/-- The key part holds the value of the row. -/
def InKey (part : KeyPart) (key : Mem UInt8) (side : KeySide) : Prop :=
  ∃ data, part.KeyData row.record row.field data ∧ Denotes key part side (some data)

end RowValue

/-- The buffers grow, and those passed by keep their bytes. -/
structure DataBufs.Extends (bufs bufs' : DataBufs) : Prop where
  next_le : bufs.next ≤ bufs'.next
  data_eq : ∀ i < bufs.next, bufs'.data i = bufs.data i

theorem DataBufs.Extends.refl (bufs : DataBufs) : bufs.Extends bufs := ⟨le_rfl, fun _ _ => rfl⟩

theorem DataBufs.Extends.trans {a b c : DataBufs} (hab : a.Extends b) (hbc : b.Extends c) :
    a.Extends c :=
  ⟨hab.next_le.trans hbc.next_le, fun i hi =>
    (hbc.data_eq i (Nat.lt_of_lt_of_le hi hab.next_le)).trans (hab.data_eq i hi)⟩

section

variable {σ : Type} {build : Build} {prims : ServerPrims} {store : LobStore σ}
  {contents : σ → List UInt8 → Option (List UInt8)}

/-- A side of a part: empty, or with the value of a row. -/
def HoldsRow (key : Mem UInt8) (part : KeyPart) (side : KeySide) :
    Option (RowValue build prims store) → Prop
  | none => side.len = 0
  | some row => row.InKey part key side

/-- The bytes and the length are those stored for a value. -/
def IsStored (bytes : List UInt8) (len : Nat) : Option (RowValue build prims store) → Prop
  | none => bytes = [] ∧ len = 0
  | some row => ∃ img, row.Image img ∧ bytes = img.payload ∧ len = img.payload.length

theorem RowValue.exists_image (hlaw : store.Lawful contents) (row : RowValue build prims store) :
    ∃ img, row.Image img ∧
      FieldImage build prims contents row.out.lob row.record row.field img := by
  obtain ⟨imgs, himgs, -, hbuf, -⟩ :=
    mysqlRecordToCantianRecord_spec hlaw row.valid.types row.encoded
  obtain ⟨img, field, himg, hfield, himage⟩ := himgs.getElem? row.column
  obtain rfl := Option.some.inj (row.fieldAt.symm.trans hfield)
  refine ⟨img, ⟨imgs, himg, hbuf, ?_⟩, himage⟩
  intro hmaps
  rw [hbuf]
  exact himgs.rowAt hmaps row.buf row.out.size imgs.length

/-- An empty key has no bytes. -/
theorem bytes_toDataSide_of_empty {key : Mem UInt8} {side : KeySide} (hlen : side.len = 0)
    (data : Nat → List UInt8) : side.toDataSide.bytes key data = [] := by
  unfold DataSide.bytes KeySide.toDataSide
  cases side.key with
  | none => rfl
  | some pos => simp [hlen, Mem.read]

/-- One side of a part is converted, and its buffer is not touched again. -/
theorem convertSide_spec (hlaw : store.Lawful contents) {part : KeyPart} (hpart : part.Valid)
    {key : Mem UInt8} {side : KeySide} {value : Option (RowValue build prims store)}
    (hside : HoldsRow key part side value) (bufs : DataBufs) :
    ∃ out bufs', convertSide build prims part.field key side bufs = .ok (out, bufs') ∧
      bufs.Extends bufs' ∧
      ∀ bufs'', bufs'.Extends bufs'' → IsStored (out.bytes key bufs''.data) out.len value := by
  unfold convertSide
  cases value with
  | none =>
    have hlen : side.len = 0 := hside
    rw [if_pos hlen]
    refine ⟨_, bufs, rfl, .refl bufs, ?_⟩
    intro bufs'' _
    exact ⟨bytes_toDataSide_of_empty hlen _, hlen⟩
  | some row =>
    obtain ⟨data, hdata, hden⟩ := hside
    obtain ⟨img, himg, himage⟩ := row.exists_image hlaw
    obtain ⟨hzero, pos, hkey, ⟨bytes, len⟩, hrun, hbytes, hlen'⟩ :=
      convertKey_stored hpart row.indexable row.notNull hdata hden himage
    by_cases hlen : side.len = 0
    · rw [if_pos hlen]
      refine ⟨_, bufs, rfl, .refl bufs, ?_⟩
      intro bufs'' _
      refine ⟨img, himg, ?_, ?_⟩
      · rw [hzero hlen]
        exact bytes_toDataSide_of_empty hlen _
      · rw [hzero hlen]
        exact hlen
    · rw [if_neg hlen]
      simp only [hkey, hrun, result_bind_ok]
      dsimp only at hbytes hlen'
      cases bytes with
      | none =>
        refine ⟨_, _, rfl, ⟨Nat.le_succ _, fun _ _ => rfl⟩, ?_⟩
        intro bufs'' _
        exact ⟨img, himg, hbytes, hlen'⟩
      | some bytes =>
        refine ⟨_, _, rfl, ⟨Nat.le_succ _, ?_⟩, ?_⟩
        · intro i hi
          exact Function.update_of_ne hi.ne _ _
        · intro bufs'' hext
          refine ⟨img, himg, ?_, hlen'⟩
          have hslot : bufs''.data bufs.next = bytes := by
            rw [hext.data_eq _ (Nat.lt_succ_self _)]
            exact Function.update_self _ _ _
          unfold DataSide.bytes
          simp only [hslot]
          have hb : bytes = img.payload := hbytes
          rw [hlen', hb, List.take_length]

variable {keyInfo : Nat → KeyInfo} {hasRightKey : Bool} {leftKey rightKey : Mem UInt8}
  {lefts rights : Nat → Option (RowValue build prims store)}

/-- The right side of a part, converted if there is an end key. -/
theorem convertRightSide_spec (hlaw : store.Lawful contents) {part : KeyPart} (hpart : part.Valid)
    {side : KeySide} {value : Option (RowValue build prims store)}
    (hside : hasRightKey = true → HoldsRow rightKey part side value) (bufs : DataBufs) :
    ∃ out bufs', convertRightSide build prims hasRightKey part.field rightKey side bufs =
        .ok (out, bufs') ∧ bufs.Extends bufs' ∧
      ∀ bufs'', bufs'.Extends bufs'' → hasRightKey = true →
        IsStored (out.bytes rightKey bufs''.data) out.len value := by
  cases hright : hasRightKey with
  | true =>
    obtain ⟨out, bufs', hrun, hext, hstored⟩ := convertSide_spec hlaw hpart (hside hright) bufs
    exact ⟨out, bufs', hrun, hext, fun bufs'' h _ => hstored bufs'' h⟩
  | false => exact ⟨_, bufs, rfl, .refl bufs, fun _ _ h => by cases h⟩

/-- The loop over the parts. -/
theorem convertParts_spec (hlaw : store.Lawful contents) {rest : List KeyPart}
    (hparts : ∀ part ∈ rest, part.Valid) {i : Nat}
    (hleft : ∀ j part, rest[j]? = some part →
      HoldsRow leftKey part (keyInfo (i + j)).left (lefts (i + j)))
    (hright : hasRightKey = true → ∀ j part, rest[j]? = some part →
      HoldsRow rightKey part (keyInfo (i + j)).right (rights (i + j))) (bufs : DataBufs) :
    ∃ infos bufs', convertParts build prims keyInfo hasRightKey leftKey rightKey rest i bufs =
        .ok (infos, bufs') ∧
      bufs.Extends bufs' ∧ infos.length = rest.length ∧
      ∀ bufs'', bufs'.Extends bufs'' → ∀ j info, infos[j]? = some info →
        IsStored (info.left.bytes leftKey bufs''.data) info.left.len (lefts (i + j)) ∧
        (hasRightKey = true →
          IsStored (info.right.bytes rightKey bufs''.data) info.right.len (rights (i + j))) := by
  induction rest generalizing i bufs with
  | nil => exact ⟨[], bufs, rfl, .refl bufs, rfl, fun _ _ j info h => by cases h⟩
  | cons part rest ih =>
    have hpart := hparts part (List.mem_cons_self ..)
    obtain ⟨left, bufs1, hrun1, hext1, hst1⟩ := convertSide_spec hlaw hpart (hleft 0 part rfl) bufs
    obtain ⟨right, bufs2, hrun2, hext2, hst2⟩ :=
      convertRightSide_spec hlaw hpart (fun h => hright h 0 part rfl) bufs1
    have hshift : ∀ j, i + (j + 1) = i + 1 + j := fun j => by omega
    obtain ⟨infos, bufs3, hrun3, hext3, hcount, hst3⟩ := ih
      (fun p hp => hparts p (List.mem_cons_of_mem _ hp))
      (fun j p hp => hshift j ▸ hleft (j + 1) p hp)
      (fun h j p hp => hshift j ▸ hright h (j + 1) p hp) bufs2
    refine ⟨⟨left, right⟩ :: infos, bufs3, ?_, hext1.trans (hext2.trans hext3), ?_, ?_⟩
    · rw [convertParts]
      rw [Nat.add_zero] at hrun1 hrun2
      simp only [hrun1, hrun2, hrun3, result_bind_ok, result_pure]
    · rw [List.length_cons, List.length_cons, hcount]
    · intro bufs'' hext j info hinfo
      cases j with
      | zero =>
        cases hinfo
        exact ⟨hst1 _ (hext2.trans (hext3.trans hext)), hst2 _ (hext3.trans hext)⟩
      | succ j =>
        rw [hshift j]
        exact hst3 bufs'' hext j info hinfo

/-- **Search keys are what the rows hold.** Each key of a part is empty or has the value of some
row; then the conversion succeeds, and its bytes and its length are those stored for that value,
without the length before them and the padding behind. -/
theorem ctcConvertIndexDatatype_stored (hlaw : store.Lawful contents) {parts : List KeyPart}
    (hparts : ∀ part ∈ parts, part.Valid) {info : IndexKeyInfo} (hnum : info.keyNum ≤ parts.length)
    (hleft : ∀ i part, i < info.keyNum → parts[i]? = some part →
      HoldsRow leftKey part (info.keyInfo i).left (lefts i))
    (hright : hasRightKey = true → ∀ i part, i < info.keyNum → parts[i]? = some part →
      HoldsRow rightKey part (info.keyInfo i).right (rights i)) (data : Nat → List UInt8) :
    ∃ infos bufs, ctcConvertIndexDatatype build prims hasRightKey leftKey rightKey parts info data =
        .ok (infos, bufs) ∧ infos.length = info.keyNum ∧
      ∀ i conv, infos[i]? = some conv →
        IsStored (conv.left.bytes leftKey bufs.data) conv.left.len (lefts i) ∧
        (hasRightKey = true →
          IsStored (conv.right.bytes rightKey bufs.data) conv.right.len (rights i)) := by
  have htaken : ∀ i part, (parts.take info.keyNum)[i]? = some part →
      i < info.keyNum ∧ parts[i]? = some part := by
    intro i part h
    rw [List.getElem?_take] at h
    split at h
    · exact ⟨‹_›, h⟩
    · cases h
  have hl : ∀ i part, (parts.take info.keyNum)[i]? = some part →
      HoldsRow leftKey part (info.keyInfo (0 + i)).left (lefts (0 + i)) := by
    intro i part h
    rw [Nat.zero_add]
    exact hleft i part (htaken i part h).1 (htaken i part h).2
  have hr : hasRightKey = true → ∀ i part, (parts.take info.keyNum)[i]? = some part →
      HoldsRow rightKey part (info.keyInfo (0 + i)).right (rights (0 + i)) := by
    intro hkey i part h
    rw [Nat.zero_add]
    exact hright hkey i part (htaken i part h).1 (htaken i part h).2
  obtain ⟨infos, bufs, hrun, -, hcount, hstored⟩ := convertParts_spec hlaw
    (fun part hpart => hparts part (List.mem_of_mem_take hpart)) hl hr ⟨data, 0⟩
  refine ⟨infos, bufs, hrun, ?_, ?_⟩
  · rw [hcount, List.length_take, Nat.min_eq_left hnum]
  · intro i conv hconv
    have h := hstored bufs (.refl bufs) i conv hconv
    rwa [Nat.zero_add] at h

end

/-! ### An unsigned TINYINT -/

/-- A TINYINT UNSIGNED NOT NULL with an index. -/
def tinyField : Field := ⟨"a", .tiny true, 1, none, .none, false, false⟩

def tinyPart : KeyPart := ⟨tinyField, 1, 1, false, true⟩

/-- The value 200. -/
def tinyRecord : MysqlRecord := fun a => if a = 1 then .byte 200 else .byte 0

theorem tinyPart_valid : tinyPart.Valid :=
  ⟨rfl, Nat.zero_lt_one, fun _ => rfl, fun h => by cases h⟩

theorem tinyField_indexable : Indexable tinyField.columnType :=
  indexable_of_keyLength_le trivial (by simp [tinyField, ColumnType.auxKind])
    (show 1 ≤ 4095 by omega)

/-- A search for 200. -/
def tinyInfo : IndexKeyInfo := ⟨1, fun _ => ⟨false, ⟨some 0, 1⟩, ⟨none, 0⟩⟩⟩

def tinyKey : Mem UInt8 := fun _ => 200

theorem ctcConvertIndexDatatype_tiny : ∃ infos bufs,
    ctcConvertIndexDatatype .debug .none false tinyKey tinyKey [tinyPart] tinyInfo (fun _ => []) =
      .ok (infos, bufs) ∧ infos.length = 1 ∧
    infos.map (fun conv => conv.left.bytes tinyKey bufs.data) = [[200, 0, 0, 0]] := by
  obtain ⟨out, hout⟩ : ∃ out, mysqlRecordToCantianRecord .debug .none .refusing
      ⟨[tinyField], 1⟩ tinyRecord (fun _ => 0) () none = .ok out := ⟨_, rfl⟩
  let row : RowValue .debug .none .refusing :=
    { table := ⟨[tinyField], 1⟩
      record := tinyRecord
      buf := fun _ => 0
      lob := ()
      fields := none
      out := out
      k := 0
      columnId := 0
      field := tinyField
      valid := ⟨by decide, fun f hf => by rw [List.mem_singleton.mp hf]; trivial⟩
      encoded := hout
      column := rfl
      fieldAt := rfl
      notNull := rfl
      indexable := tinyField_indexable }
  let rows : Nat → Option (RowValue .debug .none .refusing) := fun _ => some row
  have hparts : ∀ part ∈ [tinyPart], part.Valid := by
    intro part hpart
    rw [List.mem_singleton.mp hpart]
    exact tinyPart_valid
  have hleft : ∀ i part, i < tinyInfo.keyNum → [tinyPart][i]? = some part →
      HoldsRow tinyKey part (tinyInfo.keyInfo i).left (rows i) := by
    intro i part hi hpart
    obtain rfl : i = 0 := Nat.lt_one_iff.mp hi
    cases hpart
    exact ⟨[200], ⟨rfl, rfl⟩, 0, rfl, rfl, rfl⟩
  have hright : false = true → ∀ i part, i < tinyInfo.keyNum → [tinyPart][i]? = some part →
      HoldsRow tinyKey part (tinyInfo.keyInfo i).right (rows i) := by
    intro h
    cases h
  obtain ⟨infos, bufs, hrun, hcount, -⟩ := ctcConvertIndexDatatype_stored
    LobStore.refusing_lawful hparts le_rfl hleft hright (fun _ => [])
  refine ⟨infos, bufs, hrun, hcount, ?_⟩
  have hbytes : (ctcConvertIndexDatatype .debug .none false tinyKey tinyKey [tinyPart] tinyInfo
      (fun _ => [])).map (fun out => out.1.map fun conv => conv.left.bytes tinyKey out.2.data) =
      .ok [[200, 0, 0, 0]] := rfl
  rw [hrun] at hbytes
  exact Except.ok.inj hbytes

end CantianConnector.Index
