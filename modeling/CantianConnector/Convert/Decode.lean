import CantianConnector.Convert.Encode

/-!
# Decoding a Cantian row

`cantian_record_to_mysql_record` for rows that come without the column offsets of a prefetch
(`record_info->lens`). The decoder walks over the columns of the table, takes the bits of each
stored column from the bitmap, and copies the value to the column's place in the MySQL record.

`decodeField_spec` says what one column does to the record. The loop is treated in `RoundTrip`.
-/

namespace CantianConnector.Convert

/-! ## The functions -/

/-- The two bits of a column. -/
def ColBits.ofCode (code : UInt8) : ColBits :=
  if code = 0 then .null else if code = 1 then .four else if code = 2 then .eight else .var

/-- What the decoder reads of the statement it runs for. -/
structure ReadCtx where
  /-- `table->read_set`. -/
  readSet : Nat → Bool
  /-- `tch.sql_command == SQLCOM_SELECT`. -/
  isSelect : Bool
  /-- `m_ror_intersect`. -/
  rorIntersect : Bool
  /-- `index->max_col_idx`. -/
  maxColIdx : Nat

/-- Is the value of a column copied? -/
def ReadCtx.copies (ctx : ReadCtx) (columnId : Nat) : Bool :=
  ctx.readSet columnId || !ctx.isSelect || ctx.rorIntersect

/-- `padding_variable_byte`: the bytes stored before the data. -/
def paddingVariableByte (mysqlInfo : FieldCnvrtAux) (field : Field) (fieldLen : Nat) :
    List UInt8 :=
  match mysqlInfo.mysqlFieldType with
  | .varchar => Bytes.le field.columnType.lengthBytes fieldLen
  | .json | .blob => Bytes.le field.columnType.rowPackLength fieldLen
  | _ => []

/-- `ctc_field_type_is_lob`, for rows of a table. -/
def ctcFieldTypeIsLob (mysqlInfo : FieldCnvrtAux) (field : Field) : Bool :=
  match mysqlInfo.mysqlFieldType with
  | .blob | .json => true
  | .varchar => varcharAsBlob field.columnType.rowPackLength
  | _ => false

/-- Storing bytes in a MySQL record. -/
def MysqlRecord.writeBytes (record : MysqlRecord) (off : Nat) (bytes : List UInt8) : MysqlRecord :=
  record.write off (bytes.map Cell.byte)

/-- Storing the address of a block; `none` is a null pointer. -/
def MysqlRecord.writePtr (record : MysqlRecord) (off : Nat) (block : Option (List UInt8)) :
    MysqlRecord :=
  record.write off ((block.map ptrCells).getD (List.replicate 8 (Cell.byte 0)))

/-- Setting the NULL bit of a column. -/
def MysqlRecord.setNull (record : MysqlRecord) (field : Field) : Result MysqlRecord :=
  match field.nullBit with
  | none => .error .undefined
  | some nb =>
    .ok (record.writeBytes nb.offset
      [(record nb.offset).toByte ||| (1 <<< UInt8.ofNat nb.pos)])

/-- A column as `ctc_parse_cantian_column_and_update_offset` leaves it. -/
structure ParsedColumn where
  fieldLen : Nat
  alignedFieldLen : Nat
  cantianOffset : Nat
  /-- The bytes stored before the data. -/
  head : List UInt8

/-- `ctc_parse_cantian_column_and_update_offset` for a column that is not NULL. -/
def ctcParseCantianColumn (mysqlInfo : FieldCnvrtAux) (field : Field) (bits : ColBits)
    (buf : Mem UInt8) (offset : Nat) : ParsedColumn :=
  match bits with
  | .four => ⟨4, 4, offset, []⟩
  | .eight => ⟨8, 8, offset, []⟩
  | _ =>
    let fieldLen := Bytes.ofLe (buf.read offset 2)
    let len :=
      if ctcFieldTypeIsLob mysqlInfo field then lobHeadSize (buf.read (offset + 2) lobLocatorSize)
      else fieldLen
    ⟨fieldLen, (roundUp4 (fieldLen + 2) - 2) % 65536, offset + 2,
      paddingVariableByte mysqlInfo field len⟩

section

variable {σ : Type} (build : Build) (prims : ServerPrims) (store : LobStore σ)

/-- The string case of `copy_column_data_to_mysql`. A long VARCHAR is read into a block, whose
address is stored in the record before the data overwrites it. -/
def copyStringToMysql (mysqlInfo : FieldCnvrtAux) (field : Field) (lob : σ) (cantian : Mem UInt8)
    (fieldLen : Nat) (record : MysqlRecord) (mysqlOffset : Nat) : Result MysqlRecord := do
  let record ←
    (if varcharAsBlob field.columnType.rowPackLength then do
      let block := convertBlobToMysql store lob cantian
      let record := record.writePtr mysqlOffset block
      let srcLen := lobHeadSize (cantian.read 0 lobLocatorSize) % 65536
      cAssert build (srcLen != 0)
      (match block with
      | none => if srcLen = 0 then .ok record else .error .undefined
      | some src => .ok (record.writeBytes mysqlOffset (src.take srcLen)))
    else .ok (record.writeBytes mysqlOffset (cantian.read 0 fieldLen)))
  match field.columnType with
  | .string n padChar =>
    if mysqlInfo.mysqlFieldType = .string ∧ fieldLen < n then
      return record.writeBytes (mysqlOffset + fieldLen) (List.replicate (n - fieldLen) padChar)
    else return record
  | _ => return record

/-- `copy_column_data_to_mysql`, for rows of a table. -/
def copyColumnDataToMysql (ctx : ReadCtx) (mysqlInfo : FieldCnvrtAux) (field : Field)
    (columnId : Nat) (lob : σ) (cantian : Mem UInt8) (fieldLen : Nat) (record : MysqlRecord)
    (mysqlOffset : Nat) : Result MysqlRecord :=
  if ctx.copies columnId then
    match mysqlInfo.sqlDataType with
    | .numeric => do
      let image ← convertNumericToMysql build prims mysqlInfo cantian field
      return record.writeBytes mysqlOffset image
    | .datetime => do
      let image ← convertDatetimeToMysql build prims.time mysqlInfo (cantian.read 0 8) field
      return record.writeBytes mysqlOffset image
    | .string => copyStringToMysql build store mysqlInfo field lob cantian fieldLen record mysqlOffset
    | .lob => do
      let block := convertBlobToMysql store lob cantian
      -- convert_json_to_mysql
      cAssert build (!(field.columnType.type == .json && prims.valJson (block.getD [])))
      return record.writePtr mysqlOffset block
    | .unknown => do
      cAssert build false
      return record
  else .ok record

/-- The part of `convert_cantian_field_to_mysql_field` for a column that is not NULL. -/
def convertCantianValue (ctx : ReadCtx) (mysqlInfo : FieldCnvrtAux) (field : Field)
    (columnId : Nat) (bits : ColBits) (lob : σ) (buf : Mem UInt8) (offset : Nat)
    (record : MysqlRecord) : Result (MysqlRecord × Nat) := do
  let col := ctcParseCantianColumn mysqlInfo field bits buf offset
  let record := record.writeBytes field.offset col.head
  let record ← copyColumnDataToMysql build prims store ctx mysqlInfo field columnId lob
    (buf.shift col.cantianOffset) col.fieldLen record (field.offset + col.head.length)
  return (record, col.cantianOffset + col.alignedFieldLen)

/-- `convert_cantian_field_to_mysql_field`: the record and the offset of the next column. -/
def convertCantianFieldToMysqlField (ctx : ReadCtx) (field : Field) (columnId : Nat) (bits : ColBits)
    (lob : σ) (buf : Mem UInt8) (offset : Nat) (record : MysqlRecord) :
    Result (MysqlRecord × Nat) :=
  match getAuxiliaryForFieldConvert field field.columnType.type with
  | none => do
    cAssert build false
    .error .undefined
  | some mysqlInfo =>
    if bits = .null then do
      let record ← record.setNull field
      return (record, offset)
    else convertCantianValue build prims store ctx mysqlInfo field columnId bits lob buf offset record

/-- The variables of the loop of `cantian_record_to_mysql_record`. -/
structure DecodeState where
  virtualGcolCnt : Nat
  cantianFieldOffset : Nat
  record : MysqlRecord

/-- One round of the loop. -/
def decodeStep (ctx : ReadCtx) (table : Table) (lob : σ) (buf : Mem UInt8) (columnId : Nat)
    (st : DecodeState) : Result DecodeState :=
  match table.fields[columnId]? with
  | none => .error .undefined
  | some field =>
    if field.isVirtualGcol then .ok { st with virtualGcolCnt := st.virtualGcolCnt + 1 }
    else do
      let colId := columnId - st.virtualGcolCnt
      let bits :=
        if headColumnCount buf ≤ colId then ColBits.null else .ofCode (rowGetColumnBits2 buf colId)
      let (record, offset) ← convertCantianFieldToMysqlField build prims store ctx field columnId
        bits lob buf st.cantianFieldOffset st.record
      return { st with record := record, cantianFieldOffset := offset }

/-- The loop, from column `columnId` on. -/
def decodeLoop (ctx : ReadCtx) (table : Table) (lob : σ) (buf : Mem UInt8) :
    Nat → Nat → DecodeState → Result DecodeState
  | 0, _, st => .ok st
  | fuel + 1, columnId, st =>
    if ctx.maxColIdx < columnId then .ok st
    else do
      let st ← decodeStep build prims store ctx table lob buf columnId st
      decodeLoop ctx table lob buf fuel (columnId + 1) st

/-- `cantian_record_to_mysql_record`. -/
def cantianRecordToMysqlRecord (ctx : ReadCtx) (table : Table) (lob : σ) (buf : Mem UInt8)
    (record : MysqlRecord) : Result MysqlRecord := do
  cAssert build (!headIsCsf buf)
  -- IS_SPRS_ROW
  cAssert build (headColumnCount buf != 0)
  let offset := rowHeadSize + colBitmapExSize (headColumnCount buf) + (if headIsMigr buf then 8 else 0)
  let record := record.writeBytes 0 (List.replicate table.nullBytes 0)
  let st ← decodeLoop build prims store ctx table lob buf table.fields.length 0 ⟨0, offset, record⟩
  return st.record

end

/-! ## Values of a record -/

namespace MysqlRecord

/-- The value of a column that is not NULL: the data of a VARCHAR or BLOB, else the bytes of
its image. -/
def valueBytes (record : MysqlRecord) (field : Field) : List UInt8 :=
  match field.columnType with
  | .varchar _ => record.stringData field
  | .blob _ | .json => record.blobData field field.offset
  | c => record.readBytes field.offset c.packLength

/-- The value of a column, `none` for NULL. -/
def fieldValue (record : MysqlRecord) (field : Field) : Option (List UInt8) :=
  if record.isNull field then none else some (record.valueBytes field)

theorem readBytes_congr {m m' : MysqlRecord} {off n : Nat}
    (h : ∀ a, off ≤ a → a < off + n → m a = m' a) : m.readBytes off n = m'.readBytes off n := by
  unfold readBytes
  rw [Mem.read_congr h]

theorem readBytes_writeBytes (m : MysqlRecord) {off n : Nat} {bytes : List UInt8}
    (h : bytes.length = n) : (m.writeBytes off bytes).readBytes off n = bytes := by
  unfold readBytes writeBytes
  rw [Mem.read_write_same' (by simpa using h), List.map_map]
  exact List.map_id _

theorem readBytes_writeBytes_disjoint (m : MysqlRecord) {off off' n : Nat} {bytes : List UInt8}
    (h : off' + n ≤ off ∨ off + bytes.length ≤ off') :
    (m.writeBytes off bytes).readBytes off' n = m.readBytes off' n := by
  unfold readBytes writeBytes
  rw [Mem.read_write_disjoint (by simpa using h)]

theorem readBytes_add (m : MysqlRecord) (off k n : Nat) :
    m.readBytes off (k + n) = m.readBytes off k ++ m.readBytes (off + k) n := by
  unfold readBytes
  rw [Mem.read_add, List.map_append]

end MysqlRecord

theorem length_ptrCells (block : List UInt8) : (ptrCells block).length = 8 := by
  simp [ptrCells]

theorem readPtr_ptrCells (block : List UInt8) : readPtr (ptrCells block) = some block := by
  simp [readPtr, ptrCells, List.range_succ_eq_map]

/-- A CHAR value is its trimmed text followed by pad characters. -/
theorem take_trimPad_append (padChar : UInt8) (bytes : List UInt8) :
    bytes.take (trimPad padChar bytes) ++
      List.replicate (bytes.length - trimPad padChar bytes) padChar = bytes := by
  induction bytes using List.reverseRecOn with
  | nil => rfl
  | append_singleton bytes b ih =>
    unfold trimPad at ih ⊢
    rw [List.reverse_append, List.reverse_singleton, List.singleton_append, List.dropWhile_cons]
    by_cases hb : b = padChar
    · subst hb
      have hle : (bytes.reverse.dropWhile (· == b)).length ≤ bytes.length :=
        (List.dropWhile_sublist _).length_le.trans_eq List.length_reverse
      simp only [beq_self_eq_true, if_true, List.length_append, List.length_singleton]
      rw [List.take_append_of_le_length hle, Nat.sub_add_comm hle, List.replicate_succ',
        ← List.append_assoc, ih]
    · have hb' : (b == padChar) = false := by simpa using hb
      simp [hb']

/-- Pad characters behind a text change nothing. -/
theorem trimPad_append_replicate (padChar : UInt8) (bytes : List UInt8) (k : Nat) :
    trimPad padChar (bytes ++ List.replicate k padChar) = trimPad padChar bytes := by
  unfold trimPad
  rw [List.reverse_append, List.reverse_replicate, List.dropWhile_append_of_pos]
  intro b hb
  rw [List.eq_of_mem_replicate hb]
  exact beq_self_eq_true padChar

/-! ## Frames -/

/-- The cells of two columns and their NULL bits are different. -/
structure Field.Separate (f g : Field) : Prop where
  cells : f.offset + f.columnType.packLength ≤ g.offset ∨
    g.offset + g.columnType.packLength ≤ f.offset
  nullBit : f.nullBit.isSome → f.nullBit ≠ g.nullBit

instance (f g : Field) : Decidable (f.Separate g) :=
  decidable_of_iff ((f.offset + f.columnType.packLength ≤ g.offset ∨
      g.offset + g.columnType.packLength ≤ f.offset) ∧
    (f.nullBit.isSome → f.nullBit ≠ g.nullBit)) ⟨fun h => ⟨h.1, h.2⟩, fun h => ⟨h.1, h.2⟩⟩

theorem Field.Separate.symm {f g : Field} (h : f.Separate g) : g.Separate f := by
  refine ⟨h.cells.symm, ?_⟩
  intro hg heq
  exact h.nullBit (heq ▸ hg) heq.symm

/-- What the server promises about the layout of a record: the NULL bits come first, and no two
columns share a cell or a NULL bit. -/
structure Table.Layout (table : Table) : Prop where
  data : ∀ f ∈ table.fields, table.nullBytes ≤ f.offset
  nullBit : ∀ f ∈ table.fields, ∀ nb ∈ f.nullBit, nb.offset < table.nullBytes
  separate : table.fields.Pairwise Field.Separate

theorem Table.Layout.separate_of_ne {table : Table} (h : table.Layout) {i j : Nat} {f g : Field}
    (hij : i ≠ j) (hf : table.fields[i]? = some f) (hg : table.fields[j]? = some g) :
    f.Separate g := by
  obtain ⟨hi, rfl⟩ := List.getElem?_eq_some_iff.mp hf
  obtain ⟨hj, rfl⟩ := List.getElem?_eq_some_iff.mp hg
  have hpair := List.pairwise_iff_getElem.mp h.separate
  rcases Nat.lt_or_gt_of_ne hij with hlt | hlt
  · exact hpair i j hi hj hlt
  · exact (hpair j i hj hi hlt).symm

/-- Only the cells of a column differ. -/
def Field.Frame (field : Field) (m m' : MysqlRecord) : Prop :=
  ∀ a, a < field.offset ∨ field.offset + field.columnType.packLength ≤ a → m' a = m a

theorem Field.Frame.refl (field : Field) (m : MysqlRecord) : field.Frame m m := fun _ _ => rfl

theorem Field.Frame.write {field : Field} {m m' : MysqlRecord} (h : field.Frame m m') {off : Nat}
    {cells : List Cell} (h1 : field.offset ≤ off)
    (h2 : off + cells.length ≤ field.offset + field.columnType.packLength) :
    field.Frame m (m'.write off cells) := by
  intro a ha
  rw [Mem.write_outside (by omega)]
  exact h a ha

theorem Field.Frame.writeBytes {field : Field} {m m' : MysqlRecord} (h : field.Frame m m')
    {off : Nat} {bytes : List UInt8} (h1 : field.offset ≤ off)
    (h2 : off + bytes.length ≤ field.offset + field.columnType.packLength) :
    field.Frame m (m'.writeBytes off bytes) :=
  h.write h1 (by simpa using h2)

/-- A column whose cells and NULL bit stay as they are. -/
structure Field.Untouched (g : Field) (m m' : MysqlRecord) : Prop where
  cells : ∀ a, g.offset ≤ a → a < g.offset + g.columnType.packLength → m' a = m a
  isNull : m'.isNull g = m.isNull g

section

variable {table : Table} {f g : Field} {m m' : MysqlRecord}

theorem Field.Frame.isNull (h : f.Frame m m') (hlayout : table.Layout) (hf : f ∈ table.fields)
    (hg : g ∈ table.fields) : m'.isNull g = m.isNull g := by
  unfold MysqlRecord.isNull
  cases hnb : g.nullBit with
  | none => rfl
  | some nb =>
    have h1 := hlayout.data f hf
    have h2 := hlayout.nullBit g hg nb hnb
    simp only
    rw [h nb.offset (by omega)]

theorem Field.Frame.untouched (h : f.Frame m m') (hlayout : table.Layout) (hf : f ∈ table.fields)
    (hg : g ∈ table.fields) (hsep : f.Separate g) : g.Untouched m m' := by
  refine ⟨?_, h.isNull hlayout hf hg⟩
  intro a h1 h2
  have hcells := hsep.cells
  exact h a (by omega)

theorem nullMask_disjoint : ∀ p q : Fin 8, p ≠ q →
    ((1 <<< UInt8.ofNat p : UInt8) &&& (1 <<< UInt8.ofNat q)) = 0 := by
  decide

theorem nullMask_ne_zero : ∀ p : Fin 8, (1 <<< UInt8.ofNat p : UInt8) ≠ 0 := by
  decide

@[simp] theorem Cell.toByte_byte (b : UInt8) : (Cell.byte b).toByte = b := rfl

theorem or_and_mask (a b c : UInt8) : (a ||| b) &&& c = (a &&& c) ||| (b &&& c) :=
  UInt8.toBitVec_inj.1 BitVec.and_or_distrib_right

/-- Setting the NULL bit of a column. -/
theorem setNull_spec (hlayout : table.Layout) {nb : NullBit} (hnb : f.nullBit = some nb)
    (hf : f ∈ table.fields) (m : MysqlRecord) :
    ∃ m', m.setNull f = .ok m' ∧ m'.isNull f = true ∧
      ∀ g ∈ table.fields, f.Separate g → g.Untouched m m' := by
  have hcell : m.writeBytes nb.offset [(m nb.offset).toByte ||| (1 <<< UInt8.ofNat nb.pos)]
      nb.offset = .byte ((m nb.offset).toByte ||| (1 <<< UInt8.ofNat nb.pos)) := by
    exact Mem.write_inside (i := 0) rfl
  refine ⟨m.writeBytes nb.offset [(m nb.offset).toByte ||| (1 <<< UInt8.ofNat nb.pos)], ?_, ?_, ?_⟩
  · simp only [MysqlRecord.setNull, hnb]
  · simp only [MysqlRecord.isNull, hnb, hcell, Cell.toByte_byte, or_and_mask, UInt8.and_self]
    simp [nullMask_ne_zero nb.pos]
  · intro g hg hsep
    have hother : ∀ a, a ≠ nb.offset →
        m.writeBytes nb.offset [(m nb.offset).toByte ||| (1 <<< UInt8.ofNat nb.pos)] a = m a := by
      intro a ha
      refine Mem.write_outside ?_
      simp only [List.map_cons, List.map_nil, List.length_singleton]
      omega
    refine ⟨?_, ?_⟩
    · intro a h1 h2
      have hd := hlayout.data g hg
      have hn := hlayout.nullBit f hf nb hnb
      exact hother a (by omega)
    · unfold MysqlRecord.isNull
      cases hgb : g.nullBit with
      | none => rfl
      | some nb' =>
        simp only
        by_cases hoff : nb'.offset = nb.offset
        · have hpos : nb.pos ≠ nb'.pos := by
            intro hpos
            apply hsep.nullBit (by rw [hnb]; rfl)
            rw [hnb, hgb]
            congr 1
            cases nb
            cases nb'
            simp_all
          rw [hoff, hcell]
          simp only [Cell.toByte_byte, or_and_mask, nullMask_disjoint _ _ hpos, UInt8.or_zero]
        · rw [hother _ hoff]

end

/-! ## One column -/

/-- The contents of a column that is not NULL which the conversions are made for. -/
def FieldStorable (prims : ServerPrims) (record : MysqlRecord) (field : Field) : Prop :=
  let c := field.columnType
  match c.auxKind with
  | .numeric => NumericStorable prims c (record.readBytes field.offset c.packLength)
  | .datetime => TemporalStorable prims.time c (record.readBytes field.offset c.packLength)
  | .string => (record.stringData field).length ≤ c.rowPackLength
  | .lob => c.type = .json → prims.valJson (record.blobData field field.offset) = false
  | .unknown => True

/-- An empty value in a VARCHAR that is stored as a LOB. -/
def EmptyLongVarchar (record : MysqlRecord) (field : Field) : Prop :=
  field.columnType.auxKind = .string ∧ varcharAsBlob field.columnType.rowPackLength = true ∧
    record.stringData field = []

instance (record : MysqlRecord) (field : Field) : Decidable (EmptyLongVarchar record field) :=
  inferInstanceAs (Decidable (_ ∧ _ ∧ _))

section

variable {record m : MysqlRecord} {field : Field}

@[simp] theorem MysqlRecord.writeBytes_nil (m : MysqlRecord) (off : Nat) :
    m.writeBytes off [] = m := by
  simp [MysqlRecord.writeBytes]

theorem valueBytes_image
    (hkind : field.columnType.auxKind = .numeric ∨ field.columnType.auxKind = .datetime) :
    record.valueBytes field = record.readBytes field.offset field.columnType.packLength := by
  unfold MysqlRecord.valueBytes
  cases hc : field.columnType <;> rw [hc] at hkind <;> simp_all [ColumnType.auxKind]

/-- Storing the image of a numeric or temporal column. -/
theorem writeImage_spec
    (hkind : field.columnType.auxKind = .numeric ∨ field.columnType.auxKind = .datetime)
    (m : MysqlRecord) :
    field.Frame m (m.writeBytes field.offset
        (record.readBytes field.offset field.columnType.packLength)) ∧
      (m.writeBytes field.offset
        (record.readBytes field.offset field.columnType.packLength)).valueBytes field =
          record.valueBytes field := by
  refine ⟨?_, ?_⟩
  · apply (Field.Frame.refl field m).writeBytes le_rfl
    rw [MysqlRecord.length_readBytes]
  · rw [valueBytes_image hkind, valueBytes_image hkind, MysqlRecord.readBytes_writeBytes]
    exact MysqlRecord.length_readBytes _ _ _

theorem varchar_bounds {n : Nat} (hc : field.columnType = .varchar n)
    (hvalid : field.columnType.Valid) (hlen : (record.stringData field).length ≤ n) :
    field.columnType.packLength = n + field.columnType.lengthBytes ∧
      (record.stringData field).length < 256 ^ field.columnType.lengthBytes := by
  rw [hc] at hvalid ⊢
  have hn : n < 65536 := hvalid
  refine ⟨rfl, ?_⟩
  simp only [ColumnType.lengthBytes]
  split <;> omega

/-- A VARCHAR: its length, then its data, whatever is stored in between. -/
theorem writeVarchar_spec {n : Nat} (hc : field.columnType = .varchar n)
    (hvalid : field.columnType.Valid) (hlen : (record.stringData field).length ≤ n)
    {m1 m2 : MysqlRecord} (hm1 : m1 = m.writeBytes field.offset
      (Bytes.le field.columnType.lengthBytes (record.stringData field).length))
    (hframe : field.Frame m1 m2)
    (hhead : ∀ a, a < field.offset + field.columnType.lengthBytes → m2 a = m1 a) :
    field.Frame m (m2.writeBytes (field.offset + field.columnType.lengthBytes)
        (record.stringData field)) ∧
      (m2.writeBytes (field.offset + field.columnType.lengthBytes)
        (record.stringData field)).valueBytes field = record.valueBytes field := by
  obtain ⟨hpack, hlt⟩ := varchar_bounds hc hvalid hlen
  have hframe1 : field.Frame m m1 := by
    rw [hm1]
    apply (Field.Frame.refl field m).writeBytes le_rfl
    rw [Bytes.length_le]
    omega
  have hframe2 : field.Frame m m2 := fun a ha => (hframe a ha).trans (hframe1 a ha)
  refine ⟨hframe2.writeBytes (by omega) (by omega), ?_⟩
  generalize hdata : record.stringData field = data at *
  generalize hm3 : m2.writeBytes (field.offset + field.columnType.lengthBytes) data = m3
  have hlead : m3.readBytes field.offset field.columnType.lengthBytes =
      Bytes.le field.columnType.lengthBytes data.length := by
    rw [← hm3, MysqlRecord.readBytes_writeBytes_disjoint _ (by omega),
      MysqlRecord.readBytes_congr (fun a _ ha => hhead a ha), hm1,
      MysqlRecord.readBytes_writeBytes _ (Bytes.length_le _ _)]
  have hvalue : ∀ r : MysqlRecord, r.valueBytes field = r.stringData field := by
    intro r
    simp only [MysqlRecord.valueBytes, hc]
  rw [hvalue, hvalue, hdata]
  have hstring : m3.stringData field = m3.readBytes (field.offset + field.columnType.lengthBytes)
      (Bytes.ofLe (m3.readBytes field.offset field.columnType.lengthBytes)) := by
    simp only [MysqlRecord.stringData, hc]
  rw [hstring, hlead, Bytes.ofLe_le_of_lt hlt, ← hm3, MysqlRecord.readBytes_writeBytes _ rfl]

/-- A CHAR: its text, then the padding. -/
theorem writeChar_spec {n : Nat} {padChar : UInt8} (hc : field.columnType = .string n padChar)
    (m : MysqlRecord) :
    let data := record.stringData field
    let m' := (m.writeBytes field.offset data).writeBytes (field.offset + data.length)
      (List.replicate (n - data.length) padChar)
    field.Frame m m' ∧ m'.valueBytes field = record.valueBytes field ∧ data.length ≤ n := by
  intro data m'
  have hpack : field.columnType.packLength = n := by rw [hc]; rfl
  have hdata : data = (record.readBytes field.offset n).take
      (trimPad padChar (record.readBytes field.offset n)) := by
    have hle := length_trimPad padChar (record.readBytes field.offset n)
    rw [record.length_readBytes] at hle
    simp only [data, MysqlRecord.stringData, hc, ColumnType.lengthBytes, Nat.add_zero]
    generalize trimPad padChar (record.readBytes field.offset n) = k at hle
    obtain ⟨j, rfl⟩ : ∃ j, n = k + j := ⟨n - k, by omega⟩
    rw [record.readBytes_add, List.take_left' (record.length_readBytes _ _)]
  have hlen : data.length = trimPad padChar (record.readBytes field.offset n) := by
    rw [hdata, List.length_take]
    exact Nat.min_eq_left (length_trimPad _ _)
  have hle : data.length ≤ n := by
    rw [hlen]
    exact (length_trimPad _ _).trans_eq (record.length_readBytes _ _)
  have hvalue : ∀ r : MysqlRecord, r.valueBytes field = r.readBytes field.offset n := by
    intro r
    simp only [MysqlRecord.valueBytes, hc]
    rfl
  refine ⟨?_, ?_, hle⟩
  · apply ((Field.Frame.refl field m).writeBytes le_rfl (by omega)).writeBytes (by omega)
    rw [List.length_replicate]
    omega
  · rw [hvalue, hvalue]
    have hsplit : n = data.length + (n - data.length) := by omega
    have hm' : m'.readBytes field.offset n =
        data ++ List.replicate (n - data.length) padChar := by
      conv_lhs => rw [hsplit]
      rw [MysqlRecord.readBytes_add, MysqlRecord.readBytes_writeBytes _ (by simp),
        MysqlRecord.readBytes_writeBytes_disjoint _ (by omega),
        MysqlRecord.readBytes_writeBytes _ rfl]
    have htrim := take_trimPad_append padChar (record.readBytes field.offset n)
    rw [record.length_readBytes, ← hlen] at htrim
    rw [hm', ← htrim]
    congr 1
    rw [hlen]
    exact hdata

/-- A LOB: its length, then the address of its data. -/
theorem writeLob_spec (hkind : field.columnType.auxKind = .lob) (m : MysqlRecord) :
    let data := record.blobData field field.offset
    let head := Bytes.le field.columnType.rowPackLength data.length
    let m' := (m.writeBytes field.offset head).writePtr
      (field.offset + field.columnType.rowPackLength) (some data)
    field.Frame m m' ∧ m'.valueBytes field = record.valueBytes field := by
  intro data head m'
  have hpack : field.columnType.packLength = field.columnType.rowPackLength + 8 := by
    cases hc : field.columnType <;> rw [hc] at hkind <;> cases hkind <;> rfl
  have hlt : data.length < 256 ^ field.columnType.rowPackLength := by
    have := ofLe_readBytes_lt record field.offset field.columnType.rowPackLength
    simp only [data, MysqlRecord.blobData, List.length_take]
    omega
  have hhead : head.length = field.columnType.rowPackLength := Bytes.length_le _ _
  have hm' : m' = (m.writeBytes field.offset head).write
      (field.offset + field.columnType.rowPackLength) (ptrCells data) := rfl
  have hvalue : ∀ r : MysqlRecord, r.valueBytes field = r.blobData field field.offset := by
    intro r
    cases hc : field.columnType <;> rw [hc] at hkind <;> cases hkind <;>
      simp only [MysqlRecord.valueBytes, hc]
  refine ⟨?_, ?_⟩
  · rw [hm']
    apply ((Field.Frame.refl field m).writeBytes le_rfl (by omega)).write (by omega)
    rw [length_ptrCells]
    omega
  · rw [hvalue, hvalue]
    have hlead : m'.readBytes field.offset field.columnType.rowPackLength = head := by
      have hsame : m'.readBytes field.offset field.columnType.rowPackLength =
          (m.writeBytes field.offset head).readBytes field.offset
            field.columnType.rowPackLength := by
        apply MysqlRecord.readBytes_congr
        intro a _ ha
        rw [hm', Mem.write_of_lt _ ha]
      rw [hsame, MysqlRecord.readBytes_writeBytes _ hhead]
    have hptr : m'.read (field.offset + field.columnType.rowPackLength) 8 = ptrCells data := by
      rw [hm', Mem.read_write_same' (length_ptrCells _)]
    unfold MysqlRecord.blobData
    dsimp only
    rw [hlead, hptr, readPtr_ptrCells, Bytes.ofLe_le_of_lt hlt]
    exact List.take_length

/-- A column of variable length, as the parser finds it. -/
theorem ctcParseCantianColumn_var (mysqlInfo : FieldCnvrtAux) (field : Field) {buf : Mem UInt8}
    {off : Nat} {data : List UInt8}
    (hread : buf.read off (ColImage.var data).stored.length = (ColImage.var data).stored)
    (hlen : data.length ≤ 8000) :
    ∃ aligned, ctcParseCantianColumn mysqlInfo field .var buf off =
        ⟨data.length, aligned, off + 2, paddingVariableByte mysqlInfo field
          (if ctcFieldTypeIsLob mysqlInfo field then
            lobHeadSize ((buf.shift (off + 2)).read 0 lobLocatorSize) else data.length)⟩ ∧
      off + 2 + aligned = off + (ColImage.var data).width ∧
      (buf.shift (off + 2)).read 0 data.length = data := by
  simp only [ColImage.stored, List.length_append, Bytes.length_le] at hread
  rw [Mem.read_add] at hread
  obtain ⟨hlead, hdata⟩ := List.append_inj hread (by simp)
  have hround := roundUp4_bounds (data.length + 2)
  refine ⟨roundUp4 (data.length + 2) - 2, ?_, ?_, ?_⟩
  · simp only [ctcParseCantianColumn, hlead, Mem.read_shift, Nat.add_zero]
    rw [Bytes.ofLe_le_of_lt (by omega), Nat.mod_eq_of_lt (by omega)]
  · simp only [ColImage.width]
    omega
  · rw [Mem.read_shift, Nat.add_zero, hdata]

variable {σ : Type} {build : Build} {prims : ServerPrims} {store : LobStore σ}
  {contents : σ → List UInt8 → Option (List UInt8)} {s : σ} {mysqlInfo : FieldCnvrtAux}

/-- The column is decoded to its value in `record`, and the decoder stands at `next`. -/
def Decodes (field : Field) (record m : MysqlRecord) (next : Nat)
    (result : Result (MysqlRecord × Nat)) : Prop :=
  ∃ m', result = .ok (m', next) ∧ field.Frame m m' ∧
    m'.valueBytes field = record.valueBytes field

theorem LobAt.length_le {locator blob : List UInt8} (h : LobAt contents s locator blob) :
    locator.length ≤ 8000 := by
  cases h with
  | inline hsize =>
    rw [length_inlineLocator]
    unfold lobMaxInlineSize lobLocatorBufSize lobDataOffset at *
    omega
  | outline _ hlen _ =>
    rw [hlen]
    decide

variable {ctx : ReadCtx} {columnId off : Nat} {buf : Mem UInt8}

theorem decodeNumeric_spec (hinfo : IsAux mysqlInfo field.columnType)
    (hvalid : field.columnType.Valid) (hkind : field.columnType.auxKind = .numeric)
    (hstorable : NumericStorable prims field.columnType
      (record.readBytes field.offset field.columnType.packLength))
    (hctx : ctx.copies columnId = true) {mysqlInfo' : FieldCnvrtAux} {bytes : List UInt8}
    {length fieldLen : Nat} (hinfo' : mysqlInfo'.mysqlFieldType = field.columnType.auxType)
    (h : convertNumericToCantian build prims mysqlInfo'
      (record.readBytes field.offset field.columnType.packLength) field length =
        .ok (bytes, fieldLen))
    (hread : buf.read off (ColImage.ofBits field.columnType.auxBits bytes).stored.length =
      (ColImage.ofBits field.columnType.auxBits bytes).stored) (m : MysqlRecord) :
    Decodes field record m (off + (ColImage.ofBits field.columnType.auxBits bytes).width)
      (convertCantianValue build prims store ctx mysqlInfo field columnId
        field.columnType.auxBits s buf off m) := by
  obtain ⟨h4, h8, hvar⟩ := length_convertNumericToCantian hinfo' hvalid hkind
    (record.length_readBytes _ _) h
  have hsame : convertNumericToCantian build prims mysqlInfo
      (record.readBytes field.offset field.columnType.packLength) field length =
        .ok (bytes, fieldLen) := by
    rw [← h]
    unfold convertNumericToCantian
    rw [hinfo', hinfo.type]
  -- The parser finds the value in the row, and there is nothing to store before it.
  obtain ⟨fieldLen', aligned, cantianOffset, hparse, hnext, hptr⟩ :
      ∃ fieldLen' aligned cantianOffset,
        ctcParseCantianColumn mysqlInfo field field.columnType.auxBits buf off =
          ⟨fieldLen', aligned, cantianOffset, []⟩ ∧
        cantianOffset + aligned =
          off + (ColImage.ofBits field.columnType.auxBits bytes).width ∧
        (buf.shift cantianOffset).read 0 bytes.length = bytes := by
    rcases auxBits_cases field.columnType with hb | hb | hb
    · rw [hb] at hread ⊢
      exact ⟨4, 4, off, rfl, rfl, by rw [Mem.read_shift]; exact hread⟩
    · rw [hb] at hread ⊢
      exact ⟨8, 8, off, rfl, rfl, by rw [Mem.read_shift]; exact hread⟩
    · obtain ⟨p, q, hc⟩ := newDecimal_of_var hb hkind
      have htype := hinfo.type
      rw [hc] at htype
      rw [hb] at hread ⊢
      obtain ⟨aligned, hparse, hnext, hptr⟩ :=
        ctcParseCantianColumn_var mysqlInfo field hread (by have := (hvar hb).2; omega)
      refine ⟨bytes.length, aligned, off + 2, ?_, hnext, hptr⟩
      rw [hparse]
      simp [paddingVariableByte, htype, ColumnType.auxType, ColumnType.type]
  have hconv := convertNumeric_round_trip hinfo.type hvalid hkind (record.length_readBytes _ _)
    hstorable hsame hptr
  obtain ⟨hframe, hvalue⟩ := @writeImage_spec record field (Or.inl hkind) m
  refine ⟨_, ?_, hframe, hvalue⟩
  simp only [convertCantianValue, hparse, copyColumnDataToMysql, hctx, if_true, hinfo.kind, hkind,
    hconv, result_bind_ok, result_pure, MysqlRecord.writeBytes_nil, List.length_nil, Nat.add_zero,
    hnext]

theorem decodeDatetime_spec (hinfo : IsAux mysqlInfo field.columnType)
    (hkind : field.columnType.auxKind = .datetime)
    (hstorable : TemporalStorable prims.time field.columnType
      (record.readBytes field.offset field.columnType.packLength))
    (hctx : ctx.copies columnId = true) {mysqlInfo' : FieldCnvrtAux} {bytes : List UInt8}
    (hinfo' : mysqlInfo'.mysqlFieldType = field.columnType.auxType)
    (h : convertDatetimeToCantian build prims.time mysqlInfo'
      (record.readBytes field.offset field.columnType.packLength) field = .ok bytes)
    (hread : buf.read off (ColImage.eight bytes).stored.length = (ColImage.eight bytes).stored)
    (m : MysqlRecord) :
    Decodes field record m (off + (ColImage.eight bytes).width)
      (convertCantianValue build prims store ctx mysqlInfo field columnId .eight s buf off m) := by
  have htype := auxType_datetime hkind
  have hsame : convertDatetimeToCantian build prims.time mysqlInfo
      (record.readBytes field.offset field.columnType.packLength) field = .ok bytes := by
    rw [← h]
    unfold convertDatetimeToCantian decodeMysqlDatetime
    rw [hinfo', hinfo.type]
  obtain ⟨bytes', hrun, h8, hback⟩ := @convertDatetime_round_trip build prims.time
    mysqlInfo field _ (hinfo.type.trans htype) hstorable
  rw [hsame] at hrun
  cases hrun
  have hptr : (buf.shift off).read 0 8 = bytes := by
    rw [Mem.read_shift, ← h8]
    exact hread
  obtain ⟨hframe, hvalue⟩ := @writeImage_spec record field (Or.inr hkind) m
  refine ⟨_, ?_, hframe, hvalue⟩
  simp only [convertCantianValue, ctcParseCantianColumn, copyColumnDataToMysql, hctx, if_true,
    hinfo.kind, hkind, hptr, hback, result_bind_ok, result_pure, MysqlRecord.writeBytes_nil,
    List.length_nil, Nat.add_zero, ColImage.width]

theorem decodeString_spec (hinfo : IsAux mysqlInfo field.columnType)
    (hvalid : field.columnType.Valid) (hkind : field.columnType.auxKind = .string)
    (hshort : varcharAsBlob field.columnType.rowPackLength = false)
    (hlen : (record.stringData field).length ≤ field.columnType.rowPackLength)
    (hctx : ctx.copies columnId = true)
    (hread : buf.read off (ColImage.var (record.stringData field)).stored.length =
      (ColImage.var (record.stringData field)).stored) (m : MysqlRecord) :
    Decodes field record m (off + (ColImage.var (record.stringData field)).width)
      (convertCantianValue build prims store ctx mysqlInfo field columnId .var s buf off m) := by
  have hrow : field.columnType.rowPackLength ≤ 8000 := by simpa [varcharAsBlob] using hshort
  obtain ⟨aligned, hparse, hnext, hptr⟩ :=
    ctcParseCantianColumn_var mysqlInfo field hread (by omega)
  have htype := hinfo.type
  cases hc : field.columnType with
  | varchar n =>
    rw [hc] at hlen htype
    have hlob : ctcFieldTypeIsLob mysqlInfo field = false := by
      simp [ctcFieldTypeIsLob, htype, ColumnType.auxType, ColumnType.type, hshort]
    obtain ⟨hframe, hvalue⟩ := writeVarchar_spec hc hvalid hlen (m := m) rfl
      (Field.Frame.refl field _) (fun _ _ => rfl)
    refine ⟨_, ?_, hframe, hvalue⟩
    simp only [convertCantianValue, hparse, hlob, Bool.false_eq_true, if_false,
      paddingVariableByte, htype, ColumnType.auxType, ColumnType.type, Bytes.length_le,
      copyColumnDataToMysql, hctx, if_true, hinfo.kind, hkind, copyStringToMysql, hshort, hptr,
      result_bind_ok, result_pure, hnext]
    simp only [hc, result_bind_ok]
  | string n padChar =>
    rw [hc] at hlen htype
    obtain ⟨hframe, hvalue, hle⟩ := @writeChar_spec record field n padChar hc m
    refine ⟨_, ?_, hframe, hvalue⟩
    simp only [convertCantianValue, hparse, Bool.false_eq_true, if_false,
      paddingVariableByte, htype, ColumnType.auxType, ColumnType.type, List.length_nil,
      copyColumnDataToMysql, hctx, if_true, hinfo.kind, hkind, copyStringToMysql, hshort, hptr,
      result_bind_ok, result_pure, hnext, MysqlRecord.writeBytes_nil, Nat.add_zero, true_and]
    simp only [hc]
    split
    · rfl
    · rename_i hfull
      have hzero : n - (record.stringData field).length = 0 := by omega
      rw [hzero, List.replicate_zero, MysqlRecord.writeBytes_nil]
      rfl
  | _ =>
    rw [hc] at hkind
    cases hkind

theorem decodeStringLob_spec (hlaw : store.Lawful contents)
    (hinfo : IsAux mysqlInfo field.columnType) (hvalid : field.columnType.Valid)
    (hkind : field.columnType.auxKind = .string)
    (hlong : varcharAsBlob field.columnType.rowPackLength = true)
    (hlen : (record.stringData field).length ≤ field.columnType.rowPackLength)
    (hctx : ctx.copies columnId = true) {locator : List UInt8}
    (hat : LobAt contents s locator (record.stringData field))
    (hread : buf.read off (ColImage.var locator).stored.length = (ColImage.var locator).stored)
    (m : MysqlRecord) :
    (build = .debug ∧ record.stringData field = [] →
      convertCantianValue build prims store ctx mysqlInfo field columnId .var s buf off m =
        .error .assertion) ∧
    (¬ (build = .debug ∧ record.stringData field = []) →
      Decodes field record m (off + (ColImage.var locator).width)
        (convertCantianValue build prims store ctx mysqlInfo field columnId .var s buf off m)) := by
  have hlt := length_stringData_lt record hvalid
  have hrow : 8000 < field.columnType.rowPackLength := by simpa [varcharAsBlob] using hlong
  obtain ⟨n, hc⟩ : ∃ n, field.columnType = .varchar n := by
    cases hc : field.columnType <;> rw [hc] at hkind hvalid hrow <;> cases hkind
    · exact ⟨_, rfl⟩
    · have hn : _ ≤ 1020 := hvalid
      simp only [ColumnType.rowPackLength] at hrow
      omega
  have hloclen := hat.length_le
  obtain ⟨aligned, hparse, hnext, hptr⟩ := ctcParseCantianColumn_var mysqlInfo field hread hloclen
  have htype := hinfo.type
  have hhead := hat.lobHeadSize_eq hlaw (by omega) hptr
  have hblock := convertBlobToMysql_spec hlaw hat (by omega) hptr
  have hlob : ctcFieldTypeIsLob mysqlInfo field = true := by
    simp [ctcFieldTypeIsLob, htype, hc, ColumnType.auxType, ColumnType.type] at hlong ⊢
    exact hlong
  rw [hc] at htype hlen
  generalize hm1 : m.writeBytes field.offset (Bytes.le field.columnType.lengthBytes
    (record.stringData field).length) = m1
  have hrun : convertCantianValue build prims store ctx mysqlInfo field columnId .var s buf off m =
      (do
        cAssert build ((record.stringData field).length != 0)
        return ((m1.writePtr (field.offset + field.columnType.lengthBytes)
          (some (record.stringData field))).writeBytes
            (field.offset + field.columnType.lengthBytes) (record.stringData field),
          off + (ColImage.var locator).width)) := by
    rw [← hm1]
    simp only [convertCantianValue, hparse, hlob, if_true, hhead, paddingVariableByte, htype,
      ColumnType.auxType, ColumnType.type, Bytes.length_le, copyColumnDataToMysql, hctx,
      hinfo.kind, hkind, copyStringToMysql, hlong, hblock, Nat.mod_eq_of_lt hlt,
      List.take_length, result_pure, hnext]
    simp only [hc]
    cases cAssert build ((record.stringData field).length != 0) with
    | error e => rfl
    | ok u => rfl
  refine ⟨?_, ?_⟩
  · rintro ⟨rfl, hempty⟩
    rw [hrun, hempty]
    rfl
  · intro hgood
    have hassert : cAssert build ((record.stringData field).length != 0) = .ok () := by
      unfold cAssert
      rw [if_neg]
      rintro ⟨hb, hz⟩
      apply hgood
      refine ⟨hb, List.length_eq_zero_iff.mp ?_⟩
      simpa using hz
    rw [hrun, hassert]
    obtain ⟨hpack, -⟩ := varchar_bounds hc hvalid hlen
    have hptrs : field.Frame m1 (m1.writePtr (field.offset + field.columnType.lengthBytes)
        (some (record.stringData field))) := by
      apply (Field.Frame.refl field m1).write (by omega)
      simp only [Option.map_some, Option.getD_some, length_ptrCells, hpack]
      rw [hc] at hrow
      simp only [ColumnType.rowPackLength] at hrow
      omega
    obtain ⟨hframe, hvalue⟩ := writeVarchar_spec hc hvalid hlen hm1.symm hptrs
      (fun a ha => Mem.write_of_lt _ ha)
    exact ⟨_, rfl, hframe, hvalue⟩

theorem decodeLob_spec (hlaw : store.Lawful contents) (hinfo : IsAux mysqlInfo field.columnType)
    (hvalid : field.columnType.Valid) (hkind : field.columnType.auxKind = .lob)
    (hjson : field.columnType.type = .json →
      prims.valJson (record.blobData field field.offset) = false)
    (hctx : ctx.copies columnId = true) {locator : List UInt8}
    (hat : LobAt contents s locator (record.blobData field field.offset))
    (hread : buf.read off (ColImage.var locator).stored.length = (ColImage.var locator).stored)
    (m : MysqlRecord) :
    Decodes field record m (off + (ColImage.var locator).width)
      (convertCantianValue build prims store ctx mysqlInfo field columnId .var s buf off m) := by
  have hblob := length_blobData_lt record hvalid hkind field.offset
  have hloclen := hat.length_le
  obtain ⟨aligned, hparse, hnext, hptr⟩ := ctcParseCantianColumn_var mysqlInfo field hread hloclen
  have htype : mysqlInfo.mysqlFieldType = .blob ∨ mysqlInfo.mysqlFieldType = .json := by
    rw [hinfo.type]
    cases hc : field.columnType <;> rw [hc] at hkind <;> cases hkind <;>
      simp [ColumnType.auxType, ColumnType.type]
  have hhead := hat.lobHeadSize_eq hlaw hblob hptr
  have hblock := convertBlobToMysql_spec hlaw hat hblob hptr
  have hlob : ctcFieldTypeIsLob mysqlInfo field = true := by
    rcases htype with h | h <;> simp [ctcFieldTypeIsLob, h]
  have hpad : ∀ len, paddingVariableByte mysqlInfo field len =
      Bytes.le field.columnType.rowPackLength len := by
    intro len
    rcases htype with h | h <;> simp [paddingVariableByte, h]
  have hval : (!(field.columnType.type == .json &&
      prims.valJson (record.blobData field field.offset))) = true := by
    by_cases hj : field.columnType.type = .json
    · simp [hjson hj]
    · simp [hj]
  obtain ⟨hframe, hvalue⟩ := @writeLob_spec record field hkind m
  refine ⟨_, ?_, hframe, hvalue⟩
  simp only [convertCantianValue, hparse, hlob, if_true, hhead, hpad, Bytes.length_le,
    copyColumnDataToMysql, hctx, hinfo.kind, hkind, hblock, Option.getD_some, hval, cAssert_true,
    result_bind_ok, result_pure, hnext]

/-- The column stops a debug build: `assert(src_len)` fails. -/
def StopsDecoder (build : Build) (record : MysqlRecord) (field : Field) : Prop :=
  build = .debug ∧ record.isNull field = false ∧ EmptyLongVarchar record field

/-- A decoded column in a table: it has its value, and no other column has changed. -/
def DecodedIn (table : Table) (field : Field) (record m : MysqlRecord) (next : Nat)
    (result : Result (MysqlRecord × Nat)) : Prop :=
  ∃ m', result = .ok (m', next) ∧ m'.fieldValue field = record.fieldValue field ∧
    ∀ g ∈ table.fields, field.Separate g → g.Untouched m m'

variable {table : Table}

theorem Decodes.decodedIn {next : Nat} {result : Result (MysqlRecord × Nat)}
    (h : Decodes field record m next result) (hlayout : table.Layout) (hf : field ∈ table.fields)
    (hnull : record.isNull field = false) (hclear : m.isNull field = false) :
    DecodedIn table field record m next result := by
  obtain ⟨m', hrun, hframe, hvalue⟩ := h
  refine ⟨m', hrun, ?_, fun g hg hsep => hframe.untouched hlayout hf hg hsep⟩
  have hsame := hframe.isNull hlayout hf hf
  simp [MysqlRecord.fieldValue, hsame, hclear, hnull, hvalue]

/-- **Decoding one column.** The image of a column of `record` at `off` is decoded to the same
value, unless it stops the decoder. -/
theorem decodeField_spec (hlaw : store.Lawful contents) (hlayout : table.Layout)
    (hf : field ∈ table.fields) (hvalid : field.columnType.Valid)
    (hstorable : record.isNull field = false → FieldStorable prims record field) {img : ColImage}
    (himg : FieldImage build prims contents s record field img)
    (hread : buf.read off img.stored.length = img.stored) (hctx : ctx.copies columnId = true)
    (hclear : m.isNull field = false) :
    (StopsDecoder build record field →
      convertCantianFieldToMysqlField build prims store ctx field columnId img.bits s buf off m =
        .error .assertion) ∧
    (¬ StopsDecoder build record field →
      DecodedIn table field record m (off + img.width)
        (convertCantianFieldToMysqlField build prims store ctx field columnId img.bits s buf off
          m)) := by
  obtain ⟨ddl, haux⟩ := getAuxiliary_columnType field
  generalize hmi : FieldCnvrtAux.mk field.columnType.auxType field.columnType.auxBits
    field.columnType.auxKind ddl = mysqlInfo at haux
  have hinfo : IsAux mysqlInfo field.columnType := by
    rw [← hmi]
    exact ⟨rfl, rfl, rfl⟩
  have hrun : img.bits ≠ .null → convertCantianFieldToMysqlField build prims store ctx field
      columnId img.bits s buf off m =
        convertCantianValue build prims store ctx mysqlInfo field columnId img.bits s buf off m := by
    intro hbits
    simp only [convertCantianFieldToMysqlField, haux, if_neg hbits]
  -- Columns of the other kinds never stop the decoder.
  have hother : ∀ {r}, (record.isNull field = true ∨ ¬ EmptyLongVarchar record field) →
      DecodedIn table field record m (off + img.width) r →
      (StopsDecoder build record field → r = .error .assertion) ∧
      (¬ StopsDecoder build record field → DecodedIn table field record m (off + img.width) r) := by
    intro r hgood hr
    refine ⟨?_, fun _ => hr⟩
    rintro ⟨-, hnull, hempty⟩
    rcases hgood with h | h
    · rw [h] at hnull
      cases hnull
    · exact absurd hempty h
  cases himg with
  | null hnull =>
    obtain ⟨nb, hnb⟩ : ∃ nb, field.nullBit = some nb := by
      cases hb : field.nullBit with
      | none => simp [MysqlRecord.isNull, hb] at hnull
      | some nb => exact ⟨nb, rfl⟩
    obtain ⟨m', hset, hnull', huntouched⟩ := setNull_spec hlayout hnb hf m
    apply hother (Or.inl hnull)
    refine ⟨m', ?_, ?_, huntouched⟩
    · simp only [convertCantianFieldToMysqlField, haux, ColImage.bits, if_true, hset,
        result_bind_ok, result_pure]
      rfl
    · simp [MysqlRecord.fieldValue, hnull, hnull']
  | numeric hnull hkind hinfo' h =>
    have hst := hstorable hnull
    simp only [FieldStorable, hkind] at hst
    apply hother (Or.inr fun he => by rw [he.1] at hkind; cases hkind)
    rw [hrun (by rw [ColImage.bits_ofBits]; exact auxBits_ne_null _), ColImage.bits_ofBits]
    exact (decodeNumeric_spec hinfo hvalid hkind hst hctx hinfo' h hread m).decodedIn hlayout hf
      hnull hclear
  | datetime hnull hkind hinfo' h =>
    have hst := hstorable hnull
    simp only [FieldStorable, hkind] at hst
    apply hother (Or.inr fun he => by rw [he.1] at hkind; cases hkind)
    rw [hrun (by simp [ColImage.bits])]
    exact (decodeDatetime_spec hinfo hkind hst hctx hinfo' h hread m).decodedIn hlayout hf hnull
      hclear
  | string hnull hkind hshort =>
    have hst := hstorable hnull
    simp only [FieldStorable, hkind] at hst
    apply hother (Or.inr fun he => by rw [he.2.1] at hshort; cases hshort)
    rw [hrun (by simp [ColImage.bits])]
    exact (decodeString_spec hinfo hvalid hkind hshort hst hctx hread m).decodedIn hlayout hf hnull
      hclear
  | stringLob hnull hkind hlong hat =>
    have hst := hstorable hnull
    simp only [FieldStorable, hkind] at hst
    obtain ⟨hbad, hgood⟩ := @decodeStringLob_spec record field σ build prims
      store contents s mysqlInfo ctx columnId off buf hlaw hinfo hvalid hkind hlong hst hctx _ hat
      hread m
    rw [hrun (by simp [ColImage.bits])]
    refine ⟨fun h => hbad ⟨h.1, h.2.2.2.2⟩, fun h => ?_⟩
    have hgood' := hgood fun hb => h ⟨hb.1, hnull, hkind, hlong, hb.2⟩
    exact hgood'.decodedIn hlayout hf hnull hclear
  | lob hnull hkind hat =>
    have hst := hstorable hnull
    simp only [FieldStorable, hkind] at hst
    apply hother (Or.inr fun he => by rw [he.1] at hkind; cases hkind)
    rw [hrun (by simp [ColImage.bits])]
    exact (decodeLob_spec hlaw hinfo hvalid hkind hst hctx hat hread m).decodedIn hlayout hf hnull
      hclear

end

end CantianConnector.Convert
