import CantianConnector.Convert.Encode

/-!
# Row heads of encoded records

Two questions about the head that `mysql_record_to_cantian_record` leaves in a record. Does it
say how long the record is and how many columns it has? And, in update mode, does the decoder
find the values where they are? The head is faithful exactly when the record has fewer than
1024 columns and 65536 bytes. The layout of an update record is consistent exactly when the
columns counted for the bitmap extension (over a prefix of the table) and the columns left in
the list need the same extension.
-/

namespace CantianConnector.Convert

/-- `CTC_MAX_COLUMNS`. -/
def ctcMaxColumns : Nat := 4096

/-- The tables the server hands to the connector. -/
structure Table.Valid (table : Table) : Prop where
  columns : table.fields.length ≤ ctcMaxColumns
  types : ∀ f ∈ table.fields, f.columnType.Valid

/-! ## The size of a record -/

/-- The length of a stored DECIMAL. -/
def decimalFieldLen (prims : ServerPrims) (image : List UInt8) (prec scale : Nat) : Nat :=
  match decimalMysqlToCantian prims image prec scale with
  | .ok (_, len) => len
  | .error _ => 0

/-- The length of the value of a column of variable length. -/
def varFieldLen (prims : ServerPrims) (record : MysqlRecord) (field : Field) : Nat :=
  let c := field.columnType
  match c.auxKind with
  | .string =>
    if varcharAsBlob c.rowPackLength then lobFieldLen (record.stringData field).length
    else (record.stringData field).length
  | .lob => lobFieldLen (record.blobData field field.offset).length
  | _ => decimalFieldLen prims (record.readBytes field.offset c.packLength) c.precision c.decimals

/-- The bytes a column of the record takes in the row. -/
def columnWidth (prims : ServerPrims) (record : MysqlRecord) (field : Field) : Nat :=
  if record.isNull field then 0
  else
    match field.columnType.auxBits with
    | .null => 0
    | .four => 4
    | .eight => 8
    | .var => roundUp4 (varFieldLen prims record field + 2)

/-- The bytes the record takes: head, bitmap extension and columns. -/
def recordSize (prims : ServerPrims) (table : Table) (record : MysqlRecord)
    (fields : Option (List Nat)) : Nat :=
  firstFieldOffset table fields + ((table.encodedColumns fields).map fun id =>
    ((table.fields[id]?).map (columnWidth prims record)).getD 0).sum

section

variable {σ : Type} {build : Build} {prims : ServerPrims} {store : LobStore σ} {table : Table}
  {contents : σ → List UInt8 → Option (List UInt8)} {record : MysqlRecord} {field : Field} {s : σ}

theorem LobAt.length_locator {locator blob : List UInt8} (h : LobAt contents s locator blob) :
    locator.length = lobFieldLen blob.length := by
  unfold lobFieldLen
  cases h with
  | inline hsize => rw [length_inlineLocator, if_pos hsize]
  | outline hsize hlen _ => rw [hlen, if_neg (by omega)]

theorem FieldImage.width_eq {img : ColImage}
    (h : FieldImage build prims contents s record field img) (hvalid : field.columnType.Valid) :
    img.width = columnWidth prims record field := by
  cases h with
  | null hnull =>
    rw [columnWidth, if_pos hnull]
    rfl
  | @numeric mysqlInfo bytes length fieldLen hnull hkind hinfo h =>
    rw [columnWidth, if_neg (by simp [hnull])]
    cases hbits : field.columnType.auxBits with
    | null => rfl
    | four => rfl
    | eight => rfl
    | var =>
      obtain ⟨p, q, hc⟩ := newDecimal_of_var hbits hkind
      obtain ⟨-, -, hlen⟩ := length_convertNumericToCantian hinfo hvalid hkind
        (record.length_readBytes _ _) h
      rw [hc] at hinfo
      simp only [convertNumericToCantian, hinfo, ColumnType.auxType, ColumnType.type] at h
      simp only [varFieldLen, hkind, decimalFieldLen, h]
      rw [(hlen hbits).1]
      rfl
  | datetime hnull hkind _ _ =>
    rw [columnWidth, if_neg (by simp [hnull]), auxBits_datetime hkind]
    rfl
  | string hnull hkind hshort =>
    rw [columnWidth, if_neg (by simp [hnull]), auxBits_string hkind]
    simp only [varFieldLen, hkind, hshort, ColImage.width, Bool.false_eq_true, if_false]
  | stringLob hnull hkind hlong hat =>
    rw [columnWidth, if_neg (by simp [hnull]), auxBits_string hkind]
    simp only [varFieldLen, hkind, hlong, ColImage.width, if_true, hat.length_locator]
  | lob hnull hkind hat =>
    rw [columnWidth, if_neg (by simp [hnull]), auxBits_lob hkind]
    simp only [varFieldLen, hkind, ColImage.width, hat.length_locator]

theorem FieldImages.widths_eq (hvalid : table.Valid) {ids : List Nat} {imgs : List ColImage}
    (h : FieldImages build prims contents table record s ids imgs) :
    widths imgs = (ids.map fun id =>
      ((table.fields[id]?).map (columnWidth prims record)).getD 0).sum := by
  induction h with
  | nil => rfl
  | cons himg _ ih =>
    obtain ⟨field, hfield, himg, -⟩ := himg
    have hw := himg.width_eq (hvalid.types field (List.mem_of_getElem? hfield))
    rw [widths_cons, List.map_cons, List.sum_cons, ih, hw, hfield]
    rfl

/-- What the head holds of the size and the number of columns. -/
theorem rowHead_eq (hlaw : store.Lawful contents) (hvalid : table.Valid) {buf : Mem UInt8}
    {lob : σ} {fields : Option (List Nat)} {out : EncodedRecord σ}
    (h : mysqlRecordToCantianRecord build prims store table record buf lob fields = .ok out) :
    out.size = recordSize prims table record fields ∧ headSize out.buf = out.size % 65536 ∧
      headColumnCount out.buf = (table.encodedColumns fields).length % 1024 := by
  obtain ⟨imgs, himgs, hsize, hbuf, -⟩ := mysqlRecordToCantianRecord_spec hlaw hvalid.types h
  have hlen : (table.encodedColumns fields).length = imgs.length := himgs.length_eq
  rw [himgs.widths_eq hvalid] at hsize
  refine ⟨hsize, ?_, ?_⟩
  · rw [hbuf, headSize_setRowHead]
  · rw [hbuf, headColumnCount_setRowHead, hlen]

/-- **The row head is faithful exactly for records of fewer than 1024 columns and 65536
bytes.** -/
theorem rowHead_faithful_iff (hlaw : store.Lawful contents) (hvalid : table.Valid)
    {buf : Mem UInt8} {lob : σ} {fields : Option (List Nat)} {out : EncodedRecord σ}
    (h : mysqlRecordToCantianRecord build prims store table record buf lob fields = .ok out) :
    headSize out.buf = out.size ∧
        headColumnCount out.buf = (table.encodedColumns fields).length ↔
      recordSize prims table record fields < 65536 ∧
        (table.encodedColumns fields).length < 1024 := by
  obtain ⟨hsize, hhead, hcount⟩ := rowHead_eq hlaw hvalid h
  rw [hhead, hcount, hsize]
  constructor
  · rintro ⟨h1, h2⟩
    omega
  · rintro ⟨h1, h2⟩
    exact ⟨Nat.mod_eq_of_lt h1, Nat.mod_eq_of_lt h2⟩

end

/-! ### Tables of BLOBs -/

/-- An engine that refuses LOB writes. -/
def LobStore.refusing : LobStore Unit :=
  ⟨fun _ _ _ _ _ => .error 1, fun _ _ _ _ => .error 1⟩

theorem LobStore.refusing_lawful : LobStore.refusing.Lawful fun _ _ => none := by
  constructor
  · intro s columnId data s' l' _ h
    cases h
  · intro s l v columnId data s' l' _ h
    cases h
  · intro s k v h
    cases h
  · intro s k v offset n h
    cases h

/-- Server functions for records without decimals, floats and times. -/
def ServerPrims.none : ServerPrims where
  time := ⟨fun _ _ => 0, fun _ _ => [], fun _ => {}, fun _ => 0, fun _ _ => 0, fun _ _ => [],
    fun _ => {}, fun _ => 0, fun _ _ => (0, 0), fun _ => {}, fun _ => 0⟩
  binary2myDecimal := fun _ _ _ => .error 1
  binary2myDecimal_layout := by simp
  myDecimal2binary := fun _ _ _ => .error 1
  floatToDouble := fun _ => List.replicate 8 0
  floatToDouble_length := by simp
  doubleToFloat := fun _ => []
  valJson := fun _ => false

def blobColumn (i : Nat) : Field :=
  { fieldName := "b" ++ toString i, columnType := .blob 2, offset := 10 * (i + 1)
    nullBit := none, gcol := .none, autoIncrement := false, binaryCharset := true }

/-- A table of `n` BLOB columns that are NOT NULL. -/
def blobTable (n : Nat) : Table := ⟨(List.range n).map blobColumn, 1⟩

/-- A record with the same value in every BLOB. -/
def blobRecord (block : List UInt8) : MysqlRecord := fun a =>
  if a % 10 < 2 then .byte ((Bytes.le 2 block.length).getD (a % 10) 0) else .ptr block (a % 10 - 2)

theorem blobTable_valid {n : Nat} (h : n ≤ 4096) : (blobTable n).Valid := by
  refine ⟨?_, ?_⟩
  · simpa [blobTable, ctcMaxColumns] using h
  · intro f hf
    obtain ⟨i, -, rfl⟩ := List.mem_map.mp hf
    exact ⟨by decide, by decide⟩

theorem blobTable_encodedColumns (n : Nat) : (blobTable n).encodedColumns none = List.range n := by
  unfold Table.encodedColumns
  rw [List.filter_eq_self.mpr]
  · simp [blobTable]
  · intro id hid
    have hlt : id < n := by simpa [blobTable] using hid
    simp [Table.isStored, blobTable, hlt, blobColumn, Field.isVirtualGcol]

theorem blobRecord_blobData {block : List UInt8} (h : block.length < 65536) (i : Nat) :
    (blobRecord block).blobData (blobColumn i) (10 * (i + 1)) = block := by
  have hlen : Bytes.ofLe ((blobRecord block).readBytes (10 * (i + 1)) 2) = block.length := by
    have hbytes : (blobRecord block).readBytes (10 * (i + 1)) 2 = Bytes.le 2 block.length := by
      simp [MysqlRecord.readBytes, Mem.read, List.range_succ, blobRecord, Bytes.le, Cell.toByte]
    rw [hbytes, Bytes.ofLe_le_of_lt (by omega)]
  have hptr : (blobRecord block).read (10 * (i + 1) + 2) 8 = ptrCells block := by
    refine List.map_congr_left ?_
    intro j hj
    rw [List.mem_range] at hj
    have h1 : (10 * (i + 1) + 2 + j) % 10 = j + 2 := by omega
    simp [blobRecord, h1]
  have hread : readPtr (ptrCells block) = some block := by
    simp [readPtr, ptrCells, List.range_succ_eq_map]
  unfold MysqlRecord.blobData
  change List.take (Bytes.ofLe ((blobRecord block).readBytes (10 * (i + 1)) 2))
    ((readPtr ((blobRecord block).read (10 * (i + 1) + 2) 8)).getD []) = block
  rw [hlen, hptr, hread]
  exact List.take_length

theorem blobRecord_size (prims : ServerPrims) {block : List UInt8}
    (h : block.length ≤ lobMaxInlineSize) (n : Nat) :
    recordSize prims (blobTable n) (blobRecord block) none =
      rowHeadSize + colBitmapExSize n + n * roundUp4 (block.length + 14) := by
  have hblock : block.length < 65536 := by
    unfold lobMaxInlineSize lobLocatorBufSize lobDataOffset at h
    omega
  have hwidth : ∀ i, columnWidth prims (blobRecord block) (blobColumn i) =
      roundUp4 (block.length + 14) := by
    intro i
    have hdata := blobRecord_blobData hblock i
    change roundUp4 (lobFieldLen ((blobRecord block).blobData (blobColumn i) (10 * (i + 1))).length
      + 2) = _
    rw [hdata, lobFieldLen, if_pos h]
    rfl
  have hsum : ((List.range n).map fun id => (((blobTable n).fields[id]?).map
      (columnWidth prims (blobRecord block))).getD 0) =
      List.replicate n (roundUp4 (block.length + 14)) := by
    refine List.eq_replicate_iff.mpr ⟨by simp, ?_⟩
    intro w hw
    obtain ⟨i, hi, rfl⟩ := List.mem_map.mp hw
    have hlt : i < n := List.mem_range.mp hi
    simp [blobTable, hlt, hwidth]
  unfold recordSize
  rw [blobTable_encodedColumns, hsum, List.sum_replicate_nat]
  unfold firstFieldOffset
  rw [exMapColumns_insert, blobTable_encodedColumns, List.length_range]

theorem blobRecord_ok (build : Build) {block : List UInt8}
    (h : block.length ≤ lobMaxInlineSize) (n : Nat) :
    ∃ out, mysqlRecordToCantianRecord build .none .refusing (blobTable n) (blobRecord block)
      (fun _ => 0) () none = .ok out := by
  cases hrun : mysqlRecordToCantianRecord build .none .refusing (blobTable n) (blobRecord block)
    (fun _ => 0) () none with
  | ok out => exact ⟨out, rfl⟩
  | error e =>
    obtain ⟨id, field, k, row, hfield, -, hput⟩ := mysqlRecordToCantianRecord_insert_error hrun
    obtain ⟨i, -, rfl⟩ := List.mem_map.mp (List.mem_of_getElem? hfield)
    obtain ⟨hlong, -⟩ := storeField_lob_error rfl (putField_error hput).2
    change lobMaxInlineSize < ((blobRecord block).blobData (blobColumn i) (10 * (i + 1))).length
      at hlong
    have hblock : block.length < 65536 := by
      unfold lobMaxInlineSize lobLocatorBufSize lobDataOffset at h
      omega
    rw [blobRecord_blobData hblock] at hlong
    omega

/-- Seventeen inline BLOBs of 4000 bytes make a record of 68284 bytes. -/
theorem rowHead_seventeen_blobs :
    (blobTable 17).Valid ∧ ∃ out, mysqlRecordToCantianRecord .release .none .refusing
        (blobTable 17) (blobRecord (List.replicate 4000 0)) (fun _ => 0) () none = .ok out ∧
      ¬ (headSize out.buf = out.size ∧
        headColumnCount out.buf = ((blobTable 17).encodedColumns none).length) := by
  have hvalid := blobTable_valid (n := 17) (by omega)
  have hblock : (List.replicate 4000 (0 : UInt8)).length ≤ lobMaxInlineSize := by
    rw [List.length_replicate]
    decide
  obtain ⟨out, hout⟩ := blobRecord_ok .release hblock 17
  obtain ⟨hsize, hhead, -⟩ := rowHead_eq LobStore.refusing_lawful hvalid hout
  rw [blobRecord_size _ hblock, List.length_replicate] at hsize
  refine ⟨hvalid, out, hout, ?_⟩
  rintro ⟨h, -⟩
  rw [hhead, hsize] at h
  exact absurd h (by decide)

/-- Two BLOBs of three bytes. -/
theorem rowHead_faithful_two_blobs : ∃ out, mysqlRecordToCantianRecord .debug .none .refusing
      (blobTable 2) (blobRecord [1, 2, 3]) (fun _ => 0) () none = .ok out ∧
    headSize out.buf = out.size ∧ headColumnCount out.buf = 2 := by
  have hblock : [(1 : UInt8), 2, 3].length ≤ lobMaxInlineSize := by decide
  obtain ⟨out, hout⟩ := blobRecord_ok .debug hblock 2
  have hiff := rowHead_faithful_iff LobStore.refusing_lawful (blobTable_valid (by omega)) hout
  rw [blobRecord_size _ hblock, blobTable_encodedColumns, List.length_range] at hiff
  exact ⟨out, hout, hiff.mpr (by decide)⟩

/-! ## Update records -/

section

variable {σ : Type} (build : Build) (prims : ServerPrims)
  (contents : σ → List UInt8 → Option (List UInt8)) (table : Table) (record : MysqlRecord)

/-- An update record that agrees with the list it leaves. The values start where the decoder
looks for them; the virtual columns are gone from the list and the others have their Cantian
numbers; entry `k` of the list stands for field `k` of the record. -/
structure UpdateConsistent (ids : List Nat) (out : EncodedRecord σ) : Prop where
  first : firstFieldOffset table (some ids) =
    rowHeadSize + colBitmapExSize (headColumnCount out.buf)
  entries : out.fields = (ids.filter table.isStored).map table.cantianId
  fields : ∃ imgs, FieldImages build prims contents table record out.lob
      (ids.filter table.isStored) imgs ∧
    headColumnCount out.buf = imgs.length ∧
    RowAt out.buf (firstFieldOffset table (some ids)) imgs

end

section

variable {σ : Type} {build : Build} {prims : ServerPrims} {store : LobStore σ} {table : Table}
  {contents : σ → List UInt8 → Option (List UInt8)} {record : MysqlRecord}

theorem exMapColumns_update (ids : List Nat) :
    exMapColumns table (some ids) = ids.length - calGcolCntsForUpdate table.fields ids.length := by
  unfold exMapColumns
  cases hgcol : table.hasGcol with
  | true => rfl
  | false =>
    have h := cantianId_of_no_gcol hgcol ids.length
    unfold Table.cantianId at h
    rw [h]
    rfl

/-- The bitmap of a record ends before its first value if the extension is large enough. -/
theorem FieldImages.rowAt {s : σ} {fields : Option (List Nat)} {imgs : List ColImage}
    (himgs : FieldImages build prims contents table record s (table.encodedColumns fields) imgs)
    (hmaps : colBitmapExSize (table.encodedColumns fields).length ≤
      colBitmapExSize (exMapColumns table fields)) (buf : Mem UInt8) (size columnCount : Nat) :
    RowAt (setRowHead (putColumns imgs 0 (buf, firstFieldOffset table fields)).1 size columnCount)
      (firstFieldOffset table fields) imgs := by
  have hlen : (table.encodedColumns fields).length = imgs.length := himgs.length_eq
  apply putColumns_rowAt himgs.sized
  · exact Nat.le_add_right _ _
  · have hlt := bitmap_lt imgs.length
    unfold firstFieldOffset
    rw [hlen] at hmaps
    omega

theorem rowAt_encoded (hlaw : store.Lawful contents) (hvalid : table.Valid) {buf : Mem UInt8}
    {lob : σ} {fields : Option (List Nat)} {out : EncodedRecord σ}
    (h : mysqlRecordToCantianRecord build prims store table record buf lob fields = .ok out)
    (hmaps : colBitmapExSize (table.encodedColumns fields).length ≤
      colBitmapExSize (exMapColumns table fields)) :
    ∃ imgs, FieldImages build prims contents table record out.lob (table.encodedColumns fields)
        imgs ∧
      out.size = firstFieldOffset table fields + widths imgs ∧
      RowAt out.buf (firstFieldOffset table fields) imgs := by
  obtain ⟨imgs, himgs, hsize, hbuf, -⟩ := mysqlRecordToCantianRecord_spec hlaw hvalid.types h
  refine ⟨imgs, himgs, hsize, ?_⟩
  rw [hbuf]
  exact himgs.rowAt hmaps buf out.size imgs.length

/-- **The record of an update is consistent with its list exactly when the two counts of
generated columns need the same bitmap extension** (and the column count fits its ten
bits). -/
theorem updateRecord_consistent_iff (hlaw : store.Lawful contents) (hvalid : table.Valid)
    {buf : Mem UInt8} {lob : σ} {ids : List Nat} {out : EncodedRecord σ}
    (h : mysqlRecordToCantianRecord build prims store table record buf lob (some ids) =
      .ok out) :
    UpdateConsistent build prims contents table record ids out ↔
      (ids.filter table.isStored).length < 1024 ∧
        colBitmapExSize (ids.length - calGcolCntsForUpdate table.fields ids.length) =
          colBitmapExSize (ids.filter table.isStored).length := by
  obtain ⟨-, -, hcount⟩ := rowHead_eq hlaw hvalid h
  change headColumnCount out.buf = (ids.filter table.isStored).length % 1024 at hcount
  constructor
  · intro hcons
    obtain ⟨imgs, himgs, hlen, -⟩ := hcons.fields
    have hlen' : (ids.filter table.isStored).length = imgs.length := himgs.length_eq
    have hlt : (ids.filter table.isStored).length < 1024 := by omega
    have hfirst := hcons.first
    rw [firstFieldOffset, exMapColumns_update, hcount, Nat.mod_eq_of_lt hlt] at hfirst
    exact ⟨hlt, Nat.add_left_cancel hfirst⟩
  · rintro ⟨hlt, hmaps⟩
    rw [Nat.mod_eq_of_lt hlt] at hcount
    rw [← exMapColumns_update] at hmaps
    obtain ⟨imgs, himgs, -, hrow⟩ := rowAt_encoded hlaw hvalid h hmaps.ge
    obtain ⟨-, -, -, -, hfields⟩ := mysqlRecordToCantianRecord_spec hlaw hvalid.types h
    refine ⟨?_, hfields rfl, imgs, himgs, ?_, hrow⟩
    · rw [firstFieldOffset, hmaps, hcount]
    · rw [hcount]
      exact himgs.length_eq

end

/-! ### A table with a generated column -/

def intColumn (i : Nat) (gcol : Gcol) : Field :=
  { fieldName := "c" ++ toString i, columnType := .long false, offset := 4 * i + 1
    nullBit := none, gcol := gcol, autoIncrement := false, binaryCharset := false }

/-- A virtual generated column followed by thirteen other columns. -/
def gcolTable : Table :=
  ⟨intColumn 0 .virtual :: (List.range 13).map fun i => intColumn (i + 1) .none, 1⟩

theorem gcolTable_valid : gcolTable.Valid := by
  refine ⟨by decide, ?_⟩
  intro f hf
  rcases List.mem_cons.mp hf with rfl | hf
  · trivial
  · obtain ⟨i, -, rfl⟩ := List.mem_map.mp hf
    trivial

/-- An update of the thirteen columns: the extension is sized for twelve. -/
theorem updateRecord_thirteen_columns :
    ∃ out, mysqlRecordToCantianRecord .release .none .refusing gcolTable (fun _ => .byte 0)
        (fun _ => 0) () (some (List.range' 1 13)) = .ok out ∧
      ¬ UpdateConsistent .release .none (fun _ _ => none) gcolTable (fun _ => .byte 0)
        (List.range' 1 13) out := by
  refine ⟨_, rfl, ?_⟩
  intro hcons
  have hfirst := hcons.first
  revert hfirst
  decide

/-- An update of the generated column and two others. -/
theorem updateRecord_consistent_three_columns :
    ∃ out, mysqlRecordToCantianRecord .release .none .refusing gcolTable (fun _ => .byte 0)
        (fun _ => 0) () (some [2, 0, 5]) = .ok out ∧ out.fields = [1, 4] ∧
      UpdateConsistent .release .none (fun _ _ => none) gcolTable (fun _ => .byte 0) [2, 0, 5]
        out := by
  refine ⟨_, rfl, rfl, ?_⟩
  apply (updateRecord_consistent_iff LobStore.refusing_lawful gcolTable_valid rfl).mpr
  decide

end CantianConnector.Convert
