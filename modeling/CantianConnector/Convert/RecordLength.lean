import CantianConnector.Convert.RowHead
import Mathlib.Algebra.Order.BigOperators.Group.List

/-!
# The length reserved for a record

`get_cantian_record_length`. The connector reserves this many bytes for each record of a
batch, so an encoded record must not be longer. The length is computed from the columns in
sixteen-bit steps; the encoder goes by the data and turns long VARCHARs into LOBs.

A VARCHAR of 65531 bytes or more would wrap the sixteen bits around. The server creates no
such table in this engine, because its `max_supported_record_length` is 64000.
-/

namespace CantianConnector.Convert

/-! ## The functions -/

/-- `CT_MAX_RECORD_LENGTH`, which is also `max_supported_record_length()`. -/
def maxSupportedRecordLength : Nat := 64000

/-- `field_len` of a column; `none` for a type without a case. -/
def cantianFieldLen (c : ColumnType) : Option Nat :=
  match c.type with
  | .tiny | .short | .int24 | .long => some 4
  | .double | .float | .bit | .longlong | .timestamp | .datetime | .date | .year | .time => some 8
  | .varchar | .string => some (roundUp4 (c.rowPackLength + 2) % 65536)
  | .newDecimal =>
    let ncells := alignUp (c.precision - c.decimals) 4 + alignUp c.decimals 4
    some (roundUp4 ((1 + ncells) * 2 + 2) % 65536)
  | .blob | .json | .tinyBlob | .mediumBlob => some (roundUp4 (lobLocatorSize + 2) % 65536)
  | _ => none

/-- `get_cantian_record_length`. All columns count, the virtual ones too. -/
def getCantianRecordLength (table : Table) : Int :=
  match table.fields.mapM fun f => cantianFieldLen f.columnType with
  | none => -1
  | some lens => ((rowHeadSize + colBitmapExSize table.fields.length + lens.sum : Nat) : Int)

/-! ## Tables and records -/

/-- The length of a MySQL record. -/
def Table.reclength (table : Table) : Nat :=
  table.nullBytes + (table.fields.map fun f => f.columnType.packLength).sum

/-- The tables that the server creates in the engine: it refuses records longer than
`max_supported_record_length()`. -/
structure Table.Supported (table : Table) : Prop where
  valid : table.Valid
  reclength : table.reclength ≤ maxSupportedRecordLength

/-- A record of the table: no VARCHAR is longer than its column. -/
def MysqlRecord.Of (record : MysqlRecord) (table : Table) : Prop :=
  ∀ f ∈ table.fields, f.isVirtualGcol = false → record.isNull f = false →
    (record.stringData f).length ≤ f.columnType.rowPackLength

/-- The columns of an update come in table order; an insert has no list. -/
def UpdateList (table : Table) (fields : Option (List Nat)) : Prop :=
  ∀ ids ∈ fields, ids.Sublist (List.range table.fields.length)

theorem Table.Supported.packLength_le {table : Table} (h : table.Supported) {f : Field}
    (hf : f ∈ table.fields) : f.columnType.packLength ≤ maxSupportedRecordLength := by
  have hsum : f.columnType.packLength ≤ (table.fields.map fun f => f.columnType.packLength).sum :=
    List.single_le_sum (by simp) _ (List.mem_map_of_mem hf)
  have hrec := h.reclength
  unfold Table.reclength at hrec
  omega

/-! ## One column -/

/-- The length reserved for a column; every column has one. -/
def slotLen (c : ColumnType) : Nat := (cantianFieldLen c).getD 0

theorem cantianFieldLen_eq (c : ColumnType) : cantianFieldLen c = some (slotLen c) := by
  cases c <;> rfl

/-- Below the limit of the server the length of a string does not wrap around. -/
theorem slotLen_string {c : ColumnType} (hkind : c.auxKind = .string)
    (hpack : c.packLength ≤ maxSupportedRecordLength) :
    slotLen c = roundUp4 (c.rowPackLength + 2) := by
  have hr := roundUp4_bounds (c.rowPackLength + 2)
  cases c with
  | varchar n =>
    have hn : n + 1 ≤ maxSupportedRecordLength := by
      refine le_trans ?_ hpack
      simp only [ColumnType.packLength]
      split <;> omega
    unfold maxSupportedRecordLength at hn
    simp only [ColumnType.rowPackLength] at hr
    exact Nat.mod_eq_of_lt (by simp only [ColumnType.rowPackLength]; omega)
  | string n padChar =>
    have hn : n ≤ maxSupportedRecordLength := hpack
    unfold maxSupportedRecordLength at hn
    simp only [ColumnType.rowPackLength] at hr
    exact Nat.mod_eq_of_lt (by simp only [ColumnType.rowPackLength]; omega)
  | _ => cases hkind

theorem roundUp4_mono {x y : Nat} (h : x ≤ y) : roundUp4 x ≤ roundUp4 y := by
  unfold roundUp4
  split <;> split <;> omega

/-- A long VARCHAR is reserved more than any locator takes. -/
theorem lobFieldLen_le_of_long {n : Nat} (h : varcharAsBlob n = true) (len : Nat) :
    lobFieldLen len ≤ n := by
  unfold varcharAsBlob at h
  simp only [decide_eq_true_eq] at h
  unfold lobFieldLen lobMaxInlineSize lobLocatorBufSize lobDataOffset lobLocatorSize
  split <;> omega

/-- The cells of a DECIMAL are no more than its precision and scale say. -/
theorem length_decimal_le {prims : ServerPrims} (t : DecimalType) {image bytes : List UInt8}
    {fieldLen : Nat} (h : decimalMysqlToCantian prims image t.prec t.scale = .ok (bytes, fieldLen)) :
    bytes.length ≤ (1 + (alignUp (t.prec - t.scale) 4 + alignUp t.scale 4)) * 2 := by
  unfold decimalMysqlToCantian at h
  cases hread : prims.binary2myDecimal image t.prec t.scale with
  | error rc =>
    rw [hread] at h
    cases h
  | ok d =>
    obtain ⟨d4, hd4, -, -, -, -, hcells⟩ :=
      convertMydecToDec4_spec (prims.binary2myDecimal_layout t image d hread)
    simp only [hread, hd4, Except.ok.injEq, Prod.mk.injEq] at h
    obtain ⟨rfl, -⟩ := h
    rw [d4.length_toBytes]
    unfold cmDec4StorSz
    omega

section

variable {σ : Type} {build : Build} {prims : ServerPrims} {store : LobStore σ} {table : Table}
  {contents : σ → List UInt8 → Option (List UInt8)} {record : MysqlRecord} {field : Field} {s : σ}

/-- A DECIMAL fits the length reserved for it. -/
theorem decimalWidth_le {p q : Nat} (hc : field.columnType = .newDecimal p q)
    (hvalid : field.columnType.Valid) {mysqlInfo : FieldCnvrtAux} {bytes : List UInt8}
    {length fieldLen : Nat} (hinfo : mysqlInfo.mysqlFieldType = field.columnType.auxType)
    (h : convertNumericToCantian build prims mysqlInfo
      (record.readBytes field.offset field.columnType.packLength) field length =
        .ok (bytes, fieldLen)) :
    (ColImage.var bytes).width ≤ slotLen (.newDecimal p q) := by
  rw [hc] at hvalid hinfo
  obtain ⟨t, rfl, rfl⟩ := hvalid.decimalType
  simp only [convertNumericToCantian, hinfo, hc, ColumnType.auxType, ColumnType.type,
    ColumnType.precision, ColumnType.decimals] at h
  have hlen := length_decimal_le t h
  have hp := t.prec_le
  have hs := t.scale_le
  have h1 : alignUp (t.prec - t.scale) 4 ≤ 17 := by unfold alignUp; split <;> omega
  have h2 : alignUp t.scale 4 ≤ 17 := by unfold alignUp; split <;> omega
  have hr := roundUp4_bounds ((1 + (alignUp (t.prec - t.scale) 4 + alignUp t.scale 4)) * 2 + 2)
  have hslot : slotLen (.newDecimal t.prec t.scale) =
      roundUp4 ((1 + (alignUp (t.prec - t.scale) 4 + alignUp t.scale 4)) * 2 + 2) := by
    change roundUp4 ((1 + (alignUp (t.prec - t.scale) 4 + alignUp t.scale 4)) * 2 + 2) % 65536 = _
    exact Nat.mod_eq_of_lt (by omega)
  rw [hslot]
  exact roundUp4_mono (by omega)

/-- Numeric columns of four or eight bytes. -/
theorem fixedWidth_le {c : ColumnType} (hkind : c.auxKind = .numeric) (hbits : c.auxBits ≠ .var)
    (hvalid : c.Valid) (bytes : List UInt8) :
    (ColImage.ofBits c.auxBits bytes).width ≤ slotLen c := by
  cases c with
  | newDecimal p q => exact absurd rfl hbits
  | enum n => rcases hvalid with rfl | rfl <;> exact le_rfl
  | set n =>
    have h4 : ∀ n ∈ [1, 2, 3, 4], 4 ≤ slotLen (.set n) := by decide
    have h8 : 8 ≤ slotLen (.set 8) := by decide
    rcases hvalid with rfl | rfl | rfl | rfl | rfl
    · exact h4 1 (by simp)
    · exact h4 2 (by simp)
    · exact h4 3 (by simp)
    · exact h4 4 (by simp)
    · exact h8
  | tiny u | short u | int24 u | long u | longlong u => exact le_rfl
  | float | double => exact le_rfl
  | bit n => exact le_rfl
  | _ => cases hkind

/-- **A stored column fits the length reserved for it.** -/
theorem FieldImage.width_le {img : ColImage}
    (h : FieldImage build prims contents s record field img) (hvalid : field.columnType.Valid)
    (hblob : field.isBlob = false) (hpack : field.columnType.packLength ≤ maxSupportedRecordLength)
    (hfits : record.isNull field = false →
      (record.stringData field).length ≤ field.columnType.rowPackLength) :
    img.width ≤ slotLen field.columnType := by
  cases h with
  | null hnull => exact Nat.zero_le _
  | @numeric mysqlInfo bytes length fieldLen hnull hkind hinfo h =>
    by_cases hbits : field.columnType.auxBits = .var
    · obtain ⟨p, q, hc⟩ := newDecimal_of_var hbits hkind
      rw [hbits]
      simp only [ColImage.ofBits]
      have hle := decimalWidth_le hc hvalid hinfo h
      rwa [← hc] at hle
    · exact fixedWidth_le hkind hbits hvalid bytes
  | datetime hnull hkind hinfo h =>
    cases hc : field.columnType with
    | year | date => exact le_rfl
    | time dec | datetime dec | timestamp dec => exact le_rfl
    | _ => rw [hc] at hkind; cases hkind
  | string hnull hkind hshort =>
    rw [slotLen_string hkind hpack]
    have hlen := hfits hnull
    exact roundUp4_mono (by omega)
  | stringLob hnull hkind hlong hat =>
    rw [slotLen_string hkind hpack, ColImage.width, hat.length_locator]
    have hlen := lobFieldLen_le_of_long hlong (record.stringData field).length
    exact roundUp4_mono (by omega)
  | lob hnull hkind hat =>
    unfold Field.isBlob at hblob
    cases hc : field.columnType with
    | blob k => rw [hc] at hblob; cases hblob
    | json => rw [hc] at hblob; cases hblob
    | _ => rw [hc] at hkind; cases hkind

end

/-! ## A record -/

theorem colBitmapExSize_mono {m n : Nat} (h : m ≤ n) : colBitmapExSize m ≤ colBitmapExSize n := by
  rw [colBitmapExSize_eq, colBitmapExSize_eq]
  unfold bitmapExGroups sprsColumns
  split <;> split <;> omega

theorem mapM_slotLen (fields : List Field) :
    (fields.mapM fun f => cantianFieldLen f.columnType) =
      some (fields.map fun f => slotLen f.columnType) := by
  induction fields with
  | nil => rfl
  | cons f fields ih =>
    rw [List.mapM_cons, ih, cantianFieldLen_eq]
    rfl

theorem getCantianRecordLength_eq (table : Table) :
    getCantianRecordLength table = ((rowHeadSize + colBitmapExSize table.fields.length +
      (table.fields.map fun f => slotLen f.columnType).sum : Nat) : Int) := by
  unfold getCantianRecordLength
  rw [mapM_slotLen]

/-- The cells after the bitmap and the values are left alone. -/
theorem putColumns_outside (cols : List ColImage) (hsized : ∀ img ∈ cols, img.Sized) (k off : Nat)
    (buf : Mem UInt8) {a : Nat} (hbitmap : bitmapOffset + (k + cols.length - 1) / 4 < a)
    (ha : off + widths cols ≤ a) : (putColumns cols k (buf, off)).1 a = buf a := by
  induction cols generalizing k off buf with
  | nil => rfl
  | cons img cols ih =>
    rw [List.length_cons] at hbitmap
    rw [widths_cons] at ha
    have hlen := (hsized img (by simp)).length_stored_le
    rw [putColumns, ih (fun x hx => hsized x (by simp [hx])) (k + 1) _ _ (by omega) (by omega),
      rowSetColumnBits2_outside (by omega), Mem.write_of_ge (by omega)]

section

variable {σ : Type} {build : Build} {prims : ServerPrims} {store : LobStore σ} {table : Table}
  {contents : σ → List UInt8 → Option (List UInt8)} {record : MysqlRecord} {s : σ}
  {fields : Option (List Nat)}

theorem encodedColumns_sublist (h : UpdateList table fields) :
    (table.encodedColumns fields).Sublist (List.range table.fields.length) := by
  unfold Table.encodedColumns
  apply List.filter_sublist.trans
  cases fields with
  | none => exact List.Sublist.refl _
  | some ids => exact h ids rfl

theorem exMapColumns_le (h : UpdateList table fields) :
    exMapColumns table fields ≤ table.fields.length := by
  unfold exMapColumns
  cases fields with
  | none => exact Nat.sub_le _ _
  | some ids =>
    have hle := (h ids rfl).length_le
    rw [List.length_range] at hle
    exact (Nat.sub_le _ _).trans hle

/-- The columns of a record take no more than the lengths reserved for them. -/
theorem FieldImages.widths_le (htable : table.Supported)
    (hblob : ∀ f ∈ table.fields, f.isBlob = false) (hrecord : record.Of table) {ids : List Nat}
    {imgs : List ColImage} (hstored : ∀ id ∈ ids, table.isStored id = true)
    (h : FieldImages build prims contents table record s ids imgs) :
    widths imgs ≤ (ids.map fun id =>
      ((table.fields[id]?).map fun f => slotLen f.columnType).getD 0).sum := by
  induction h with
  | nil => exact le_rfl
  | @cons id img ids imgs himg _ ih =>
    obtain ⟨field, hfield, himg, -⟩ := himg
    have hmem := List.mem_of_getElem? hfield
    have hvirt : field.isVirtualGcol = false := by
      have hid := hstored id (by simp)
      rw [isStored_of_getElem? hfield] at hid
      simpa using hid
    have hwidth := himg.width_le (htable.valid.types field hmem) (hblob field hmem)
      (htable.packLength_le hmem) (hrecord field hmem hvirt)
    rw [widths_cons, List.map_cons, List.sum_cons, hfield]
    exact Nat.add_le_add hwidth (ih fun id hid => hstored id (by simp [hid]))

/-- The lengths of some columns add up to no more than those of all of them. -/
theorem slotLen_sum_le {ids : List Nat} (h : ids.Sublist (List.range table.fields.length)) :
    (ids.map fun id => ((table.fields[id]?).map fun f => slotLen f.columnType).getD 0).sum ≤
      (table.fields.map fun f => slotLen f.columnType).sum := by
  have hall : ((List.range table.fields.length).map fun id =>
      ((table.fields[id]?).map fun f => slotLen f.columnType).getD 0) =
        table.fields.map fun f => slotLen f.columnType := by
    apply List.ext_getElem?
    intro i
    by_cases hi : i < table.fields.length
    · simp [hi]
    · simp [hi]
  rw [← hall]
  exact (h.map _).sum_le_sum (by simp)

/-- **An encoded record stays in the length reserved for it**, whichever columns it holds: it is
no longer, and the memory behind the reserved length is not touched. -/
theorem encodedRecord_le_recordLength (hlaw : store.Lawful contents) (htable : table.Supported)
    (hblob : ∀ f ∈ table.fields, f.isBlob = false) (hrecord : record.Of table)
    (hfields : UpdateList table fields) {buf : Mem UInt8} {lob : σ} {out : EncodedRecord σ}
    (h : mysqlRecordToCantianRecord build prims store table record buf lob fields = .ok out) :
    (out.size : Int) ≤ getCantianRecordLength table ∧
      ∀ a : Nat, getCantianRecordLength table ≤ a → out.buf a = buf a := by
  obtain ⟨imgs, himgs, hsize, hbuf, -⟩ := mysqlRecordToCantianRecord_spec hlaw htable.valid.types h
  have hsub := encodedColumns_sublist hfields
  have hwidths := himgs.widths_le htable hblob hrecord fun id hid => by
    unfold Table.encodedColumns at hid
    exact (List.mem_filter.mp hid).2
  have hslots := slotLen_sum_le hsub
  have hfirst : firstFieldOffset table fields ≤
      rowHeadSize + colBitmapExSize table.fields.length :=
    Nat.add_le_add_left (colBitmapExSize_mono (exMapColumns_le hfields)) _
  rw [getCantianRecordLength_eq]
  refine ⟨by omega, ?_⟩
  intro a ha
  have hcount : imgs.length ≤ table.fields.length := by
    have hle := hsub.length_le
    rw [List.length_range, himgs.length_eq] at hle
    exact hle
  have hbitmap := bitmap_lt table.fields.length
  rw [hbuf]
  have hhead : rowHeadSize ≤ a := by omega
  unfold setRowHead
  rw [Mem.write_of_ge (show 4 ≤ a from Nat.le_trans (by decide) hhead),
    putColumns_outside imgs himgs.sized 0 _ _ (by omega) (by omega)]

end

/-! ### A table with a long VARCHAR -/

/-- `CREATE TABLE t (id INT NOT NULL, code CHAR(4), text VARCHAR(9000) NOT NULL)`. -/
def notesTable : Table :=
  ⟨[⟨"id", .long false, 1, none, .none, false, false⟩,
    ⟨"code", .string 4 0x20, 5, some .first, .none, false, false⟩,
    ⟨"text", .varchar 9000, 9, none, .none, false, false⟩], 1⟩

/-- `(7, 'ab', 'hi')`. -/
def notesRecord : MysqlRecord := fun a =>
  .byte (([0, 7, 0, 0, 0, 0x61, 0x62, 0x20, 0x20, 2, 0, 0x68, 0x69] : List UInt8).getD a 0)

theorem encodedRecord_le_recordLength_notes :
    getCantianRecordLength notesTable = 9024 ∧
      ∃ out, mysqlRecordToCantianRecord .debug .none .refusing notesTable notesRecord (fun _ => 1)
          () none = .ok out ∧
        (out.size : Int) ≤ 9024 ∧ ∀ a : Nat, 9024 ≤ (a : Int) → out.buf a = 1 := by
  have htable : notesTable.Supported := by
    refine ⟨⟨by decide, ?_⟩, by decide⟩
    intro f hf
    simp only [notesTable, List.mem_cons, List.not_mem_nil, or_false] at hf
    rcases hf with rfl | rfl | rfl
    all_goals simp [ColumnType.Valid]
  have hrecord : notesRecord.Of notesTable := by
    unfold MysqlRecord.Of
    decide
  obtain ⟨out, hout⟩ : ∃ out, mysqlRecordToCantianRecord .debug .none .refusing notesTable
      notesRecord (fun _ => 1) () none = .ok out := ⟨_, rfl⟩
  have hlen : getCantianRecordLength notesTable = 9024 := by decide
  obtain ⟨hsize, hframe⟩ := encodedRecord_le_recordLength LobStore.refusing_lawful htable
    (by decide) hrecord (fun ids hids => by cases hids) hout
  rw [hlen] at hsize hframe
  exact ⟨hlen, out, hout, hsize, hframe⟩

end CantianConnector.Convert
