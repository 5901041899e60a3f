import CantianConnector.Convert.Decode
import CantianConnector.Convert.RowHead

/-!
# Round trip of records

A record that was encoded for an insert is decoded. Before column `c` the decoder has counted
the virtual columns before it, stands at the value of the column in the row, has decoded the
columns before it and has not yet set the NULL bit of any later one (`DecodeInv`). One round
of the loop preserves this (`decodeStep_spec`), and at the end every column that is not virtual
has its value back.

The exceptions are assertions of the decoder: a debug build stops at a row without columns and
at an empty VARCHAR that is stored as a LOB.
-/

namespace CantianConnector.Convert

/-! ## Values and untouched columns -/

theorem valueBytes_congr {g : Field} {m m' : MysqlRecord}
    (hcells : ∀ a, g.offset ≤ a → a < g.offset + g.columnType.packLength → m' a = m a)
    (hlen : g.columnType.auxKind = .string →
      (m.valueBytes g).length ≤ g.columnType.rowPackLength) :
    m'.valueBytes g = m.valueBytes g := by
  have hread : ∀ off n, g.offset ≤ off → off + n ≤ g.offset + g.columnType.packLength →
      m'.readBytes off n = m.readBytes off n := by
    intro off n h1 h2
    apply MysqlRecord.readBytes_congr
    intro a ha1 ha2
    exact hcells a (by omega) (by omega)
  have hblob : ∀ k, g.columnType.packLength = k + 8 → g.columnType.rowPackLength = k →
      m'.blobData g g.offset = m.blobData g g.offset := by
    intro k hpack hrow
    have hptr : m'.read (g.offset + k) 8 = m.read (g.offset + k) 8 := by
      apply Mem.read_congr
      intro a ha1 ha2
      exact hcells a (by omega) (by omega)
    simp only [MysqlRecord.blobData, hrow, hptr, hread g.offset k le_rfl (by omega)]
  unfold MysqlRecord.valueBytes at hlen ⊢
  cases hc : g.columnType with
  | varchar n =>
    rw [hc] at hlen hread
    have hlen' := hlen rfl
    simp only [MysqlRecord.stringData, hc, MysqlRecord.length_readBytes,
      ColumnType.rowPackLength] at hlen' ⊢
    have hpack : (ColumnType.varchar n).packLength = n + (ColumnType.varchar n).lengthBytes := rfl
    rw [hread _ _ le_rfl (by omega), hread _ _ (by omega) (by omega)]
  | blob k => exact hblob k (by rw [hc]; rfl) (by rw [hc]; rfl)
  | json => exact hblob 4 (by rw [hc]; rfl) (by rw [hc]; rfl)
  | _ =>
    rw [hc] at hread
    exact hread _ _ le_rfl le_rfl

/-- A column that is not touched keeps its value. -/
theorem Field.Untouched.fieldValue {g : Field} {m m' : MysqlRecord} (h : g.Untouched m m')
    (hlen : m.isNull g = false → g.columnType.auxKind = .string →
      (m.valueBytes g).length ≤ g.columnType.rowPackLength) :
    m'.fieldValue g = m.fieldValue g := by
  unfold MysqlRecord.fieldValue
  rw [h.isNull]
  split
  · rfl
  · rename_i hnull
    rw [valueBytes_congr h.cells (hlen (by simpa using hnull))]

/-- The values of strings fit their columns. -/
theorem FieldStorable.length_le {prims : ServerPrims} {record : MysqlRecord} {field : Field}
    (h : FieldStorable prims record field) (hkind : field.columnType.auxKind = .string) :
    (record.valueBytes field).length ≤ field.columnType.rowPackLength := by
  simp only [FieldStorable, hkind] at h
  unfold MysqlRecord.valueBytes
  cases hc : field.columnType with
  | varchar n =>
    rw [hc] at h
    exact h
  | string n padChar =>
    simp only [MysqlRecord.length_readBytes]
    exact le_rfl
  | _ =>
    rw [hc] at hkind
    cases hkind

/-! ## The loop -/

section

variable {σ : Type} {build : Build} {prims : ServerPrims} {store : LobStore σ} {table : Table}
  {contents : σ → List UInt8 → Option (List UInt8)} {record : MysqlRecord} {s : σ}
  {ctx : ReadCtx} {buf : Mem UInt8} {imgs : List ColImage}

/-- The decoder before column `c`: it has counted the virtual columns and stands at the value of
the column; the columns before `c` are decoded, the NULL bits from `c` on are clear. -/
structure DecodeInv (table : Table) (record : MysqlRecord) (imgs : List ColImage) (c : Nat)
    (st : DecodeState) : Prop where
  virtuals : st.virtualGcolCnt = calGcolCntsForUpdate table.fields c
  offset : st.cantianFieldOffset = rowHeadSize + colBitmapExSize imgs.length +
    widths (imgs.take (table.cantianId c))
  done : ∀ (i : Nat) (f : Field), i < c → table.fields[i]? = some f → f.isVirtualGcol = false →
    st.record.fieldValue f = record.fieldValue f
  clear : ∀ (i : Nat) (f : Field), c ≤ i → table.fields[i]? = some f → st.record.isNull f = false

/-- Some column from `c` on stops the decoder. -/
def StopsFrom (build : Build) (table : Table) (record : MysqlRecord) (c : Nat) : Prop :=
  ∃ (i : Nat) (f : Field), c ≤ i ∧ table.fields[i]? = some f ∧ f.isVirtualGcol = false ∧
    StopsDecoder build record f

theorem stopsFrom_succ {c : Nat} {field : Field} (hfield : table.fields[c]? = some field)
    (hgood : field.isVirtualGcol = false → ¬ StopsDecoder build record field) :
    StopsFrom build table record c ↔ StopsFrom build table record (c + 1) := by
  constructor
  · rintro ⟨i, f, hi, hf, hvirt, hstops⟩
    refine ⟨i, f, ?_, hf, hvirt, hstops⟩
    rcases Nat.lt_or_eq_of_le hi with hlt | rfl
    · exact hlt
    · rw [hfield] at hf
      cases hf
      exact absurd hstops (hgood hvirt)
  · rintro ⟨i, f, hi, hrest⟩
    exact ⟨i, f, by omega, hrest⟩

/-- A row that holds the images of the columns of a record. -/
structure HoldsRecord (build : Build) (prims : ServerPrims)
    (contents : σ → List UInt8 → Option (List UInt8)) (table : Table) (record : MysqlRecord)
    (s : σ) (buf : Mem UInt8) (imgs : List ColImage) : Prop where
  images : FieldImages build prims contents table record s (table.encodedColumns none) imgs
  count : headColumnCount buf = imgs.length
  row : RowAt buf (rowHeadSize + colBitmapExSize imgs.length) imgs

theorem FieldImages.getElem? {ids : List Nat} (h : FieldImages build prims contents table record s
    ids imgs) {k id : Nat} (hk : ids[k]? = some id) :
    ∃ img field, imgs[k]? = some img ∧ table.fields[id]? = some field ∧
      FieldImage build prims contents s record field img := by
  induction h generalizing k with
  | nil => simp at hk
  | cons himg _ ih =>
    cases k with
    | zero =>
      obtain ⟨field, hfield, himg, -⟩ := himg
      cases hk
      exact ⟨_, field, rfl, hfield, himg⟩
    | succ k => exact ih hk

theorem ColBits.ofCode_code (bits : ColBits) : ColBits.ofCode bits.code = bits := by
  cases bits <;> rfl

theorem widths_take_succ {k : Nat} {img : ColImage} (h : imgs[k]? = some img) :
    widths (imgs.take (k + 1)) = widths (imgs.take k) + img.width := by
  rw [List.take_add_one, h, widths, List.map_append, List.sum_append]
  simp [widths]

/-- A record as the round trip needs it: the server's layout, and in every stored column a value
the conversions are made for. -/
structure RoundTripInput (prims : ServerPrims) (table : Table) (record : MysqlRecord) : Prop where
  valid : table.Valid
  layout : table.Layout
  columns : table.fields.length < sprsColumns
  storable : ∀ f ∈ table.fields, f.isVirtualGcol = false → record.isNull f = false →
    FieldStorable prims record f

/-- Decoded columns keep their values while a later column is decoded. -/
theorem DecodeInv.fieldValue_eq (hin : RoundTripInput prims table record) {c : Nat}
    {st : DecodeState} (hinv : DecodeInv table record imgs c st) {i : Nat} {f : Field} (hi : i < c)
    (hf : table.fields[i]? = some f) (hvirt : f.isVirtualGcol = false) {m' : MysqlRecord}
    (h : f.Untouched st.record m') : m'.fieldValue f = record.fieldValue f := by
  have hdone := hinv.done i f hi hf hvirt
  rw [h.fieldValue ?_, hdone]
  intro hnull hkind
  have hnull' : record.isNull f = false := by
    by_contra hne
    simp [MysqlRecord.fieldValue, hnull, hne] at hdone
  have hbytes : st.record.valueBytes f = record.valueBytes f := by
    simpa [MysqlRecord.fieldValue, hnull, hnull'] using hdone
  rw [hbytes]
  exact (hin.storable f (List.mem_of_getElem? hf) hvirt hnull').length_le hkind

/-- One round of the loop at a virtual column. -/
theorem decodeStep_virtual {c : Nat} {field : Field} (hfield : table.fields[c]? = some field)
    (hvirt : field.isVirtualGcol = true) {st : DecodeState}
    (hinv : DecodeInv table record imgs c st) :
    ∃ st', decodeStep build prims store ctx table s buf c st = .ok st' ∧
      DecodeInv table record imgs (c + 1) st' := by
  refine ⟨{ st with virtualGcolCnt := st.virtualGcolCnt + 1 }, ?_, ?_, ?_, ?_, ?_⟩
  · simp only [decodeStep, hfield, hvirt, if_true]
  · rw [calGcolCntsForUpdate_succ hfield, hvirt, if_pos rfl, hinv.virtuals]
  · rw [cantianId_succ hfield, hvirt]
    exact hinv.offset
  · intro i f hi hf hfv
    rcases Nat.lt_succ_iff_lt_or_eq.mp hi with hlt | rfl
    · exact hinv.done i f hlt hf hfv
    · rw [hfield] at hf
      cases hf
      rw [hvirt] at hfv
      cases hfv
  · intro i f hi hf
    exact hinv.clear i f (by omega) hf

/-- One round of the loop at a column that is not virtual. -/
theorem decodeStep_spec (hlaw : store.Lawful contents) (hin : RoundTripInput prims table record)
    (hrow : HoldsRecord build prims contents table record s buf imgs) {c : Nat} {field : Field}
    (hfield : table.fields[c]? = some field) (hvirt : field.isVirtualGcol = false)
    (hctx : ctx.copies c = true) {st : DecodeState} (hinv : DecodeInv table record imgs c st) :
    (StopsDecoder build record field →
      decodeStep build prims store ctx table s buf c st = .error .assertion) ∧
    (¬ StopsDecoder build record field →
      ∃ st', decodeStep build prims store ctx table s buf c st = .ok st' ∧
        DecodeInv table record imgs (c + 1) st') := by
  have hmem : field ∈ table.fields := List.mem_of_getElem? hfield
  obtain ⟨img, field', himg, hfield', himage⟩ :=
    hrow.images.getElem? (encodedColumns_getElem? hfield hvirt)
  rw [hfield] at hfield'
  cases hfield'
  obtain ⟨hbits, hread⟩ := hrow.row _ img himg
  obtain ⟨hk, -⟩ := List.getElem?_eq_some_iff.mp himg
  have hcol : c - st.virtualGcolCnt = table.cantianId c := by
    rw [hinv.virtuals]
    rfl
  have hstep : decodeStep build prims store ctx table s buf c st = (do
      let out ← convertCantianFieldToMysqlField build prims store ctx field c img.bits s buf
        st.cantianFieldOffset st.record
      return { st with record := out.1, cantianFieldOffset := out.2 }) := by
    simp only [decodeStep, hfield, hvirt, Bool.false_eq_true, if_false, hcol, hrow.count,
      if_neg (show ¬ imgs.length ≤ table.cantianId c by omega), hbits, ColBits.ofCode_code]
  rw [← hinv.offset] at hread
  obtain ⟨hbad, hgood⟩ := decodeField_spec hlaw hin.layout hmem (hin.valid.types field hmem)
    (hin.storable field hmem hvirt) himage hread hctx (hinv.clear c field le_rfl hfield)
  refine ⟨?_, ?_⟩
  · intro hstops
    rw [hstep, hbad hstops]
    rfl
  · intro hgo
    obtain ⟨m', hrun, hvalue, huntouched⟩ := hgood hgo
    refine ⟨{ st with record := m', cantianFieldOffset := st.cantianFieldOffset + img.width },
      ?_, ?_, ?_, ?_, ?_⟩
    · rw [hstep, hrun]
      rfl
    · rw [calGcolCntsForUpdate_succ hfield, hvirt]
      exact hinv.virtuals
    · rw [cantianId_succ hfield, hvirt, if_neg (by simp), widths_take_succ himg, ← Nat.add_assoc,
        ← hinv.offset]
    · intro i f hi hf hfv
      rcases Nat.lt_succ_iff_lt_or_eq.mp hi with hlt | rfl
      · have hsep := hin.layout.separate_of_ne (show c ≠ i by omega) hfield hf
        exact hinv.fieldValue_eq hin hlt hf hfv (huntouched f (List.mem_of_getElem? hf) hsep)
      · rw [hfield] at hf
        cases hf
        exact hvalue
    · intro i f hi hf
      have hsep := hin.layout.separate_of_ne (show c ≠ i by omega) hfield hf
      rw [(huntouched f (List.mem_of_getElem? hf) hsep).isNull]
      exact hinv.clear i f (by omega) hf

/-- The loop from column `c` on. The induction is on the columns left. -/
theorem decodeLoop_spec (hlaw : store.Lawful contents) (hin : RoundTripInput prims table record)
    (hrow : HoldsRecord build prims contents table record s buf imgs)
    (hctx : ∀ c, c < table.fields.length → ctx.copies c = true ∧ c ≤ ctx.maxColIdx)
    (fuel c : Nat) (hfuel : c + fuel = table.fields.length) {st : DecodeState}
    (hinv : DecodeInv table record imgs c st) :
    (StopsFrom build table record c →
      decodeLoop build prims store ctx table s buf fuel c st = .error .assertion) ∧
    (¬ StopsFrom build table record c →
      ∃ st', decodeLoop build prims store ctx table s buf fuel c st = .ok st' ∧
        DecodeInv table record imgs table.fields.length st') := by
  induction fuel generalizing c st with
  | zero =>
    refine ⟨?_, ?_⟩
    · rintro ⟨i, f, hi, hf, -⟩
      rw [List.getElem?_eq_none (by omega)] at hf
      cases hf
    · intro _
      refine ⟨st, rfl, ?_⟩
      rw [← hfuel]
      exact hinv
  | succ fuel ih =>
    obtain ⟨field, hfield⟩ : ∃ field, table.fields[c]? = some field :=
      ⟨_, List.getElem?_eq_getElem (by omega)⟩
    obtain ⟨hcopy, hmax⟩ := hctx c (by omega)
    rw [decodeLoop, if_neg (by omega)]
    cases hvirt : field.isVirtualGcol with
    | true =>
      obtain ⟨st1, hstep, hinv1⟩ := decodeStep_virtual hfield hvirt hinv
      rw [hstep, result_bind_ok, stopsFrom_succ hfield (by simp [hvirt])]
      exact ih (c + 1) (by omega) hinv1
    | false =>
      obtain ⟨hbad, hgood⟩ := decodeStep_spec hlaw hin hrow hfield hvirt hcopy hinv
      by_cases hstops : StopsDecoder build record field
      · rw [hbad hstops]
        refine ⟨fun _ => rfl, fun h => ?_⟩
        exact absurd ⟨c, field, le_rfl, hfield, hvirt, hstops⟩ h
      · obtain ⟨st1, hstep, hinv1⟩ := hgood hstops
        rw [hstep, result_bind_ok, stopsFrom_succ hfield (fun _ => hstops)]
        exact ih (c + 1) (by omega) hinv1

/-- The NULL bits are cleared before the loop. -/
theorem decodeInv_init (hlayout : table.Layout) (record m : MysqlRecord) :
    DecodeInv table record imgs 0 ⟨0, rowHeadSize + colBitmapExSize imgs.length,
      m.writeBytes 0 (List.replicate table.nullBytes 0)⟩ := by
  refine ⟨rfl, rfl, fun i f hi => absurd hi (Nat.not_lt_zero i), ?_⟩
  intro i f _ hf
  unfold MysqlRecord.isNull
  cases hnb : f.nullBit with
  | none => rfl
  | some nb =>
    have hlt := hlayout.nullBit f (List.mem_of_getElem? hf) nb hnb
    have hcell : m.writeBytes 0 (List.replicate table.nullBytes 0) (0 + nb.offset) = .byte 0 := by
      apply Mem.write_inside
      simp [hlt]
    rw [Nat.zero_add] at hcell
    simp only [hcell, Cell.toByte_byte]
    simp

/-- The encoder's row holds the record. -/
theorem holdsRecord_encoded (hlaw : store.Lawful contents) (hin : RoundTripInput prims table record)
    {buf : Mem UInt8} {lob : σ} {out : EncodedRecord σ}
    (h : mysqlRecordToCantianRecord build prims store table record buf lob none = .ok out) :
    ∃ imgs, HoldsRecord build prims contents table record out.lob out.buf imgs ∧
      headFlags out.buf = 0 := by
  have hcount : exMapColumns table none = (table.encodedColumns none).length :=
    exMapColumns_insert
  obtain ⟨imgs, himgs, -, hrow⟩ := rowAt_encoded hlaw hin.valid h (by rw [hcount])
  obtain ⟨-, -, hhead⟩ := rowHead_eq hlaw hin.valid h
  have hlen : (table.encodedColumns none).length = imgs.length := himgs.length_eq
  have hle : (table.encodedColumns none).length ≤ table.fields.length := by
    unfold Table.encodedColumns
    exact (List.length_filter_le _ _).trans_eq (by simp)
  have hcols := hin.columns
  unfold sprsColumns at hcols
  rw [Nat.mod_eq_of_lt (by omega), hlen] at hhead
  refine ⟨imgs, ⟨himgs, hhead, ?_⟩, ?_⟩
  · unfold firstFieldOffset at hrow
    rw [hcount, hlen] at hrow
    exact hrow
  · obtain ⟨imgs', -, -, hbuf, -⟩ := mysqlRecordToCantianRecord_spec hlaw hin.valid.types h
    rw [hbuf, headFlags_setRowHead]

theorem encoded_ne_zero_iff
    (h : FieldImages build prims contents table record s (table.encodedColumns none) imgs) :
    imgs.length ≠ 0 ↔ ∃ f ∈ table.fields, f.isVirtualGcol = false := by
  have hlen : (table.encodedColumns none).length = imgs.length := h.length_eq
  rw [← hlen, Nat.ne_zero_iff_zero_lt, List.length_pos_iff_exists_mem]
  unfold Table.encodedColumns
  simp only [Option.getD_none, List.mem_filter, List.mem_range]
  constructor
  · rintro ⟨id, hid, hstored⟩
    have hfield : table.fields[id]? = some table.fields[id] := List.getElem?_eq_getElem hid
    rw [isStored_of_getElem? hfield] at hstored
    exact ⟨_, List.mem_of_getElem? hfield, by simpa using hstored⟩
  · rintro ⟨f, hf, hvirt⟩
    obtain ⟨id, hid⟩ := List.mem_iff_getElem?.mp hf
    refine ⟨id, (List.getElem?_eq_some_iff.mp hid).1, ?_⟩
    rw [isStored_of_getElem? hid, hvirt]
    rfl

theorem stopsFrom_zero_iff : StopsFrom build table record 0 ↔ build = .debug ∧
    ∃ f ∈ table.fields, f.isVirtualGcol = false ∧ record.isNull f = false ∧
      EmptyLongVarchar record f := by
  constructor
  · rintro ⟨i, f, -, hf, hvirt, hb, hnull, hempty⟩
    exact ⟨hb, f, List.mem_of_getElem? hf, hvirt, hnull, hempty⟩
  · rintro ⟨hb, f, hf, hvirt, hnull, hempty⟩
    obtain ⟨i, hi⟩ := List.mem_iff_getElem?.mp hf
    exact ⟨i, f, Nat.zero_le i, hi, hvirt, hb, hnull, hempty⟩

/-- The decoder stops a debug build at a row without columns and at an empty VARCHAR that is
stored as a LOB, and gives back every column otherwise. -/
theorem decode_encoded_iff (hlaw : store.Lawful contents)
    (hin : RoundTripInput prims table record) {buf : Mem UInt8} {lob : σ} {out : EncodedRecord σ}
    (h : mysqlRecordToCantianRecord build prims store table record buf lob none = .ok out)
    (hctx : ∀ c, c < table.fields.length → ctx.copies c = true ∧ c ≤ ctx.maxColIdx)
    (m : MysqlRecord) :
    (∃ m', cantianRecordToMysqlRecord build prims store ctx table out.lob out.buf m = .ok m' ∧
        ∀ f ∈ table.fields, f.isVirtualGcol = false → m'.fieldValue f = record.fieldValue f) ↔
      build = .release ∨ ((∃ f ∈ table.fields, f.isVirtualGcol = false) ∧
        ∀ f ∈ table.fields, f.isVirtualGcol = false → record.isNull f = false →
          ¬ EmptyLongVarchar record f) := by
  obtain ⟨imgs, hrow, hflags⟩ := holdsRecord_encoded hlaw hin h
  obtain ⟨hbad, hgood⟩ := decodeLoop_spec hlaw hin hrow hctx table.fields.length 0 (Nat.zero_add _)
    (decodeInv_init hin.layout record m)
  have hrun : cantianRecordToMysqlRecord build prims store ctx table out.lob out.buf m = (do
      cAssert build (imgs.length != 0)
      let st ← decodeLoop build prims store ctx table out.lob out.buf table.fields.length 0
        ⟨0, rowHeadSize + colBitmapExSize imgs.length,
          m.writeBytes 0 (List.replicate table.nullBytes 0)⟩
      return st.record) := by
    simp [cantianRecordToMysqlRecord, headIsCsf, headIsMigr, hflags, hrow.count]
  have hempty : imgs.length ≠ 0 ↔ ∃ f ∈ table.fields, f.isVirtualGcol = false :=
    encoded_ne_zero_iff hrow.images
  have hstops : StopsFrom build table record 0 ↔ build = .debug ∧ ∃ f ∈ table.fields,
      f.isVirtualGcol = false ∧ record.isNull f = false ∧ EmptyLongVarchar record f :=
    stopsFrom_zero_iff
  have hvalues : ∀ st, DecodeInv table record imgs table.fields.length st → ∀ f ∈ table.fields,
      f.isVirtualGcol = false → st.record.fieldValue f = record.fieldValue f := by
    intro st hinv f hf hvirt
    obtain ⟨i, hi⟩ := List.mem_iff_getElem?.mp hf
    exact hinv.done i f (List.getElem?_eq_some_iff.mp hi).1 hi hvirt
  rw [hrun]
  cases build with
  | release =>
    have hfree : ¬ StopsFrom .release table record 0 := by simp [hstops]
    obtain ⟨st, hloop, hinv⟩ := hgood hfree
    refine ⟨fun _ => Or.inl rfl, fun _ => ⟨st.record, ?_, hvalues st hinv⟩⟩
    simp only [cAssert_release, result_bind_ok, hloop, result_pure]
  | debug =>
    by_cases hcount : imgs.length ≠ 0
    · have hassert : cAssert .debug (imgs.length != 0) = .ok () := by simp [cAssert, hcount]
      rw [hassert, result_bind_ok]
      by_cases hfree : StopsFrom .debug table record 0
      · rw [hbad hfree]
        obtain ⟨-, f, hf, hvirt, hnull, hlong⟩ := hstops.mp hfree
        constructor
        · rintro ⟨m', hm', -⟩
          cases hm'
        · rintro (hb | ⟨-, hall⟩)
          · cases hb
          · exact absurd hlong (hall f hf hvirt hnull)
      · obtain ⟨st, hloop, hinv⟩ := hgood hfree
        refine ⟨fun _ => Or.inr ⟨hempty.mp hcount, ?_⟩, fun _ => ⟨st.record, ?_, hvalues st hinv⟩⟩
        · intro f hf hvirt hnull hlong
          exact hfree (hstops.mpr ⟨rfl, f, hf, hvirt, hnull, hlong⟩)
        · rw [hloop]
          rfl
    · have hassert : cAssert .debug (imgs.length != 0) = .error .assertion := by
        simp [cAssert, not_not.mp hcount]
      rw [hassert]
      constructor
      · rintro ⟨m', hm', -⟩
        cases hm'
      · rintro (hb | ⟨hne, -⟩)
        · cases hb
        · exact absurd (hempty.mpr hne) hcount

/-! ## Encoding succeeds -/

/-- The values the conversions are made for are stored, unless the engine refuses a LOB. -/
theorem storeField_refused {field : Field} (hvalid : field.columnType.Valid)
    (hstorable : FieldStorable prims record field) {lob : σ} {id : Nat} {e : Failure}
    (h : storeField build prims store field record lob id = .error e) : store.Refused e := by
  obtain ⟨ddl, haux⟩ := getAuxiliary_columnType field
  generalize hmi : FieldCnvrtAux.mk field.columnType.auxType field.columnType.auxBits
    field.columnType.auxKind ddl = mysqlInfo at haux
  have hinfo : IsAux mysqlInfo field.columnType := by
    rw [← hmi]
    exact ⟨rfl, rfl, rfl⟩
  -- a failure after the length and the place of the value are known
  have hconvert : ∀ {len off : Nat} {lengthPrefix : List UInt8},
      getMapAndFieldLen build mysqlInfo field record field.offset = .ok (len, off, lengthPrefix) →
      convertDataFromMysqlToCantian build prims store mysqlInfo field record off len lengthPrefix
        lob id = .error e := by
    intro len off lengthPrefix hmap
    unfold storeField at h
    simp only [haux, hmap, result_bind_ok] at h
    rcases result_bind_eq_error.mp h with hconv | ⟨out, -, hout⟩
    · exact hconv
    · cases hout
  unfold FieldStorable at hstorable
  dsimp only at hstorable
  cases hkind : field.columnType.auxKind with
  | unknown => cases hc : field.columnType <;> rw [hc] at hkind <;> cases hkind
  | lob => exact (storeField_lob_error hkind h).2
  | numeric =>
    rw [hkind] at hstorable
    obtain ⟨len, lengthPrefix, hmap⟩ : ∃ len lengthPrefix,
        getMapAndFieldLen build mysqlInfo field record field.offset =
          .ok (len, field.offset, lengthPrefix) := by
      by_cases hbits : field.columnType.auxBits = .var
      · obtain ⟨p, s, hc⟩ := newDecimal_of_var hbits hkind
        exact getMapAndFieldLen_decimal hc hinfo
      · exact ⟨_, _, getMapAndFieldLen_fixed hinfo hbits⟩
    have hconv := hconvert hmap
    obtain ⟨out, hout⟩ :=
      @convertNumericToCantian_ok build prims mysqlInfo field _ hinfo.type hvalid hkind hstorable len
    unfold convertDataFromMysqlToCantian at hconv
    rw [hinfo.kind, hkind] at hconv
    simp only [hout, result_bind_ok] at hconv
    cases hconv
  | datetime =>
    rw [hkind] at hstorable
    have hbits : field.columnType.auxBits ≠ .var := by
      rw [auxBits_datetime hkind]
      intro hvar
      cases hvar
    have htype : mysqlInfo.mysqlFieldType = field.columnType.type :=
      hinfo.type.trans (auxType_datetime hkind)
    obtain ⟨cantian, hout, -⟩ : ∃ cantian, convertDatetimeToCantian build prims.time mysqlInfo
        (record.readBytes field.offset field.columnType.packLength) field = .ok cantian ∧ _ :=
      convertDatetime_round_trip htype hstorable
    have hconv := hconvert (getMapAndFieldLen_fixed hinfo hbits)
    unfold convertDataFromMysqlToCantian at hconv
    rw [hinfo.kind, hkind] at hconv
    simp only [hout, result_bind_ok] at hconv
    cases hconv
  | string =>
    have hconv := hconvert (getMapAndFieldLen_string hkind hinfo)
    unfold convertDataFromMysqlToCantian at hconv
    rw [hinfo.kind, hkind] at hconv
    dsimp only at hconv
    split at hconv
    · rcases result_bind_eq_error.mp hconv with hblob | ⟨out, -, hout⟩
      · exact (convertBlobToCantian_error hblob).2
      · cases hout
    · cases hconv

/-- **Round trip.** Unless the engine refuses a LOB, every record is encoded for an insert, and
it is decoded to the same values except by a debug build from a row without columns or with an
empty VARCHAR that is stored as a LOB. -/
theorem rowCodec_round_trip_iff (hlaw : store.Lawful contents)
    (hin : RoundTripInput prims table record) {buf : Mem UInt8} {lob : σ}
    (hstore : ∀ e, mysqlRecordToCantianRecord build prims store table record buf lob none =
      .error e → ¬ store.Refused e)
    (hctx : ∀ c, c < table.fields.length → ctx.copies c = true ∧ c ≤ ctx.maxColIdx)
    (m : MysqlRecord) :
    ∃ out, mysqlRecordToCantianRecord build prims store table record buf lob none = .ok out ∧
      ((∃ m', cantianRecordToMysqlRecord build prims store ctx table out.lob out.buf m = .ok m' ∧
          ∀ f ∈ table.fields, f.isVirtualGcol = false → m'.fieldValue f = record.fieldValue f) ↔
        build = .release ∨ ((∃ f ∈ table.fields, f.isVirtualGcol = false) ∧
          ∀ f ∈ table.fields, f.isVirtualGcol = false → record.isNull f = false →
            ¬ EmptyLongVarchar record f)) := by
  cases hrun : mysqlRecordToCantianRecord build prims store table record buf lob none with
  | ok out => exact ⟨out, rfl, decode_encoded_iff hlaw hin hrun hctx m⟩
  | error e =>
    obtain ⟨id, field, k, row, hfield, hvirt, hput⟩ := mysqlRecordToCantianRecord_insert_error hrun
    have hmem := List.mem_of_getElem? hfield
    obtain ⟨hnull, herror⟩ := putField_error hput
    have hrefused := storeField_refused (hin.valid.2 field hmem)
      (hin.storable field hmem hvirt hnull) herror
    exact absurd hrefused (hstore e hrun)

end

/-! ### Examples -/

def plainField (fieldName : String) (columnType : ColumnType) (offset : Nat)
    (nullBit : Option NullBit) (gcol : Gcol) : Field :=
  ⟨fieldName, columnType, offset, nullBit, gcol, false, false⟩

/-- The statement reads every column. -/
def ReadCtx.all : ReadCtx := ⟨fun _ => true, true, false, 4096⟩

/-- `CREATE TABLE t (v VARCHAR(9000) NOT NULL)`. -/
def longVarcharTable : Table := ⟨[plainField "v" (.varchar 9000) 1 none .none], 1⟩

theorem longVarchar_input :
    RoundTripInput .none longVarcharTable (fun _ => .byte 0) := by
  refine ⟨⟨by decide, ?_⟩, ⟨by decide, by decide, by decide⟩, by decide, ?_⟩
  · intro f hf
    obtain rfl := List.mem_singleton.mp hf
    exact (by decide : 9000 < 65536)
  · intro f hf _ _
    obtain rfl := List.mem_singleton.mp hf
    exact (by decide : (0 : Nat) ≤ 9000)

/-- The empty string in a VARCHAR(9000): a debug build stops when it reads the row back. -/
theorem rowCodec_empty_long_varchar :
    RoundTripInput .none longVarcharTable (fun _ => .byte 0) ∧
      ∃ out, mysqlRecordToCantianRecord .debug .none .refusing longVarcharTable (fun _ => .byte 0)
          (fun _ => 0) () none = .ok out ∧ out.size < 65536 ∧
        ¬ ∃ m', cantianRecordToMysqlRecord .debug .none .refusing .all longVarcharTable out.lob
            out.buf (fun _ => .byte 0) = .ok m' ∧
          ∀ f ∈ longVarcharTable.fields, f.isVirtualGcol = false →
            m'.fieldValue f = MysqlRecord.fieldValue (fun _ => .byte 0) f := by
  refine ⟨longVarchar_input, _, rfl, by decide, ?_⟩
  rintro ⟨m', hm', -⟩
  have hstop : cantianRecordToMysqlRecord .debug .none .refusing .all longVarcharTable ()
      (setRowHead (rowSetColumnBits2 (Mem.write (fun _ => 0) 8 (Bytes.le 2 12 ++ inlineLocator []))
        3 0) 24 1) (fun _ => .byte 0) = .error .assertion := rfl
  exact absurd (hm'.symm.trans hstop) (by simp)

/-- A table with a generated column, strings and a BLOB. -/
def mixedTable : Table :=
  ⟨[plainField "id" (.long false) 1 none .none,
    plainField "g" (.long false) 5 none .virtual,
    plainField "name" (.varchar 20) 9 (some ⟨0, 0⟩) .none,
    plainField "code" (.string 4 0x20) 30 (some ⟨0, 1⟩) .none,
    plainField "text" (.varchar 9000) 34 none .none,
    plainField "data" (.blob 2) 9036 none .none], 1⟩

/-- `(7, DEFAULT, NULL, 'ab', 'hi', x'010203')`. -/
def mixedRecord : MysqlRecord :=
  ((((MysqlRecord.writeBytes (fun _ => .byte 0) 0 [1, 7, 0, 0, 0]).writeBytes 30
    [0x61, 0x62, 0x20, 0x20]).writeBytes 34 [2, 0, 0x68, 0x69]).writeBytes 9036 [3, 0]).writePtr 9038
    (some [1, 2, 3])

theorem mixed_input : RoundTripInput .none mixedTable mixedRecord := by
  refine ⟨⟨by decide, ?_⟩, ⟨by decide, by decide, by decide⟩, by decide, ?_⟩
  · intro f hf
    simp only [mixedTable, List.mem_cons, List.not_mem_nil, or_false] at hf
    rcases hf with rfl | rfl | rfl | rfl | rfl | rfl
    all_goals simp [plainField, ColumnType.Valid]
  · intro f hf hvirt hnull
    simp only [mixedTable, List.mem_cons, List.not_mem_nil, or_false] at hf
    rcases hf with rfl | rfl | rfl | rfl | rfl | rfl
    · trivial
    · trivial
    · cases hnull
    · change (mixedRecord.stringData _).length ≤ 4
      decide
    · change (mixedRecord.stringData _).length ≤ 9000
      decide
    · intro hjson
      cases hjson

theorem rowCodec_round_trip_mixed :
    ∃ out m', mysqlRecordToCantianRecord .debug .none .refusing mixedTable mixedRecord (fun _ => 0)
        () none = .ok out ∧
      cantianRecordToMysqlRecord .debug .none .refusing .all mixedTable out.lob out.buf
        (fun _ => .byte 0) = .ok m' ∧
      ∀ f ∈ mixedTable.fields, f.isVirtualGcol = false →
        m'.fieldValue f = mixedRecord.fieldValue f := by
  have hctx : ∀ c, c < mixedTable.fields.length →
      ReadCtx.all.copies c = true ∧ c ≤ ReadCtx.all.maxColIdx := by
    intro c hc
    have hc' : c < 6 := hc
    exact ⟨rfl, show c ≤ 4096 by omega⟩
  have hencoded : mysqlRecordToCantianRecord .debug .none .refusing mixedTable mixedRecord
      (fun _ => 0) () none = .ok _ := rfl
  have hstore : ∀ e, mysqlRecordToCantianRecord .debug .none .refusing mixedTable mixedRecord
      (fun _ => 0) () none = .error e → ¬ LobStore.refusing.Refused e := by
    intro e he
    rw [hencoded] at he
    cases he
  obtain ⟨out, hout, hiff⟩ := rowCodec_round_trip_iff LobStore.refusing_lawful mixed_input hstore
    hctx (fun _ => .byte 0)
  obtain ⟨m', hrun, hvalues⟩ := hiff.mpr (Or.inr (by decide))
  exact ⟨out, m', hout, hrun, hvalues⟩

end CantianConnector.Convert
