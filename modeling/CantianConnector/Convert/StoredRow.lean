import CantianConnector.Convert.RoundTrip
import Mathlib.Algebra.Order.BigOperators.Group.List
import Mathlib.Algebra.Order.Group.Nat

/-!
# Rows that the engine stores

The engine is given a slot of fixed length and stores as many bytes of it as the row head says. When
the row comes back, it stands in another buffer, and the LOB store has gone on meanwhile. The bytes up
to `size` and the values behind the locators of the row are enough to decode it (`storedRow_decodes`).
-/

namespace CantianConnector.Convert

/-- A buffer that begins with some bytes. -/
def memOf (bytes : List UInt8) : Mem UInt8 := fun a => bytes.getD a 0

/-- The bytes of a slot that the engine stores. -/
def storedRow (slot : List UInt8) : List UInt8 := slot.take (headSize (memOf slot))

/-- The values behind the locators of one state are there in another one. -/
def Grows {σ : Type} (contents : σ → List UInt8 → Option (List UInt8)) (s s' : σ) : Prop :=
  ∀ k v, contents s k = some v → contents s' k = some v

section

variable {σ : Type} {build : Build} {prims : ServerPrims} {store : LobStore σ} {table : Table}
  {contents : σ → List UInt8 → Option (List UInt8)} {record : MysqlRecord} {s s' s'' : σ}
  {ctx : ReadCtx} {buf buf' : Mem UInt8} {imgs : List ColImage}

theorem Grows.refl : Grows contents s s := fun _ _ h => h

theorem Grows.trans (h : Grows contents s s') (h' : Grows contents s' s'') :
    Grows contents s s'' := fun k v hv => h' k v (h k v hv)

/-! ## Buffers -/

theorem memOf_read {slot : List UInt8} {n : Nat} (hread : buf.read 0 n = slot) {a : Nat}
    (ha : a < n) : memOf slot a = buf a := by
  unfold memOf
  rw [List.getD_eq_getElem?_getD, ← hread, Mem.getElem?_read buf ha, Nat.zero_add]
  rfl

theorem memOf_take {slot : List UInt8} {n a : Nat} (ha : a < n) :
    memOf (slot.take n) a = memOf slot a := by
  unfold memOf
  rw [List.getD_eq_getElem?_getD, List.getD_eq_getElem?_getD, List.getElem?_take_of_lt ha]

theorem headSize_congr (h : ∀ a, a < 2 → buf' a = buf a) : headSize buf' = headSize buf := by
  unfold headSize
  congr 1
  exact Mem.read_congr fun a _ ha => h a (by omega)

theorem headFlags_congr (h : ∀ a, a < 4 → buf' a = buf a) : headFlags buf' = headFlags buf := by
  unfold headFlags
  congr 2
  exact Mem.read_congr fun a _ ha => h a (by omega)

theorem headColumnCount_congr (h : ∀ a, a < 4 → buf' a = buf a) :
    headColumnCount buf' = headColumnCount buf := by
  unfold headColumnCount
  congr 2
  exact Mem.read_congr fun a _ ha => h a (by omega)

/-! ## The same row elsewhere -/

theorem widths_take_le (imgs : List ColImage) (k : Nat) : widths (imgs.take k) ≤ widths imgs := by
  unfold widths
  exact ((List.take_sublist k imgs).map ColImage.width).sum_le_sum fun _ _ => Nat.zero_le _

theorem FieldImages.grows {ids : List Nat}
    (h : FieldImages build prims contents table record s ids imgs) (hgrows : Grows contents s s') :
    FieldImages build prims contents table record s' ids imgs := by
  apply List.Forall₂.imp _ h
  rintro id img ⟨field, hfield, himg, hsized⟩
  exact ⟨field, hfield, himg.mono hgrows, hsized⟩

/-- The bytes of the row, from the head to the last column, hold the record. -/
theorem HoldsRecord.congr (h : HoldsRecord build prims contents table record s buf imgs)
    (hgrows : Grows contents s s')
    (hsame : ∀ a, a < rowHeadSize + colBitmapExSize imgs.length + widths imgs → buf' a = buf a) :
    HoldsRecord build prims contents table record s' buf' imgs where
  images := h.images.grows hgrows
  count := by
    rw [← h.count]
    apply headColumnCount_congr
    intro a ha
    apply hsame
    unfold rowHeadSize
    omega
  row i img himg := by
    obtain ⟨hbits, hstored⟩ := h.row i img himg
    obtain ⟨hi, -⟩ := List.getElem?_eq_some_iff.mp himg
    have hsized := h.images.sized img (List.mem_of_getElem? himg)
    refine ⟨?_, ?_⟩
    · rw [← hbits]
      unfold rowGetColumnBits2
      rw [hsame]
      have hmap := bitmap_lt imgs.length
      have hdiv : i / 4 ≤ (imgs.length - 1) / 4 := Nat.div_le_div_right (by omega)
      omega
    · rw [← hstored, hstored]
      refine Eq.trans (Mem.read_congr ?_) hstored
      intro a _ ha
      apply hsame
      have hnext := widths_take_succ himg
      have hle := widths_take_le imgs (i + 1)
      have hwidth := hsized.length_stored_le
      omega

/-! ## Decoding -/

/-- A debug build stops at a row without columns and at an empty VARCHAR that is stored as a LOB. -/
def Decodable (build : Build) (table : Table) (record : MysqlRecord) : Prop :=
  build = .release ∨ ((∃ f ∈ table.fields, f.isVirtualGcol = false) ∧
    ∀ f ∈ table.fields, f.isVirtualGcol = false → record.isNull f = false →
      ¬ EmptyLongVarchar record f)

/-- A buffer that holds a record is decoded to its values. -/
theorem HoldsRecord.decodes (hlaw : store.Lawful contents)
    (hin : RoundTripInput prims table record) (hsafe : Decodable build table record)
    (hrow : HoldsRecord build prims contents table record s buf imgs) (hflags : headFlags buf = 0)
    (hctx : ∀ c, c < table.fields.length → ctx.copies c = true ∧ c ≤ ctx.maxColIdx)
    (m : MysqlRecord) :
    ∃ m', cantianRecordToMysqlRecord build prims store ctx table s buf m = .ok m' ∧
      ∀ f ∈ table.fields, f.isVirtualGcol = false → m'.fieldValue f = record.fieldValue f := by
  have hfree : ¬ StopsFrom build table record 0 := by
    rw [stopsFrom_zero_iff]
    rintro ⟨hdebug, f, hf, hvirt, hnull, hempty⟩
    obtain hrelease | ⟨-, hall⟩ := hsafe
    · rw [hdebug] at hrelease
      cases hrelease
    · exact hall f hf hvirt hnull hempty
  have hassert : cAssert build (imgs.length != 0) = .ok () := by
    obtain rfl | ⟨hcolumn, -⟩ := hsafe
    · exact cAssert_release _
    · have hne : imgs.length ≠ 0 := (encoded_ne_zero_iff hrow.images).mpr hcolumn
      simp [cAssert, hne]
  obtain ⟨-, hgood⟩ := decodeLoop_spec hlaw hin hrow hctx table.fields.length 0 (Nat.zero_add _)
    (decodeInv_init hin.layout record m)
  obtain ⟨st, hloop, hinv⟩ := hgood hfree
  refine ⟨st.record, ?_, ?_⟩
  · simp only [cantianRecordToMysqlRecord, headIsCsf, headIsMigr, hflags, hrow.count]
    simp [hassert, hloop]
  · intro f hf hvirt
    obtain ⟨i, hi⟩ := List.mem_iff_getElem?.mp hf
    exact hinv.done i f (List.getElem?_eq_some_iff.mp hi).1 hi hvirt

/-- Encoding a record loses no LOB. -/
theorem encoded_grows (hlaw : store.Lawful contents)
    (hvalid : ∀ f ∈ table.fields, f.columnType.Valid) {lob : σ} {fields : Option (List Nat)}
    {out : EncodedRecord σ}
    (h : mysqlRecordToCantianRecord build prims store table record buf lob fields = .ok out) :
    Grows contents lob out.lob := by
  unfold mysqlRecordToCantianRecord at h
  obtain ⟨st, hloop, h⟩ := result_bind_eq_ok.mp h
  cases h
  cases fields with
  | none =>
    obtain ⟨hput, -⟩ :=
      encodeLoop_insert table.fields.length rfl (Nat.zero_le _) (by simp) rfl hloop
    obtain ⟨-, -, -, hkeep⟩ := putFields_spec hlaw hvalid hput
    exact hkeep
  | some ids =>
    obtain ⟨hput, -⟩ := encodeLoop_update ids.length (List.nil_append ids).symm rfl rfl le_rfl
      (fun _ => rfl) hloop
    obtain ⟨-, -, -, hkeep⟩ := putFields_spec hlaw hvalid hput
    exact hkeep

/-- The size of an encoded row, by its columns. -/
theorem size_encoded (hlaw : store.Lawful contents) (hvalid : table.Valid) {buf : Mem UInt8} {lob : σ}
    {out : EncodedRecord σ}
    (h : mysqlRecordToCantianRecord build prims store table record buf lob none = .ok out)
    (himgs : FieldImages build prims contents table record s (table.encodedColumns none) imgs) :
    out.size = rowHeadSize + colBitmapExSize imgs.length + widths imgs := by
  obtain ⟨hsize, -, -⟩ := rowHead_eq hlaw hvalid h
  have hlen : (table.encodedColumns none).length = imgs.length := himgs.length_eq
  rw [hsize, recordSize, ← himgs.widths_eq hvalid, firstFieldOffset, exMapColumns_insert, hlen]

/-- **A stored row.** The engine stores a slot that begins with the row of a record. Read back into any
buffer, in any state that still has the values behind its locators, it is decoded to the values of the
record. -/
theorem storedRow_decodes (hlaw : store.Lawful contents) (hin : RoundTripInput prims table record)
    (hsafe : Decodable build table record) {lob : σ} {out : EncodedRecord σ}
    (h : mysqlRecordToCantianRecord build prims store table record buf lob none = .ok out)
    {slotLen : Nat} (hsize : out.size ≤ slotLen) (hshort : out.size < 65536)
    (hgrows : Grows contents out.lob s)
    (hctx : ∀ c, c < table.fields.length → ctx.copies c = true ∧ c ≤ ctx.maxColIdx)
    (m : MysqlRecord) :
    ∃ m', cantianRecordToMysqlRecord build prims store ctx table s
        (memOf (storedRow (out.buf.read 0 slotLen))) m = .ok m' ∧
      ∀ f ∈ table.fields, f.isVirtualGcol = false → m'.fieldValue f = record.fieldValue f := by
  obtain ⟨imgs, hrow, hflags⟩ := holdsRecord_encoded hlaw hin h
  have hout := size_encoded hlaw hin.valid h hrow.images
  obtain ⟨-, hhead, -⟩ := rowHead_eq hlaw hin.valid h
  have hslot : ∀ a, a < slotLen → memOf (out.buf.read 0 slotLen) a = out.buf a :=
    fun a ha => memOf_read rfl ha
  have hstored : headSize (memOf (out.buf.read 0 slotLen)) = out.size := by
    rw [headSize_congr fun a ha => hslot a (by unfold rowHeadSize at hout; omega), hhead,
      Nat.mod_eq_of_lt hshort]
  have hsame : ∀ a, a < out.size → memOf (storedRow (out.buf.read 0 slotLen)) a = out.buf a := by
    intro a ha
    unfold storedRow
    rw [hstored, memOf_take ha]
    exact hslot a (by omega)
  apply (hrow.congr hgrows fun a ha => hsame a (by omega)).decodes hlaw hin hsafe _ hctx
  rw [headFlags_congr fun a ha => hsame a (by unfold rowHeadSize at hout; omega), hflags]

end

end CantianConnector.Convert
