import CantianConnector.Convert.StoredRow
import CantianConnector.Lib.PointUpdates

/-!
# Rows that are updated

The record of an update holds some of the columns of a row. The engine replaces these columns and
keeps the others. If the new record has the values of the row in the columns that stay, the row then
holds the new record (`FieldImages.replaced`).
-/

namespace CantianConnector.Convert

/-! ## Rows and their columns -/

/-- A row has a list of columns, without flags in its head. -/
structure HoldsColumns (row : Mem UInt8) (imgs : List ColImage) : Prop where
  count : headColumnCount row = imgs.length
  flags : headFlags row = 0
  sized : ∀ img ∈ imgs, img.Sized
  at_base : RowAt row (rowHeadSize + colBitmapExSize imgs.length) imgs

/-- Reading a column at offset `off`, by its bits. -/
def readColumn (row : Mem UInt8) (k off : Nat) : ColImage :=
  match ColBits.ofCode (rowGetColumnBits2 row k) with
  | .null => .null
  | .four => .four (row.read off 4)
  | .eight => .eight (row.read off 8)
  | .var => .var (row.read (off + 2) (Bytes.ofLe (row.read off 2)))

/-- Reading `n` columns from column `k` on. -/
def readColumns (row : Mem UInt8) : Nat → Nat → Nat → List ColImage
  | 0, _, _ => []
  | n + 1, k, off =>
    let img := readColumn row k off
    img :: readColumns row n (k + 1) (off + img.width)

/-- The columns of a row, by its head and its bitmap. -/
def rowColumns (row : Mem UInt8) : List ColImage :=
  readColumns row (headColumnCount row) 0
    (rowHeadSize + colBitmapExSize (headColumnCount row))

theorem readColumn_eq {row : Mem UInt8} {k off : Nat} {img : ColImage} (hsized : img.Sized)
    (hbits : rowGetColumnBits2 row k = img.bits.code)
    (hread : row.read off img.stored.length = img.stored) : readColumn row k off = img := by
  unfold readColumn
  rw [hbits, ColBits.ofCode_code]
  cases img with
  | null => rfl
  | four bytes =>
    have hlen : bytes.length = 4 := hsized
    simp only [ColImage.stored, hlen] at hread
    simp only [ColImage.bits, hread]
  | eight bytes =>
    have hlen : bytes.length = 8 := hsized
    simp only [ColImage.stored, hlen] at hread
    simp only [ColImage.bits, hread]
  | var data =>
    have hlen : data.length < 65536 := hsized
    simp only [ColImage.stored, List.length_append, Bytes.length_le, Mem.read_add] at hread
    obtain ⟨hhead, hdata⟩ := List.append_inj hread (by simp)
    simp only [ColImage.bits, hhead, Bytes.ofLe_le_of_lt (show data.length < 256 ^ 2 from hlen),
      hdata]

/-- The induction is on the columns that are left. -/
theorem readColumns_eq {row : Mem UInt8} {base : Nat} {imgs : List ColImage}
    (hsized : ∀ img ∈ imgs, img.Sized) (hrow : RowAt row base imgs) (n k : Nat)
    (hn : k + n = imgs.length) :
    readColumns row n k (base + widths (imgs.take k)) = imgs.drop k := by
  induction n generalizing k with
  | zero => rw [readColumns, List.drop_eq_nil_of_le (by omega)]
  | succ n ih =>
    have himg : imgs[k]? = some imgs[k] := List.getElem?_eq_getElem (by omega)
    obtain ⟨hbits, hread⟩ := hrow k _ himg
    have hcol := readColumn_eq (hsized _ (List.mem_of_getElem? himg)) hbits hread
    rw [readColumns, hcol, Nat.add_assoc, ← widths_take_succ himg, ih (k + 1) (by omega),
      ← List.drop_eq_getElem_cons]

/-- A row determines its columns. -/
theorem HoldsColumns.rowColumns_eq {row : Mem UInt8} {imgs : List ColImage}
    (h : HoldsColumns row imgs) : rowColumns row = imgs := by
  unfold rowColumns
  rw [h.count]
  exact readColumns_eq h.sized h.at_base imgs.length 0 (Nat.zero_add _)

/-- The row with some columns, over blank memory. -/
def rowOfColumns (imgs : List ColImage) : Mem UInt8 :=
  let base := rowHeadSize + colBitmapExSize imgs.length
  setRowHead (putColumns imgs 0 (fun _ => 0, base)).1 (base + widths imgs) imgs.length

theorem rowOfColumns_holds {imgs : List ColImage} (hsized : ∀ img ∈ imgs, img.Sized)
    (hcount : imgs.length < sprsColumns) : HoldsColumns (rowOfColumns imgs) imgs where
  count := by
    unfold rowOfColumns
    rw [headColumnCount_setRowHead]
    exact Nat.mod_eq_of_lt hcount
  flags := headFlags_setRowHead _ _ _
  sized := hsized
  at_base := putColumns_rowAt hsized _ (Nat.le_add_right _ _) (bitmap_lt _) _ _

/-! ## Images of the same values -/

section

variable {σ : Type} {build : Build} {prims : ServerPrims} {table : Table}
  {contents : σ → List UInt8 → Option (List UInt8)} {old new : MysqlRecord} {s s' : σ}
  {f : Field} {img : ColImage}

/-- The value behind the locator of a column, if it has one, is still there. -/
def KeepsLob (contents : σ → List UInt8 → Option (List UInt8)) (s s' : σ) (img : ColImage) : Prop :=
  ∀ locator blob, img = .var locator → LobAt contents s locator blob →
    LobAt contents s' locator blob

theorem FieldImage.keeps (h : FieldImage build prims contents s new f img)
    (hkeep : KeepsLob contents s s' img) : FieldImage build prims contents s' new f img := by
  cases h with
  | null hnull => exact .null hnull
  | numeric hnull hkind hinfo h => exact .numeric hnull hkind hinfo h
  | datetime hnull hkind hinfo h => exact .datetime hnull hkind hinfo h
  | string hnull hkind hshort => exact .string hnull hkind hshort
  | stringLob hnull hkind hlong hat => exact .stringLob hnull hkind hlong (hkeep _ _ rfl hat)
  | lob hnull hkind hat => exact .lob hnull hkind (hkeep _ _ rfl hat)

theorem FieldImages.keeps {ids : List Nat} {imgs : List ColImage}
    (h : FieldImages build prims contents table new s ids imgs)
    (hkeep : ∀ img ∈ imgs, KeepsLob contents s s' img) :
    FieldImages build prims contents table new s' ids imgs := by
  unfold FieldImages at h ⊢
  rw [List.forall₂_iff_get] at h ⊢
  obtain ⟨hlen, hget⟩ := h
  refine ⟨hlen, ?_⟩
  intro i hi hi'
  obtain ⟨f, hf, himg, hsized⟩ := hget i hi hi'
  exact ⟨f, hf, himg.keeps (hkeep _ (List.get_mem _ _)), hsized⟩

theorem isNull_of_fieldValue (h : new.fieldValue f = old.fieldValue f) :
    new.isNull f = old.isNull f := by
  unfold MysqlRecord.fieldValue at h
  cases hnew : new.isNull f <;> cases hold : old.isNull f <;> simp [hnew, hold] at h ⊢

theorem valueBytes_of_fieldValue (h : new.fieldValue f = old.fieldValue f)
    (hnull : old.isNull f = false) : old.valueBytes f = new.valueBytes f := by
  have hnull' := (isNull_of_fieldValue h).trans hnull
  simpa [MysqlRecord.fieldValue, hnull, hnull'] using h.symm

/-- The data of a string, by its value. -/
theorem stringData_of_valueBytes (h : old.valueBytes f = new.valueBytes f)
    (hkind : f.columnType.auxKind = .string) : old.stringData f = new.stringData f := by
  unfold MysqlRecord.valueBytes at h
  cases hc : f.columnType with
  | varchar n =>
    rw [hc] at h
    exact h
  | string n padChar =>
    rw [hc] at h
    have hread : old.readBytes f.offset n = new.readBytes f.offset n := h
    have htrim := length_trimPad padChar (new.readBytes f.offset n)
    rw [MysqlRecord.length_readBytes] at htrim
    have htake : ∀ m : MysqlRecord,
        m.readBytes f.offset (trimPad padChar (new.readBytes f.offset n)) =
          (m.readBytes f.offset n).take (trimPad padChar (new.readBytes f.offset n)) := by
      intro m
      unfold MysqlRecord.readBytes at htrim ⊢
      rw [← List.map_take, Mem.take_read _ _ htrim]
    have hlenBytes : (ColumnType.string n padChar).lengthBytes = 0 := rfl
    simp only [MysqlRecord.stringData, hc, hread, hlenBytes, Nat.add_zero]
    rw [htake, htake, hread]
  | _ =>
    rw [hc] at hkind
    cases hkind

theorem blobData_of_valueBytes (h : old.valueBytes f = new.valueBytes f)
    (hkind : f.columnType.auxKind = .lob) :
    old.blobData f f.offset = new.blobData f f.offset := by
  unfold MysqlRecord.valueBytes at h
  cases hc : f.columnType with
  | blob k =>
    rw [hc] at h
    exact h
  | json =>
    rw [hc] at h
    exact h
  | _ =>
    rw [hc] at hkind
    cases hkind

/-- The image of a column is an image for every record with the same value. -/
theorem FieldImage.of_fieldValue (himg : FieldImage build prims contents s old f img)
    (h : new.fieldValue f = old.fieldValue f) : FieldImage build prims contents s new f img := by
  have hnulls := isNull_of_fieldValue h
  have hvalue : old.isNull f = false → old.valueBytes f = new.valueBytes f :=
    valueBytes_of_fieldValue h
  cases himg with
  | null hnull => exact .null (hnulls.trans hnull)
  | numeric hnull hkind hinfo hconvert =>
    rw [← valueBytes_image (Or.inl hkind), hvalue hnull, valueBytes_image (Or.inl hkind)]
      at hconvert
    exact .numeric (hnulls.trans hnull) hkind hinfo hconvert
  | datetime hnull hkind hinfo hconvert =>
    rw [← valueBytes_image (Or.inr hkind), hvalue hnull, valueBytes_image (Or.inr hkind)]
      at hconvert
    exact .datetime (hnulls.trans hnull) hkind hinfo hconvert
  | string hnull hkind hshort =>
    rw [stringData_of_valueBytes (hvalue hnull) hkind]
    exact .string (hnulls.trans hnull) hkind hshort
  | stringLob hnull hkind hlong hat =>
    rw [stringData_of_valueBytes (hvalue hnull) hkind] at hat
    exact .stringLob (hnulls.trans hnull) hkind hlong hat
  | lob hnull hkind hat =>
    rw [blobData_of_valueBytes (hvalue hnull) hkind] at hat
    exact .lob (hnulls.trans hnull) hkind hat

/-! ## The columns of the new record -/

theorem mem_encodedColumns {ids : List Nat} {c : Nat}
    (hc : c ∈ (ids.filter table.isStored)) (hlt : c < table.fields.length) :
    ∃ f, table.fields[c]? = some f ∧ f.isVirtualGcol = false := by
  obtain ⟨-, hstored⟩ := List.mem_filter.mp hc
  have hfield : table.fields[c]? = some table.fields[c] := List.getElem?_eq_getElem hlt
  rw [isStored_of_getElem? hfield] at hstored
  exact ⟨_, hfield, by simpa using hstored⟩

/-- Two stored columns have different numbers in Cantian. -/
theorem cantianId_injective {c d : Nat} {g : Field} (hc : table.fields[c]? = some f)
    (hcv : f.isVirtualGcol = false) (hd : table.fields[d]? = some g)
    (hdv : g.isVirtualGcol = false) (heq : table.cantianId c = table.cantianId d) : c = d := by
  have hat := encodedColumns_getElem? hc hcv
  rw [heq, encodedColumns_getElem? hd hdv, Option.some.injEq] at hat
  exact hat.symm

/-- Column `k` of a row is the stored column with this number. -/
theorem cantianId_of_getElem? {k c : Nat} (hk : (table.encodedColumns none)[k]? = some c) :
    ∃ f, table.fields[c]? = some f ∧ f.isVirtualGcol = false ∧ table.cantianId c = k := by
  have hmem := List.mem_of_getElem? hk
  have hlt : c < table.fields.length := List.mem_range.mp (List.mem_filter.mp hmem).1
  obtain ⟨f, hf, hvirt⟩ := mem_encodedColumns hmem hlt
  refine ⟨f, hf, hvirt, ?_⟩
  have hnodup : (table.encodedColumns none).Nodup := List.nodup_range.filter _
  have hat := encodedColumns_getElem? hf hvirt
  obtain ⟨hi, -⟩ := List.getElem?_eq_some_iff.mp hat
  exact (List.getElem?_inj hi hnodup).mp (hat.trans hk.symm)

/-- The entries of an update list and the images of its columns. -/
def updateEntries (table : Table) (ids : List Nat) (imgs : List ColImage) :
    List (Nat × ColImage) :=
  ((ids.filter table.isStored).map table.cantianId).zip imgs

section

variable {ids : List Nat} {newImgs : List ColImage}

theorem updateEntries_fst (hlen : (ids.filter table.isStored).length = newImgs.length) :
    (updateEntries table ids newImgs).map Prod.fst =
      (ids.filter table.isStored).map table.cantianId := by
  unfold updateEntries
  rw [List.map_fst_zip]
  rw [List.length_map, hlen]

/-- No column is named twice. -/
theorem updateEntries_nodup (hids : ids.Nodup) (hlt : ∀ c ∈ ids, c < table.fields.length)
    (hlen : (ids.filter table.isStored).length = newImgs.length) :
    ((updateEntries table ids newImgs).map Prod.fst).Nodup := by
  rw [updateEntries_fst hlen]
  refine List.Nodup.map_on ?_ (hids.filter _)
  intro c hc d hd heq
  obtain ⟨f, hf, hfv⟩ := mem_encodedColumns hc (hlt c (List.mem_filter.mp hc).1)
  obtain ⟨g, hg, hgv⟩ := mem_encodedColumns hd (hlt d (List.mem_filter.mp hd).1)
  exact cantianId_injective hf hfv hg hgv heq

/-- The images of the new record: those of the update list replace those of the old record. -/
theorem FieldImages.replaced {imgs : List ColImage} (hids : ids.Nodup)
    (hlt : ∀ c ∈ ids, c < table.fields.length)
    (hold : FieldImages build prims contents table old s (table.encodedColumns none) imgs)
    (hnew : FieldImages build prims contents table new s (ids.filter table.isStored) newImgs)
    (hstays : ∀ (c : Nat) (f : Field), table.fields[c]? = some f → f.isVirtualGcol = false →
      c ∉ ids → new.fieldValue f = old.fieldValue f) :
    FieldImages build prims contents table new s (table.encodedColumns none)
      (PointUpdates.apply imgs (updateEntries table ids newImgs)) := by
  have hlen : (ids.filter table.isStored).length = newImgs.length := hnew.length_eq
  have hnodup := updateEntries_nodup hids hlt hlen
  have hfst := updateEntries_fst hlen
  unfold FieldImages at hold hnew ⊢
  rw [List.forall₂_iff_get] at hold hnew ⊢
  obtain ⟨hcount, hold⟩ := hold
  obtain ⟨-, hnew⟩ := hnew
  refine ⟨by rw [hcount, PointUpdates.length_apply], ?_⟩
  intro k hk hk'
  rw [List.get_eq_getElem, List.get_eq_getElem]
  have hget : (table.encodedColumns none)[k]? = some (table.encodedColumns none)[k] :=
    List.getElem?_eq_getElem hk
  obtain ⟨f, hf, hvirt, hnumber⟩ := cantianId_of_getElem? hget
  by_cases hmem : (table.encodedColumns none)[k] ∈ ids.filter table.isStored
  · obtain ⟨j, hj, hid⟩ := List.getElem_of_mem hmem
    have hentry : (k, newImgs[j]) ∈ updateEntries table ids newImgs := by
      unfold updateEntries
      rw [List.mem_iff_getElem]
      refine ⟨j, by simp [← hlen, hj], ?_⟩
      rw [List.getElem_zip, List.getElem_map, hid, hnumber]
    have himg := PointUpdates.apply_named hnodup hentry (hcount ▸ hk)
    rw [List.getElem?_eq_getElem hk', Option.some.injEq] at himg
    have hcol := hnew j hj (hlen ▸ hj)
    rw [List.get_eq_getElem, List.get_eq_getElem, hid] at hcol
    rw [himg]
    exact hcol
  · have hunnamed : k ∉ (updateEntries table ids newImgs).map Prod.fst := by
      rw [hfst]
      intro hk
      obtain ⟨c, hc, hck⟩ := List.mem_map.mp hk
      obtain ⟨g, hg, hgv⟩ := mem_encodedColumns hc (hlt c (List.mem_filter.mp hc).1)
      rw [← cantianId_injective hg hgv hf hvirt (hck.trans hnumber.symm)] at hmem
      exact hmem hc
    have himg : (PointUpdates.apply imgs (updateEntries table ids newImgs))[k]? = imgs[k]? :=
      PointUpdates.apply_unnamed hunnamed
    rw [List.getElem?_eq_getElem hk', List.getElem?_eq_getElem (hcount ▸ hk),
      Option.some.injEq] at himg
    obtain ⟨g, hg, hcol, hsized⟩ := hold k hk (hcount ▸ hk)
    rw [List.get_eq_getElem] at hg
    rw [List.get_eq_getElem] at hcol hsized
    rw [hf, Option.some.injEq] at hg
    subst hg
    have hoff : (table.encodedColumns none)[k] ∉ ids := by
      intro hin
      apply hmem
      rw [List.mem_filter]
      exact ⟨hin, (List.mem_filter.mp (List.getElem_mem hk)).2⟩
    rw [himg]
    exact ⟨f, hf, hcol.of_fieldValue (hstays _ f hf hvirt hoff), hsized⟩

end

end

end CantianConnector.Convert
