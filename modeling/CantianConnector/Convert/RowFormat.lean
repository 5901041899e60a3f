import CantianConnector.Lib.Bytes
import CantianConnector.Lib.Memory
import CantianConnector.Convert.Field

/-!
# The Cantian row format

A row starts with `row_head_t`: a 16-bit size, a 10-bit column count with six flags, the itl
id, and a bitmap of two bits per column that continues after the head when it has more than
twelve columns. The column values follow, each aligned to four bytes.

The abstract content of a row is the list of its columns (`ColImage`). `putColumns` is what an
encoder does with such a list, and `RowAt` says that a memory holds it; the encoder's result
satisfies `RowAt` as long as the bitmap ends before the values start (`putColumns_rowAt`).
-/

namespace CantianConnector.Convert

/-! ## The row head -/

/-- `sizeof(row_head_t)`. -/
def rowHeadSize : Nat := 8

/-- The offset of `bitmap` in `row_head_t`. -/
def bitmapOffset : Nat := 5

def ColBits.code : ColBits → UInt8
  | .null => 0
  | .four => 1
  | .eight => 2
  | .var => 3

/-- The byte of `row_set_column_bits2`: erase, then set. -/
def setByteBits (byte bits shift : UInt8) : UInt8 :=
  (byte &&& ~~~((3 : UInt8) <<< shift)) ||| (bits <<< shift)

/-- The byte of `row_get_column_bits2`. -/
def getByteBits (byte shift : UInt8) : UInt8 := (byte >>> shift) &&& 3

/-- The shift of a column in its bitmap byte. -/
def bitShift (colId : Nat) : UInt8 := UInt8.ofNat (colId % 4 * 2)

/-- `row_set_column_bits2`. -/
def rowSetColumnBits2 (row : Mem UInt8) (bits : UInt8) (colId : Nat) : Mem UInt8 :=
  row.write (bitmapOffset + colId / 4)
    [setByteBits (row (bitmapOffset + colId / 4)) bits (bitShift colId)]

/-- `row_get_column_bits2`. -/
def rowGetColumnBits2 (row : Mem UInt8) (colId : Nat) : UInt8 :=
  getByteBits (row (bitmapOffset + colId / 4)) (bitShift colId)

/-- `CM_ALIGN16`. -/
def cmAlign16 (size : Nat) : Nat := if size % 16 = 0 then size else size + 16 - size % 16

/-- `CT_SPRS_COLUMNS`. -/
def sprsColumns : Nat := 1024

/-- `col_bitmap_ex_size`. -/
def colBitmapExSize (cols : Nat) : Nat :=
  if sprsColumns ≤ cols then cmAlign16 (cols - 4) / 4
  else if cols ≤ 12 then 0 else cmAlign16 (cols - 12) / 4

/-- Storing `size`, `column_count` and the cleared `flags`. -/
def setRowHead (row : Mem UInt8) (size columnCount : Nat) : Mem UInt8 :=
  row.write 0 (Bytes.le 2 size ++ Bytes.le 2 (columnCount % 1024))

/-- `row_head->size`. -/
def headSize (row : Mem UInt8) : Nat := Bytes.ofLe (row.read 0 2)

/-- `row_head->column_count`. -/
def headColumnCount (row : Mem UInt8) : Nat := Bytes.ofLe (row.read 2 2) % 1024

/-- `row_head->flags`. -/
def headFlags (row : Mem UInt8) : Nat := Bytes.ofLe (row.read 2 2) / 1024

/-- `row_head->is_migr`, the third flag. -/
def headIsMigr (row : Mem UInt8) : Bool := headFlags row / 4 % 2 == 1

/-- `row_head->is_csf`, the sixth flag. -/
def headIsCsf (row : Mem UInt8) : Bool := headFlags row / 32 % 2 == 1

/-- `ROUND_UP(x, 4)`. -/
def roundUp4 (x : Nat) : Nat := (x / 4 + (if x % 4 ≠ 0 then 1 else 0)) * 4

theorem roundUp4_bounds (x : Nat) : x ≤ roundUp4 x ∧ roundUp4 x < x + 4 := by
  unfold roundUp4
  split <;> omega

/-! ## Columns of a row -/

/-- A column of a row: its bits and its bytes. -/
inductive ColImage where
  | null
  | four (bytes : List UInt8)
  | eight (bytes : List UInt8)
  | var (data : List UInt8)
deriving DecidableEq, Repr

namespace ColImage

def bits : ColImage → ColBits
  | null => .null
  | four _ => .four
  | eight _ => .eight
  | var _ => .var

/-- The bytes stored for a column. A variable one is preceded by its length. -/
def stored : ColImage → List UInt8
  | null => []
  | four bytes => bytes
  | eight bytes => bytes
  | var data => Bytes.le 2 data.length ++ data

/-- The bytes stored for a column, without the length before them. -/
def payload : ColImage → List UInt8
  | null => []
  | four bytes => bytes
  | eight bytes => bytes
  | var data => data

/-- The bytes a column takes, padding included. -/
def width : ColImage → Nat
  | null => 0
  | four _ => 4
  | eight _ => 8
  | var data => roundUp4 (data.length + 2)

/-- The lengths a column of each kind has. -/
def Sized : ColImage → Prop
  | null => True
  | four bytes => bytes.length = 4
  | eight bytes => bytes.length = 8
  | var data => data.length < 65536

theorem Sized.length_stored_le {img : ColImage} (h : img.Sized) : img.stored.length ≤ img.width := by
  cases img with
  | null => exact le_rfl
  | four bytes => exact (show bytes.length = 4 from h).le
  | eight bytes => exact (show bytes.length = 8 from h).le
  | var data =>
    have hr := roundUp4_bounds (data.length + 2)
    simp only [stored, width, List.length_append, Bytes.length_le]
    omega

end ColImage

/-- The bytes a list of columns takes. -/
def widths (cols : List ColImage) : Nat := (cols.map ColImage.width).sum

@[simp] theorem widths_cons (img : ColImage) (cols : List ColImage) :
    widths (img :: cols) = img.width + widths cols := rfl

/-- Storing columns `k`, `k + 1` and so on, the first at offset `off`. -/
def putColumns : List ColImage → Nat → Mem UInt8 × Nat → Mem UInt8 × Nat
  | [], _, state => state
  | img :: cols, k, (buf, off) =>
    putColumns cols (k + 1)
      (rowSetColumnBits2 (buf.write off img.stored) img.bits.code k, off + img.width)

/-- A memory holds the columns `cols`, with the values from `base` on. -/
def RowAt (row : Mem UInt8) (base : Nat) (cols : List ColImage) : Prop :=
  ∀ i img, cols[i]? = some img → rowGetColumnBits2 row i = img.bits.code ∧
    row.read (base + widths (cols.take i)) img.stored.length = img.stored

/-! ## Bits -/

/-- The bits of another column pass through the mask of a column, its own bits do not. -/
theorem columnMask : ∀ i j : Fin 4,
    (~~~((3 : UInt8) <<< UInt8.ofNat (j.val * 2)) >>> UInt8.ofNat (i.val * 2)) &&& 3 =
      if i = j then 0 else 3 := by
  decide

/-- A value shifted to a column is seen there only. -/
theorem columnValue : ∀ (i j : Fin 4) (bits : Fin 4),
    ((UInt8.ofNat bits <<< UInt8.ofNat (j.val * 2)) >>> UInt8.ofNat (i.val * 2)) &&& 3 =
      if i = j then UInt8.ofNat bits else 0 := by
  decide

theorem getByteBits_setByteBits (byte : UInt8) (i j : Nat) (bits : ColBits) :
    getByteBits (setByteBits byte bits.code (bitShift j)) (bitShift i) =
      if i % 4 = j % 4 then bits.code else getByteBits byte (bitShift i) := by
  have hv : UInt8.ofNat bits.code.toNat = bits.code := by cases bits <;> rfl
  have hcode : bits.code.toNat < 4 := by cases bits <;> decide
  have hmask := columnMask ⟨i % 4, by omega⟩ ⟨j % 4, by omega⟩
  have hvalue := columnValue ⟨i % 4, by omega⟩ ⟨j % 4, by omega⟩ ⟨bits.code.toNat, hcode⟩
  simp only [hv, Fin.mk.injEq] at hmask hvalue
  have hdistrib : ∀ a b : UInt8, (a ||| b) &&& 3 = (a &&& 3) ||| (b &&& 3) := by
    intro a b
    exact UInt8.toBitVec_inj.1 BitVec.and_or_distrib_right
  unfold getByteBits setByteBits bitShift
  rw [UInt8.shiftRight_or, UInt8.shiftRight_and, hdistrib, UInt8.and_assoc, hmask, hvalue]
  by_cases hij : i % 4 = j % 4
  · rw [if_pos hij, if_pos hij, if_pos hij, UInt8.and_zero, UInt8.zero_or]
  · rw [if_neg hij, if_neg hij, if_neg hij, UInt8.or_zero]

/-- Setting the bits of a column changes the bits of that column only. -/
theorem rowGetColumnBits2_set (row : Mem UInt8) (bits : ColBits) (i j : Nat) :
    rowGetColumnBits2 (rowSetColumnBits2 row bits.code j) i =
      if i = j then bits.code else rowGetColumnBits2 row i := by
  unfold rowGetColumnBits2 rowSetColumnBits2
  by_cases hbyte : i / 4 = j / 4
  · have hwrite : row.write (bitmapOffset + j / 4)
        [setByteBits (row (bitmapOffset + j / 4)) bits.code (bitShift j)] (bitmapOffset + i / 4) =
        setByteBits (row (bitmapOffset + j / 4)) bits.code (bitShift j) := by
      rw [hbyte]
      exact Mem.write_inside (i := 0) rfl
    rw [hwrite, getByteBits_setByteBits, hbyte]
    by_cases hij : i = j
    · rw [if_pos hij, if_pos (by rw [hij])]
    · rw [if_neg hij, if_neg (by omega)]
  · have hwrite : row.write (bitmapOffset + j / 4)
        [setByteBits (row (bitmapOffset + j / 4)) bits.code (bitShift j)] (bitmapOffset + i / 4) =
        row (bitmapOffset + i / 4) := by
      apply Mem.write_outside
      simp only [List.length_singleton]
      omega
    rw [hwrite, if_neg (by rintro rfl; exact hbyte rfl)]

/-- The bits of a column depend on its bitmap byte only. -/
theorem rowGetColumnBits2_congr {row row' : Mem UInt8} {i : Nat}
    (h : row (bitmapOffset + i / 4) = row' (bitmapOffset + i / 4)) :
    rowGetColumnBits2 row i = rowGetColumnBits2 row' i := by
  unfold rowGetColumnBits2
  rw [h]

/-- Setting bits leaves the addresses after the bitmap alone. -/
theorem rowSetColumnBits2_outside {row : Mem UInt8} {bits : UInt8} {k a : Nat}
    (h : bitmapOffset + k / 4 < a) : rowSetColumnBits2 row bits k a = row a :=
  Mem.write_outside (Or.inr (by simp only [List.length_singleton]; omega))

/-! ## Encoding -/

theorem putColumns_offset (cols : List ColImage) (k : Nat) (buf : Mem UInt8) (off : Nat) :
    (putColumns cols k (buf, off)).2 = off + widths cols := by
  induction cols generalizing k buf off with
  | nil => rfl
  | cons img cols ih => rw [putColumns, ih, widths_cons, Nat.add_assoc]

/-- What storing columns does to a memory. `low` lies after the bitmap and before the values;
the induction is on the list of columns. -/
theorem putColumns_spec (cols : List ColImage) (hsized : ∀ img ∈ cols, img.Sized) (low k off : Nat)
    (buf : Mem UInt8) (hbitmap : bitmapOffset + (k + cols.length - 1) / 4 < low)
    (hlow : low ≤ off) :
    (∀ j, j < k → rowGetColumnBits2 (putColumns cols k (buf, off)).1 j =
        rowGetColumnBits2 buf j) ∧
      (∀ a, low ≤ a → a < off → (putColumns cols k (buf, off)).1 a = buf a) ∧
      ∀ i img, cols[i]? = some img →
        rowGetColumnBits2 (putColumns cols k (buf, off)).1 (k + i) = img.bits.code ∧
        (putColumns cols k (buf, off)).1.read (off + widths (cols.take i)) img.stored.length =
          img.stored := by
  induction cols generalizing k off buf with
  | nil => exact ⟨fun _ _ => rfl, fun _ _ _ => rfl, by simp⟩
  | cons img cols ih =>
    rw [List.length_cons] at hbitmap
    have hlen := (hsized img (by simp)).length_stored_le
    obtain ⟨hbits, hmem, hcols⟩ := ih (fun x hx => hsized x (by simp [hx])) (k + 1)
      (off + img.width) (rowSetColumnBits2 (buf.write off img.stored) img.bits.code k)
      (by rwa [show k + 1 + cols.length - 1 = k + (cols.length + 1) - 1 by omega]) (by omega)
    rw [putColumns]
    refine ⟨?_, ?_, ?_⟩
    · intro j hj
      rw [hbits j (by omega), rowGetColumnBits2_set, if_neg (by omega)]
      exact rowGetColumnBits2_congr (Mem.write_of_lt _ (by omega))
    · intro a h1 h2
      rw [hmem a h1 (by omega), rowSetColumnBits2_outside (by omega), Mem.write_of_lt _ h2]
    · intro i x hx
      cases i with
      | zero =>
        rw [List.getElem?_cons_zero, Option.some.injEq] at hx
        subst hx
        refine ⟨?_, ?_⟩
        · have hk := hbits k (by omega)
          rw [rowGetColumnBits2_set, if_pos rfl] at hk
          exact hk
        · have hsame : ∀ a, off ≤ a → a < off + img.stored.length →
              (putColumns cols (k + 1) (rowSetColumnBits2 (buf.write off img.stored) img.bits.code k,
                off + img.width)).1 a = buf.write off img.stored a := by
            intro a h1 h2
            rw [hmem a (by omega) (by omega), rowSetColumnBits2_outside (by omega)]
          have hread := Mem.read_congr hsame
          rw [Mem.read_write_same] at hread
          exact hread
      | succ i =>
        rw [List.getElem?_cons_succ] at hx
        obtain ⟨h1, h2⟩ := hcols i x hx
        rw [show k + (i + 1) = k + 1 + i by omega, List.take_succ_cons, widths_cons, ← Nat.add_assoc]
        exact ⟨h1, h2⟩

/-- **The encoder's row holds its columns** when the bitmap ends before the values start. -/
theorem putColumns_rowAt {cols : List ColImage} (hsized : ∀ img ∈ cols, img.Sized) {base : Nat}
    (buf : Mem UInt8) (hbase : rowHeadSize ≤ base)
    (hbitmap : bitmapOffset + (cols.length - 1) / 4 < base) (size columnCount : Nat) :
    RowAt (setRowHead (putColumns cols 0 (buf, base)).1 size columnCount) base cols := by
  intro i img himg
  obtain ⟨-, -, hcols⟩ := putColumns_spec cols hsized base 0 base buf
    (by rw [Nat.zero_add]; exact hbitmap) le_rfl
  obtain ⟨h1, h2⟩ := hcols i img himg
  rw [Nat.zero_add] at h1
  have hhead : ∀ a, 4 ≤ a → setRowHead (putColumns cols 0 (buf, base)).1 size columnCount a =
      (putColumns cols 0 (buf, base)).1 a := by
    intro a ha
    exact Mem.write_outside (Or.inr (by simpa using ha))
  refine ⟨?_, ?_⟩
  · rw [← h1]
    exact rowGetColumnBits2_congr (hhead _ (by unfold bitmapOffset; omega))
  · rw [← h2]
    unfold rowHeadSize at hbase
    rw [h2]
    exact (Mem.read_congr fun a ha _ => hhead a (by omega)).trans h2

/-! ## The head of an encoded row -/

theorem headSize_setRowHead (row : Mem UInt8) (size columnCount : Nat) :
    headSize (setRowHead row size columnCount) = size % 65536 := by
  unfold headSize setRowHead
  rw [Mem.read_write_take (by simp), List.take_left' (by simp), Bytes.ofLe_le]
  norm_num

theorem read_setRowHead (row : Mem UInt8) (size columnCount : Nat) :
    (setRowHead row size columnCount).read 2 2 = Bytes.le 2 (columnCount % 1024) := by
  have h : (setRowHead row size columnCount).read 0 (2 + 2) =
      Bytes.le 2 size ++ Bytes.le 2 (columnCount % 1024) :=
    Mem.read_write_same' (by simp)
  rw [Mem.read_add] at h
  exact (List.append_inj h (by simp)).2

theorem headColumnCount_setRowHead (row : Mem UInt8) (size columnCount : Nat) :
    headColumnCount (setRowHead row size columnCount) = columnCount % 1024 := by
  unfold headColumnCount
  rw [read_setRowHead, Bytes.ofLe_le_of_lt (by omega), Nat.mod_mod]

theorem headFlags_setRowHead (row : Mem UInt8) (size columnCount : Nat) :
    headFlags (setRowHead row size columnCount) = 0 := by
  unfold headFlags
  rw [read_setRowHead, Bytes.ofLe_le_of_lt (by omega)]
  omega

/-! ## The bitmap extension -/

/-- The bitmap extension in groups of sixteen columns. -/
def bitmapExGroups (cols : Nat) : Nat :=
  if sprsColumns ≤ cols then (cols + 11) / 16 else (cols + 3) / 16

theorem colBitmapExSize_eq (cols : Nat) : colBitmapExSize cols = 4 * bitmapExGroups cols := by
  unfold colBitmapExSize bitmapExGroups cmAlign16 sprsColumns
  split
  · split <;> omega
  · split
    · omega
    · split <;> omega

/-- The bitmap of `cols` columns ends before the values. -/
theorem bitmap_lt (cols : Nat) :
    bitmapOffset + (cols - 1) / 4 < rowHeadSize + colBitmapExSize cols := by
  rw [colBitmapExSize_eq]
  unfold bitmapOffset rowHeadSize bitmapExGroups sprsColumns
  split <;> omega

end CantianConnector.Convert
