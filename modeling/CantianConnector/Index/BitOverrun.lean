import CantianConnector.Index.Decode

/-!
# Decoding a BIT column

`bit_cnvt_cantian_mysql` is the inverse of `bit_cnvt_mysql_cantian`
(`bitCnvtCantianMysql_bitCnvtMysqlCantian`), but a column of 3 bytes is stored through a
`uint32`, and one of 5 to 7 bytes through a `ulonglong`. The bytes next to the column become
zero. They keep their values exactly if they were zero before (`bitRestored_iff`), whatever the
columns there are and whether or not they are decoded later.
-/

namespace CantianConnector.Index

open CantianConnector.Convert

/-- `bytes_in_rec` of a BIT column of `n` bits, all of them in the record. -/
def bytesInRec (n : Nat) : Nat := (n + 7) / 8

/-- The store of `bit_cnvt_cantian_mysql` through `mysql_ptr`, at address `off` of the record. -/
def storeBit (w : Nat) (cantian : List UInt8) (off : Nat) (record : MysqlRecord) : MysqlRecord :=
  record.writeBytes off (bitCnvtCantianMysql w cantian)

/-- Decoding what was stored for a column with the bytes `image`, at address `off`: the column's
bytes are restored, and no other cell of the memory changes. -/
def BitRestored (w : Nat) (image : List UInt8) (off : Nat) (record : MysqlRecord) : Prop :=
  let after := storeBit w (Bytes.le 8 (bitCnvtMysqlCantian w image)) off record
  after.read off w = image.map Cell.byte ∧ ∀ a, a < off ∨ off + w ≤ a → after a = record a

/-! ## The bytes stored -/

/-- A shorter image of a number in `n` bytes, read back from its other end. -/
theorem ofBe_take_le {n w : Nat} (hn : n ≤ w) {v : Nat} :
    Bytes.ofBe ((Bytes.le w v).take n) = Bytes.ofLe (Bytes.be n v) := by
  rw [take_le hn, Bytes.ofBe, Bytes.be]

/-- **Decoding inverts encoding**; the rest of a wider store is zero. -/
theorem bitCnvtCantianMysql_bitCnvtMysqlCantian {w : Nat} (hw : w ≤ 8) {image : List UInt8}
    (himage : image.length = w) :
    bitCnvtCantianMysql w (Bytes.le 8 (bitCnvtMysqlCantian w image)) =
      image ++ List.replicate (decodedLength (.bit w) - w) 0 := by
  have hreverse : Bytes.be w (bitCnvtMysqlCantian w image) = image := by
    have hlen : image.reverse.length = w := by rw [List.length_reverse, himage]
    rw [bitCnvtMysqlCantian, List.take_of_length_le (by omega), Bytes.be, Bytes.ofBe, ← hlen,
      Bytes.le_ofLe, List.reverse_reverse]
  have hread : Bytes.ofBe ((Bytes.le 8 (bitCnvtMysqlCantian w image)).take w) =
      Bytes.ofLe image := by
    rw [ofBe_take_le hw, hreverse]
  have hstore : Bytes.le (decodedLength (.bit w)) (Bytes.ofLe image) =
      image ++ List.replicate (decodedLength (.bit w) - w) 0 := by
    have hle : w ≤ decodedLength (.bit w) := packLength_le_decodedLength (.bit w)
    rw [← Bytes.le_ofLe_zeros, himage, Nat.add_sub_cancel' hle]
  by_cases h1 : w = 1
  · subst h1
    have hsame : decodedLength (.bit 1) - 1 = 0 := rfl
    rw [bitCnvtCantianMysql, take_le hw, hsame, List.replicate_zero, List.append_nil]
    exact hreverse
  · rw [← hstore, ← hread]
    interval_cases w <;> first | rfl | exact absurd rfl h1

/-- The decoder of a BIT column makes this store and nothing else. -/
theorem copyColumnDataToMysql_bit {σ : Type} {build : Build} {prims : ServerPrims}
    {store : LobStore σ} {ctx : ReadCtx} {mysqlInfo : FieldCnvrtAux} {field : Field} {w : Nat}
    {columnId : Nat} (hcol : field.columnType = .bit w)
    (hinfo : mysqlInfo.mysqlFieldType = .bit) (hkind : mysqlInfo.sqlDataType = .numeric)
    (hcopies : ctx.copies columnId = true) (lob : σ) (cantian : Mem UInt8) (fieldLen : Nat)
    (record : MysqlRecord) (off : Nat) :
    copyColumnDataToMysql build prims store ctx mysqlInfo field columnId lob cantian fieldLen
      record off = .ok (storeBit w (cantian.read 0 8) off record) := by
  rw [copyColumnDataToMysql, if_pos hcopies, hkind]
  simp only [convertNumericToMysql, hinfo, hcol, ColumnType.packLength, result_bind_ok]
  rfl

/-! ## The bytes next to the column -/

theorem bytesInRec_le {n : Nat} (h : n ≤ 64) : bytesInRec n ≤ 8 := by
  unfold bytesInRec
  omega

theorem storeBit_eq {w : Nat} (hw : w ≤ 8) {image : List UInt8} (himage : image.length = w)
    (off : Nat) (record : MysqlRecord) :
    storeBit w (Bytes.le 8 (bitCnvtMysqlCantian w image)) off record =
      record.write off (image.map Cell.byte ++
        List.replicate (decodedLength (.bit w) - w) (Cell.byte 0)) := by
  rw [storeBit, bitCnvtCantianMysql_bitCnvtMysqlCantian hw himage, MysqlRecord.writeBytes,
    List.map_append, List.map_replicate]

/-- The column itself always comes out right. -/
theorem read_storeBit {w : Nat} (hw : w ≤ 8) {image : List UInt8} (himage : image.length = w)
    (off : Nat) (record : MysqlRecord) :
    (storeBit w (Bytes.le 8 (bitCnvtMysqlCantian w image)) off record).read off w =
      image.map Cell.byte := by
  have hlen : (image.map Cell.byte).length = w := by rw [List.length_map, himage]
  rw [storeBit_eq hw himage, Mem.read_write_take (by rw [List.length_append]; omega),
    List.take_left' hlen]

theorem read_eq_zeros_iff {record : MysqlRecord} {off k : Nat} :
    record.read off k = List.replicate k (Cell.byte 0) ↔
      ∀ a, off ≤ a → a < off + k → record a = Cell.byte 0 := by
  constructor
  · intro h a h1 h2
    obtain ⟨i, rfl⟩ : ∃ i, a = off + i := ⟨a - off, by omega⟩
    have hi : i < k := by omega
    have hcell : (record.read off k)[i]? = some (record (off + i)) := Mem.getElem?_read record hi
    rw [h, List.getElem?_replicate, if_pos hi] at hcell
    exact (Option.some.inj hcell).symm
  · intro h
    apply List.eq_replicate_iff.mpr
    refine ⟨Mem.length_read _ _ _, ?_⟩
    intro c hc
    obtain ⟨i, hi, rfl⟩ := List.mem_map.mp hc
    rw [List.mem_range] at hi
    apply h <;> omega

/-- **A BIT column is restored without a trace next to it exactly if the store is not wider than
the column, or the cells it reaches were zero.** -/
theorem bitRestored_iff {n : Nat} (hn : n ≤ 64) {image : List UInt8}
    (himage : image.length = bytesInRec n) (off : Nat) (record : MysqlRecord) :
    BitRestored (bytesInRec n) image off record ↔
      ∀ a, off + bytesInRec n ≤ a → a < off + decodedLength (.bit (bytesInRec n)) →
        record a = Cell.byte 0 := by
  have hw := bytesInRec_le hn
  have hle : bytesInRec n ≤ decodedLength (.bit (bytesInRec n)) :=
    packLength_le_decodedLength (.bit (bytesInRec n))
  have hlen : (image.map Cell.byte).length = bytesInRec n := by rw [List.length_map, himage]
  have hframe := Mem.write_append_frame_iff record off (image.map Cell.byte)
    (List.replicate (decodedLength (.bit (bytesInRec n)) - bytesInRec n) (Cell.byte 0))
  rw [hlen, List.length_replicate, read_eq_zeros_iff, Nat.add_assoc,
    Nat.add_sub_cancel' hle] at hframe
  unfold BitRestored
  dsimp only
  rw [and_iff_right (read_storeBit hw himage off record), storeBit_eq hw himage]
  exact hframe

/-- BIT(12), next to a column with the value 7. -/
theorem bitRestored_iff_12 :
    BitRestored (bytesInRec 12) [10, 188] 1 (fun a => Cell.byte (if a = 3 then 7 else 0)) ↔
      ∀ a, 1 + bytesInRec 12 ≤ a → a < 1 + decodedLength (.bit (bytesInRec 12)) →
        Cell.byte (if a = 3 then 7 else 0) = Cell.byte 0 :=
  bitRestored_iff (by decide) rfl 1 (fun a => Cell.byte (if a = 3 then 7 else 0))

/-- BIT(20) at address 1, then a TINYINT with the value 7, which becomes 0. -/
theorem not_bitRestored_20 :
    ¬ BitRestored (bytesInRec 20) [10, 188, 222] 1
      (fun a => Cell.byte (if a = 4 then 7 else 0)) := by
  intro h
  have hcell := h.2 4 (Or.inr (by decide))
  simp only [storeBit, MysqlRecord.writeBytes] at hcell
  revert hcell
  decide

end CantianConnector.Index
