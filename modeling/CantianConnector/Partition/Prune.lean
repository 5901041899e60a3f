import CantianConnector.Lib.Lex
import CantianConnector.Lib.Memory
import Mathlib.Algebra.Order.BigOperators.Group.List
import Mathlib.Algebra.Order.Group.Nat
import Mathlib.Data.List.Nodup
import Mathlib.Data.Nat.Bitwise

/-!
# Pruning by the range keys

A range scan reads one partition only if its two keys agree on the partitioning columns.
`need_prune_partitions_by_engine` looks at the table and the index,
`equal_range_on_part_field` compares the bytes of the keys. Both know the first `num_columns` of
the partitioning columns only: one of them for `HASH(a + b)`, none for `KEY()`.

A key image has its parts one behind the other, each with its null byte and its length bytes
(`store_length`). The comparison steps over `length` bytes of each partitioning part, and over
nothing for a part that does not partition. It asks for the length of the start key only.
-/

namespace CantianConnector.Partition

/-! ## Indexes and keys -/

/-- `KEY_PART_INFO`: `storeLength` counts the null byte and the length bytes, `length` does
not. -/
structure KeyPart where
  fieldIndex : Nat
  length : Nat
  storeLength : Nat
  length_le : length ≤ storeLength
  storeLength_pos : 0 < storeLength
deriving DecidableEq, Repr

/-- A field of `part_field_array`: `partOfKey` is whether `active_index` has the whole field. -/
structure PartField where
  fieldIndex : Nat
  partOfKey : Bool
deriving DecidableEq, Repr

/-- What a scan knows of the table: its partitions, its partitioning columns with `num_columns`,
and the parts of the active index. No column is twice in either list. -/
structure PartTable where
  numPartitionsUsed : Nat
  totPartitions : Nat
  partFieldArray : List PartField
  numColumns : Nat
  keyParts : List KeyPart
  numColumns_le : numColumns ≤ partFieldArray.length
  fields_nodup : (partFieldArray.map PartField.fieldIndex).Nodup
  keyParts_nodup : (keyParts.map KeyPart.fieldIndex).Nodup
deriving DecidableEq, Repr

/-- The flags of `ha_rkey_function` that a range has at its ends. -/
inductive HaRkeyFunction
  | readKeyExact
  | readKeyOrNext
  | readAfterKey
  | readBeforeKey
deriving DecidableEq, Repr

/-- `key_range`: behind the `length` bytes of the key stands whatever the memory holds. -/
structure KeyRange where
  key : Mem UInt8
  length : Nat
  keypartMap : Nat
  flag : HaRkeyFunction

/-- The partitioning columns that the engine looks at. -/
def PartTable.partFields (table : PartTable) : List PartField :=
  table.partFieldArray.take table.numColumns

/-- The part is in the list of these columns. -/
def PartTable.parts (table : PartTable) (part : KeyPart) : Bool :=
  table.partFields.any fun field => field.fieldIndex = part.fieldIndex

/-! ## The functions -/

/-- The table's side of `need_prune_partitions_by_engine`. -/
def PartTable.prunable (table : PartTable) : Bool :=
  table.numPartitionsUsed = table.totPartitions && table.partFields.all (·.partOfKey)

/-- `need_prune_partitions_by_engine`. -/
def needPrunePartitionsByEngine (table : PartTable) (startKey endKey : Option KeyRange) : Bool :=
  match startKey, endKey with
  | some start, some _ => table.prunable && start.flag ≠ .readKeyExact
  | _, _ => false

/-- The loop of `equal_range_on_part_field` from key part `i` on. -/
def equalRangeLoop (table : PartTable) (start stop : KeyRange) :
    List KeyPart → Nat → Nat → Bool
  | [], _, _ => true
  | part :: rest, i, offset =>
    if start.length ≤ offset then false
    else if table.parts part = false then equalRangeLoop table start stop rest (i + 1) offset
    else if start.key.read offset part.length ≠ stop.key.read offset part.length then false
    else equalRangeLoop table start stop rest (i + 1)
      (if start.keypartMap.testBit i then offset + part.length else offset)

/-- `equal_range_on_part_field`. -/
def equalRangeOnPartField (table : PartTable) (start stop : KeyRange) : Bool :=
  equalRangeLoop table start stop table.keyParts 0 0

/-! ## Where the loop stands -/

/-- How far the comparison steps for a key part that the start key has. -/
def PartTable.advance (table : PartTable) (part : KeyPart) : Nat :=
  if table.parts part then part.length else 0

/-- The offset at key part `i` if the start key has `m` parts. -/
def PartTable.offsetAt (table : PartTable) (m i : Nat) : Nat :=
  ((table.keyParts.take (min i m)).map table.advance).sum

/-- Where key part `i` stands in a key. -/
def PartTable.storeAt (table : PartTable) (i : Nat) : Nat :=
  ((table.keyParts.take i).map KeyPart.storeLength).sum

/-- A key with the first `m` parts of the index. -/
structure KeyRange.Covers (range : KeyRange) (table : PartTable) (m : Nat) : Prop where
  length_eq : range.length = table.storeAt m
  keypartMap_eq : range.keypartMap = 2 ^ m - 1

variable {table : PartTable} {start stop : KeyRange} {m n : Nat}

theorem KeyRange.Covers.testBit (h : start.Covers table m) (i : Nat) :
    start.keypartMap.testBit i = decide (i < m) := by
  rw [h.keypartMap_eq, Nat.testBit_two_pow_sub_one]

/-- The loop passes key part `i`. -/
def PartTable.Passes (table : PartTable) (start stop : KeyRange) (m i : Nat) (part : KeyPart) :
    Prop :=
  table.offsetAt m i < table.storeAt m ∧ (table.parts part = true →
    start.key.read (table.offsetAt m i) part.length =
      stop.key.read (table.offsetAt m i) part.length)

theorem PartTable.storeAt_succ {i : Nat} {part : KeyPart}
    (hpart : table.keyParts[i]? = some part) :
    table.storeAt (i + 1) = table.storeAt i + part.storeLength := by
  unfold PartTable.storeAt
  rw [List.take_add_one, hpart, Option.toList_some, List.map_append, List.sum_append,
    List.map_singleton, List.sum_singleton]

theorem PartTable.storeAt_mono : Monotone table.storeAt := by
  apply monotone_nat_of_le_succ
  intro i
  cases hpart : table.keyParts[i]? with
  | none =>
    unfold PartTable.storeAt
    rw [List.take_add_one, hpart, Option.toList_none, List.append_nil]
  | some part =>
    rw [PartTable.storeAt_succ hpart]
    exact Nat.le_add_right _ _

theorem PartTable.storeAt_lt {i : Nat} (hi : i < m) (hm : m ≤ table.keyParts.length) :
    table.storeAt i < table.storeAt m := by
  have hpart : table.keyParts[i]? = some (table.keyParts.get ⟨i, by omega⟩) :=
    List.getElem?_eq_getElem (by omega)
  have hpos := (table.keyParts.get ⟨i, by omega⟩).storeLength_pos
  have hnext : table.storeAt (i + 1) ≤ table.storeAt m := PartTable.storeAt_mono hi
  rw [PartTable.storeAt_succ hpart] at hnext
  omega

/-- The first `k` key parts are all columns that the engine looks at, with neither a null byte nor
length bytes. -/
def PartTable.Full (table : PartTable) (k : Nat) : Prop :=
  ∀ part ∈ table.keyParts.take k, table.parts part = true ∧ part.length = part.storeLength

instance (table : PartTable) (k : Nat) : Decidable (table.Full k) :=
  inferInstanceAs (Decidable (∀ part ∈ table.keyParts.take k, _))

theorem PartTable.Full.mono {k : Nat} (h : table.Full m) (hk : k ≤ m) : table.Full k := by
  intro part hpart
  exact h part ((List.take_subset_take_left _ hk) hpart)

theorem PartTable.advance_eq_iff (part : KeyPart) :
    table.advance part = part.storeLength ↔
      table.parts part = true ∧ part.length = part.storeLength := by
  have hpos := part.storeLength_pos
  unfold PartTable.advance
  cases table.parts part with
  | false =>
    simp
    omega
  | true => simp

/-- While all parts are full the offset is the place of the key part. -/
theorem PartTable.Full.offsetAt_eq {i : Nat} (h : table.Full i) (hi : i ≤ m) :
    table.offsetAt m i = table.storeAt i := by
  unfold PartTable.offsetAt PartTable.storeAt
  rw [Nat.min_eq_left hi]
  congr 1
  apply List.map_congr_left
  intro part hpart
  exact (PartTable.advance_eq_iff part).mpr (h part hpart)

section

variable {K : Type} (val : KeyPart → List UInt8 → K)

/-- The values of the key parts in a key image that starts at `off`. -/
def keyValues (key : Mem UInt8) : List KeyPart → Nat → List K
  | [], _ => []
  | part :: rest, off =>
    val part (key.read off part.storeLength) :: keyValues key rest (off + part.storeLength)

/-- The values of a key with the first `m` parts. -/
def KeyRange.values (range : KeyRange) (table : PartTable) (m : Nat) : List K :=
  keyValues val range.key (table.keyParts.take m) 0

/-- A row: its values in the key parts and in the columns. -/
structure IndexRow (K : Type) where
  keys : List K
  columns : Nat → K

/-- A partitioning column that is in the index as a whole has its value as the key part. -/
structure IndexRow.Of {K : Type} (row : IndexRow K) (table : PartTable) : Prop where
  length_eq : row.keys.length = table.keyParts.length
  columns_eq : ∀ field ∈ table.partFieldArray, field.partOfKey = true →
    ∀ (i : Nat) part, table.keyParts[i]? = some part → part.fieldIndex = field.fieldIndex →
      row.keys[i]? = some (row.columns field.fieldIndex)

/-- The row, given by its values in the key parts, lies between the keys. A key with fewer parts
is compared with as many values of the row. -/
def InRange [LinearOrder K] (low high : List K) (lowFlag highFlag : HaRkeyFunction)
    (row : List K) : Prop :=
  (match lowFlag with
    | .readKeyExact => low = row.take low.length
    | .readAfterKey => low < row.take low.length
    | _ => low ≤ row.take low.length) ∧
  (match highFlag with
    | .readBeforeKey => row.take high.length < high
    | _ => row.take high.length ≤ high)

variable {val}

/-- If the comparison passes the first `k` parts and these are full, the keys agree on them. -/
theorem PartTable.Full.bytes_eq {k : Nat} (h : table.Full k) (hk : k ≤ m)
    (hlen : k ≤ table.keyParts.length)
    (hpass : ∀ i part, table.keyParts[i]? = some part → table.Passes start stop m i part) (a : Nat)
    (ha : a < table.storeAt k) : start.key a = stop.key a := by
  induction k with
  | zero => cases ha
  | succ k ih =>
    have hfull : table.Full k := h.mono (Nat.le_succ k)
    have hpart : table.keyParts[k]? = some (table.keyParts.get ⟨k, hlen⟩) :=
      List.getElem?_eq_getElem hlen
    rw [PartTable.storeAt_succ hpart] at ha
    rcases Nat.lt_or_ge a (table.storeAt k) with hlt | hge
    · exact ih hfull (by omega) (by omega) hlt
    · obtain ⟨hin, hlength⟩ := h _ (List.mem_of_getElem? (by
        rw [List.getElem?_take_of_lt (Nat.lt_succ_self k)]
        exact hpart))
      obtain ⟨-, hread⟩ := hpass k _ hpart
      have hread := hread hin
      rw [hfull.offsetAt_eq (by omega), hlength] at hread
      have hbyte := congrArg (fun bytes => bytes[a - table.storeAt k]?) hread
      rw [Mem.getElem?_read _ (by omega), Mem.getElem?_read _ (by omega), Option.some.injEq,
        Nat.add_sub_cancel' hge] at hbyte
      exact hbyte

/-- The part is of a partitioning column, which the engine may look at or not. -/
def PartTable.partitions (table : PartTable) (part : KeyPart) : Bool :=
  table.partFieldArray.any fun field => field.fieldIndex = part.fieldIndex

section

variable {pre post : List KeyPart} {part : KeyPart} {image : List UInt8}

end

/-- The row with the given key values, and with `other` in the columns that are no key part. -/
def rowOf (table : PartTable) (other : K) (keys : List K) : IndexRow K where
  keys := keys
  columns columnId :=
    ((table.keyParts.findIdx? fun part => part.fieldIndex == columnId).bind (keys[·]?)).getD other

end

/-! ## Two integer columns -/

/-- The value of an integer column, lowest byte first. -/
def intValue (_ : KeyPart) (bytes : List UInt8) : Nat :=
  bytes.foldr (fun byte rest => byte.toNat + 256 * rest) 0

/-- An `INT NOT NULL` column as a key part. -/
def intPart (fieldIndex : Nat) : KeyPart := ⟨fieldIndex, 4, 4, Nat.le_refl 4, by decide⟩

/-- A table with two columns and an index on both, partitioned by column 1. -/
def intTable (first second : Nat) (hne : first ≠ second) : PartTable where
  numPartitionsUsed := 4
  totPartitions := 4
  partFieldArray := [⟨1, true⟩]
  numColumns := 1
  keyParts := [intPart first, intPart second]
  numColumns_le := le_rfl
  fields_nodup := List.nodup_singleton _
  keyParts_nodup := by simpa [intPart] using hne

/-- A range key with two integers below 256. -/
def intKey (first second : UInt8) (flag : HaRkeyFunction) : KeyRange :=
  ⟨fun a => [first, 0, 0, 0, second, 0, 0, 0].getD a 0, 8, 3, flag⟩

end CantianConnector.Partition
