import CantianConnector.Cbo.KeyReads

/-!
# Reads behind the end of a range key

`records_in_range` passes the two keys of a range to `calc_density_one_table`, each absent or an
image of the leading parts of the index. A byte behind the end of a key is read in three cases: the
NULL byte of a part that the lower key does not cover, the eight bytes of a DATE, and the text of a
VARCHAR whose offset is wrong (`keyReadsRight_iff`).
-/

namespace CantianConnector.Cbo

open CantianConnector.Convert CantianConnector.Index

/-! ## The keys of a range -/

/-- `ha_rkey_function`, as far as a range is concerned. -/
inductive HaRkeyFunction where
  | readKeyExact
  | readBeforeKey
  | readAfterKey
  | other
deriving DecidableEq, Repr

/-- `key_range` of the server. -/
structure MysqlKeyRange where
  key : Mem UInt8
  length : Nat
  keypartMap : Nat
  flag : HaRkeyFunction

/-- `ha_ctc::set_ctc_range_key`. -/
def setCtcRangeKey (mysqlRangeKey : Option MysqlKeyRange) (isMinKey : Bool) : CtcKey :=
  match mysqlRangeKey with
  | none => { key := none, cmpType := .null, len := 0, colMap := 0 }
  | some range =>
    { colMap := range.keypartMap
      key := some range.key
      len := range.length
      cmpType :=
        match range.flag with
        | .readKeyExact => .closeInternal
        | .readBeforeKey => .openInternal
        | .readAfterKey => if isMinKey then .openInternal else .closeInternal
        | .other => .null }

/-- The keys that `ha_ctc::records_in_range` passes on; `ha_ctcpart` does the same for each
partition. -/
def recordsInRangeKey (minKey maxKey : Option MysqlKeyRange) : CtcRangeKey :=
  let ctcMinKey := setCtcRangeKey minKey true
  let ctcMaxKey := setCtcRangeKey maxKey false
  if ctcMaxKey.len < ctcMinKey.len then ⟨ctcMinKey, { ctcMaxKey with cmpType := .null }⟩
  else if ctcMinKey.len < ctcMaxKey.len then ⟨{ ctcMinKey with cmpType := .null }, ctcMaxKey⟩
  else ⟨ctcMinKey, ctcMaxKey⟩

/-! ## What is read for a part -/

section

variable {env : CboEnv} {key : CtcRangeKey} {b : Bound} {part : KeyPart} {keyOffset : Nat}

/-- How far `strncpy` looks into the image for a VARCHAR. -/
def textScanned (env : CboEnv) (key : CtcRangeKey) (b : Bound) (part : KeyPart) (keyOffset : Nat) :
    Nat :=
  let image : Mem UInt8 := fun i => key.byte (b, i)
  let strKeyLen := Bytes.ofLe (image.read (keyOffset + part.nullLen) 2)
  Reads.scanned 0
    (image.read (keyOffset + 2 + part.nullLen) (min strKeyLen (env.cboStringMaxLen - 1)))

theorem CtcRangeKey.inBounds_iff (h : (key.side b).key.isSome = true) (i : Nat) :
    key.InBounds (b, i) ↔ i < (key.side b).len := by
  unfold CtcRangeKey.InBounds
  exact and_iff_right h

theorem keyLength_of_valid (hpart : part.Valid) (hblob : part.field.isBlob = false) :
    keyLength part.field.columnType + part.nullLen + (if part.isVar then 2 else 0) =
      part.storeLength := by
  have hstore := hpart.storeLength
  have hlength := hpart.length hblob
  omega

/-- But for a DATE, the bytes taken for a value that is no string are those of the part. -/
theorem valueWidth_le {c : ColumnType} (hdate : c ≠ .date) : valueWidth c ≤ keyLength c := by
  cases c with
  | date => exact absurd rfl hdate
  | bit n => exact Nat.min_le_left n 8
  | set n =>
    simp only [valueWidth, ColumnType.realType, keyLength]
    split
    · next h8 => exact h8.ge
    · split
      · exact Nat.le_refl _
      · exact Nat.zero_le _
  | enum n =>
    simp only [valueWidth, ColumnType.realType, keyLength]
    split
    · exact Nat.le_refl _
    · exact Nat.zero_le _
  | varchar n => exact Nat.zero_le _
  | string n padChar => exact Nat.zero_le _
  | blob n => exact Nat.le_refl 0
  | json => exact Nat.le_refl 0
  | _ => exact Nat.le_refl _

theorem valueWidth_fits (hpart : part.Valid)
    (hfit : keyOffset + part.storeLength ≤ (key.side b).len)
    (hdate : part.field.columnType ≠ .date) :
    keyOffset + part.nullLen + valueWidth part.field.columnType ≤ (key.side b).len := by
  have hstore := hpart.storeLength
  cases hblob : part.field.isBlob with
  | false =>
    have hlength := hpart.length hblob
    have hle := valueWidth_le hdate
    omega
  | true =>
    have hzero : valueWidth part.field.columnType = 0 := by
      unfold Field.isBlob at hblob
      split at hblob
      · next hc => rw [hc]; rfl
      · next hc => rw [hc]; rfl
      · cases hblob
    omega

theorem stringKeyLenReads_varchar {n : Nat} (hc : part.field.columnType = .varchar n) :
    (stringKeyLenReads b part keyOffset).value key.byte =
      (Bytes.ofLe (Mem.read (fun i => key.byte (b, i)) (keyOffset + part.nullLen) 2), 2) := by
  unfold stringKeyLenReads
  rw [hc]
  dsimp only
  rw [Reads.value_bind, Reads.value_block]
  rfl

/-- A CHAR is not longer than its part. -/
theorem exists_stringKeyLenReads_string (key : CtcRangeKey) (b : Bound) (keyOffset : Nat) {n : Nat}
    {padChar : UInt8} (hc : part.field.columnType = .string n padChar) :
    ∃ dataLen, dataLen ≤ n ∧
      (stringKeyLenReads b part keyOffset).value key.byte = (dataLen, 0) := by
  unfold stringKeyLenReads
  rw [hc]
  dsimp only
  rw [Reads.value_bind, Reads.value_trim]
  refine ⟨_, (List.dropWhile_sublist _).length_le.trans ?_, rfl⟩
  rw [List.length_reverse, Mem.length_read]

/-- The length of a string lies in the part. -/
theorem inBounds_stringKeyLenReads (hpart : part.Valid) (hkey : (key.side b).key.isSome = true)
    (hfit : keyOffset + part.storeLength ≤ (key.side b).len) :
    ∀ place ∈ (stringKeyLenReads b part keyOffset).places key.byte, key.InBounds place := by
  have hstore := hpart.storeLength
  unfold stringKeyLenReads
  cases hc : part.field.columnType with
  | varchar n =>
    have hvar : part.isVar = true := by simp [KeyPart.isVar, hc, ColumnType.type]
    rw [hvar, if_pos rfl] at hstore
    simp only [Reads.places_bind, Reads.places_done, List.append_nil,
      Reads.forall_places_block, CtcRangeKey.inBounds_iff hkey]
    intro i _ hi
    omega
  | string n padChar =>
    have hblob : part.field.isBlob = false := by
      unfold Field.isBlob
      rw [hc]
    have hlength := keyLength_of_valid hpart hblob
    rw [hc] at hlength
    have hn : keyLength (.string n padChar) = n := rfl
    intro place hplace
    simp only [Reads.places_bind, Reads.places_done, List.append_nil] at hplace
    obtain ⟨i, _, hi, rfl⟩ := Reads.mem_places_trim hplace
    rw [CtcRangeKey.inBounds_iff hkey]
    omega
  | _ =>
    intro place hplace
    cases hplace

theorem forall_within_iff {start n len : Nat} (h : start ≤ len) :
    (∀ i, start ≤ i → i < start + n → i < len) ↔ start + n ≤ len := by
  constructor
  · intro hall
    rcases Nat.eq_zero_or_pos n with rfl | hpos
    · exact h
    · have hlast := hall (start + n - 1) (by omega) (by omega)
      omega
  · intro hle i _ hi
    omega

/-- **The value of a part:** apart from the eight bytes of a DATE and the text of a VARCHAR, it is
read within the part. -/
theorem forall_places_extractKeyReads (cmpType : CmpType) (hpart : part.Valid)
    (hkey : (key.side b).key.isSome = true)
    (hfit : keyOffset + part.storeLength ≤ (key.side b).len) :
    (∀ place ∈ (extractKeyReads env b cmpType part keyOffset).places key.byte,
        key.InBounds place) ↔
      (part.field.columnType = .date → keyOffset + part.nullLen + 8 ≤ (key.side b).len) ∧
        (part.field.columnType.type = .varchar →
          keyOffset + 2 + part.nullLen + textScanned env key b part keyOffset ≤
            (key.side b).len) := by
  have hlen := inBounds_stringKeyLenReads hpart hkey hfit
  have hwidth := valueWidth_fits hpart hfit
  have hstore := hpart.storeLength
  have hfront : part.field.columnType.type = .varchar →
      keyOffset + 2 + part.nullLen ≤ (key.side b).len := by
    intro htype
    rw [show part.isVar = true by simp [KeyPart.isVar, htype], if_pos rfl] at hstore
    omega
  unfold extractKeyReads
  simp only [Reads.places_bind, Reads.places_done, List.append_nil, List.forall_mem_append]
  rw [and_iff_right hlen]
  unfold extractValueReads
  cases hc : part.field.columnType with
  | varchar n =>
    rw [stringKeyLenReads_varchar hc]
    simp only [ColumnType.realType, ColumnType.type, Reads.places_bind, Reads.places_done,
      List.append_nil, Reads.forall_places_upTo, CtcRangeKey.inBounds_iff hkey, reduceCtorEq,
      false_implies, true_and, true_implies]
    rw [hc] at hfront
    exact forall_within_iff (hfront rfl)
  | string n padChar =>
    obtain ⟨dataLen, hle, hvalue⟩ := exists_stringKeyLenReads_string key b keyOffset hc
    rw [hvalue]
    simp only [ColumnType.realType, ColumnType.type, Reads.places_bind, Reads.places_done,
      List.append_nil, Reads.forall_places_upTo, CtcRangeKey.inBounds_iff hkey, reduceCtorEq,
      false_implies, true_and, iff_true]
    intro i _ hi
    have hscanned := Reads.scanned_le 0
      (Mem.read (fun i => key.byte (b, i)) (keyOffset + 0 + part.nullLen)
        (min dataLen (env.cboStringMaxLen - 1)))
    rw [Mem.length_read] at hscanned
    have hcell := keyLength_of_valid hpart (by unfold Field.isBlob; rw [hc])
    rw [hc] at hcell
    have hn : keyLength (.string n padChar) = n := rfl
    omega
  | date =>
    have hvalue : (stringKeyLenReads b part keyOffset).value key.byte = (0, 0) := by
      unfold stringKeyLenReads
      rw [hc]
      rfl
    rw [hvalue]
    simp only [ColumnType.realType, ColumnType.type, Reads.places_bind, Reads.places_done,
      List.append_nil, Reads.forall_places_block, CtcRangeKey.inBounds_iff hkey, reduceCtorEq,
      false_implies, and_true, true_implies]
    exact forall_within_iff (by omega)
  | _ =>
    have hvalue : (stringKeyLenReads b part keyOffset).value key.byte = (0, 0) := by
      unfold stringKeyLenReads
      rw [hc]
      rfl
    rw [hc] at hwidth
    rw [hvalue]
    simp only [ColumnType.realType, ColumnType.type, Reads.places_bind, Reads.places_done,
      List.append_nil, Reads.forall_places_block, CtcRangeKey.inBounds_iff hkey, reduceCtorEq,
      false_implies, and_true, iff_true]
    intro i _ hi
    have hle := hwidth (by exact ColumnType.noConfusion)
    omega

end

/-! ## Keys on leading parts -/

/-- A key that the optimizer passes: an image of the first `count` parts of the index. -/
structure PrefixKey (parts : List KeyPart) extends MysqlKeyRange where
  count : Nat
  count_le : count ≤ parts.length
  keypartMap_eq : keypartMap = 2 ^ count - 1
  length_eq : length = storeAt parts count
  /-- The text of a VARCHAR is no longer than its part. -/
  varchar_le : ∀ i part, parts[i]? = some part → i < count →
    part.field.columnType.type = .varchar →
    (part.isNullable = true → key (storeAt parts i) ≠ 1) →
    Bytes.ofLe (key.read (storeAt parts i + part.nullLen) 2) ≤ part.length

/-- The number of parts that a key covers. -/
def keyCount {parts : List KeyPart} (key : Option (PrefixKey parts)) : Nat :=
  match key with
  | none => 0
  | some key => key.count

/-- The two keys, for an index and what the optimizer passes. -/
def rangeKey {parts : List KeyPart} (minKey maxKey : Option (PrefixKey parts)) : CtcRangeKey :=
  recordsInRangeKey (minKey.map PrefixKey.toMysqlKeyRange) (maxKey.map PrefixKey.toMysqlKeyRange)

/-- What `records_in_range` says about its two keys. -/
structure RangeFits (parts : List KeyPart) (key : CtcRangeKey) (count : Bound → Nat) : Prop where
  absent : ∀ b, (key.side b).key = none → count b = 0 ∧ (key.side b).cmpType = .null
  len : ∀ b, (key.side b).len = storeAt parts (count b)
  count_le : ∀ b, count b ≤ parts.length
  colMap : ∀ b, (key.side b).colMap = 2 ^ count b - 1
  shorter : ∀ b b', count b < count b' → (key.side b).cmpType = .null
  varchar_le : ∀ b i part, parts[i]? = some part → i < count b →
    part.field.columnType.type = .varchar →
    (part.isNullable = true → key.byte (b, storeAt parts i) ≠ 1) →
    Bytes.ofLe (Mem.read (fun j => key.byte (b, j)) (storeAt parts i + part.nullLen) 2) ≤
      part.length

section

variable {parts : List KeyPart} {minKey maxKey : Option (PrefixKey parts)}

/-- What the optimizer passes at a bound. -/
def boundKey (minKey maxKey : Option (PrefixKey parts)) : Bound → Option (PrefixKey parts)
  | .min => minKey
  | .max => maxKey

/-- The counts of the two keys. -/
def keyCounts (minKey maxKey : Option (PrefixKey parts)) (b : Bound) : Nat :=
  keyCount (boundKey minKey maxKey b)

theorem setCtcRangeKey_spec (key : Option (PrefixKey parts)) (isMinKey : Bool) :
    (setCtcRangeKey (key.map PrefixKey.toMysqlKeyRange) isMinKey).key =
        key.map (fun key => key.key) ∧
      (setCtcRangeKey (key.map PrefixKey.toMysqlKeyRange) isMinKey).len =
        storeAt parts (keyCount key) ∧
      (setCtcRangeKey (key.map PrefixKey.toMysqlKeyRange) isMinKey).colMap =
        2 ^ keyCount key - 1 ∧
      (key = none →
        (setCtcRangeKey (key.map PrefixKey.toMysqlKeyRange) isMinKey).cmpType = .null) := by
  cases key with
  | none => exact ⟨rfl, rfl, rfl, fun _ => rfl⟩
  | some key => exact ⟨rfl, key.length_eq, key.keypartMap_eq, fun h => by cases h⟩

/-- The key of a bound: `records_in_range` changes its comparison type only, and sets that of the
shorter key to NULL. -/
theorem rangeKey_side (minKey maxKey : Option (PrefixKey parts)) (b : Bound) :
    ((rangeKey minKey maxKey).side b).key = (boundKey minKey maxKey b).map (fun key => key.key) ∧
      ((rangeKey minKey maxKey).side b).len = storeAt parts (keyCounts minKey maxKey b) ∧
      ((rangeKey minKey maxKey).side b).colMap = 2 ^ keyCounts minKey maxKey b - 1 ∧
      (boundKey minKey maxKey b = none → ((rangeKey minKey maxKey).side b).cmpType = .null) ∧
      ∀ b', storeAt parts (keyCounts minKey maxKey b) < storeAt parts (keyCounts minKey maxKey b') →
        ((rangeKey minKey maxKey).side b).cmpType = .null := by
  obtain ⟨hminKey, hminLen, hminMap, hminNull⟩ := setCtcRangeKey_spec minKey true
  obtain ⟨hmaxKey, hmaxLen, hmaxMap, hmaxNull⟩ := setCtcRangeKey_spec maxKey false
  unfold rangeKey recordsInRangeKey
  dsimp only
  rw [hminLen, hmaxLen]
  by_cases hlt : storeAt parts (keyCount maxKey) < storeAt parts (keyCount minKey)
  · rw [if_pos hlt]
    cases b with
    | min =>
      refine ⟨hminKey, hminLen, hminMap, hminNull, fun b' h => ?_⟩
      cases b' with
      | min => exact absurd h (Nat.lt_irrefl _)
      | max => exact absurd h (Nat.lt_asymm hlt)
    | max => exact ⟨hmaxKey, rfl, hmaxMap, fun _ => rfl, fun _ _ => rfl⟩
  rw [if_neg hlt]
  by_cases hgt : storeAt parts (keyCount minKey) < storeAt parts (keyCount maxKey)
  · rw [if_pos hgt]
    cases b with
    | min => exact ⟨hminKey, rfl, hminMap, fun _ => rfl, fun _ _ => rfl⟩
    | max =>
      refine ⟨hmaxKey, hmaxLen, hmaxMap, hmaxNull, fun b' h => ?_⟩
      cases b' with
      | min => exact absurd h hlt
      | max => exact absurd h (Nat.lt_irrefl _)
  · rw [if_neg hgt]
    cases b with
    | min =>
      refine ⟨hminKey, hminLen, hminMap, hminNull, fun b' h => ?_⟩
      cases b' with
      | min => exact absurd h (Nat.lt_irrefl _)
      | max => exact absurd h hgt
    | max =>
      refine ⟨hmaxKey, hmaxLen, hmaxMap, hmaxNull, fun b' h => ?_⟩
      cases b' with
      | min => exact absurd h hlt
      | max => exact absurd h (Nat.lt_irrefl _)

theorem keyCounts_le (b : Bound) : keyCounts minKey maxKey b ≤ parts.length := by
  unfold keyCounts keyCount
  cases boundKey minKey maxKey b with
  | none => exact Nat.zero_le _
  | some key => exact key.count_le

theorem rangeKey_fits (hparts : ∀ part ∈ parts, part.Valid) :
    RangeFits parts (rangeKey minKey maxKey) (keyCounts minKey maxKey) where
  absent b h := by
    obtain ⟨hkey, -, -, hnull, -⟩ := rangeKey_side minKey maxKey b
    rw [hkey, Option.map_eq_none_iff] at h
    refine ⟨?_, hnull h⟩
    unfold keyCounts
    rw [h]
    rfl
  len b := (rangeKey_side minKey maxKey b).2.1
  count_le := keyCounts_le
  colMap b := (rangeKey_side minKey maxKey b).2.2.1
  shorter b b' h :=
    (rangeKey_side minKey maxKey b).2.2.2.2 b' (storeAt_lt hparts h (keyCounts_le b'))
  varchar_le b i part hpart hi htype hnotNull := by
    obtain ⟨hkey, -⟩ := rangeKey_side minKey maxKey b
    unfold keyCounts keyCount at hi
    cases hb : boundKey minKey maxKey b with
    | none =>
      rw [hb] at hi
      exact absurd hi (Nat.not_lt_zero i)
    | some prefixKey =>
      rw [hb] at hi hkey
      rw [CtcRangeKey.byte_eq hkey]
      refine prefixKey.varchar_le i part hpart hi htype fun hnullable => ?_
      have hbyte : (rangeKey minKey maxKey).byte (b, storeAt parts i) =
          prefixKey.key (storeAt parts i) :=
        congrFun (CtcRangeKey.byte_eq hkey) (storeAt parts i)
      rw [← hbyte]
      exact hnotNull hnullable

end

/-! ## What is read in a run -/

/-- The comparison type of a key for part `id`. -/
def boundaryType (key : CtcRangeKey) (id : Nat) : Bound → CmpType
  | .min => (setKeyBoundaryTypes key id).1
  | .max => (setKeyBoundaryTypes key id).2

/-- The value of a part is taken from a key: the key has a comparison type for it and does not hold
NULL. -/
def ValueRead (key : CtcRangeKey) (b : Bound) (id : Nat) (part : KeyPart) (keyOffset : Nat) :
    Prop :=
  boundaryType key id b ≠ .null ∧ ¬(part.isNullable = true ∧ key.byte (b, keyOffset) = 1)

section

variable {env : CboEnv} {key : CtcRangeKey} {parts : List KeyPart} {count : Bound → Nat}
  {part : KeyPart} {i : Nat} {b : Bound}

/-- A key that has a comparison type for a part of the longer key covers the part. -/
theorem RangeFits.covers (hfits : RangeFits parts key count)
    (hi : i < max (count .min) (count .max)) (htype : boundaryType key i b ≠ .null) :
    (key.side b).key.isSome = true ∧ i < count b := by
  have hbit : ∀ b, (key.side b).colMap.testBit i = decide (i < count b) := by
    intro b
    rw [hfits.colMap b, Nat.testBit_two_pow_sub_one]
  have hminBit : key.minKey.colMap.testBit i = decide (i < count .min) := hbit .min
  have hmaxBit : key.maxKey.colMap.testBit i = decide (i < count .max) := hbit .max
  have hcount : i < count b := by
    by_contra hle
    have hshort : (key.side b).cmpType = .null := by
      cases b with
      | min => exact hfits.shorter .min .max (by omega)
      | max => exact hfits.shorter .max .min (by omega)
    have hboth : ¬(key.minKey.colMap.testBit i = true ∧ key.maxKey.colMap.testBit i = true ∧
        (key.minKey.colMap.testBit (i + 1) = true ∨ key.maxKey.colMap.testBit (i + 1) = true)) := by
      rintro ⟨hmin, hmax, -⟩
      rw [hminBit, decide_eq_true_eq] at hmin
      rw [hmaxBit, decide_eq_true_eq] at hmax
      cases b with
      | min => exact hle hmin
      | max => exact hle hmax
    apply htype
    unfold boundaryType setKeyBoundaryTypes
    rw [if_neg hboth]
    cases b with
    | min => exact hshort
    | max => exact hshort
  refine ⟨?_, hcount⟩
  cases hkey : (key.side b).key with
  | none =>
    have hzero := (hfits.absent b hkey).1
    omega
  | some image => rfl

/-- A part that a key covers ends within the key, also if its offset is too small. -/
theorem RangeFits.within (hfits : RangeFits parts key count)
    (hparts : ∀ part ∈ parts, part.Valid) (hpart : parts[i]? = some part) (hi : i < count b) :
    offsetAt parts i + part.storeLength ≤ (key.side b).len := by
  have hoffset := (offsetAt_eq_storeAt_iff hparts i).1
  have hnext := storeAt_succ hpart
  have hle : storeAt parts (i + 1) ≤ storeAt parts (count b) := by
    rcases Nat.lt_or_eq_of_le hi with hlt | heq
    · exact (storeAt_lt hparts hlt (hfits.count_le b)).le
    · rw [← heq]
  rw [hfits.len b]
  omega

/-- At its own place, the text of a VARCHAR ends within the part. -/
theorem RangeFits.text_within (hfits : RangeFits parts key count)
    (hparts : ∀ part ∈ parts, part.Valid) (hpart : parts[i]? = some part) (hi : i < count b)
    (htype : part.field.columnType.type = .varchar)
    (hplace : offsetAt parts i = storeAt parts i)
    (hnotNull : ¬(part.isNullable = true ∧ key.byte (b, offsetAt parts i) = 1)) :
    offsetAt parts i + 2 + part.nullLen + textScanned env key b part (offsetAt parts i) ≤
      (key.side b).len := by
  have hwithin := hfits.within hparts hpart hi
  have hstore := (hparts part (List.mem_of_getElem? hpart)).storeLength
  have hvar : part.isVar = true := by simp [KeyPart.isVar, htype]
  rw [hvar, if_pos rfl] at hstore
  rw [hplace] at hnotNull hwithin ⊢
  have hlength := hfits.varchar_le b i part hpart hi htype fun hnullable hbyte =>
    hnotNull ⟨hnullable, hbyte⟩
  have hscanned : textScanned env key b part (storeAt parts i) ≤
      Bytes.ofLe (Mem.read (fun j => key.byte (b, j)) (storeAt parts i + part.nullLen) 2) := by
    refine (Reads.scanned_le _ _).trans ?_
    rw [Mem.length_read]
    exact Nat.min_le_left _ _
  omega

variable (env key parts part i)

/-- The eight bytes of a DATE end within the key. -/
def DateOk (b : Bound) : Prop :=
  part.field.columnType = .date →
    offsetAt parts i + part.nullLen + 8 ≤ (key.side b).len

/-- The text of a VARCHAR behind a virtual column or a BLOB ends within the key. -/
def TextOk (b : Bound) : Prop :=
  part.field.columnType.type = .varchar → (∃ front ∈ parts.take i, stored front = false) →
    offsetAt parts i + 2 + part.nullLen + textScanned env key b part (offsetAt parts i) ≤
      (key.side b).len

/-- What part `i` needs for its bytes to lie in the keys. -/
structure PartOk : Prop where
  nullByte : part.isNullable = true → key.minKey.key.isSome = true →
    offsetAt parts i < key.minKey.len
  date : ∀ b, ValueRead key b i part (offsetAt parts i) → DateOk key parts part i b
  text : ∀ b, ValueRead key b i part (offsetAt parts i) → TextOk env key parts part i b

variable {env key parts part i}

theorem RangeFits.forall_places_extractBoundary (env : CboEnv) (hfits : RangeFits parts key count)
    (hparts : ∀ part ∈ parts, part.Valid) (hpart : parts[i]? = some part)
    (hi : i < max (count .min) (count .max)) (b : Bound) (value : CacheVariant) :
    (∀ place ∈ (extractBoundaryReads env b (key.side b) (boundaryType key i b) part value
        (offsetAt parts i)).places key.byte, key.InBounds place) ↔
      (ValueRead key b i part (offsetAt parts i) →
        DateOk key parts part i b ∧ TextOk env key parts part i b) := by
  unfold extractBoundaryReads
  by_cases htype : boundaryType key i b = .null
  · rw [if_pos htype]
    exact ⟨fun _ hread => absurd htype hread.1, fun _ place hplace => by cases hplace⟩
  rw [if_neg htype]
  obtain ⟨hkey, hcount⟩ := hfits.covers hi htype
  have hvalid := hparts part (List.mem_of_getElem? hpart)
  have hwithin := hfits.within hparts hpart hcount
  have hpos := hvalid.storeLength_pos
  -- in front of the part nothing is skipped, or the condition on the text is needed
  have hvalue : ¬(part.isNullable = true ∧ key.byte (b, offsetAt parts i) = 1) →
      ((∀ place ∈ (extractKeyReads env b (boundaryType key i b) part (offsetAt parts i)).places
          key.byte, key.InBounds place) ↔
        DateOk key parts part i b ∧ TextOk env key parts part i b) := by
    intro hnotNull
    rw [forall_places_extractKeyReads _ hvalid hkey hwithin]
    refine and_congr_right fun _ => ⟨fun h htype _ => h htype, fun h htype => ?_⟩
    by_cases hfront : ∃ front ∈ parts.take i, stored front = false
    · exact h htype hfront
    · push Not at hfront
      have hplace := (offsetAt_eq_storeAt_iff hparts i).2.mpr fun front hmem => by
        simpa using hfront front hmem
      exact hfits.text_within hparts hpart hcount htype hplace hnotNull
  rw [if_neg (by rw [Option.isNone_iff_eq_none]; intro h; rw [h] at hkey; cases hkey)]
  by_cases hnullable : part.isNullable = true
  · rw [if_pos hnullable, Reads.places_cell, List.forall_mem_cons,
      CtcRangeKey.inBounds_iff hkey, and_iff_right (by omega)]
    by_cases hone : key.byte (b, offsetAt parts i) = 1
    · rw [if_pos hone]
      exact ⟨fun _ hread => absurd ⟨hnullable, hone⟩ hread.2,
        fun _ place hplace => by cases hplace⟩
    · rw [if_neg hone, hvalue fun h => hone h.2]
      exact ⟨fun h _ => h, fun h => h ⟨htype, fun h => hone h.2⟩⟩
  · rw [if_neg hnullable, hvalue fun h => hnullable h.1]
    exact ⟨fun h _ => h, fun h => h ⟨htype, fun h => hnullable h.1⟩⟩

theorem RangeFits.forall_places_densityByCond (env : CboEnv) (hfits : RangeFits parts key count)
    (hparts : ∀ part ∈ parts, part.Valid) (hpart : parts[i]? = some part)
    (hi : i < max (count .min) (count .max)) (colStat : StatsColumn) (cs : CharsetInfo) :
    (∀ place ∈ (densityByCondReads env colStat part key (boundaryType key i .min)
        (boundaryType key i .max) (offsetAt parts i) cs).places key.byte, key.InBounds place) ↔
      ∀ b, ValueRead key b i part (offsetAt parts i) →
        DateOk key parts part i b ∧ TextOk env key parts part i b := by
  have hmin := hfits.forall_places_extractBoundary env hparts hpart hi .min
    colStat.lowValue
  have hmax := hfits.forall_places_extractBoundary env hparts hpart hi .max
    colStat.highValue
  unfold densityByCondReads
  simp only [Reads.places_bind, Reads.places_done, List.append_nil, List.forall_mem_append]
  refine (and_congr hmin hmax).trans ⟨fun h b => ?_, fun h => ⟨h .min, h .max⟩⟩
  cases b with
  | min => exact h.1
  | max => exact h.2

theorem forall_places_nullAtReads (b : Bound) (keyOffset : Nat) :
    (∀ place ∈ (nullAtReads key b keyOffset).places key.byte, key.InBounds place) ↔
      ((key.side b).key.isSome = true → keyOffset < (key.side b).len) := by
  unfold nullAtReads
  cases hkey : (key.side b).key with
  | none => simp
  | some image =>
    have hsome : (key.side b).key.isSome = true := by rw [hkey]; rfl
    simp [CtcRangeKey.inBounds_iff hsome]

theorem CtcRangeKey.nullAt_iff (key : CtcRangeKey) (b : Bound) (keyOffset : Nat) :
    (key.side b).nullAt keyOffset = true ↔
      (key.side b).key.isSome = true ∧ key.byte (b, keyOffset) = 1 := by
  unfold CtcKey.nullAt CtcRangeKey.byte
  cases (key.side b).key with
  | none => simp
  | some image => simp

theorem partOk_iff :
    PartOk env key parts part i ↔
      (part.isNullable = true → key.minKey.key.isSome = true →
        offsetAt parts i < key.minKey.len) ∧
      ∀ b, ValueRead key b i part (offsetAt parts i) →
        DateOk key parts part i b ∧ TextOk env key parts part i b :=
  ⟨fun h => ⟨h.nullByte, fun b hread => ⟨h.date b hread, h.text b hread⟩⟩,
    fun h => ⟨h.1, fun b hread => (h.2 b hread).1, fun b hread => (h.2 b hread).2⟩⟩

/-- **The bytes of a part** lie in the keys exactly if the part meets its condition. -/
theorem RangeFits.forall_places_partReads {cboStats : StatsTable} {fields : List Field}
    {charset : Nat → CharsetInfo} (hfits : RangeFits parts key count)
    (hparts : ∀ part ∈ parts, part.Valid) {indexPart : IndexPart}
    (hpart : parts[i]? = some indexPart.part) (hi : i < max (count .min) (count .max)) :
    (∀ place ∈ (partReads env cboStats fields charset key indexPart i (offsetAt parts i)).places
        key.byte, key.InBounds place) ↔ PartOk env key parts indexPart.part i := by
  have hcond := fun colStat cs =>
    hfits.forall_places_densityByCond env hparts hpart hi colStat cs
  have hpos := (hparts _ (List.mem_of_getElem? hpart)).storeLength_pos
  have hnullByte : (∀ place ∈ (if indexPart.part.isNullable then
        nullAtReads key .min (offsetAt parts i) else .done false : KeyReads Bool).places key.byte,
        key.InBounds place) ↔
      (indexPart.part.isNullable = true → key.minKey.key.isSome = true →
        offsetAt parts i < key.minKey.len) := by
    cases indexPart.part.isNullable with
    | false => simp
    | true =>
      rw [if_pos rfl, forall_places_nullAtReads]
      exact ⟨fun h _ => h, fun h => h rfl⟩
  rw [partOk_iff]
  unfold partReads columnSelectivityReads
  dsimp only
  rw [Reads.places_bind, List.forall_mem_append, hnullByte, minNullReads_value]
  refine and_congr_right fun _ => ?_
  cases hnull : indexPart.part.isNullable && key.minKey.nullAt (offsetAt parts i) with
  | false =>
    rw [if_neg fun h => Bool.false_ne_true h.1]
    exact hcond _ _
  | true =>
    obtain ⟨hnullable, hmin⟩ := Bool.and_eq_true_iff.mp hnull
    obtain ⟨-, hminOne⟩ := (key.nullAt_iff .min _).mp hmin
    -- the lower key holds NULL: nothing else of it is read
    have hminNo : ¬ValueRead key .min i indexPart.part (offsetAt parts i) := fun hread =>
      hread.2 ⟨hnullable, hminOne⟩
    have hmaxOnly : (ValueRead key .max i indexPart.part (offsetAt parts i) → False) →
        ∀ b, ValueRead key b i indexPart.part (offsetAt parts i) →
          DateOk key parts indexPart.part i b ∧ TextOk env key parts indexPart.part i b := by
      intro hmaxNo b hread
      cases b with
      | min => exact absurd hread hminNo
      | max => exact absurd hread hmaxNo
    by_cases hend : key.maxKey.key.isNone = true ∨ key.maxKey.len ≤ offsetAt parts i
    · rw [if_pos ⟨rfl, hend⟩]
      refine ⟨fun _ => hmaxOnly fun hread => ?_, fun _ place hplace => by cases hplace⟩
      obtain ⟨hkey, hcount⟩ := hfits.covers hi hread.1
      have hwithin := hfits.within hparts hpart hcount
      rcases hend with hnone | hlen
      · rw [Option.isNone_iff_eq_none] at hnone
        rw [show (key.side .max).key = none from hnone] at hkey
        cases hkey
      · have hlen' : (key.side .max).len ≤ offsetAt parts i := hlen
        omega
    · have hmaxByte : (key.side .max).key.isSome = true →
          offsetAt parts i < (key.side .max).len :=
        fun _ => Nat.lt_of_not_le fun h => hend (Or.inr h)
      rw [if_neg fun h => hend h.2, if_pos rfl, Reads.places_bind, List.forall_mem_append,
        forall_places_nullAtReads, nullAtReads_value, and_iff_right hmaxByte]
      by_cases hmax : (key.side .max).nullAt (offsetAt parts i) = true
      · obtain ⟨-, hmaxOne⟩ := (key.nullAt_iff .max _).mp hmax
        rw [if_pos hmax]
        exact ⟨fun _ => hmaxOnly fun hread => hread.2 ⟨hnullable, hmaxOne⟩,
          fun _ place hplace => by cases hplace⟩
      · rw [if_neg hmax]
        exact hcond _ _

end

/-! ## The run -/

section

variable (env : CboEnv) (cboStats : StatsTable) (fields : List Field) (charset : Nat → CharsetInfo)

/-- The loop goes on behind a part: its bounds are equal, or one of the NULL tests holds. -/
def GoesOn (key : CtcRangeKey) (indexPart : IndexPart) (id keyOffset : Nat) : Prop :=
  ∃ selectivity, evaluatePart env cboStats fields charset key indexPart id keyOffset =
    .ok (selectivity, true)

/-- The loop passes over a part, or goes on behind it. -/
def Passed (key : CtcRangeKey) (indexPart : IndexPart) (id keyOffset : Nat) : Prop :=
  indexPart.part.field.isVirtualGcol = true ∨
    GoesOn env cboStats fields charset key indexPart id keyOffset

/-- The loop reaches part `i` of a list that it enters with `id` and `keyOffset`: the map has the
parts up to it, and those in front are passed. -/
structure ReachedFrom (key : CtcRangeKey) (validMap : Nat) (parts : List IndexPart)
    (id keyOffset i : Nat) : Prop where
  valid : ∀ j ≤ i, validMap.testBit (id + j) = true
  front : ∀ j < i, ∀ front, parts[j]? = some front →
    Passed env cboStats fields charset key front (id + j)
      (keyOffset + offsetAt (parts.map IndexPart.part) j)

variable {env cboStats fields charset} {key : CtcRangeKey} {validMap : Nat}

theorem reachedFrom_zero {parts : List IndexPart} {id keyOffset : Nat} :
    ReachedFrom env cboStats fields charset key validMap parts id keyOffset 0 ↔
      validMap.testBit id = true := by
  refine ⟨fun h => h.valid 0 (Nat.le_refl 0), fun h => ⟨fun j hj => ?_, fun j hj => ?_⟩⟩
  · obtain rfl := Nat.le_zero.mp hj
    exact h
  · exact absurd hj (Nat.not_lt_zero j)

theorem add_offsetAt_cons (head : IndexPart) (rest : List IndexPart) (keyOffset j : Nat) :
    keyOffset + offsetAt ((head :: rest).map IndexPart.part) (j + 1) =
      keyOffset + advance head.part + offsetAt (rest.map IndexPart.part) j := by
  simp only [offsetAt, List.map_cons, List.take_succ_cons, List.sum_cons]
  omega

theorem reachedFrom_succ {head : IndexPart} {rest : List IndexPart} {id keyOffset i : Nat} :
    ReachedFrom env cboStats fields charset key validMap (head :: rest) id keyOffset (i + 1) ↔
      validMap.testBit id = true ∧ Passed env cboStats fields charset key head id keyOffset ∧
        ReachedFrom env cboStats fields charset key validMap rest (id + 1)
          (keyOffset + advance head.part) i := by
  have hid : ∀ j, id + (j + 1) = id + 1 + j := fun j => by omega
  have hoffset := fun j => add_offsetAt_cons head rest keyOffset j
  constructor
  · intro h
    refine ⟨h.valid 0 (Nat.zero_le _), h.front 0 (Nat.succ_pos i) head rfl,
      fun j hj => ?_, fun j hj front hfront => ?_⟩
    · rw [← hid]
      exact h.valid (j + 1) (Nat.succ_le_succ hj)
    · rw [← hid, ← hoffset]
      exact h.front (j + 1) (Nat.succ_lt_succ hj) front hfront
  · rintro ⟨hvalid, hpassed, hrest⟩
    refine ⟨fun j hj => ?_, fun j hj front hfront => ?_⟩
    · cases j with
      | zero => exact hvalid
      | succ j =>
        rw [hid]
        exact hrest.valid j (Nat.le_of_succ_le_succ hj)
    · cases j with
      | zero =>
        obtain rfl := Option.some.inj hfront
        exact hpassed
      | succ j =>
        rw [hid, hoffset]
        exact hrest.front j (Nat.lt_of_succ_lt_succ hj) front hfront

/-- The parts that are reached are the first one, and those behind it if it is passed. -/
theorem forall_reachedFrom_cons_iff {q : Nat → IndexPart → Prop} {head : IndexPart}
    {rest : List IndexPart} {id keyOffset : Nat} :
    (∀ i indexPart, (head :: rest)[i]? = some indexPart →
        ReachedFrom env cboStats fields charset key validMap (head :: rest) id keyOffset i →
        q i indexPart) ↔
      (validMap.testBit id = true →
        q 0 head ∧
          (Passed env cboStats fields charset key head id keyOffset →
            ∀ i indexPart, rest[i]? = some indexPart →
              ReachedFrom env cboStats fields charset key validMap rest (id + 1)
                (keyOffset + advance head.part) i → q (i + 1) indexPart)) := by
  constructor
  · intro h hvalid
    refine ⟨h 0 head rfl (reachedFrom_zero.mpr hvalid), fun hpassed i indexPart hi hreached => ?_⟩
    exact h (i + 1) indexPart hi (reachedFrom_succ.mpr ⟨hvalid, hpassed, hreached⟩)
  · intro h i indexPart hi hreached
    cases i with
    | zero =>
      obtain rfl := Option.some.inj hi
      exact (h (reachedFrom_zero.mp hreached)).1
    | succ i =>
      obtain ⟨hvalid, hpassed, hrest⟩ := reachedFrom_succ.mp hreached
      exact (h hvalid).2 hpassed i indexPart hi hrest

/-- **Run of the loop:** the bytes that are read are those of the parts that it reaches. -/
theorem forall_places_densityLoopReads {p : Bound × Nat → Prop} {parts : List IndexPart}
    {id keyOffset : Nat} {density : Rat} :
    (∀ place ∈ (densityLoopReads env cboStats fields charset key validMap parts id keyOffset
        density).places key.byte, p place) ↔
      ∀ i indexPart, parts[i]? = some indexPart →
        ReachedFrom env cboStats fields charset key validMap parts id keyOffset i →
        indexPart.part.field.isVirtualGcol = false →
        ∀ place ∈ (partReads env cboStats fields charset key indexPart (id + i)
          (keyOffset + offsetAt (parts.map IndexPart.part) i)).places key.byte, p place := by
  induction parts generalizing id keyOffset density with
  | nil =>
    refine ⟨fun _ i indexPart h => ?_, fun _ place hplace => by cases hplace⟩
    rw [List.getElem?_nil] at h
    cases h
  | cons head rest ih =>
    have hid : ∀ j, id + 1 + j = id + (j + 1) := fun j => by omega
    have htail := @ih (id + 1) (keyOffset + advance head.part)
    simp only [hid, ← add_offsetAt_cons head rest] at htail
    rw [forall_reachedFrom_cons_iff, densityLoopReads]
    cases hvalid : validMap.testBit id with
    | false =>
      rw [if_pos rfl]
      exact ⟨fun _ h => absurd h Bool.false_ne_true, fun _ place hplace => by cases hplace⟩
    | true =>
      rw [if_neg (by exact Bool.noConfusion)]
      by_cases hvirtual : head.part.field.isVirtualGcol = true
      · have hadvance : advance head.part = 0 := by simp [advance, hvirtual]
        rw [hadvance, Nat.add_zero] at htail
        rw [if_pos hvirtual, hadvance, Nat.add_zero]
        refine ⟨fun h _ => ⟨fun hplain => ?_, fun _ => htail.mp h⟩, fun h => ?_⟩
        · exact absurd (hplain.symm.trans hvirtual) Bool.false_ne_true
        · exact htail.mpr ((h rfl).2 (Or.inl hvirtual))
      · have hadvance : advance head.part = partWidth head.part := by simp [advance, hvirtual]
        have hplain : head.part.field.isVirtualGcol = false := Bool.eq_false_iff.mpr hvirtual
        rw [hadvance] at htail
        rw [if_neg hvirtual, hadvance, Reads.places_bind, List.forall_mem_append, partReads_value]
        constructor
        · rintro ⟨hhead, hrest⟩ _
          refine ⟨fun _ => hhead, fun hpassed => ?_⟩
          obtain ⟨selectivity, hgoes⟩ := hpassed.resolve_left hvirtual
          rw [hgoes] at hrest
          exact htail.mp hrest
        · intro h
          obtain ⟨hhead, hrest⟩ := h rfl
          refine ⟨hhead hplain, ?_⟩
          cases hanswer : evaluatePart env cboStats fields charset key head id keyOffset with
          | error e => exact fun place hplace => by cases hplace
          | ok answer =>
            obtain ⟨selectivity, continueCalc⟩ := answer
            cases continueCalc with
            | false => exact fun place hplace => by cases hplace
            | true => exact htail.mpr (hrest (Or.inr ⟨selectivity, hanswer⟩))

end

section

variable (env : CboEnv) (cboStats : StatsTable) (fields : List Field) (charset : Nat → CharsetInfo)
  (parts : List IndexPart) (minKey maxKey : Option (PrefixKey (parts.map IndexPart.part)))

/-- Every byte that is read in a call lies in its key, and no absent key is read. -/
def KeyReadsRight : Prop :=
  let key := rangeKey minKey maxKey
  ∀ place ∈ (calcDensityReads env cboStats fields charset key parts).places key.byte,
    key.InBounds place

/-- The loop reaches part `i`, which is no virtual column: the table has rows, one of the keys
covers the part, and the loop passes the parts in front. -/
structure Reached (i : Nat) (indexPart : IndexPart) : Prop where
  rows : cboStats.estimateRows ≠ 0
  part : parts[i]? = some indexPart
  plain : indexPart.part.field.isVirtualGcol = false
  covered : i < max (keyCount minKey) (keyCount maxKey)
  front : ∀ j < i, ∀ front, parts[j]? = some front →
    Passed env cboStats fields charset (rangeKey minKey maxKey) front j
      (offsetAt (parts.map IndexPart.part) j)

/-- Every part that the loop reaches meets its condition. -/
def KeyReadsMeets : Prop :=
  ∀ i indexPart, Reached env cboStats fields charset parts minKey maxKey i indexPart →
    PartOk env (rangeKey minKey maxKey) (parts.map IndexPart.part) indexPart.part i

variable {env cboStats fields charset parts minKey maxKey}

/-- The parts in the map are those that the longer key covers. -/
theorem testBit_validMap (i : Nat) :
    (max (rangeKey minKey maxKey).minKey.colMap (rangeKey minKey maxKey).maxKey.colMap).testBit i =
      decide (i < max (keyCount minKey) (keyCount maxKey)) := by
  have hmin : (rangeKey minKey maxKey).minKey.colMap = 2 ^ keyCount minKey - 1 :=
    (rangeKey_side minKey maxKey .min).2.2.1
  have hmax : (rangeKey minKey maxKey).maxKey.colMap = 2 ^ keyCount maxKey - 1 :=
    (rangeKey_side minKey maxKey .max).2.2.1
  have hmap : max (2 ^ keyCount minKey - 1) (2 ^ keyCount maxKey - 1) =
      2 ^ max (keyCount minKey) (keyCount maxKey) - 1 := by
    rcases Nat.le_total (keyCount minKey) (keyCount maxKey) with hle | hle
    · have hpow := Nat.pow_le_pow_right (Nat.succ_pos 1) hle
      rw [Nat.max_eq_right hle, Nat.max_eq_right (Nat.sub_le_sub_right hpow 1)]
    · have hpow := Nat.pow_le_pow_right (Nat.succ_pos 1) hle
      rw [Nat.max_eq_left hle, Nat.max_eq_left (Nat.sub_le_sub_right hpow 1)]
  rw [hmin, hmax, hmap, Nat.testBit_two_pow_sub_one]

theorem reached_iff {i : Nat} {indexPart : IndexPart} (hrows : cboStats.estimateRows ≠ 0) :
    Reached env cboStats fields charset parts minKey maxKey i indexPart ↔
      parts[i]? = some indexPart ∧ indexPart.part.field.isVirtualGcol = false ∧
        ReachedFrom env cboStats fields charset (rangeKey minKey maxKey)
          (max (rangeKey minKey maxKey).minKey.colMap (rangeKey minKey maxKey).maxKey.colMap)
          parts 0 0 i := by
  constructor
  · intro h
    refine ⟨h.part, h.plain, fun j hj => ?_, fun j hj front hfront => ?_⟩
    · rw [Nat.zero_add, testBit_validMap, decide_eq_true_eq]
      exact Nat.lt_of_le_of_lt hj h.covered
    · rw [Nat.zero_add, Nat.zero_add]
      exact h.front j hj front hfront
  · rintro ⟨hpart, hplain, hreached⟩
    refine ⟨hrows, hpart, hplain, ?_, fun j hj front hfront => ?_⟩
    · have hvalid := hreached.valid i (Nat.le_refl i)
      rwa [Nat.zero_add, testBit_validMap, decide_eq_true_eq] at hvalid
    · have hpassed := hreached.front j hj front hfront
      rwa [Nat.zero_add, Nat.zero_add] at hpassed

/-- What a call reads is what it reads for the parts that it reaches. -/
theorem forall_places_calcDensityReads {p : Bound × Nat → Prop} :
    (∀ place ∈ (calcDensityReads env cboStats fields charset (rangeKey minKey maxKey) parts).places
        (rangeKey minKey maxKey).byte, p place) ↔
      ∀ i indexPart, Reached env cboStats fields charset parts minKey maxKey i indexPart →
        ∀ place ∈ (partReads env cboStats fields charset (rangeKey minKey maxKey) indexPart i
          (offsetAt (parts.map IndexPart.part) i)).places (rangeKey minKey maxKey).byte,
          p place := by
  unfold calcDensityReads
  dsimp only
  by_cases hrows : cboStats.estimateRows = 0
  · rw [if_pos hrows]
    exact ⟨fun _ i indexPart h => absurd hrows h.rows, fun _ place hplace => by cases hplace⟩
  rw [if_neg hrows, Reads.places_bind, Reads.places_done, List.append_nil,
    forall_places_densityLoopReads]
  constructor
  · intro h i indexPart hreached
    obtain ⟨hi, hplain, hfrom⟩ := (reached_iff hrows).mp hreached
    have hplaces := h i indexPart hi hfrom hplain
    rwa [Nat.zero_add, Nat.zero_add] at hplaces
  · intro h i indexPart hi hfrom hplain
    rw [Nat.zero_add, Nat.zero_add]
    exact h i indexPart ((reached_iff hrows).mpr ⟨hi, hplain, hfrom⟩)

/-- If the reads lie in the keys, the density does not depend on what stands behind them. -/
theorem density_eq_of_keyReadsRight
    (h : KeyReadsRight env cboStats fields charset parts minKey maxKey) {m : Bound × Nat → UInt8}
    (hm : ∀ place, (rangeKey minKey maxKey).InBounds place →
      (rangeKey minKey maxKey).byte place = m place) :
    (calcDensityOneTable env cboStats fields charset (rangeKey minKey maxKey) parts).2 =
      (calcDensityReads env cboStats fields charset (rangeKey minKey maxKey) parts).value m := by
  rw [← calcDensityReads_value]
  exact Reads.value_congr fun place hplace => hm place (h place hplace)

theorem Reached.forall_places_iff (hparts : ∀ indexPart ∈ parts, indexPart.part.Valid) {i : Nat}
    {indexPart : IndexPart}
    (h : Reached env cboStats fields charset parts minKey maxKey i indexPart) :
    (∀ place ∈ (partReads env cboStats fields charset (rangeKey minKey maxKey) indexPart i
        (offsetAt (parts.map IndexPart.part) i)).places (rangeKey minKey maxKey).byte,
        (rangeKey minKey maxKey).InBounds place) ↔
      PartOk env (rangeKey minKey maxKey) (parts.map IndexPart.part) indexPart.part i := by
  have hvalid : ∀ part ∈ parts.map IndexPart.part, part.Valid := by
    intro part hpart
    obtain ⟨indexPart, hmem, rfl⟩ := List.mem_map.mp hpart
    exact hparts indexPart hmem
  refine (rangeKey_fits hvalid).forall_places_partReads hvalid ?_ h.covered
  rw [List.getElem?_map, h.part]
  rfl

/-- **The reads of a call** lie in the two keys exactly if every part that is reached meets its
condition. -/
theorem keyReadsRight_iff (env : CboEnv) (cboStats : StatsTable) (fields : List Field)
    (charset : Nat → CharsetInfo) (parts : List IndexPart)
    (hparts : ∀ indexPart ∈ parts, indexPart.part.Valid)
    (minKey maxKey : Option (PrefixKey (parts.map IndexPart.part))) :
    KeyReadsRight env cboStats fields charset parts minKey maxKey ↔
      KeyReadsMeets env cboStats fields charset parts minKey maxKey := by
  unfold KeyReadsRight KeyReadsMeets
  dsimp only
  rw [forall_places_calcDensityReads]
  constructor
  · intro h i indexPart hreached
    exact (hreached.forall_places_iff hparts).mp (h i indexPart hreached)
  · intro h i indexPart hreached
    exact (hreached.forall_places_iff hparts).mpr (h i indexPart hreached)

end

/-! ## Two indexes -/

/-- A key on the only part of an index, no VARCHAR. -/
def onePartKey (part : KeyPart) (htype : part.field.columnType.type ≠ .varchar)
    (flag : HaRkeyFunction) : PrefixKey [part] where
  key := fun _ => 0
  length := storeAt [part] 1
  keypartMap := 1
  flag := flag
  count := 1
  count_le := Nat.le_refl 1
  keypartMap_eq := rfl
  length_eq := rfl
  varchar_le i part' hpart hi hvarchar := by
    obtain rfl : i = 0 := Nat.lt_one_iff.mp hi
    obtain rfl := Option.some.inj hpart
    exact absurd hvarchar htype

/-- `d DATE NOT NULL`. -/
def plainDate : IndexPart := ⟨⟨statsField .date, 3, 3, false, false⟩, 0⟩

theorem plainDate_valid : plainDate.part.Valid :=
  ⟨rfl, Nat.succ_pos 2, fun _ => rfl, fun h => absurd h Bool.false_ne_true⟩

/-- On an index `(c)` over an INT, the bounds of `c = x` are read within their four bytes. -/
theorem keyReadsRight_iff_int :
    KeyReadsRight plainEnv plainStats [] (fun _ => .binary) [plainInt]
      (some (onePartKey plainInt.part FieldType.noConfusion .readKeyExact))
      (some (onePartKey plainInt.part FieldType.noConfusion .readAfterKey)) := by
  refine (keyReadsRight_iff _ _ _ _ [plainInt] ?_ _ _).mpr fun i indexPart hreached => ?_
  · rw [List.forall_mem_singleton]
    exact intPart_valid rfl
  · obtain rfl := List.mem_singleton.mp (List.mem_of_getElem? hreached.part)
    refine ⟨fun h => absurd h Bool.false_ne_true, fun b _ hdate => ?_, fun b _ htype => ?_⟩
    · cases hdate
    · cases htype

/-- On an index `(d)` over a DATE, the bounds of `d = x` are read with eight bytes from keys of
three. -/
theorem not_keyReadsRight :
    plainDate.part.Valid ∧
      ¬KeyReadsRight plainEnv plainStats [] (fun _ => .binary) [plainDate]
        (some (onePartKey plainDate.part FieldType.noConfusion .readKeyExact))
        (some (onePartKey plainDate.part FieldType.noConfusion .readAfterKey)) := by
  refine ⟨plainDate_valid, fun hright => ?_⟩
  have hreached : Reached plainEnv plainStats [] (fun _ => .binary) [plainDate]
      (some (onePartKey plainDate.part FieldType.noConfusion .readKeyExact))
      (some (onePartKey plainDate.part FieldType.noConfusion .readAfterKey)) 0 plainDate :=
    ⟨Nat.one_ne_zero, rfl, rfl, Nat.one_pos, fun j hj => absurd hj (Nat.not_lt_zero j)⟩
  have hplaces := forall_places_calcDensityReads.mp hright 0 plainDate hreached
  have hparts : ∀ indexPart ∈ [plainDate], indexPart.part.Valid := by
    rw [List.forall_mem_singleton]
    exact plainDate_valid
  have hok := (hreached.forall_places_iff hparts).mp hplaces
  have hread : ValueRead (rangeKey
      (some (onePartKey plainDate.part FieldType.noConfusion .readKeyExact))
      (some (onePartKey plainDate.part FieldType.noConfusion .readAfterKey))) .min 0
      plainDate.part 0 :=
    ⟨by decide, fun h => Bool.false_ne_true h.1⟩
  have hdate : 8 ≤ 3 := hok.date .min hread rfl
  omega

end CantianConnector.Cbo
