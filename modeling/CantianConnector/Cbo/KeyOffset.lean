import CantianConnector.Cbo.Balance
import CantianConnector.Index.KeyParts

/-!
# Selectivity of a range of an index

`calc_density_one_table` multiplies the selectivities of the leading parts of an index. It reads
the bounds of a part from the images of the two keys, at an offset that it accumulates. The server
puts the parts at the sums of their store lengths (`storeAt`), but the loop passes over a virtual
column without adding its width, and adds no data width for a BLOB. The offset is right for a part
exactly if neither is in front of it (`evaluatedAt_storeAt_iff`).
-/

namespace CantianConnector.Cbo

open CantianConnector.Convert CantianConnector.Index

/-! ## Keys -/

/-- `ctc_key`; `key` is the image, `none` for a null pointer. -/
structure CtcKey where
  key : Option (Mem UInt8)
  len : Nat
  cmpType : CmpType
  colMap : Nat

/-- `ctc_range_key`. -/
structure CtcRangeKey where
  minKey : CtcKey
  maxKey : CtcKey

/-- `ctc_cbo_stats_table_t`, as far as it is read here. -/
structure StatsTable where
  estimateRows : Nat
  columns : Nat → StatsColumn

/-- A part of the index and the `field_index()` of its column. -/
structure IndexPart where
  part : KeyPart
  fieldIndex : Nat

/-- What the functions below use of the machine, the server and the build. -/
structure CboEnv where
  build : Build
  prims : ServerPrims
  /-- A stored `float`. -/
  floatValue : List UInt8 → Rat
  /-- A stored `double`. -/
  doubleValue : List UInt8 → Rat
  decimal2double : MyDecimal → Rat
  /-- `CBO_STRING_MAX_LEN`. -/
  cboStringMaxLen : Nat

/-! ## The functions -/

section

variable (env : CboEnv)

/-- `decimal_mysql_to_double`; the double stays zero if the bytes are no decimal. -/
def decimalMysqlToDouble (mysql : List UInt8) (prec scale : Nat) : Rat :=
  match env.prims.binary2myDecimal mysql prec scale with
  | .error _ => 0
  | .ok d => env.decimal2double d

/-- `convert_int_to_variant`, from `n` bytes. -/
def convertIntToVariant (n : Nat) (key : Mem UInt8) (isUnsigned : Bool) : CacheVariant :=
  let v := Bytes.ofLe (key.read 0 n)
  if isUnsigned then { vUint32 := v } else { vInt := Bytes.signed n v }

/-- The value that `extract_boundary_value` reads at `key`. -/
def extractValue (field : Field) (key : Mem UInt8) (strCopyLen : Nat) : Result CacheVariant :=
  let c := field.columnType
  match c.realType with
  | .set =>
    -- convert_set_key_to_variant
    if c.packLength = 8 then .ok { vUbigint := Bytes.ofLe (key.read 0 8) }
    else if c.packLength ≤ 4 then .ok { vUint32 := Bytes.ofLe (key.read 0 c.packLength) }
    else .ok {}
  | .enum =>
    -- convert_enum_key_to_variant
    if c.packLength ≤ 2 then .ok { vUint32 := Bytes.ofLe (key.read 0 c.packLength) } else .ok {}
  | .bit => .ok { vUbigint := bitCnvtMysqlCantian c.packLength (key.read 0 8) }
  | .tiny => .ok (convertIntToVariant 1 key c.isUnsigned)
  | .short => .ok (convertIntToVariant 2 key c.isUnsigned)
  | .int24 => .ok (convertIntToVariant 3 key c.isUnsigned)
  | .long => .ok (convertIntToVariant 4 key c.isUnsigned)
  | .float => .ok { vReal := env.floatValue (key.read 0 4) }
  | .double => .ok { vReal := env.doubleValue (key.read 0 8) }
  | .longlong =>
    let v := Bytes.ofLe (key.read 0 8)
    if c.isUnsigned then .ok { vUbigint := v } else .ok { vBigint := Bytes.signed 8 v }
  | .timestamp2 | .year =>
    match getAuxiliaryForFieldConvert field c.type with
    | none => .error .undefined
    | some mysqlInfo => do
      let bytes ← convertDatetimeToCantian env.build env.prims.time mysqlInfo
        (key.read 0 c.packLength) field
      return { vDate := Bytes.signed 8 (Bytes.ofLe bytes) }
  | .newDate => .ok { vDate := Bytes.signed 8 (Bytes.ofLe (key.read 0 8)) }
  | .datetime2 =>
    let bytes := cnvrtDatetimeDecimal env.prims.time (key.read 0 c.packLength) c.decimals
      datetimeMaxDecimals 8
    .ok { vDate := Bytes.signed 8 (Bytes.ofLe bytes) }
  | .time2 =>
    let bytes := cnvrtTimeDecimal env.prims.time (key.read 0 c.packLength) c.decimals
      datetimeMaxDecimals 8
    .ok { vDate := Bytes.signed 8 (Bytes.ofLe bytes) }
  | .decimal | .newDecimal =>
    .ok { vReal := decimalMysqlToDouble env (key.read 0 c.packLength) c.precision c.decimals }
  -- strncpy
  | .varchar | .varString | .string =>
    .ok { vStr := (key.read 0 strCopyLen).takeWhile fun b => b != 0 }
  | _ => .ok {}

/-- The length of a string in the image, and the bytes before its data. -/
def stringKeyLen (part : KeyPart) (key : Mem UInt8) : Nat × Nat :=
  match part.field.columnType with
  | .varchar _ => (Bytes.ofLe (key.read part.nullLen 2), 2)
  | .string n padChar => (trimPad padChar (key.read part.nullLen n), 0)
  | _ => (0, 0)

/-- `extract_boundary_value` with `handle_null_and_single_boundary`: the value and `cmp_type`. -/
def extractBoundaryValue (rKey : CtcKey) (cmpType : CmpType) (part : KeyPart)
    (value : CacheVariant) (keyOffset : Nat) : Result (CacheVariant × CmpType) :=
  if cmpType = .null then .ok (value, .closeInternal)
  else
    match rKey.key with
    | none => .error .undefined
    | some key =>
      if part.isNullable ∧ key keyOffset = 1 then .ok (value, .closeInternal)
      else do
        let (strKeyLen, varcharOffset) := stringKeyLen part (key.shift keyOffset)
        let strCopyLen := min strKeyLen (env.cboStringMaxLen - 1)
        let value ← extractValue env part.field
          (key.shift (keyOffset + varcharOffset + part.nullLen)) strCopyLen
        return (value, cmpType)

/-- `calc_hist_equal_density`. -/
def calcHistEqualDensity (colStat : StatsColumn) (val : CacheVariant) (field : Field)
    (cs : CharsetInfo) : Result Rat :=
  if colStat.columnHist.length = 0 then .ok colStat.density
  -- STATS_HISTGRAM_MAX_SIZE
  else if 254 < colStat.columnHist.length then do
    cAssert env.build false
    return colStat.density
  else
    match colStat.histType with
    | .frequency => .ok (calcFrequencyHistEqualDensity env.prims.time field cs colStat val)
    | .heightBalanced => .ok (calcBalanceHistEqualDensity env.prims.time field cs colStat val)

/-- `calc_hist_between_density`. -/
def calcHistBetweenDensity (colStat : StatsColumn) (field : Field) (statsVal : FieldStatsVal)
    (cs : CharsetInfo) : Result Rat :=
  if colStat.columnHist.length = 0 then .ok colStat.density
  else if 254 < colStat.columnHist.length then do
    cAssert env.build false
    return colStat.density
  else
    match colStat.histType with
    | .frequency => .ok (calcHistBetweenFrequency env.prims.time field cs colStat statsVal)
    | .heightBalanced => calcHistBetweenBalance env.prims.time field cs colStat statsVal

/-- `calc_density_by_cond`: the density, and whether the next part is to be evaluated. -/
def calcDensityByCond (colStat : StatsColumn) (part : KeyPart) (key : CtcRangeKey)
    (minType maxType : CmpType) (keyOffset : Nat) (cs : CharsetInfo) : Result (Rat × Bool) := do
  let time := env.prims.time
  let (minVal, minType) ←
    extractBoundaryValue env key.minKey minType part colStat.lowValue keyOffset
  let (maxVal, maxType) ←
    extractBoundaryValue env key.maxKey maxType part colStat.highValue keyOffset
  let order := compare time maxVal minVal part.field cs
  let continueCalc := order == .equal
  if compare time maxVal colStat.lowValue part.field cs = .less ∨
      compare time minVal colStat.highValue part.field cs = .great then return (0, continueCalc)
  else if order = .equal ∧ minType = .closeInternal ∧ maxType = .closeInternal then do
    let density ← calcHistEqualDensity env colStat maxVal part.field cs
    return (density, continueCalc)
  else if order = .uncomparable then return (defaultRangeDensity, continueCalc)
  else if order = .less then return (0, continueCalc)
  else do
    let density ←
      calcHistBetweenDensity env colStat part.field ⟨minType, maxType, maxVal, minVal⟩ cs
    return (density, continueCalc)

/-- `calc_equal_null_density`. -/
def calcEqualNullDensity (cboStats : StatsTable) (colStat : StatsColumn) : Rat :=
  if 0 < cboStats.estimateRows then (colStat.numNull : Rat) / cboStats.estimateRows
  else defaultRangeDensity

/-- `*(key->key + key_offset) == 1`, for a key that exists. -/
def CtcKey.nullAt (key : CtcKey) (keyOffset : Nat) : Bool :=
  match key.key with
  | none => false
  | some image => image keyOffset == 1

/-- `set_key_boundary_types`: the `cmp_type` of the two keys for part `id`. -/
def setKeyBoundaryTypes (key : CtcRangeKey) (id : Nat) : CmpType × CmpType :=
  if key.minKey.colMap.testBit id ∧ key.maxKey.colMap.testBit id ∧
      (key.minKey.colMap.testBit (id + 1) ∨ key.maxKey.colMap.testBit (id + 1)) then
    (.closeInternal, .closeInternal)
  else (key.minKey.cmpType, key.maxKey.cmpType)

/-- `calculate_column_selectivity`. -/
def calculateColumnSelectivity (cboStats : StatsTable) (key : CtcRangeKey)
    (minType maxType : CmpType) (part : KeyPart) (ctcColId keyOffset : Nat) (cs : CharsetInfo) :
    Result (Rat × Bool) :=
  let colStat := cboStats.columns ctcColId
  if part.isNullable ∧ key.minKey.nullAt keyOffset = true ∧
      (key.maxKey.key.isNone ∨ key.maxKey.len ≤ keyOffset) then
    .ok (1 - calcEqualNullDensity cboStats colStat, true)
  else if part.isNullable ∧ key.minKey.nullAt keyOffset = true ∧
      key.maxKey.nullAt keyOffset = true then
    .ok (calcEqualNullDensity cboStats colStat, true)
  else calcDensityByCond env colStat part key minType maxType keyOffset cs

/-- `calc_accumulate_gcol_num`: the virtual columns before column `i`. -/
def calcAccumulateGcolNum (fields : List Field) (i : Nat) : Nat :=
  (fields.take i).countP Field.isVirtualGcol

/-- The width that the loop adds for a part. -/
def partWidth (part : KeyPart) : Nat :=
  (if part.field.columnType.realType = .varchar then 2 else 0) + part.nullLen +
    keyLength part.field.columnType

variable (cboStats : StatsTable) (fields : List Field) (charset : Nat → CharsetInfo)
  (key : CtcRangeKey)

/-- The evaluation of part `id` at an offset. -/
def evaluatePart (indexPart : IndexPart) (id keyOffset : Nat) : Result (Rat × Bool) :=
  let mysqlColId := indexPart.fieldIndex
  let ctcColId := mysqlColId - calcAccumulateGcolNum fields mysqlColId
  let (minType, maxType) := setKeyBoundaryTypes key id
  calculateColumnSelectivity env cboStats key minType maxType indexPart.part ctcColId keyOffset
    (charset mysqlColId)

/-- The loop of `calc_density_one_table` from part `id` on: the parts that are evaluated, each
with the offset used for it, and the density. -/
def densityLoop (validMap : Nat) : List IndexPart → Nat → Nat → Rat → List (Nat × Nat) × Result Rat
  | [], _, _, density => ([], .ok density)
  | indexPart :: rest, id, keyOffset, density =>
    if validMap.testBit id = false then ([], .ok density)
    else if indexPart.part.field.isVirtualGcol then
      densityLoop validMap rest (id + 1) keyOffset density
    else
      match evaluatePart env cboStats fields charset key indexPart id keyOffset with
      | .error e => ([(id, keyOffset)], .error e)
      | .ok (selectivity, continueCalc) =>
        let density := density * evalDensityResult selectivity
        if continueCalc then
          let (evaluated, result) := densityLoop validMap rest (id + 1)
            (keyOffset + partWidth indexPart.part) density
          ((id, keyOffset) :: evaluated, result)
        else ([(id, keyOffset)], .ok density)

/-- `calc_density_one_table`; `parts` are the `actual_key_parts` of the index. -/
def calcDensityOneTable (parts : List IndexPart) : List (Nat × Nat) × Result Rat :=
  if cboStats.estimateRows = 0 then ([], .ok 0)
  else
    let validMap := max key.minKey.colMap key.maxKey.colMap
    let (evaluated, result) := densityLoop env cboStats fields charset key validMap parts 0 0 1
    (evaluated, do
      let density ← result
      -- PREFER_RANGE_DENSITY
      return if density < 0 ∨ 1 < density then 4 / 5 else density)

end

/-! ## The offsets -/

/-- What a part adds to the offset. -/
def advance (part : KeyPart) : Nat := if part.field.isVirtualGcol then 0 else partWidth part

/-- Is the part neither a virtual column nor a BLOB? -/
def stored (part : KeyPart) : Bool := !part.field.isVirtualGcol && !part.field.isBlob

theorem realType_varchar_iff (c : ColumnType) : c.realType = .varchar ↔ c.type = .varchar := by
  cases c <;> simp [ColumnType.realType, ColumnType.type]

/-- The width added for a part of the image is its store length, but for a BLOB. -/
theorem partWidth_spec {part : KeyPart} (hpart : part.Valid) :
    partWidth part ≤ part.storeLength ∧
      (partWidth part = part.storeLength ↔ part.field.isBlob = false) := by
  have hstore := hpart.storeLength
  have hpos := hpart.length_pos
  unfold partWidth
  cases hblob : part.field.isBlob with
  | true =>
    have hvar : part.isVar = true := by simp [KeyPart.isVar, hblob]
    have hreal : part.field.columnType.realType ≠ .varchar := by
      rw [Ne, realType_varchar_iff]
      intro htype
      rw [isBlob_of_varchar htype] at hblob
      cases hblob
    have hkey : keyLength part.field.columnType = 0 := by
      unfold Field.isBlob at hblob
      split at hblob
      · next h => rw [h]; rfl
      · next h => rw [h]; rfl
      · cases hblob
    rw [if_pos hvar] at hstore
    rw [if_neg hreal, hkey]
    simp only [Bool.true_eq_false, iff_false]
    omega
  | false =>
    have hlen := hpart.length hblob
    by_cases htype : part.field.columnType.type = .varchar
    · have hvar : part.isVar = true := by simp [KeyPart.isVar, htype]
      rw [if_pos hvar] at hstore
      rw [if_pos ((realType_varchar_iff _).mpr htype)]
      simp only [iff_true]
      omega
    · have hvar : part.isVar = false := by simp [KeyPart.isVar, htype, hblob]
      rw [hvar, if_neg Bool.false_ne_true] at hstore
      rw [if_neg (fun h => htype ((realType_varchar_iff _).mp h))]
      simp only [iff_true]
      omega

theorem advance_spec {part : KeyPart} (hpart : part.Valid) :
    advance part ≤ part.storeLength ∧ (advance part = part.storeLength ↔ stored part = true) := by
  have hpos := hpart.storeLength_pos
  obtain ⟨hle, heq⟩ := partWidth_spec hpart
  unfold advance stored
  cases hvirtual : part.field.isVirtualGcol with
  | true =>
    simp only [if_true, Bool.not_true, Bool.false_and, Bool.false_eq_true, iff_false]
    omega
  | false =>
    simp only [Bool.false_eq_true, if_false, Bool.not_false, Bool.true_and, Bool.not_eq_true', heq,
      and_true]
    exact hle

/-- The offset that the loop has reached before part `i`. -/
def offsetAt (parts : List KeyPart) (i : Nat) : Nat := ((parts.take i).map advance).sum

/-- The parts are passed over or added one by one, and none is larger than in the image: the
offset is right only if every part in front added its store length. -/
theorem offsetAt_eq_storeAt_iff {parts : List KeyPart} (hparts : ∀ part ∈ parts, part.Valid)
    (i : Nat) :
    offsetAt parts i ≤ storeAt parts i ∧
      (offsetAt parts i = storeAt parts i ↔ ∀ part ∈ parts.take i, stored part = true) := by
  unfold offsetAt storeAt
  induction parts generalizing i with
  | nil => simp
  | cons part rest ih =>
    cases i with
    | zero => simp
    | succ i =>
      obtain ⟨hle, heq⟩ := advance_spec (hparts part List.mem_cons_self)
      obtain ⟨ihle, iheq⟩ := ih (fun p hp => hparts p (List.mem_cons_of_mem _ hp)) i
      simp only [List.take_succ_cons, List.map_cons, List.sum_cons, List.forall_mem_cons]
      rw [← heq, ← iheq]
      constructor <;> omega

section

variable {env : CboEnv} {cboStats : StatsTable} {fields : List Field} {charset : Nat → CharsetInfo}
  {key : CtcRangeKey} {validMap : Nat}

/-- **Run of the loop:** a part is evaluated at the offset that the parts in front have added. -/
theorem mem_densityLoop {parts : List IndexPart} {id keyOffset : Nat} {density : Rat}
    {i offset : Nat}
    (h : (i, offset) ∈
      (densityLoop env cboStats fields charset key validMap parts id keyOffset density).1) :
    ∃ j, i = id + j ∧ offset = keyOffset + offsetAt (parts.map IndexPart.part) j := by
  induction parts generalizing id keyOffset density with
  | nil => simp [densityLoop] at h
  | cons indexPart rest ih =>
    -- the head itself, or a part behind it
    have hhead : (i, offset) = (id, keyOffset) →
        ∃ j, i = id + j ∧
          offset = keyOffset + offsetAt ((indexPart :: rest).map IndexPart.part) j := by
      intro heq
      obtain ⟨rfl, rfl⟩ := Prod.mk.inj heq
      exact ⟨0, rfl, by simp [offsetAt]⟩
    have hbehind : ∀ density, (i, offset) ∈ (densityLoop env cboStats fields charset key validMap
          rest (id + 1) (keyOffset + advance indexPart.part) density).1 →
        ∃ j, i = id + j ∧
          offset = keyOffset + offsetAt ((indexPart :: rest).map IndexPart.part) j := by
      intro density hmem
      obtain ⟨j, hi, hoffset⟩ := ih hmem
      refine ⟨j + 1, by omega, ?_⟩
      rw [hoffset]
      simp only [offsetAt, List.map_cons, List.take_succ_cons, List.sum_cons]
      omega
    unfold densityLoop at h
    split at h
    · cases h
    split at h
    · next hvirtual =>
      have hadvance : advance indexPart.part = 0 := by simp [advance, hvirtual]
      rw [hadvance] at hbehind
      exact hbehind density h
    next hvirtual =>
    have hadvance : advance indexPart.part = partWidth indexPart.part := by
      simp [advance, hvirtual]
    rw [hadvance] at hbehind
    split at h
    · exact hhead (List.mem_singleton.mp h)
    · split at h
      · rcases List.mem_cons.mp h with heq | hmem
        · exact hhead heq
        · exact hbehind _ hmem
      · exact hhead (List.mem_singleton.mp h)

/-- **The offset of a part:** it is the place of the part in the image exactly if neither a virtual
column nor a BLOB is in front. -/
theorem evaluatedAt_storeAt_iff (env : CboEnv) (cboStats : StatsTable) (fields : List Field)
    (charset : Nat → CharsetInfo) (key : CtcRangeKey) (parts : List IndexPart)
    (hparts : ∀ indexPart ∈ parts, indexPart.part.Valid) (i offset : Nat)
    (h : (i, offset) ∈ (calcDensityOneTable env cboStats fields charset key parts).1) :
    offset = storeAt (parts.map IndexPart.part) i ↔
      ∀ indexPart ∈ parts.take i,
        indexPart.part.field.isVirtualGcol = false ∧ indexPart.part.field.isBlob = false := by
  have hvalid : ∀ part ∈ parts.map IndexPart.part, part.Valid := by
    intro part hpart
    obtain ⟨indexPart, hmem, rfl⟩ := List.mem_map.mp hpart
    exact hparts indexPart hmem
  have hoffset : offset = offsetAt (parts.map IndexPart.part) i := by
    unfold calcDensityOneTable at h
    split at h
    · cases h
    · obtain ⟨j, hi, hoffset⟩ := mem_densityLoop h
      rw [hoffset, hi, Nat.zero_add, Nat.zero_add]
  rw [hoffset, (offsetAt_eq_storeAt_iff hvalid i).2, ← List.map_take, List.forall_mem_map]
  simp only [stored, Bool.and_eq_true, Bool.not_eq_true']

end

/-! ## Two indexes -/

/-- An environment in which nothing is converted. -/
def plainEnv : CboEnv := ⟨.release, ServerPrims.none, fun _ => 0, fun _ => 0, fun _ => 0, 64⟩

/-- A table with rows and no histograms. -/
def plainStats : StatsTable := ⟨1, fun _ => ⟨0, 1, .frequency, [], {}, {}⟩⟩

/-- A key on two parts whose image is filled with one byte. -/
def twoPartKey (byte : UInt8) : CtcKey := ⟨some fun _ => byte, 9, .closeInternal, 3⟩

/-- `c INT NULL`. -/
def nullableInt : IndexPart :=
  ⟨⟨{ statsField (.long false) with nullBit := some .first }, 4, 5, false, false⟩, 0⟩

/-- `c INT NOT NULL`. -/
def plainInt : IndexPart := ⟨⟨statsField (.long false), 4, 4, false, false⟩, 1⟩

/-- The hidden column of a functional part, a nullable INT. -/
def functionalInt : IndexPart :=
  ⟨⟨{ statsField (.long false) with nullBit := some .first, gcol := .virtual }, 4, 5, false, false⟩,
    0⟩

theorem intPart_valid {field : Field} (hc : field.columnType = .long false) :
    (⟨field, 4, (if field.nullBit.isSome then 1 else 0) + 4, false, false⟩ : KeyPart).Valid := by
  have hblob : field.isBlob = false := by
    unfold Field.isBlob
    rw [hc]
  have hvar : KeyPart.isVar ⟨field, 4, (if field.nullBit.isSome then 1 else 0) + 4, false, false⟩ =
      false := by
    unfold KeyPart.isVar
    rw [hc, hblob]
    rfl
  refine ⟨?_, Nat.succ_pos 3, fun _ => ?_, fun h => ?_⟩
  · rw [hvar]
    rfl
  · rw [hc]
    rfl
  · rw [hblob] at h
    cases h

/-- A part with a condition that no virtual column hides is evaluated at the offset reached. -/
theorem head_mem_densityLoop {env : CboEnv} {cboStats : StatsTable} {fields : List Field}
    {charset : Nat → CharsetInfo} {key : CtcRangeKey} {validMap : Nat} {indexPart : IndexPart}
    {rest : List IndexPart} {id keyOffset : Nat} {density : Rat}
    (hvalid : validMap.testBit id = true) (hplain : indexPart.part.field.isVirtualGcol = false) :
    (id, keyOffset) ∈ (densityLoop env cboStats fields charset key validMap (indexPart :: rest) id
      keyOffset density).1 := by
  unfold densityLoop
  rw [if_neg (by rw [hvalid]; exact Bool.noConfusion),
    if_neg (by rw [hplain]; exact Bool.noConfusion)]
  split
  · exact List.mem_singleton_self _
  · split
    · exact List.mem_cons_self
    · exact List.mem_singleton_self _

/-- On `(c INT NULL, d INT)` with `c IS NULL` the bounds of `d` are read behind the five bytes
of `c`. -/
theorem evaluatedAt_storeAt_iff_nullable :
    5 = storeAt ([nullableInt, plainInt].map IndexPart.part) 1 ↔
      ∀ indexPart ∈ [nullableInt, plainInt].take 1,
        indexPart.part.field.isVirtualGcol = false ∧ indexPart.part.field.isBlob = false := by
  apply evaluatedAt_storeAt_iff plainEnv plainStats [] (fun _ => .binary)
    ⟨twoPartKey 1, twoPartKey 1⟩ [nullableInt, plainInt]
  · rw [List.forall_mem_cons, List.forall_mem_singleton]
    exact ⟨intPart_valid rfl, intPart_valid rfl⟩
  · have hnull : evaluatePart plainEnv plainStats [] (fun _ => .binary)
        ⟨twoPartKey 1, twoPartKey 1⟩ nullableInt 0 0 =
          .ok (calcEqualNullDensity plainStats (plainStats.columns 0), true) := rfl
    have hrest : (1, 5) ∈ (densityLoop plainEnv plainStats [] (fun _ => .binary)
        ⟨twoPartKey 1, twoPartKey 1⟩ 3 [plainInt] 1 5
        (1 * evalDensityResult
          (calcEqualNullDensity plainStats (plainStats.columns 0)))).1 :=
      head_mem_densityLoop rfl rfl
    unfold calcDensityOneTable
    rw [if_neg (by exact Nat.one_ne_zero)]
    show (1, 5) ∈ (densityLoop plainEnv plainStats [] (fun _ => .binary)
      ⟨twoPartKey 1, twoPartKey 1⟩ 3 [nullableInt, plainInt] 0 0 1).1
    unfold densityLoop
    rw [if_neg (by exact Bool.noConfusion), if_neg (by exact Bool.noConfusion), hnull]
    exact List.mem_cons_of_mem _ hrest

/-- On the functional index `((f(c)), d)` the bounds of `d` are read from the bytes of `f(c)`. -/
theorem not_evaluatedAt_storeAt_virtual :
    (∀ indexPart ∈ [functionalInt, plainInt], indexPart.part.Valid) ∧
      (1, 0) ∈ (calcDensityOneTable plainEnv plainStats [] (fun _ => .binary)
        ⟨twoPartKey 0, twoPartKey 0⟩ [functionalInt, plainInt]).1 ∧
      storeAt ([functionalInt, plainInt].map IndexPart.part) 1 = 5 := by
  refine ⟨?_, ?_, rfl⟩
  · rw [List.forall_mem_cons, List.forall_mem_singleton]
    exact ⟨intPart_valid rfl, intPart_valid rfl⟩
  · unfold calcDensityOneTable
    rw [if_neg (by exact Nat.one_ne_zero)]
    show (1, 0) ∈ (densityLoop plainEnv plainStats [] (fun _ => .binary)
      ⟨twoPartKey 0, twoPartKey 0⟩ 3 [functionalInt, plainInt] 0 0 1).1
    unfold densityLoop
    have hvirtual : functionalInt.part.field.isVirtualGcol = true := rfl
    rw [if_neg (by exact Bool.noConfusion), if_pos hvirtual]
    exact head_mem_densityLoop rfl rfl

end CantianConnector.Cbo
