import CantianConnector.Cbo.KeyOffset
import CantianConnector.Lib.Reads

/-!
# Reading the range keys

The functions of `KeyOffset` as computations that read the images of the two keys byte by byte
(`Reads`). They have the same values (`calcDensityReads_value`), and say at which indexes the keys
are read.
-/

namespace CantianConnector.Cbo

open CantianConnector.Convert CantianConnector.Index

/-! ## Reading a key -/

/-- One of the two keys. -/
inductive Bound where
  | min
  | max
deriving DecidableEq, Repr

/-- The key at a bound. -/
def CtcRangeKey.side (key : CtcRangeKey) : Bound → CtcKey
  | .min => key.minKey
  | .max => key.maxKey

/-- What the image of a key holds at an index; an absent key holds nothing. -/
def CtcRangeKey.byte (key : CtcRangeKey) (place : Bound × Nat) : UInt8 :=
  match (key.side place.1).key with
  | none => 0
  | some image => image place.2

/-- The index of a byte lies in its key, which exists. -/
def CtcRangeKey.InBounds (key : CtcRangeKey) (place : Bound × Nat) : Prop :=
  (key.side place.1).key.isSome = true ∧ place.2 < (key.side place.1).len

/-- A computation on the bytes of two keys. -/
abbrev KeyReads (α : Type) := Reads (Bound × Nat) UInt8 α

/-- How many bytes `extract_boundary_value` takes for a value that is no string. -/
def valueWidth (c : ColumnType) : Nat :=
  match c.realType with
  | .set => if c.packLength = 8 then 8 else if c.packLength ≤ 4 then c.packLength else 0
  | .enum => if c.packLength ≤ 2 then c.packLength else 0
  | .bit => min c.packLength 8
  | .tiny => 1
  | .short => 2
  | .int24 => 3
  | .long => 4
  | .float => 4
  | .double => 8
  | .longlong => 8
  | .newDate => 8
  | .timestamp2 | .year | .datetime2 | .time2 | .decimal | .newDecimal => c.packLength
  | _ => 0

/-- A memory that begins with some bytes. -/
def memOf (bytes : List UInt8) : Mem UInt8 := fun i => bytes.getD i 0

section

variable (env : CboEnv)

/-- `stringKeyLen`, byte by byte. -/
def stringKeyLenReads (b : Bound) (part : KeyPart) (keyOffset : Nat) : KeyReads (Nat × Nat) :=
  match part.field.columnType with
  | .varchar _ =>
    (Reads.block (Prod.mk b) (keyOffset + part.nullLen) 2).bind fun bytes =>
      .done (Bytes.ofLe bytes, 2)
  | .string n padChar =>
    (Reads.trim padChar (Prod.mk b) (keyOffset + part.nullLen) n).bind fun dataLen =>
      .done (dataLen, 0)
  | _ => .done (0, 0)

/-- `extractValue`, byte by byte. -/
def extractValueReads (b : Bound) (field : Field) (start strCopyLen : Nat) :
    KeyReads (Result CacheVariant) :=
  match field.columnType.realType with
  -- strncpy
  | .varchar | .varString | .string =>
    (Reads.upTo 0 (Prod.mk b) start strCopyLen).bind fun str => .done (.ok { vStr := str })
  | _ =>
    (Reads.block (Prod.mk b) start (valueWidth field.columnType)).bind fun bytes =>
      .done (extractValue env field (memOf bytes) strCopyLen)

/-- `extractBoundaryValue` behind `handle_null_and_single_boundary`. -/
def extractKeyReads (b : Bound) (cmpType : CmpType) (part : KeyPart) (keyOffset : Nat) :
    KeyReads (Result (CacheVariant × CmpType)) :=
  (stringKeyLenReads b part keyOffset).bind fun (strKeyLen, varcharOffset) =>
    let strCopyLen := min strKeyLen (env.cboStringMaxLen - 1)
    (extractValueReads env b part.field (keyOffset + varcharOffset + part.nullLen) strCopyLen).bind
      fun value => .done (value.map fun v => (v, cmpType))

/-- `extractBoundaryValue`, byte by byte; an absent key is dereferenced first. -/
def extractBoundaryReads (b : Bound) (rKey : CtcKey) (cmpType : CmpType) (part : KeyPart)
    (value : CacheVariant) (keyOffset : Nat) : KeyReads (Result (CacheVariant × CmpType)) :=
  if cmpType = .null then .done (.ok (value, .closeInternal))
  else if rKey.key.isNone then .cell (b, keyOffset) fun _ => .done (.error .undefined)
  else if part.isNullable then
    .cell (b, keyOffset) fun byte =>
      if byte = 1 then .done (.ok (value, .closeInternal))
      else extractKeyReads env b cmpType part keyOffset
  else extractKeyReads env b cmpType part keyOffset

/-- `calc_density_by_cond`, from the values of the bounds on. -/
def densityOfBounds (colStat : StatsColumn) (part : KeyPart) (cs : CharsetInfo)
    (lower upper : CacheVariant × CmpType) : Result (Rat × Bool) :=
  let time := env.prims.time
  let (minVal, minType) := lower
  let (maxVal, maxType) := upper
  let order := compare time maxVal minVal part.field cs
  let continueCalc := order == .equal
  if compare time maxVal colStat.lowValue part.field cs = .less ∨
      compare time minVal colStat.highValue part.field cs = .great then return (0, continueCalc)
  else if order = .equal ∧ minType = .closeInternal ∧ maxType = .closeInternal then do
    let density ← calcHistEqualDensity env colStat maxVal part.field cs
    return (density, continueCalc)
  else if order = .uncomparable then return (defaultRangeDensity, continueCalc)
  else if order = .less then return (0, continueCalc)
  else do
    let density ←
      calcHistBetweenDensity env colStat part.field ⟨minType, maxType, maxVal, minVal⟩ cs
    return (density, continueCalc)

theorem calcDensityByCond_eq (colStat : StatsColumn) (part : KeyPart) (key : CtcRangeKey)
    (minType maxType : CmpType) (keyOffset : Nat) (cs : CharsetInfo) :
    calcDensityByCond env colStat part key minType maxType keyOffset cs = (do
      let lower ← extractBoundaryValue env key.minKey minType part colStat.lowValue keyOffset
      let upper ← extractBoundaryValue env key.maxKey maxType part colStat.highValue keyOffset
      densityOfBounds env colStat part cs lower upper) := rfl

/-- `calcDensityByCond`, byte by byte. -/
def densityByCondReads (colStat : StatsColumn) (part : KeyPart) (key : CtcRangeKey)
    (minType maxType : CmpType) (keyOffset : Nat) (cs : CharsetInfo) :
    KeyReads (Result (Rat × Bool)) :=
  (extractBoundaryReads env .min key.minKey minType part colStat.lowValue keyOffset).bind
    fun lower =>
      (extractBoundaryReads env .max key.maxKey maxType part colStat.highValue keyOffset).bind
        fun upper => .done (do
          let lower ← lower
          let upper ← upper
          densityOfBounds env colStat part cs lower upper)

/-- The NULL byte of a part, read if the key exists. -/
def nullAtReads (key : CtcRangeKey) (b : Bound) (keyOffset : Nat) : KeyReads Bool :=
  if (key.side b).key.isNone then .done false
  else .cell (b, keyOffset) fun byte => .done (byte == 1)

/-- `calculateColumnSelectivity`, byte by byte. -/
def columnSelectivityReads (cboStats : StatsTable) (key : CtcRangeKey) (minType maxType : CmpType)
    (part : KeyPart) (ctcColId keyOffset : Nat) (cs : CharsetInfo) :
    KeyReads (Result (Rat × Bool)) :=
  let colStat := cboStats.columns ctcColId
  (if part.isNullable then nullAtReads key .min keyOffset else .done false).bind fun minNull =>
    if minNull = true ∧ (key.maxKey.key.isNone ∨ key.maxKey.len ≤ keyOffset) then
      .done (.ok (1 - calcEqualNullDensity cboStats colStat, true))
    else
      (if minNull then nullAtReads key .max keyOffset else .done false).bind fun maxNull =>
        if maxNull then .done (.ok (calcEqualNullDensity cboStats colStat, true))
        else densityByCondReads env colStat part key minType maxType keyOffset cs

variable (cboStats : StatsTable) (fields : List Field) (charset : Nat → CharsetInfo)
  (key : CtcRangeKey)

/-- `evaluatePart`, byte by byte. -/
def partReads (indexPart : IndexPart) (id keyOffset : Nat) : KeyReads (Result (Rat × Bool)) :=
  let mysqlColId := indexPart.fieldIndex
  let ctcColId := mysqlColId - calcAccumulateGcolNum fields mysqlColId
  let (minType, maxType) := setKeyBoundaryTypes key id
  columnSelectivityReads env cboStats key minType maxType indexPart.part ctcColId keyOffset
    (charset mysqlColId)

/-- The loop of `calc_density_one_table`, byte by byte. -/
def densityLoopReads (validMap : Nat) :
    List IndexPart → Nat → Nat → Rat → KeyReads (Result Rat)
  | [], _, _, density => .done (.ok density)
  | indexPart :: rest, id, keyOffset, density =>
    if validMap.testBit id = false then .done (.ok density)
    else if indexPart.part.field.isVirtualGcol then
      densityLoopReads validMap rest (id + 1) keyOffset density
    else
      (partReads env cboStats fields charset key indexPart id keyOffset).bind fun
        | .error e => .done (.error e)
        | .ok (selectivity, continueCalc) =>
          let density := density * evalDensityResult selectivity
          if continueCalc then
            densityLoopReads validMap rest (id + 1) (keyOffset + partWidth indexPart.part) density
          else .done (.ok density)

/-- `calc_density_one_table`, byte by byte. -/
def calcDensityReads (parts : List IndexPart) : KeyReads (Result Rat) :=
  if cboStats.estimateRows = 0 then .done (.ok 0)
  else
    let validMap := max key.minKey.colMap key.maxKey.colMap
    (densityLoopReads env cboStats fields charset key validMap parts 0 0 1).bind fun result =>
      .done (do
        let density ← result
        -- PREFER_RANGE_DENSITY
        return if density < 0 ∨ 1 < density then 4 / 5 else density)

end

/-! ## The same values -/

section

variable {env : CboEnv} {key : CtcRangeKey} {b : Bound} {image : Mem UInt8}

theorem CtcRangeKey.byte_eq (h : (key.side b).key = some image) :
    (fun i => key.byte (b, i)) = image := by
  funext i
  unfold CtcRangeKey.byte
  rw [h]

theorem memOf_read {m : Mem UInt8} {off n i : Nat} (hi : i < n) :
    memOf (m.read off n) i = m (off + i) := by
  unfold memOf
  rw [List.getD_eq_getElem?_getD, Mem.getElem?_read m hi]
  rfl

/-- A value that is no string depends on its bytes only. -/
theorem extractValue_congr {field : Field} {key key' : Mem UInt8} (n : Nat)
    (h : ∀ i, i < valueWidth field.columnType → key i = key' i)
    (hvarchar : field.columnType.realType ≠ .varchar)
    (hstring : field.columnType.realType ≠ .string) :
    extractValue env field key n = extractValue env field key' n := by
  have hread : ∀ k, k ≤ valueWidth field.columnType → key.read 0 k = key'.read 0 k := by
    intro k hk
    exact Mem.read_congr fun i _ hi => h i (by omega)
  have hall := hread _ (Nat.le_refl _)
  unfold extractValue convertIntToVariant
  cases hc : field.columnType with
  | varchar n => exact absurd (congrArg ColumnType.realType hc) hvarchar
  | string n padChar => exact absurd (congrArg ColumnType.realType hc) hstring
  | blob _ | json => rfl
  | bit k =>
    have htake : (key.read 0 8).take k = (key'.read 0 8).take k := by
      rw [hc] at hread
      rcases Nat.le_total k 8 with hle | hle
      · rw [Mem.take_read _ _ hle, Mem.take_read _ _ hle]
        exact hread k (Nat.le_min.mpr ⟨Nat.le_refl k, hle⟩)
      · rw [hread 8 (Nat.le_min.mpr ⟨hle, Nat.le_refl 8⟩)]
    simp only [ColumnType.realType, ColumnType.type, ColumnType.packLength, bitCnvtMysqlCantian,
      htake]
  | set k =>
    rw [hc] at hread
    simp only [ColumnType.realType, valueWidth] at hread ⊢
    by_cases h8 : (ColumnType.set k).packLength = 8
    · rw [if_pos h8, if_pos h8, hread 8 (by rw [if_pos h8])]
    · rw [if_neg h8, if_neg h8]
      by_cases h4 : (ColumnType.set k).packLength ≤ 4
      · rw [if_pos h4, if_pos h4, hread _ (by rw [if_neg h8, if_pos h4])]
      · rw [if_neg h4, if_neg h4]
  | enum k =>
    rw [hc] at hread
    simp only [ColumnType.realType, valueWidth] at hread ⊢
    by_cases h2 : (ColumnType.enum k).packLength ≤ 2
    · rw [if_pos h2, if_pos h2, hread _ (by rw [if_pos h2])]
    · rw [if_neg h2, if_neg h2]
  | _ =>
    rw [hc] at hall
    simp only [ColumnType.realType, ColumnType.type, valueWidth] at hall ⊢
    rw [hall]

theorem stringKeyLenReads_value (part : KeyPart) (keyOffset : Nat)
    (h : (key.side b).key = some image) :
    (stringKeyLenReads b part keyOffset).value key.byte =
      stringKeyLen part (image.shift keyOffset) := by
  unfold stringKeyLenReads stringKeyLen
  cases part.field.columnType with
  | varchar n =>
    dsimp only
    rw [Reads.value_bind, Reads.value_block, CtcRangeKey.byte_eq h, Mem.read_shift]
    rfl
  | string n padChar =>
    dsimp only
    rw [Reads.value_bind, Reads.value_trim, CtcRangeKey.byte_eq h, Mem.read_shift]
    rfl
  | _ => rfl

theorem extractValueReads_value (field : Field) (start strCopyLen : Nat)
    (h : (key.side b).key = some image) :
    (extractValueReads env b field start strCopyLen).value key.byte =
      extractValue env field (image.shift start) strCopyLen := by
  have hother : field.columnType.realType ≠ .varchar → field.columnType.realType ≠ .string →
      ((Reads.block (Prod.mk b) start (valueWidth field.columnType)).bind fun bytes =>
        .done (extractValue env field (memOf bytes) strCopyLen)).value key.byte =
      extractValue env field (image.shift start) strCopyLen := by
    intro hvarchar hstring
    rw [Reads.value_bind, Reads.value_block, CtcRangeKey.byte_eq h]
    exact extractValue_congr strCopyLen (fun i hi => memOf_read hi) hvarchar hstring
  have hstr : ((Reads.upTo 0 (Prod.mk b) start strCopyLen).bind fun str =>
      .done (.ok { vStr := str }) : KeyReads (Result CacheVariant)).value key.byte =
      .ok { vStr := ((image.shift start).read 0 strCopyLen).takeWhile fun b => b != 0 } := by
    rw [Reads.value_bind, Reads.value_upTo, CtcRangeKey.byte_eq h, Mem.read_shift]
    rfl
  unfold extractValueReads
  split
  · next hreal =>
    rw [hstr]
    unfold extractValue
    simp only [hreal]
  · next hreal =>
    rw [hstr]
    unfold extractValue
    simp only [hreal]
  · next hreal =>
    rw [hstr]
    unfold extractValue
    simp only [hreal]
  · next hvarchar _ hstring => exact hother hvarchar hstring

theorem extractKeyReads_value (cmpType : CmpType) (part : KeyPart) (keyOffset : Nat)
    (h : (key.side b).key = some image) :
    (extractKeyReads env b cmpType part keyOffset).value key.byte = (do
      let (strKeyLen, varcharOffset) := stringKeyLen part (image.shift keyOffset)
      let strCopyLen := min strKeyLen (env.cboStringMaxLen - 1)
      let value ← extractValue env part.field
        (image.shift (keyOffset + varcharOffset + part.nullLen)) strCopyLen
      return (value, cmpType)) := by
  unfold extractKeyReads
  rw [Reads.value_bind, stringKeyLenReads_value part keyOffset h]
  dsimp only
  rw [Reads.value_bind, extractValueReads_value _ _ _ h]
  rfl

theorem extractBoundaryReads_value (env : CboEnv) (key : CtcRangeKey) (b : Bound)
    (cmpType : CmpType) (part : KeyPart) (value : CacheVariant) (keyOffset : Nat) :
    (extractBoundaryReads env b (key.side b) cmpType part value keyOffset).value key.byte =
      extractBoundaryValue env (key.side b) cmpType part value keyOffset := by
  unfold extractBoundaryReads extractBoundaryValue
  by_cases hcmp : cmpType = .null
  · rw [if_pos hcmp, if_pos hcmp]
    rfl
  rw [if_neg hcmp, if_neg hcmp]
  cases himage : (key.side b).key with
  | none => rfl
  | some image =>
    have hbyte : key.byte (b, keyOffset) = image keyOffset := by
      unfold CtcRangeKey.byte
      rw [himage]
    rw [if_neg (by exact Bool.false_ne_true)]
    by_cases hnullable : part.isNullable = true
    · rw [if_pos hnullable, Reads.value_cell, hbyte]
      by_cases hone : image keyOffset = 1
      · rw [if_pos hone]
        exact (if_pos ⟨hnullable, hone⟩).symm
      · rw [if_neg hone]
        exact (extractKeyReads_value cmpType part keyOffset himage).trans
          (if_neg fun h => hone h.2).symm
    · rw [if_neg hnullable]
      exact (extractKeyReads_value cmpType part keyOffset himage).trans
        (if_neg fun h => hnullable h.1).symm

theorem nullAtReads_value (key : CtcRangeKey) (b : Bound) (keyOffset : Nat) :
    (nullAtReads key b keyOffset).value key.byte = (key.side b).nullAt keyOffset := by
  unfold nullAtReads CtcKey.nullAt CtcRangeKey.byte
  cases himage : (key.side b).key with
  | none => rfl
  | some image => simp [himage]

theorem densityByCondReads_value (colStat : StatsColumn) (part : KeyPart)
    (minType maxType : CmpType) (keyOffset : Nat) (cs : CharsetInfo) :
    (densityByCondReads env colStat part key minType maxType keyOffset cs).value key.byte =
      calcDensityByCond env colStat part key minType maxType keyOffset cs := by
  have hlower := extractBoundaryReads_value env key .min minType part colStat.lowValue keyOffset
  have hupper := extractBoundaryReads_value env key .max maxType part colStat.highValue keyOffset
  unfold densityByCondReads
  rw [Reads.value_bind, Reads.value_bind, calcDensityByCond_eq]
  exact congrArg₂ (fun lower upper : Result (CacheVariant × CmpType) => do
    let lower ← lower
    let upper ← upper
    densityOfBounds env colStat part cs lower upper) hlower hupper

/-- The first test of `calculate_column_selectivity`, on both keys. -/
theorem minNullReads_value (part : KeyPart) (keyOffset : Nat) :
    (if part.isNullable then nullAtReads key .min keyOffset else .done false).value key.byte =
      (part.isNullable && key.minKey.nullAt keyOffset) := by
  cases part.isNullable with
  | false => rfl
  | true => exact nullAtReads_value key .min keyOffset

theorem columnSelectivityReads_value (cboStats : StatsTable) (minType maxType : CmpType)
    (part : KeyPart) (ctcColId keyOffset : Nat) (cs : CharsetInfo) :
    (columnSelectivityReads env cboStats key minType maxType part ctcColId keyOffset cs).value
        key.byte =
      calculateColumnSelectivity env cboStats key minType maxType part ctcColId keyOffset cs := by
  unfold columnSelectivityReads calculateColumnSelectivity
  dsimp only
  rw [Reads.value_bind, minNullReads_value]
  cases hnull : part.isNullable && key.minKey.nullAt keyOffset with
  | false =>
    have hno : ∀ p : Prop, ¬(part.isNullable = true ∧ key.minKey.nullAt keyOffset = true ∧ p) := by
      rintro p ⟨hnullable, hmin, -⟩
      rw [hnullable, hmin] at hnull
      cases hnull
    rw [if_neg (hno _), if_neg (hno _), if_neg fun h => Bool.false_ne_true h.1]
    exact densityByCondReads_value _ _ _ _ _ _
  | true =>
    obtain ⟨hnullable, hmin⟩ := Bool.and_eq_true_iff.mp hnull
    simp only [hnullable, hmin, true_and, if_true]
    split
    · rfl
    · have hmax := nullAtReads_value key .max keyOffset
      rw [Reads.value_bind, hmax]
      show (if key.maxKey.nullAt keyOffset = true then _ else _ : KeyReads _).value key.byte = _
      split
      · rfl
      · exact densityByCondReads_value _ _ _ _ _ _

variable {cboStats : StatsTable} {fields : List Field} {charset : Nat → CharsetInfo}

theorem partReads_value (indexPart : IndexPart) (id keyOffset : Nat) :
    (partReads env cboStats fields charset key indexPart id keyOffset).value key.byte =
      evaluatePart env cboStats fields charset key indexPart id keyOffset :=
  columnSelectivityReads_value cboStats _ _ indexPart.part _ keyOffset _

theorem densityLoopReads_value (validMap : Nat) (parts : List IndexPart) (id keyOffset : Nat)
    (density : Rat) :
    (densityLoopReads env cboStats fields charset key validMap parts id keyOffset density).value
        key.byte =
      (densityLoop env cboStats fields charset key validMap parts id keyOffset density).2 := by
  induction parts generalizing id keyOffset density with
  | nil => rfl
  | cons indexPart rest ih =>
    unfold densityLoopReads densityLoop
    split
    · rfl
    split
    · exact ih (id + 1) keyOffset density
    rw [Reads.value_bind, partReads_value]
    cases evaluatePart env cboStats fields charset key indexPart id keyOffset with
    | error e => rfl
    | ok answer =>
      obtain ⟨selectivity, continueCalc⟩ := answer
      cases continueCalc with
      | false => rfl
      | true => exact ih (id + 1) _ _

/-- **The computation on bytes has the value of the function.** -/
theorem calcDensityReads_value (parts : List IndexPart) :
    (calcDensityReads env cboStats fields charset key parts).value key.byte =
      (calcDensityOneTable env cboStats fields charset key parts).2 := by
  unfold calcDensityReads calcDensityOneTable
  split
  · rfl
  · dsimp only
    rw [Reads.value_bind, densityLoopReads_value]
    rfl

end

end CantianConnector.Cbo
