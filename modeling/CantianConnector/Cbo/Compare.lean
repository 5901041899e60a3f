import Mathlib.Algebra.Order.Ring.Rat
import Mathlib.Tactic.Linarith
import CantianConnector.Convert.DateOrder
import CantianConnector.Convert.RowHead

/-!
# Column values of the statistics

`cache_variant_t`, the statistics of a column, and `compare` of `ctc_cbo.cc`. Numbers are taken
as rationals. `compare` of two integers or dates is exact. FLOAT, DOUBLE and DECIMAL values that
differ by less than `REAL_EPSINON` count as equal, and of a string only what stands before its
first zero byte is compared; so for these columns `compare` is exact on the pairs that it tells
apart (`compare_exact`).
-/

namespace CantianConnector.Cbo

open CantianConnector.Convert

/-! ## Values -/

/-- `cache_variant_t`. The type of the column decides which member is used. -/
structure CacheVariant where
  vInt : Int := 0
  vUint32 : Nat := 0
  vBigint : Int := 0
  vUbigint : Nat := 0
  vReal : Rat := 0
  vDate : Int := 0
  vStr : List UInt8 := []
deriving DecidableEq, Repr

/-- What `strlen` sees of `v_str`. -/
def CacheVariant.cStr (v : CacheVariant) : List UInt8 := v.vStr.takeWhile (· ≠ 0)

/-- `ctc_cbo_column_hist_t`. -/
structure ColumnHist where
  epValue : CacheVariant
  epNumber : Int
deriving Repr

/-- `ctc_cbo_hist_type_t`. -/
inductive HistType where
  | frequency
  | heightBalanced
deriving DecidableEq, Repr

/-- `ctc_cbo_stats_column_t`; `hist_count` is the length of `column_hist`. -/
structure StatsColumn where
  numNull : Nat
  density : Rat
  histType : HistType
  columnHist : List ColumnHist
  lowValue : CacheVariant
  highValue : CacheVariant
deriving Repr

/-- The part of a `CHARSET_INFO` that is used here. -/
structure CharsetInfo where
  /-- `coll->strnncollsp`. -/
  strnncollsp : List UInt8 → List UInt8 → Int
  padChar : UInt8

/-- A collation compares strings by a total preorder. -/
structure CharsetInfo.Lawful (cs : CharsetInfo) : Prop where
  refl : ∀ a, cs.strnncollsp a a = 0
  swap : ∀ a b, cs.strnncollsp a b < 0 ↔ 0 < cs.strnncollsp b a
  trans : ∀ a b c, cs.strnncollsp a b ≤ 0 → cs.strnncollsp b c ≤ 0 → cs.strnncollsp a c ≤ 0

/-- The comparison of `my_charset_bin`. -/
def CharsetInfo.binary : CharsetInfo where
  strnncollsp a b :=
    let x := a.map UInt8.toNat
    let y := b.map UInt8.toNat
    if x < y then -1 else if y < x then 1 else 0
  padChar := 0

theorem CharsetInfo.binary_lawful : CharsetInfo.binary.Lawful := by
  have hle : ∀ a b, CharsetInfo.binary.strnncollsp a b ≤ 0 ↔
      a.map UInt8.toNat ≤ b.map UInt8.toNat := by
    intro a b
    unfold CharsetInfo.binary
    rcases lt_trichotomy (a.map UInt8.toNat) (b.map UInt8.toNat) with h | h | h
    · simp [h, h.le]
    · simp [h]
    · simp [h, h.not_gt]
  refine ⟨fun a => ?_, fun a b => ?_, fun a b c hab hbc => ?_⟩
  · simp [CharsetInfo.binary]
  · unfold CharsetInfo.binary
    rcases lt_trichotomy (a.map UInt8.toNat) (b.map UInt8.toNat) with h | h | h
    · simp [h, h.not_gt]
    · simp [h]
    · simp [h, h.not_gt]
  · exact (hle a c).mpr (le_trans ((hle a b).mp hab) ((hle b c).mp hbc))

/-- `ctc_cmp_type_t`. -/
inductive CmpType where
  | null
  | openInternal
  | closeInternal
deriving DecidableEq, Repr

/-! ## The functions -/

/-- `en_ctc_compare_type`. -/
inductive CompareType where
  | great
  | equal
  | less
  | uncomparable
deriving DecidableEq, Repr

/-- `REAL_EPSINON`. -/
def realEpsinon : Rat := 1 / 100000

/-- `two_nums_compare`. -/
def twoNumsCompare {α : Type} [LT α] [DecidableRel (fun a b : α => a < b)] (a b : α) :
    CompareType :=
  if b < a then .great else if a < b then .less else .equal

/-- The three low bytes of `v_date`, as `date_compare` reads them. -/
def dateInt (vDate : Int) : Int := vDate % 256 ^ 3

/-- `date_compare`. -/
def dateCompare (date1 date2 : Int) : Int := dateInt date1 - dateInt date2

section

variable (time : TimePrims)

/-- `my_time_packed_from_binary` of the bytes of `v_date`. -/
def timeInt (vDate : Int) : Int :=
  time.myTimePackedFromBinary (Bytes.le 8 (Bytes.wrap 8 vDate)) datetimeMaxDecimals

/-- `time_compare`. -/
def timeCompare (time1 time2 : Int) : Int := timeInt time time1 - timeInt time time2

/-- `my_datetime_packed_from_binary` of the bytes of `v_date`. -/
def datetimeInt (vDate : Int) : Int :=
  time.myDatetimePackedFromBinary (Bytes.le 8 (Bytes.wrap 8 vDate)) datetimeMaxDecimals

/-- `datetime_compare`. -/
def datetimeCompare (datetime1 datetime2 : Int) : Int :=
  datetimeInt time datetime1 - datetimeInt time datetime2

/-- The end of `compare`. -/
def compareValue (value : Rat) : CompareType :=
  if |value| < realEpsinon then .equal else if 0 < value then .great else .less

/-- `compare`. -/
def compare (right left : CacheVariant) (field : Field) (cs : CharsetInfo) : CompareType :=
  let isUnsigned := field.columnType.isUnsigned
  match field.columnType.realType with
  | .set =>
    if field.columnType.packLength ≤ 4 then twoNumsCompare right.vUint32 left.vUint32
    else twoNumsCompare right.vUbigint left.vUbigint
  | .enum => twoNumsCompare right.vUint32 left.vUint32
  | .bit => twoNumsCompare right.vUbigint left.vUbigint
  | .tiny | .short | .int24 | .long =>
    if isUnsigned then twoNumsCompare right.vUint32 left.vUint32
    else twoNumsCompare right.vInt left.vInt
  | .float | .double | .decimal | .newDecimal => compareValue (right.vReal - left.vReal)
  | .longlong =>
    if isUnsigned then twoNumsCompare right.vUbigint left.vUbigint
    else twoNumsCompare right.vBigint left.vBigint
  | .year | .timestamp2 => compareValue (right.vDate - left.vDate : Int)
  | .newDate => compareValue (dateCompare right.vDate left.vDate)
  | .datetime2 => compareValue (datetimeCompare time right.vDate left.vDate)
  | .time2 => compareValue (timeCompare time right.vDate left.vDate)
  | .varchar | .varString | .string => compareValue (cs.strnncollsp right.cStr left.cStr)
  | _ => .uncomparable

/-! ## The order of a column's values -/

/-- The columns whose values are ordered as numbers, other than FLOAT, DOUBLE and DECIMAL. -/
def integerTyped : ColumnType → Bool
  | .tiny _ | .short _ | .int24 _ | .long _ | .longlong _ | .bit _ | .enum _ | .set _ | .year
  | .date | .time _ | .datetime _ | .timestamp _ => true
  | _ => false

/-- FLOAT, DOUBLE and DECIMAL. -/
def realTyped : ColumnType → Bool
  | .float | .double | .newDecimal _ _ => true
  | _ => false

/-- The columns whose values are ordered by their collation. -/
def stringTyped : ColumnType → Bool
  | .varchar _ | .string _ _ => true
  | _ => false

/-- The integer behind a value of an integer-typed column. -/
def intValue (c : ColumnType) (v : CacheVariant) : Int :=
  match c with
  | .set n => if n ≤ 4 then v.vUint32 else v.vUbigint
  | .enum _ => v.vUint32
  | .bit _ => v.vUbigint
  | .tiny u | .short u | .int24 u | .long u => if u then v.vUint32 else v.vInt
  | .longlong u => if u then v.vUbigint else v.vBigint
  | .year | .timestamp _ => v.vDate
  | .date => dateInt v.vDate
  | .datetime _ => datetimeInt time v.vDate
  | .time _ => timeInt time v.vDate
  | _ => 0

/-- The number behind a value that is not a string. -/
def numValue (c : ColumnType) (v : CacheVariant) : Rat :=
  if realTyped c then v.vReal else intValue time c v

/-- `a` comes before `b` in the order of the column. -/
def valueLt (field : Field) (cs : CharsetInfo) (a b : CacheVariant) : Bool :=
  if stringTyped field.columnType then decide (cs.strnncollsp a.vStr b.vStr < 0)
  else decide (numValue time field.columnType a < numValue time field.columnType b)

end

/-- Two values that `compare` tells apart as the column does: real values are equal or at least
`REAL_EPSINON` apart, and strings come in the order of what stands before their first zero
bytes. -/
structure Separated (cs : CharsetInfo) (c : ColumnType) (a b : CacheVariant) : Prop where
  real : realTyped c = true → a.vReal = b.vReal ∨ realEpsinon ≤ |a.vReal - b.vReal|
  string : stringTyped c = true →
    (cs.strnncollsp a.cStr b.cStr).sign = (cs.strnncollsp a.vStr b.vStr).sign

/-- The columns whose values `compare` compares. -/
def Comparable (c : ColumnType) : Prop :=
  integerTyped c = true ∨ realTyped c = true ∨ stringTyped c = true

/-- A column of the given type. -/
def statsField (c : ColumnType) : Field := ⟨"c", c, 0, none, .none, false, false⟩

/-- The result of an exact comparison. -/
def exactCompare (gt lt : Bool) : CompareType := if gt then .great else if lt then .less else .equal

/-! ## `compare` is exact -/

theorem twoNumsCompare_nat (a b : Nat) :
    twoNumsCompare a b = exactCompare (decide ((b : Int) < a)) (decide ((a : Int) < b)) := by
  simp [twoNumsCompare, exactCompare]

theorem twoNumsCompare_int (a b : Int) :
    twoNumsCompare a b = exactCompare (decide (b < a)) (decide (a < b)) := by
  simp [twoNumsCompare, exactCompare]

/-- Different integers differ by more than `REAL_EPSINON`. -/
theorem compareValue_int (v : Int) :
    compareValue v = exactCompare (decide (0 < v)) (decide (v < 0)) := by
  unfold compareValue exactCompare realEpsinon
  rcases lt_trichotomy v 0 with h | rfl | h
  · have hle : (v : Rat) ≤ -1 := by exact_mod_cast (show v ≤ -1 by omega)
    have habs : ¬ |(v : Rat)| < 1 / 100000 := by
      rw [abs_of_neg (by linarith)]
      linarith
    have hneg : ¬ (0 : Rat) < v := by linarith
    rw [if_neg habs, if_neg hneg]
    simp [h, not_lt.mpr h.le]
  · simp
  · have hle : (1 : Rat) ≤ v := by exact_mod_cast (show 1 ≤ v by omega)
    have habs : ¬ |(v : Rat)| < 1 / 100000 := by
      rw [abs_of_pos (by linarith)]
      linarith
    have hpos : (0 : Rat) < v := by linarith
    rw [if_neg habs, if_pos hpos]
    simp [h]

theorem compareValue_sub_int (a b : Int) :
    compareValue ((a - b : Int) : Rat) = exactCompare (decide (b < a)) (decide (a < b)) := by
  have hpos : 0 < a - b ↔ b < a := Int.sub_pos
  have hneg : a - b < 0 ↔ a < b := by omega
  rw [compareValue_int, decide_eq_decide.mpr hpos, decide_eq_decide.mpr hneg]

/-- Values that are equal or `REAL_EPSINON` apart are told apart. -/
theorem compareValue_sub_real {a b : Rat} (h : a = b ∨ realEpsinon ≤ |a - b|) :
    compareValue (a - b) = exactCompare (decide (b < a)) (decide (a < b)) := by
  unfold compareValue exactCompare
  rcases h with rfl | h
  · simp [realEpsinon]
  · have hpos : (0 : Rat) < realEpsinon := by norm_num [realEpsinon]
    rw [if_neg (not_lt.mpr h)]
    rcases lt_trichotomy a b with hlt | rfl | hgt
    · simp [hlt, not_lt.mpr hlt.le]
    · rw [sub_self, abs_zero] at h
      exact absurd h (not_le.mpr hpos)
    · simp [hgt]

section

variable {time : TimePrims} {field : Field} {cs : CharsetInfo} {a b c : CacheVariant}

theorem compare_integer (h : integerTyped field.columnType = true) :
    compare time a b field cs =
      exactCompare (decide (intValue time field.columnType b < intValue time field.columnType a))
        (decide (intValue time field.columnType a < intValue time field.columnType b)) := by
  unfold compare intValue
  cases hc : field.columnType with
  | set n =>
    by_cases hn : n ≤ 4
    · simp only [ColumnType.realType, ColumnType.packLength, hn, if_true]
      exact twoNumsCompare_nat _ _
    · simp only [ColumnType.realType, ColumnType.packLength, hn, if_false]
      exact twoNumsCompare_nat _ _
  | enum n => exact twoNumsCompare_nat _ _
  | bit n => exact twoNumsCompare_nat _ _
  | tiny u | short u | int24 u | long u | longlong u =>
    cases u with
    | true => exact twoNumsCompare_nat _ _
    | false => exact twoNumsCompare_int _ _
  | year => exact compareValue_sub_int _ _
  | timestamp dec => exact compareValue_sub_int _ _
  | date => exact compareValue_sub_int _ _
  | datetime dec => exact compareValue_sub_int _ _
  | time dec => exact compareValue_sub_int _ _
  | _ => rw [hc] at h; cases h

theorem compare_real (h : realTyped field.columnType = true)
    (hsep : a.vReal = b.vReal ∨ realEpsinon ≤ |a.vReal - b.vReal|) :
    compare time a b field cs =
      exactCompare (decide (b.vReal < a.vReal)) (decide (a.vReal < b.vReal)) := by
  unfold compare
  cases hc : field.columnType with
  | float | double => exact compareValue_sub_real hsep
  | newDecimal p q => exact compareValue_sub_real hsep
  | _ => rw [hc] at h; cases h

theorem realTyped_of_integerTyped {t : ColumnType} (h : integerTyped t = true) :
    realTyped t = false ∧ stringTyped t = false := by
  cases t <;> first | exact ⟨rfl, rfl⟩ | cases h

theorem stringTyped_of_realTyped {t : ColumnType} (h : realTyped t = true) :
    stringTyped t = false := by
  cases t <;> first | rfl | cases h

theorem Separated.of_integerTyped {t : ColumnType} (h : integerTyped t = true) :
    Separated cs t a b := by
  obtain ⟨hreal, hstring⟩ := realTyped_of_integerTyped h
  constructor
  · intro h'
    rw [hreal] at h'
    cases h'
  · intro h'
    rw [hstring] at h'
    cases h'

/-- **`compare` follows the order of the column.** -/
theorem compare_exact (hcs : cs.Lawful) (hcmp : Comparable field.columnType)
    (hsep : Separated cs field.columnType a b) :
    compare time a b field cs =
      exactCompare (valueLt time field cs b a) (valueLt time field cs a b) := by
  unfold valueLt numValue
  rcases hcmp with h | h | h
  · obtain ⟨hreal, hstring⟩ := realTyped_of_integerTyped h
    rw [compare_integer h]
    simp only [hreal, hstring, Bool.false_eq_true, if_false, Int.cast_lt]
  · have hstring := stringTyped_of_realTyped h
    rw [compare_real h (hsep.real h)]
    simp only [h, hstring, Bool.false_eq_true, if_false, if_true]
  · have hswap := hcs.swap b.vStr a.vStr
    have hvalue : compare time a b field cs = compareValue (cs.strnncollsp a.cStr b.cStr) := by
      unfold compare
      cases hc : field.columnType <;> first | rfl | (rw [hc] at h; cases h)
    have hsign := hsep.string h
    have hpos : 0 < cs.strnncollsp a.cStr b.cStr ↔ 0 < cs.strnncollsp a.vStr b.vStr := by
      rw [← Int.sign_eq_one_iff_pos, ← Int.sign_eq_one_iff_pos, hsign]
    have hneg : cs.strnncollsp a.cStr b.cStr < 0 ↔ cs.strnncollsp a.vStr b.vStr < 0 := by
      rw [← Int.sign_eq_neg_one_iff_neg, ← Int.sign_eq_neg_one_iff_neg, hsign]
    rw [hvalue, compareValue_int]
    simp only [h, if_true, hswap, hpos, hneg]

/-! ## The order is a strict weak one -/

/-- What comes after `a` and not after `c` leaves `c` after `a`. -/
theorem valueLt_of_lt_of_not_lt (hcs : cs.Lawful) (hab : valueLt time field cs a b = true)
    (hcb : valueLt time field cs c b = false) : valueLt time field cs a c = true := by
  unfold valueLt at *
  by_cases h : stringTyped field.columnType = true
  · simp only [h, if_true, decide_eq_true_eq, decide_eq_false_iff_not] at *
    have hbc : cs.strnncollsp b.vStr c.vStr ≤ 0 := by
      have hswap := hcs.swap c.vStr b.vStr
      omega
    have hac := hcs.trans _ _ _ hab.le hbc
    by_contra hnot
    have hca : cs.strnncollsp c.vStr a.vStr ≤ 0 := by
      have hswap := hcs.swap a.vStr c.vStr
      omega
    have hba := hcs.trans _ _ _ hbc hca
    have hswap := hcs.swap a.vStr b.vStr
    omega
  · simp only [h, if_false, decide_eq_true_eq, decide_eq_false_iff_not, not_lt,
      Bool.false_eq_true] at *
    exact lt_of_lt_of_le hab hcb

theorem valueLt_asymm (hcs : cs.Lawful) (h : valueLt time field cs a b = true) :
    valueLt time field cs b a = false := by
  unfold valueLt at *
  by_cases hs : stringTyped field.columnType = true
  · simp only [hs, if_true, decide_eq_true_eq, decide_eq_false_iff_not] at *
    have hswap := hcs.swap a.vStr b.vStr
    omega
  · simp only [hs, if_false, decide_eq_true_eq, decide_eq_false_iff_not, not_lt,
      Bool.false_eq_true] at *
    exact h.le

theorem valueLt_trans (hcs : cs.Lawful) (hab : valueLt time field cs a b = true)
    (hbc : valueLt time field cs b c = true) : valueLt time field cs a c = true :=
  valueLt_of_lt_of_not_lt hcs hab (valueLt_asymm hcs hbc)

end

end CantianConnector.Cbo
