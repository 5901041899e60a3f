import Mathlib.Algebra.Order.Field.Basic
import CantianConnector.Cbo.Compare

/-!
# The share of a bucket above a key

`percent_in_bucket` interpolates between the endpoints of a bucket. It subtracts values in their
own type and divides afterwards. A difference of unsigned values cannot wrap for a key within the
bucket, and those of the narrow types and of the dates fit theirs; a bucket of a signed INT or
BIGINT column can be wider than the type (`percentInBucket_exact_iff`).
-/

namespace CantianConnector.Cbo

open CantianConnector.Convert

/-! ## The function -/

/-- `DEFAULT_RANGE_DENSITY`. -/
def defaultRangeDensity : Rat := 1 / 2

/-- The result of a signed subtraction in `w` bits; an overflow is undefined. -/
def checked (w : Nat) (v : Int) : Result Int :=
  if SignedRange w v then .ok v else .error .undefined

/-- A subtraction of unsigned numbers of `w` bits. -/
def subUnsigned (w a b : Nat) : Nat := (a + 2 ^ w - b) % 2 ^ w

/-- The case of an unsigned member of `w` bits. -/
def percentUnsigned (w high key low : Nat) : Rat :=
  if low < high then (subUnsigned w high key : Rat) / subUnsigned w high low else 0

/-- The case of a signed member of `w` bits. -/
def percentSigned (w : Nat) (high key low : Int) : Result Rat :=
  if low < high then do
    let numerator ← checked w (high - key)
    let denominator ← checked w (high - low)
    return (numerator : Rat) / denominator
  else .ok 0

/-- The case of a date; `w` is the width of the difference. -/
def percentDate (w : Nat) (high key low : Int) : Result Rat := do
  let denominator ← checked w (high - low)
  if 0 < denominator then do
    let numerator ← checked w (high - key)
    return (numerator : Rat) / denominator
  else return 0

/-- The case of a floating point number. -/
def percentReal (high key low : Rat) : Rat :=
  if 0 < high - low then (high - key) / (high - low) else 0

/-- `ep_high` and `ep_low`. -/
def bucketHigh (colStat : StatsColumn) (high : Nat) : CacheVariant :=
  ((colStat.columnHist[high]?).map ColumnHist.epValue).getD colStat.highValue

def bucketLow (colStat : StatsColumn) (high : Nat) : CacheVariant :=
  if high < 1 then colStat.lowValue
  else ((colStat.columnHist[high - 1]?).map ColumnHist.epValue).getD colStat.highValue

section

variable (time : TimePrims)

/-- `percent_in_bucket`, with the endpoints of the bucket. -/
def percentBetween (epHigh key epLow : CacheVariant) (field : Field) : Result Rat :=
  match field.columnType.realType with
  | .set =>
    if field.columnType.packLength ≤ 4 then
      .ok (percentUnsigned 32 epHigh.vUint32 key.vUint32 epLow.vUint32)
    else .ok (percentUnsigned 64 epHigh.vUbigint key.vUbigint epLow.vUbigint)
  | .enum => .ok (percentUnsigned 32 epHigh.vUint32 key.vUint32 epLow.vUint32)
  | .bit => .ok (percentUnsigned 64 epHigh.vUbigint key.vUbigint epLow.vUbigint)
  | .tiny | .short | .int24 | .long =>
    if field.columnType.isUnsigned then
      .ok (percentUnsigned 32 epHigh.vUint32 key.vUint32 epLow.vUint32)
    else percentSigned 32 epHigh.vInt key.vInt epLow.vInt
  | .float | .double | .decimal | .newDecimal =>
    .ok (percentReal epHigh.vReal key.vReal epLow.vReal)
  | .longlong =>
    if field.columnType.isUnsigned then
      .ok (percentUnsigned 64 epHigh.vUbigint key.vUbigint epLow.vUbigint)
    else percentSigned 64 epHigh.vBigint key.vBigint epLow.vBigint
  | .year | .timestamp2 => percentDate 64 epHigh.vDate key.vDate epLow.vDate
  -- date_compare
  | .newDate => percentDate 32 (dateInt epHigh.vDate) (dateInt key.vDate) (dateInt epLow.vDate)
  -- datetime_compare
  | .datetime2 =>
    percentDate 64 (datetimeInt time epHigh.vDate) (datetimeInt time key.vDate)
      (datetimeInt time epLow.vDate)
  -- time_compare
  | .time2 =>
    percentDate 64 (timeInt time epHigh.vDate) (timeInt time key.vDate)
      (timeInt time epLow.vDate)
  | _ => .ok defaultRangeDensity

/-- `percent_in_bucket`. -/
def percentInBucket (colStat : StatsColumn) (high : Nat) (key : CacheVariant) (field : Field) :
    Result Rat :=
  percentBetween time (bucketHigh colStat high) key (bucketLow colStat high) field

/-! ## Values of a column -/

/-- The range of an unsigned integer of `w` bits. -/
def UnsignedRange (w : Nat) (v : Nat) : Prop := v < 2 ^ w

/-- The values that an integer-typed column can have. Dates are encodings of dates the connector
accepts; the server packs DATETIME values into non-negative numbers of 63 bits, and TIME values
into fewer. -/
def ValueOf (c : ColumnType) (v : CacheVariant) : Prop :=
  match c with
  | .tiny u => if u then UnsignedRange 8 v.vUint32 else SignedRange 8 v.vInt
  | .short u => if u then UnsignedRange 16 v.vUint32 else SignedRange 16 v.vInt
  | .int24 u => if u then UnsignedRange 24 v.vUint32 else SignedRange 24 v.vInt
  | .long u => if u then UnsignedRange 32 v.vUint32 else SignedRange 32 v.vInt
  | .longlong u => if u then UnsignedRange 64 v.vUbigint else SignedRange 64 v.vBigint
  | .bit _ => UnsignedRange 64 v.vUbigint
  | .enum _ => UnsignedRange 16 v.vUint32
  | .set n => if n ≤ 4 then UnsignedRange 32 v.vUint32 else UnsignedRange 64 v.vUbigint
  | .year | .timestamp _ =>
    ∃ d, checkDatetimeVaild d = true ∧ cmEncodeDate .release d = .ok v.vDate
  | .datetime _ => 0 ≤ datetimeInt time v.vDate ∧ datetimeInt time v.vDate < 2 ^ 63
  | .time _ => SignedRange 63 (timeInt time v.vDate)
  | _ => True

/-- The differences that fit the type of a signed INT or BIGINT. -/
def DifferenceFits (c : ColumnType) (difference : Int) : Prop :=
  match c with
  | .long false => difference < 2 ^ 31
  | .longlong false => difference < 2 ^ 63
  | _ => True

/-- The interpolation is the one meant: no subtraction overflows, and the share of the bucket
above the key is a number from 0 to 1. -/
def BucketExact (colStat : StatsColumn) (high : Nat) (key : CacheVariant) (field : Field) : Prop :=
  let value := fun v => (intValue time field.columnType v : Rat)
  ∃ percent, percentInBucket time colStat high key field = .ok percent ∧
    percent = (value (bucketHigh colStat high) - value key) /
      (value (bucketHigh colStat high) - value (bucketLow colStat high)) ∧
    0 ≤ percent ∧ percent ≤ 1

end

/-! ## The cases -/

theorem UnsignedRange.mono {n w v : Nat} (h : UnsignedRange n v) (hnw : n ≤ w) :
    UnsignedRange w v :=
  lt_of_lt_of_le h (Nat.pow_le_pow_right (by decide) hnw)

/-- The difference of two signed values fits one bit more. -/
theorem signed_difference {n w : Nat} {a b : Int} (ha : SignedRange n a) (hb : SignedRange n b)
    (hn : 1 ≤ n) (hnw : n < w) : a - b < 2 ^ (w - 1) := by
  have hpow : (2 : Int) ^ (n - 1) * 2 ≤ 2 ^ (w - 1) := by
    rw [← pow_succ, Nat.sub_add_cancel hn]
    exact pow_le_pow_right₀ (by decide) (by omega)
  have h1 := ha.2
  have h2 := hb.1
  omega

theorem subUnsigned_eq {w a b : Nat} (ha : UnsignedRange w a) (h : b ≤ a) :
    subUnsigned w a b = a - b := by
  unfold subUnsigned UnsignedRange at *
  have hsplit : a + 2 ^ w - b = (a - b) + 2 ^ w := by omega
  rw [hsplit, Nat.add_mod_right, Nat.mod_eq_of_lt (by omega)]

/-- Differences of unsigned values do not wrap within a bucket. -/
theorem percentUnsigned_eq {w high key low : Nat} (hhigh : UnsignedRange w high)
    (hkey : (key : Int) ≤ high) (hlt : (low : Int) < high) :
    percentUnsigned w high key low =
      (((high : Int) - key : Int) : Rat) / ((high : Int) - low : Int) := by
  rw [Int.ofNat_le] at hkey
  rw [Int.ofNat_lt] at hlt
  rw [percentUnsigned, if_pos hlt, subUnsigned_eq hhigh hkey, subUnsigned_eq hhigh hlt.le,
    Nat.cast_sub hkey, Nat.cast_sub hlt.le]
  push_cast
  rfl

theorem checked_eq {w : Nat} {v d : Int} (hv : 0 ≤ v) (hle : v ≤ d) (hd : d < 2 ^ (w - 1)) :
    checked w v = .ok v := by
  have hpos : (0 : Int) < 2 ^ (w - 1) := by positivity
  unfold checked
  rw [if_pos]
  exact ⟨by omega, by omega⟩

theorem percentSigned_eq {w : Nat} {high key low : Int} (hlow : low ≤ key) (hkey : key ≤ high)
    (hlt : low < high) (hfits : high - low < 2 ^ (w - 1)) :
    percentSigned w high key low = .ok (((high - key : Int) : Rat) / (high - low : Int)) := by
  rw [percentSigned, if_pos hlt, checked_eq (d := high - low) (by omega) (by omega) hfits,
    checked_eq (d := high - low) (by omega) le_rfl hfits]
  rfl

/-- A bucket wider than the type. -/
theorem percentSigned_overflow {w : Nat} {high key low : Int} (hlt : low < high)
    (hwide : ¬ high - low < 2 ^ (w - 1)) : percentSigned w high key low = .error .undefined := by
  have hden : checked w (high - low) = .error .undefined := by
    unfold checked
    rw [if_neg]
    exact fun h => hwide h.2
  rw [percentSigned, if_pos hlt, hden]
  cases hnum : checked w (high - key) with
  | ok numerator => rfl
  | error e =>
    unfold checked at hnum
    split at hnum
    · cases hnum
    · cases hnum
      rfl

theorem percentDate_eq {w : Nat} {high key low : Int} (hlow : low ≤ key) (hkey : key ≤ high)
    (hlt : low < high) (hfits : high - low < 2 ^ (w - 1)) :
    percentDate w high key low = .ok (((high - key : Int) : Rat) / (high - low : Int)) := by
  rw [percentDate, checked_eq (d := high - low) (by omega) le_rfl hfits, result_bind_ok,
    if_pos (by omega), checked_eq (d := high - low) (by omega) (by omega) hfits]
  rfl

/-- A share of a bucket lies between 0 and 1. -/
theorem share_bounds {high key low : Int} (hlow : low ≤ key) (hkey : key ≤ high)
    (hlt : low < high) :
    0 ≤ ((high - key : Int) : Rat) / (high - low : Int) ∧
      ((high - key : Int) : Rat) / (high - low : Int) ≤ 1 := by
  have hden : (0 : Rat) < ((high - low : Int) : Rat) := by exact_mod_cast Int.sub_pos.mpr hlt
  constructor
  · apply div_nonneg
    · exact_mod_cast Int.sub_nonneg.mpr hkey
    · exact hden.le
  · rw [div_le_one hden]
    exact_mod_cast (show high - key ≤ high - low by omega)

/-! ## Integer-typed columns -/

section

variable {time : TimePrims} {field : Field} {epHigh key epLow : CacheVariant}

/-- The difference of two values of a column of dates. -/
theorem date_difference {a b : Int} {d : DateDetail} {e : DateDetail}
    (hd : checkDatetimeVaild d = true) (ha : cmEncodeDate .release d = .ok a)
    (he : checkDatetimeVaild e = true) (hb : cmEncodeDate .release e = .ok b) :
    a - b < 2 ^ (64 - 1) := by
  have h1 := cmEncodeDate_bounds hd ha
  have h2 := cmEncodeDate_bounds he hb
  unfold cmAllZeroDatetime at *
  omega

/-- The interpolation where the difference fits. -/
theorem percentBetween_fits (hint : integerTyped field.columnType = true)
    (hvhigh : ValueOf time field.columnType epHigh) (hvlow : ValueOf time field.columnType epLow)
    (hlow : intValue time field.columnType epLow ≤ intValue time field.columnType key)
    (hkey : intValue time field.columnType key ≤ intValue time field.columnType epHigh)
    (hlt : intValue time field.columnType epLow < intValue time field.columnType epHigh)
    (hfits : DifferenceFits field.columnType
      (intValue time field.columnType epHigh - intValue time field.columnType epLow)) :
    percentBetween time epHigh key epLow field =
      .ok
        (((intValue time field.columnType epHigh - intValue time field.columnType key : Int) : Rat) /
          (intValue time field.columnType epHigh -
            intValue time field.columnType epLow : Int)) := by
  unfold percentBetween
  cases hc : field.columnType <;> rw [hc] at hint hvhigh hvlow hlow hkey hlt hfits
  case float | double | newDecimal | varchar | string | blob | json => cases hint
  case enum n =>
    have hrange : UnsignedRange 16 epHigh.vUint32 := hvhigh
    exact congrArg Except.ok (percentUnsigned_eq (hrange.mono (by decide)) hkey hlt)
  case bit n => exact congrArg Except.ok (percentUnsigned_eq hvhigh hkey hlt)
  case set n =>
    unfold ValueOf at hvhigh
    by_cases hn : n ≤ 4
    · simp only [intValue, hn, if_true] at hvhigh hkey hlt
      simp only [ColumnType.realType, ColumnType.packLength, intValue, hn, if_true]
      exact congrArg Except.ok (percentUnsigned_eq hvhigh hkey hlt)
    · simp only [intValue, hn, if_false] at hvhigh hkey hlt
      simp only [ColumnType.realType, ColumnType.packLength, intValue, hn, if_false]
      exact congrArg Except.ok (percentUnsigned_eq hvhigh hkey hlt)
  case year | timestamp =>
    obtain ⟨d, hd, hhighDate⟩ := hvhigh
    obtain ⟨e, he, hlowDate⟩ := hvlow
    exact percentDate_eq hlow hkey hlt (date_difference hd hhighDate he hlowDate)
  case date =>
    have hthree : dateInt epHigh.vDate - dateInt epLow.vDate < 2 ^ (32 - 1) := by
      unfold dateInt
      omega
    exact percentDate_eq hlow hkey hlt hthree
  case datetime dec =>
    have hpacked : datetimeInt time epHigh.vDate - datetimeInt time epLow.vDate < 2 ^ (64 - 1) := by
      have h1 := hvhigh.2
      have h2 := hvlow.1
      omega
    exact percentDate_eq hlow hkey hlt hpacked
  case time dec =>
    exact percentDate_eq hlow hkey hlt (signed_difference hvhigh hvlow (by decide) (by decide))
  case long u =>
    cases u with
    | true => exact congrArg Except.ok (percentUnsigned_eq hvhigh hkey hlt)
    | false => exact percentSigned_eq hlow hkey hlt hfits
  case longlong u =>
    cases u with
    | true => exact congrArg Except.ok (percentUnsigned_eq hvhigh hkey hlt)
    | false => exact percentSigned_eq hlow hkey hlt hfits
  -- TINYINT, SMALLINT and MEDIUMINT are computed in 32 bits
  all_goals
    rename_i u
    cases u with
    | true =>
      simp only [ValueOf, if_true] at hvhigh
      exact congrArg Except.ok (percentUnsigned_eq (hvhigh.mono (by decide)) hkey hlt)
    | false =>
      simp only [ValueOf, Bool.false_eq_true, if_false] at hvhigh hvlow
      exact percentSigned_eq hlow hkey hlt
        (signed_difference hvhigh hvlow (by decide) (by decide))

/-- A bucket of a signed INT or BIGINT column that is too wide. -/
theorem percentBetween_overflow
    (hlt : intValue time field.columnType epLow < intValue time field.columnType epHigh)
    (hwide : ¬ DifferenceFits field.columnType
      (intValue time field.columnType epHigh - intValue time field.columnType epLow)) :
    percentBetween time epHigh key epLow field = .error .undefined := by
  unfold percentBetween
  cases hc : field.columnType <;> rw [hc] at hlt hwide
  case long u =>
    cases u with
    | true => exact absurd trivial hwide
    | false => exact percentSigned_overflow hlt hwide
  case longlong u =>
    cases u with
    | true => exact absurd trivial hwide
    | false => exact percentSigned_overflow hlt hwide
  all_goals exact absurd trivial hwide

/-- **The interpolation is exact if and only if the bucket is not wider than the signed type it is
computed in.** -/
theorem percentInBucket_exact_iff {colStat : StatsColumn} {high : Nat}
    (hint : integerTyped field.columnType = true)
    (hvhigh : ValueOf time field.columnType (bucketHigh colStat high))
    (hvlow : ValueOf time field.columnType (bucketLow colStat high))
    (hlow : intValue time field.columnType (bucketLow colStat high) ≤
      intValue time field.columnType key)
    (hkey : intValue time field.columnType key ≤
      intValue time field.columnType (bucketHigh colStat high))
    (hlt : intValue time field.columnType (bucketLow colStat high) <
      intValue time field.columnType (bucketHigh colStat high)) :
    BucketExact time colStat high key field ↔
      DifferenceFits field.columnType (intValue time field.columnType (bucketHigh colStat high) -
        intValue time field.columnType (bucketLow colStat high)) := by
  constructor
  · rintro ⟨percent, hpercent, -⟩
    by_contra hwide
    rw [percentInBucket, percentBetween_overflow hlt hwide] at hpercent
    cases hpercent
  · intro hfits
    have hbounds := share_bounds hlow hkey hlt
    refine ⟨_, percentBetween_fits hint hvhigh hvlow hlow hkey hlt hfits, ?_, hbounds⟩
    push_cast
    rfl

end

/-- The statistics of an INT column with one endpoint. -/
def oneBucket (low high : Int) : StatsColumn :=
  ⟨0, 1, .heightBalanced, [⟨{ vInt := high }, 1⟩], { vInt := low }, { vInt := high }⟩

/-- The key 2 in the bucket from 1 to 5. -/
theorem percentInBucket_exact_iff_1_5 :
    BucketExact ServerPrims.none.time (oneBucket 1 5) 0 { vInt := 2 } (statsField (.long false)) ↔
      DifferenceFits (statsField (.long false)).columnType
        (intValue ServerPrims.none.time (statsField (.long false)).columnType
            (bucketHigh (oneBucket 1 5) 0) -
          intValue ServerPrims.none.time (statsField (.long false)).columnType
            (bucketLow (oneBucket 1 5) 0)) :=
  percentInBucket_exact_iff rfl ⟨by decide, by decide⟩ ⟨by decide, by decide⟩ (by decide)
    (by decide) (by decide)

/-- The bucket of all INT values, with the key 0. -/
theorem not_bucketExact_int :
    ¬ BucketExact ServerPrims.none.time (oneBucket (-2147483648) 2147483647) 0 { vInt := 0 }
      (statsField (.long false)) := by
  have hwide : ¬ (4294967295 : Int) < 2 ^ 31 := by decide
  have hover : percentInBucket ServerPrims.none.time (oneBucket (-2147483648) 2147483647) 0
      { vInt := 0 } (statsField (.long false)) = .error .undefined := by
    apply percentBetween_overflow
    · decide
    · exact hwide
  rintro ⟨percent, hpercent, -⟩
  rw [hover] at hpercent
  cases hpercent

end CantianConnector.Cbo
