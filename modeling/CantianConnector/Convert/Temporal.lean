import CantianConnector.Lib.Bytes
import CantianConnector.Convert.Date
import CantianConnector.Convert.Field

/-!
# Date and time columns

The conversions of `datatype_cnvrtr.cc` between the bytes of a temporal MySQL column and the
eight bytes Cantian stores for it. TIME and DATETIME keep MySQL's packed format with six
decimals, DATE keeps its three bytes, YEAR and TIMESTAMP become a Cantian date.

`TemporalStorable` says what a stored column image is: the server's packing functions are
inverse to each other on it. Under it every conversion can be undone
(`convertDatetime_round_trip`).
-/

namespace CantianConnector.Convert

/-! ## The functions -/

/-- `my_date_to_binary`, of which `decode_mysql_date_type` is the reverse. -/
def myDateToBinary (t : MysqlTime) : List UInt8 :=
  Bytes.le 3 (t.day + t.month * 32 + t.year * 16 * 32)

/-- `decode_mysql_date_type`. -/
def decodeMysqlDateType (mysql : List UInt8) : MysqlTime :=
  let tmp := Bytes.ofLe (mysql.take 3)
  { year := tmp / 16 / 32, month := tmp / 32 % 16, day := tmp % 32 }

/-- `decode_mysql_year_type`. -/
def decodeMysqlYearType (mysql : List UInt8) : MysqlTime :=
  let year := Bytes.ofLe (mysql.take 1)
  if year = 0 then {} else { year := year + 1900, month := 1, day := 1 }

/-- The fields `decode_mysql_time_type` and `cnvrt_time_decimal` fill in. -/
def fillDate (t : MysqlTime) : MysqlTime := { t with year := 1900, month := 1, day := 1 }

/-- `decode_mysql_datetime` with the functions of its cases. -/
def decodeMysqlDatetime (build : Build) (prims : TimePrims) (mysqlInfo : FieldCnvrtAux)
    (mysql : List UInt8) (field : Field) : Result MysqlTime :=
  let dec := field.columnType.decimals
  match mysqlInfo.mysqlFieldType with
  | .year => .ok (decodeMysqlYearType mysql)
  | .time =>
    .ok (fillDate (prims.timeFromLonglongTimePacked (prims.myTimePackedFromBinary mysql dec)))
  | .date => .ok (decodeMysqlDateType mysql)
  | .datetime =>
    .ok (prims.timeFromLonglongDatetimePacked (prims.myDatetimePackedFromBinary mysql dec))
  | .timestamp =>
    let tm := prims.myTimestampFromBinary mysql dec
    .ok (if tm.1 = 0 then {} else prims.gmtSecToTime tm)
  | _ => do
    cAssert build false
    return {}

/-- `check_zero_time_ltime`. -/
def checkZeroTimeLtime (t : MysqlTime) : Bool :=
  t.year == 0 && t.month == 0 && t.day == 0 && t.hour == 0 && t.minute == 0 && t.second == 0 &&
    t.secondPart == 0

/-- `assign_mysql_date_detail`. -/
def assignMysqlDateDetail (mysqlFieldType : FieldType) (ltime : MysqlTime) : DateDetail :=
  let ltime :=
    if mysqlFieldType = .time then
      { ltime with
        year := if ltime.year = 0 then 1900 else ltime.year
        month := if ltime.month = 0 then 1 else ltime.month
        day := if ltime.day = 0 then 1 else ltime.day }
    else ltime
  { day := if ltime.year = 0 then 0 else ltime.day
    mon := if ltime.year = 0 then 0 else ltime.month
    year := ltime.year
    sec := ltime.second
    min := ltime.minute
    hour := ltime.hour
    millisec := ltime.secondPart / 1000
    microsec := ltime.secondPart % 1000
    nanosec := 0 }

/-- `tmp_ptr`: eight zero bytes with an image stored at the front. -/
def tmpPtr (image : List UInt8) : List UInt8 := (image ++ List.replicate 8 0).take 8

/-- `cnvrt_time_decimal`. -/
def cnvrtTimeDecimal (prims : TimePrims) (src : List UInt8) (srcDec desDec length : Nat) :
    List UInt8 :=
  let packed := prims.myTimePackedFromBinary src srcDec
  let ltime := fillDate (prims.timeFromLonglongTimePacked packed)
  let ll := prims.timeToLonglongTimePacked ltime
  (tmpPtr (prims.myTimePackedToBinary ll desDec)).take length

/-- `cnvrt_datetime_decimal`. -/
def cnvrtDatetimeDecimal (prims : TimePrims) (src : List UInt8) (srcDec desDec length : Nat) :
    List UInt8 :=
  let packed := prims.myDatetimePackedFromBinary src srcDec
  let ltime := prims.timeFromLonglongDatetimePacked packed
  let ll := prims.timeToLonglongDatetimePacked ltime
  (tmpPtr (prims.myDatetimePackedToBinary ll desDec)).take length

/-- `convert_datetime_to_cantian`: the eight bytes stored for the column. -/
def convertDatetimeToCantian (build : Build) (prims : TimePrims) (mysqlInfo : FieldCnvrtAux)
    (mysql : List UInt8) (field : Field) : Result (List UInt8) :=
  match mysqlInfo.mysqlFieldType with
  | .time => .ok (cnvrtTimeDecimal prims mysql field.columnType.decimals datetimeMaxDecimals 8)
  | .datetime =>
    .ok (cnvrtDatetimeDecimal prims mysql field.columnType.decimals datetimeMaxDecimals 8)
  | .date => .ok (tmpPtr (mysql.take field.columnType.packLength))
  | _ => do
    let ltime ← decodeMysqlDatetime build prims mysqlInfo mysql field
    let date ← cmEncodeDate build (assignMysqlDateDetail mysqlInfo.mysqlFieldType ltime)
    return Bytes.le 8 (Bytes.wrap 8 date)

/-- `ctc_datetime_with_no_zero_in_date_to_timeval` in the zone `my_tz_OFFSET0`; `none` when it
sets a warning. -/
def ctcDatetimeWithNoZeroInDateToTimeval (build : Build) (prims : TimePrims) (ltime : MysqlTime) :
    Result (Option (Nat × Nat)) := do
  if ltime.month = 0 then
    cAssert build (ltime.year == 0 && ltime.day == 0)
    let nonZeroTime := ltime.hour != 0 || ltime.minute != 0 || ltime.second != 0 ||
      ltime.secondPart != 0
    return if nonZeroTime then none else some (0, 0)
  else
    let sec := prims.timeToGmtSec ltime
    return if sec = 0 then none else some (sec, ltime.secondPart)

/-- The bytes `ctc_my_timestamp_to_binary` stores. -/
def timestampBinary (tm : Nat × Nat) (dec : Nat) : List UInt8 :=
  Bytes.be 4 tm.1 ++
    match dec with
    | 1 | 2 => [UInt8.ofNat (tm.2 / 10000)]
    | 3 | 4 => Bytes.be 2 (tm.2 / 100)
    | 5 | 6 => Bytes.be 3 tm.2
    | _ => []

/-- `ctc_my_timestamp_to_binary`. -/
def ctcMyTimestampToBinary (build : Build) (tm : Nat × Nat) (dec : Nat) : Result (List UInt8) := do
  cAssert build (decide (dec ≤ datetimeMaxDecimals))
  cAssert build (tm.2 % 10 ^ (datetimeMaxDecimals - dec) == 0)
  return timestampBinary tm dec

/-- The `MYSQL_TIME` built from a decoded TIMESTAMP. -/
def timestampLtime (d : DateDetail) : MysqlTime :=
  { year := d.year, month := d.mon, day := d.day, hour := d.hour, minute := d.min, second := d.sec
    secondPart := d.millisec * 1000 + d.microsec, neg := false }

/-- `convert_datetime_to_mysql`: the bytes stored in the MySQL record. `read_only_in_ct` is
only ever set to `false`, so the DATETIME case of its `switch` is not reached. -/
def convertDatetimeToMysql (build : Build) (prims : TimePrims) (mysqlInfo : FieldCnvrtAux)
    (cantian : List UInt8) (field : Field) : Result (List UInt8) :=
  let dec := field.columnType.decimals
  let packLength := field.columnType.packLength
  let dateDetail := cmDecodeDate (Bytes.signed 8 (Bytes.ofLe (cantian.take 8)))
  match mysqlInfo.mysqlFieldType with
  | .date => .ok (cantian.take packLength)
  | .time => .ok (cnvrtTimeDecimal prims cantian datetimeMaxDecimals dec packLength)
  | .datetime => .ok (cnvrtDatetimeDecimal prims cantian datetimeMaxDecimals dec packLength)
  | .year => .ok [UInt8.ofNat (if dateDetail.year = 0 then 0 else dateDetail.year - 1900)]
  | .timestamp => do
    let tm ← ctcDatetimeWithNoZeroInDateToTimeval build prims (timestampLtime dateDetail)
    match tm with
    | none => do
      cAssert build false
      .error .undefined
    | some tm => ctcMyTimestampToBinary build tm dec
  | _ => do
    cAssert build false
    return []

/-! ## What the server stores -/

/-- A stored TIME image. Filling in a date does not change the packed value, because
`TIME_to_longlong_time_packed` ignores the day of a value with a month. -/
structure TimeStorable (prims : TimePrims) (dec : Nat) (image : List UInt8) : Prop where
  dec_le : dec ≤ 6
  length : image.length = 3 + (dec + 1) / 2
  packed : prims.timeToLonglongTimePacked
    (fillDate (prims.timeFromLonglongTimePacked (prims.myTimePackedFromBinary image dec))) =
      prims.myTimePackedFromBinary image dec
  widen : prims.myTimePackedFromBinary
    (tmpPtr (prims.myTimePackedToBinary (prims.myTimePackedFromBinary image dec)
      datetimeMaxDecimals)) datetimeMaxDecimals = prims.myTimePackedFromBinary image dec
  narrow : prims.myTimePackedToBinary (prims.myTimePackedFromBinary image dec) dec = image

/-- A stored DATETIME image. -/
structure DatetimeStorable (prims : TimePrims) (dec : Nat) (image : List UInt8) : Prop where
  dec_le : dec ≤ 6
  length : image.length = 5 + (dec + 1) / 2
  packed : prims.timeToLonglongDatetimePacked
    (prims.timeFromLonglongDatetimePacked (prims.myDatetimePackedFromBinary image dec)) =
      prims.myDatetimePackedFromBinary image dec
  widen : prims.myDatetimePackedFromBinary
    (tmpPtr (prims.myDatetimePackedToBinary (prims.myDatetimePackedFromBinary image dec)
      datetimeMaxDecimals)) datetimeMaxDecimals = prims.myDatetimePackedFromBinary image dec
  narrow : prims.myDatetimePackedToBinary (prims.myDatetimePackedFromBinary image dec) dec = image

/-- A stored TIMESTAMP image: zero, or a moment whose UTC date the server computes and reads
back. -/
structure TimestampStorable (prims : TimePrims) (dec : Nat) (image : List UInt8) : Prop where
  dec_le : dec ≤ 6
  length : image.length = 4 + (dec + 1) / 2
  stored : timestampBinary (prims.myTimestampFromBinary image dec) dec = image
  rounded : (prims.myTimestampFromBinary image dec).2 % 10 ^ (datetimeMaxDecimals - dec) = 0
  zero : (prims.myTimestampFromBinary image dec).1 = 0 →
    (prims.myTimestampFromBinary image dec).2 = 0
  date : (prims.myTimestampFromBinary image dec).1 ≠ 0 →
    ValidDate (assignMysqlDateDetail .timestamp
      (prims.gmtSecToTime (prims.myTimestampFromBinary image dec))) ∧
    (prims.gmtSecToTime (prims.myTimestampFromBinary image dec)).neg = false ∧
    (prims.gmtSecToTime (prims.myTimestampFromBinary image dec)).secondPart =
      (prims.myTimestampFromBinary image dec).2 ∧
    prims.timeToGmtSec (prims.gmtSecToTime (prims.myTimestampFromBinary image dec)) =
      (prims.myTimestampFromBinary image dec).1

/-- The images of temporal columns. -/
def TemporalStorable (prims : TimePrims) (c : ColumnType) (image : List UInt8) : Prop :=
  match c with
  | .time dec => TimeStorable prims dec image
  | .datetime dec => DatetimeStorable prims dec image
  | .timestamp dec => TimestampStorable prims dec image
  | .date => image.length = 3
  | .year => image.length = 1
  | _ => False

/-! ## Round trips -/

@[simp] theorem length_tmpPtr (image : List UInt8) : (tmpPtr image).length = 8 := by
  simp [tmpPtr]

theorem convertDatetimeToCantian_congr {build : Build} {prims : TimePrims}
    {mysqlInfo mysqlInfo' : FieldCnvrtAux} {field field' : Field}
    (hinfo : mysqlInfo.mysqlFieldType = mysqlInfo'.mysqlFieldType)
    (hc : field.columnType = field'.columnType) (image : List UInt8) :
    convertDatetimeToCantian build prims mysqlInfo image field =
      convertDatetimeToCantian build prims mysqlInfo' image field' := by
  unfold convertDatetimeToCantian decodeMysqlDatetime
  rw [hinfo, hc]

theorem take_tmpPtr {image : List UInt8} {n : Nat} (h : image.length = n) (h8 : n ≤ 8) :
    (tmpPtr image).take n = image := by
  rw [tmpPtr, List.take_take, Nat.min_eq_left h8, List.take_append_of_le_length (by omega),
    List.take_of_length_le (by omega)]

theorem cnvrtTimeDecimal_round_trip {prims : TimePrims} {dec : Nat} {image : List UInt8}
    (h : TimeStorable prims dec image) :
    cnvrtTimeDecimal prims (cnvrtTimeDecimal prims image dec datetimeMaxDecimals 8)
      datetimeMaxDecimals dec (3 + (dec + 1) / 2) = image := by
  have hdec := h.dec_le
  have hwide : cnvrtTimeDecimal prims image dec datetimeMaxDecimals 8 =
      tmpPtr (prims.myTimePackedToBinary (prims.myTimePackedFromBinary image dec)
        datetimeMaxDecimals) := by
    unfold cnvrtTimeDecimal
    dsimp only
    rw [h.packed, List.take_of_length_le (by simp)]
  rw [hwide]
  unfold cnvrtTimeDecimal
  dsimp only
  rw [h.widen, h.packed, h.narrow, take_tmpPtr h.length (by omega)]

theorem cnvrtDatetimeDecimal_round_trip {prims : TimePrims} {dec : Nat} {image : List UInt8}
    (h : DatetimeStorable prims dec image) :
    cnvrtDatetimeDecimal prims (cnvrtDatetimeDecimal prims image dec datetimeMaxDecimals 8)
      datetimeMaxDecimals dec (5 + (dec + 1) / 2) = image := by
  have hdec := h.dec_le
  have hwide : cnvrtDatetimeDecimal prims image dec datetimeMaxDecimals 8 =
      tmpPtr (prims.myDatetimePackedToBinary (prims.myDatetimePackedFromBinary image dec)
        datetimeMaxDecimals) := by
    unfold cnvrtDatetimeDecimal
    dsimp only
    rw [h.packed, List.take_of_length_le (by simp)]
  rw [hwide]
  unfold cnvrtDatetimeDecimal
  dsimp only
  rw [h.widen, h.packed, h.narrow, take_tmpPtr h.length (by omega)]

/-- The date of a valid column fits eight bytes. -/
theorem signed_wrap_dateValue {d : DateDetail} (h : ValidDate d) :
    Bytes.signed 8 (Bytes.wrap 8 (dateValue d)) = dateValue d := by
  have hd := dayOfYear_bounds h
  have hy := yearDays_bounds d.year
  have hm := dayMicros_bounds h
  have ht := totalDaysBeforeDate_eq d
  have hb := daysBeforeYear_eq h.year.1
  have hyear := h.year
  rw [dateValue_eq]
  unfold cmBaselineDay at ht
  unfold unitsPerDay at hm ⊢
  exact Bytes.signed_wrap (by omega) (by omega)

/-- Storing a Cantian date and decoding it. -/
theorem cmDecodeDate_stored {d : DateDetail} (h : ValidDate d) :
    cmDecodeDate (Bytes.signed 8 (Bytes.ofLe ((Bytes.le 8 (Bytes.wrap 8 (dateValue d))).take 8))) =
      d := by
  rw [List.take_of_length_le (by simp), Bytes.ofLe_le_of_lt (Bytes.wrap_lt 8 _),
    signed_wrap_dateValue h, cmDecodeDate_dateValue h]

theorem cmDecodeDate_stored_zero :
    cmDecodeDate (Bytes.signed 8 (Bytes.ofLe
      ((Bytes.le 8 (Bytes.wrap 8 cmAllZeroDatetime)).take 8))) = {} := by
  rw [List.take_of_length_le (by simp), Bytes.ofLe_le_of_lt (Bytes.wrap_lt 8 _),
    Bytes.signed_wrap (by decide) (by decide), cmDecodeDate, if_pos rfl]

/-- The date of a YEAR column. -/
theorem validDate_year {b : Nat} (h1 : 1 ≤ b) (h2 : b < 256) :
    ValidDate (assignMysqlDateDetail .year { year := b + 1900, month := 1, day := 1 }) := by
  constructor
  · simp [assignMysqlDateDetail]
    omega
  all_goals simp [assignMysqlDateDetail, monthDays]

theorem timestampLtime_assign {t : MysqlTime} (hneg : t.neg = false)
    (h : ValidDate (assignMysqlDateDetail .timestamp t)) :
    timestampLtime (assignMysqlDateDetail .timestamp t) = t := by
  have hyear : t.year ≠ 0 := by
    have := h.year.1
    simp only [assignMysqlDateDetail] at this
    intro h0
    simp [h0] at this
  obtain ⟨y, mo, d, hh, mi, se, us, ng⟩ := t
  simp only at hneg hyear
  have hsub : us / 1000 * 1000 + us % 1000 = us := by omega
  simp only [timestampLtime, assignMysqlDateDetail, reduceCtorEq, if_false, if_neg hyear, hneg,
    hsub]

section

variable {build : Build} {prims : TimePrims} {mysqlInfo : FieldCnvrtAux} {field : Field}
  {image : List UInt8}

theorem convertYear_round_trip (hinfo : mysqlInfo.mysqlFieldType = .year)
    (h : image.length = 1) :
    ∃ cantian, convertDatetimeToCantian build prims mysqlInfo image field = .ok cantian ∧
      cantian.length = 8 ∧
      convertDatetimeToMysql build prims mysqlInfo cantian field = .ok image := by
  obtain ⟨b, rfl⟩ := List.length_eq_one_iff.mp h
  have hb : b.toNat < 256 := b.toNat_lt
  by_cases hz : b.toNat = 0
  · have hb0 : b = 0 := UInt8.toNat_inj.mp hz
    refine ⟨Bytes.le 8 (Bytes.wrap 8 cmAllZeroDatetime), ?_, by simp, ?_⟩
    · simp [convertDatetimeToCantian, decodeMysqlDatetime, hinfo, decodeMysqlYearType, hb0,
        Bytes.ofLe, assignMysqlDateDetail, cmEncodeDate, checkZeroDate]
    · simp only [convertDatetimeToMysql, hinfo, cmDecodeDate_stored_zero, if_true, hb0]
      rfl
  · have hvalid := validDate_year (show 1 ≤ b.toNat by omega) hb
    refine ⟨Bytes.le 8 (Bytes.wrap 8 (dateValue (assignMysqlDateDetail .year
        { year := b.toNat + 1900, month := 1, day := 1 }))), ?_, Bytes.length_le 8 _, ?_⟩
    · have hl : decodeMysqlYearType [b] = { year := b.toNat + 1900, month := 1, day := 1 } := by
        simp [decodeMysqlYearType, Bytes.ofLe, hz]
      simp only [convertDatetimeToCantian, decodeMysqlDatetime, hinfo, hl, result_bind_ok,
        cmEncodeDate_valid build hvalid, result_pure]
    · simp only [convertDatetimeToMysql, hinfo, cmDecodeDate_stored hvalid]
      simp [assignMysqlDateDetail]

theorem convertTimestamp_round_trip (hinfo : mysqlInfo.mysqlFieldType = .timestamp)
    (h : TimestampStorable prims field.columnType.decimals image) :
    ∃ cantian, convertDatetimeToCantian build prims mysqlInfo image field = .ok cantian ∧
      cantian.length = 8 ∧
      convertDatetimeToMysql build prims mysqlInfo cantian field = .ok image := by
  by_cases hz : (prims.myTimestampFromBinary image field.columnType.decimals).1 = 0
  · have htm : prims.myTimestampFromBinary image field.columnType.decimals = (0, 0) :=
      Prod.ext hz (h.zero hz)
    have hstored := h.stored
    rw [htm] at hstored
    refine ⟨Bytes.le 8 (Bytes.wrap 8 cmAllZeroDatetime), ?_, by simp, ?_⟩
    · simp [convertDatetimeToCantian, decodeMysqlDatetime, hinfo, htm, assignMysqlDateDetail,
        cmEncodeDate, checkZeroDate]
    · simp [convertDatetimeToMysql, hinfo, cmDecodeDate_stored_zero, timestampLtime,
        ctcDatetimeWithNoZeroInDateToTimeval, ctcMyTimestampToBinary, h.dec_le, hstored,
        datetimeMaxDecimals]
  · obtain ⟨hvalid, hneg, hpart, hsec⟩ := h.date hz
    have hmon : (prims.gmtSecToTime
        (prims.myTimestampFromBinary image field.columnType.decimals)).month ≠ 0 := by
      have hm := hvalid.mon.1
      simp only [assignMysqlDateDetail, reduceCtorEq, if_false] at hm
      split at hm <;> omega
    have hrounded := h.rounded
    have hdec := h.dec_le
    have hstored := h.stored
    have hltime := timestampLtime_assign hneg hvalid
    generalize htm : prims.myTimestampFromBinary image field.columnType.decimals = tm at *
    refine ⟨Bytes.le 8 (Bytes.wrap 8 (dateValue (assignMysqlDateDetail .timestamp
      (prims.gmtSecToTime tm)))), ?_, by simp, ?_⟩
    · simp only [convertDatetimeToCantian, decodeMysqlDatetime, hinfo, htm, hz, if_false,
        result_bind_ok, cmEncodeDate_valid build hvalid, result_pure]
    · simp only [convertDatetimeToMysql, hinfo, cmDecodeDate_stored hvalid, hltime,
        ctcDatetimeWithNoZeroInDateToTimeval, if_neg hmon, hsec, hz, if_false, hpart,
        result_pure, result_bind_ok, ctcMyTimestampToBinary]
      simp [datetimeMaxDecimals] at hrounded ⊢
      simp [hdec, hrounded, hstored]

/-- **Temporal columns survive the conversion to Cantian and back.** -/
theorem convertDatetime_round_trip
    (hinfo : mysqlInfo.mysqlFieldType = field.columnType.type)
    (h : TemporalStorable prims field.columnType image) :
    ∃ cantian, convertDatetimeToCantian build prims mysqlInfo image field = .ok cantian ∧
      cantian.length = 8 ∧
      convertDatetimeToMysql build prims mysqlInfo cantian field = .ok image := by
  cases hc : field.columnType with
  | year =>
    rw [hc] at hinfo h
    exact convertYear_round_trip hinfo h
  | date =>
    rw [hc] at hinfo h
    refine ⟨tmpPtr image, ?_, by simp, ?_⟩
    · simp only [convertDatetimeToCantian, hinfo, hc, ColumnType.type, ColumnType.packLength]
      rw [List.take_of_length_le (by exact h.le)]
    · simp only [convertDatetimeToMysql, hinfo, hc, ColumnType.type, ColumnType.packLength]
      rw [take_tmpPtr h (by omega)]
  | time dec =>
    rw [hc] at hinfo h
    refine ⟨cnvrtTimeDecimal prims image dec datetimeMaxDecimals 8, ?_, ?_, ?_⟩
    · simp only [convertDatetimeToCantian, hinfo, hc, ColumnType.type, ColumnType.decimals]
    · simp [cnvrtTimeDecimal]
    · simp only [convertDatetimeToMysql, hinfo, hc, ColumnType.type, ColumnType.decimals,
        ColumnType.packLength]
      rw [cnvrtTimeDecimal_round_trip h]
  | datetime dec =>
    rw [hc] at hinfo h
    refine ⟨cnvrtDatetimeDecimal prims image dec datetimeMaxDecimals 8, ?_, ?_, ?_⟩
    · simp only [convertDatetimeToCantian, hinfo, hc, ColumnType.type, ColumnType.decimals]
    · simp [cnvrtDatetimeDecimal]
    · simp only [convertDatetimeToMysql, hinfo, hc, ColumnType.type, ColumnType.decimals,
        ColumnType.packLength]
      rw [cnvrtDatetimeDecimal_round_trip h]
  | timestamp dec =>
    rw [hc] at hinfo h
    refine convertTimestamp_round_trip hinfo ?_
    rw [hc]
    exact h
  | _ =>
    rw [hc] at h
    exact h.elim

end

end CantianConnector.Convert
