import Mathlib.Data.List.Lex
import CantianConnector.Convert.Date

/-!
# The order of encoded dates

What `check_datetime_vaild` accepts is the all-zero date or a `ValidDate`, up to the
nanoseconds, which no function reads. The dates it accepts survive encoding
(`cmDecodeDate_cmEncodeDate`), and for them the order of the encodings is the lexicographic
order of the fields (`cmEncodeDate_lt_iff`): a later field never outweighs an earlier one,
since the days before a month and before a year add up and the time of day is less than one
day. No step of the computation leaves the type it is made in (`encodeSteps_int64`).
-/

namespace CantianConnector.Convert

/-! ## Accepted dates -/

/-- The fields from the year down to the microseconds, in the order of their weight. -/
def DateDetail.parts (d : DateDetail) : List Nat :=
  [d.year, d.mon, d.day, d.hour, d.min, d.sec, d.millisec, d.microsec]

/-- The date without its nanoseconds. -/
def DateDetail.trunc (d : DateDetail) : DateDetail := { d with nanosec := 0 }

@[simp] theorem trunc_parts (d : DateDetail) : d.trunc.parts = d.parts := rfl

@[simp] theorem dateValue_trunc (d : DateDetail) : dateValue d.trunc = dateValue d := rfl

theorem parts_of_checkZeroDate {d : DateDetail} (h : checkZeroDate d = true) :
    d.parts = [0, 0, 0, 0, 0, 0, 0, 0] := by
  simp only [checkZeroDate, Bool.and_eq_true, beq_iff_eq] at h
  obtain ⟨⟨⟨⟨⟨⟨⟨⟨h1, h2⟩, h3⟩, h4⟩, h5⟩, h6⟩, h7⟩, h8⟩, _⟩ := h
  simp only [DateDetail.parts, h1, h2, h3, h4, h5, h6, h7, h8]

/-- **What the check accepts** besides the all-zero date. -/
theorem validDate_of_check {d : DateDetail} (h : checkDatetimeVaild d = true)
    (hz : checkZeroDate d = false) : ValidDate d.trunc := by
  rw [checkDatetimeVaild, hz] at h
  simp only [Bool.false_eq_true, if_false, Bool.and_eq_true, decide_eq_true_eq] at h
  obtain ⟨⟨⟨⟨hyear, hmon⟩, hday⟩, htime⟩, hsub⟩ := h
  exact ⟨hyear, hmon, hday, htime, hsub, rfl⟩

theorem cmEncodeDate_zero (build : Build) {d : DateDetail} (hz : checkZeroDate d = true) :
    cmEncodeDate build d = .ok cmAllZeroDatetime := by
  rw [cmEncodeDate, if_pos hz]
  rfl

/-- An accepted date passes every assertion of `cm_encode_date`, nanoseconds or not. -/
theorem cmEncodeDate_check (build : Build) {d : DateDetail} (h : checkDatetimeVaild d = true)
    (hz : checkZeroDate d = false) : cmEncodeDate build d = .ok (dateValue d) := by
  have hv := validDate_of_check h hz
  have hday : d.day ≤ 31 := hv.day.2.trans month_le_31
  have hyear : 1 ≤ d.year ∧ d.year ≤ 9999 := hv.year
  have hmon : 1 ≤ d.mon ∧ d.mon ≤ 12 := hv.mon
  have hpos : 1 ≤ d.day := hv.day.1
  have htime : d.hour ≤ 23 ∧ d.min ≤ 59 ∧ d.sec ≤ 59 := hv.time
  have hsub : d.millisec ≤ 999 ∧ d.microsec ≤ 999 := hv.sub
  simp [cmEncodeDate, hz, hyear, hmon, hpos, hday, htime, hsub]

/-! ## Round trip -/

/-- **An accepted date survives encoding**, and only the all-zero date has the encoding
`CM_ALL_ZERO_DATETIME`. -/
theorem cmDecodeDate_cmEncodeDate (build : Build) {d : DateDetail}
    (h : checkDatetimeVaild d = true) :
    ∃ date, cmEncodeDate build d = .ok date ∧ (cmDecodeDate date).parts = d.parts ∧
      (checkZeroDate d = false → date ≠ cmAllZeroDatetime) := by
  cases hz : checkZeroDate d with
  | true =>
    refine ⟨_, cmEncodeDate_zero build hz, ?_, by simp⟩
    rw [parts_of_checkZeroDate hz, cmDecodeDate, if_pos rfl]
    rfl
  | false =>
    have hv := validDate_of_check h hz
    refine ⟨_, cmEncodeDate_check build h hz, ?_, ?_⟩
    · rw [← dateValue_trunc, cmDecodeDate_dateValue hv, trunc_parts]
    · intro _
      apply dateValue_ne_zero hv

/-- The last microsecond of a leap year before the base day. -/
theorem cmDecodeDate_cmEncodeDate_1600 :
    ∃ date, cmEncodeDate .debug ⟨1600, 12, 31, 23, 59, 59, 999, 999, 0⟩ = .ok date ∧
      (cmDecodeDate date).parts = [1600, 12, 31, 23, 59, 59, 999, 999] ∧
      (checkZeroDate ⟨1600, 12, 31, 23, 59, 59, 999, 999, 0⟩ = false →
        date ≠ cmAllZeroDatetime) :=
  cmDecodeDate_cmEncodeDate .debug (by decide)

/-! ## Order -/

/-- The days of a month come before those of a later month. -/
theorem take_sum_add_getD_le_of_lt (months : List Nat) {j k : Nat} (h : j < k) :
    (months.take j).sum + months.getD j 0 ≤ (months.take k).sum := by
  have hle := take_sum_add_getD_le (months.take k) j
  rw [List.take_take, Nat.min_eq_left (by omega)] at hle
  have hget : (months.take k).getD j 0 = months.getD j 0 := by
    simp only [List.getD_eq_getElem?_getD]
    rw [List.getElem?_take_of_lt h]
  rw [hget] at hle
  exact hle

/-- The day of the year orders the months and days of one year. -/
theorem dayOfYear_lt {a b : DateDetail} (ha : ValidDate a) (hb : ValidDate b)
    (hyear : a.year = b.year) (h : a.mon < b.mon ∨ a.mon = b.mon ∧ a.day < b.day) :
    dayOfYear a < dayOfYear b := by
  have hda := ha.day
  have hdb := hb.day
  have hma := ha.mon
  rcases h with hlt | ⟨hmon, hday⟩
  · have hle := take_sum_add_getD_le_of_lt (monthDays a.year)
      (show a.mon - 1 < b.mon - 1 by omega)
    unfold dayOfYear
    rw [← hyear]
    omega
  · unfold dayOfYear
    rw [← hyear, ← hmon]
    omega

/-- The day number orders the calendar days. -/
theorem totalDaysBeforeDate_lt {a b : DateDetail} (ha : ValidDate a) (hb : ValidDate b)
    (h : a.year < b.year ∨
      a.year = b.year ∧ (a.mon < b.mon ∨ a.mon = b.mon ∧ a.day < b.day)) :
    totalDaysBeforeDate a < totalDaysBeforeDate b := by
  have hea := totalDaysBeforeDate_eq a
  have heb := totalDaysBeforeDate_eq b
  have hda := dayOfYear_bounds ha
  have hdb := dayOfYear_bounds hb
  rcases h with hlt | ⟨hyear, hrest⟩
  · have hdays := daysBeforeYear_of_lt ha.year.1 hlt
    omega
  · have hdays := dayOfYear_lt ha hb hyear hrest
    rw [hyear] at hea
    omega

/-- An earlier day outweighs any time of day. -/
theorem dateValue_lt_of_days {a b : DateDetail} (ha : ValidDate a) (hb : ValidDate b)
    (h : totalDaysBeforeDate a < totalDaysBeforeDate b) : dateValue a < dateValue b := by
  have hma := dayMicros_bounds ha
  have hmb := dayMicros_bounds hb
  rw [dateValue_eq, dateValue_eq]
  unfold unitsPerDay at *
  omega

/-- The time of day orders the dates of one day. -/
theorem dayMicros_lt {a b : DateDetail} (ha : ValidDate a) (hb : ValidDate b)
    (h : a.hour < b.hour ∨ a.hour = b.hour ∧ (a.min < b.min ∨ a.min = b.min ∧
      (a.sec < b.sec ∨ a.sec = b.sec ∧ (a.millisec < b.millisec ∨
        a.millisec = b.millisec ∧ a.microsec < b.microsec)))) :
    dayMicros a < dayMicros b := by
  have hta := ha.time
  have htb := hb.time
  have hsa := ha.sub
  have hsb := hb.sub
  unfold dayMicros
  omega

theorem dateValue_lt_of_parts {a b : DateDetail} (ha : ValidDate a) (hb : ValidDate b)
    (h : a.parts < b.parts) : dateValue a < dateValue b := by
  simp only [DateDetail.parts, List.cons_lt_cons_iff, List.not_lt_nil, and_false, or_false] at h
  rcases h with hyear | ⟨hyear, hmon | ⟨hmon, hday | ⟨hday, htime⟩⟩⟩
  · apply dateValue_lt_of_days ha hb
    exact totalDaysBeforeDate_lt ha hb (Or.inl hyear)
  · apply dateValue_lt_of_days ha hb
    exact totalDaysBeforeDate_lt ha hb (Or.inr ⟨hyear, Or.inl hmon⟩)
  · apply dateValue_lt_of_days ha hb
    exact totalDaysBeforeDate_lt ha hb (Or.inr ⟨hyear, Or.inr ⟨hmon, hday⟩⟩)
  · have hdays : totalDaysBeforeDate a = totalDaysBeforeDate b := by
      simp only [totalDaysBeforeDate, hyear, hmon, hday]
    have hmicros := dayMicros_lt ha hb htime
    rw [dateValue_eq, dateValue_eq, hdays]
    omega

theorem dateValue_of_parts {a b : DateDetail} (h : a.parts = b.parts) :
    dateValue a = dateValue b := by
  simp only [DateDetail.parts, List.cons.injEq, and_true] at h
  obtain ⟨h1, h2, h3, h4, h5, h6, h7, h8⟩ := h
  simp only [dateValue, totalDaysBeforeDate, h1, h2, h3, h4, h5, h6, h7, h8]

/-- The encoding is strictly increasing in the fields, and so reflects their order. -/
theorem dateValue_lt_iff {a b : DateDetail} (ha : ValidDate a) (hb : ValidDate b) :
    dateValue a < dateValue b ↔ a.parts < b.parts := by
  constructor
  · intro hlt
    rcases lt_trichotomy a.parts b.parts with h | h | h
    · exact h
    · have heq := dateValue_of_parts h
      omega
    · have hgt := dateValue_lt_of_parts hb ha h
      omega
  · apply dateValue_lt_of_parts ha hb

/-- **Encoded dates are ordered as the dates are**, the all-zero date first. -/
theorem cmEncodeDate_lt_iff (build : Build) {a b : DateDetail}
    (ha : checkDatetimeVaild a = true) (hb : checkDatetimeVaild b = true) :
    ∃ va vb, cmEncodeDate build a = .ok va ∧ cmEncodeDate build b = .ok vb ∧
      (checkZeroDate a = false → checkZeroDate b = false → (va < vb ↔ a.parts < b.parts)) ∧
      (checkZeroDate a = true → checkZeroDate b = false → va < vb) := by
  cases hza : checkZeroDate a with
  | true =>
    cases hzb : checkZeroDate b with
    | true =>
      exact ⟨_, _, cmEncodeDate_zero build hza, cmEncodeDate_zero build hzb, by simp, by simp⟩
    | false =>
      refine ⟨_, _, cmEncodeDate_zero build hza, cmEncodeDate_check build hb hzb, by simp, ?_⟩
      intro _ _
      rw [← dateValue_trunc]
      apply cmAllZeroDatetime_lt (validDate_of_check hb hzb)
  | false =>
    cases hzb : checkZeroDate b with
    | true =>
      exact ⟨_, _, cmEncodeDate_check build ha hza, cmEncodeDate_zero build hzb, by simp, by simp⟩
    | false =>
      refine ⟨_, _, cmEncodeDate_check build ha hza, cmEncodeDate_check build hb hzb, ?_, by simp⟩
      intro _ _
      have h := dateValue_lt_iff (validDate_of_check ha hza) (validDate_of_check hb hzb)
      simpa only [dateValue_trunc, trunc_parts] using h

/-- The last day of a century's leap February and the day after it. -/
theorem cmEncodeDate_lt_iff_2000 :
    ∃ va vb, cmEncodeDate .debug ⟨2000, 2, 29, 23, 59, 59, 999, 999, 0⟩ = .ok va ∧
      cmEncodeDate .debug ⟨2000, 3, 1, 0, 0, 0, 0, 0, 0⟩ = .ok vb ∧
      (checkZeroDate ⟨2000, 2, 29, 23, 59, 59, 999, 999, 0⟩ = false →
        checkZeroDate ⟨2000, 3, 1, 0, 0, 0, 0, 0, 0⟩ = false →
        (va < vb ↔ DateDetail.parts ⟨2000, 2, 29, 23, 59, 59, 999, 999, 0⟩ <
          DateDetail.parts ⟨2000, 3, 1, 0, 0, 0, 0, 0, 0⟩)) ∧
      (checkZeroDate ⟨2000, 2, 29, 23, 59, 59, 999, 999, 0⟩ = true →
        checkZeroDate ⟨2000, 3, 1, 0, 0, 0, 0, 0, 0⟩ = false → va < vb) :=
  cmEncodeDate_lt_iff .debug (by decide) (by decide)

/-! ## Ranges -/

/-- The range of a signed integer of `w` bits. -/
def SignedRange (w : Nat) (v : Int) : Prop := -(2 ^ (w - 1)) ≤ v ∧ v < 2 ^ (w - 1)

instance (w : Nat) (v : Int) : Decidable (SignedRange w v) := inferInstanceAs (Decidable (_ ∧ _))

/-- The values that `*date` takes in `cm_encode_date`, one for each assignment. -/
def encodeSteps (d : DateDetail) : List Int :=
  let days := totalDaysBeforeDate d * 86400
  let hours := days + d.hour * 3600
  let mins := hours + d.min * 60
  let secs := mins + d.sec
  let millis := secs * 1000 + d.millisec
  [days, hours, mins, secs, millis, millis * 1000 + d.microsec]

/-- The day number of a valid date lies within 10000 years of the base day. -/
theorem totalDaysBeforeDate_bounds {d : DateDetail} (h : ValidDate d) :
    -730119 ≤ totalDaysBeforeDate d ∧ totalDaysBeforeDate d ≤ 2921940 := by
  have hd := dayOfYear_bounds h
  have hb := yearDays_bounds d.year
  have ht := totalDaysBeforeDate_eq d
  have hy := h.year
  rw [daysBeforeYear_eq hy.1] at ht
  unfold cmBaselineDay at ht
  omega

/-- The encodings of accepted dates lie close together. -/
theorem cmEncodeDate_bounds {build : Build} {d : DateDetail} (h : checkDatetimeVaild d = true)
    {date : Int} (hdate : cmEncodeDate build d = .ok date) :
    cmAllZeroDatetime ≤ date ∧ date < 2 ^ 58 := by
  cases hz : checkZeroDate d with
  | true =>
    rw [cmEncodeDate_zero build hz] at hdate
    cases hdate
    exact ⟨le_rfl, by decide⟩
  | false =>
    rw [cmEncodeDate_check build h hz] at hdate
    cases hdate
    have hv := validDate_of_check h hz
    have hdays := totalDaysBeforeDate_bounds hv
    have hmicros := dayMicros_bounds hv
    have heq := dateValue_eq d.trunc
    have hlow := cmAllZeroDatetime_lt hv
    rw [dateValue_trunc] at heq hlow
    unfold unitsPerDay at *
    omega

/-- **No step overflows**: the day number fits its `int32`, every value of `*date` its
`int64`. -/
theorem encodeSteps_int64 {d : DateDetail} (h : ValidDate d) :
    SignedRange 32 (totalDaysBeforeDate d) ∧ ∀ v ∈ encodeSteps d, SignedRange 64 v := by
  have hd := totalDaysBeforeDate_bounds h
  obtain ⟨hh, hm, hs⟩ := h.time
  obtain ⟨hms, hus⟩ := h.sub
  constructor
  · unfold SignedRange
    omega
  · intro v hv
    simp only [encodeSteps, List.mem_cons, List.not_mem_nil, or_false] at hv
    unfold SignedRange
    omega

end CantianConnector.Convert
