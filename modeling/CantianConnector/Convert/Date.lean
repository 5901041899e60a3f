import Mathlib.Algebra.Order.Ring.Int
import Mathlib.Tactic.Ring
import CantianConnector.Convert.MysqlTime
import CantianConnector.Convert.Result

/-!
# Cantian dates

`cm_encode_date` and `cm_decode_date`: a date is a number of microseconds, day 0 being
2000-01-01. The decoder peels off 400, 100, 4 and 1 years in loops; each loop keeps the
ordinal day `daysBeforeYear year + days`, and that number together with `0 ≤ days ≤ 365`
determines the date (`decodeLeap_spec`). The loop over centuries runs at most three times,
the others until the days run out, which the fuel covers.
-/

namespace CantianConnector.Convert

/-! ## The functions -/

def days1 : Nat := 365
def days4 : Nat := days1 * 4 + 1
def days100 : Nat := days4 * 25 - 1
def days400 : Nat := days100 * 4 + 1
/-- `UNITS_PER_DAY`: microseconds. -/
def unitsPerDay : Int := 86400000000
def cmBaselineDay : Int := 730120
/-- `CM_ALL_ZERO_DATETIME`. -/
def cmAllZeroDatetime : Int := -63113904000000000

/-- `IS_LEAP_YEAR`. -/
def isLeapYear (year : Nat) : Bool := year % 4 == 0 && (year % 100 != 0 || year % 400 == 0)

/-- A row of `g_cantian_month_days`. -/
def monthDays (year : Nat) : List Nat :=
  [31, if isLeapYear year then 29 else 28, 31, 30, 31, 30, 31, 31, 30, 31, 30, 31]

/-- `check_zero_date`. -/
def checkZeroDate (d : DateDetail) : Bool :=
  d.year == 0 && d.mon == 0 && d.day == 0 && d.hour == 0 && d.min == 0 && d.sec == 0 &&
    d.millisec == 0 && d.microsec == 0 && d.nanosec == 0

/-- `check_datetime_vaild`. -/
def checkDatetimeVaild (d : DateDetail) : Bool :=
  if checkZeroDate d then true
  else
    decide (1 ≤ d.year ∧ d.year ≤ 9999) && decide (1 ≤ d.mon ∧ d.mon ≤ 12) &&
      decide (1 ≤ d.day ∧ d.day ≤ (monthDays d.year).getD (d.mon - 1) 0) &&
      decide (d.hour ≤ 23 ∧ d.min ≤ 59 ∧ d.sec ≤ 59) &&
      decide (d.millisec ≤ 999 ∧ d.microsec ≤ 999)

/-- `days_before_year`. The divisions are C's, towards zero. -/
def daysBeforeYear (year : Nat) : Int :=
  let y : Int := year - 1
  y * 365 + y.tdiv 4 - y.tdiv 100 + y.tdiv 400

/-- `total_days_before_date`. -/
def totalDaysBeforeDate (d : DateDetail) : Int :=
  daysBeforeYear d.year - cmBaselineDay + ((monthDays d.year).take (d.mon - 1)).sum + d.day

/-- The number of microseconds `cm_encode_date` computes for a non-zero date. -/
def dateValue (d : DateDetail) : Int :=
  ((totalDaysBeforeDate d * 86400 + d.hour * 3600 + d.min * 60 + d.sec) * 1000 + d.millisec) *
    1000 + d.microsec

/-- `cm_encode_date`. -/
def cmEncodeDate (build : Build) (d : DateDetail) : Result Int := do
  if checkZeroDate d then return cmAllZeroDatetime
  cAssert build (decide (1 ≤ d.year ∧ d.year ≤ 9999))
  cAssert build (decide (1 ≤ d.mon ∧ d.mon ≤ 12))
  cAssert build (decide (1 ≤ d.day ∧ d.day ≤ 31))
  cAssert build (decide (d.hour ≤ 23))
  cAssert build (decide (d.min ≤ 59))
  cAssert build (decide (d.sec ≤ 59))
  cAssert build (decide (d.microsec ≤ 999))
  cAssert build (decide (d.millisec ≤ 999))
  return dateValue d

/-- `while (days >= span) { year += years; days -= span; }`, at most `fuel` times. -/
def skipSpans (span years : Nat) : Nat → Nat × Int → Nat × Int
  | 0, state => state
  | fuel + 1, (year, days) =>
    if (span : Int) ≤ days then skipSpans span years fuel (year + years, days - span)
    else (year, days)

/-- The last loop of `cm_decode_leap`, over single years. -/
def skipYears : Nat → Nat × Int → Nat × Int
  | 0, state => state
  | fuel + 1, (year, days) =>
    if (days1 : Int) < days then
      skipYears fuel (year + 1, (if isLeapYear year then days - 1 else days) - days1)
    else (year, days)

/-- `cm_decode_leap`. -/
def decodeLeap (state : Nat × Int) : Nat × Int :=
  let s400 := skipSpans days400 400 state.2.toNat state
  let s100 := skipSpans days100 100 3 s400
  let s4 := skipSpans days4 4 s100.2.toNat s100
  skipYears s4.2.toNat s4

/-- The loop of `cm_decode_date` over the months: the months passed and the days left. -/
def skipMonths : List Nat → Nat → Int → Nat × Int
  | [], i, days => (i, days)
  | m :: ms, i, days => if (m : Int) < days then skipMonths ms (i + 1) (days - m) else (i, days)

/-- `cm_decode_date`. The division is C's, towards zero; `nanosec` is only set for the zero
date and never read, and is 0 here. -/
def cmDecodeDate (date : Int) : DateDetail :=
  if date = cmAllZeroDatetime then {}
  else
    let quot := date.tdiv unitsPerDay
    let time := date - quot * unitsPerDay
    let (time, day) := if time < 0 then (time + unitsPerDay, quot - 1) else (time, quot)
    let microsec := time % 1000
    let time := time / 1000
    let millisec := time % 1000
    let time := time / 1000
    let hour := time / 3600
    let time := time - hour * 3600
    let min := time / 60
    let sec := time - min * 60
    let (year, days) := decodeLeap (1, day + cmBaselineDay)
    let (year, mon, mday) :=
      if days = 0 then (year - 1, 12, 31)
      else
        let (i, d) := skipMonths (monthDays year) 0 days
        (year, 1 + i, d.toNat)
    { year := year, mon := mon, day := mday, hour := hour.toNat, min := min.toNat,
      sec := sec.toNat, millisec := millisec.toNat, microsec := microsec.toNat, nanosec := 0 }

/-! ## Years -/

theorem daysBeforeYear_eq {year : Nat} (h : 1 ≤ year) :
    daysBeforeYear year =
      ((year - 1 : Nat) : Int) * 365 + ((year - 1) / 4 : Nat) - ((year - 1) / 100 : Nat) +
        ((year - 1) / 400 : Nat) := by
  have hy : (year : Int) - 1 = ((year - 1 : Nat) : Int) := by omega
  simp only [daysBeforeYear, hy]
  rw [Int.tdiv_eq_ediv_of_nonneg (by omega), Int.tdiv_eq_ediv_of_nonneg (by omega),
    Int.tdiv_eq_ediv_of_nonneg (by omega)]
  norm_cast

/-- The number of days of a year. -/
def yearDays (year : Nat) : Nat := if isLeapYear year then 366 else 365

theorem isLeapYear_iff (year : Nat) :
    isLeapYear year = true ↔ year % 4 = 0 ∧ (year % 100 ≠ 0 ∨ year % 400 = 0) := by
  simp [isLeapYear]

theorem daysBeforeYear_succ {year : Nat} (h : 1 ≤ year) :
    daysBeforeYear (year + 1) = daysBeforeYear year + yearDays year := by
  rw [daysBeforeYear_eq h, daysBeforeYear_eq (by omega)]
  simp only [yearDays, isLeapYear_iff]
  split <;> omega

theorem yearDays_bounds (year : Nat) : 365 ≤ yearDays year ∧ yearDays year ≤ 366 := by
  unfold yearDays
  split <;> omega

theorem daysBeforeYear_add_le {a : Nat} (ha : 1 ≤ a) (k : Nat) :
    daysBeforeYear a + 365 * k ≤ daysBeforeYear (a + k) := by
  induction k with
  | zero => simp
  | succ k ih =>
    have h := daysBeforeYear_succ (show 1 ≤ a + k by omega)
    have hb := yearDays_bounds (a + k)
    rw [← Nat.add_assoc, h]
    push_cast
    omega

/-- A whole year lies between a year's first day and any later year's. -/
theorem daysBeforeYear_of_lt {a b : Nat} (ha : 1 ≤ a) (h : a < b) :
    daysBeforeYear a + yearDays a ≤ daysBeforeYear b := by
  have h1 := daysBeforeYear_succ ha
  have h2 := daysBeforeYear_add_le (a := a + 1) (by omega) (b - (a + 1))
  have hb : a + 1 + (b - (a + 1)) = b := by omega
  rw [hb] at h2
  omega

/-! ## The loops over years -/

/-- What a counted loop does: `q` rounds, stopped by the fuel or because less than one span
is left. -/
theorem skipSpans_spec (span years fuel year : Nat) (days : Int) (hd : 0 ≤ days) :
    ∃ q : Nat, skipSpans span years fuel (year, days) = (year + years * q, days - span * q) ∧
      q ≤ fuel ∧ 0 ≤ days - span * q ∧ (q = fuel ∨ days - span * q < span) := by
  induction fuel generalizing year days with
  | zero => exact ⟨0, by simp [skipSpans], by omega, by simpa using hd, Or.inl rfl⟩
  | succ fuel ih =>
    rw [skipSpans]
    split
    · rename_i h
      obtain ⟨q, hq, hle, hpos, hstop⟩ := ih (year + years) (days - span) (by omega)
      have hmul : (span : Int) * ((q + 1 : Nat) : Int) = span + span * q := by push_cast; ring
      refine ⟨q + 1, ?_, by omega, by omega, by omega⟩
      rw [hq, Prod.mk.injEq]
      exact ⟨by ring, by omega⟩
    · exact ⟨0, by simp, by omega, by simpa using hd, Or.inr (by simp; omega)⟩

theorem skipYears_spec (fuel year : Nat) (days : Int) (hy : 1 ≤ year) (hd : 0 ≤ days)
    (hf : days ≤ fuel) :
    ∃ year' days', skipYears fuel (year, days) = (year', days') ∧ 1 ≤ year' ∧
      0 ≤ days' ∧ days' ≤ 365 ∧
      daysBeforeYear year' + days' = daysBeforeYear year + days := by
  induction fuel generalizing year days with
  | zero => exact ⟨year, days, rfl, hy, hd, by omega, rfl⟩
  | succ fuel ih =>
    rw [skipYears]
    split
    · rename_i h
      have hsucc := daysBeforeYear_succ hy
      have hdays : (if isLeapYear year then days - 1 else days) - days1 = days - yearDays year := by
        unfold yearDays days1
        split <;> push_cast <;> ring
      have hb := yearDays_bounds year
      unfold days1 at h
      rw [hdays]
      obtain ⟨year', days', he, hy', h0, h1, hord⟩ :=
        ih (year + 1) (days - yearDays year) (by omega) (by push_cast at h; omega) (by omega)
      exact ⟨year', days', he, hy', h0, h1, by omega⟩
    · rename_i h
      unfold days1 at h
      exact ⟨year, days, rfl, hy, hd, by omega, rfl⟩

/-- The loops keep the ordinal day and leave at most 365 days. -/
theorem decodeLeap_ordinal (days : Int) (hd : 0 ≤ days) :
    ∃ year' days', decodeLeap (1, days) = (year', days') ∧ 1 ≤ year' ∧ 0 ≤ days' ∧
      days' ≤ 365 ∧ daysBeforeYear year' + days' = days := by
  obtain ⟨a, ha, _, ha0, haS⟩ := skipSpans_spec days400 400 days.toNat 1 days hd
  obtain ⟨b, hb, hb3, hb0, hbS⟩ := skipSpans_spec days100 100 3 (1 + 400 * a)
    (days - days400 * a) ha0
  obtain ⟨c, hc, _, hc0, hcS⟩ := skipSpans_spec days4 4
    (days - days400 * a - days100 * b).toNat (1 + 400 * a + 100 * b)
    (days - days400 * a - days100 * b) hb0
  have e1 : (days400 : Int) = 146097 := rfl
  have e2 : (days100 : Int) = 36524 := rfl
  have e3 : (days4 : Int) = 1461 := rfl
  simp only [e1, e2, e3] at ha ha0 haS hb hb0 hbS hc hc0 hcS
  have hcb : c ≤ 24 := by omega
  obtain ⟨year', days', he, hy', h0, h1, hord⟩ := skipYears_spec
    (days - 146097 * a - 36524 * b - 1461 * c).toNat (1 + 400 * a + 100 * b + 4 * c)
    (days - 146097 * a - 36524 * b - 1461 * c) (by omega) hc0 (by omega)
  refine ⟨year', days', ?_, hy', h0, h1, ?_⟩
  · simp only [decodeLeap, ha, hb, hc, he]
  · have hbefore := daysBeforeYear_eq (show 1 ≤ 1 + 400 * a + 100 * b + 4 * c by omega)
    omega

/-- The decoder's year and day of the year; the last day of a year may come out as day 0 of
the next. -/
theorem decodeLeap_spec {year day : Nat} (hy : 1 ≤ year) (hd : 1 ≤ day)
    (hd' : day ≤ yearDays year) :
    decodeLeap (1, daysBeforeYear year + day) = (year, (day : Int)) ∨
      (decodeLeap (1, daysBeforeYear year + day) = (year + 1, 0) ∧ day = yearDays year) := by
  have hnonneg : 0 ≤ daysBeforeYear year := by rw [daysBeforeYear_eq hy]; omega
  obtain ⟨year', days', he, hy', h0, h1, hord⟩ :=
    decodeLeap_ordinal (daysBeforeYear year + day) (by omega)
  rw [he]
  rcases Nat.lt_trichotomy year' year with hlt | heq | hgt
  · have h := daysBeforeYear_of_lt hy' hlt
    have hb := yearDays_bounds year'
    omega
  · subst heq
    exact Or.inl (by rw [Prod.mk.injEq]; exact ⟨rfl, by omega⟩)
  · have h := daysBeforeYear_of_lt hy hgt
    have hyear : year' = year + 1 := by
      by_contra hne
      have h2 := daysBeforeYear_of_lt (a := year + 1) (by omega) (show year + 1 < year' by omega)
      have h3 := daysBeforeYear_succ hy
      have hb := yearDays_bounds (year + 1)
      omega
    subst hyear
    have h3 := daysBeforeYear_succ hy
    exact Or.inr ⟨by rw [Prod.mk.injEq]; exact ⟨rfl, by omega⟩, by omega⟩

/-! ## Months -/

theorem skipMonths_spec (months : List Nat) (i k day : Nat) (hk : k < months.length)
    (hd : 1 ≤ day) (hd' : day ≤ months.getD k 0) :
    skipMonths months i ((months.take k).sum + day) = (i + k, (day : Int)) := by
  induction months generalizing i k with
  | nil => simp at hk
  | cons m ms ih =>
    cases k with
    | zero =>
      simp only [List.getD_cons_zero] at hd'
      simp only [List.take_zero, List.sum_nil, Nat.cast_zero, zero_add, skipMonths, Nat.add_zero]
      rw [if_neg (by omega)]
    | succ k =>
      simp only [List.getD_cons_succ] at hd'
      simp only [List.length_cons] at hk
      have hi := ih (i + 1) k (by omega) hd'
      have hlt : (m : Int) < ((m + (ms.take k).sum : Nat) : Int) + day := by
        rw [Nat.cast_add]
        omega
      rw [List.take_succ_cons, List.sum_cons, skipMonths, if_pos hlt]
      have harg : ((m + (ms.take k).sum : Nat) : Int) + day - m = (ms.take k).sum + day := by
        rw [Nat.cast_add]
        ring
      rw [harg, hi, Prod.mk.injEq]
      exact ⟨by omega, rfl⟩

theorem monthDays_sum (year : Nat) : (monthDays year).sum = yearDays year := by
  unfold monthDays yearDays
  split <;> rfl

theorem take_sum_add_getD_le (months : List Nat) (k : Nat) :
    (months.take k).sum + months.getD k 0 ≤ months.sum := by
  induction months generalizing k with
  | nil => simp
  | cons m ms ih =>
    cases k with
    | zero => simp
    | succ k =>
      simp only [List.take_succ_cons, List.sum_cons, List.getD_cons_succ]
      have := ih k
      omega

/-! ## Round trip -/

/-- The fields of a valid non-zero date. -/
structure ValidDate (d : DateDetail) : Prop where
  year : 1 ≤ d.year ∧ d.year ≤ 9999
  mon : 1 ≤ d.mon ∧ d.mon ≤ 12
  day : 1 ≤ d.day ∧ d.day ≤ (monthDays d.year).getD (d.mon - 1) 0
  time : d.hour ≤ 23 ∧ d.min ≤ 59 ∧ d.sec ≤ 59
  sub : d.millisec ≤ 999 ∧ d.microsec ≤ 999
  nanosec : d.nanosec = 0

theorem month_le_31 {year k : Nat} : (monthDays year).getD k 0 ≤ 31 := by
  have hall : ∀ m ∈ monthDays year, m ≤ 31 := by
    unfold monthDays
    split <;> decide
  rw [List.getD_eq_getElem?_getD]
  cases hk : (monthDays year)[k]? with
  | none => simp
  | some m => exact hall m (List.mem_of_getElem? hk)

theorem ValidDate.not_zero {d : DateDetail} (h : ValidDate d) : checkZeroDate d = false := by
  have := h.year.1
  have hy : (d.year == 0) = false := by simp; omega
  simp [checkZeroDate, hy]

/-- No assertion of `cm_encode_date` fails on a valid date. -/
theorem cmEncodeDate_valid (build : Build) {d : DateDetail} (h : ValidDate d) :
    cmEncodeDate build d = .ok (dateValue d) := by
  have hday : d.day ≤ 31 := h.day.2.trans month_le_31
  simp [cmEncodeDate, h.not_zero, h.year, h.mon, h.day.1, hday, h.time, h.sub]

/-- The microseconds of the time of day. -/
def dayMicros (d : DateDetail) : Int :=
  ((d.hour * 3600 + d.min * 60 + d.sec) * 1000 + d.millisec) * 1000 + d.microsec

theorem dayMicros_bounds {d : DateDetail} (h : ValidDate d) :
    0 ≤ dayMicros d ∧ dayMicros d < unitsPerDay := by
  obtain ⟨h1, h2, h3⟩ := h.time
  obtain ⟨h4, h5⟩ := h.sub
  unfold dayMicros unitsPerDay
  omega

theorem dateValue_eq (d : DateDetail) :
    dateValue d = totalDaysBeforeDate d * unitsPerDay + dayMicros d := by
  unfold dateValue dayMicros unitsPerDay
  ring

/-- The day of the year of a valid date. -/
def dayOfYear (d : DateDetail) : Nat := ((monthDays d.year).take (d.mon - 1)).sum + d.day

theorem totalDaysBeforeDate_eq (d : DateDetail) :
    totalDaysBeforeDate d + cmBaselineDay = daysBeforeYear d.year + dayOfYear d := by
  unfold totalDaysBeforeDate dayOfYear
  push_cast
  ring

theorem dayOfYear_bounds {d : DateDetail} (h : ValidDate d) :
    1 ≤ dayOfYear d ∧ dayOfYear d ≤ yearDays d.year := by
  have hle := take_sum_add_getD_le (monthDays d.year) (d.mon - 1)
  rw [monthDays_sum] at hle
  have := h.day
  unfold dayOfYear
  omega

/-- The last day of a year is the 31st of December. -/
theorem lastDay {d : DateDetail} (h : ValidDate d) (hlast : dayOfYear d = yearDays d.year) :
    d.mon = 12 ∧ d.day = 31 := by
  have hsum : ((monthDays d.year).take 11).sum + 31 = yearDays d.year := by
    unfold monthDays yearDays
    split <;> rfl
  have hmon : d.mon = 12 := by
    by_contra hne
    have hle := take_sum_add_getD_le ((monthDays d.year).take 11) (d.mon - 1)
    have htake : ((monthDays d.year).take 11).take (d.mon - 1) =
        (monthDays d.year).take (d.mon - 1) := by
      rw [List.take_take, Nat.min_eq_left (by have := h.mon; omega)]
    have hget : ((monthDays d.year).take 11).getD (d.mon - 1) 0 =
        (monthDays d.year).getD (d.mon - 1) 0 := by
      simp only [List.getD_eq_getElem?_getD]
      rw [List.getElem?_take_of_lt (by have := h.mon; omega)]
    rw [htake, hget] at hle
    have hday := h.day.2
    unfold dayOfYear at hlast
    omega
  refine ⟨hmon, ?_⟩
  unfold dayOfYear at hlast
  rw [hmon, show 12 - 1 = 11 from rfl] at hlast
  omega

/-- The first valid day is after the sentinel of the zero date. -/
theorem cmAllZeroDatetime_lt {d : DateDetail} (h : ValidDate d) :
    cmAllZeroDatetime < dateValue d := by
  have hd := dayOfYear_bounds h
  have hm := dayMicros_bounds h
  have hy : 0 ≤ daysBeforeYear d.year := by rw [daysBeforeYear_eq h.year.1]; omega
  have ht := totalDaysBeforeDate_eq d
  rw [dateValue_eq]
  unfold cmAllZeroDatetime unitsPerDay cmBaselineDay at *
  omega

theorem dateValue_ne_zero {d : DateDetail} (h : ValidDate d) : dateValue d ≠ cmAllZeroDatetime :=
  (cmAllZeroDatetime_lt h).ne'

/-- The floor division that the decoder makes out of C's division. -/
theorem split_day (q r : Int) (h0 : 0 ≤ r) (h1 : r < unitsPerDay) :
    (let date := q * unitsPerDay + r
     let quot := date.tdiv unitsPerDay
     let time := date - quot * unitsPerDay
     if time < 0 then (time + unitsPerDay, quot - 1) else (time, quot)) = (r, q) := by
  dsimp only
  have hpos : (0 : Int) < unitsPerDay := by decide
  by_cases hq : 0 ≤ q * unitsPerDay + r
  · have hquot : (q * unitsPerDay + r).tdiv unitsPerDay = q := by
      rw [Int.tdiv_eq_ediv_of_nonneg hq, Int.add_comm, Int.add_mul_ediv_right _ _ hpos.ne',
        Int.ediv_eq_zero_of_lt h0 h1, zero_add]
    rw [hquot, if_neg (by omega), Prod.mk.injEq]
    exact ⟨by ring, rfl⟩
  · have hneg : (q * unitsPerDay + r).tdiv unitsPerDay =
        -((-(q * unitsPerDay + r)) / unitsPerDay) := by
      rw [← Int.tdiv_eq_ediv_of_nonneg (by omega), Int.neg_tdiv, neg_neg]
    by_cases hr : r = 0
    · subst hr
      have hquot : (q * unitsPerDay + 0).tdiv unitsPerDay = q := by
        rw [add_zero, Int.mul_tdiv_cancel _ hpos.ne']
      rw [hquot, if_neg (by omega), Prod.mk.injEq]
      exact ⟨by ring, rfl⟩
    · have hdiv : (-(q * unitsPerDay + r)) / unitsPerDay = -q - 1 := by
        have : -(q * unitsPerDay + r) = (unitsPerDay - r) + (-q - 1) * unitsPerDay := by ring
        rw [this, Int.add_mul_ediv_right _ _ hpos.ne',
          Int.ediv_eq_zero_of_lt (by omega) (by omega), zero_add]
      rw [hneg, hdiv]
      have htime : q * unitsPerDay + r - -(-q - 1) * unitsPerDay = r - unitsPerDay := by ring
      rw [htime, if_pos (by omega), Prod.mk.injEq]
      exact ⟨by ring, by ring⟩

/-- The divisions of the decoder recover the time of day. -/
theorem dayMicros_parts {d : DateDetail} (h : ValidDate d) :
    dayMicros d % 1000 = d.microsec ∧ dayMicros d / 1000 % 1000 = d.millisec ∧
      dayMicros d / 1000 / 1000 / 3600 = d.hour ∧
      (dayMicros d / 1000 / 1000 - d.hour * 3600) / 60 = d.min ∧
      dayMicros d / 1000 / 1000 - d.hour * 3600 - d.min * 60 = d.sec := by
  obtain ⟨hh, hmin, hsec⟩ := h.time
  obtain ⟨hms, hus⟩ := h.sub
  have h1 : dayMicros d / 1000 = (d.hour * 3600 + d.min * 60 + d.sec) * 1000 + d.millisec := by
    unfold dayMicros
    omega
  have h2 : dayMicros d / 1000 / 1000 = d.hour * 3600 + d.min * 60 + d.sec := by
    rw [h1]
    omega
  refine ⟨?_, by rw [h1]; omega, by rw [h2]; omega, by rw [h2]; omega, by rw [h2]; omega⟩
  unfold dayMicros
  omega

/-- **Dates survive encoding.** -/
theorem cmDecodeDate_dateValue {d : DateDetail} (h : ValidDate d) :
    cmDecodeDate (dateValue d) = d := by
  have hm := dayMicros_bounds h
  have hdoy := dayOfYear_bounds h
  have hsplit := split_day (totalDaysBeforeDate d) (dayMicros d) hm.1 hm.2
  rw [← dateValue_eq] at hsplit
  dsimp only at hsplit
  have hmonths := skipMonths_spec (monthDays d.year) 0 (d.mon - 1) d.day
    (by have := h.mon; simp [monthDays]; omega) h.day.1 h.day.2
  have hdate : (if (decodeLeap (1, totalDaysBeforeDate d + cmBaselineDay)).2 = 0 then
        ((decodeLeap (1, totalDaysBeforeDate d + cmBaselineDay)).1 - 1, 12, 31)
      else ((decodeLeap (1, totalDaysBeforeDate d + cmBaselineDay)).1,
        1 + (skipMonths (monthDays (decodeLeap (1, totalDaysBeforeDate d + cmBaselineDay)).1) 0
          (decodeLeap (1, totalDaysBeforeDate d + cmBaselineDay)).2).1,
        (skipMonths (monthDays (decodeLeap (1, totalDaysBeforeDate d + cmBaselineDay)).1) 0
          (decodeLeap (1, totalDaysBeforeDate d + cmBaselineDay)).2).2.toNat)) =
      (d.year, d.mon, d.day) := by
    rw [totalDaysBeforeDate_eq]
    rcases decodeLeap_spec h.year.1 hdoy.1 hdoy.2 with hl | ⟨hl, hlast⟩
    · have hcast : ((dayOfYear d : Nat) : Int) =
          (((monthDays d.year).take (d.mon - 1)).sum : Nat) + (d.day : Int) := by
        unfold dayOfYear; push_cast; rfl
      rw [hl, if_neg (by simp only; omega)]
      simp only [hcast, hmonths]
      have := h.mon
      simp only [Prod.mk.injEq, Int.toNat_natCast, and_true, true_and]
      omega
    · rw [hl, if_pos rfl]
      have hdec := lastDay h hlast
      simp only [Prod.mk.injEq, Nat.add_sub_cancel, true_and]
      exact ⟨hdec.1.symm, hdec.2.symm⟩
  unfold cmDecodeDate
  rw [if_neg (dateValue_ne_zero h)]
  dsimp only
  rw [hsplit]
  dsimp only
  rw [hdate]
  obtain ⟨e1, e2, e3, e4, e5⟩ := dayMicros_parts h
  simp only [e1, e2, e3, e4, e5, Int.toNat_natCast]
  rw [← h.nanosec]

end CantianConnector.Convert
