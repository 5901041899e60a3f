import CantianConnector.Cbo.Bucket
import CantianConnector.Cbo.Frequency
import CantianConnector.Lib.Interpolation

/-!
# Height-balanced histograms

`calc_hist_between_balance`. Every bucket holds the same number of rows. Two searches find the
buckets of the bounds, `percent_in_bucket` interpolates within them, and the estimate of an open
range is the difference of two positions (`calcHistBetweenBalance_open`): that of the lower bound
in the first bucket that ends after it, and that of the upper bound in the first bucket that ends
at it or after it. So it grows with the range and stays between 0 and 1
(`calcHistBetweenBalance_mono`).
-/

namespace CantianConnector.Cbo

open CantianConnector.Convert

/-! ## The functions -/

/-- `for (i = start; i < hist_count; i++) if (p(hist_infos[i])) break;`: the value of `i`. -/
def searchFrom (p : CacheVariant → Bool) (start : Nat) (hists : List ColumnHist) : Nat :=
  start + (hists.drop start).findIdx fun hist => p hist.epValue

section

variable (time : TimePrims) (field : Field) (cs : CharsetInfo)

/-- The loop of `calc_balance_hist_equal_density`: `popular_count`. -/
def popularCount (val : CacheVariant) : List ColumnHist → Nat
  | [] => 0
  | hist :: rest =>
    match compare time hist.epValue val field cs with
    | .equal => popularCount val rest + 1
    | .great => 0
    | _ => popularCount val rest

/-- `calc_balance_hist_equal_density`. -/
def calcBalanceHistEqualDensity (colStat : StatsColumn) (val : CacheVariant) : Rat :=
  let popularCount := popularCount time field cs val colStat.columnHist
  let histCount := colStat.columnHist.length
  if 1 < popularCount ∧ 0 < histCount then (popularCount : Rat) / histCount else colStat.density

/-- `calc_hist_range_boundary`: the number of complete buckets and `*percent`. -/
def calcHistRangeBoundary (statsVal : FieldStatsVal) (colStat : StatsColumn) :
    Result (Int × Rat) := do
  let histCount := colStat.columnHist.length
  let i := searchFrom (fun ep => compare time ep statsVal.minKeyVal field cs == .great) 0
    colStat.columnHist
  let loPos := if i < histCount then i else histCount - 1
  let lowPercent ← percentInBucket time colStat i statsVal.minKeyVal field
  let j := searchFrom (fun ep => compare time ep statsVal.maxKeyVal field cs == .great ||
    compare time ep statsVal.maxKeyVal field cs == .equal) loPos colStat.columnHist
  let hiPos := if j < histCount then j else histCount - 1
  let highPercent ← percentInBucket time colStat j statsVal.maxKeyVal field
  let percent := 0 + lowPercent - highPercent
  let percent := if 0 < histCount then percent / histCount else percent
  let percent :=
    if statsVal.minType = .closeInternal then
      percent + calcBalanceHistEqualDensity time field cs colStat statsVal.minKeyVal
    else percent
  let percent :=
    if statsVal.maxType = .closeInternal then
      percent + calcBalanceHistEqualDensity time field cs colStat statsVal.maxKeyVal
    else percent
  return ((hiPos : Int) - loPos, percent)

/-- `calc_hist_between_balance`. -/
def calcHistBetweenBalance (colStat : StatsColumn) (statsVal : FieldStatsVal) : Result Rat := do
  let (bucketRange, percent) ← calcHistRangeBoundary time field cs statsVal colStat
  if 0 < colStat.columnHist.length then
    return (bucketRange : Rat) / colStat.columnHist.length + percent
  else return percent

end

/-! ## Histograms of numbers -/

/-- The endpoints as numbers. -/
def endpoints (time : TimePrims) (c : ColumnType) (colStat : StatsColumn) : List Rat :=
  colStat.columnHist.map fun hist => numValue time c hist.epValue

/-- A height-balanced histogram of a numeric column: `low_value` and the endpoints do not
decrease, and `high_value` is the last endpoint. -/
structure BalancedHist (time : TimePrims) (c : ColumnType) (colStat : StatsColumn) : Prop where
  numeric : integerTyped c = true ∨ realTyped c = true
  sorted : (numValue time c colStat.lowValue :: endpoints time c colStat).Pairwise (· ≤ ·)
  last : (endpoints time c colStat).getLast? = some (numValue time c colStat.highValue)

/-- The differences of the values fit the type they are computed in. -/
structure NoOverflow (time : TimePrims) (c : ColumnType) (colStat : StatsColumn) : Prop where
  values : integerTyped c = true →
    ValueOf time c colStat.lowValue ∧ ∀ hist ∈ colStat.columnHist, ValueOf time c hist.epValue
  fits : integerTyped c = true →
    DifferenceFits c (intValue time c colStat.highValue - intValue time c colStat.lowValue)

/-! ## One bucket -/

section

variable {time : TimePrims} {field : Field} {cs : CharsetInfo} {colStat : StatsColumn}
  {statsVal : FieldStatsVal}

theorem DifferenceFits.mono {c : ColumnType} {d e : Int} (h : DifferenceFits c d) (hle : e ≤ d) :
    DifferenceFits c e := by
  unfold DifferenceFits at *
  split at h <;> first | exact lt_of_le_of_lt hle h | trivial

/-- The interpolation in a bucket of a numeric column. -/
theorem percentBetween_share {epHigh key epLow : CacheVariant}
    (hnum : integerTyped field.columnType = true ∨ realTyped field.columnType = true)
    (hvalues : integerTyped field.columnType = true →
      ValueOf time field.columnType epHigh ∧ ValueOf time field.columnType epLow ∧
        DifferenceFits field.columnType
          (intValue time field.columnType epHigh - intValue time field.columnType epLow))
    (hlow : numValue time field.columnType epLow ≤ numValue time field.columnType key)
    (hkey : numValue time field.columnType key ≤ numValue time field.columnType epHigh)
    (hlt : numValue time field.columnType epLow < numValue time field.columnType epHigh) :
    percentBetween time epHigh key epLow field =
      .ok (Interpolation.share (numValue time field.columnType epHigh)
        (numValue time field.columnType key) (numValue time field.columnType epLow)) := by
  unfold numValue at *
  rcases hnum with hint | hreal
  · obtain ⟨hvhigh, hvlow, hfits⟩ := hvalues hint
    simp only [(realTyped_of_integerTyped hint).1, Bool.false_eq_true, if_false, Int.cast_le,
      Int.cast_lt] at hlow hkey hlt ⊢
    rw [percentBetween_fits hint hvhigh hvlow hlow hkey hlt hfits]
    push_cast
    rfl
  · simp only [hreal, if_true] at hlow hkey hlt ⊢
    have hpos : 0 < epHigh.vReal - epLow.vReal := sub_pos.mpr hlt
    unfold percentBetween
    cases hc : field.columnType with
    | float | double | newDecimal =>
      simp only [ColumnType.realType, ColumnType.type, percentReal, if_pos hpos]
      rfl
    | _ => rw [hc] at hreal; cases hreal

/-- The endpoints of a bucket, and what is known of them. -/
theorem bucket_endpoints (hover : NoOverflow time field.columnType colStat) {i : Nat}
    {high base : Rat}
    (hhigh : (endpoints time field.columnType colStat)[i]? = some high)
    (hbase : (numValue time field.columnType colStat.lowValue ::
      endpoints time field.columnType colStat)[i]? = some base) :
    numValue time field.columnType (bucketHigh colStat i) = high ∧
      numValue time field.columnType (bucketLow colStat i) = base ∧
      (integerTyped field.columnType = true →
        ValueOf time field.columnType (bucketHigh colStat i) ∧
          ValueOf time field.columnType (bucketLow colStat i)) := by
  unfold endpoints at hhigh hbase
  rw [List.getElem?_map] at hhigh
  obtain ⟨hist, hget, hvalue⟩ := Option.map_eq_some_iff.mp hhigh
  have hbucket : bucketHigh colStat i = hist.epValue := by rw [bucketHigh, hget]; rfl
  rw [hbucket]
  cases i with
  | zero =>
    have hlow : bucketLow colStat 0 = colStat.lowValue := by rw [bucketLow, if_pos (by decide)]
    rw [hlow]
    refine ⟨hvalue, by simpa using hbase, fun hint => ?_⟩
    exact ⟨(hover.values hint).2 hist (List.mem_of_getElem? hget), (hover.values hint).1⟩
  | succ i =>
    rw [List.getElem?_cons_succ, List.getElem?_map] at hbase
    obtain ⟨prev, hprev, hprevValue⟩ := Option.map_eq_some_iff.mp hbase
    have hlow : bucketLow colStat (i + 1) = prev.epValue := by
      rw [bucketLow, if_neg (by omega), Nat.add_sub_cancel, hprev]
      rfl
    rw [hlow]
    refine ⟨hvalue, hprevValue, fun hint => ?_⟩
    exact ⟨(hover.values hint).2 hist (List.mem_of_getElem? hget),
      (hover.values hint).2 prev (List.mem_of_getElem? hprev)⟩

theorem le_of_getLast? {l : List Rat} {z : Rat} (hsorted : l.Pairwise (· ≤ ·))
    (hlast : l.getLast? = some z) : ∀ e ∈ l, e ≤ z := by
  obtain ⟨front, rfl⟩ := List.getLast?_eq_some_iff.mp hlast
  intro e he
  rcases List.mem_append.mp he with he | he
  · exact (List.pairwise_append.mp hsorted).2.2 e he z (List.mem_singleton_self z)
  · rw [List.mem_singleton.mp he]

/-- A bucket is no wider than the histogram. -/
theorem bucket_fits (hhist : BalancedHist time field.columnType colStat)
    (hover : NoOverflow time field.columnType colStat) {i : Nat} {high base : Rat}
    (hhigh : (endpoints time field.columnType colStat)[i]? = some high)
    (hbase : (numValue time field.columnType colStat.lowValue ::
      endpoints time field.columnType colStat)[i]? = some base)
    (hint : integerTyped field.columnType = true) :
    DifferenceFits field.columnType (intValue time field.columnType (bucketHigh colStat i) -
      intValue time field.columnType (bucketLow colStat i)) := by
  obtain ⟨hhighValue, hlowValue, -⟩ := bucket_endpoints hover hhigh hbase
  obtain ⟨hall, hsorted⟩ := List.pairwise_cons.mp hhist.sorted
  have htop : high ≤ numValue time field.columnType colStat.highValue :=
    le_of_getLast? hsorted hhist.last high (List.mem_of_getElem? hhigh)
  have hbottom : numValue time field.columnType colStat.lowValue ≤ base := by
    rcases List.mem_cons.mp (List.mem_of_getElem? hbase) with h | h
    · exact h.ge
    · exact hall base h
  rw [← hhighValue] at htop
  rw [← hlowValue] at hbottom
  unfold numValue at htop hbottom
  simp only [(realTyped_of_integerTyped hint).1, Bool.false_eq_true, if_false, Int.cast_le]
    at htop hbottom
  exact (hover.fits hint).mono (by omega)

/-- The interpolation of a key in its bucket. -/
theorem percentInBucket_share (hhist : BalancedHist time field.columnType colStat)
    (hover : NoOverflow time field.columnType colStat) {i : Nat} {high base : Rat}
    {key : CacheVariant}
    (hhigh : (endpoints time field.columnType colStat)[i]? = some high)
    (hbase : (numValue time field.columnType colStat.lowValue ::
      endpoints time field.columnType colStat)[i]? = some base)
    (hlow : base ≤ numValue time field.columnType key)
    (hkey : numValue time field.columnType key ≤ high) (hlt : base < high) :
    percentInBucket time colStat i key field =
      .ok (Interpolation.share high (numValue time field.columnType key) base) := by
  obtain ⟨hhighValue, hlowValue, hvalues⟩ := bucket_endpoints hover hhigh hbase
  have hfits := bucket_fits hhist hover hhigh hbase
  have hshare := @percentBetween_share time field (bucketHigh colStat i) key (bucketLow colStat i)
    hhist.numeric
    (fun hint => ⟨(hvalues hint).1, (hvalues hint).2, hfits hint⟩)
  rw [hhighValue, hlowValue] at hshare
  exact hshare hlow hkey hlt

/-! ## The searches -/

theorem stringTyped_of_numeric
    (h : integerTyped field.columnType = true ∨ realTyped field.columnType = true) :
    stringTyped field.columnType = false := by
  rcases h with h | h
  · exact (realTyped_of_integerTyped h).2
  · exact stringTyped_of_realTyped h

theorem compare_numeric (hcs : cs.Lawful)
    (hnum : integerTyped field.columnType = true ∨ realTyped field.columnType = true)
    {a b : CacheVariant} (hsep : Separated cs field.columnType a b) :
    compare time a b field cs = exactCompare
      (decide (numValue time field.columnType b < numValue time field.columnType a))
      (decide (numValue time field.columnType a < numValue time field.columnType b)) := by
  have hcmp : Comparable field.columnType := by
    rcases hnum with h | h
    · exact Or.inl h
    · exact Or.inr (Or.inl h)
  rw [compare_exact hcs hcmp hsep]
  simp only [valueLt, stringTyped_of_numeric hnum, Bool.false_eq_true, if_false]

/-- A search that skips entries which it would pass over. -/
theorem searchFrom_eq {p : CacheVariant → Bool} {q : Rat → Bool} {c : ColumnType} {start : Nat}
    (h : ∀ hist ∈ colStat.columnHist, p hist.epValue = q (numValue time c hist.epValue))
    (hstart : start ≤ (endpoints time c colStat).findIdx q) :
    searchFrom p start colStat.columnHist = (endpoints time c colStat).findIdx q := by
  have hwhole : (endpoints time c colStat).findIdx q =
      colStat.columnHist.findIdx fun hist => p hist.epValue := by
    unfold endpoints
    rw [List.findIdx_map]
    apply Nat.le_antisymm
    · apply List.findIdx_le_findIdx
      intro hist hmem hp
      rw [Function.comp_apply, ← h hist hmem, hp]
    · apply List.findIdx_le_findIdx
      intro hist hmem hq
      rw [h hist hmem]
      exact hq
  rw [hwhole] at hstart ⊢
  have hlen : start ≤ colStat.columnHist.length := hstart.trans List.findIdx_le_length
  have htake : (colStat.columnHist.take start).length = start := by
    rw [List.length_take, Nat.min_eq_left hlen]
  have hsplit := @List.findIdx_append _ (fun hist : ColumnHist => p hist.epValue)
    (colStat.columnHist.take start) (colStat.columnHist.drop start)
  rw [List.take_append_drop, htake] at hsplit
  unfold searchFrom
  split at hsplit
  · omega
  · omega

/-- The bucket of a lower bound: the first one that ends after it. -/
theorem searchFrom_after (hcs : cs.Lawful)
    (hnum : integerTyped field.columnType = true ∨ realTyped field.columnType = true)
    {a : CacheVariant}
    (hsep : ∀ hist ∈ colStat.columnHist, Separated cs field.columnType hist.epValue a) :
    searchFrom (fun ep => compare time ep a field cs == .great) 0 colStat.columnHist =
      (endpoints time field.columnType colStat).findIdx
        fun e => decide (numValue time field.columnType a < e) := by
  refine searchFrom_eq (fun hist hmem => ?_) (Nat.zero_le _)
  rw [compare_numeric hcs hnum (hsep hist hmem)]
  by_cases h : numValue time field.columnType a < numValue time field.columnType hist.epValue
  · simp [exactCompare, h]
  · simp only [exactCompare, h, decide_false, Bool.false_eq_true, if_false]
    split <;> rfl

/-- The bucket of an upper bound: the first one that ends at it or after it. -/
theorem searchFrom_upTo (hcs : cs.Lawful)
    (hnum : integerTyped field.columnType = true ∨ realTyped field.columnType = true)
    {b : CacheVariant} {start : Nat}
    (hsep : ∀ hist ∈ colStat.columnHist, Separated cs field.columnType hist.epValue b)
    (hstart : start ≤ (endpoints time field.columnType colStat).findIdx
      fun e => decide (numValue time field.columnType b ≤ e)) :
    searchFrom
        (fun ep => compare time ep b field cs == .great || compare time ep b field cs == .equal)
        start colStat.columnHist =
      (endpoints time field.columnType colStat).findIdx
        fun e => decide (numValue time field.columnType b ≤ e) := by
  refine searchFrom_eq (fun hist hmem => ?_) hstart
  rw [compare_numeric hcs hnum (hsep hist hmem)]
  rcases lt_trichotomy (numValue time field.columnType b)
    (numValue time field.columnType hist.epValue) with h | h | h
  · simp [exactCompare, h, h.le]
  · simp [exactCompare, h]
  · simp [exactCompare, h, h.not_gt, h.not_ge]

/-! ## Open ranges -/

/-- **The estimate of an open range is a difference of positions.** -/
theorem calcHistBetweenBalance_open (hcs : cs.Lawful)
    (hhist : BalancedHist time field.columnType colStat)
    (hover : NoOverflow time field.columnType colStat) {a b : CacheVariant}
    (hsep : ∀ hist ∈ colStat.columnHist, Separated cs field.columnType hist.epValue a ∧
      Separated cs field.columnType hist.epValue b)
    (hlow : numValue time field.columnType colStat.lowValue ≤ numValue time field.columnType a)
    (hlt : numValue time field.columnType a < numValue time field.columnType b)
    (hhigh : numValue time field.columnType b ≤ numValue time field.columnType colStat.highValue) :
    calcHistBetweenBalance time field cs colStat ⟨.openInternal, .openInternal, b, a⟩ =
      .ok ((Interpolation.upTo (numValue time field.columnType colStat.lowValue)
            (endpoints time field.columnType colStat) (numValue time field.columnType b) -
          Interpolation.after (numValue time field.columnType colStat.lowValue)
            (endpoints time field.columnType colStat) (numValue time field.columnType a)) /
        colStat.columnHist.length) := by
  have hmem := List.mem_of_getLast? hhist.last
  have hlen : (endpoints time field.columnType colStat).length = colStat.columnHist.length := by
    rw [endpoints, List.length_map]
  obtain ⟨highA, baseA, hhighA, hbaseA, hleA, hltA, hafter⟩ := Interpolation.after_eq hlow
    ⟨_, hmem, lt_of_lt_of_le hlt hhigh⟩
  obtain ⟨highB, baseB, hhighB, hbaseB, hltB, hleB, hupTo⟩ := Interpolation.upTo_eq
    (lt_of_le_of_lt hlow hlt) ⟨_, hmem, hhigh⟩
  have hidxA := (List.getElem?_eq_some_iff.mp hhighA).1
  have hidxB := (List.getElem?_eq_some_iff.mp hhighB).1
  rw [hlen] at hidxA hidxB
  have hpercentA := percentInBucket_share hhist hover hhighA hbaseA hleA hltA.le
    (lt_of_le_of_lt hleA hltA)
  have hpercentB := percentInBucket_share hhist hover hhighB hbaseB hltB.le hleB
    (lt_of_lt_of_le hltB hleB)
  have hsearchA := @searchFrom_after time field cs colStat hcs hhist.numeric a
    fun hist hmem => (hsep hist hmem).1
  have horder : (endpoints time field.columnType colStat).findIdx
        (fun e => decide (numValue time field.columnType a < e)) ≤
      (endpoints time field.columnType colStat).findIdx
        fun e => decide (numValue time field.columnType b ≤ e) := by
    apply List.findIdx_le_findIdx
    intro e _ he
    rw [decide_eq_true_eq] at he ⊢
    exact lt_of_lt_of_le hlt he
  have hsearchB := searchFrom_upTo hcs hhist.numeric (fun hist hmem => (hsep hist hmem).2) horder
  have hpos : 0 < colStat.columnHist.length := by omega
  have hne : (colStat.columnHist.length : Rat) ≠ 0 := by exact_mod_cast hpos.ne'
  unfold calcHistBetweenBalance calcHistRangeBoundary
  simp only [hsearchA, if_pos hidxA, hpercentA, result_bind_ok, hsearchB, if_pos hidxB, hpercentB,
    if_pos hpos, result_pure, hupTo, hafter]
  congr 1
  push_cast
  field_simp
  ring

/-- **A wider range is not estimated to hold less**, and every estimate is a share. -/
theorem calcHistBetweenBalance_mono (hcs : cs.Lawful)
    (hhist : BalancedHist time field.columnType colStat)
    (hover : NoOverflow time field.columnType colStat) {a b a' b' : CacheVariant}
    (hsep : ∀ hist ∈ colStat.columnHist, ∀ v ∈ [a, b, a', b'],
      Separated cs field.columnType hist.epValue v)
    (hlow : numValue time field.columnType colStat.lowValue ≤ numValue time field.columnType a')
    (ha : numValue time field.columnType a' ≤ numValue time field.columnType a)
    (hab : numValue time field.columnType a < numValue time field.columnType b)
    (hb : numValue time field.columnType b ≤ numValue time field.columnType b')
    (hhigh : numValue time field.columnType b' ≤
      numValue time field.columnType colStat.highValue) :
    ∃ density density',
      calcHistBetweenBalance time field cs colStat ⟨.openInternal, .openInternal, b, a⟩ =
        .ok density ∧
      calcHistBetweenBalance time field cs colStat ⟨.openInternal, .openInternal, b', a'⟩ =
        .ok density' ∧
      0 ≤ density ∧ density ≤ density' ∧ density' ≤ 1 := by
  have hinner := calcHistBetweenBalance_open hcs hhist hover
    (fun hist hmem => ⟨hsep hist hmem a (by simp), hsep hist hmem b (by simp)⟩)
    (hlow.trans ha) hab (hb.trans hhigh)
  have houter := calcHistBetweenBalance_open hcs hhist hover
    (fun hist hmem => ⟨hsep hist hmem a' (by simp), hsep hist hmem b' (by simp)⟩)
    hlow (lt_of_le_of_lt ha (lt_of_lt_of_le hab hb)) hhigh
  refine ⟨_, _, hinner, houter, ?_, ?_, ?_⟩
  · apply div_nonneg
    · exact sub_nonneg.mpr (Interpolation.after_le_upTo (hlow.trans ha) hab)
    · exact Nat.cast_nonneg _
  · apply div_le_div_of_nonneg_right
    · have hafter := Interpolation.after_mono (endpoints time field.columnType colStat) hlow ha
      have hupTo := Interpolation.upTo_mono (endpoints time field.columnType colStat)
        (hlow.trans (ha.trans hab.le)) hb
      linarith
    · exact Nat.cast_nonneg _
  · have hmem := List.mem_of_getLast? hhist.last
    have hafter :=
      Interpolation.neg_one_le_after (endpoints time field.columnType colStat) hlow
    have hupTo := Interpolation.upTo_le (hlow.trans (ha.trans (hab.le.trans hb))) ⟨_, hmem, hhigh⟩
    have hlen : (endpoints time field.columnType colStat).length = colStat.columnHist.length := by
      rw [endpoints, List.length_map]
    rw [hlen] at hupTo
    apply div_le_one_of_le₀
    · linarith
    · exact Nat.cast_nonneg _

end

/-- Three buckets of an INT column that end at 2, 2 and 7. -/
def intBuckets : StatsColumn :=
  ⟨0, 1, .heightBalanced, [⟨{ vInt := 2 }, 1⟩, ⟨{ vInt := 2 }, 2⟩, ⟨{ vInt := 7 }, 3⟩],
    { vInt := 0 }, { vInt := 7 }⟩

theorem balancedHist_intBuckets :
    BalancedHist ServerPrims.none.time (.long false) intBuckets ∧
      NoOverflow ServerPrims.none.time (.long false) intBuckets := by
  refine ⟨⟨Or.inl rfl, ?_, rfl⟩, ⟨fun _ => ⟨?_, ?_⟩, fun _ => ?_⟩⟩
  · norm_num [endpoints, intBuckets, numValue, realTyped, intValue]
  · simp [intBuckets, ValueOf, SignedRange]
  · simp [intBuckets, ValueOf, SignedRange]
  · simp [DifferenceFits, intValue, intBuckets]

/-- The ranges `2 < c < 6` and `1 < c < 7`. -/
theorem calcHistBetweenBalance_mono_intBuckets :
    ∃ density density',
      calcHistBetweenBalance ServerPrims.none.time (statsField (.long false)) .binary intBuckets
        ⟨.openInternal, .openInternal, { vInt := 6 }, { vInt := 2 }⟩ = .ok density ∧
      calcHistBetweenBalance ServerPrims.none.time (statsField (.long false)) .binary intBuckets
        ⟨.openInternal, .openInternal, { vInt := 7 }, { vInt := 1 }⟩ = .ok density' ∧
      0 ≤ density ∧ density ≤ density' ∧ density' ≤ 1 := by
  apply calcHistBetweenBalance_mono CharsetInfo.binary_lawful balancedHist_intBuckets.1
    balancedHist_intBuckets.2
  · exact fun _ _ _ _ => .of_integerTyped rfl
  all_goals norm_num [intBuckets, numValue, statsField, realTyped, intValue]

/-- Three buckets of a DOUBLE column that end at 1, 1.00001 and 2. -/
def closeBuckets : StatsColumn :=
  ⟨0, 1, .heightBalanced,
    [⟨{ vReal := 1 }, 1⟩, ⟨{ vReal := 100001 / 100000 }, 2⟩, ⟨{ vReal := 2 }, 3⟩],
    { vReal := 0 }, { vReal := 2 }⟩

/-- The ranges `0.999995 < c < 2` and `0.99998 < c < 2`: the first endpoint is taken for equal to
0.999995, and the interpolation goes back beyond the bucket. -/
theorem calcHistBetweenBalance_close :
    BalancedHist ServerPrims.none.time .double closeBuckets ∧
      calcHistBetweenBalance ServerPrims.none.time (statsField .double) .binary closeBuckets
        ⟨.openInternal, .openInternal, { vReal := 2 }, { vReal := 199999 / 200000 }⟩ =
          .ok (5 / 6) ∧
      calcHistBetweenBalance ServerPrims.none.time (statsField .double) .binary closeBuckets
        ⟨.openInternal, .openInternal, { vReal := 2 }, { vReal := 49999 / 50000 }⟩ =
          .ok (100001 / 150000) ∧
      ¬ (5 / 6 : Rat) ≤ 100001 / 150000 := by
  refine ⟨⟨Or.inr rfl, ?_, rfl⟩, by decide +kernel, by decide +kernel, by norm_num⟩
  norm_num [endpoints, closeBuckets, numValue, realTyped]

end CantianConnector.Cbo
