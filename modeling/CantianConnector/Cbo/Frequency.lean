import Mathlib.Algebra.Order.Field.Basic
import CantianConnector.Cbo.Compare
import CantianConnector.Lib.Cumulative

/-!
# Frequency histograms

`calc_hist_between_frequency` and `calc_frequency_hist_equal_density`. An endpoint carries the
number of rows up to and including it. The two loops of the range estimate stop at the first
endpoint that reaches the lower bound and at the first that exceeds the upper one; the cumulative
counts in front of them give the rows of the range (`calcHistBetweenFrequency_exact`). What is
needed of the column is that `compare` follows the order of its values.
-/

namespace CantianConnector.Cbo

open CantianConnector.Convert

/-! ## The functions -/

/-- `field_stats_val`. -/
structure FieldStatsVal where
  minType : CmpType
  maxType : CmpType
  maxKeyVal : CacheVariant
  minKeyVal : CacheVariant

/-- `eval_density_result`. -/
def evalDensityResult (density : Rat) : Rat :=
  if density < 0 then 0 else if 1 < density then 1 else density

/-- `hist_infos[hist_count - 1].ep_number`. -/
def endNumber (colStat : StatsColumn) : Int :=
  ((colStat.columnHist.getLast?).map ColumnHist.epNumber).getD 0

section

variable (time : TimePrims) (field : Field) (cs : CharsetInfo)

/-- The loop of `calc_frequency_hist_equal_density`; `prev` is the `ep_number` before the list, 0
at its start. -/
def equalLoop (val : CacheVariant) : Int → List ColumnHist → Int
  | _, [] => 0
  | prev, hist :: rest =>
    match compare time hist.epValue val field cs with
    | .equal => hist.epNumber - prev
    | .great => 0
    | _ => equalLoop val hist.epNumber rest

/-- `calc_frequency_hist_equal_density`. -/
def calcFrequencyHistEqualDensity (colStat : StatsColumn) (val : CacheVariant) : Rat :=
  let result := equalLoop time field cs val 0 colStat.columnHist
  let endNum := endNumber colStat
  if 0 < result ∧ 0 < endNum then (result : Rat) / endNum
  else if result = 0 then 0
  else colStat.density

/-- Where the first loop of `calc_hist_between_frequency` stops. -/
def reachesLow (minType : CmpType) (result : CompareType) : Bool :=
  (minType == .closeInternal && (result == .great || result == .equal)) ||
    (minType == .openInternal && result == .great)

/-- Where the second loop stops. -/
def exceedsHigh (maxType : CmpType) (result : CompareType) : Bool :=
  (maxType == .openInternal && (result == .great || result == .equal)) ||
    (maxType == .closeInternal && result == .great)

/-- `low_nums` after the first loop. -/
def lowLoop (statsVal : FieldStatsVal) (totalNums : Int) : Int → List ColumnHist → Int
  | _, [] => 0
  | prev, hist :: rest =>
    if reachesLow statsVal.minType (compare time hist.epValue statsVal.minKeyVal field cs) then
      totalNums - prev
    else lowLoop statsVal totalNums hist.epNumber rest

/-- `high_nums` after the second loop. -/
def highLoop (statsVal : FieldStatsVal) (totalNums : Int) : Int → List ColumnHist → Int
  | _, [] => totalNums
  | prev, hist :: rest =>
    if exceedsHigh statsVal.maxType (compare time hist.epValue statsVal.maxKeyVal field cs) then
      prev
    else highLoop statsVal totalNums hist.epNumber rest

/-- `calc_hist_between_frequency`. -/
def calcHistBetweenFrequency (colStat : StatsColumn) (statsVal : FieldStatsVal) : Rat :=
  let totalNums := endNumber colStat
  let lowNums := lowLoop time field cs statsVal totalNums 0 colStat.columnHist
  let highNums := highLoop time field cs statsVal totalNums 0 colStat.columnHist
  if 0 < totalNums then ((lowNums + highNums - totalNums : Int) : Rat) / totalNums
  else colStat.density

/-! ## What the estimates are to be -/

/-- The endpoints with their cumulative counts. -/
def histTable (colStat : StatsColumn) : List (CacheVariant × Int) :=
  colStat.columnHist.map fun hist => (hist.epValue, hist.epNumber)

/-- A frequency histogram: strictly increasing endpoints, cumulative counts, some row. -/
structure FrequencyHist (colStat : StatsColumn) : Prop where
  increasing : colStat.columnHist.Pairwise fun a b =>
    valueLt time field cs a.epValue b.epValue = true
  counts : Cumulative.Nondecreasing 0 (histTable colStat)
  positive : 0 < endNumber colStat

/-- The share of the rows whose value satisfies `p`. -/
def fraction (colStat : StatsColumn) (p : CacheVariant → Bool) : Rat :=
  (Cumulative.count p 0 (histTable colStat) : Rat) /
    Cumulative.count (fun _ => true) 0 (histTable colStat)

/-- Does a value lie above the lower bound, or at it? -/
def aboveMin (statsVal : FieldStatsVal) (v : CacheVariant) : Bool :=
  if statsVal.minType = .closeInternal then !valueLt time field cs v statsVal.minKeyVal
  else valueLt time field cs statsVal.minKeyVal v

/-- Does a value lie below the upper bound, or at it? -/
def belowMax (statsVal : FieldStatsVal) (v : CacheVariant) : Bool :=
  if statsVal.maxType = .closeInternal then !valueLt time field cs statsVal.maxKeyVal v
  else valueLt time field cs v statsVal.maxKeyVal

/-- The values of a range. -/
def inRange (statsVal : FieldStatsVal) (v : CacheVariant) : Bool :=
  aboveMin time field cs statsVal v && belowMax time field cs statsVal v

/-- The values equal to a given one. -/
def sameValue (val v : CacheVariant) : Bool :=
  !valueLt time field cs v val && !valueLt time field cs val v

end

/-! ## The loops as cumulative counts -/

section

variable {time : TimePrims} {field : Field} {cs : CharsetInfo} {colStat : StatsColumn}
  {statsVal : FieldStatsVal}

theorem endNumber_eq (hpos : 0 < endNumber colStat) :
    endNumber colStat = Cumulative.total 0 (histTable colStat) := by
  unfold endNumber histTable at *
  rcases List.eq_nil_or_concat' colStat.columnHist with hnil | ⟨front, last, hlast⟩
  · rw [hnil] at hpos
    exact absurd hpos (lt_irrefl 0)
  · rw [hlast, List.getLast?_append, List.map_append]
    exact (Cumulative.total_append 0 _ last.epValue last.epNumber).symm

/-- What the loops ask of an endpoint: does it lie behind the bound, and is it not before it? -/
theorem compare_stops (hcs : cs.Lawful) (hcmp : Comparable field.columnType)
    {v bound : CacheVariant} (hsep : Separated cs field.columnType v bound) :
    (compare time v bound field cs == .great) = valueLt time field cs bound v ∧
      (compare time v bound field cs == .great || compare time v bound field cs == .equal) =
        !valueLt time field cs v bound := by
  rw [compare_exact hcs hcmp hsep]
  have hasymm : valueLt time field cs bound v = true → valueLt time field cs v bound = false :=
    valueLt_asymm hcs
  cases hgt : valueLt time field cs bound v with
  | true =>
    rw [hasymm hgt]
    exact ⟨rfl, rfl⟩
  | false =>
    cases valueLt time field cs v bound with
    | true => exact ⟨rfl, rfl⟩
    | false => exact ⟨rfl, rfl⟩

theorem reachesLow_exact (htype : statsVal.minType ≠ .null) (hcs : cs.Lawful)
    (hcmp : Comparable field.columnType) {v : CacheVariant}
    (hsep : Separated cs field.columnType v statsVal.minKeyVal) :
    reachesLow statsVal.minType (compare time v statsVal.minKeyVal field cs) =
      aboveMin time field cs statsVal v := by
  obtain ⟨hgreat, hupTo⟩ := @compare_stops time field cs hcs hcmp _ _ hsep
  unfold reachesLow aboveMin
  rw [hupTo, hgreat]
  cases hmin : statsVal.minType with
  | null => exact absurd hmin htype
  | openInternal => rfl
  | closeInternal => exact Bool.or_false _

theorem exceedsHigh_exact (htype : statsVal.maxType ≠ .null) (hcs : cs.Lawful)
    (hcmp : Comparable field.columnType) {v : CacheVariant}
    (hsep : Separated cs field.columnType v statsVal.maxKeyVal) :
    exceedsHigh statsVal.maxType (compare time v statsVal.maxKeyVal field cs) =
      !belowMax time field cs statsVal v := by
  obtain ⟨hgreat, hupTo⟩ := @compare_stops time field cs hcs hcmp _ _ hsep
  unfold exceedsHigh belowMax
  rw [hupTo, hgreat]
  cases hmax : statsVal.maxType with
  | null => exact absurd hmax htype
  | openInternal => exact Bool.or_false _
  | closeInternal => exact (Bool.not_not _).symm

theorem lowLoop_eq (p : CacheVariant → Bool) (prev : Int) {hists : List ColumnHist}
    (h : ∀ hist ∈ hists, reachesLow statsVal.minType
      (compare time hist.epValue statsVal.minKeyVal field cs) = p hist.epValue)
    {totalNums : Int}
    (htotal : totalNums =
      Cumulative.total prev (hists.map fun hist => (hist.epValue, hist.epNumber))) :
    lowLoop time field cs statsVal totalNums prev hists = totalNums -
      Cumulative.before p prev (hists.map fun hist => (hist.epValue, hist.epNumber)) := by
  induction hists generalizing prev with
  | nil =>
    rw [htotal]
    simp [lowLoop, Cumulative.before, Cumulative.total]
  | cons hist rest ih =>
    have hrest := ih hist.epNumber (fun e he => h e (List.mem_cons_of_mem _ he)) htotal
    simp only [lowLoop, h hist List.mem_cons_self, List.map_cons, Cumulative.before, hrest]
    split <;> rfl

theorem highLoop_eq (p : CacheVariant → Bool) (prev : Int) {hists : List ColumnHist}
    (h : ∀ hist ∈ hists, exceedsHigh statsVal.maxType
      (compare time hist.epValue statsVal.maxKeyVal field cs) = p hist.epValue)
    {totalNums : Int}
    (htotal : totalNums =
      Cumulative.total prev (hists.map fun hist => (hist.epValue, hist.epNumber))) :
    highLoop time field cs statsVal totalNums prev hists =
      Cumulative.before p prev (hists.map fun hist => (hist.epValue, hist.epNumber)) := by
  induction hists generalizing prev with
  | nil => exact htotal
  | cons hist rest ih =>
    have hrest := ih hist.epNumber (fun e he => h e (List.mem_cons_of_mem _ he)) htotal
    simp only [highLoop, h hist List.mem_cons_self, List.map_cons, Cumulative.before, hrest]

/-- The loop finds the rows of one value: no later endpoint is equal to it. -/
theorem equalLoop_eq (hcs : cs.Lawful) (hcmp : Comparable field.columnType)
    {val : CacheVariant} (prev : Int) {hists : List ColumnHist}
    (hsep : ∀ hist ∈ hists, Separated cs field.columnType hist.epValue val)
    (hinc : hists.Pairwise fun a b => valueLt time field cs a.epValue b.epValue = true) :
    equalLoop time field cs val prev hists = Cumulative.count (sameValue time field cs val) prev
      (hists.map fun hist => (hist.epValue, hist.epNumber)) := by
  induction hists generalizing prev with
  | nil => rfl
  | cons hist rest ih =>
    obtain ⟨hall, hrest⟩ := List.pairwise_cons.mp hinc
    have hih := ih hist.epNumber (fun e he => hsep e (List.mem_cons_of_mem _ he)) hrest
    -- once an endpoint is not below the value, the later ones are above it
    have hlater : valueLt time field cs hist.epValue val = false →
        Cumulative.count (sameValue time field cs val) hist.epNumber
          (rest.map fun hist => (hist.epValue, hist.epNumber)) = 0 := by
      intro hnot
      apply Cumulative.count_none
      intro e he
      obtain ⟨hist', hmem, rfl⟩ := List.mem_map.mp he
      have habove : valueLt time field cs val hist'.epValue = true := by
        by_contra hcon
        have hlt := valueLt_of_lt_of_not_lt hcs (hall hist' hmem)
          (Bool.eq_false_of_not_eq_true hcon)
        rw [hnot] at hlt
        cases hlt
      simp [sameValue, habove]
    simp only [equalLoop, List.map_cons, Cumulative.count, sameValue]
    rw [compare_exact hcs hcmp (hsep hist List.mem_cons_self)]
    by_cases hgt : valueLt time field cs val hist.epValue = true
    · have hlt := valueLt_asymm hcs hgt
      rw [hlater hlt]
      simp [exactCompare, hgt, hlt]
    · by_cases hlt : valueLt time field cs hist.epValue val = true
      · rw [← hih]
        simp [exactCompare, hgt, hlt]
      · rw [hlater (Bool.eq_false_of_not_eq_true hlt)]
        simp [exactCompare, hgt, hlt]

/-! ## The estimates are exact -/

theorem count_true (colStat : StatsColumn) :
    Cumulative.count (fun _ => true) 0 (histTable colStat) =
      Cumulative.total 0 (histTable colStat) := by
  rw [Cumulative.count_all 0 (fun _ _ => rfl), Int.sub_zero]

theorem endNumber_eq_count (h : FrequencyHist time field cs colStat) :
    endNumber colStat = Cumulative.count (fun _ => true) 0 (histTable colStat) := by
  rw [count_true, endNumber_eq h.positive]

theorem upward_of_increasing {p : CacheVariant → Bool}
    (hinc : colStat.columnHist.Pairwise fun a b =>
      valueLt time field cs a.epValue b.epValue = true)
    (hp : ∀ a b, valueLt time field cs a b = true → p a = true → p b = true) :
    Cumulative.Upward p (histTable colStat) := by
  unfold Cumulative.Upward histTable
  rw [List.pairwise_map]
  exact hinc.imp fun {a b} hab => hp a.epValue b.epValue hab

theorem aboveMin_upward (hcs : cs.Lawful) {a b : CacheVariant}
    (hab : valueLt time field cs a b = true) (ha : aboveMin time field cs statsVal a = true) :
    aboveMin time field cs statsVal b = true := by
  unfold aboveMin at *
  split
  · rename_i hclose
    rw [if_pos hclose, Bool.not_eq_true'] at ha
    rw [Bool.not_eq_true']
    cases hb : valueLt time field cs b statsVal.minKeyVal with
    | false => rfl
    | true =>
      have := valueLt_trans hcs hab hb
      rw [ha] at this
      cases this
  · rename_i hopen
    rw [if_neg hopen] at ha
    exact valueLt_trans hcs ha hab

theorem belowMax_upward (hcs : cs.Lawful) {a b : CacheVariant}
    (hab : valueLt time field cs a b = true) (ha : (!belowMax time field cs statsVal a) = true) :
    (!belowMax time field cs statsVal b) = true := by
  unfold belowMax at *
  split
  · rename_i hclose
    rw [if_pos hclose, Bool.not_not] at ha
    rw [Bool.not_not]
    exact valueLt_trans hcs ha hab
  · rename_i hopen
    rw [if_neg hopen, Bool.not_eq_true'] at ha
    rw [Bool.not_eq_true']
    cases hb : valueLt time field cs b statsVal.maxKeyVal with
    | false => rfl
    | true =>
      have := valueLt_trans hcs hab hb
      rw [ha] at this
      cases this

/-- A density that is a share of rows is left alone, a negative one is cut off. -/
theorem evalDensityResult_div {n total : Int} (htotal : 0 < total) (hle : n ≤ total) :
    evalDensityResult ((n : Rat) / total) = ((max 0 n : Int) : Rat) / total := by
  have hpos : (0 : Rat) < total := by exact_mod_cast htotal
  have hone : ¬ (1 : Rat) < (n : Rat) / total := by
    rw [not_lt, div_le_one hpos]
    exact_mod_cast hle
  unfold evalDensityResult
  by_cases hn : n < 0
  · have hneg : (n : Rat) / total < 0 := div_neg_of_neg_of_pos (by exact_mod_cast hn) hpos
    rw [if_pos hneg, max_eq_left hn.le, Int.cast_zero, zero_div]
  · have hnonneg : ¬ (n : Rat) / total < 0 := by
      rw [not_lt]
      apply div_nonneg
      · exact_mod_cast not_lt.mp hn
      · exact hpos.le
    rw [if_neg hnonneg, if_neg hone, max_eq_right (not_lt.mp hn)]

/-- **The estimate of a range is its share of the rows.** -/
theorem calcHistBetweenFrequency_exact (hcs : cs.Lawful) (hcmp : Comparable field.columnType)
    (h : FrequencyHist time field cs colStat) (hmin : statsVal.minType ≠ .null)
    (hmax : statsVal.maxType ≠ .null)
    (hsep : ∀ hist ∈ colStat.columnHist,
      Separated cs field.columnType hist.epValue statsVal.minKeyVal ∧
        Separated cs field.columnType hist.epValue statsVal.maxKeyVal) :
    evalDensityResult (calcHistBetweenFrequency time field cs colStat statsVal) =
      fraction colStat (inRange time field cs statsVal) := by
  have htotal := endNumber_eq h.positive
  have hlow : lowLoop time field cs statsVal (endNumber colStat) 0 colStat.columnHist =
      endNumber colStat -
        Cumulative.before (aboveMin time field cs statsVal) 0 (histTable colStat) := lowLoop_eq _ 0
    (fun hist hmem => reachesLow_exact hmin hcs hcmp (hsep hist hmem).1) htotal
  have hhigh : highLoop time field cs statsVal (endNumber colStat) 0 colStat.columnHist =
      Cumulative.before (fun v => !belowMax time field cs statsVal v) 0 (histTable colStat) :=
    highLoop_eq _ 0 (fun hist hmem => exceedsHigh_exact hmax hcs hcmp (hsep hist hmem).2) htotal
  have hp : Cumulative.Upward (aboveMin time field cs statsVal) (histTable colStat) :=
    upward_of_increasing h.increasing fun a b => aboveMin_upward hcs
  have hq : Cumulative.Upward (fun v => !belowMax time field cs statsVal v) (histTable colStat) :=
    upward_of_increasing h.increasing fun a b => belowMax_upward hcs
  have hcount := Cumulative.count_between hp hq h.counts
  simp only [Bool.not_not] at hcount
  have hnums : lowLoop time field cs statsVal (endNumber colStat) 0 colStat.columnHist +
      highLoop time field cs statsVal (endNumber colStat) 0 colStat.columnHist -
        endNumber colStat =
      Cumulative.before (fun v => !belowMax time field cs statsVal v) 0 (histTable colStat) -
        Cumulative.before (aboveMin time field cs statsVal) 0 (histTable colStat) := by
    rw [hlow, hhigh]
    unfold histTable
    ring
  have hle := Cumulative.before_le_total (p := fun v => !belowMax time field cs statsVal v) h.counts
  have hge := Cumulative.le_before (p := aboveMin time field cs statsVal) h.counts
  unfold calcHistBetweenFrequency fraction
  dsimp only
  rw [if_pos h.positive, hnums, evalDensityResult_div h.positive (by rw [htotal]; omega),
    ← hcount, ← endNumber_eq_count h]
  rfl

/-- **The estimate of a value is its share of the rows.** -/
theorem calcFrequencyHistEqualDensity_exact (hcs : cs.Lawful)
    (hcmp : Comparable field.columnType) (h : FrequencyHist time field cs colStat)
    {val : CacheVariant}
    (hsep : ∀ hist ∈ colStat.columnHist, Separated cs field.columnType hist.epValue val) :
    calcFrequencyHistEqualDensity time field cs colStat val =
      fraction colStat (sameValue time field cs val) := by
  have hloop : equalLoop time field cs val 0 colStat.columnHist =
      Cumulative.count (sameValue time field cs val) 0 (histTable colStat) :=
    equalLoop_eq hcs hcmp 0 hsep h.increasing
  have hnonneg := Cumulative.count_nonneg (p := sameValue time field cs val) h.counts
  unfold calcFrequencyHistEqualDensity fraction
  dsimp only
  rw [hloop, ← endNumber_eq_count h]
  by_cases hpos : 0 < Cumulative.count (sameValue time field cs val) 0 (histTable colStat)
  · rw [if_pos ⟨hpos, h.positive⟩]
  · have hzero : Cumulative.count (sameValue time field cs val) 0 (histTable colStat) = 0 := by
      omega
    rw [if_neg (fun hand => hpos hand.1), if_pos hzero, hzero, Int.cast_zero, zero_div]

/-- **Frequency histograms are exact** where `compare` is: for ranges of any kind, for single
values, and in the same way for both. -/
theorem frequency_exact (hcs : cs.Lawful) (hcmp : Comparable field.columnType)
    (h : FrequencyHist time field cs colStat) (hmin : statsVal.minType ≠ .null)
    (hmax : statsVal.maxType ≠ .null) {val : CacheVariant}
    (hsep : ∀ hist ∈ colStat.columnHist, ∀ v ∈ [statsVal.minKeyVal, statsVal.maxKeyVal, val],
      Separated cs field.columnType hist.epValue v) :
    evalDensityResult (calcHistBetweenFrequency time field cs colStat statsVal) =
        fraction colStat (inRange time field cs statsVal) ∧
      calcFrequencyHistEqualDensity time field cs colStat val =
        fraction colStat (sameValue time field cs val) ∧
      evalDensityResult (calcHistBetweenFrequency time field cs colStat
          ⟨.closeInternal, .closeInternal, val, val⟩) =
        calcFrequencyHistEqualDensity time field cs colStat val := by
  have hequal : calcFrequencyHistEqualDensity time field cs colStat val =
      fraction colStat (sameValue time field cs val) :=
    calcFrequencyHistEqualDensity_exact hcs hcmp h fun hist hmem => hsep hist hmem val (by simp)
  refine ⟨?_, hequal, ?_⟩
  · apply calcHistBetweenFrequency_exact hcs hcmp h hmin hmax
    intro hist hmem
    exact ⟨hsep hist hmem _ (by simp), hsep hist hmem _ (by simp)⟩
  · rw [hequal]
    apply calcHistBetweenFrequency_exact hcs hcmp h (by simp) (by simp)
    intro hist hmem
    exact ⟨hsep hist hmem val (by simp), hsep hist hmem val (by simp)⟩

end

/-! ## Histograms -/

/-- A histogram of the integers 1 and 3, with 2 and 5 rows. -/
def intHist : StatsColumn :=
  ⟨0, 1, .frequency, [⟨{ vInt := 1 }, 2⟩, ⟨{ vInt := 3 }, 7⟩], { vInt := 1 }, { vInt := 3 }⟩

theorem frequencyHist_intHist :
    FrequencyHist ServerPrims.none.time (statsField (.long false)) .binary intHist := by
  refine ⟨?_, ?_, by decide⟩
  · simp [intHist, valueLt, stringTyped, numValue, realTyped, intValue, statsField]
  · simp [intHist, histTable, Cumulative.Nondecreasing]

/-- The range `1 < c <= 3` and the value 3. -/
theorem frequency_exact_intHist :
    evalDensityResult (calcHistBetweenFrequency ServerPrims.none.time (statsField (.long false))
        .binary intHist ⟨.openInternal, .closeInternal, { vInt := 3 }, { vInt := 1 }⟩) =
        fraction intHist (inRange ServerPrims.none.time (statsField (.long false)) .binary
          ⟨.openInternal, .closeInternal, { vInt := 3 }, { vInt := 1 }⟩) ∧
      calcFrequencyHistEqualDensity ServerPrims.none.time (statsField (.long false)) .binary
          intHist { vInt := 3 } =
        fraction intHist (sameValue ServerPrims.none.time (statsField (.long false)) .binary
          { vInt := 3 }) ∧
      evalDensityResult (calcHistBetweenFrequency ServerPrims.none.time
          (statsField (.long false)) .binary intHist
          ⟨.closeInternal, .closeInternal, { vInt := 3 }, { vInt := 3 }⟩) =
        calcFrequencyHistEqualDensity ServerPrims.none.time (statsField (.long false)) .binary
          intHist { vInt := 3 } :=
  frequency_exact CharsetInfo.binary_lawful (Or.inl rfl) frequencyHist_intHist (by simp) (by simp)
    fun _ _ _ _ => .of_integerTyped rfl

/-- A histogram of the doubles 0 and 0.000005, with 1 and 2 rows. -/
def closeHist : StatsColumn :=
  ⟨0, 1, .frequency, [⟨{ vReal := 0 }, 1⟩, ⟨{ vReal := 1 / 200000 }, 3⟩], { vReal := 0 },
    { vReal := 1 / 200000 }⟩

/-- A histogram of two binary strings that differ behind a zero byte, with 1 and 2 rows. -/
def zeroHist : StatsColumn :=
  ⟨0, 1, .frequency, [⟨{ vStr := [97, 0, 98] }, 1⟩, ⟨{ vStr := [97, 0, 99] }, 3⟩],
    { vStr := [97, 0, 98] }, { vStr := [97, 0, 99] }⟩

/-- The two values of either histogram are taken for equal, and the estimate of the second is that
of the first. -/
theorem calcFrequencyHistEqualDensity_close :
    (FrequencyHist ServerPrims.none.time (statsField .double) .binary closeHist ∧
      calcFrequencyHistEqualDensity ServerPrims.none.time (statsField .double) .binary closeHist
          { vReal := 1 / 200000 } = 1 / 3 ∧
      fraction closeHist (sameValue ServerPrims.none.time (statsField .double) .binary
          { vReal := 1 / 200000 }) = 2 / 3) ∧
    FrequencyHist ServerPrims.none.time (statsField (.varchar 1)) .binary zeroHist ∧
      calcFrequencyHistEqualDensity ServerPrims.none.time (statsField (.varchar 1)) .binary
          zeroHist { vStr := [97, 0, 99] } = 1 / 3 ∧
      fraction zeroHist (sameValue ServerPrims.none.time (statsField (.varchar 1)) .binary
          { vStr := [97, 0, 99] }) = 2 / 3 := by
  refine ⟨⟨⟨?_, ?_, by decide⟩, by decide +kernel, by decide +kernel⟩, ⟨?_, ?_, by decide⟩,
    by decide +kernel, by decide +kernel⟩
  · simp [closeHist, valueLt, stringTyped, numValue, realTyped, statsField]
  · simp [closeHist, histTable, Cumulative.Nondecreasing]
  · simp only [zeroHist]
    decide
  · simp [zeroHist, histTable, Cumulative.Nondecreasing]

end CantianConnector.Cbo
