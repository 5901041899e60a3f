import CantianConnector.Lib.Digits

/-!
# Decimals

`convert_mydec_to_dec4` and `convert_dec4_to_mydec`. A `my_decimal` holds base 10^9 words
around the decimal point, a `dec4_t` base 10^4 cells with the exponent of the first one, and
both conversions go through an array of `DECIMAL_MAX_STR_LENGTH` digits. An access outside
of that array makes a function of the model return `none`, so that every theorem that gives a
result says that all indices are inside.

Both directions cut a digit string into groups aligned at the decimal point; what is proved
about the loops (`recordGroups_spec`, `restoreGroups_spec`) serves both. The abstract meaning
of all three representations is the rational number they denote.
-/

namespace CantianConnector.Convert

open Digits

/-! ## The functions -/

/-- `DECIMAL_MAX_STR_LENGTH` of the server. -/
def decimalMaxStrLength : Nat := 83

def digPerMydec : Nat := 9
def digPerDec4 : Nat := 4

/-- `my_decimal`; `buf` holds the words of the integer part, then those of the fraction. -/
structure MyDecimal where
  intg : Nat
  frac : Nat
  sign : Bool
  buf : List Nat
deriving DecidableEq, Repr

/-- `dec4_t`; the stored cells are the first `ncells`. -/
structure Dec4 where
  sign : Bool
  expn : Int
  cells : List Nat
deriving DecidableEq, Repr

def Dec4.ncells (d4 : Dec4) : Nat := d4.cells.length

/-- The local array `digits`. -/
abbrev DigitArray := Nat → Nat

namespace DigitArray

/-- `digits[i]`. -/
def read (digits : DigitArray) (i : Int) : Option Nat :=
  if 0 ≤ i ∧ i < decimalMaxStrLength then some (digits i.toNat) else none

/-- `digits[i] = v`. -/
def write (digits : DigitArray) (i : Int) (v : Nat) : Option DigitArray :=
  if 0 ≤ i ∧ i < decimalMaxStrLength then some (Function.update digits i.toNat v) else none

end DigitArray

/-- The loop of `record_digital`; `k` positions are left, the next one is `start + k - 1`. -/
def recordDigitalLoop (digits : DigitArray) (val : Nat) (start : Int) : Nat → Option DigitArray
  | 0 => some digits
  | k + 1 =>
    if val = 0 then some digits
    else do
      let digits ← digits.write (start + k) (val % 10)
      recordDigitalLoop digits (val / 10) start k

/-- `record_digital`. -/
def recordDigital (digits : DigitArray) (val : Nat) (start : Int) (step : Nat) :
    Option DigitArray :=
  recordDigitalLoop digits val start step

/-- `val = val * 10 + digits[start++]`, `n` times. -/
def readDigits (digits : DigitArray) : Nat → Int → Nat → Option Nat
  | 0, _, val => some val
  | n + 1, start, val => do
    let digit ← digits.read start
    readDigits digits n (start + 1) (val * 10 + digit)

/-- `restore_digital`: the digits of `[start, end]`, then zeros up to `step` digits. -/
def restoreDigital (digits : DigitArray) (start last : Int) (step : Nat) : Option Nat := do
  let val ← readDigits digits (last + 1 - start).toNat start 0
  return val * 10 ^ (start + step - max start (last + 1)).toNat

/-- `while (end >= low && digits[end] == 0) end--`. -/
def trimZeros (digits : DigitArray) (low : Int) : Nat → Int → Option Int
  | 0, last => some last
  | fuel + 1, last =>
    if low ≤ last then do
      let digit ← digits.read last
      if digit = 0 then trimZeros digits low fuel (last - 1) else some last
    else some last

/-- `while (start < high && digits[start] == 0) start++`. -/
def skipZeros (digits : DigitArray) (high : Int) : Nat → Int → Option Int
  | 0, start => some start
  | fuel + 1, start =>
    if start < high then do
      let digit ← digits.read start
      if digit = 0 then skipZeros digits high fuel (start + 1) else some start
    else some start

/-- The loops that record consecutive words or cells, the first of them at group `i`. -/
def recordGroups (step : Nat) : List Nat → DigitArray → Int → Option DigitArray
  | [], digits, _ => some digits
  | word :: words, digits, i => do
    let digits ← recordDigital digits word (i * step) step
    recordGroups step words digits (i + 1)

/-- `while (digidx <= last)`: the groups of `step` digits from `digidx` on. -/
def restoreGroups (step : Nat) (digits : DigitArray) (last : Int) : Nat → Int → Option (List Nat)
  | 0, _ => some []
  | fuel + 1, digidx =>
    if digidx ≤ last then do
      let groupEnd := if digidx + step ≤ last then digidx + step - 1 else last
      let group ← restoreDigital digits digidx groupEnd step
      let groups ← restoreGroups step digits last fuel (digidx + step)
      return group :: groups
    else some []

/-- `cells[0]` or `buf[0]`: a first group of `n` digits, when there is one. -/
def firstGroup (digits : DigitArray) (n start : Int) : Option (List Nat) :=
  if n ≠ 0 then (readDigits digits n.toNat start 0).map ([·]) else some []

/-- The digit array and the positions `start`, `point` and `end`. -/
structure Digital where
  digits : DigitArray
  start : Int
  point : Int
  last : Int

/-- The number of words that hold `n` digits. -/
def mydecWords (n : Nat) : Nat := (n + digPerMydec - 1) / digPerMydec

/-- `convert_mydec_to_digital`. -/
def convertMydecToDigital (myd : MyDecimal) : Option Digital := do
  let myPointLoc := mydecWords myd.intg
  let digits ← recordGroups digPerMydec (myd.buf.take myPointLoc) (fun _ => 0) 0
  let fracWords :=
    if myd.frac ≠ 0 then (myd.buf.drop myPointLoc).take (mydecWords myd.frac) else []
  let digits ← recordGroups digPerMydec fracWords digits myPointLoc
  let point : Int := myPointLoc * digPerMydec
  let last := point + myd.frac - 1
  let last ← trimZeros digits point (last + 1 - point).toNat last
  let start ← skipZeros digits last last.toNat 0
  return { digits := digits, start := start, point := point, last := last }

/-- `start == end && digits[start] == 0`. -/
def singleZero (g : Digital) : Option Bool :=
  if g.start = g.last then (g.digits.read g.start).map (· == 0) else some false

/-- The digits of the first cell and the adjusted exponent. `%` is C's, towards zero. -/
def cell0Num (expn : Int) : Int × Int :=
  if 0 < expn then
    let num := expn.tmod digPerDec4
    (num, if num = 0 ∧ (digPerDec4 : Int) ≤ expn then expn - digPerDec4 else expn)
  else
    let num := digPerDec4 + expn.tmod digPerDec4
    (num, expn - num)

/-- `convert_digital_to_dec4`. -/
def convertDigitalToDec4 (sign : Bool) (g : Digital) : Option Dec4 := do
  let isZero ← singleZero g
  if isZero ∨ (g.start = g.point ∧ g.last < g.point) then
    return { sign := sign, expn := 0, cells := [] }
  let (num, expn) := cell0Num (g.point - g.start)
  let first ← firstGroup g.digits num g.start
  let nonZeroEnd ← trimZeros g.digits 0 (g.last + 1).toNat g.last
  let rest ← restoreGroups digPerDec4 g.digits nonZeroEnd
    (nonZeroEnd + 1 - (g.start + num)).toNat (g.start + num)
  return { sign := sign, expn := expn.tdiv digPerDec4, cells := first ++ rest }

/-- `convert_dec4_to_digital`. The test `dec4->cells == 0` compares the array's address and
is never true. -/
def convertDec4ToDigital (dec4 : Dec4) : Option Digital := do
  let point : Int :=
    if 0 ≤ dec4.expn then
      if dec4.ncells ≠ 0 then (dec4.expn + 1) * digPerDec4 else 0
    else 0
  let i : Int := if 0 ≤ dec4.expn then 0 else -(dec4.expn + 1)
  let digits ← recordGroups digPerDec4 dec4.cells (fun _ => 0) i
  let last := (i + dec4.ncells) * digPerDec4 - 1
  let last := if dec4.expn > dec4.ncells - 1 then point else last
  let last ← trimZeros digits point (last + 1 - point).toNat last
  let start ← skipZeros digits point point.toNat 0
  return { digits := digits, start := start, point := point, last := last }

/-- `convert_digital_to_mydec`. -/
def convertDigitalToMydec (sign : Bool) (g : Digital) : Option MyDecimal := do
  let intg := g.point - g.start
  let frac := g.last - g.point + 1
  let buf0Num := intg.tmod digPerMydec
  let first ← firstGroup g.digits buf0Num g.start
  let rest ← restoreGroups digPerMydec g.digits g.last
    (g.last + 1 - (g.start + buf0Num)).toNat (g.start + buf0Num)
  if intg = 0 ∧ frac = 0 then return { intg := 1, frac := 0, sign := sign, buf := [0] }
  return { intg := intg.toNat, frac := frac.toNat, sign := sign, buf := first ++ rest }

/-- `convert_mydec_to_dec4`. -/
def convertMydecToDec4 (myd : MyDecimal) : Option Dec4 := do
  let g ← convertMydecToDigital myd
  convertDigitalToDec4 myd.sign g

/-- `convert_dec4_to_mydec`. -/
def convertDec4ToMydec (dec4 : Dec4) : Option MyDecimal := do
  let g ← convertDec4ToDigital dec4
  convertDigitalToMydec dec4.sign g

/-! ## The loops -/

theorem DigitArray.read_nat (digits : DigitArray) {i : Nat} (h : i < decimalMaxStrLength) :
    digits.read i = some (digits i) := by
  unfold DigitArray.read
  rw [if_pos (by omega), Int.toNat_natCast]

theorem DigitArray.write_nat (digits : DigitArray) {i : Nat} (v : Nat)
    (h : i < decimalMaxStrLength) : digits.write i v = some (Function.update digits i v) := by
  unfold DigitArray.write
  rw [if_pos (by omega), Int.toNat_natCast]

/-- Recording a number below `10 ^ k` over zeros. -/
theorem recordDigitalLoop_spec (digits : DigitArray) (val start k : Nat) (hval : val < 10 ^ k)
    (hfit : start + k ≤ decimalMaxStrLength)
    (hzero : ∀ i, start ≤ i → i < start + k → digits i = 0) :
    ∃ digits', recordDigitalLoop digits val start k = some digits' ∧
      (∀ i, i < start ∨ start + k ≤ i → digits' i = digits i) ∧
      (∀ i, start ≤ i → i < start + k → digits' i < 10) ∧ window 10 digits' start k = val := by
  induction k generalizing digits val with
  | zero => exact ⟨digits, rfl, fun _ _ => rfl, by omega, by rw [pow_zero] at hval; simp; omega⟩
  | succ k ih =>
    rw [recordDigitalLoop]
    by_cases hv : val = 0
    · rw [if_pos hv]
      refine ⟨digits, rfl, fun _ _ => rfl, ?_, ?_⟩
      · intro i h1 h2
        rw [hzero i h1 h2]
        omega
      · rw [hv]
        exact window_eq_zero fun i hi => hzero _ (by omega) (by omega)
    · rw [if_neg hv, show ((start : Int) + k) = ((start + k : Nat) : Int) by push_cast; rfl,
        DigitArray.write_nat _ _ (by omega)]
      have hdiv : val / 10 < 10 ^ k := by
        rw [Nat.div_lt_iff_lt_mul (by omega), ← pow_succ]
        exact hval
      obtain ⟨digits', hrun, hout, hin, hwin⟩ :=
        ih (Function.update digits (start + k) (val % 10)) (val / 10) hdiv (by omega) (by
          intro i h1 h2
          rw [Function.update_of_ne (by omega)]
          exact hzero i h1 (by omega))
      have hlast : digits' (start + k) = val % 10 := by
        rw [hout _ (by omega), Function.update_self]
      refine ⟨digits', hrun, ?_, ?_, ?_⟩
      · intro i hi
        rw [hout i (by omega), Function.update_of_ne (by omega)]
      · intro i h1 h2
        by_cases hi : i = start + k
        · rw [hi, hlast]
          omega
        · exact hin i h1 (by omega)
      · rw [window_succ, hwin, hlast]
        omega

/-- Recording consecutive groups over zeros. -/
theorem recordGroups_spec (step : Nat) (words : List Nat) (digits : DigitArray) (i a : Nat)
    (ha : i * step = a) (hwords : ∀ w ∈ words, w < 10 ^ step)
    (hfit : a + step * words.length ≤ decimalMaxStrLength)
    (hzero : ∀ p, a ≤ p → p < a + step * words.length → digits p = 0) :
    ∃ digits', recordGroups step words digits i = some digits' ∧
      (∀ p, p < a ∨ a + step * words.length ≤ p → digits' p = digits p) ∧
      (∀ p, a ≤ p → p < a + step * words.length → digits' p < 10) ∧
      ∀ j, j < words.length → window 10 digits' (a + step * j) step = words.getD j 0 := by
  induction words generalizing digits i a with
  | nil => exact ⟨digits, rfl, fun _ _ => rfl, by simp; omega, by simp⟩
  | cons word words ih =>
    simp only [List.length_cons, Nat.mul_succ] at hfit hzero ⊢
    have hstart : (i : Int) * step = (a : Nat) := by rw [← ha]; push_cast; rfl
    obtain ⟨digits1, hrun1, hout1, hin1, hwin1⟩ := recordDigitalLoop_spec digits word a step
      (hwords word (by simp)) (by omega) fun p h1 h2 => hzero p h1 (by omega)
    obtain ⟨digits2, hrun2, hout2, hin2, hwin2⟩ := ih digits1 (i + 1) (a + step)
      (by rw [← ha]; ring) (fun w hw => hwords w (by simp [hw])) (by omega) (by
        intro p h1 h2
        rw [hout1 p (by omega)]
        exact hzero p (by omega) (by omega))
    refine ⟨digits2, ?_, ?_, ?_, ?_⟩
    · rw [recordGroups, recordDigital, hstart, hrun1]
      exact_mod_cast hrun2
    · intro p hp
      rw [hout2 p (by omega), hout1 p (by omega)]
    · intro p h1 h2
      by_cases hp : p < a + step
      · rw [hout2 p (by omega)]
        exact hin1 p h1 hp
      · exact hin2 p (by omega) (by omega)
    · intro j hj
      cases j with
      | zero =>
        rw [Nat.mul_zero, Nat.add_zero, List.getD_cons_zero, ← hwin1]
        exact window_congr fun p hp => hout2 _ (by omega)
      | succ j =>
        rw [List.getD_cons_succ, ← hwin2 j (by omega)]
        congr 1
        rw [Nat.mul_succ]
        omega

/-- Trimming the zeros of `[low, high)` from the right. -/
theorem trimZeros_spec (digits : DigitArray) (low k : Nat)
    (hfit : low + k ≤ decimalMaxStrLength) :
    ∃ m : Nat, trimZeros digits low k ((low + k : Nat) - 1 : Int) = some ((m : Int) - 1) ∧
      low ≤ m ∧ m ≤ low + k ∧ (∀ p, m ≤ p → p < low + k → digits p = 0) ∧
      (m = low ∨ digits (m - 1) ≠ 0) := by
  induction k with
  | zero => exact ⟨low, rfl, by omega, by omega, by omega, Or.inl rfl⟩
  | succ k ih =>
    have hpos : (((low + (k + 1) : Nat) : Int) - 1) = ((low + k : Nat) : Int) := by
      push_cast
      ring
    rw [trimZeros, hpos, if_pos (by omega), DigitArray.read_nat _ (by omega)]
    by_cases hd : digits (low + k) = 0
    · obtain ⟨m, hrun, h1, h2, h3, h4⟩ := ih (by omega)
      refine ⟨m, ?_, h1, by omega, ?_, h4⟩
      · simpa [hd] using hrun
      · intro p hp hp'
        by_cases hpk : p = low + k
        · rw [hpk, hd]
        · exact h3 p hp (by omega)
    · refine ⟨low + k + 1, ?_, by omega, by omega, by omega, Or.inr (by simpa using hd)⟩
      simp [hd]

/-- Skipping the zeros of `[start, high)` from the left. -/
theorem skipZeros_spec (digits : DigitArray) (high : Int) (k start : Nat)
    (hk : high - start ≤ k) (hfit : high ≤ decimalMaxStrLength) :
    ∃ s : Nat, skipZeros digits high k start = some (s : Int) ∧ start ≤ s ∧
      (s = start ∨ s ≤ high) ∧ (∀ p, start ≤ p → p < s → digits p = 0) ∧
      (high ≤ s ∨ digits s ≠ 0) := by
  induction k generalizing start with
  | zero => exact ⟨start, rfl, by omega, Or.inl rfl, by omega, Or.inl (by omega)⟩
  | succ k ih =>
    rw [skipZeros]
    by_cases hlt : (start : Int) < high
    · rw [if_pos hlt, DigitArray.read_nat _ (by omega)]
      by_cases hd : digits start = 0
      · obtain ⟨s, hrun, h1, h2, h3, h4⟩ := ih (start + 1) (by omega)
        refine ⟨s, ?_, by omega, by omega, ?_, h4⟩
        · simpa [hd] using hrun
        · intro p hp hp'
          by_cases hps : p = start
          · rw [hps, hd]
          · exact h3 p (by omega) hp'
      · exact ⟨start, by simp [hd], by omega, Or.inl rfl, by omega, Or.inr hd⟩
    · rw [if_neg hlt]
      exact ⟨start, rfl, by omega, Or.inl rfl, by omega, Or.inl (by omega)⟩

theorem readDigits_spec (digits : DigitArray) (n start val : Nat)
    (hfit : start + n ≤ decimalMaxStrLength) :
    readDigits digits n start val = some (val * 10 ^ n + window 10 digits start n) := by
  induction n generalizing start val with
  | zero => simp [readDigits]
  | succ n ih =>
    rw [readDigits, DigitArray.read_nat _ (by omega)]
    have h := ih (start + 1) (val * 10 + digits start) (by omega)
    rw [Nat.add_comm n 1, window_add]
    simp only [Option.bind_eq_bind, Option.bind_some]
    push_cast at h
    rw [h, window_succ, window_zero, pow_add]
    congr 1
    simp only [Nat.add_zero]
    ring

/-- `restore_digital` reads a whole group when the digits after `stop` are zeros. -/
theorem restoreDigital_spec (digits : DigitArray) (start stop step : Nat) (h1 : start ≤ stop)
    (h2 : stop ≤ start + step) (hfit : stop ≤ decimalMaxStrLength)
    (hzero : ∀ p, stop ≤ p → p < start + step → digits p = 0) :
    restoreDigital digits start ((stop : Int) - 1) step = some (window 10 digits start step) := by
  have hn : ((stop : Int) - 1 + 1 - start).toNat = stop - start := by omega
  have hpad : ((start : Int) + step - max (start : Int) ((stop : Int) - 1 + 1)).toNat =
      start + step - stop := by omega
  unfold restoreDigital
  rw [hn, hpad, readDigits_spec _ _ _ _ (by omega)]
  have hsplit : step = (stop - start) + (start + step - stop) := by omega
  rw [hsplit, window_add, window_eq_zero (a := start + (stop - start))]
  · simp only [Option.bind_eq_bind, Option.bind_some, Option.pure_def, Nat.zero_mul, Nat.zero_add,
      Nat.add_zero]
    congr 3
    omega
  · intro i hi
    exact hzero _ (by omega) (by omega)

/-- The groups of `step` digits from `a` on, the last one reaching `stop`. -/
theorem restoreGroups_spec (digits : DigitArray) {step : Nat} (hstep : 0 < step) (stop : Nat)
    (hfit : stop ≤ decimalMaxStrLength) (hzero : ∀ p, stop ≤ p → digits p = 0) (fuel a : Nat)
    (hfuel : stop ≤ a + fuel) :
    ∃ groups, restoreGroups step digits ((stop : Int) - 1) fuel a = some groups ∧
      stop ≤ a + step * groups.length ∧
      (groups.length = 0 ∨ a + step * groups.length < stop + step) ∧
      ∀ j, j < groups.length → window 10 digits (a + step * j) step = groups.getD j 0 := by
  induction fuel generalizing a with
  | zero => exact ⟨[], rfl, by simp; omega, Or.inl rfl, by simp⟩
  | succ fuel ih =>
    rw [restoreGroups]
    by_cases hle : (a : Int) ≤ stop - 1
    · obtain ⟨groups, hrun, h1, h2, h3⟩ := ih (a + step) (by omega)
      have hgroup : restoreDigital digits a
          (if (a : Int) + step ≤ stop - 1 then (a : Int) + step - 1 else (stop : Int) - 1) step =
          some (window 10 digits a step) := by
        split
        · have h := restoreDigital_spec digits a (a + step) step (by omega) (by omega) (by omega)
            (by omega)
          exact_mod_cast h
        · exact restoreDigital_spec digits a stop step (by omega) (by omega) hfit
            fun p hp _ => hzero p hp
      refine ⟨window 10 digits a step :: groups, ?_, ?_, Or.inr ?_, ?_⟩
      · simp only [if_pos hle, hgroup]
        push_cast at hrun
        simp [hrun]
      · rw [List.length_cons, Nat.mul_succ]
        omega
      · rw [List.length_cons, Nat.mul_succ]
        rcases h2 with h2 | h2
        · rw [h2, Nat.mul_zero]
          omega
        · omega
      · intro j hj
        cases j with
        | zero => simp
        | succ j =>
          rw [List.getD_cons_succ, ← h3 j (by simpa using hj)]
          congr 1
          rw [Nat.mul_succ]
          omega
    · rw [if_neg hle]
      exact ⟨[], rfl, by simp; omega, Or.inl rfl, by simp⟩

/-- A first group of `w` digits and full groups after it: the code shared by the conversions
to cells and to words. -/
theorem cutGroups_spec (digits : DigitArray) {step : Nat} (hstep : 0 < step) (s w m : Nat)
    (hw : s + w ≤ decimalMaxStrLength) (hm : m ≤ decimalMaxStrLength)
    (hzero : ∀ p, m ≤ p → digits p = 0) :
    ∃ first rest, firstGroup digits w s = some first ∧
      restoreGroups step digits ((m : Int) - 1) ((m : Int) - 1 + 1 - (s + w)).toNat
        ((s : Int) + w) = some rest ∧
      first = (if w = 0 then [] else [window 10 digits s w]) ∧
      m ≤ s + w + step * rest.length ∧
      (rest.length = 0 ∨ s + w + step * rest.length < m + step) ∧
      (∀ j, j < rest.length → window 10 digits (s + w + step * j) step = rest.getD j 0) ∧
      window (10 ^ step) (fun i => (first ++ rest).getD i 0) 0 (first ++ rest).length =
        window 10 digits s (w + step * rest.length) := by
  obtain ⟨rest, hrun, h1, h2, h3⟩ := restoreGroups_spec digits hstep m hm hzero
    (m - (s + w)) (s + w) (by omega)
  have hfuel : ((m : Int) - 1 + 1 - (s + w)).toNat = m - (s + w) := by omega
  refine ⟨if w = 0 then [] else [window 10 digits s w], rest, ?_, ?_, rfl, h1, h2, h3, ?_⟩
  · unfold firstGroup
    by_cases hw0 : w = 0
    · simp [hw0]
    · rw [if_pos (by omega), if_neg hw0, Int.toNat_natCast, readDigits_spec _ _ _ _ hw]
      simp
  · rw [hfuel]
    exact_mod_cast hrun
  · by_cases hw0 : w = 0
    · subst hw0
      simp only [if_true, List.nil_append, Nat.zero_add]
      exact (window_group s 0 (by simpa using h3)).symm
    · simp only [if_neg hw0, List.singleton_append, List.length_cons]
      rw [Nat.add_comm rest.length 1]
      exact window_first_group s (by simp) (by
        intro j hj
        rw [h3 j hj, Nat.add_comm 1 j, List.getD_cons_succ])

/-! ## Values -/

/-- The number a `my_decimal` denotes, without its sign. -/
def MyDecimal.magnitude (d : MyDecimal) : ℚ :=
  window 1000000000 (fun i => d.buf.getD i 0) 0 (mydecWords d.intg + mydecWords d.frac) *
    (1000000000 : ℚ) ^ (-(mydecWords d.frac : Int))

def MyDecimal.value (d : MyDecimal) : ℚ := if d.sign then -d.magnitude else d.magnitude

/-- The number a `dec4_t` denotes, without its sign. -/
def Dec4.magnitude (d4 : Dec4) : ℚ :=
  window 10000 (fun i => d4.cells.getD i 0) 0 d4.ncells *
    (10000 : ℚ) ^ (d4.expn + 1 - d4.ncells)

/-- The number the digit array denotes. -/
def Digital.magnitude (g : Digital) : ℚ :=
  window 10 g.digits 0 decimalMaxStrLength * (10 : ℚ) ^ (g.point - decimalMaxStrLength)

/-- A precision and scale of a DECIMAL column. -/
structure DecimalType where
  prec : Nat
  scale : Nat
  prec_pos : 1 ≤ prec
  prec_le : prec ≤ 65
  scale_le : scale ≤ 30
  scale_le_prec : scale ≤ prec

/-- The word layout of `binary2my_decimal`: the integer part is right-aligned in its words,
the fraction left-aligned. Leading zero words may or may not be there. -/
structure MyDecimal.Layout (t : DecimalType) (d : MyDecimal) : Prop where
  intg_le : d.intg + t.scale ≤ t.prec
  frac_le : d.frac ≤ t.scale
  length : d.buf.length = mydecWords d.intg + mydecWords d.frac
  lt : ∀ w ∈ d.buf, w < 10 ^ digPerMydec
  first : d.intg % digPerMydec ≠ 0 → d.buf.getD 0 0 < 10 ^ (d.intg % digPerMydec)
  last : d.frac % digPerMydec ≠ 0 →
    10 ^ (digPerMydec - d.frac % digPerMydec) ∣ d.buf.getD (d.buf.length - 1) 0

/-- The positions of a digit array: digits only in `[s, m)`, and the point at `p`. -/
structure Digital.At (g : Digital) (s p m : Nat) : Prop where
  start : g.start = s
  point : g.point = p
  last : g.last = (m : Int) - 1
  lt : ∀ i, g.digits i < 10
  low : ∀ i, i < s → g.digits i = 0
  high : ∀ i, m ≤ i → g.digits i = 0
  le : p ≤ m
  fits : m ≤ decimalMaxStrLength

theorem Digital.At.magnitude_eq {g : Digital} {s p m : Nat} (h : g.At s p m) {t : Nat} (L : Nat)
    (hhigh : ∀ i, t ≤ i → g.digits i = 0) (ht : t ≤ m) (hL : t ≤ s + L) :
    g.magnitude = window 10 g.digits s L * (10 : ℚ) ^ ((p : Int) - s - L) := by
  have hfits := h.fits
  have he := scaled_window_eq (b := 10) (N := decimalMaxStrLength) (by omega) p h.low hhigh
    (by omega) hL
  unfold Digital.magnitude
  rw [h.point]
  exact_mod_cast he

/-! ## From `my_decimal` to digits -/

theorem mydecWords_bounds (n : Nat) : n ≤ 9 * mydecWords n ∧ 9 * mydecWords n < n + 9 := by
  simp only [mydecWords, digPerMydec]
  omega

theorem MyDecimal.Layout.words_fit {t : DecimalType} {d : MyDecimal} (h : d.Layout t) :
    9 * (mydecWords d.intg + mydecWords d.frac) ≤ decimalMaxStrLength := by
  have hi := mydecWords_bounds d.intg
  have hf := mydecWords_bounds d.frac
  have h1 := h.intg_le
  have h2 := h.frac_le
  have h3 := t.prec_le
  unfold decimalMaxStrLength
  omega

theorem MyDecimal.Layout.fracWords_eq {t : DecimalType} {d : MyDecimal} (h : d.Layout t) :
    (if d.frac ≠ 0 then (d.buf.drop (mydecWords d.intg)).take (mydecWords d.frac) else []) =
      d.buf.drop (mydecWords d.intg) := by
  have hlen := h.length
  by_cases hf : d.frac = 0
  · have hw : mydecWords d.frac = 0 := by rw [hf]; rfl
    rw [if_neg (by omega), List.drop_eq_nil_of_le (by omega)]
  · rw [if_pos hf, List.take_of_length_le (by rw [List.length_drop]; omega)]

/-- Both recording loops: every word stands in its nine digits. -/
theorem recordMydec_spec {t : DecimalType} {d : MyDecimal} (h : d.Layout t) :
    ∃ digits1 digits, recordGroups digPerMydec (d.buf.take (mydecWords d.intg)) (fun _ => 0) 0 =
        some digits1 ∧
      recordGroups digPerMydec (d.buf.drop (mydecWords d.intg)) digits1 (mydecWords d.intg) =
        some digits ∧
      (∀ i, digits i < 10) ∧
      (∀ i, 9 * (mydecWords d.intg + mydecWords d.frac) ≤ i → digits i = 0) ∧
      ∀ j, j < mydecWords d.intg + mydecWords d.frac →
        window 10 digits (9 * j) 9 = d.buf.getD j 0 := by
  have hfit := h.words_fit
  have hlen := h.length
  have hlt := h.lt
  simp only [digPerMydec] at hlt ⊢
  have hlen1 : (d.buf.take (mydecWords d.intg)).length = mydecWords d.intg := by
    rw [List.length_take]
    omega
  have hlen2 : (d.buf.drop (mydecWords d.intg)).length = mydecWords d.frac := by
    rw [List.length_drop]
    omega
  obtain ⟨digits1, hrun1, hout1, hin1, hwin1⟩ := recordGroups_spec 9
    (d.buf.take (mydecWords d.intg)) (fun _ => 0) 0 0 (by omega)
    (fun w hw => hlt w (List.mem_of_mem_take hw)) (by rw [hlen1]; omega) (by simp)
  rw [hlen1, Nat.zero_add] at hout1 hin1
  obtain ⟨digits, hrun2, hout2, hin2, hwin2⟩ := recordGroups_spec 9
    (d.buf.drop (mydecWords d.intg)) digits1 (mydecWords d.intg) (9 * mydecWords d.intg)
    (by ring) (fun w hw => hlt w (List.mem_of_mem_drop hw)) (by rw [hlen2]; omega)
    (fun i hi _ => hout1 i (Or.inr hi))
  rw [hlen2] at hout2 hin2
  refine ⟨digits1, digits, hrun1, hrun2, ?_, ?_, ?_⟩
  · intro i
    by_cases hi1 : i < 9 * mydecWords d.intg
    · rw [hout2 i (by omega)]
      exact hin1 i (by omega) hi1
    · by_cases hi2 : i < 9 * mydecWords d.intg + 9 * mydecWords d.frac
      · exact hin2 i (by omega) hi2
      · rw [hout2 i (by omega), hout1 i (by omega)]
        omega
  · intro i hi
    rw [hout2 i (by omega), hout1 i (by omega)]
  · intro j hj
    by_cases hj1 : j < mydecWords d.intg
    · have hw := hwin1 j (by rw [hlen1]; exact hj1)
      rw [Nat.zero_add] at hw
      rw [window_congr fun i hi => hout2 (9 * j + i) (by omega), hw]
      simp only [List.getD_eq_getElem?_getD]
      rw [List.getElem?_take_of_lt hj1]
    · have hw := hwin2 (j - mydecWords d.intg) (by rw [hlen2]; omega)
      rw [show 9 * mydecWords d.intg + 9 * (j - mydecWords d.intg) = 9 * j by omega] at hw
      rw [hw]
      simp only [List.getD_eq_getElem?_getD, List.getElem?_drop]
      rw [show mydecWords d.intg + (j - mydecWords d.intg) = j by omega]

/-- The positions after the `frac` digits of the fraction hold zeros. -/
theorem MyDecimal.Layout.frac_tail {t : DecimalType} {d : MyDecimal} (h : d.Layout t)
    {digits : DigitArray} (hdigits : ∀ i, digits i < 10)
    (hhigh : ∀ i, 9 * (mydecWords d.intg + mydecWords d.frac) ≤ i → digits i = 0)
    (hwin : ∀ j, j < mydecWords d.intg + mydecWords d.frac →
      window 10 digits (9 * j) 9 = d.buf.getD j 0) {i : Nat}
    (hi : 9 * mydecWords d.intg + d.frac ≤ i) : digits i = 0 := by
  have hf := mydecWords_bounds d.frac
  have hlen := h.length
  have hlast := h.last
  simp only [digPerMydec] at hlast
  by_cases hbig : 9 * (mydecWords d.intg + mydecWords d.frac) ≤ i
  · exact hhigh i hbig
  · have hmod : 9 * mydecWords d.frac = d.frac - d.frac % 9 + 9 := by omega
    have hw := hwin (mydecWords d.intg + mydecWords d.frac - 1) (by omega)
    have hdvd := hlast (by omega)
    rw [hlen, ← hw] at hdvd
    obtain ⟨k, hk⟩ : ∃ k, i = 9 * (mydecWords d.intg + mydecWords d.frac - 1) + d.frac % 9 + k :=
      ⟨i - (9 * (mydecWords d.intg + mydecWords d.frac - 1) + d.frac % 9), by omega⟩
    rw [hk]
    refine window_trailing_zero (k := d.frac % 9) (n := 9 - d.frac % 9) (b := 10)
      (fun j _ => hdigits _) (by omega) ?_ (by omega)
    rw [show d.frac % 9 + (9 - d.frac % 9) = 9 by omega]
    exact hdvd

/-- The positions before the `intg` digits of the integer part hold zeros. -/
theorem MyDecimal.Layout.intg_head {t : DecimalType} {d : MyDecimal} (h : d.Layout t)
    {digits : DigitArray}
    (hwin : ∀ j, j < mydecWords d.intg + mydecWords d.frac →
      window 10 digits (9 * j) 9 = d.buf.getD j 0) {i : Nat}
    (hi : i + d.intg < 9 * mydecWords d.intg) : digits i = 0 := by
  have hb := mydecWords_bounds d.intg
  have hfirst := h.first
  simp only [digPerMydec] at hfirst
  have hw := hwin 0 (by omega)
  have hlt := hfirst (by omega)
  have hz : digits (9 * 0 + i) = 0 := by
    refine window_leading_zero (b := 10) (k := 9 - d.intg % 9) (n := d.intg % 9) (by omega) ?_
      (by omega)
    rw [show 9 - d.intg % 9 + d.intg % 9 = 9 by omega, hw]
    exact hlt
  simpa using hz

/-- What `convert_mydec_to_digital` computes: the significant digits, or a zero in one of the
two forms that `convert_digital_to_dec4` recognises. -/
theorem convertMydecToDigital_spec {t : DecimalType} {d : MyDecimal} (h : d.Layout t) :
    ∃ g s m, convertMydecToDigital d = some g ∧ g.At s (9 * mydecWords d.intg) m ∧
      g.magnitude = d.magnitude ∧ m ≤ 9 * mydecWords d.intg + d.frac ∧
      (∀ i, i + d.intg < 9 * mydecWords d.intg → g.digits i = 0) ∧
      (g.digits s ≠ 0 ∨
        (∀ i, g.digits i = 0) ∧ m = 9 * mydecWords d.intg ∧ (s + 1 = m ∨ s = 0 ∧ m = 0)) := by
  obtain ⟨digits1, digits, hrun1, hrun2, hlt, hhigh, hwin⟩ := recordMydec_spec h
  have hfit := h.words_fit
  have hfb := mydecWords_bounds d.frac
  have htail := fun i => h.frac_tail hlt hhigh hwin (i := i)
  obtain ⟨m, htrim, hm1, hm2, hm3, hm4⟩ := trimZeros_spec digits (9 * mydecWords d.intg) d.frac
    (by omega)
  have hzero : ∀ i, m ≤ i → digits i = 0 := by
    intro i hi
    by_cases hif : i < 9 * mydecWords d.intg + d.frac
    · exact hm3 i hi hif
    · exact htail i (by omega)
  obtain ⟨s, hskip, -, hs1, hs2, hs3⟩ := skipZeros_spec digits ((m : Int) - 1) (m - 1) 0
    (by omega) (by omega)
  refine ⟨⟨digits, s, (9 * mydecWords d.intg : Nat), (m : Int) - 1⟩, s, m, ?_, ?_, ?_, hm2, ?_, ?_⟩
  · have hpoint : ((mydecWords d.intg : Int) * (digPerMydec : Int)) =
        ((9 * mydecWords d.intg : Nat) : Int) := by
      simp only [digPerMydec]
      push_cast
      ring
    have hlast : (((9 * mydecWords d.intg : Nat) : Int) + d.frac - 1) =
        ((9 * mydecWords d.intg + d.frac : Nat) : Int) - 1 := by push_cast; ring
    have hfuel : (((9 * mydecWords d.intg + d.frac : Nat) : Int) - 1 + 1 -
        ((9 * mydecWords d.intg : Nat) : Int)).toNat = d.frac := by omega
    have hfuel2 : ((m : Int) - 1).toNat = m - 1 := by omega
    unfold convertMydecToDigital
    dsimp only
    rw [h.fracWords_eq, hrun1]
    simp only [Option.bind_eq_bind, Option.bind_some, hrun2, hpoint, hlast, hfuel, htrim, hfuel2]
    rw [show ((0 : Int)) = ((0 : Nat) : Int) from rfl, hskip]
    rfl
  · exact ⟨rfl, rfl, rfl, hlt, fun i hi => hs2 i (by omega) hi, hzero, hm1, by omega⟩
  · have hgroup := window_group (b := 10) (d := digits) (k := 9)
      (n := mydecWords d.intg + mydecWords d.frac) (g := fun i => d.buf.getD i 0) 0 0
      (by simpa using hwin)
    have he := scaled_window_eq (b := 10) (s := 0) (N := decimalMaxStrLength)
      (L := 9 * (mydecWords d.intg + mydecWords d.frac)) (by omega)
      ((9 * mydecWords d.intg : Nat) : Int) (by omega) hhigh hfit (by omega)
    have hpow : (1000000000 : ℚ) ^ (-(mydecWords d.frac : Int)) =
        (10 : ℚ) ^ (((9 * mydecWords d.intg : Nat) : Int) - (0 : Nat) -
          (9 * (mydecWords d.intg + mydecWords d.frac) : Nat)) := by
      rw [show (1000000000 : ℚ) = (10 : ℚ) ^ (9 : Int) by norm_num, ← zpow_mul]
      congr 1
      push_cast
      ring
    unfold Digital.magnitude MyDecimal.magnitude
    rw [hpow, show (1000000000 : Nat) = 10 ^ 9 by norm_num, ← hgroup]
    exact_mod_cast he
  · intro i hi
    exact h.intg_head hwin hi
  · by_cases hd : digits s = 0
    · have hge : (m : Int) - 1 ≤ s := by
        rcases hs3 with hs3 | hs3
        · exact hs3
        · exact absurd hd hs3
      have hmp : m = 9 * mydecWords d.intg := by
        rcases hm4 with hm4 | hm4
        · exact hm4
        · by_cases hm0 : m = 0
          · omega
          · rw [show m - 1 = s by omega] at hm4
            exact absurd hd hm4
      refine Or.inr ⟨?_, hmp, by omega⟩
      intro i
      by_cases hi1 : i < s
      · exact hs2 i (by omega) hi1
      · by_cases hi2 : i = s
        · rw [hi2]
          exact hd
        · exact hzero i (by omega)
    · exact Or.inl hd

/-! ## From digits to `dec4_t` -/

/-- The first cell takes the digits above a multiple of four before the point; no digits mean
a full first cell. -/
theorem cell0Num_spec (expn : Int) :
    ∃ (w : Nat) (e : Int), cell0Num expn = ((w : Int), e) ∧ w ≤ 4 ∧
      (w = 0 ∧ expn = 4 * e.tdiv 4 + 4 ∨ 0 < w ∧ expn = 4 * e.tdiv 4 + w) := by
  unfold cell0Num
  simp only [digPerDec4]
  by_cases hpos : 0 < expn
  · have hmod : expn.tmod 4 = expn % 4 := Int.tmod_eq_emod_of_nonneg hpos.le
    simp only [if_pos hpos, Nat.cast_ofNat, hmod]
    by_cases hz : expn % 4 = 0
    · refine ⟨0, expn - 4, by rw [if_pos ⟨hz, by omega⟩, hz]; rfl, by omega, Or.inl ⟨rfl, ?_⟩⟩
      rw [Int.tdiv_eq_ediv_of_nonneg (by omega)]
      omega
    · refine ⟨(expn % 4).toNat, expn, by rw [if_neg (by omega)]; congr 1; omega, by omega,
        Or.inr ⟨by omega, ?_⟩⟩
      rw [Int.tdiv_eq_ediv_of_nonneg (by omega)]
      omega
  · obtain ⟨n, hn⟩ : ∃ n : Nat, expn = -(n : Int) := ⟨(-expn).toNat, by omega⟩
    have hmod : expn.tmod 4 = -((n : Int) % 4) := by
      rw [hn, Int.neg_tmod, Int.tmod_eq_emod_of_nonneg (by omega)]
    simp only [if_neg hpos, Nat.cast_ofNat, hmod]
    refine ⟨4 - n % 4, expn - (4 + -((n : Int) % 4)), by congr 1; omega, by omega,
      Or.inr ⟨by omega, ?_⟩⟩
    have hneg : expn - (4 + -((n : Int) % 4)) = -((n : Int) + 4 - n % 4) := by omega
    rw [hneg, Int.neg_tdiv, Int.tdiv_eq_ediv_of_nonneg (by omega)]
    omega

theorem convertDigitalToDec4_zero {g : Digital} {s p m : Nat} (h : g.At s p m) (sign : Bool)
    (hzero : ∀ i, g.digits i = 0) (hm : m = p) (hs : s + 1 = m ∨ s = 0 ∧ m = 0) :
    convertDigitalToDec4 sign g = some { sign := sign, expn := 0, cells := [] } := by
  have hfits := h.fits
  have hstart := h.start
  have hlast := h.last
  have hpoint := h.point
  unfold convertDigitalToDec4
  rcases hs with hs | ⟨hs, hm0⟩
  · have hsingle : singleZero g = some true := by
      unfold singleZero
      rw [if_pos (by omega), h.start, DigitArray.read_nat _ (by omega), hzero]
      rfl
    rw [hsingle]
    simp
  · have hsingle : singleZero g = some false := by
      unfold singleZero
      rw [if_neg (by omega)]
    rw [hsingle]
    simp only [Option.bind_eq_bind, Option.bind_some]
    rw [if_pos (by right; omega)]
    rfl

/-- The cells cut out of the digits are a canonical base 10^4 representation. -/
theorem cutGroups_canonical {digits : DigitArray} {s w m : Nat} {rest : List Nat}
    (hlt : ∀ i, digits i < 10) (hs : digits s ≠ 0) (hw : w ≤ 4) (hsm : s < m)
    (hm : digits (m - 1) ≠ 0) (h1 : m ≤ s + w + 4 * rest.length)
    (h2 : rest.length = 0 ∨ s + w + 4 * rest.length < m + 4)
    (h3 : ∀ j, j < rest.length → window 10 digits (s + w + 4 * j) 4 = rest.getD j 0) :
    Canonical 10000 ((if w = 0 then [] else [window 10 digits s w]) ++ rest) := by
  have hrestlt : ∀ x ∈ rest, x < 10000 := by
    intro x hx
    obtain ⟨j, hj, rfl⟩ := List.mem_iff_getElem.mp hx
    have hwin := h3 j hj
    rw [List.getD_eq_getElem?_getD, List.getElem?_eq_getElem hj, Option.getD_some] at hwin
    rw [← hwin]
    exact window_lt (n := 4) fun i _ => hlt _
  have hrestlast : rest.length ≠ 0 → rest.getD (rest.length - 1) 0 ≠ 0 := by
    intro hr
    rw [← h3 (rest.length - 1) (by omega)]
    obtain ⟨i, hi⟩ : ∃ i, s + w + 4 * (rest.length - 1) + i = m - 1 :=
      ⟨m - 1 - (s + w + 4 * (rest.length - 1)), by omega⟩
    exact window_ne_zero (by omega) (show i < 4 by omega) (by rw [hi]; exact hm)
  by_cases hw0 : w = 0
  · subst hw0
    rw [if_pos rfl, List.nil_append]
    refine ⟨hrestlt, ?_, hrestlast (by omega)⟩
    rw [← h3 0 (by omega)]
    exact window_ne_zero (by omega) (show 0 < 4 by omega) (by simpa using hs)
  · rw [if_neg hw0, List.singleton_append]
    have hfirst : window 10 digits s w ≠ 0 :=
      window_ne_zero (by omega) (show 0 < w by omega) (by simpa using hs)
    refine ⟨?_, by simpa using hfirst, ?_⟩
    · intro x hx
      rcases List.mem_cons.mp hx with rfl | hx
      · calc window 10 digits s w < 10 ^ w := window_lt fun i _ => hlt _
          _ ≤ 10 ^ 4 := Nat.pow_le_pow_right (by omega) hw
      · exact hrestlt x hx
    · by_cases hr : rest.length = 0
      · simpa [hr] using hfirst
      · have hlast := hrestlast hr
        rw [List.length_cons, Nat.add_sub_cancel]
        rw [show rest.length = rest.length - 1 + 1 by omega, List.getD_cons_succ]
        exact hlast

/-- What `convert_digital_to_dec4` computes for a non-zero number. -/
theorem convertDigitalToDec4_spec {g : Digital} {s p m : Nat} (h : g.At s p m)
    (hs : g.digits s ≠ 0) (hfit : m + 3 ≤ decimalMaxStrLength) (sign : Bool) :
    ∃ d4, convertDigitalToDec4 sign g = some d4 ∧ d4.sign = sign ∧ Canonical 10000 d4.cells ∧
      d4.magnitude = g.magnitude ∧ 4 * (d4.expn + 1) ≤ (p : Int) - s + 3 ∧
      4 * (d4.ncells : Int) ≤ 4 * (d4.expn + 1) + (m - p) + 3 := by
  have hstart := h.start
  have hlast := h.last
  have hpoint := h.point
  have hsm : s < m := by
    by_contra hge
    exact hs (h.high s (by omega))
  obtain ⟨w, e, hcell, hw4, hexpn⟩ := cell0Num_spec ((p : Int) - s)
  obtain ⟨m', htrim, -, hm1, hm2, hm3⟩ := trimZeros_spec g.digits 0 m (by omega)
  rw [Nat.zero_add] at htrim hm1 hm2
  have hhigh : ∀ i, m' ≤ i → g.digits i = 0 := by
    intro i hi
    by_cases him : i < m
    · exact hm2 i hi him
    · exact h.high i (by omega)
  have hsm' : s < m' := by
    by_contra hge
    exact hs (hhigh s (by omega))
  obtain ⟨first, rest, hfirst, hrest, hfirsteq, h1, h2, h3, hwin⟩ :=
    cutGroups_spec g.digits (show 0 < 4 by omega) s w m' (by omega) (by omega) hhigh
  have hsingle : singleZero g = some false := by
    unfold singleZero
    by_cases heq : g.start = g.last
    · rw [if_pos heq, hstart, DigitArray.read_nat _ (by omega)]
      simpa using hs
    · rw [if_neg heq]
  have hlen : first.length = if w = 0 then 0 else 1 := by
    rw [hfirsteq]
    split <;> rfl
  have hlen' : ((first ++ rest).length : Int) = first.length + rest.length := by
    rw [List.length_append]
    push_cast
    rfl
  refine ⟨⟨sign, e.tdiv 4, first ++ rest⟩, ?_, rfl, ?_, ?_, ?_, ?_⟩
  · unfold convertDigitalToDec4
    rw [hsingle]
    simp only [Option.bind_eq_bind, Option.bind_some]
    rw [if_neg (by simp; omega), hpoint, hstart, hcell]
    simp only [hfirst, Option.bind_some, hlast]
    rw [show ((m : Int) - 1 + 1).toNat = m by omega, show ((0 : Int)) = ((0 : Nat) : Int) from rfl,
      htrim]
    simp only [digPerDec4, Option.bind_some, hrest]
    rfl
  · rw [hfirsteq]
    refine cutGroups_canonical h.lt hs hw4 hsm' ?_ h1 h2 h3
    rcases hm3 with hm3 | hm3
    · omega
    · exact hm3
  · rw [h.magnitude_eq (w + 4 * rest.length) hhigh hm1 (by omega)]
    unfold Dec4.magnitude Dec4.ncells
    dsimp only
    have hpow : (10000 : ℚ) ^ (e.tdiv 4 + 1 - ((first ++ rest).length : Int)) =
        (10 : ℚ) ^ ((p : Int) - s - ((w + 4 * rest.length : Nat) : Int)) := by
      rw [show (10000 : ℚ) = (10 : ℚ) ^ (4 : Int) by norm_num, ← zpow_mul]
      congr 1
      rw [hlen', hlen]
      split at * <;> push_cast <;> omega
    rw [hpow, show (10000 : Nat) = 10 ^ 4 by norm_num, hwin]
  · dsimp only
    omega
  · unfold Dec4.ncells
    dsimp only
    rw [hlen', hlen]
    split at * <;> push_cast <;> omega

/-! ## From `dec4_t` to digits and back to `my_decimal` -/

/-- The `dec4_t` values whose cells fit into the digit array. -/
structure Dec4.Fits (d4 : Dec4) : Prop where
  lt : ∀ c ∈ d4.cells, c < 10000
  zero : d4.ncells = 0 → d4.expn = 0
  expn_le : d4.expn + 1 ≤ 17
  frac_le : (d4.ncells : Int) ≤ d4.expn + 1 + 8
  ncells_le : d4.ncells ≤ 17

/-- Digits that are the cells in groups of four, with zeros around them, denote the same number
when the dot is at the place of the exponent. -/
theorem magnitude_of_groups {d4 : Dec4} {g : Digital} {a : Nat}
    (hfit : a + 4 * d4.ncells ≤ decimalMaxStrLength)
    (hwin : ∀ j, j < d4.ncells → window 10 g.digits (a + 4 * j) 4 = d4.cells.getD j 0)
    (hout : ∀ q, q < a ∨ a + 4 * d4.ncells ≤ q → g.digits q = 0)
    (hpoint : d4.ncells ≠ 0 → g.point - a = 4 * (d4.expn + 1)) :
    g.magnitude = d4.magnitude := by
  have hgroup := window_group (b := 10) (d := g.digits) (k := 4) (n := d4.ncells)
    (g := fun j => d4.cells.getD j 0) a 0 (by
      intro j hj
      rw [hwin j hj, Nat.zero_add])
  have he := scaled_window_eq (b := 10) (d := g.digits) (s := a) (t := a + 4 * d4.ncells)
    (N := decimalMaxStrLength) (L := 4 * d4.ncells) (by omega) g.point
    (fun q hq => hout q (.inl hq)) (fun q hq => hout q (.inr hq)) (by omega) (by omega)
  unfold Digital.magnitude Dec4.magnitude
  simp only [Nat.cast_ofNat] at he
  rw [he, hgroup]
  by_cases hn : d4.ncells = 0
  · simp [hn]
  · rw [show (10000 : ℚ) = (10 : ℚ) ^ (4 : Int) by norm_num, ← zpow_mul]
    congr 2
    have hplace := hpoint hn
    push_cast
    omega

/-- What `convert_dec4_to_digital` computes. The cells start at group `i`. -/
theorem convertDec4ToDigital_spec {d4 : Dec4} (h : d4.Fits) :
    ∃ g s p m, convertDec4ToDigital d4 = some g ∧ g.At s p m ∧ s ≤ p ∧
      g.magnitude = d4.magnitude := by
  have hzero := h.zero
  have hexpn := h.expn_le
  have hfrac := h.frac_le
  have hncells := h.ncells_le
  obtain ⟨i, hi⟩ : ∃ i : Nat, (if 0 ≤ d4.expn then (0 : Int) else -(d4.expn + 1)) = i :=
    ⟨(if 0 ≤ d4.expn then (0 : Int) else -(d4.expn + 1)).toNat, by split <;> omega⟩
  obtain ⟨p, hp⟩ : ∃ p : Nat, (if 0 ≤ d4.expn then
      if d4.ncells ≠ 0 then (d4.expn + 1) * 4 else 0 else (0 : Int)) = p :=
    ⟨(if 0 ≤ d4.expn then
      if d4.ncells ≠ 0 then (d4.expn + 1) * 4 else 0 else (0 : Int)).toNat, by
        split
        · split <;> omega
        · omega⟩
  have hpi : d4.ncells ≠ 0 → (p : Int) - 4 * i = 4 * (d4.expn + 1) := by
    intro hn
    rw [← hi, ← hp, if_pos hn]
    split <;> omega
  have hexp0 : 0 ≤ d4.expn → i = 0 := by
    intro he
    rw [if_pos he] at hi
    omega
  have hp0 : d4.ncells = 0 → p = 0 := by
    intro hn
    rw [if_neg (not_not.mpr hn), ite_self] at hp
    omega
  have hpneg : d4.expn < 0 → p = 0 := by
    intro he
    rw [if_neg (by omega)] at hp
    omega
  obtain ⟨k, hk⟩ : ∃ k : Nat, (if d4.expn > (d4.ncells : Int) - 1 then (p : Int)
      else ((i : Int) + d4.ncells) * 4 - 1) = ((p + k : Nat) : Int) - 1 := by
    by_cases he : d4.expn > (d4.ncells : Int) - 1
    · exact ⟨1, by rw [if_pos he]; push_cast; ring⟩
    · exact ⟨4 * (i + d4.ncells) - p, by rw [if_neg he]; push_cast; omega⟩
  have hkfit : p + k ≤ decimalMaxStrLength ∧ 4 * (i + d4.ncells) ≤ p + k := by
    unfold decimalMaxStrLength
    split at hk <;> omega
  obtain ⟨digits, hrun, hout, hin, hwin⟩ := recordGroups_spec 4 d4.cells (fun _ => 0) i
    (4 * i) (by omega) (by simpa using h.lt)
    (by change 4 * i + 4 * d4.ncells ≤ _; omega) (by simp)
  change ∀ q, q < 4 * i ∨ 4 * i + 4 * d4.ncells ≤ q → digits q = 0 at hout
  change ∀ q, 4 * i ≤ q → q < 4 * i + 4 * d4.ncells → digits q < 10 at hin
  obtain ⟨m, htrim, hm1, hm2, hm3, -⟩ := trimZeros_spec digits p k hkfit.1
  obtain ⟨s, hskip, -, hs1, hs2, -⟩ := skipZeros_spec digits p p 0 (by omega) (by omega)
  refine ⟨⟨digits, s, p, (m : Int) - 1⟩, s, p, m, ?_, ⟨rfl, rfl, rfl, ?_, ?_, ?_, hm1, by omega⟩,
    by omega, ?_⟩
  · unfold convertDec4ToDigital
    simp only [digPerDec4, Nat.cast_ofNat, hi, hp, hrun, Option.bind_eq_bind, Option.bind_some, hk]
    rw [show (((p + k : Nat) : Int) - 1 + 1 - p).toNat = k by omega, htrim, Int.toNat_natCast,
      show ((0 : Int)) = ((0 : Nat) : Int) from rfl]
    simp only [Option.bind_some, hskip]
    rfl
  · intro q
    by_cases hq : 4 * i ≤ q ∧ q < 4 * i + 4 * d4.ncells
    · exact hin q hq.1 hq.2
    · change digits q < 10
      rw [hout q (by omega)]
      omega
  · intro q hq
    exact hs2 q (by omega) hq
  · intro q hq
    by_cases hqk : q < p + k
    · exact hm3 q hq hqk
    · exact hout q (by omega)
  · exact magnitude_of_groups (by omega) hwin hout fun hn => by
      have hplace := hpi hn
      push_cast
      exact hplace

/-- What `convert_digital_to_mydec` computes. -/
theorem convertDigitalToMydec_spec {g : Digital} {s p m : Nat} (h : g.At s p m) (hsp : s ≤ p)
    (sign : Bool) :
    ∃ d, convertDigitalToMydec sign g = some d ∧ d.sign = sign ∧ d.magnitude = g.magnitude := by
  have hstart := h.start
  have hlast := h.last
  have hpoint := h.point
  have hpm := h.le
  have hfits := h.fits
  have hmod : ((p : Int) - s).tmod 9 = (((p - s) % 9 : Nat) : Int) := by
    rw [Int.tmod_eq_emod_of_nonneg (by omega)]
    omega
  obtain ⟨first, rest, hfirst, hrest, hfirsteq, h1, h2, h3, hwin⟩ :=
    cutGroups_spec g.digits (show 0 < 9 by omega) s ((p - s) % 9) m (by omega) hfits h.high
  have hintg := mydecWords_bounds (p - s)
  have hfrac := mydecWords_bounds (m - p)
  have hlen : (first ++ rest).length = mydecWords (p - s) + mydecWords (m - p) ∧
      9 * rest.length + (p - s) % 9 = (p - s) + 9 * mydecWords (m - p) := by
    rw [List.length_append, hfirsteq]
    split
    · rw [List.length_nil]
      omega
    · rw [List.length_singleton]
      omega
  unfold convertDigitalToMydec
  simp only [digPerMydec, hstart, hpoint, hlast, Nat.cast_ofNat, hmod, hfirst, hrest,
    Option.bind_eq_bind, Option.bind_some]
  by_cases hz : (p : Int) - s = 0 ∧ (m : Int) - 1 - p + 1 = 0
  · rw [if_pos hz]
    refine ⟨_, rfl, rfl, ?_⟩
    have hbuf : ∀ i : Nat, ([0] : List Nat).getD i 0 = 0 := by
      intro i
      cases i <;> simp
    rw [h.magnitude_eq 0 h.high le_rfl (by omega), window_zero]
    simp only [MyDecimal.magnitude, hbuf]
    rw [window_eq_zero fun _ _ => rfl]
    simp
  · rw [if_neg hz]
    refine ⟨_, rfl, rfl, ?_⟩
    rw [h.magnitude_eq ((p - s) % 9 + 9 * rest.length) h.high le_rfl (by omega)]
    unfold MyDecimal.magnitude
    dsimp only
    rw [show ((p : Int) - s).toNat = p - s by omega,
      show ((m : Int) - 1 - p + 1).toNat = m - p by omega, ← hlen.1,
      show (1000000000 : Nat) = 10 ^ 9 by norm_num, hwin,
      show (1000000000 : ℚ) = (10 : ℚ) ^ (9 : Int) by norm_num, ← zpow_mul]
    congr 2
    push_cast
    omega

/-! ## Main results -/

/-- `ALIGN_UP`. -/
def alignUp (x align : Nat) : Nat := x / align + (if x % align ≠ 0 then 1 else 0)

/-- The zero `dec4_t` or a canonical one. -/
def Dec4.Normal (d4 : Dec4) : Prop :=
  d4.cells = [] ∧ d4.expn = 0 ∨ Canonical 10000 d4.cells

theorem Dec4.magnitude_nil {d4 : Dec4} (h : d4.cells = []) : d4.magnitude = 0 := by
  simp [Dec4.magnitude, Dec4.ncells, h]

theorem Dec4.magnitude_ne_zero {d4 : Dec4} (h : Canonical 10000 d4.cells) :
    d4.magnitude ≠ 0 := by
  have hwin : window 10000 (fun i => d4.cells.getD i 0) 0 d4.ncells ≠ 0 := by
    intro hz
    exact h.not_dvd (by rw [show d4.cells.length = d4.ncells from rfl, hz]; exact dvd_zero _)
  unfold Dec4.magnitude
  exact mul_ne_zero (by exact_mod_cast hwin) (zpow_ne_zero _ (by norm_num))

/-- A number has one normal `dec4_t`. -/
theorem Dec4.Normal.ext {a b : Dec4} (ha : a.Normal) (hb : b.Normal) (hsign : a.sign = b.sign)
    (h : a.magnitude = b.magnitude) : a = b := by
  obtain ⟨asign, aexpn, acells⟩ := a
  obtain ⟨bsign, bexpn, bcells⟩ := b
  rcases ha with ⟨ha1, ha2⟩ | ha <;> rcases hb with ⟨hb1, hb2⟩ | hb
  · simp_all
  · exact absurd (h.symm.trans (Dec4.magnitude_nil ha1)) (Dec4.magnitude_ne_zero hb)
  · exact absurd (h.trans (Dec4.magnitude_nil hb1)) (Dec4.magnitude_ne_zero ha)
  · unfold Dec4.magnitude Dec4.ncells at h
    obtain ⟨hx, hcells⟩ := canonical_unique (by norm_num) ha hb (by exact_mod_cast h)
    dsimp only at hcells hsign hx
    subst hcells
    have hexpn : aexpn = bexpn := by omega
    rw [hsign, hexpn]

/-- The conversion to `dec4_t` succeeds, keeps the number, and gives a normal value that fits
the cells reserved for the column. -/
theorem convertMydecToDec4_spec {t : DecimalType} {d : MyDecimal} (h : d.Layout t) :
    ∃ d4, convertMydecToDec4 d = some d4 ∧ d4.sign = d.sign ∧ d4.magnitude = d.magnitude ∧
      d4.Normal ∧ d4.Fits ∧ d4.ncells ≤ alignUp (t.prec - t.scale) 4 + alignUp t.scale 4 := by
  obtain ⟨g, s, m, hrun, hat, hmag, hm, hhead, hcase⟩ := convertMydecToDigital_spec h
  have h1 := h.intg_le
  have h2 := h.frac_le
  have h3 := t.prec_le
  have h4 := t.scale_le
  have hb := mydecWords_bounds d.intg
  rcases hcase with hs | ⟨hzero, hmp, hsm⟩
  · obtain ⟨d4, hd4, hsign, hcanon, hmag4, hexpn, hn⟩ := convertDigitalToDec4_spec hat hs
      (by unfold decimalMaxStrLength; omega) d.sign
    have hintg : 9 * mydecWords d.intg ≤ s + d.intg := by
      by_contra hlt
      exact hs (hhead s (by omega))
    have hpos : 0 < d4.ncells := hcanon.length_pos
    refine ⟨d4, ?_, hsign, hmag4.trans hmag, Or.inr hcanon,
      ⟨hcanon.lt, by omega, by omega, by omega, by omega⟩, ?_⟩
    · unfold convertMydecToDec4
      rw [hrun]
      exact hd4
    · unfold alignUp
      split <;> split <;> omega
  · refine ⟨⟨d.sign, 0, []⟩, ?_, rfl, ?_, Or.inl ⟨rfl, rfl⟩, ⟨by simp, fun _ => rfl, by simp,
      by simp [Dec4.ncells], by simp [Dec4.ncells]⟩, by simp [Dec4.ncells]⟩
    · unfold convertMydecToDec4
      rw [hrun]
      exact convertDigitalToDec4_zero hat d.sign hzero hmp hsm
    · rw [Dec4.magnitude_nil rfl, ← hmag]
      unfold Digital.magnitude
      rw [window_eq_zero fun i _ => hzero _]
      simp

theorem convertDec4ToMydec_spec {d4 : Dec4} (h : d4.Fits) :
    ∃ d, convertDec4ToMydec d4 = some d ∧ d.sign = d4.sign ∧ d.magnitude = d4.magnitude := by
  obtain ⟨g, s, p, m, hrun, hat, hsp, hmag⟩ := convertDec4ToDigital_spec h
  obtain ⟨d, hd, hsign, hmagd⟩ := convertDigitalToMydec_spec hat hsp d4.sign
  refine ⟨d, ?_, hsign, hmagd.trans hmag⟩
  unfold convertDec4ToMydec
  rw [hrun]
  exact hd

/-- **Decimals survive the conversion to `dec4_t` and back**, and no digit index leaves the
array on the way. -/
theorem mydec_dec4_round_trip {t : DecimalType} {d : MyDecimal} (h : d.Layout t) :
    ∃ d4 d', convertMydecToDec4 d = some d4 ∧ convertDec4ToMydec d4 = some d' ∧
      d'.value = d.value ∧ d'.sign = d.sign := by
  obtain ⟨d4, hd4, hsign, hmag, -, hfits, -⟩ := convertMydecToDec4_spec h
  obtain ⟨d', hd', hsign', hmag'⟩ := convertDec4ToMydec_spec hfits
  have hs : d'.sign = d.sign := hsign'.trans hsign
  refine ⟨d4, d', hd4, hd', ?_, hs⟩
  unfold MyDecimal.value
  rw [hs, hmag', hmag]

/-- -123.45 as a DECIMAL(5,2). -/
theorem mydec_dec4_round_trip_five_two :
    MyDecimal.Layout ⟨5, 2, by omega, by omega, by omega, by omega⟩
      ⟨3, 2, true, [123, 450000000]⟩ ∧
    ∃ d4 d', convertMydecToDec4 ⟨3, 2, true, [123, 450000000]⟩ = some d4 ∧
      convertDec4ToMydec d4 = some d' ∧
      d'.value = MyDecimal.value ⟨3, 2, true, [123, 450000000]⟩ ∧ d'.sign = true := by
  have h : MyDecimal.Layout ⟨5, 2, by omega, by omega, by omega, by omega⟩
      ⟨3, 2, true, [123, 450000000]⟩ :=
    ⟨by decide, by decide, by decide, by decide, by decide, by decide⟩
  exact ⟨h, mydec_dec4_round_trip h⟩

theorem MyDecimal.magnitude_of_value {a b : MyDecimal} (hsign : a.sign = b.sign)
    (h : a.value = b.value) : a.magnitude = b.magnitude := by
  unfold MyDecimal.value at h
  rw [hsign] at h
  split at h
  · exact neg_injective h
  · exact h

/-- **The `dec4_t` of a number is canonical**: it does not depend on precision, scale or
layout, has no zero cell at either end, and fits the cells reserved for each column. -/
theorem convertMydecToDec4_canonical {s t : DecimalType} {a b : MyDecimal} (ha : a.Layout s)
    (hb : b.Layout t) (hsign : a.sign = b.sign) (hvalue : a.value = b.value) :
    ∃ d4, convertMydecToDec4 a = some d4 ∧ convertMydecToDec4 b = some d4 ∧
      (d4.ncells ≠ 0 → (∀ c ∈ d4.cells, c < 10000) ∧ d4.cells.getD 0 0 ≠ 0 ∧
        d4.cells.getD (d4.ncells - 1) 0 ≠ 0) ∧
      d4.ncells ≤ alignUp (s.prec - s.scale) 4 + alignUp s.scale 4 ∧
      d4.ncells ≤ alignUp (t.prec - t.scale) 4 + alignUp t.scale 4 := by
  obtain ⟨d4, hd4, hsign4, hmag4, hnormal4, -, hle4⟩ := convertMydecToDec4_spec ha
  obtain ⟨e4, he4, hsigne, hmage, hnormale, -, hlee⟩ := convertMydecToDec4_spec hb
  have heq : e4 = d4 := by
    refine hnormale.ext hnormal4 (by rw [hsign4, hsigne, hsign]) ?_
    rw [hmag4, hmage, MyDecimal.magnitude_of_value hsign hvalue]
  subst heq
  refine ⟨e4, hd4, he4, ?_, hle4, hlee⟩
  intro hn
  rcases hnormal4 with ⟨hcells, -⟩ | hcanon
  · exact absurd (by simp [Dec4.ncells, hcells]) hn
  · exact ⟨hcanon.lt, hcanon.head, hcanon.last⟩

/-- 12.5 as a DECIMAL(20,10) and as a DECIMAL(3,1). -/
theorem convertMydecToDec4_canonical_twelve :
    ∃ d4, convertMydecToDec4 ⟨2, 10, false, [12, 500000000, 0]⟩ = some d4 ∧
      convertMydecToDec4 ⟨2, 1, false, [12, 500000000]⟩ = some d4 ∧
      (d4.ncells ≠ 0 → (∀ c ∈ d4.cells, c < 10000) ∧ d4.cells.getD 0 0 ≠ 0 ∧
        d4.cells.getD (d4.ncells - 1) 0 ≠ 0) ∧
      d4.ncells ≤ alignUp 10 4 + alignUp 10 4 ∧ d4.ncells ≤ alignUp 2 4 + alignUp 1 4 := by
  have ha : MyDecimal.Layout ⟨20, 10, by omega, by omega, by omega, by omega⟩
      ⟨2, 10, false, [12, 500000000, 0]⟩ :=
    ⟨by decide, by decide, by decide, by decide, by decide, by decide⟩
  have hb : MyDecimal.Layout ⟨3, 1, by omega, by omega, by omega, by omega⟩
      ⟨2, 1, false, [12, 500000000]⟩ :=
    ⟨by decide, by decide, by decide, by decide, by decide, by decide⟩
  refine convertMydecToDec4_canonical ha hb rfl ?_
  norm_num [MyDecimal.value, MyDecimal.magnitude, window, mydecWords, digPerMydec]

end CantianConnector.Convert
