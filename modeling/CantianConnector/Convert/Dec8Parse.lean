import CantianConnector.Lib.DecimalNumeral
import CantianConnector.Convert.Dec8Round

/-!
# Reading a decimal from a text

`ct_cm_text_to_dec8`. A text is split into its sign, its significant digits and the exponent of the
first of them; the digits go to a buffer of 72 characters, are filled up with zeros until the dot is
between two cells, and are cut into cells. The buffer has a check on every write. A text is right
to be refused when it is no numeral; one with too many digits for the buffer is refused as well, or
its zeros are written outside (`ctCmTextToDec8_right_iff`).
-/

namespace CantianConnector.Convert

open Digits DigitText DecimalNumeral

/-! ## The functions -/

/-- `CT_MAX_NUM_PART_BUFF`, `DEC_MAX_NUM_SAVING_PREC` and `CT_MAX_DEC_OUTPUT_ALL_PREC`. -/
def ctMaxNumPartBuff : Nat := 72
/-- `MAX_NUMERIC_EXPN`. -/
def maxNumericExpn : Int := 127
/-- `MIN_NUMERIC_EXPN`. -/
def minNumericExpn : Int := -127
/-- `CM_MAX_EXPN`. -/
def cmMaxExpn : Int := 99999999

/-- The error codes of `num_errno_t` that are returned. -/
inductive NumErrno where
  | error
  | invalidLen
  | noDigit
  | unexpectedChar
  | noExpnDigit
  | expnWithNchar
  | overflow
  | unallowedNeg
  | unallowedDot
  | unallowedExpn
  | multipleDots
deriving DecidableEq, Repr

def NumErrno.code : NumErrno → Int
  | error => 1
  | invalidLen => 2
  | noDigit => 3
  | unexpectedChar => 4
  | noExpnDigit => 5
  | expnWithNchar => 6
  | overflow => 9
  | unallowedNeg => 10
  | unallowedDot => 11
  | unallowedExpn => 12
  | multipleDots => 13

/-- `return` of an error code. -/
def NumErrno.throw {α : Type} (e : NumErrno) : Result α := .error (.code e.code)

/-- The flags `NF_NEGATIVE_SIGN`, `NF_DOT` and `NF_EXPN` of `num_flag_t`. -/
def nfNegativeSign : Nat := 1
def nfDot : Nat := 4
def nfExpn : Nat := 8

/-- `num_part_t`. -/
structure NumPart where
  isNeg : Bool
  doRound : Bool
  sciExpn : Int
  digitText : List Char
deriving DecidableEq, Repr

def isBlank (c : Char) : Bool := decide (c ≤ ' ')

/-- `ct_cm_ltrim_text`. -/
def ctCmLtrimText (text : List Char) : List Char := text.dropWhile isBlank

/-- `ct_cm_rtrim_text`, whose index is an `int32`. -/
def ctCmRtrimText (text : List Char) : Result (List Char) :=
  if text.length < 2 ^ 31 then
    match text.rdropWhile isBlank with
    | [] => .ok text
    | front => .ok front
  -- (int32)text->len - 1 overflows
  else if text.length = 2 ^ 31 then .error .undefined
  -- the first index is negative
  else .ok text

/-- `CM_TEXT_APPEND` to a `digitext_t`. -/
def appendDigit (text : List Char) (c : Char) : Result (List Char) :=
  if text.length < ctMaxNumPartBuff then .ok (text ++ [c]) else .error .undefined

/-- The variables of `ct_cm_split_num_text`, and what it has recorded. -/
structure Scan where
  precision : Int
  precOffset : Int
  dotOffset : Int
  leadingFlag : Bool
  digitText : List Char
  doRound : Bool
deriving DecidableEq, Repr

/-- `ct_cm_record_digit`. -/
def ctCmRecordDigit (s : Scan) (pos : Nat) (c : Char) : Result Scan :=
  let precision := if 0 ≤ s.precision then s.precision + 1 else 1
  if 0 ≤ s.precision ∧ precision > ctMaxNumPartBuff + 1 then
    .ok { s with precision := precision }
  else if 0 ≤ s.precision ∧ precision = ctMaxNumPartBuff + 1 then
    .ok { s with precision := precision, doRound := decide ('5' ≤ c) }
  else do
    let digitText ← appendDigit s.digitText c
    return { s with
      precision := precision
      precOffset := if precision = 1 then pos else s.precOffset
      digitText := digitText }

/-- The last loop of `ct_cm_parse_num_expn`. -/
def expnLoop : List Char → Int → Result Int
  | [], tmpExp => .ok tmpExp
  | c :: rest, tmpExp =>
    if c.isDigit then
      expnLoop rest (if tmpExp < cmMaxExpn then tmpExp * 10 + (c.toNat - 48 : Nat) else tmpExp)
    else NumErrno.expnWithNchar.throw

/-- `ct_cm_parse_num_expn`. -/
def ctCmParseNumExpn (expnText : List Char) : Result Int :=
  -- for an empty text this is the character behind it, which decides nothing
  let isNegexp := decide (expnText.head? = some '-')
  let digits := if isNegexp ∨ expnText.head? = some '+' then expnText.drop 1 else expnText
  if digits = [] then NumErrno.noExpnDigit.throw
  else
    match digits.dropWhile (· == '0') with
    | [] => .ok 0
    | rest => do
      let tmpExp ← expnLoop rest 0
      if ¬isNegexp ∧ cmMaxExpn < tmpExp then NumErrno.overflow.throw
      else return if isNegexp then -tmpExp else tmpExp

/-- The loop of `ct_cm_split_num_text` from offset `i` on: the variables, and `np->sci_expn`. -/
def splitLoop (exclFlag : Nat) : List Char → Nat → Scan → Result (Scan × Int)
  | [], _, s => .ok (s, 0)
  | c :: rest, i, s =>
    if s.leadingFlag ∧ c = '0' then splitLoop exclFlag rest (i + 1) { s with precision := 0 }
    else
      let s := if c ≠ '.' then { s with leadingFlag := false } else s
      if c.isDigit then do
        let s ← ctCmRecordDigit s i c
        splitLoop exclFlag rest (i + 1) s
      else if c = '.' then
        if exclFlag &&& nfDot ≠ 0 then NumErrno.unallowedDot.throw
        else if 0 ≤ s.dotOffset then NumErrno.multipleDots.throw
        else splitLoop exclFlag rest (i + 1) { s with dotOffset := i }
      else if ¬(c = 'e' ∨ c = 'E') then NumErrno.unexpectedChar.throw
      else if s.precision < 0 then NumErrno.unexpectedChar.throw
      else if exclFlag &&& nfExpn ≠ 0 then NumErrno.unallowedExpn.throw
      else do
        let sciExpn ← ctCmParseNumExpn rest
        return (s, sciExpn)

/-- `ct_cm_calc_significand_expn`. -/
def ctCmCalcSignificandExpn (dotOffset precOffset precision : Int) : Int :=
  if 0 ≤ dotOffset then
    let distance := dotOffset - precOffset
    if 0 < distance then distance - 1 else distance
  else precision - 1

/-- `ct_cm_split_num_text` behind its loop. -/
def splitEnd (textLen : Nat) (isNeg : Bool) (s : Scan) (sciExpn : Int) : Result NumPart :=
  if s.precision < 0 then NumErrno.noDigit.throw
  else if s.precision = 0 then .ok ⟨isNeg, s.doRound, sciExpn, ['0']⟩
  else
    let sciExpn := sciExpn + ctCmCalcSignificandExpn s.dotOffset s.precOffset s.precision
    if textLen < s.digitText.length ∨ ctMaxNumPartBuff ≤ s.digitText.length then
      NumErrno.error.throw
    else .ok ⟨isNeg, s.doRound, sciExpn, s.digitText⟩

/-- `ct_cm_split_num_text`. -/
def ctCmSplitNumText (exclFlag : Nat) (numText : List Char) : Result NumPart := do
  let text ← ctCmRtrimText (ctCmLtrimText numText)
  if text.length = 0 ∨ 2 ^ 20 ≤ text.length then NumErrno.invalidLen.throw
  else
    let isNeg := decide (text.head? = some '-')
    let i := if isNeg ∨ text.head? = some '+' then 1 else 0
    if isNeg ∧ exclFlag &&& nfNegativeSign ≠ 0 then NumErrno.unallowedNeg.throw
    else if text.length ≤ i then NumErrno.noDigit.throw
    else do
      let (s, sciExpn) ← splitLoop exclFlag (text.drop i) i ⟨-1, -1, -1, true, [], false⟩
      splitEnd numText.length isNeg s sciExpn

/-- `cm_celltext2uint32`. -/
def cmCelltext2Uint32 (cellt : List Char) : Nat :=
  cellt.foldl (fun val c => (val * 10 + (c.toNat + 2 ^ 8 - 48) % 2 ^ 8) % 2 ^ 32) 0

/-- The loop of `cm_digitext_to_cell8s` over the digits that are left, `k` cells being free. -/
def cellLoop : Nat → List Char → Result (List Nat)
  | 0, _ => .ok []
  | k + 1, rest =>
    if rest = [] then .ok []
    else if rest.length < dec8CellDigit then .error .undefined
    else do
      let cells ← cellLoop k (rest.drop dec8CellDigit)
      return cmCelltext2Uint32 (rest.take dec8CellDigit) :: cells

/-- `cm_digitext_to_cell8s`: the cells up to the last one that is not zero. -/
def cmDigitextToCell8s (dtext : List Char) (lenU0 : Nat) : Result (List Nat) :=
  if dtext.length < lenU0 then .error .undefined
  else do
    let cells ← cellLoop (dec8CellSize - 1) (dtext.drop lenU0)
    match (cmCelltext2Uint32 (dtext.take lenU0) :: cells).rdropWhile (· == 0) with
    -- the index runs below the first cell
    | [] => .error .undefined
    | cells => return cells

/-- `CM_TEXT_APPEND` of `k` zeros. -/
def appendZeros : Nat → List Char → Result (List Char)
  | 0, dtext => .ok dtext
  | k + 1, dtext => do
    let dtext ← appendDigit dtext '0'
    appendZeros k dtext

/-- `cm_digitext_to_dec8`: the decimal, and the digits of its first cell. -/
def cmDigitextToDec8 (sign : Bool) (dtext : List Char) (sciExp : Int) : Result (Dec8 × Nat) := do
  let lenU0 : Int := (dtext.length % dec8CellDigit : Nat)
  let sciExp := sciExp + 1
  let delta := (sciExp - lenU0 + 8 * 2 ^ 16).tmod dec8CellDigit
  let lenU0 := (lenU0 + delta).tmod dec8CellDigit
  let lenU0 := if lenU0 = 0 then (dec8CellDigit : Int) else lenU0
  let dtext ← appendZeros delta.toNat dtext
  let cells ← cmDigitextToCell8s dtext lenU0.toNat
  return (⟨sign, ((sciExp - lenU0).tdiv 8).bmod (2 ^ 16), cells⟩, lenU0.toNat)

/-- The loop of `cm_do_numpart_round8`: the carry, and the cells. -/
def numpartRoundLoop (carry : Nat) : List Nat → Nat × List Nat
  | [] => (carry, [])
  | c :: rest =>
    let (carry, rest) := numpartRoundLoop carry rest
    if carry = 0 then (0, c :: rest)
    else
      let c := (c + carry) % 2 ^ 32
      if c < dec8CellMask then (0, c :: rest) else (1, (c - dec8CellMask) :: rest)

/-- `cm_do_numpart_round8`; `cm_dec8_rebuild` drops the last one of nine cells. -/
def cmDoNumpartRound8 (dec : Dec8) (prec0 : Nat) : Dec8 :=
  let (carry, cells) := numpartRoundLoop (10 ^ (prec0 % dec8CellDigit)) dec.cells
  if 0 < carry then ⟨dec.sign, (dec.expn + 1).bmod (2 ^ 16), (1 :: cells).take dec8CellSize⟩
  else ⟨dec.sign, dec.expn, cells⟩

/-- `cm_dec8_trim_zeros`. -/
def cmDec8TrimZeros (dec : Dec8) : Dec8 := ⟨dec.sign, dec.expn, dec.cells.rdropWhile (· == 0)⟩

/-- `ct_cm_numpart_to_dec8`. -/
def ctCmNumpartToDec8 (np : NumPart) : Result Dec8 :=
  if np.digitText = ['0'] then .ok ⟨false, 0, []⟩
  else if maxNumericExpn < np.sciExpn then NumErrno.overflow.throw
  else if np.sciExpn < minNumericExpn then .ok ⟨false, 0, []⟩
  else do
    let (dec, prec0) ← cmDigitextToDec8 np.isNeg np.digitText np.sciExpn
    if np.doRound then return cmDec8TrimZeros (cmDoNumpartRound8 dec prec0) else return dec

/-- Every error code becomes `CT_ERROR`. -/
def ctError {α : Type} : Result α → Result α
  | .error (.code _) => .error (.code (-1))
  | run => run

/-- `ct_cm_text_to_dec8`. -/
def ctCmTextToDec8 (decText : List Char) : Result Dec8 :=
  ctError (do
    let np ← ctCmSplitNumText 0 decText
    ctCmNumpartToDec8 np)

/-! ## The cells of a digit text -/

/-- The number that a decimal denotes; the first cell counts with the exponent. -/
def Dec8.value (dec : Dec8) : ℚ :=
  (if dec.sign then -1 else 1) * number dec8CellMask dec.cells *
    (dec8CellMask : ℚ) ^ (dec.expn - (dec.cells.length - 1))

theorem cmCelltext2Uint32_eq {text : List Char} (h : AllDigits text) (hlength : text.length ≤ 8) :
    cmCelltext2Uint32 text = value text := by
  induction text using List.reverseRecOn with
  | nil => rfl
  | append_singleton text c ih =>
    obtain ⟨htext, hc⟩ := digits_append.mp h
    rw [List.length_append, List.length_singleton] at hlength
    have hrange := digit_range (hc c (List.mem_singleton_self c))
    have hlt := value_lt htext
    have hpow : 10 ^ text.length ≤ 10 ^ 7 := Nat.pow_le_pow_right (by decide) (by omega)
    have hprevious := ih htext (by omega)
    unfold cmCelltext2Uint32 at hprevious ⊢
    rw [List.foldl_append, hprevious, value_append, value_singleton, List.length_singleton]
    simp only [List.foldl_cons, List.foldl_nil]
    omega

theorem appendZeros_eq (k : Nat) (dtext : List Char) (h : dtext.length ≤ ctMaxNumPartBuff) :
    appendZeros k dtext =
      if dtext.length + k ≤ ctMaxNumPartBuff then .ok (dtext ++ List.replicate k '0')
      else .error .undefined := by
  induction k generalizing dtext with
  | zero =>
    rw [Nat.add_zero, if_pos h, List.replicate_zero, List.append_nil]
    rfl
  | succ k ih =>
    rw [appendZeros, appendDigit]
    by_cases hroom : dtext.length < ctMaxNumPartBuff
    · have hlength : (dtext ++ ['0']).length = dtext.length + 1 := List.length_append
      rw [if_pos hroom, result_bind_ok, ih _ (by omega), hlength, List.append_assoc,
        List.singleton_append, ← List.replicate_succ,
        show dtext.length + 1 + k = dtext.length + (k + 1) by omega]
    · rw [if_neg hroom, if_neg (by omega)]
      rfl

/-- Full cells of digits are read as the number they denote. -/
theorem cellLoop_spec {k j : Nat} (hk : j ≤ k) {rest : List Char} (h : AllDigits rest)
    (hlength : rest.length = 8 * j) :
    ∃ cells, cellLoop k rest = .ok cells ∧ cells.length = j ∧ (∀ c ∈ cells, c < dec8CellMask) ∧
      number dec8CellMask cells = value rest := by
  induction j generalizing k rest with
  | zero =>
    obtain rfl : rest = [] := List.eq_nil_of_length_eq_zero hlength
    refine ⟨[], ?_, rfl, List.forall_mem_nil _, rfl⟩
    cases k with
    | zero => rfl
    | succ k => exact if_pos rfl
  | succ j ih =>
    obtain ⟨k, rfl⟩ : ∃ l, k = l + 1 := ⟨k - 1, by omega⟩
    have hfront : AllDigits (rest.take 8) := fun c hc => h c (List.mem_of_mem_take hc)
    have hbehind : AllDigits (rest.drop 8) := fun c hc => h c (List.mem_of_mem_drop hc)
    have hfrontLength : (rest.take 8).length = 8 := List.length_take_of_le (by omega)
    have hbehindLength : (rest.drop 8).length = 8 * j := by
      rw [List.length_drop]
      omega
    obtain ⟨cells, hcells, hcellsLength, hlt, hnumber⟩ :=
      ih (Nat.le_of_succ_le_succ hk) hbehind hbehindLength
    have hcell := cmCelltext2Uint32_eq hfront hfrontLength.le
    refine ⟨value (rest.take 8) :: cells, ?_, by rw [List.length_cons, hcellsLength], ?_, ?_⟩
    · rw [cellLoop, if_neg (List.ne_nil_of_length_pos (by omega)), dec8CellDigit,
        if_neg (by omega), hcells, hcell]
      rfl
    · refine List.forall_mem_cons.mpr ⟨?_, hlt⟩
      have hvalue := value_lt hfront
      rw [hfrontLength] at hvalue
      exact hvalue
    · have hsplit := value_append (rest.take 8) (rest.drop 8)
      rw [List.take_append_drop, hbehindLength, Nat.pow_mul] at hsplit
      rw [number_cons, hcellsLength, hnumber, hsplit]
      rfl

/-- Digits are cut into canonical cells; `n` cells of zeros at the end are left out. -/
theorem cmDigitextToCell8s_spec {dtext : List Char} {lenU0 j : Nat} (h : AllDigits dtext)
    (hlength : dtext.length = lenU0 + 8 * j) (hlenU0 : lenU0 ≤ 8) (hj : j < dec8CellSize)
    (hpos : 0 < value (dtext.take lenU0)) :
    ∃ cells n, cmDigitextToCell8s dtext lenU0 = .ok cells ∧ Canonical dec8CellMask cells ∧
      cells.length + n = j + 1 ∧ number dec8CellMask cells * dec8CellMask ^ n = value dtext := by
  have hfront : AllDigits (dtext.take lenU0) := fun c hc => h c (List.mem_of_mem_take hc)
  have hbehind : AllDigits (dtext.drop lenU0) := fun c hc => h c (List.mem_of_mem_drop hc)
  have hfrontLength : (dtext.take lenU0).length = lenU0 := List.length_take_of_le (by omega)
  have hbehindLength : (dtext.drop lenU0).length = 8 * j := by
    rw [List.length_drop]
    omega
  obtain ⟨cells, hcells, hcellsLength, hlt, hnumber⟩ :=
    cellLoop_spec (Nat.le_sub_one_of_lt hj) hbehind hbehindLength
  have hcell := cmCelltext2Uint32_eq hfront (hfrontLength.trans_le hlenU0)
  have hcellLt : value (dtext.take lenU0) < dec8CellMask := by
    have hvalue := value_lt hfront
    have hpow : 10 ^ (dtext.take lenU0).length ≤ 10 ^ 8 :=
      Nat.pow_le_pow_right (by decide) (by omega)
    exact hvalue.trans_le hpow
  have hall : number dec8CellMask (value (dtext.take lenU0) :: cells) = value dtext := by
    have hsplit := value_append (dtext.take lenU0) (dtext.drop lenU0)
    rw [List.take_append_drop, hbehindLength, Nat.pow_mul] at hsplit
    rw [number_cons, hcellsLength, hnumber, hsplit]
    rfl
  obtain ⟨n, hn, hcanonical⟩ :=
    canonical_rdropWhile (List.forall_mem_cons.mpr ⟨hcellLt, hlt⟩) hpos.ne'
  refine ⟨_, n, ?_, hcanonical, ?_, ?_⟩
  · rw [cmDigitextToCell8s, if_neg (by omega), hcells, result_bind_ok, hcell]
    split
    · rename_i hnil
      exact absurd hnil (ne_nil_of_canonical hcanonical)
    · rfl
  · have hcount := congrArg List.length hn
    rw [List.length_append, List.length_replicate, List.length_cons, hcellsLength] at hcount
    exact hcount.symm
  · rw [← number_append_zeros, ← hn, hall]

/-- The zeros that `cm_digitext_to_dec8` appends to `n` digits. -/
def appendedZeros (n : Nat) (sciExp : Int) : Nat := ((sciExp + 1 - n) % 8).toNat

section

variable {digits : List Char} {sciExp : Int} {sign : Bool}

theorem delta_eq (n : Nat) (hlow : minNumericExpn ≤ sciExp) :
    (sciExp + 1 - (n % dec8CellDigit : Nat) + 8 * 2 ^ 16).tmod dec8CellDigit =
      (appendedZeros n sciExp : Int) := by
  unfold minNumericExpn at hlow
  unfold appendedZeros dec8CellDigit
  rw [Int.tmod_eq_emod_of_nonneg (by omega)]
  omega

/-- The first cell gets so many digits that the dot is between two cells. -/
theorem lenU0_eq (n : Nat) (sciExp : Int) :
    (if ((n % dec8CellDigit : Nat) + (appendedZeros n sciExp : Int)).tmod dec8CellDigit = 0 then
        (dec8CellDigit : Int)
      else ((n % dec8CellDigit : Nat) + (appendedZeros n sciExp : Int)).tmod dec8CellDigit) =
      (sciExp % 8).toNat + 1 := by
  unfold appendedZeros dec8CellDigit
  rw [Int.tmod_eq_emod_of_nonneg (by omega)]
  split <;> omega

/-- The digits with the appended zeros fill whole cells behind the first one. -/
theorem length_appendedZeros {n : Nat} (hn : 0 < n) (sciExp : Int) :
    ∃ j, n + appendedZeros n sciExp = (sciExp % 8).toNat + 1 + 8 * j := by
  refine ⟨(n + appendedZeros n sciExp - ((sciExp % 8).toNat + 1)) / 8, ?_⟩
  unfold appendedZeros
  omega

theorem cmDigitextToDec8_eq (sign : Bool) (hlength : digits.length ≤ ctMaxNumPartBuff)
    (hlow : minNumericExpn ≤ sciExp) :
    cmDigitextToDec8 sign digits sciExp =
      if digits.length + appendedZeros digits.length sciExp ≤ ctMaxNumPartBuff then do
        let cells ← cmDigitextToCell8s
          (digits ++ List.replicate (appendedZeros digits.length sciExp) '0')
          ((sciExp % 8).toNat + 1)
        return (⟨sign, ((sciExp / 8).bmod (2 ^ 16)), cells⟩, (sciExp % 8).toNat + 1)
      else .error .undefined := by
  have hexpn : (sciExp + 1 - ((sciExp % 8).toNat + 1)).tdiv 8 = sciExp / 8 := by
    have hdvd : (8 : Int) ∣ sciExp + 1 - ((sciExp % 8).toNat + 1) := by omega
    rw [Int.tdiv_eq_ediv_of_dvd hdvd]
    omega
  unfold cmDigitextToDec8
  dsimp only
  rw [delta_eq _ hlow, lenU0_eq, hexpn, Int.toNat_natCast, appendZeros_eq _ _ hlength]
  split
  · rfl
  · rfl

theorem mask_zpow (k : Int) : (dec8CellMask : ℚ) ^ k = 10 ^ (8 * k) := by
  rw [zpow_mul]
  congr 1

/-- Cells that are a number up to zeros at the end of both. -/
theorem number_mask_zpow {x y n a : Nat} (h : x * dec8CellMask ^ n = y * 10 ^ a) (k : Int) :
    (x : ℚ) * (dec8CellMask : ℚ) ^ k = y * 10 ^ (a + 8 * (k - n)) := by
  have hten : (10 : ℚ) ≠ 0 := by norm_num
  have hmask : (dec8CellMask : ℚ) ≠ 0 := by norm_num [dec8CellMask]
  have hcast : (x : ℚ) * (dec8CellMask : ℚ) ^ n = y * 10 ^ a := by exact_mod_cast h
  calc (x : ℚ) * (dec8CellMask : ℚ) ^ k
      = x * (dec8CellMask : ℚ) ^ n * (dec8CellMask : ℚ) ^ (k - n) := by
        rw [mul_assoc, ← zpow_natCast, ← zpow_add₀ hmask, add_sub_cancel]
    _ = y * 10 ^ (a + 8 * (k - n)) := by
        rw [hcast, mask_zpow, mul_assoc, zpow_add₀ hten, zpow_natCast]

/-- Digits that fit with the zeros are converted to their number. -/
theorem cmDigitextToDec8_spec (sign : Bool) (h : AllDigits digits) (hne : digits ≠ [])
    (hhead : digits.head? ≠ some '0') (hlow : minNumericExpn ≤ sciExp)
    (hhigh : sciExp ≤ maxNumericExpn)
    (hroom : digits.length + appendedZeros digits.length sciExp ≤ ctMaxNumPartBuff) :
    ∃ dec prec0, cmDigitextToDec8 sign digits sciExp = .ok (dec, prec0) ∧ dec.sign = sign ∧
      Canonical dec8CellMask dec.cells ∧ dec.cells.length ≤ dec8CellSize ∧
      dec.value = (if sign then -1 else 1) * value digits *
        10 ^ (sciExp + 1 - digits.length) := by
  have hlength : digits.length ≤ ctMaxNumPartBuff := (Nat.le_add_right _ _).trans hroom
  obtain ⟨c, rest, rfl⟩ := List.exists_cons_of_ne_nil hne
  obtain ⟨j, hj⟩ := length_appendedZeros (n := (c :: rest).length) (Nat.succ_pos _) sciExp
  have hc : c ≠ '0' := fun hc => hhead (congrArg some hc)
  have hdigit : c.isDigit = true := (digits_cons.mp h).1
  -- the first cell begins with the first digit
  have hfirst : 0 < value (((c :: rest) ++
      List.replicate (appendedZeros (c :: rest).length sciExp) '0').take
        ((sciExp % 8).toNat + 1)) := by
    rw [List.cons_append, List.take_succ_cons]
    exact (Nat.pow_pos (by decide)).trans_le (pow_le_value hdigit hc)
  obtain ⟨cells, n, hcells, hcanonical, hcount, hnumber⟩ := cmDigitextToCell8s_spec
    (digits_append.mpr ⟨h, digits_replicate_zero (appendedZeros (c :: rest).length sciExp)⟩)
    (by rw [List.length_append, List.length_replicate, hj]) (by omega)
    (by unfold ctMaxNumPartBuff at hroom; unfold dec8CellSize; omega) hfirst
  rw [value_append, value_replicate_zero, Nat.add_zero, List.length_replicate] at hnumber
  have hbmod : (sciExp / 8).bmod (2 ^ 16) = sciExp / 8 := by
    unfold minNumericExpn at hlow
    unfold maxNumericExpn at hhigh
    rw [Int.bmod_eq_of_le] <;> omega
  refine ⟨⟨sign, (sciExp / 8).bmod (2 ^ 16), cells⟩, (sciExp % 8).toNat + 1, ?_, rfl, hcanonical,
    ?_, ?_⟩
  · rw [cmDigitextToDec8_eq _ hlength hlow, if_pos hroom, hcells]
    rfl
  · have hsize : j < dec8CellSize := by
      unfold ctMaxNumPartBuff at hroom
      unfold dec8CellSize
      omega
    exact (Nat.le_of_add_right_le hcount.le).trans hsize
  · rw [Dec8.value]
    dsimp only
    rw [hbmod, mul_assoc, mul_assoc, number_mask_zpow hnumber]
    congr 3
    omega

end

end CantianConnector.Convert
