import CantianConnector.Convert.Dec8Text

/-!
# Printing a decimal

`ct_cm_dec8_to_text`. The plain form writes the digits around the dot and drops what does not fit;
the scientific form, for a number that is too long for that, compares the count that `snprintf`
returns with the success code, so that it always fails. What the plain form prints without rounding
is a numeral with the digits of the decimal (`Spells`), and is read as the same decimal when the
digit buffer of the reader holds it.
-/

namespace CantianConnector.Convert

open Digits DigitText DecimalNumeral

/-! ## The functions -/

/-- `DEC8_GET_SEXP`. -/
def dec8GetSexp (dec : Dec8) : Int := dec.expn * 8 + cmCountU32Digits (dec.cells.headD 0) - 1

/-- `dec->sign` as a number. -/
def Dec8.signLen (dec : Dec8) : Int := if dec.sign then 1 else 0

/-- The sign that is printed. -/
def Dec8.signText (dec : Dec8) : List Char := if dec.sign then ['-'] else []

/-- The output of `snprintf` for `E%+d`. -/
def printExponent (sciExp : Int) : List Char :=
  'E' :: (if sciExp < 0 then '-' else '+') :: Nat.toDigits 10 sciExp.natAbs

/-- The loop of `cm_dec8_to_sci_text`, with `k` characters to write. -/
def sciLoop (cellText : List Char) : Nat → Nat → List Char → List Char
  | 0, _, text => text
  | k + 1, i, text => sciLoop cellText k (i + 1) (text ++ [cellText.getD i '0'])

/-- `cm_dec8_to_sci_text`. -/
def cmDec8ToSciText (dec : Dec8) (maxLen : Int) : Result (List Char) :=
  let sciExp := dec8GetSexp dec
  let placer := dec.signLen + 3 + cmCountU32Digits sciExp.natAbs
  if maxLen ≤ placer then .error (.code (-1))
  else do
    let (change, cellText) ← cmDec8RoundToText dec (maxLen - placer)
    let sciExp := if 0 < change then sciExp + 1 else sciExp
    let sciBuff := printExponent sciExp
    -- iret_snprintf != EOK
    if sciBuff.length ≠ 0 then .error (.code (-1))
    else
      let placer : Int := sciBuff.length
      match cellText with
      | [] => .error .undefined
      | c :: _ =>
        let text := dec.signText ++ [c, '.']
        let text := sciLoop cellText (maxLen - placer - text.length).toNat 1 text
        -- iret_snprintf != EOK
        if sciBuff.length ≠ 0 then .error (.code (-1))
        else .ok (text ++ sciBuff)

/-- `cm_dec8_to_plain_text`. -/
def cmDec8ToPlainText (dec : Dec8) (maxLen sciExp prec : Int) : Result (List Char) :=
  let text := dec.signText
  let dotPos := sciExp + 1
  if prec ≤ dotPos then do
    let (_, cellText) ← cmDec8RoundToText dec (maxLen - dec.signLen)
    return text ++ cellText ++ List.replicate (dotPos - prec).toNat '0'
  else if dotPos = maxLen - dec.signLen then do
    let (change, cellText) ← cmDec8RoundToText dec dotPos
    if 0 < change then cmDec8ToSciText dec maxLen
    else
      let text := text ++ cellText
      return text ++ List.replicate (maxLen - text.length).toNat '0'
  else if dotPos = maxLen - dec.signLen - 1 then do
    let (change, cellText) ← cmDec8RoundToText dec dotPos
    let text := text ++ cellText
    return text ++ List.replicate (maxLen + change - (text.length + 1)).toNat '0'
  else if 0 ≤ dotPos then do
    let (change, cellText) ← cmDec8RoundToText dec (maxLen - dec.signLen - 1)
    let dotPos := dotPos + change
    if cellText.length ≤ dotPos then
      return text ++ cellText ++ List.replicate (dotPos - cellText.length).toNat '0'
    else return text ++ cellText.take dotPos.toNat ++ '.' :: cellText.drop dotPos.toNat
  else do
    let (change, cellText) ← cmDec8RoundToText dec (maxLen - dec.signLen - 1 + dotPos)
    let dotPos := dotPos + change
    let text := text ++ '.' :: List.replicate (-dotPos).toNat '0'
    return text ++ cellText.take (maxLen - text.length).toNat

/-- The condition of `ct_cm_dec8_to_text` for the scientific form. -/
def usesSci (dec : Dec8) (maxLen : Int) : Prop :=
  (dec8GetSexp dec < -6 ∧ -dec8GetSexp dec + cmDec8CalcPrec dec + dec.signLen > maxLen) ∨
    (dec8GetSexp dec > 0 ∧ dec8GetSexp dec + 1 + dec.signLen > maxLen)

instance (dec : Dec8) (maxLen : Int) : Decidable (usesSci dec maxLen) :=
  inferInstanceAs (Decidable (_ ∨ _))

/-- `CT_NUMBER_BUFFER_SIZE - 1` is the longest text. -/
def textLimit (maxLen : Int) : Int := min maxLen 127

/-- `ct_cm_dec8_to_text`. -/
def ctCmDec8ToText (dec : Dec8) (maxLen : Int) : Result (List Char) :=
  let maxLen := textLimit maxLen
  if dec.cells = [] then .ok ['0']
  else if usesSci dec maxLen then cmDec8ToSciText dec maxLen
  else cmDec8ToPlainText dec maxLen (dec8GetSexp dec) (cmDec8CalcPrec dec)

/-! ## The digits of a decimal -/

section

variable {dec : Dec8} {num : Numeral}

/-- The significant digits; `cm_dec8_calc_prec` counts them. -/
def Dec8.significant (dec : Dec8) : List Char := dropZeros dec.digits

theorem cmDec8CalcPrec_significant (h : Canonical dec8CellMask dec.cells) :
    cmDec8CalcPrec dec = dec.significant.length := by
  rw [cmDec8CalcPrec_eq h, Dec8.significant, Dec8.digits_eq h]

theorem Dec8.digits_significant (dec : Dec8) : AllDigits dec.significant :=
  digits_dropZeros (digits_toDigits _)

theorem length_digits (h : Canonical dec8CellMask dec.cells) :
    dec.digits.length = cmCountU32Digits (dec.cells.headD 0) + 8 * (dec.cells.length - 1) := by
  obtain ⟨c0, rest, heq⟩ := List.exists_cons_of_ne_nil (ne_nil_of_canonical h)
  have hlt := h.lt
  rw [heq] at hlt
  obtain ⟨hc0, hrest⟩ := List.forall_mem_cons.mp hlt
  have hcount : cmCountU32Digits c0 = (Nat.toDigits 10 c0).length := by
    apply cmCountU32Digits_eq
    unfold dec8CellMask at hc0
    omega
  rw [Dec8.digits_eq h, heq, cellsText, List.length_append, length_flatMap_fixed hrest,
    List.headD_cons, hcount, List.length_cons, Nat.add_sub_cancel]

theorem number_pos (h : Canonical dec8CellMask dec.cells) : 0 < number dec8CellMask dec.cells := by
  apply Nat.pos_of_ne_zero
  intro hzero
  have hdvd := h.not_dvd
  rw [window_eq_number, hzero] at hdvd
  exact hdvd (dvd_zero _)

/-- The last cell is not zero: fewer than eight zeros are at the end. -/
theorem exists_zeros (h : Canonical dec8CellMask dec.cells) :
    ∃ n, n < 8 ∧ dec.digits = dec.significant ++ List.replicate n '0' ∧
      number dec8CellMask dec.cells = value dec.significant * 10 ^ n := by
  obtain ⟨n, hn⟩ := exists_dropZeros dec.digits
  have hnumber : number dec8CellMask dec.cells = value dec.significant * 10 ^ n := by
    have hvalue := congrArg value hn
    rw [Dec8.digits, value_toDigits] at hvalue
    rw [hvalue, value_append, value_replicate_zero, List.length_replicate, Nat.add_zero]
    rfl
  refine ⟨n, ?_, hn, hnumber⟩
  by_contra hlarge
  have hdvd : 10 ^ 8 ∣ number dec8CellMask dec.cells := by
    rw [hnumber]
    exact Dvd.dvd.mul_left (pow_dvd_pow 10 (not_lt.mp hlarge)) _
  have hnot := h.not_dvd
  rw [window_eq_number] at hnot
  exact hnot hdvd

theorem Dec8.significant_ne (h : Canonical dec8CellMask dec.cells) : dec.significant ≠ [] := by
  intro hnil
  obtain ⟨n, -, -, hnumber⟩ := exists_zeros h
  rw [hnil, value_nil, Nat.zero_mul] at hnumber
  exact (number_pos h).ne' hnumber

theorem Dec8.head?_significant (h : Canonical dec8CellMask dec.cells) :
    dec.significant.head? ≠ some '0' := by
  rw [Dec8.significant, head?_dropZeros (Dec8.significant_ne h)]
  exact head?_toDigits (number_pos h)

/-- At most 65 digits are in at most nine cells. -/
theorem length_cells_le (h : Canonical dec8CellMask dec.cells) (hprec : cmDec8CalcPrec dec ≤ 65) :
    dec.cells.length ≤ dec8CellSize := by
  obtain ⟨n, hn, hdigits, -⟩ := exists_zeros h
  have hlength := length_digits h
  rw [hdigits, List.length_append, List.length_replicate] at hlength
  rw [cmDec8CalcPrec_significant h] at hprec
  have hcount : 0 < cmCountU32Digits (dec.cells.headD 0) := by
    unfold cmCountU32Digits
    split_ifs <;> omega
  unfold dec8CellSize
  omega

/-- With room for all digits, they are printed as they are. -/
theorem cmDec8RoundToText_all (h : Canonical dec8CellMask dec.cells)
    (hlength : dec.cells.length ≤ dec8CellSize) {maxLen : Int}
    (hroom : (cmDec8CalcPrec dec : Int) ≤ maxLen) :
    cmDec8RoundToText dec maxLen = .ok (0, dec.significant) := by
  have hprec := cmDec8CalcPrec_significant h
  have hpos : 0 < cmDec8CalcPrec dec := by
    rw [hprec]
    exact List.length_pos_of_ne_nil (Dec8.significant_ne h)
  obtain ⟨n, -, hdigits, -⟩ := exists_zeros h
  have htake : dec.digits.take (cmDec8CalcPrec dec) = dec.significant := by
    rw [hdigits, hprec, List.take_left]
  obtain ⟨c0, rest, heq⟩ := List.exists_cons_of_ne_nil (ne_nil_of_canonical h)
  have hlt := h.lt
  have hhead := h.head
  have hle : dec.digits.length ≤ 80 := by
    rw [length_digits h]
    have hcount : cmCountU32Digits (dec.cells.headD 0) ≤ 10 := by
      unfold cmCountU32Digits
      split_ifs <;> omega
    unfold dec8CellSize at hlength
    omega
  have hsmall : cmDec8CalcPrec dec < 2 ^ 32 := by
    have hshort := congrArg List.length hdigits
    rw [List.length_append, List.length_replicate] at hshort
    omega
  rw [heq] at hlt hhead hlength
  have hc0 : 0 < c0 := Nat.pos_of_ne_zero hhead
  have htext := cmCell8sToText_eq hlt hc0 hlength hpos hsmall
  rw [← heq, ← Dec8.digits_eq h, htake] at htext
  have hmem : dec.cellMem = fun i => dec.cells[i]? := rfl
  unfold cmDec8RoundToText
  dsimp only
  rw [if_pos hroom, hmem, htext, result_bind_ok, Dec8.significant, dropZeros, dropZeros,
    List.rdropWhile_idempotent]
  rfl

/-! ## Numerals of a decimal -/

/-- The value is the significant digits at the place of the first one. -/
theorem Dec8.value_eq (h : Canonical dec8CellMask dec.cells) :
    dec.value = (if dec.sign then -1 else 1) * DigitText.value dec.significant *
      10 ^ (dec8GetSexp dec + 1 - dec.significant.length) := by
  obtain ⟨n, -, hdigits, hnumber⟩ := exists_zeros h
  have hlength := length_digits h
  have hpos := h.length_pos
  rw [hdigits, List.length_append, List.length_replicate] at hlength
  rw [Dec8.value, mul_assoc, mul_assoc,
    number_mask_zpow (n := 0) ((Nat.mul_one _).trans hnumber)]
  congr 3
  unfold dec8GetSexp
  omega

/-- A canonical decimal is determined by its value. -/
theorem Dec8.value_inj {a b : Dec8} (ha : Canonical dec8CellMask a.cells)
    (hb : Canonical dec8CellMask b.cells) (h : a.value = b.value) : a = b := by
  have hpos : ∀ {d : Dec8}, Canonical dec8CellMask d.cells →
      0 < (number dec8CellMask d.cells : ℚ) *
        (dec8CellMask : ℚ) ^ (d.expn - (d.cells.length - 1)) := by
    intro d hd
    have hnumber : (0 : ℚ) < number dec8CellMask d.cells := by exact_mod_cast number_pos hd
    have hmask : (0 : ℚ) < dec8CellMask := by norm_num [dec8CellMask]
    exact mul_pos hnumber (zpow_pos hmask _)
  have hapos := hpos ha
  have hbpos := hpos hb
  rw [Dec8.value, Dec8.value, mul_assoc, mul_assoc] at h
  have hsign : a.sign = b.sign := by
    cases hasign : a.sign <;> cases hbsign : b.sign
    · rfl
    · rw [hasign, hbsign] at h
      simp only [Bool.false_eq_true, if_false, if_true] at h
      linarith
    · rw [hasign, hbsign] at h
      simp only [Bool.false_eq_true, if_false, if_true] at h
      linarith
    · rfl
  have hunit : (if b.sign then (-1 : ℚ) else 1) ≠ 0 := by split <;> norm_num
  rw [hsign] at h
  have hmagnitude := mul_left_cancel₀ hunit h
  rw [← window_eq_number, ← window_eq_number] at hmagnitude
  obtain ⟨hplace, hcells⟩ := canonical_unique (by decide) ha hb hmagnitude
  have hexpn : a.expn = b.expn := by
    rw [hcells] at hplace
    omega
  cases a
  cases b
  simp only [Dec8.mk.injEq]
  exact ⟨hsign, hexpn, hcells⟩

/-- The numeral has the sign and the digits of the decimal, with `k` zeros behind, at its place. -/
structure Spells (dec : Dec8) (num : Numeral) (k : Nat) : Prop where
  sign : num.sign = dec.signText
  significant : num.significant = dec.significant ++ List.replicate k '0'
  sci : num.sci = dec8GetSexp dec

theorem signText_eq (dec : Dec8) : dec.signText = ['-'] ↔ dec.sign = true := by
  rw [Dec8.signText]
  split
  · exact iff_of_true rfl ‹_›
  · exact iff_of_false (fun h => nomatch h) ‹_›

theorem Spells.value {k : Nat} (hs : Spells dec num k) (h : Canonical dec8CellMask dec.cells) :
    num.value = dec.value := by
  have hten : (10 : ℚ) ≠ 0 := by norm_num
  have hsign : (if num.sign = ['-'] then (-1 : ℚ) else 1) = if dec.sign then -1 else 1 := by
    simp only [hs.sign, signText_eq]
  have hvalue : DigitText.value num.significant = DigitText.value dec.significant * 10 ^ k := by
    rw [hs.significant, value_append, value_replicate_zero, List.length_replicate, Nat.add_zero]
  have hlength : num.significant.length = dec.significant.length + k := by
    rw [hs.significant, List.length_append, List.length_replicate]
  rw [num.value_eq_significant, Dec8.value_eq h, hsign, hvalue, hlength, hs.sci, Nat.cast_mul,
    Nat.cast_pow, Nat.cast_ofNat, mul_assoc, mul_assoc, mul_assoc, ← zpow_natCast,
    ← zpow_add₀ hten]
  congr 3
  omega

theorem Spells.significant_ne {k : Nat} (hs : Spells dec num k)
    (h : Canonical dec8CellMask dec.cells) : num.significant ≠ [] := by
  rw [hs.significant]
  exact List.append_ne_nil_of_left_ne_nil (Dec8.significant_ne h) _

/-- A numeral of the decimal that the digit buffer holds is read as the decimal. -/
theorem Spells.reads {k : Nat} (hs : Spells dec num k) (h : Canonical dec8CellMask dec.cells)
    (hshort : num.text.length ≤ 128) (hlow : minNumericExpn ≤ dec8GetSexp dec)
    (hhigh : dec8GetSexp dec ≤ maxNumericExpn)
    (hroom : dec.significant.length + k < ctMaxNumPartBuff)
    (hfits : dec.significant.length + k ≤ 65 ∨
      (dec.significant.length + k : Nat) = dec8GetSexp dec + 1) :
    ctCmTextToDec8 num.text = .ok dec := by
  have hlength : num.significant.length = dec.significant.length + k := by
    rw [hs.significant, List.length_append, List.length_replicate]
  have hzeros : num.significant.length +
      appendedZeros num.significant.length num.sci ≤ ctMaxNumPartBuff := by
    rw [hlength, hs.sci]
    unfold appendedZeros
    unfold ctMaxNumPartBuff at *
    omega
  have hinside := ctCmTextToDec8_inside (ctCmRtrimText_numeral num (by omega)) (by omega)
    (Nat.le_refl _) (hs.significant_ne h) (hlength ▸ hroom) (hs.sci ▸ hlow) (hs.sci ▸ hhigh)
  rw [if_pos hzeros] at hinside
  obtain ⟨dec', hrun, hvalue, hcanonical, -⟩ := hinside
  rw [hrun, Dec8.value_inj hcanonical h (hvalue.trans (hs.value h))]

/-- A numeral with more digits is refused. -/
theorem Spells.refused {k : Nat} (hs : Spells dec num k) (hshort : num.text.length ≤ 128)
    (hfull : ctMaxNumPartBuff ≤ dec.significant.length + k) :
    ctCmTextToDec8 num.text = .error (.code (-1)) := by
  have hlength : num.significant.length = dec.significant.length + k := by
    rw [hs.significant, List.length_append, List.length_replicate]
  exact ctCmTextToDec8_full (ctCmRtrimText_numeral num (by omega)) (by omega) (Nat.le_refl _)
    (hlength ▸ hfull)

/-! ## The plain form -/

/-- The length of the plain form of all digits. -/
def Dec8.plainLength (dec : Dec8) : Int :=
  dec.signLen +
    if (cmDec8CalcPrec dec : Int) ≤ dec8GetSexp dec + 1 then dec8GetSexp dec + 1
    else if 0 ≤ dec8GetSexp dec + 1 then cmDec8CalcPrec dec + 1
    else 1 - (dec8GetSexp dec + 1) + cmDec8CalcPrec dec

theorem length_signText (dec : Dec8) : (dec.signText.length : Int) = dec.signLen := by
  unfold Dec8.signText Dec8.signLen
  split <;> rfl

theorem isSign_signText (dec : Dec8) : IsSign dec.signText := by
  unfold Dec8.signText
  split
  · exact .inr (.inr rfl)
  · exact .inl rfl

/-- Digits around a dot spell the decimal when the significant ones are those of the decimal and
the dot is behind the place of the exponent. -/
theorem exists_spells (h : Canonical dec8CellMask dec.cells) (k : Nat) (whole : List Char)
    (frac : Option (List Char)) (hwhole : AllDigits whole) (hfrac : AllDigits (frac.getD []))
    (hsignificant : significant (whole ++ frac.getD []) =
      dec.significant ++ List.replicate k '0')
    (hplace : (whole.length : Int) - ((whole ++ frac.getD []).length -
      (dec.significant.length + k : Nat)) = dec8GetSexp dec + 1) :
    ∃ num, dec.signText ++ (whole ++ fractionText frac) = Numeral.text num ∧
      Spells dec num k := by
  have hne : whole ++ frac.getD [] ≠ [] := by
    intro hnil
    rw [hnil] at hsignificant
    exact List.append_ne_nil_of_left_ne_nil (Dec8.significant_ne h) _ hsignificant.symm
  have hlength := congrArg List.length hsignificant
  rw [List.length_append, List.length_replicate] at hlength
  let num : Numeral := ⟨dec.signText, whole, frac, none, isSign_signText dec, hwhole, hfrac, hne⟩
  have hsci : num.sci = whole.length - 1 - (((whole ++ frac.getD []).length : Int) -
      (significant (whole ++ frac.getD [])).length) := add_zero _
  refine ⟨num, ?_, rfl, hsignificant, ?_⟩
  · rw [← List.append_nil (fractionText frac)]
    rfl
  · rw [hsci, hlength]
    omega

/-- An integer is printed with the zeros at its end. -/
theorem cmDec8ToPlainText_integer (h : Canonical dec8CellMask dec.cells)
    (hlength : dec.cells.length ≤ dec8CellSize) {maxLen : Int}
    (hinteger : (cmDec8CalcPrec dec : Int) ≤ dec8GetSexp dec + 1)
    (hfit : dec.signLen + (dec8GetSexp dec + 1) ≤ maxLen) :
    ∃ num, cmDec8ToPlainText dec maxLen (dec8GetSexp dec) (cmDec8CalcPrec dec) = .ok num.text ∧
      (num.text.length : Int) = dec.signLen + (dec8GetSexp dec + 1) ∧
      Spells dec num (dec8GetSexp dec + 1 - cmDec8CalcPrec dec).toNat := by
  have hprec := cmDec8CalcPrec_significant h
  have hsign := length_signText dec
  generalize hk : (dec8GetSexp dec + 1 - cmDec8CalcPrec dec).toNat = k
  have hsignificant : significant (dec.significant ++ List.replicate k '0') =
      dec.significant ++ List.replicate k '0' := by
    apply significant_of_head?
    rw [List.head?_append_of_ne_nil _ (Dec8.significant_ne h)]
    exact Dec8.head?_significant h
  obtain ⟨num, htext, hspells⟩ := exists_spells h k (dec.significant ++ List.replicate k '0') none
    (digits_append.mpr ⟨dec.digits_significant, digits_replicate_zero k⟩) digits_nil
    (by rw [Option.getD_none, List.append_nil, hsignificant])
    (by
      rw [Option.getD_none, List.append_nil, List.length_append, List.length_replicate]
      omega)
  refine ⟨num, ?_, ?_, hspells⟩
  · unfold cmDec8ToPlainText
    dsimp only
    rw [if_pos hinteger, cmDec8RoundToText_all h hlength (by omega), result_bind_ok, ← htext, hk,
      fractionText, List.append_nil, List.append_assoc]
    rfl
  · rw [← htext]
    simp only [fractionText, List.length_append, List.length_replicate, List.length_nil]
    omega

/-- The dot is between the digits or right before the first one. -/
theorem cmDec8ToPlainText_inside (h : Canonical dec8CellMask dec.cells)
    (hlength : dec.cells.length ≤ dec8CellSize) {maxLen : Int}
    (hinteger : ¬(cmDec8CalcPrec dec : Int) ≤ dec8GetSexp dec + 1)
    (hinside : 0 ≤ dec8GetSexp dec + 1)
    (hfit : dec.signLen + (cmDec8CalcPrec dec + 1) ≤ maxLen) :
    ∃ num, cmDec8ToPlainText dec maxLen (dec8GetSexp dec) (cmDec8CalcPrec dec) = .ok num.text ∧
      (num.text.length : Int) = dec.signLen + (cmDec8CalcPrec dec + 1) ∧ Spells dec num 0 := by
  have hprec := cmDec8CalcPrec_significant h
  have hsign := length_signText dec
  have hdigits := dec.digits_significant
  generalize hn : (dec8GetSexp dec + 1).toNat = n
  have hsplit : dec.significant.take n ++ dec.significant.drop n = dec.significant :=
    List.take_append_drop _ _
  have htake : (dec.significant.take n).length = n := List.length_take_of_le (by omega)
  obtain ⟨num, htext, hspells⟩ := exists_spells h 0 (dec.significant.take n)
    (some (dec.significant.drop n)) (fun c hc => hdigits c (List.mem_of_mem_take hc))
    (fun c hc => hdigits c (List.mem_of_mem_drop hc))
    (by
      rw [Option.getD_some, hsplit, significant_of_head? (Dec8.head?_significant h),
        List.replicate_zero, List.append_nil])
    (by
      rw [Option.getD_some, hsplit, htake]
      omega)
  refine ⟨num, ?_, ?_, hspells⟩
  · unfold cmDec8ToPlainText
    dsimp only
    rw [if_neg hinteger, if_neg (by omega), if_neg (by omega), if_pos hinside,
      cmDec8RoundToText_all h hlength (by omega), result_bind_ok, ← htext]
    dsimp only
    rw [Nat.cast_zero, add_zero, if_neg (by omega), hn, fractionText, List.append_assoc]
    rfl
  · rw [← htext]
    simp only [fractionText, List.length_append, List.length_cons, List.length_drop, htake]
    omega

/-- Zeros stand between the dot and the digits. -/
theorem cmDec8ToPlainText_behind (h : Canonical dec8CellMask dec.cells)
    (hlength : dec.cells.length ≤ dec8CellSize) {maxLen : Int}
    (hbehind : ¬0 ≤ dec8GetSexp dec + 1)
    (hfit : dec.signLen + (1 - (dec8GetSexp dec + 1) + cmDec8CalcPrec dec) ≤ maxLen) :
    ∃ num, cmDec8ToPlainText dec maxLen (dec8GetSexp dec) (cmDec8CalcPrec dec) = .ok num.text ∧
      (num.text.length : Int) =
        dec.signLen + (1 - (dec8GetSexp dec + 1) + cmDec8CalcPrec dec) ∧ Spells dec num 0 := by
  have hprec := cmDec8CalcPrec_significant h
  have hsign := length_signText dec
  generalize hn : (-(dec8GetSexp dec + 1)).toNat = n
  obtain ⟨num, htext, hspells⟩ := exists_spells h 0 []
    (some (List.replicate n '0' ++ dec.significant)) digits_nil
    (digits_append.mpr ⟨digits_replicate_zero n, dec.digits_significant⟩)
    (by
      rw [Option.getD_some, List.nil_append,
        significant_zeros_append n (Dec8.head?_significant h), List.replicate_zero,
        List.append_nil])
    (by
      rw [Option.getD_some, List.nil_append, List.length_append, List.length_replicate,
        List.length_nil]
      omega)
  refine ⟨num, ?_, ?_, hspells⟩
  · unfold cmDec8ToPlainText
    dsimp only
    rw [if_neg (by omega), if_neg (by omega), if_neg (by omega), if_neg hbehind,
      cmDec8RoundToText_all h hlength (by omega), result_bind_ok, ← htext]
    dsimp only
    rw [Nat.cast_zero, add_zero, hn, List.take_of_length_le, fractionText, List.nil_append,
      List.append_assoc, List.cons_append]
    · rfl
    · rw [List.length_append, List.length_cons, List.length_replicate]
      omega
  · rw [← htext]
    simp only [fractionText, List.nil_append, List.length_append, List.length_cons,
      List.length_replicate]
    omega

/-- The plain form with room for all digits is a numeral that spells the decimal. -/
theorem cmDec8ToPlainText_spells (h : Canonical dec8CellMask dec.cells)
    (hlength : dec.cells.length ≤ dec8CellSize) {maxLen : Int} (hfit : dec.plainLength ≤ maxLen) :
    ∃ num, cmDec8ToPlainText dec maxLen (dec8GetSexp dec) (cmDec8CalcPrec dec) = .ok num.text ∧
      (num.text.length : Int) = dec.plainLength ∧
      Spells dec num (dec8GetSexp dec + 1 - cmDec8CalcPrec dec).toNat := by
  unfold Dec8.plainLength at hfit ⊢
  by_cases hinteger : (cmDec8CalcPrec dec : Int) ≤ dec8GetSexp dec + 1
  · rw [if_pos hinteger] at hfit ⊢
    exact cmDec8ToPlainText_integer h hlength hinteger hfit
  · have hzeros : (dec8GetSexp dec + 1 - cmDec8CalcPrec dec).toNat = 0 := by omega
    rw [if_neg hinteger] at hfit ⊢
    rw [hzeros]
    by_cases hinside : 0 ≤ dec8GetSexp dec + 1
    · rw [if_pos hinside] at hfit ⊢
      exact cmDec8ToPlainText_inside h hlength hinteger hinside hfit
    · rw [if_neg hinside] at hfit ⊢
      exact cmDec8ToPlainText_behind h hlength hinside hfit

/-! ## The round trip -/

/-- What `snprintf` returns is never the success code. -/
theorem cmDec8ToSciText_fails (dec : Dec8) (maxLen : Int) (text : List Char) :
    cmDec8ToSciText dec maxLen ≠ .ok text := by
  intro hrun
  unfold cmDec8ToSciText at hrun
  dsimp only at hrun
  split at hrun
  · cases hrun
  · obtain ⟨rounded, -, hrun⟩ := result_bind_eq_ok.mp hrun
    rw [if_pos (by rw [printExponent]; exact Nat.succ_ne_zero _)] at hrun
    cases hrun

/-- All digits fit with what stands around them in the form that is chosen: the scientific one has
a sign, a dot, a letter, and the sign and digits of the exponent. -/
def NoRounding (dec : Dec8) (maxLen : Int) : Prop :=
  if usesSci dec (textLimit maxLen) then
    dec.signLen + 3 + cmCountU32Digits (dec8GetSexp dec).natAbs + cmDec8CalcPrec dec ≤
      textLimit maxLen
  else dec.plainLength ≤ textLimit maxLen

instance (dec : Dec8) (maxLen : Int) : Decidable (NoRounding dec maxLen) :=
  inferInstanceAs (Decidable (if usesSci dec (textLimit maxLen) then _ else _))

/-- The decimal is printed with at most `maxLen` characters and read back. -/
def RoundTrips (dec : Dec8) (maxLen : Int) : Prop :=
  ∃ text, ctCmDec8ToText dec maxLen = .ok text ∧ (text.length : Int) ≤ maxLen ∧
    ctCmTextToDec8 text = .ok dec

theorem roundTrips_sci (h : Canonical dec8CellMask dec.cells) {maxLen : Int}
    (hsci : usesSci dec (textLimit maxLen)) : ¬RoundTrips dec maxLen := by
  rintro ⟨text, hrun, -⟩
  unfold ctCmDec8ToText at hrun
  dsimp only at hrun
  rw [if_neg (ne_nil_of_canonical h), if_pos hsci] at hrun
  exact cmDec8ToSciText_fails _ _ _ hrun

theorem roundTrips_plain (h : Canonical dec8CellMask dec.cells) (hprec : cmDec8CalcPrec dec ≤ 65)
    (hlow : minNumericExpn ≤ dec8GetSexp dec) (hhigh : dec8GetSexp dec ≤ maxNumericExpn)
    {maxLen : Int} (hplain : ¬usesSci dec (textLimit maxLen))
    (hfit : dec.plainLength ≤ textLimit maxLen) :
    RoundTrips dec maxLen ↔ dec8GetSexp dec ≤ 70 := by
  obtain ⟨num, hrun, hlength, hspells⟩ :=
    cmDec8ToPlainText_spells h (length_cells_le h hprec) hfit
  have hprint : ctCmDec8ToText dec maxLen = .ok num.text := by
    unfold ctCmDec8ToText
    dsimp only
    rw [if_neg (ne_nil_of_canonical h), if_neg hplain, hrun]
  have hdigits := cmDec8CalcPrec_significant h
  have hshort : num.text.length ≤ 128 ∧ (num.text.length : Int) ≤ maxLen := by
    unfold textLimit at hfit
    omega
  constructor
  · rintro ⟨text, htext, -, hread⟩
    obtain rfl := Except.ok.inj (hprint.symm.trans htext)
    by_contra hlarge
    rw [hspells.refused hshort.1 (by unfold ctMaxNumPartBuff; omega)] at hread
    cases hread
  · intro hsmall
    refine ⟨num.text, hprint, hshort.2, ?_⟩
    apply hspells.reads h hshort.1 hlow hhigh
    · unfold ctMaxNumPartBuff
      omega
    · omega

end

/-- **What is printed without rounding is read back** exactly when it is printed in the plain form
and its first digit is not above the place 70. -/
theorem ctCmDec8ToText_roundtrip_iff (dec : Dec8) (h : Canonical dec8CellMask dec.cells)
    (hprec : cmDec8CalcPrec dec ≤ 65) (hlow : minNumericExpn ≤ dec8GetSexp dec)
    (hhigh : dec8GetSexp dec ≤ maxNumericExpn) (maxLen : Int) (hfit : NoRounding dec maxLen) :
    RoundTrips dec maxLen ↔ ¬usesSci dec (textLimit maxLen) ∧ dec8GetSexp dec ≤ 70 := by
  unfold NoRounding at hfit
  by_cases hsci : usesSci dec (textLimit maxLen)
  · exact iff_of_false (roundTrips_sci h hsci) fun hplain => hplain.1 hsci
  · rw [if_neg hsci] at hfit
    rw [roundTrips_plain h hprec hlow hhigh hsci hfit]
    exact ⟨fun hsmall => ⟨hsci, hsmall⟩, And.right⟩

/-- `-12.5` in five characters. -/
theorem ctCmDec8ToText_roundtrip_small : RoundTrips ⟨true, 0, [12, 50000000]⟩ 5 :=
  (ctCmDec8ToText_roundtrip_iff ⟨true, 0, [12, 50000000]⟩ ⟨by decide, by decide, by decide⟩
    (by decide) (by decide) (by decide) 5 (by decide)).mpr ⟨by decide, by decide⟩

/-- `10 ^ 8` needs nine characters in the plain form and five in the scientific one. -/
theorem ctCmDec8ToText_loses_power :
    Canonical dec8CellMask [1] ∧ cmDec8CalcPrec ⟨false, 1, [1]⟩ ≤ 65 ∧
      minNumericExpn ≤ dec8GetSexp ⟨false, 1, [1]⟩ ∧ dec8GetSexp ⟨false, 1, [1]⟩ ≤ maxNumericExpn ∧
      NoRounding ⟨false, 1, [1]⟩ 6 ∧ ¬RoundTrips ⟨false, 1, [1]⟩ 6 := by
  have h : Canonical dec8CellMask [1] := ⟨by decide, by decide, by decide⟩
  exact ⟨h, by decide, by decide, by decide, by decide, roundTrips_sci h (by decide)⟩

end CantianConnector.Convert
