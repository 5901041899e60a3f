import CantianConnector.Convert.Dec8Scan

/-!
# Reading decimals is right up to the digit buffer

`ct_cm_text_to_dec8` against the numerals. The digits from the first significant one on go to a
buffer of 72 characters. The split has a branch that rounds what does not fit, but behind the loop
it refuses a text that has filled the buffer; a text that leaves too little room for the appended
zeros makes `cm_digitext_to_dec8` write behind the buffer.
-/

namespace CantianConnector.Convert

open Digits DigitText DecimalNumeral

/-! ## Blanks -/

theorem isBlank_digit {c : Char} (h : c.isDigit = true) : isBlank c = false := by
  have hrange := digit_range h
  apply decide_eq_false
  intro hle
  have hcode : c.toNat ≤ 32 := hle
  omega

theorem isBlank_digits {text : List Char} (h : AllDigits text) :
    ∀ c ∈ text, isBlank c = false := fun c hc => isBlank_digit (h c hc)

theorem isBlank_sign {sign : List Char} (h : IsSign sign) : ∀ c ∈ sign, isBlank c = false := by
  rcases h with rfl | rfl | rfl
  · exact List.forall_mem_nil _
  · exact List.forall_mem_singleton.mpr rfl
  · exact List.forall_mem_singleton.mpr rfl

/-- There are no blanks in a numeral. -/
theorem isBlank_numeral (num : Numeral) : ∀ c ∈ num.text, isBlank c = false := by
  have hfrac : ∀ c ∈ fractionText num.frac, isBlank c = false := by
    have hdigits := isBlank_digits num.frac_ok
    cases hcase : num.frac with
    | none => exact List.forall_mem_nil _
    | some frac =>
      rw [hcase] at hdigits
      exact List.forall_mem_cons.mpr ⟨by decide, hdigits⟩
  have hexpn : ∀ c ∈ num.expn.elim [] Exponent.text, isBlank c = false := by
    cases num.expn with
    | none => exact List.forall_mem_nil _
    | some e =>
      refine List.forall_mem_cons.mpr ⟨?_, List.forall_mem_append.mpr
        ⟨isBlank_sign e.sign_ok, isBlank_digits e.digits_ok⟩⟩
      rcases e.letter_ok with h | h <;> · rw [h]; decide
  exact List.forall_mem_append.mpr ⟨isBlank_sign num.sign_ok, List.forall_mem_append.mpr
    ⟨isBlank_digits num.whole_ok, List.forall_mem_append.mpr ⟨hfrac, hexpn⟩⟩⟩

/-- Nothing is trimmed from a numeral. -/
theorem trimmed_numeral (num : Numeral) :
    ctCmLtrimText num.text = num.text ∧ trimmed num.text = num.text := by
  have hblank := isBlank_numeral num
  have hltrim : ctCmLtrimText num.text = num.text := by
    apply List.dropWhile_eq_self_iff.mpr
    intro hpos
    rw [hblank _ (List.getElem_mem hpos)]
    exact Bool.false_ne_true
  refine ⟨hltrim, ?_⟩
  rw [trimmed, hltrim, List.rdropWhile_eq_self_iff]
  intro hne
  rw [hblank _ (List.getLast_mem hne)]
  exact Bool.false_ne_true

theorem ctCmRtrimText_numeral (num : Numeral) (hshort : num.text.length < 2 ^ 31) :
    ctCmRtrimText (ctCmLtrimText num.text) = .ok num.text := by
  obtain ⟨hltrim, htrimmed⟩ := trimmed_numeral num
  rw [ctCmRtrimText_eq (by rwa [hltrim]), htrimmed]

/-! ## Outcomes -/

section

variable {num : Numeral} {text : List Char}

theorem ctCmTextToDec8_of_refuses (h : Refuses (ctCmSplitNumText 0 text)) :
    ctCmTextToDec8 text = .error (.code (-1)) := by
  obtain ⟨rc, h⟩ := h
  rw [ctCmTextToDec8, h]
  rfl

theorem ctCmTextToDec8_of_split {np : NumPart} (h : ctCmSplitNumText 0 text = .ok np) :
    ctCmTextToDec8 text = ctError (ctCmNumpartToDec8 np) := by
  rw [ctCmTextToDec8, h, result_bind_ok]

theorem digitText_ne_zero {np : NumPart} (h : SplitsInto num np) : np.digitText ≠ ['0'] := by
  intro hzero
  have hhead : num.significant.head? ≠ some '0' := head?_significant _
  rw [← h.digitText, hzero] at hhead
  exact hhead rfl

/-- A numeral without a significant digit is zero; an exponent that is too large may be refused. -/
theorem ctCmTextToDec8_zero (htrim : ctCmRtrimText (ctCmLtrimText text) = .ok num.text)
    (hshort : num.text.length < 2 ^ 20) (htext : num.text.length ≤ text.length)
    (hsig : num.significant = []) :
    ctCmTextToDec8 text = .ok ⟨false, 0, []⟩ ∧ num.value = 0 ∨
      maxNumericExpn < num.exponent ∧ ctCmTextToDec8 text = .error (.code (-1)) := by
  rcases ctCmSplitNumText_numeral num htrim hshort htext with
    ⟨-, ⟨np, hnp, hzero⟩ | ⟨hrefuses, hlarge⟩⟩ | ⟨hne, -⟩ | ⟨hne, -⟩
  · refine .inl ⟨?_, num.value_of_zero hsig⟩
    rw [ctCmTextToDec8_of_split hnp, ctCmNumpartToDec8, if_pos hzero]
    rfl
  · exact .inr ⟨hlarge, ctCmTextToDec8_of_refuses hrefuses⟩
  · exact absurd hsig hne
  · exact absurd hsig hne

/-- Too large an exponent is an error. -/
theorem ctCmTextToDec8_above (htrim : ctCmRtrimText (ctCmLtrimText text) = .ok num.text)
    (hshort : num.text.length < 2 ^ 20) (htext : num.text.length ≤ text.length)
    (hsig : num.significant ≠ []) (habove : maxNumericExpn < num.sci) :
    ctCmTextToDec8 text = .error (.code (-1)) := by
  rcases ctCmSplitNumText_numeral num htrim hshort htext with
    ⟨hnil, -⟩ | ⟨-, hrefuses, -⟩ | ⟨-, -, np, hnp, hsplit⟩
  · exact absurd hnil hsig
  · exact ctCmTextToDec8_of_refuses hrefuses
  · have hover : maxNumericExpn < np.sciExpn := by
      have hagrees := hsplit.sciExpn
      unfold Agrees minNumericExpn maxNumericExpn at hagrees
      unfold maxNumericExpn at habove ⊢
      omega
    rw [ctCmTextToDec8_of_split hnp, ctCmNumpartToDec8, if_neg (digitText_ne_zero hsplit),
      if_pos hover]
    rfl

/-- A full buffer is an error. -/
theorem ctCmTextToDec8_full (htrim : ctCmRtrimText (ctCmLtrimText text) = .ok num.text)
    (hshort : num.text.length < 2 ^ 20) (htext : num.text.length ≤ text.length)
    (hfull : ctMaxNumPartBuff ≤ num.significant.length) :
    ctCmTextToDec8 text = .error (.code (-1)) := by
  rcases ctCmSplitNumText_numeral num htrim hshort htext with
    ⟨hnil, -⟩ | ⟨-, hrefuses, -⟩ | ⟨-, hroom, -⟩
  · rw [hnil] at hfull
    exact absurd hfull (by decide)
  · exact ctCmTextToDec8_of_refuses hrefuses
  · exact absurd hroom hfull.not_gt

/-- Too small an exponent gives zero. -/
theorem ctCmTextToDec8_below (htrim : ctCmRtrimText (ctCmLtrimText text) = .ok num.text)
    (hshort : num.text.length < 2 ^ 20) (htext : num.text.length ≤ text.length)
    (hsig : num.significant ≠ []) (hroom : num.significant.length < ctMaxNumPartBuff)
    (hbelow : num.sci < minNumericExpn) : ctCmTextToDec8 text = .ok ⟨false, 0, []⟩ := by
  rcases ctCmSplitNumText_numeral num htrim hshort htext with
    ⟨hnil, -⟩ | ⟨-, -, hfull | habove⟩ | ⟨-, -, np, hnp, hsplit⟩
  · exact absurd hnil hsig
  · exact absurd hroom hfull.not_gt
  · unfold maxNumericExpn at habove
    unfold minNumericExpn at hbelow
    omega
  · have hunder : ¬maxNumericExpn < np.sciExpn ∧ np.sciExpn < minNumericExpn := by
      have hagrees := hsplit.sciExpn
      unfold Agrees at hagrees
      unfold minNumericExpn maxNumericExpn at *
      omega
    rw [ctCmTextToDec8_of_split hnp, ctCmNumpartToDec8, if_neg (digitText_ne_zero hsplit),
      if_neg hunder.1, if_pos hunder.2]
    rfl

/-- Inside of the exponents, the digits are converted. -/
theorem ctCmTextToDec8_inside (htrim : ctCmRtrimText (ctCmLtrimText text) = .ok num.text)
    (hshort : num.text.length < 2 ^ 20) (htext : num.text.length ≤ text.length)
    (hsig : num.significant ≠ []) (hroom : num.significant.length < ctMaxNumPartBuff)
    (hlow : minNumericExpn ≤ num.sci) (hhigh : num.sci ≤ maxNumericExpn) :
    if num.significant.length + appendedZeros num.significant.length num.sci ≤ ctMaxNumPartBuff then
      ∃ dec, ctCmTextToDec8 text = .ok dec ∧ dec.value = num.value ∧
        Canonical dec8CellMask dec.cells ∧ dec.cells.length ≤ dec8CellSize
    else ctCmTextToDec8 text = .error .undefined := by
  rcases ctCmSplitNumText_numeral num htrim hshort htext with
    ⟨hnil, -⟩ | ⟨-, -, hfull | habove⟩ | ⟨-, -, np, hnp, hsplit⟩
  · exact absurd hnil hsig
  · exact absurd hroom hfull.not_gt
  · exact absurd habove hhigh.not_gt
  · have hsci : np.sciExpn = num.sci := by
      have hagrees := hsplit.sciExpn
      unfold Agrees at hagrees
      unfold minNumericExpn maxNumericExpn at *
      omega
    have hrun : ctCmTextToDec8 text = ctError (do
        let made ← cmDigitextToDec8 (decide (num.sign = ['-'])) num.significant num.sci
        return made.1) := by
      rw [ctCmTextToDec8_of_split hnp, ctCmNumpartToDec8, if_neg (digitText_ne_zero hsplit), hsci,
        if_neg hhigh.not_gt, if_neg hlow.not_gt, hsplit.isNeg, hsplit.digitText, hsplit.doRound]
      rfl
    split
    · rename_i hfits
      obtain ⟨dec, prec0, hdec, -, hcanonical, hcells, hvalue⟩ :=
        cmDigitextToDec8_spec (decide (num.sign = ['-'])) num.digits_significant hsig
          (head?_significant _) hlow hhigh hfits
      rw [hdec] at hrun
      refine ⟨dec, hrun, ?_, hcanonical, hcells⟩
      rw [hvalue, num.value_eq_significant]
      simp only [decide_eq_true_iff]
    · rename_i hover
      rw [cmDigitextToDec8_eq _ hroom.le hlow, if_neg hover] at hrun
      exact hrun

/-- The trim does nothing with a text that is longer than its index, which is then too long. -/
theorem ctCmTextToDec8_huge (h : 2 ^ 31 < (ctCmLtrimText text).length) :
    ctCmTextToDec8 text = .error (.code (-1)) := by
  have htrim : ctCmRtrimText (ctCmLtrimText text) = .ok (ctCmLtrimText text) := by
    rw [ctCmRtrimText, if_neg (by omega), if_neg (by omega)]
  exact ctCmTextToDec8_of_refuses (ctCmSplitNumText_long htrim (by omega))

end

/-! ## When the reading is right -/

/-- The text between the blanks is this numeral, below the length limit. -/
def Reads (text : List Char) (num : Numeral) : Prop :=
  num.text = trimmed text ∧ num.text.length < 2 ^ 20

/-- Just the numerals are read, with their number; the exponents above the largest one are errors,
and those below the smallest one zero. Zeros at the end of a numeral are not significant. -/
structure ParsesRight (text : List Char) : Prop where
  refused : (¬∃ num, Reads text num) → ctCmTextToDec8 text = .error (.code (-1))
  zero : ∀ num, Reads text num → num.significant = [] →
    ctCmTextToDec8 text = .ok ⟨false, 0, []⟩ ∧ num.value = 0 ∨
      maxNumericExpn < num.exponent ∧ ctCmTextToDec8 text = .error (.code (-1))
  above : ∀ num, Reads text num → num.significant ≠ [] → maxNumericExpn < num.sci →
    ctCmTextToDec8 text = .error (.code (-1))
  below : ∀ num, Reads text num → num.significant ≠ [] → num.sci < minNumericExpn →
    ctCmTextToDec8 text = .ok ⟨false, 0, []⟩
  inside : ∀ num, Reads text num → num.significant ≠ [] → minNumericExpn ≤ num.sci →
    num.sci ≤ maxNumericExpn → ∃ dec, ctCmTextToDec8 text = .ok dec ∧
      ((dropZeros num.significant).length ≤ 65 → dec.value = num.value ∧
        Canonical dec8CellMask dec.cells ∧ dec.cells.length ≤ dec8CellSize)

/-- The digits of a numeral that is not too large are fewer than the buffer has room for, and so
are they with the appended zeros; the length of the text has an `int32`. -/
def FitsBuffer (text : List Char) : Prop :=
  (ctCmLtrimText text).length ≠ 2 ^ 31 ∧ ∀ num, Reads text num →
    (num.significant = [] → num.exponent ≤ maxNumericExpn →
      (ctCmLtrimText text).length < 2 ^ 31) ∧
    (num.significant ≠ [] → num.sci ≤ maxNumericExpn →
      (ctCmLtrimText text).length < 2 ^ 31 ∧ num.significant.length < ctMaxNumPartBuff ∧
        (minNumericExpn ≤ num.sci → num.significant.length +
          appendedZeros num.significant.length num.sci ≤ ctMaxNumPartBuff))

section

variable {num : Numeral} {text : List Char}

theorem Reads.trim (h : Reads text num) (hlength : (ctCmLtrimText text).length < 2 ^ 31) :
    ctCmRtrimText (ctCmLtrimText text) = .ok num.text := by
  rw [h.1]
  exact ctCmRtrimText_eq hlength

theorem Reads.length_le (h : Reads text num) : num.text.length ≤ text.length :=
  h.1 ▸ length_trimmed_le text

/-- A reading that is right is an error code or a decimal. -/
theorem ParsesRight.defined (h : ParsesRight text) :
    ctCmTextToDec8 text ≠ .error .undefined := by
  intro hundefined
  have hcode : ctCmTextToDec8 text ≠ .error (.code (-1)) := by
    rw [hundefined]
    exact fun heq => nomatch heq
  have hok : ∀ dec, ctCmTextToDec8 text ≠ .ok dec := by
    rw [hundefined]
    exact fun dec heq => nomatch heq
  by_cases hreads : ∃ num, Reads text num
  · obtain ⟨num, hnum⟩ := hreads
    by_cases hsig : num.significant = []
    · rcases h.zero num hnum hsig with ⟨hzero, -⟩ | ⟨-, herror⟩
      · exact hok _ hzero
      · exact hcode herror
    · by_cases habove : maxNumericExpn < num.sci
      · exact hcode (h.above num hnum hsig habove)
      · by_cases hbelow : num.sci < minNumericExpn
        · exact hok _ (h.below num hnum hsig hbelow)
        · obtain ⟨dec, hdec, -⟩ :=
            h.inside num hnum hsig (not_lt.mp hbelow) (not_lt.mp habove)
          exact hok _ hdec
  · exact hcode (h.refused hreads)

/-- A numeral that is not too large is read. -/
theorem ParsesRight.accepts (h : ParsesRight text) (hnum : Reads text num)
    (hsmall : (num.significant = [] ∧ num.exponent ≤ maxNumericExpn) ∨
      (num.significant ≠ [] ∧ num.sci ≤ maxNumericExpn)) :
    ∃ dec, ctCmTextToDec8 text = .ok dec := by
  rcases hsmall with ⟨hsig, hexponent⟩ | ⟨hsig, hsci⟩
  · rcases h.zero num hnum hsig with ⟨hzero, -⟩ | ⟨hlarge, -⟩
    · exact ⟨_, hzero⟩
    · exact absurd hlarge hexponent.not_gt
  · by_cases hbelow : num.sci < minNumericExpn
    · exact ⟨_, h.below num hnum hsig hbelow⟩
    · obtain ⟨dec, hdec, -⟩ := h.inside num hnum hsig (not_lt.mp hbelow) hsci
      exact ⟨dec, hdec⟩

theorem ctCmTextToDec8_border (h : (ctCmLtrimText text).length = 2 ^ 31) :
    ctCmTextToDec8 text = .error .undefined := by
  have htrim : ctCmRtrimText (ctCmLtrimText text) = .error .undefined := by
    rw [ctCmRtrimText, if_neg (by omega), if_pos h]
  rw [ctCmTextToDec8, ctCmSplitNumText, htrim]
  rfl

theorem ParsesRight.fits (h : ParsesRight text) : FitsBuffer text := by
  have hborder : (ctCmLtrimText text).length ≠ 2 ^ 31 := fun heq =>
    h.defined (ctCmTextToDec8_border heq)
  have hlength : (∃ dec, ctCmTextToDec8 text = .ok dec) →
      (ctCmLtrimText text).length < 2 ^ 31 := by
    rintro ⟨dec, hdec⟩
    by_contra hlong
    rw [ctCmTextToDec8_huge (by omega)] at hdec
    cases hdec
  refine ⟨hborder, fun num hnum => ⟨fun hsig hexponent => ?_, fun hsig hsci => ?_⟩⟩
  · exact hlength (h.accepts hnum (.inl ⟨hsig, hexponent⟩))
  · have haccepts := h.accepts hnum (.inr ⟨hsig, hsci⟩)
    have hltrim := hlength haccepts
    have hroom : num.significant.length < ctMaxNumPartBuff := by
      by_contra hfull
      obtain ⟨dec, hdec⟩ := haccepts
      rw [ctCmTextToDec8_full (hnum.trim hltrim) hnum.2 hnum.length_le (not_lt.mp hfull)] at hdec
      cases hdec
    refine ⟨hltrim, hroom, fun hlow => ?_⟩
    by_contra hover
    have hinside := ctCmTextToDec8_inside (hnum.trim hltrim) hnum.2 hnum.length_le hsig hroom hlow
      hsci
    rw [if_neg hover] at hinside
    exact h.defined hinside

theorem FitsBuffer.right (h : FitsBuffer text) : ParsesRight text := by
  obtain ⟨hborder, hfits⟩ := h
  rcases lt_or_gt_of_ne hborder with hltrim | hhuge
  · constructor
    · intro hnot
      by_cases hshort : (trimmed text).length < 2 ^ 20
      · refine ctCmTextToDec8_of_refuses
          (ctCmSplitNumText_refuses (ctCmRtrimText_eq hltrim) hshort ?_)
        rintro ⟨num, hnum⟩
        exact hnot ⟨num, hnum, hnum ▸ hshort⟩
      · exact ctCmTextToDec8_of_refuses
          (ctCmSplitNumText_long (ctCmRtrimText_eq hltrim) (not_lt.mp hshort))
    · exact fun num hnum => ctCmTextToDec8_zero (hnum.trim hltrim) hnum.2 hnum.length_le
    · exact fun num hnum => ctCmTextToDec8_above (hnum.trim hltrim) hnum.2 hnum.length_le
    · intro num hnum hsig hbelow
      have hsci : num.sci ≤ maxNumericExpn := by
        unfold minNumericExpn at hbelow
        unfold maxNumericExpn
        omega
      exact ctCmTextToDec8_below (hnum.trim hltrim) hnum.2 hnum.length_le hsig
        ((hfits num hnum).2 hsig hsci).2.1 hbelow
    · intro num hnum hsig hlow hhigh
      obtain ⟨-, hroom, hzeros⟩ := (hfits num hnum).2 hsig hhigh
      have hinside := ctCmTextToDec8_inside (hnum.trim hltrim) hnum.2 hnum.length_le hsig hroom
        hlow hhigh
      rw [if_pos (hzeros hlow)] at hinside
      obtain ⟨dec, hdec, hright⟩ := hinside
      exact ⟨dec, hdec, fun _ => hright⟩
  · have hrun := ctCmTextToDec8_huge hhuge
    constructor
    · exact fun _ => hrun
    · intro num hnum hsig
      refine .inr ⟨not_le.mp fun hexponent => ?_, hrun⟩
      exact absurd ((hfits num hnum).1 hsig hexponent) hhuge.not_gt
    · exact fun _ _ _ _ => hrun
    · intro num hnum hsig hbelow
      have hsci : num.sci ≤ maxNumericExpn := by
        unfold minNumericExpn at hbelow
        unfold maxNumericExpn
        omega
      exact absurd ((hfits num hnum).2 hsig hsci).1 hhuge.not_gt
    · intro num hnum hsig _ hhigh
      exact absurd ((hfits num hnum).2 hsig hhigh).1 hhuge.not_gt

end

/-- **Decimal texts are read right** exactly when their digits fit into the buffer. -/
theorem ctCmTextToDec8_right_iff (text : List Char) : ParsesRight text ↔ FitsBuffer text :=
  ⟨ParsesRight.fits, FitsBuffer.right⟩

/-- A one with `n` zeros and an exponent. -/
def powerNumeral (n : Nat) (e : Exponent) : Numeral where
  sign := []
  whole := '1' :: List.replicate n '0'
  frac := none
  expn := some e
  sign_ok := .inl rfl
  whole_ok := digits_cons.mpr ⟨rfl, digits_replicate_zero n⟩
  frac_ok := digits_nil
  digits_ne := List.cons_ne_nil _ _

theorem powerNumeral_significant (n : Nat) (e : Exponent) :
    (powerNumeral n e).significant = '1' :: List.replicate n '0' := by
  have hmantissa : (powerNumeral n e).mantissa = '1' :: List.replicate n '0' := List.append_nil _
  rw [Numeral.significant, hmantissa, significant, List.dropWhile_cons_of_neg (by decide)]

theorem powerNumeral_sci (n : Nat) (e : Exponent) : (powerNumeral n e).sci = n + e.value := by
  have hsignificant := powerNumeral_significant n e
  have hmantissa := (powerNumeral n e).length_mantissa
  have hwhole : (powerNumeral n e).whole.length = n + 1 := by
    rw [powerNumeral, List.length_cons, List.length_replicate]
  have hfrac : ((powerNumeral n e).frac.getD []).length = 0 := rfl
  have hexponent : (powerNumeral n e).exponent = e.value := rfl
  rw [Numeral.sci, hsignificant, hexponent, List.length_cons, List.length_replicate]
  omega

/-- `E7`. -/
def exponentSeven : Exponent where
  letter := 'E'
  sign := []
  digits := ['7']
  letter_ok := .inr rfl
  sign_ok := .inl rfl
  digits_ok := digits_cons.mpr ⟨rfl, digits_nil⟩
  digits_ne := List.cons_ne_nil _ _

/-- `10 ^ 72`, with one significant digit: the 66 digits and seven zeros overrun the buffer. -/
theorem ctCmTextToDec8_overruns : ¬ParsesRight ('1' :: (List.replicate 65 '0' ++ ['E', '7'])) := by
  intro h
  have htext : (powerNumeral 65 exponentSeven).text =
      '1' :: (List.replicate 65 '0' ++ ['E', '7']) := rfl
  have hdigits : (powerNumeral 65 exponentSeven).significant.length = 66 := by
    rw [powerNumeral_significant, List.length_cons, List.length_replicate]
  have hsci : (powerNumeral 65 exponentSeven).sci = 72 := powerNumeral_sci 65 exponentSeven
  have hlength : (powerNumeral 65 exponentSeven).text.length = 68 := by
    rw [htext, List.length_cons, List.length_append, List.length_replicate]
    rfl
  have hinside := ctCmTextToDec8_inside (ctCmRtrimText_numeral _ (by rw [hlength]; decide))
    (by rw [hlength]; decide) (Nat.le_refl _) (List.ne_nil_of_length_pos (by rw [hdigits]; decide))
    (by rw [hdigits]; decide) (by rw [hsci]; decide) (by rw [hsci]; decide)
  rw [hdigits, hsci, if_neg (by decide)] at hinside
  exact h.defined (htext ▸ hinside)

end CantianConnector.Convert
