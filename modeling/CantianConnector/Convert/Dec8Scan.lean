import CantianConnector.Convert.Dec8Parse

/-!
# Which texts are read as decimals

The loop of `ct_cm_split_num_text` keeps the offsets of the dot and of the first significant digit
and counts the digits from there on (`Scanned`). After the digits of a text these give the exponent
of its first significant digit, so that a numeral is split into its significant digits and their
place; any other text is refused.
-/

namespace CantianConnector.Convert

open Digits DigitText DecimalNumeral

/-- The call returns an error code. -/
def Refuses {α : Type} (run : Result α) : Prop := ∃ rc, run = .error (.code rc)

theorem refuses_throw {α : Type} (e : NumErrno) : Refuses (e.throw : Result α) := ⟨_, rfl⟩

theorem Refuses.bind {α β : Type} {run : Result α} (h : Refuses run) (f : α → Result β) :
    Refuses (run >>= f) := by
  obtain ⟨rc, rfl⟩ := h
  exact ⟨rc, rfl⟩

/-! ## The exponent -/

/-- The exponent that is read stands still from `CM_MAX_EXPN` on. -/
def Saturates (n tmpExp : Int) : Prop := tmpExp = n ∨ cmMaxExpn ≤ tmpExp ∧ tmpExp ≤ n

theorem expnLoop_spec {digits : List Char} (h : AllDigits digits) {n tmpExp : Int} (hn : 0 ≤ n)
    (hstart : Saturates n tmpExp) :
    ∃ result, expnLoop digits tmpExp = .ok result ∧
      Saturates (n * 10 ^ digits.length + value digits) result := by
  induction digits generalizing n tmpExp with
  | nil =>
    refine ⟨tmpExp, rfl, ?_⟩
    rwa [List.length_nil, pow_zero, mul_one, value_nil, Nat.cast_zero, add_zero]
  | cons c digits ih =>
    obtain ⟨hc, hdigits⟩ := digits_cons.mp h
    have hnext : Saturates (n * 10 + (c.toNat - 48 : Nat))
        (if tmpExp < cmMaxExpn then tmpExp * 10 + (c.toNat - 48 : Nat) else tmpExp) := by
      split
      · rename_i hroom
        rcases hstart with rfl | ⟨hmax, -⟩
        · exact .inl rfl
        · exact absurd hroom hmax.not_gt
      · rename_i hfull
        refine .inr ⟨not_lt.mp hfull, ?_⟩
        rcases hstart with rfl | ⟨-, hle⟩ <;> omega
    obtain ⟨result, hrun, hresult⟩ := ih hdigits (by omega) hnext
    refine ⟨result, by rw [expnLoop, if_pos hc, hrun], ?_⟩
    have hvalue : (n * 10 + (c.toNat - 48 : Nat)) * 10 ^ digits.length + value digits =
        n * 10 ^ (c :: digits).length + value (c :: digits) := by
      rw [value_cons, List.length_cons, Nat.cast_add, Nat.cast_mul, Nat.cast_pow, Nat.cast_ofNat]
      ring
    rwa [hvalue] at hresult

theorem expnLoop_refuses {digits : List Char} (h : ¬AllDigits digits) (tmpExp : Int) :
    Refuses (expnLoop digits tmpExp) := by
  induction digits generalizing tmpExp with
  | nil => exact absurd digits_nil h
  | cons c digits ih =>
    rw [expnLoop]
    split
    · rename_i hc
      exact ih (fun hdigits => h (digits_cons.mpr ⟨hc, hdigits⟩)) _
    · exact refuses_throw _

theorem ctCmParseNumExpn_eq {sign digits : List Char} (hsign : IsSign sign)
    (hdigits : sign = [] → Unsigned digits) :
    ctCmParseNumExpn (sign ++ digits) =
      if digits = [] then NumErrno.noExpnDigit.throw
      else
        match significant digits with
        | [] => .ok 0
        | rest => do
          let tmpExp ← expnLoop rest 0
          if ¬sign = ['-'] ∧ cmMaxExpn < tmpExp then NumErrno.overflow.throw
          else return if sign = ['-'] then -tmpExp else tmpExp := by
  obtain ⟨hminus, hplus⟩ := head?_sign hsign hdigits
  have hbehind : (if decide ((sign ++ digits).head? = some '-') = true ∨
      (sign ++ digits).head? = some '+' then (sign ++ digits).drop 1 else sign ++ digits) =
        digits := by
    simp only [decide_eq_true_iff, hminus, hplus]
    rcases hsign with rfl | rfl | rfl <;> rfl
  unfold ctCmParseNumExpn
  dsimp only
  rw [hbehind]
  simp only [decide_eq_true_iff, hminus]
  rfl

/-- An exponent is read up to saturation; one that is too large may be refused. -/
theorem ctCmParseNumExpn_exponent (e : Exponent) :
    (∃ n, ctCmParseNumExpn (e.sign ++ e.digits) = .ok n ∧
        (Saturates e.value n ∨ Saturates (-e.value) (-n))) ∨
      Refuses (ctCmParseNumExpn (e.sign ++ e.digits)) ∧ cmMaxExpn < e.value := by
  rw [ctCmParseNumExpn_eq e.sign_ok fun _ => unsigned_digits e.digits_ok, if_neg e.digits_ne]
  have hvalue : e.value = signed e.sign (value (significant e.digits)) := by
    rw [value_significant]
    rfl
  obtain ⟨tmpExp, hrun, hsat⟩ :=
    expnLoop_spec (digits_significant e.digits_ok) (le_refl (0 : Int)) (.inl rfl)
  rw [zero_mul, zero_add] at hsat
  split
  · rename_i hzero
    rw [hzero] at hvalue
    refine .inl ⟨0, rfl, .inl (.inl ?_)⟩
    rw [hvalue, signed]
    split <;> rfl
  · rw [hrun, result_bind_ok, hvalue, signed]
    by_cases hsign : e.sign = ['-']
    · rw [if_neg (fun h => h.1 hsign), if_pos hsign, if_pos hsign]
      refine .inl ⟨_, rfl, .inr ?_⟩
      rwa [neg_neg, neg_neg]
    · rw [if_neg hsign, if_neg hsign]
      by_cases hover : cmMaxExpn < tmpExp
      · rw [if_pos ⟨hsign, hover⟩]
        refine .inr ⟨refuses_throw _, ?_⟩
        rcases hsat with heq | ⟨-, hle⟩
        · rwa [← heq]
        · exact hover.trans_le hle
      · rw [if_neg (fun h => hover h.2)]
        exact .inl ⟨_, rfl, .inl hsat⟩

/-- What is no exponent is refused. -/
theorem ctCmParseNumExpn_cases (text : List Char) :
    Refuses (ctCmParseNumExpn text) ∨
      ∃ sign digits, text = sign ++ digits ∧ IsSign sign ∧ AllDigits digits ∧ digits ≠ [] := by
  obtain ⟨sign, digits, rfl, hsign, hdigits⟩ := exists_sign text
  by_cases hne : digits = []
  · rw [ctCmParseNumExpn_eq hsign hdigits, if_pos hne]
    exact .inl (refuses_throw _)
  · by_cases hall : AllDigits digits
    · exact .inr ⟨sign, digits, rfl, hsign, hall, hne⟩
    · left
      have hsignificant : ¬AllDigits (significant digits) := by
        intro hsignificant
        obtain ⟨n, hn⟩ := exists_significant digits
        rw [hn] at hall
        exact hall (digits_append.mpr ⟨digits_replicate_zero n, hsignificant⟩)
      rw [ctCmParseNumExpn_eq hsign hdigits, if_neg hne]
      split
      · rename_i hnil
        rw [hnil] at hsignificant
        exact absurd digits_nil hsignificant
      · exact (expnLoop_refuses hsignificant 0).bind _

/-! ## The loop over the digits -/

/-- The offset behind the sign, the digits and the dot. -/
def scanOffset (start : Nat) (m : List Char) (dot : Option Nat) : Nat :=
  start + m.length + if dot.isSome then 1 else 0

/-- The dot is before the digit behind `n` others. -/
def dotBefore (n : Nat) : Option Nat → Nat
  | none => 0
  | some k => if n < k then 0 else 1

/-- The variables after the digits `m`, and a dot behind so many of them. -/
structure Scanned (start : Nat) (m : List Char) (dot : Option Nat) (s : Scan) : Prop where
  precision : s.precision = if m = [] then -1 else ((significant m).length : Int)
  precOffset : significant m ≠ [] →
    s.precOffset = (start + (m.length - (significant m).length) +
      dotBefore (m.length - (significant m).length) dot : Nat)
  dotOffset : s.dotOffset = dot.elim (-1) fun k => ((start + k : Nat) : Int)
  leadingFlag : s.leadingFlag = decide (significant m = [])
  digitText : s.digitText = (significant m).take ctMaxNumPartBuff
  doRound : (significant m).length ≤ ctMaxNumPartBuff → s.doRound = false

section

variable {start : Nat} {m : List Char} {dot : Option Nat} {s : Scan} {c : Char}

theorem scanned_start (start : Nat) : Scanned start [] none ⟨-1, -1, -1, true, [], false⟩ where
  precision := rfl
  precOffset h := absurd rfl h
  dotOffset := rfl
  leadingFlag := rfl
  digitText := rfl
  doRound _ := rfl

theorem significant_concat (m : List Char) (c : Char) :
    significant (m ++ [c]) =
      if significant m = [] then if c = '0' then [] else [c] else significant m ++ [c] := by
  rw [significant_append]
  congr 1
  by_cases hc : c = '0'
  · rw [if_pos hc, hc]
    rfl
  · rw [if_neg hc]
    exact List.dropWhile_cons_of_neg (by rwa [beq_iff_eq])

/-- A zero before the first significant digit. -/
theorem Scanned.zero (h : Scanned start m dot s) (hsig : significant m = []) :
    Scanned start (m ++ ['0']) dot { s with precision := 0 } := by
  have hnil : significant (m ++ ['0']) = [] := by
    rw [significant_concat, if_pos hsig, if_pos rfl]
  have hne : m ++ ['0'] ≠ [] := List.append_ne_nil_of_right_ne_nil _ (List.cons_ne_nil _ _)
  refine ⟨?_, fun hne => absurd hnil hne, h.dotOffset, ?_, ?_, fun _ => h.doRound ?_⟩
  · rw [if_neg hne, hnil]
    rfl
  · rw [h.leadingFlag, hsig, hnil]
  · rw [h.digitText, hsig, hnil]
  · rw [hsig]
    exact Nat.zero_le _

/-- The first significant digit. -/
theorem Scanned.record_first (h : Scanned start m dot s) (hdot : ∀ k ∈ dot, k ≤ m.length)
    (hsig : significant m = []) (hc : c ≠ '0') :
    ∃ s', ctCmRecordDigit { s with leadingFlag := false } (scanOffset start m dot) c = .ok s' ∧
      Scanned start (m ++ [c]) dot s' := by
  have hfirst : significant (m ++ [c]) = [c] := by
    rw [significant_concat, if_pos hsig, if_neg hc]
  have hone : (if 0 ≤ s.precision then s.precision + 1 else 1) = 1 := by
    rw [h.precision, hsig]
    split <;> rfl
  have hlength : (m ++ [c]).length - [c].length = m.length := by
    rw [List.length_append, Nat.add_sub_cancel]
  refine ⟨{ s with
    precision := 1
    precOffset := scanOffset start m dot
    leadingFlag := false
    digitText := [c] }, ?_, ?_⟩
  · unfold ctCmRecordDigit
    dsimp only
    rw [hone, h.digitText, hsig, if_neg (fun h => absurd h.2 (by decide)),
      if_neg (fun h => absurd h.2 (by decide))]
    rfl
  · refine ⟨?_, fun _ => ?_, h.dotOffset, ?_, ?_, fun _ => h.doRound ?_⟩
    · rw [if_neg (List.append_ne_nil_of_right_ne_nil _ (List.cons_ne_nil _ _)), hfirst]
      rfl
    · dsimp only
      rw [hfirst, hlength, scanOffset, Nat.cast_inj]
      cases dot with
      | none => rfl
      | some k => rw [dotBefore, if_neg (hdot k rfl).not_gt]; rfl
    · rw [hfirst]
      rfl
    · rw [hfirst]
      rfl
    · rw [hsig]
      exact Nat.zero_le _

/-- A digit behind the first significant one: recorded, rounded with, or left out. -/
theorem Scanned.record_next (h : Scanned start m dot s) (hsig : significant m ≠ []) (pos : Nat) :
    ∃ s', ctCmRecordDigit { s with leadingFlag := false } pos c = .ok s' ∧
      Scanned start (m ++ [c]) dot s' := by
  have hnext : significant (m ++ [c]) = significant m ++ [c] := by
    rw [significant_concat, if_neg hsig]
  have hm : m ≠ [] := by
    rintro rfl
    exact hsig rfl
  have hprecision : s.precision = (significant m).length := by rw [h.precision, if_neg hm]
  have hpos : 0 < (significant m).length := List.length_pos_of_ne_nil hsig
  have hlength : (significant (m ++ [c])).length = (significant m).length + 1 := by
    rw [hnext, List.length_append, List.length_singleton]
  have hzeros : (m ++ [c]).length - (significant (m ++ [c])).length =
      m.length - (significant m).length := by
    rw [hlength, List.length_append, List.length_singleton]
    omega
  have hnil : m ++ [c] ≠ [] := List.append_ne_nil_of_left_ne_nil hm _
  have hoffset := h.precOffset hsig
  have hflag : false = decide (significant (m ++ [c]) = []) := by
    rw [hnext]
    exact (decide_eq_false (List.append_ne_nil_of_left_ne_nil hsig _)).symm
  have hcount : (if 0 ≤ s.precision then s.precision + 1 else 1) =
      ((significant (m ++ [c])).length : Int) := by
    rw [hprecision, if_pos (Int.natCast_nonneg _), hlength]
    rfl
  unfold ctCmRecordDigit
  dsimp only
  rw [hcount]
  by_cases hroom : (significant m).length < ctMaxNumPartBuff
  · have htake : (significant m).take ctMaxNumPartBuff = significant m :=
      List.take_of_length_le hroom.le
    have happend : appendDigit s.digitText c = .ok (significant m ++ [c]) := by
      rw [h.digitText, htake, appendDigit, if_pos hroom]
    rw [if_neg (fun hfull => by omega), if_neg (fun hfull => by omega), happend]
    refine ⟨_, rfl, ?_, fun _ => ?_, h.dotOffset, hflag, ?_, fun _ => h.doRound hroom.le⟩
    · rw [if_neg hnil]
    · dsimp only
      rw [if_neg (by omega), hoffset, hzeros]
    · rw [hnext, List.take_of_length_le]
      rw [List.length_append, List.length_singleton]
      exact hroom
  · have hdigits : s.digitText = (significant (m ++ [c])).take ctMaxNumPartBuff := by
      rw [h.digitText, hnext, List.take_append_of_le_length (not_lt.mp hroom)]
    have hoffset' : significant (m ++ [c]) ≠ [] → s.precOffset =
        (start + ((m ++ [c]).length - (significant (m ++ [c])).length) +
          dotBefore ((m ++ [c]).length - (significant (m ++ [c])).length) dot : Nat) := by
      intro _
      rw [hoffset, hzeros]
    split
    · exact ⟨_, rfl, (if_neg hnil).symm, hoffset', h.dotOffset, hflag, hdigits,
        fun hle => by omega⟩
    · rw [if_pos (by omega)]
      exact ⟨_, rfl, (if_neg hnil).symm, hoffset', h.dotOffset, hflag, hdigits,
        fun hle => by omega⟩

/-- One digit is read. -/
theorem splitLoop_digit (h : Scanned start m dot s) (hdot : ∀ k ∈ dot, k ≤ m.length)
    (hc : c.isDigit = true) (exclFlag : Nat) (rest : List Char) :
    ∃ s', splitLoop exclFlag (c :: rest) (scanOffset start m dot) s =
        splitLoop exclFlag rest (scanOffset start (m ++ [c]) dot) s' ∧
      Scanned start (m ++ [c]) dot s' := by
  have hoffset : scanOffset start (m ++ [c]) dot = scanOffset start m dot + 1 := by
    rw [scanOffset, scanOffset, List.length_append, List.length_singleton]
    omega
  have hdigit : c ≠ '.' := by
    rintro rfl
    exact absurd hc (by decide)
  have hflag : s.leadingFlag = true ↔ significant m = [] := by
    rw [h.leadingFlag, decide_eq_true_iff]
  rw [hoffset, splitLoop]
  by_cases hzero : significant m = [] ∧ c = '0'
  · obtain ⟨hsig, rfl⟩ := hzero
    rw [if_pos ⟨hflag.mpr hsig, rfl⟩]
    exact ⟨_, rfl, h.zero hsig⟩
  · obtain ⟨s', hrecord, hs'⟩ : ∃ s', ctCmRecordDigit { s with leadingFlag := false }
        (scanOffset start m dot) c = .ok s' ∧ Scanned start (m ++ [c]) dot s' := by
      by_cases hsig : significant m = []
      · exact h.record_first hdot hsig fun hc => hzero ⟨hsig, hc⟩
      · exact h.record_next hsig _
    rw [if_neg fun h => hzero ⟨hflag.mp h.1, h.2⟩, if_pos hdigit]
    dsimp only
    rw [if_pos hc]
    rw [hrecord]
    exact ⟨s', rfl, hs'⟩

/-- Digits are read. -/
theorem splitLoop_digits {digits : List Char} (hdigits : AllDigits digits)
    (h : Scanned start m dot s) (hdot : ∀ k ∈ dot, k ≤ m.length) (exclFlag : Nat)
    (rest : List Char) :
    ∃ s', splitLoop exclFlag (digits ++ rest) (scanOffset start m dot) s =
        splitLoop exclFlag rest (scanOffset start (m ++ digits) dot) s' ∧
      Scanned start (m ++ digits) dot s' := by
  induction digits generalizing m s with
  | nil => exact ⟨s, by rw [List.nil_append, List.append_nil], by rwa [List.append_nil]⟩
  | cons c digits ih =>
    obtain ⟨hc, hdigits⟩ := digits_cons.mp hdigits
    obtain ⟨s₁, hrun₁, h₁⟩ := splitLoop_digit h hdot hc exclFlag (digits ++ rest)
    have hdot₁ : ∀ k ∈ dot, k ≤ (m ++ [c]).length := fun k hk =>
      (hdot k hk).trans (List.length_append ▸ Nat.le_add_right _ _)
    obtain ⟨s₂, hrun₂, h₂⟩ := ih hdigits h₁ hdot₁
    rw [List.append_assoc, List.singleton_append] at hrun₂ h₂
    exact ⟨s₂, by rw [List.cons_append, hrun₁, hrun₂], h₂⟩

theorem splitLoop_point (exclFlag : Nat) (rest : List Char) (i : Nat) (s : Scan) :
    splitLoop exclFlag ('.' :: rest) i s =
      if exclFlag &&& nfDot ≠ 0 then NumErrno.unallowedDot.throw
      else if 0 ≤ s.dotOffset then NumErrno.multipleDots.throw
      else splitLoop exclFlag rest (i + 1) { s with dotOffset := i } := by
  have hdigit : '.'.isDigit = false := by decide
  simp [splitLoop, hdigit]

/-- The dot is read. -/
theorem splitLoop_dot (h : Scanned start m none s) {exclFlag : Nat} (hexcl : exclFlag &&& nfDot = 0)
    (rest : List Char) :
    ∃ s', splitLoop exclFlag ('.' :: rest) (scanOffset start m none) s =
        splitLoop exclFlag rest (scanOffset start m (some m.length)) s' ∧
      Scanned start m (some m.length) s' := by
  have hnone : ¬(0 : Int) ≤ s.dotOffset := by
    rw [h.dotOffset, Option.elim_none]
    decide
  refine ⟨{ s with dotOffset := (start + m.length : Nat) }, ?_, ?_⟩
  · rw [splitLoop_point, if_neg (not_not.mpr hexcl), if_neg hnone]
    rfl
  · refine ⟨h.precision, fun hsig => ?_, rfl, h.leadingFlag, h.digitText, h.doRound⟩
    have hpos : 0 < (significant m).length := List.length_pos_of_ne_nil hsig
    have hle : (significant m).length ≤ m.length := (significant_suffix m).length_le
    dsimp only
    rw [h.precOffset hsig, dotBefore, dotBefore, if_pos (by omega)]

/-- The digits of a text and the dot between them are read. -/
theorem splitLoop_mantissa {whole : List Char} {frac : Option (List Char)}
    (hwhole : AllDigits whole) (hfrac : AllDigits (frac.getD [])) {exclFlag : Nat}
    (hexcl : exclFlag &&& nfDot = 0) (start : Nat) (rest : List Char) :
    ∃ s i, splitLoop exclFlag (whole ++ (fractionText frac ++ rest)) start
        ⟨-1, -1, -1, true, [], false⟩ = splitLoop exclFlag rest i s ∧
      Scanned start (whole ++ frac.getD []) (frac.map fun _ => whole.length) s := by
  have hstart : scanOffset start [] none = start := rfl
  obtain ⟨s₁, hrun₁, h₁⟩ := splitLoop_digits hwhole (scanned_start start)
    (fun k hk => nomatch hk) exclFlag (fractionText frac ++ rest)
  rw [hstart] at hrun₁
  rw [hrun₁]
  cases frac with
  | none => exact ⟨s₁, _, rfl, by rwa [Option.getD_none, List.append_nil]⟩
  | some frac =>
    obtain ⟨s₂, hrun₂, h₂⟩ := splitLoop_dot h₁ hexcl (frac ++ rest)
    obtain ⟨s₃, hrun₃, h₃⟩ := splitLoop_digits hfrac h₂
      (fun k hk => by rw [← Option.some.inj hk]) exclFlag rest
    exact ⟨s₃, _, by rw [fractionText, List.cons_append, hrun₂]; exact hrun₃, h₃⟩

/-- The exponent is read. -/
theorem splitLoop_exponent {exclFlag : Nat} (hexcl : exclFlag &&& nfExpn = 0)
    (hc : c = 'e' ∨ c = 'E') (hprecision : ¬s.precision < 0) (rest : List Char) (i : Nat) :
    splitLoop exclFlag (c :: rest) i s = do
      let sciExpn ← ctCmParseNumExpn rest
      return ({ s with leadingFlag := false }, sciExpn) := by
  have hother : c ≠ '0' ∧ c ≠ '.' ∧ ¬c.isDigit = true := by
    rcases hc with rfl | rfl <;> decide
  rw [splitLoop, if_neg fun h => hother.1 h.2, if_pos hother.2.1]
  dsimp only
  rw [if_neg hother.2.2, if_neg hother.2.1, if_neg (not_not.mpr hc), if_neg hprecision,
    if_neg (not_not.mpr hexcl)]

/-- Where the digits stop, only an exponent may follow. -/
theorem splitLoop_refuses (h : Scanned start m dot s) {rest : List Char}
    {frac : Option (List Char)} (hdot : dot = none → frac = none) (hstop : Stops frac (c :: rest))
    (hc : ¬((c = 'e' ∨ c = 'E') ∧ m ≠ [])) (exclFlag i : Nat) :
    Refuses (splitLoop exclFlag (c :: rest) i s) := by
  obtain ⟨hdigit, hsecond⟩ := hstop
  by_cases hpoint : c = '.'
  · subst hpoint
    have hbefore : 0 ≤ s.dotOffset := by
      rw [h.dotOffset]
      cases dot with
      | none => exact absurd rfl (hsecond (hdot rfl))
      | some k => exact Int.natCast_nonneg _
    rw [splitLoop_point, if_pos hbefore]
    split
    · exact refuses_throw _
    · exact refuses_throw _
  · have hzero : c ≠ '0' := by
      rintro rfl
      exact absurd hdigit (by decide)
    rw [splitLoop, if_neg fun h => hzero h.2, if_pos hpoint]
    dsimp only
    rw [hdigit, if_neg Bool.false_ne_true, if_neg hpoint]
    by_cases hletter : c = 'e' ∨ c = 'E'
    · have hm : m = [] := by
        by_contra hm
        exact hc ⟨hletter, hm⟩
      have hprecision : s.precision < 0 := by
        rw [h.precision, if_pos hm]
        decide
      rw [if_neg (not_not.mpr hletter), if_pos hprecision]
      exact refuses_throw _
    · rw [if_pos hletter]
      exact refuses_throw _

/-- The offsets give the place of the first significant digit. -/
theorem Scanned.expn_eq {whole : List Char} {frac : Option (List Char)}
    (h : Scanned start (whole ++ frac.getD []) (frac.map fun _ => whole.length) s)
    (hsig : significant (whole ++ frac.getD []) ≠ []) :
    ctCmCalcSignificandExpn s.dotOffset s.precOffset s.precision =
      whole.length - 1 - (((whole ++ frac.getD []).length : Int) -
        (significant (whole ++ frac.getD [])).length) := by
  have hpos : 0 < (significant (whole ++ frac.getD [])).length := List.length_pos_of_ne_nil hsig
  have hle := (significant_suffix (whole ++ frac.getD [])).length_le
  have hm : whole ++ frac.getD [] ≠ [] := fun hm => hsig (by rw [hm]; rfl)
  have hprecision := h.precision
  rw [if_neg hm] at hprecision
  have hprec := h.precOffset hsig
  have hdot := h.dotOffset
  unfold ctCmCalcSignificandExpn
  cases frac with
  | none =>
    rw [Option.map_none, Option.elim_none] at hdot
    rw [Option.getD_none, List.append_nil] at hprecision hpos hle ⊢
    rw [hdot, if_neg (by decide), hprecision]
    omega
  | some frac =>
    rw [Option.map_some, Option.elim_some] at hdot
    rw [Option.map_some, dotBefore] at hprec
    rw [hdot, if_pos (Int.natCast_nonneg _), hprec]
    dsimp only
    split at hprec <;> split <;> split <;> omega

end

/-! ## The split -/

/-- The text between the blanks. -/
def trimmed (text : List Char) : List Char := (ctCmLtrimText text).rdropWhile isBlank

theorem ctCmRtrimText_eq {text : List Char} (h : (ctCmLtrimText text).length < 2 ^ 31) :
    ctCmRtrimText (ctCmLtrimText text) = .ok (trimmed text) := by
  rw [ctCmRtrimText, if_pos h, trimmed]
  split
  · rename_i hnil
    have hall := List.rdropWhile_eq_nil_iff.mp hnil
    have hhead := List.head?_dropWhile_not isBlank text
    rw [hnil]
    rw [ctCmLtrimText] at hall ⊢
    cases hltrim : text.dropWhile isBlank with
    | nil => rfl
    | cons c rest =>
      rw [hltrim] at hall hhead
      have hblank := hall c List.mem_cons_self
      rw [List.head?_cons] at hhead
      exact absurd hblank (Bool.eq_false_iff.mp hhead)
  · rfl

theorem length_trimmed_le (text : List Char) : (trimmed text).length ≤ text.length :=
  (List.rdropWhile_prefix _ _).length_le.trans (List.dropWhile_suffix _).length_le

section

variable {text sign body : List Char}

theorem ctCmSplitNumText_eq (htrim : ctCmRtrimText (ctCmLtrimText text) = .ok (sign ++ body))
    (hshort : (sign ++ body).length < 2 ^ 20) (hsign : IsSign sign)
    (hunsigned : sign = [] → Unsigned body) (hbody : body ≠ []) :
    ctCmSplitNumText 0 text = (do
      let (s, sciExpn) ← splitLoop 0 body sign.length ⟨-1, -1, -1, true, [], false⟩
      splitEnd text.length (decide (sign = ['-'])) s sciExpn) := by
  obtain ⟨hminus, hplus⟩ := head?_sign hsign hunsigned
  have hpos : 0 < body.length := List.length_pos_of_ne_nil hbody
  have hlength : (sign ++ body).length = sign.length + body.length := List.length_append
  have hoffset : (if decide (sign = ['-']) = true ∨ sign = ['+'] then 1 else 0) = sign.length := by
    rcases hsign with rfl | rfl | rfl <;> rfl
  unfold ctCmSplitNumText
  rw [htrim, result_bind_ok, if_neg (by omega)]
  simp only [hminus, hplus]
  rw [hoffset, if_neg (fun h => h.2 rfl), if_neg (by omega), List.drop_left]

theorem ctCmSplitNumText_sign (htrim : ctCmRtrimText (ctCmLtrimText text) = .ok sign)
    (hsign : IsSign sign) : Refuses (ctCmSplitNumText 0 text) := by
  unfold ctCmSplitNumText
  rw [htrim, result_bind_ok]
  rcases hsign with rfl | rfl | rfl
  · exact ⟨_, rfl⟩
  · exact ⟨_, rfl⟩
  · exact ⟨_, rfl⟩

theorem ctCmSplitNumText_long {t : List Char} (htrim : ctCmRtrimText (ctCmLtrimText text) = .ok t)
    (hlong : 2 ^ 20 ≤ t.length) : Refuses (ctCmSplitNumText 0 text) := by
  unfold ctCmSplitNumText
  rw [htrim, result_bind_ok, if_pos (.inr hlong)]
  exact refuses_throw _

end

/-- A short text that is no numeral is refused. -/
theorem ctCmSplitNumText_refuses {text : List Char}
    (htrim : ctCmRtrimText (ctCmLtrimText text) = .ok (trimmed text))
    (hshort : (trimmed text).length < 2 ^ 20) (hnot : ¬∃ num : Numeral, num.text = trimmed text) :
    Refuses (ctCmSplitNumText 0 text) := by
  obtain ⟨sign, body, hsplit, hsign, hunsigned⟩ := exists_sign (trimmed text)
  rw [hsplit] at htrim hshort
  by_cases hbody : body = []
  · rw [hbody, List.append_nil] at htrim
    exact ctCmSplitNumText_sign htrim hsign
  rw [ctCmSplitNumText_eq htrim hshort hsign hunsigned hbody]
  obtain ⟨whole, frac, rest, hmantissa, hwhole, hfrac, hstop⟩ := exists_mantissa body
  obtain ⟨s, i, hrun, hs⟩ := splitLoop_mantissa hwhole hfrac
    (show 0 &&& nfDot = 0 from rfl) sign.length rest
  rw [hmantissa, hrun]
  -- the digits and the exponent that are found make a numeral
  have hnumeral : whole ++ frac.getD [] ≠ [] → ∀ expn : Option Exponent,
      rest ≠ expn.elim [] Exponent.text := by
    intro hm expn hrest
    refine hnot ⟨⟨sign, whole, frac, expn, hsign, hwhole, hfrac, hm⟩, ?_⟩
    rw [hsplit, hmantissa, hrest]
    rfl
  cases rest with
  | nil =>
    have hm : whole ++ frac.getD [] = [] := by
      by_contra hm
      exact hnumeral hm none rfl
    have hprecision : s.precision < 0 := by
      rw [hs.precision, if_pos hm]
      decide
    rw [splitLoop, result_bind_ok]
    unfold splitEnd
    dsimp only
    rw [if_pos hprecision]
    exact refuses_throw _
  | cons c rest =>
    have hdot : (frac.map fun _ => whole.length) = none → frac = none := Option.map_eq_none_iff.mp
    by_cases hc : (c = 'e' ∨ c = 'E') ∧ whole ++ frac.getD [] ≠ []
    · obtain ⟨hletter, hm⟩ := hc
      have hprecision : ¬s.precision < 0 := by
        rw [hs.precision, if_neg hm]
        exact (Int.natCast_nonneg _).not_gt
      rw [splitLoop_exponent rfl hletter hprecision]
      rcases ctCmParseNumExpn_cases rest with hrefuses | ⟨esign, digits, rfl, hesign, hall, hne⟩
      · exact (hrefuses.bind _).bind _
      · exact absurd rfl (hnumeral hm (some ⟨c, esign, digits, hletter, hesign, hall, hne⟩))
    · exact (splitLoop_refuses hs hdot hstop hc 0 i).bind _

/-- The same number, or both of them outside of the exponents on one side. -/
def Agrees (a b : Int) : Prop :=
  a = b ∨ maxNumericExpn < a ∧ maxNumericExpn < b ∨ a < minNumericExpn ∧ b < minNumericExpn

/-- Adding the place of the first digit does not bring a saturated exponent back. -/
theorem agrees_of_saturates {n tmpExp place : Int}
    (h : Saturates n tmpExp ∨ Saturates (-n) (-tmpExp)) (hplace : place.natAbs ≤ 2 ^ 20) :
    Agrees (tmpExp + place) (n + place) := by
  unfold Saturates cmMaxExpn at h
  unfold Agrees maxNumericExpn minNumericExpn
  omega

section

variable (num : Numeral) {text : List Char}

/-- The body of a numeral is scanned; the exponent is read or refused. -/
theorem splitLoop_numeral (start textLen : Nat) (isNeg : Bool) :
    (∃ s sciExpn, Scanned start num.mantissa (num.frac.map fun _ => num.whole.length) s ∧
        (Saturates num.exponent sciExpn ∨ Saturates (-num.exponent) (-sciExpn)) ∧
        (do
          let (s, sciExpn) ← splitLoop 0 num.body start ⟨-1, -1, -1, true, [], false⟩
          splitEnd textLen isNeg s sciExpn) = splitEnd textLen isNeg s sciExpn) ∨
      Refuses (splitLoop 0 num.body start ⟨-1, -1, -1, true, [], false⟩) ∧
        cmMaxExpn < num.exponent := by
  obtain ⟨s, i, hrun, hs⟩ := splitLoop_mantissa num.whole_ok num.frac_ok
    (show 0 &&& nfDot = 0 from rfl) start (num.expn.elim [] Exponent.text)
  have hprecision : ¬s.precision < 0 := by
    rw [hs.precision, if_neg num.digits_ne]
    exact (Int.natCast_nonneg _).not_gt
  rw [Numeral.body, hrun]
  unfold Numeral.exponent
  cases num.expn with
  | none => exact .inl ⟨s, 0, hs, .inl (.inl rfl), rfl⟩
  | some e =>
    rw [Option.elim_some, Option.elim_some, Exponent.text,
      splitLoop_exponent rfl e.letter_ok hprecision]
    rcases ctCmParseNumExpn_exponent e with ⟨n, hn, hsat⟩ | ⟨hrefuses, hlarge⟩
    · refine .inl ⟨s, n, hs, hsat, ?_⟩
      rw [hn]
      rfl
    · exact .inr ⟨hrefuses.bind _, hlarge⟩

/-- The end of the split gives the significant digits and their place. -/
theorem splitEnd_numeral {start textLen : Nat} {s : Scan}
    (hs : Scanned start num.mantissa (num.frac.map fun _ => num.whole.length) s)
    (htext : num.text.length ≤ textLen) (isNeg : Bool) (sciExpn : Int) :
    (num.significant = [] ∧ ∃ doRound,
        splitEnd textLen isNeg s sciExpn = .ok ⟨isNeg, doRound, sciExpn, ['0']⟩) ∨
      (num.significant ≠ [] ∧ ctMaxNumPartBuff ≤ num.significant.length ∧
        Refuses (splitEnd textLen isNeg s sciExpn)) ∨
      (num.significant ≠ [] ∧ num.significant.length < ctMaxNumPartBuff ∧
        splitEnd textLen isNeg s sciExpn =
          .ok ⟨isNeg, false, sciExpn + (num.sci - num.exponent), num.significant⟩) := by
  have hprecision : s.precision = num.significant.length := by
    rw [hs.precision]
    exact if_neg num.digits_ne
  unfold splitEnd
  rw [if_neg (hprecision ▸ (Int.natCast_nonneg _).not_gt)]
  by_cases hsig : num.significant = []
  · refine .inl ⟨hsig, s.doRound, if_pos ?_⟩
    rw [hprecision, hsig]
    rfl
  · right
    have hpos : 0 < num.significant.length := List.length_pos_of_ne_nil hsig
    have hplace := Scanned.expn_eq hs hsig
    have hsci : ctCmCalcSignificandExpn s.dotOffset s.precOffset s.precision =
        num.sci - num.exponent := by
      rw [hplace]
      unfold Numeral.sci
      rw [add_sub_cancel_right]
      rfl
    have hdigits : s.digitText = num.significant.take ctMaxNumPartBuff := hs.digitText
    have hlength : s.digitText.length = min ctMaxNumPartBuff num.significant.length := by
      rw [hdigits, List.length_take]
    have hle : num.significant.length ≤ textLen :=
      num.length_significant_le.trans (num.length_mantissa_le.trans htext)
    rw [if_neg (by omega)]
    dsimp only
    rw [hsci]
    by_cases hroom : num.significant.length < ctMaxNumPartBuff
    · refine .inr ⟨hsig, hroom, ?_⟩
      rw [if_neg (by omega), hdigits, List.take_of_length_le hroom.le, hs.doRound hroom.le]
    · refine .inl ⟨hsig, not_lt.mp hroom, ?_⟩
      rw [if_pos (by omega)]
      exact refuses_throw _

/-- What a numeral is split into. -/
structure SplitsInto (np : NumPart) : Prop where
  isNeg : np.isNeg = decide (num.sign = ['-'])
  doRound : np.doRound = false
  digitText : np.digitText = num.significant
  sciExpn : Agrees np.sciExpn num.sci

/-- A short numeral is zero, has too many digits or too large an exponent, or is split. -/
theorem ctCmSplitNumText_numeral
    (htrim : ctCmRtrimText (ctCmLtrimText text) = .ok num.text)
    (hshort : num.text.length < 2 ^ 20) (htext : num.text.length ≤ text.length) :
    (num.significant = [] ∧ ((∃ np, ctCmSplitNumText 0 text = .ok np ∧ np.digitText = ['0']) ∨
        Refuses (ctCmSplitNumText 0 text) ∧ maxNumericExpn < num.exponent)) ∨
      (num.significant ≠ [] ∧ Refuses (ctCmSplitNumText 0 text) ∧
        (ctMaxNumPartBuff ≤ num.significant.length ∨ maxNumericExpn < num.sci)) ∨
      (num.significant ≠ [] ∧ num.significant.length < ctMaxNumPartBuff ∧
        ∃ np, ctCmSplitNumText 0 text = .ok np ∧ SplitsInto num np) := by
  obtain ⟨hbody, hunsigned⟩ := num.unsigned_body
  have hplace : (num.sci - num.exponent).natAbs ≤ 2 ^ 20 := by
    have hmantissa := num.length_mantissa
    have hsignificant := num.length_significant_le
    have hle := num.length_mantissa_le
    unfold Numeral.sci
    omega
  rw [ctCmSplitNumText_eq htrim hshort num.sign_ok (fun _ => hunsigned) hbody]
  rcases splitLoop_numeral num num.sign.length text.length (decide (num.sign = ['-'])) with
    ⟨s, sciExpn, hs, hsat, hrun⟩ | ⟨hrefuses, hlarge⟩
  · rw [hrun]
    have hagrees := agrees_of_saturates hsat hplace
    rw [add_sub_cancel] at hagrees
    rcases splitEnd_numeral num hs htext (decide (num.sign = ['-'])) sciExpn with
      ⟨hsig, doRound, hend⟩ | ⟨hsig, hfull, hend⟩ | ⟨hsig, hroom, hend⟩
    · exact .inl ⟨hsig, .inl ⟨_, hend, rfl⟩⟩
    · exact .inr (.inl ⟨hsig, hend, .inl hfull⟩)
    · exact .inr (.inr ⟨hsig, hroom, _, hend, rfl, rfl, rfl, hagrees⟩)
  · have hexponent : maxNumericExpn < num.exponent ∧ maxNumericExpn < num.sci := by
      unfold cmMaxExpn at hlarge
      unfold maxNumericExpn
      omega
    by_cases hsig : num.significant = []
    · exact .inl ⟨hsig, .inr ⟨hrefuses.bind _, hexponent.1⟩⟩
    · exact .inr (.inl ⟨hsig, hrefuses.bind _, .inr hexponent.2⟩)

end

end CantianConnector.Convert
