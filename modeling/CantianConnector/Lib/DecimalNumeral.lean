import CantianConnector.Lib.DigitText
import Mathlib.Algebra.Field.Rat
import Mathlib.Algebra.GroupWithZero.Basic
import Mathlib.Algebra.Order.Ring.Rat
import Mathlib.Tactic.Ring

/-!
# Decimal numerals

The texts `[sign] digits with at most one dot [E [sign] digits]`, with a digit before the exponent,
and the rational numbers they denote. A numeral that is not zero is its significant digits, those
from the first one that is not zero on, and the power of ten that this first digit has
(`Numeral.value_eq_significant`). Every text splits into digits, a dot with digits, and a rest where
these stop (`exists_mantissa`).
-/

namespace DecimalNumeral

open DigitText

/-! ## Zeros in front -/

/-- The text without the zeros in front. -/
def significant (text : List Char) : List Char := text.dropWhile (· == '0')

@[simp] theorem significant_nil : significant [] = [] := rfl

theorem significant_append (a b : List Char) :
    significant (a ++ b) =
      if significant a = [] then significant b else significant a ++ b := by
  unfold significant
  rw [List.dropWhile_append]
  split <;> split <;> simp_all

theorem significant_suffix (text : List Char) : significant text <:+ text :=
  List.dropWhile_suffix _

theorem digits_significant {text : List Char} (h : AllDigits text) :
    AllDigits (significant text) :=
  fun c hc => h c ((significant_suffix text).subset hc)

/-- A text is zeros and its significant digits. -/
theorem exists_significant (text : List Char) :
    ∃ n, text = List.replicate n '0' ++ significant text := by
  induction text with
  | nil => exact ⟨0, rfl⟩
  | cons c text ih =>
    by_cases hc : c = '0'
    · obtain ⟨n, hn⟩ := ih
      refine ⟨n + 1, ?_⟩
      rw [hc, List.replicate_succ, List.cons_append, List.cons.injEq]
      exact ⟨rfl, hn⟩
    · refine ⟨0, ?_⟩
      rw [significant, List.dropWhile_cons_of_neg (by rwa [beq_iff_eq])]
      rfl

@[simp] theorem value_significant (text : List Char) : value (significant text) = value text := by
  obtain ⟨n, hn⟩ := exists_significant text
  conv_rhs => rw [hn]
  rw [value_append, value_replicate_zero, Nat.zero_mul, Nat.zero_add]

theorem head?_significant (text : List Char) : (significant text).head? ≠ some '0' := by
  intro hhead
  have hnot := List.head?_dropWhile_not (· == '0') text
  rw [significant] at hhead
  rw [hhead] at hnot
  exact absurd hnot (by decide)

theorem significant_of_head? {text : List Char} (h : text.head? ≠ some '0') :
    significant text = text := by
  cases text with
  | nil => rfl
  | cons c rest =>
    have hc : c ≠ '0' := fun hc => h (congrArg some hc)
    exact List.dropWhile_cons_of_neg (by rwa [beq_iff_eq])

theorem significant_zeros_append (n : Nat) {text : List Char} (h : text.head? ≠ some '0') :
    significant (List.replicate n '0' ++ text) = text := by
  have hzeros : significant (List.replicate n '0') = [] := by
    have hnil := List.dropWhile_eq_nil_iff (p := (· == '0')) (l := List.replicate n '0')
    exact hnil.mpr fun c hc => by rw [List.eq_of_mem_replicate hc]; rfl
  rw [significant_append, if_pos hzeros, significant_of_head? h]

theorem value_eq_zero_of_significant {text : List Char} (h : significant text = []) :
    value text = 0 := by
  rw [← value_significant, h, value_nil]

/-! ## Numerals -/

def IsSign (text : List Char) : Prop := text = [] ∨ text = ['+'] ∨ text = ['-']

/-- The number of a digit text behind a sign. -/
def signed (sign : List Char) (n : Nat) : Int := if sign = ['-'] then -n else n

/-- `E [sign] digits`. -/
structure Exponent where
  letter : Char
  sign : List Char
  digits : List Char
  letter_ok : letter = 'e' ∨ letter = 'E'
  sign_ok : IsSign sign
  digits_ok : AllDigits digits
  digits_ne : digits ≠ []

def Exponent.text (e : Exponent) : List Char := e.letter :: (e.sign ++ e.digits)

def Exponent.value (e : Exponent) : Int := signed e.sign (DigitText.value e.digits)

/-- The digits behind the dot, if there is one. -/
def fractionText : Option (List Char) → List Char
  | none => []
  | some frac => '.' :: frac

/-- A decimal numeral. -/
structure Numeral where
  sign : List Char
  whole : List Char
  frac : Option (List Char)
  expn : Option Exponent
  sign_ok : IsSign sign
  whole_ok : AllDigits whole
  frac_ok : AllDigits (frac.getD [])
  digits_ne : whole ++ frac.getD [] ≠ []

namespace Numeral

variable (num : Numeral)

/-- What follows the sign. -/
def body : List Char :=
  num.whole ++ (fractionText num.frac ++ num.expn.elim [] Exponent.text)

def text : List Char := num.sign ++ num.body

def mantissa : List Char := num.whole ++ num.frac.getD []

def exponent : Int := num.expn.elim 0 Exponent.value

/-- The number that the text denotes. -/
def value : ℚ :=
  (if num.sign = ['-'] then -1 else 1) * DigitText.value num.mantissa *
    10 ^ (num.exponent - (num.frac.getD []).length)

/-- The significant digits. -/
def significant : List Char := DecimalNumeral.significant num.mantissa

/-- The power of ten of the first significant digit. -/
def sci : Int :=
  num.whole.length - 1 - ((num.mantissa.length : Int) - num.significant.length) + num.exponent

theorem digits_mantissa : AllDigits num.mantissa := digits_append.mpr ⟨num.whole_ok, num.frac_ok⟩

theorem digits_significant : AllDigits num.significant :=
  DecimalNumeral.digits_significant num.digits_mantissa

theorem length_significant_le : num.significant.length ≤ num.mantissa.length :=
  (significant_suffix _).length_le

theorem length_mantissa : num.mantissa.length = num.whole.length + (num.frac.getD []).length :=
  List.length_append

theorem length_mantissa_le : num.mantissa.length ≤ num.text.length := by
  have hfrac : (num.frac.getD []).length ≤ (fractionText num.frac).length := by
    cases num.frac with
    | none => exact Nat.le_refl _
    | some frac => exact Nat.le_succ _
  rw [length_mantissa, text, body]
  simp only [List.length_append]
  omega

/-- A numeral is its significant digits at the place of the first one. -/
theorem value_eq_significant :
    num.value = (if num.sign = ['-'] then -1 else 1) * DigitText.value num.significant *
      10 ^ (num.sci + 1 - num.significant.length) := by
  have hpower : num.sci + 1 - num.significant.length =
      num.exponent - (num.frac.getD []).length := by
    have hlength := num.length_mantissa
    unfold sci
    omega
  rw [value, hpower, significant, value_significant]

theorem value_of_zero (h : num.significant = []) : num.value = 0 := by
  have hzero : DigitText.value num.mantissa = 0 := value_eq_zero_of_significant h
  rw [value, hzero, Nat.cast_zero, mul_zero, zero_mul]

end Numeral

/-! ## Splitting a text -/

/-- What follows a sign that is not written. -/
def Unsigned (text : List Char) : Prop := ∀ c ∈ text.head?, c ≠ '-' ∧ c ≠ '+'

theorem unsigned_digits {text : List Char} (h : AllDigits text) : Unsigned text := by
  intro c hc
  have hdigit := h c (List.mem_of_mem_head? hc)
  constructor <;> · rintro rfl; exact absurd hdigit (by decide)

theorem exists_sign (text : List Char) :
    ∃ sign rest, text = sign ++ rest ∧ IsSign sign ∧ (sign = [] → Unsigned rest) := by
  cases text with
  | nil => exact ⟨[], [], rfl, .inl rfl, fun _ c hc => nomatch hc⟩
  | cons c text =>
    by_cases hminus : c = '-'
    · exact ⟨['-'], text, by rw [hminus]; rfl, .inr (.inr rfl), fun h => nomatch h⟩
    · by_cases hplus : c = '+'
      · exact ⟨['+'], text, by rw [hplus]; rfl, .inr (.inl rfl), fun h => nomatch h⟩
      · refine ⟨[], c :: text, rfl, .inl rfl, fun _ d hd => ?_⟩
        obtain rfl := Option.some.inj hd
        exact ⟨hminus, hplus⟩

theorem Numeral.unsigned_body (num : Numeral) : num.body ≠ [] ∧ Unsigned num.body := by
  have hmantissa := num.digits_ne
  unfold Numeral.body
  cases hwhole : num.whole with
  | cons c whole =>
    refine ⟨List.cons_ne_nil _ _, fun d hd => ?_⟩
    obtain rfl := Option.some.inj hd
    exact unsigned_digits num.whole_ok c (by rw [hwhole]; rfl)
  | nil =>
    cases hfrac : num.frac with
    | none =>
      rw [hwhole, hfrac] at hmantissa
      exact absurd rfl hmantissa
    | some frac =>
      refine ⟨List.cons_ne_nil _ _, fun d hd => ?_⟩
      obtain rfl := Option.some.inj hd
      decide

/-- The first character tells the sign. -/
theorem head?_sign {sign rest : List Char} (h : IsSign sign) (hrest : sign = [] → Unsigned rest) :
    ((sign ++ rest).head? = some '-' ↔ sign = ['-']) ∧
      ((sign ++ rest).head? = some '+' ↔ sign = ['+']) := by
  rcases h with rfl | rfl | rfl
  · have hunsigned := hrest rfl
    refine ⟨iff_of_false (fun hhead => ?_) (by decide), iff_of_false (fun hhead => ?_) (by decide)⟩
    · exact (hunsigned _ hhead).1 rfl
    · exact (hunsigned _ hhead).2 rfl
  · exact ⟨by simp, by simp⟩
  · exact ⟨by simp, by simp⟩

/-- A place where neither a digit nor a dot that is still allowed follows. -/
def Stops (frac : Option (List Char)) : List Char → Prop
  | [] => True
  | c :: _ => c.isDigit = false ∧ (frac = none → c ≠ '.')

theorem exists_digits (text : List Char) :
    ∃ digits rest, text = digits ++ rest ∧ AllDigits digits ∧
      ∀ c ∈ rest.head?, c.isDigit = false := by
  refine ⟨text.takeWhile Char.isDigit, text.dropWhile Char.isDigit,
    List.takeWhile_append_dropWhile.symm, ?_, ?_⟩
  · exact fun c hc => List.mem_takeWhile_imp hc
  · intro c hc
    have hnot := List.head?_dropWhile_not Char.isDigit text
    rw [Option.mem_def.mp hc] at hnot
    exact hnot

/-- Every text is digits, a dot with digits, and a rest. -/
theorem exists_mantissa (text : List Char) :
    ∃ whole frac rest, text = whole ++ (fractionText frac ++ rest) ∧ AllDigits whole ∧
      AllDigits (frac.getD []) ∧ Stops frac rest := by
  obtain ⟨whole, behind, htext, hwhole, hstop⟩ := exists_digits text
  cases behind with
  | nil => exact ⟨whole, none, [], htext, hwhole, digits_nil, trivial⟩
  | cons c behind =>
    by_cases hdot : c = '.'
    · obtain ⟨frac, rest, hbehind, hfrac, hstop⟩ := exists_digits behind
      refine ⟨whole, some frac, rest, ?_, hwhole, hfrac, ?_⟩
      · rw [htext, hdot, hbehind, fractionText, List.cons_append]
      · cases rest with
        | nil => trivial
        | cons d rest => exact ⟨hstop d rfl, fun h => nomatch h⟩
    · exact ⟨whole, none, c :: behind, htext, hwhole, digits_nil, hstop c rfl, fun _ => hdot⟩

end DecimalNumeral
