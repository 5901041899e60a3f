import Mathlib.Algebra.Group.Nat.Defs
import Mathlib.Data.List.DropRight
import Mathlib.Tactic.Ring

/-!
# Decimal texts

Texts of decimal digits and the numbers they denote. A text is determined by its length and its
number (`value_inj`), so that two ways to print a number are compared by these two. Without a zero
in front, it is the text of its number (`toDigits_value`); a part of it is the number divided by a
power of ten (`toDigits_take`). `dropZeros` removes the zeros at the end.
-/

namespace DigitText

/-- All characters are digits. -/
def AllDigits (text : List Char) : Prop := ∀ c ∈ text, c.isDigit = true

/-- The number that the digits denote. -/
def value (text : List Char) : Nat := Nat.ofDigitChars 10 text 0

theorem digits_nil : AllDigits [] := List.forall_mem_nil _

theorem digits_cons {c : Char} {text : List Char} :
    AllDigits (c :: text) ↔ c.isDigit = true ∧ AllDigits text := List.forall_mem_cons

theorem digits_append {a b : List Char} : AllDigits (a ++ b) ↔ AllDigits a ∧ AllDigits b :=
  List.forall_mem_append

theorem digits_replicate_zero (n : Nat) : AllDigits (List.replicate n '0') := by
  intro c hc
  rw [List.eq_of_mem_replicate hc]
  rfl

theorem digits_toDigits (n : Nat) : AllDigits (Nat.toDigits 10 n) := fun _ hc =>
  Nat.isDigit_of_mem_toDigits (by decide) (by decide) hc

/-! ## Numbers -/

@[simp] theorem value_nil : value [] = 0 := rfl

theorem value_append (a b : List Char) : value (a ++ b) = value a * 10 ^ b.length + value b := by
  unfold value
  rw [Nat.ofDigitChars_append, Nat.ofDigitChars_eq_ofDigitChars_zero, Nat.mul_comm]

theorem value_singleton (c : Char) : value [c] = c.toNat - 48 := by
  unfold value
  rw [Nat.ofDigitChars_cons, Nat.ofDigitChars_nil, Nat.mul_zero, Nat.zero_add]
  rfl

theorem value_cons (c : Char) (text : List Char) :
    value (c :: text) = (c.toNat - 48) * 10 ^ text.length + value text := by
  rw [← List.singleton_append, value_append, value_singleton]

@[simp] theorem value_replicate_zero (n : Nat) : value (List.replicate n '0') = 0 := by
  unfold value
  rw [Nat.ofDigitChars_replicate_zero, Nat.mul_zero]

@[simp] theorem value_toDigits (n : Nat) : value (Nat.toDigits 10 n) = n :=
  Nat.ofDigitChars_ten_toDigits

theorem digit_range {c : Char} (hc : c.isDigit = true) : 48 ≤ c.toNat ∧ c.toNat ≤ 57 :=
  Char.isDigit_iff_toNat.mp hc

theorem value_lt {text : List Char} (h : AllDigits text) : value text < 10 ^ text.length := by
  induction text with
  | nil => decide
  | cons c text ih =>
    obtain ⟨hc, htext⟩ := digits_cons.mp h
    have hrange := digit_range hc
    have hdigit : c.toNat - 48 ≤ 9 := by omega
    rw [value_cons, List.length_cons]
    calc (c.toNat - 48) * 10 ^ text.length + value text
        < (c.toNat - 48) * 10 ^ text.length + 10 ^ text.length :=
          Nat.add_lt_add_left (ih htext) _
      _ = (c.toNat - 48 + 1) * 10 ^ text.length := (Nat.succ_mul _ _).symm
      _ ≤ 10 * 10 ^ text.length := Nat.mul_le_mul_right _ (by omega)
      _ = 10 ^ (text.length + 1) := by ring

theorem digit_ext {c d : Char} (hc : c.isDigit = true) (hd : d.isDigit = true)
    (h : c.toNat - 48 = d.toNat - 48) : c = d := by
  have hc := digit_range hc
  have hd := digit_range hd
  exact Char.toNat_inj.mp (by omega)

/-- Texts of one length are equal if their numbers are. -/
theorem value_inj {a b : List Char} (ha : AllDigits a) (hb : AllDigits b)
    (hlength : a.length = b.length) (h : value a = value b) : a = b := by
  induction a generalizing b with
  | nil => exact (List.eq_nil_of_length_eq_zero hlength.symm).symm
  | cons c a ih =>
    cases b with
    | nil => cases hlength
    | cons d b =>
      obtain ⟨hc, ha⟩ := digits_cons.mp ha
      obtain ⟨hd, hb⟩ := digits_cons.mp hb
      have hlength : a.length = b.length := Nat.succ.inj hlength
      have hpow : 0 < 10 ^ b.length := Nat.pow_pos (by decide)
      have halt := value_lt ha
      have hblt := value_lt hb
      rw [hlength] at halt
      rw [value_cons, value_cons, hlength, Nat.mul_comm, Nat.mul_comm (d.toNat - 48)] at h
      have hhead : c.toNat - 48 = d.toNat - 48 := by
        have hdiv := congrArg (fun x => x / 10 ^ b.length) h
        rwa [Nat.mul_add_div hpow, Nat.mul_add_div hpow, Nat.div_eq_of_lt halt,
          Nat.div_eq_of_lt hblt] at hdiv
      have htail : value a = value b := by
        have hmod := congrArg (fun x => x % 10 ^ b.length) h
        rwa [Nat.mul_add_mod, Nat.mul_add_mod, Nat.mod_eq_of_lt halt,
          Nat.mod_eq_of_lt hblt] at hmod
      rw [digit_ext hc hd hhead, ih ha hb hlength htail]

/-! ## Texts without a zero in front -/

theorem lt_length_toDigits_iff {n k : Nat} (hk : 0 < k) :
    k < (Nat.toDigits 10 n).length ↔ 10 ^ k ≤ n := by
  have h := Nat.length_toDigits_le_iff (n := n) (b := 10) (by decide) hk
  omega

theorem pow_le_value {c : Char} {text : List Char} (hc : c.isDigit = true) (hne : c ≠ '0') :
    10 ^ text.length ≤ value (c :: text) := by
  have hpos : 1 ≤ c.toNat - 48 := by
    have hrange := digit_range hc
    have hzero : c.toNat ≠ 48 := fun h => hne (Char.toNat_inj.mp h)
    omega
  rw [value_cons]
  exact (Nat.le_mul_of_pos_left _ hpos).trans (Nat.le_add_right _ _)

/-- A text without a zero in front is the text of its number. -/
theorem toDigits_value {text : List Char} (h : AllDigits text) (hne : text ≠ [])
    (hhead : text.head? ≠ some '0') : Nat.toDigits 10 (value text) = text := by
  apply value_inj (digits_toDigits _) h _ (value_toDigits _)
  apply Nat.le_antisymm
  · exact (Nat.length_toDigits_le_iff (by decide) (List.length_pos_of_ne_nil hne)).mpr (value_lt h)
  · obtain ⟨c, rest, rfl⟩ := List.exists_cons_of_ne_nil hne
    have hc : c ≠ '0' := fun hc => hhead (congrArg some hc)
    have hpow : 10 ^ rest.length ≤ value (c :: rest) := pow_le_value (digits_cons.mp h).1 hc
    rw [List.length_cons]
    cases rest with
    | nil => exact Nat.length_toDigits_pos
    | cons d rest =>
      exact (lt_length_toDigits_iff (Nat.succ_pos _)).mpr hpow

theorem head?_toDigits {n : Nat} (h : 0 < n) : (Nat.toDigits 10 n).head? ≠ some '0' := by
  intro hhead
  obtain ⟨rest, heq⟩ := List.head?_eq_some_iff.mp hhead
  have hdigits := digits_toDigits n
  have hvalue := value_toDigits n
  rw [heq] at hdigits hvalue
  have hzero : value ('0' :: rest) = value rest := by
    rw [value_cons]
    exact (congrArg (· + value rest) (Nat.zero_mul _)).trans (Nat.zero_add _)
  rw [hzero] at hvalue
  have hlt := value_lt (digits_cons.mp hdigits).2
  rw [hvalue] at hlt
  cases rest with
  | nil => exact absurd hvalue (Nat.ne_of_lt h)
  | cons d rest =>
    have hlength := (Nat.length_toDigits_le_iff (by decide) (Nat.succ_pos _)).mpr hlt
    rw [heq, List.length_cons] at hlength
    exact absurd hlength (Nat.not_succ_le_self _)

/-- The text without its last `k` digits. -/
theorem value_take {text : List Char} (h : AllDigits text) (n : Nat) :
    value (text.take n) = value text / 10 ^ (text.length - n) := by
  have hsplit := value_append (text.take n) (text.drop n)
  have hdrop : AllDigits (text.drop n) := fun c hc => h c (List.mem_of_mem_drop hc)
  have hlt := value_lt hdrop
  rw [List.length_drop] at hlt
  rw [List.take_append_drop, List.length_drop] at hsplit
  rw [hsplit, Nat.mul_comm, Nat.mul_add_div (Nat.pow_pos (by decide)), Nat.div_eq_of_lt hlt,
    Nat.add_zero]

/-- The first digits of a number are those of its quotient. -/
theorem toDigits_take {n k : Nat} (h : 10 ^ k ≤ n) :
    (Nat.toDigits 10 n).take ((Nat.toDigits 10 n).length - k) = Nat.toDigits 10 (n / 10 ^ k) := by
  have hn : 0 < n := (Nat.pow_pos (by decide)).trans_le h
  have hlength : k < (Nat.toDigits 10 n).length := by
    rcases Nat.eq_zero_or_pos k with rfl | hk
    · exact Nat.length_toDigits_pos
    · exact (lt_length_toDigits_iff hk).mpr h
  have hvalue := value_take (digits_toDigits n) ((Nat.toDigits 10 n).length - k)
  rw [value_toDigits, Nat.sub_sub_self hlength.le] at hvalue
  rw [← hvalue]
  refine (toDigits_value ?_ ?_ ?_).symm
  · exact fun c hc => digits_toDigits n c (List.mem_of_mem_take hc)
  · apply List.ne_nil_of_length_pos
    rw [List.length_take]
    omega
  · rw [List.head?_take, if_neg (by omega)]
    exact head?_toDigits hn

/-! ## A fixed width -/

/-- The text of a number with zeros in front, `%0wu`. -/
def fixed (w n : Nat) : List Char := (Nat.toDigits 10 n).leftpad w '0'

theorem length_fixed {w n : Nat} (hw : 0 < w) (h : n < 10 ^ w) : (fixed w n).length = w := by
  have hlength := (Nat.length_toDigits_le_iff (by decide) hw).mpr h
  rw [fixed, List.leftpad, List.length_append, List.length_replicate]
  omega

theorem digits_fixed (w n : Nat) : AllDigits (fixed w n) := by
  rw [fixed, List.leftpad, digits_append]
  exact ⟨digits_replicate_zero _, digits_toDigits n⟩

@[simp] theorem value_fixed (w n : Nat) : value (fixed w n) = n := by
  rw [fixed, List.leftpad, value_append, value_replicate_zero, value_toDigits, Nat.zero_mul,
    Nat.zero_add]

/-! ## Zeros at the end -/

/-- The text without the zeros at its end. -/
def dropZeros (text : List Char) : List Char := text.rdropWhile (· == '0')

theorem dropZeros_concat_zero (text : List Char) : dropZeros (text ++ ['0']) = dropZeros text :=
  List.rdropWhile_concat_pos _ _ _ rfl

theorem dropZeros_concat {c : Char} (text : List Char) (h : c ≠ '0') :
    dropZeros (text ++ [c]) = text ++ [c] := by
  apply List.rdropWhile_concat_neg
  rw [beq_iff_eq]
  exact h

theorem dropZeros_append_zeros (text : List Char) (n : Nat) :
    dropZeros (text ++ List.replicate n '0') = dropZeros text := by
  induction n with
  | zero => rw [List.replicate_zero, List.append_nil]
  | succ n ih => rw [List.replicate_succ', ← List.append_assoc, dropZeros_concat_zero, ih]

/-- A text is a part without zeros at its end, and zeros. -/
theorem exists_dropZeros (text : List Char) :
    ∃ n, text = dropZeros text ++ List.replicate n '0' := by
  induction text using List.reverseRecOn with
  | nil => exact ⟨0, rfl⟩
  | append_singleton text c ih =>
    by_cases hc : c = '0'
    · obtain ⟨n, hn⟩ := ih
      refine ⟨n + 1, ?_⟩
      rw [hc, dropZeros_concat_zero, List.replicate_succ', ← List.append_assoc, ← hn]
    · exact ⟨0, by rw [dropZeros_concat text hc, List.replicate_zero, List.append_nil]⟩

theorem dropZeros_cons {c : Char} (text : List Char) (h : c ≠ '0') :
    dropZeros (c :: text) = c :: dropZeros text := by
  induction text using List.reverseRecOn with
  | nil => exact dropZeros_concat [] h
  | append_singleton text d ih =>
    by_cases hd : d = '0'
    · rw [hd, dropZeros_concat_zero, ← List.cons_append, dropZeros_concat_zero, ih]
    · rw [dropZeros_concat text hd, ← List.cons_append, dropZeros_concat _ hd, List.cons_append]

theorem dropZeros_initial (text : List Char) : dropZeros text <+: text :=
  List.rdropWhile_prefix _ text

@[simp] theorem dropZeros_nil : dropZeros [] = [] := rfl

theorem dropZeros_eq_concat {text : List Char} (h : dropZeros text ≠ []) :
    ∃ front c, dropZeros text = front ++ [c] ∧ c ≠ '0' := by
  induction text using List.reverseRecOn with
  | nil => exact absurd rfl h
  | append_singleton text c ih =>
    by_cases hc : c = '0'
    · rw [hc, dropZeros_concat_zero] at h ⊢
      exact ih h
    · exact ⟨text, c, dropZeros_concat text hc, hc⟩

/-- Zeros at the end are those of the second part, and of the first one if that is all zeros. -/
theorem dropZeros_append (a b : List Char) :
    dropZeros (a ++ b) = if dropZeros b = [] then dropZeros a else a ++ dropZeros b := by
  obtain ⟨n, hn⟩ := exists_dropZeros b
  split
  · rename_i hnil
    rw [hnil, List.nil_append] at hn
    rw [hn, dropZeros_append_zeros]
  · rename_i hne
    obtain ⟨front, c, hfront, hc⟩ := dropZeros_eq_concat hne
    conv_lhs => rw [hn, ← List.append_assoc, dropZeros_append_zeros, hfront]
    rw [← List.append_assoc, dropZeros_concat _ hc, hfront, List.append_assoc]

theorem digits_dropZeros {text : List Char} (h : AllDigits text) : AllDigits (dropZeros text) :=
  fun c hc => h c ((dropZeros_initial text).subset hc)

theorem value_concat_mod {front : List Char} {c : Char} (hc : c.isDigit = true) :
    value (front ++ [c]) % 10 = c.toNat - 48 := by
  have hrange := digit_range hc
  rw [value_append, value_singleton, List.length_singleton]
  omega

theorem pow_ten_unique {r s i j : Nat} (hr : r % 10 ≠ 0) (hs : s % 10 ≠ 0)
    (h : r * 10 ^ i = s * 10 ^ j) : i = j := by
  rcases Nat.lt_trichotomy i j with hlt | heq | hlt
  · obtain ⟨k, rfl⟩ := Nat.exists_eq_add_of_lt hlt
    rw [show i + k + 1 = (k + 1) + i by omega, Nat.pow_add, ← Nat.mul_assoc] at h
    have hr' := Nat.eq_of_mul_eq_mul_right (Nat.pow_pos (by decide)) h
    rw [Nat.pow_succ, ← Nat.mul_assoc] at hr'
    exact absurd (hr' ▸ Nat.mul_mod_left _ 10) hr
  · exact heq
  · obtain ⟨k, rfl⟩ := Nat.exists_eq_add_of_lt hlt
    rw [show j + k + 1 = (k + 1) + j by omega, Nat.pow_add, ← Nat.mul_assoc] at h
    have hs' := Nat.eq_of_mul_eq_mul_right (Nat.pow_pos (by decide)) h
    rw [Nat.pow_succ, ← Nat.mul_assoc] at hs'
    exact absurd (hs' ▸ Nat.mul_mod_left _ 10) hs

/-- The zeros at the end are the powers of ten in the number. -/
theorem dropZeros_of_value {text : List Char} {r j : Nat} (h : AllDigits text) (hr : r % 10 ≠ 0)
    (hvalue : value text = r * 10 ^ j) :
    value (dropZeros text) = r ∧ (dropZeros text).length + j = text.length := by
  obtain ⟨n, hn⟩ := exists_dropZeros text
  have hsplit : value text = value (dropZeros text) * 10 ^ n := by
    conv_lhs => rw [hn]
    rw [value_append, value_replicate_zero, List.length_replicate, Nat.add_zero]
  have hlength : text.length = (dropZeros text).length + n := by
    conv_lhs => rw [hn]
    rw [List.length_append, List.length_replicate]
  rw [hvalue] at hsplit
  have hne : dropZeros text ≠ [] := by
    intro hnil
    rw [hnil, value_nil, Nat.zero_mul] at hsplit
    have hpow : 0 < 10 ^ j := Nat.pow_pos (by decide)
    rcases Nat.mul_eq_zero.mp hsplit with hzero | hzero
    · exact hr (by rw [hzero])
    · omega
  obtain ⟨front, c, hfront, hc⟩ := dropZeros_eq_concat hne
  have hdigit : c.isDigit = true := by
    refine digits_dropZeros h c ?_
    rw [hfront]
    exact List.mem_append_right _ List.mem_cons_self
  have hmod : value (dropZeros text) % 10 ≠ 0 := by
    rw [hfront, value_concat_mod hdigit]
    have hrange := digit_range hdigit
    have hzero : c.toNat ≠ 48 := fun h => hc (Char.toNat_inj.mp h)
    omega
  obtain rfl := pow_ten_unique hr hmod hsplit
  exact ⟨(Nat.eq_of_mul_eq_mul_right (Nat.pow_pos (by decide)) hsplit).symm, hlength.symm⟩

theorem dropZeros_eq_nil {text : List Char} (h : AllDigits text) (hvalue : value text = 0) :
    dropZeros text = [] := by
  have hzeros : text = List.replicate text.length '0' := by
    apply value_inj h (digits_replicate_zero _) List.length_replicate.symm
    rw [hvalue, value_replicate_zero]
  rw [hzeros]
  exact dropZeros_append_zeros [] _

theorem head?_dropZeros {text : List Char} (h : dropZeros text ≠ []) :
    (dropZeros text).head? = text.head? := by
  obtain ⟨n, hn⟩ := exists_dropZeros text
  conv_rhs => rw [hn]
  rw [List.head?_append_of_ne_nil _ h]

end DigitText
