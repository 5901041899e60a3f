import Mathlib.Algebra.Order.Field.Power
import Mathlib.Data.List.DropRight
import Mathlib.Data.List.GetD
import Mathlib.Data.Nat.Digits.Lemmas
import Mathlib.Data.Rat.Cast.Defs
import Mathlib.Tactic.FieldSimp
import Mathlib.Tactic.Ring

/-!
# Positional numbers

Digits in a base `b`, most significant first, as a function of the position. `window b d a n`
is the number that the `n` digits from position `a` on denote. A digit string with a point
denotes `window b d 0 N * b ^ (p - N)`, which does not depend on how many zeros stand around
the significant digits (`scaled_window_eq`). Cutting a string into groups of `k` digits is
reading it in base `b ^ k` (`window_group`), and a number has only one representation without
a leading or a trailing zero (`canonical_unique`).
-/

namespace Digits

/-- The number denoted by the `n` digits of `d` from position `a` on. -/
def window (b : Nat) (d : Nat → Nat) (a : Nat) : Nat → Nat
  | 0 => 0
  | n + 1 => window b d a n * b + d (a + n)

variable {b : Nat} {d e : Nat → Nat}

@[simp] theorem window_zero (a : Nat) : window b d a 0 = 0 := rfl

theorem window_succ (a n : Nat) : window b d a (n + 1) = window b d a n * b + d (a + n) := rfl

theorem window_congr {a c n : Nat} (h : ∀ i, i < n → d (a + i) = e (c + i)) :
    window b d a n = window b e c n := by
  induction n with
  | zero => rfl
  | succ n ih =>
    rw [window_succ, window_succ, ih fun i hi => h i (by omega), h n (by omega)]

theorem window_add (a m n : Nat) :
    window b d a (m + n) = window b d a m * b ^ n + window b d (a + m) n := by
  induction n with
  | zero => simp
  | succ n ih =>
    rw [← Nat.add_assoc, window_succ, ih, window_succ, pow_succ, Nat.add_assoc a m n]
    ring

theorem window_eq_zero {a n : Nat} (h : ∀ i, i < n → d (a + i) = 0) : window b d a n = 0 := by
  induction n with
  | zero => rfl
  | succ n ih => rw [window_succ, ih fun i hi => h i (by omega), h n (by omega)]; simp

theorem window_lt {a n : Nat} (h : ∀ i, i < n → d (a + i) < b) :
    window b d a n < b ^ n := by
  induction n with
  | zero => simp
  | succ n ih =>
    have hw := ih fun i hi => h i (by omega)
    have hd := h n (by omega)
    calc window b d a (n + 1) = window b d a n * b + d (a + n) := rfl
      _ < window b d a n * b + b := by omega
      _ = (window b d a n + 1) * b := by ring
      _ ≤ b ^ n * b := Nat.mul_le_mul_right b hw
      _ = b ^ (n + 1) := (pow_succ b n).symm

/-- A window with a non-zero digit is not zero. -/
theorem window_ne_zero {a n i : Nat} (hb : 0 < b) (hi : i < n) (h : d (a + i) ≠ 0) :
    window b d a n ≠ 0 := by
  induction n with
  | zero => omega
  | succ n ih =>
    rw [window_succ]
    by_cases hin : i = n
    · subst hin
      omega
    · have hw := ih (by omega)
      have : 0 < window b d a n * b := Nat.mul_pos (Nat.pos_of_ne_zero hw) hb
      omega

/-- The digits of a number below a bound start with zeros. -/
theorem window_leading_zero {a k n : Nat} (hb : 0 < b) (h : window b d a (k + n) < b ^ n)
    {i : Nat} (hi : i < k) : d (a + i) = 0 := by
  by_contra hne
  have hw : window b d a k ≠ 0 := window_ne_zero hb hi hne
  rw [window_add] at h
  have : 1 * b ^ n ≤ window b d a k * b ^ n := Nat.mul_le_mul_right _ (Nat.pos_of_ne_zero hw)
  omega

/-- The digits of a multiple of `b ^ n` end with `n` zeros. -/
theorem window_trailing_zero {a k n : Nat} (hd : ∀ i, i < n → d (a + k + i) < b) (hb : 0 < b)
    (h : b ^ n ∣ window b d a (k + n)) {i : Nat} (hi : i < n) : d (a + k + i) = 0 := by
  rw [window_add] at h
  have htail : b ^ n ∣ window b d (a + k) n := (Nat.dvd_add_right ⟨_, mul_comm _ _⟩).mp h
  have hz : window b d (a + k) n = 0 := Nat.eq_zero_of_dvd_of_lt htail (window_lt hd)
  by_contra hne
  exact window_ne_zero hb hi hne hz

/-! ## Groups of digits -/

/-- Reading groups of `k` digits is reading in base `b ^ k`. -/
theorem window_group {k n : Nat} {g : Nat → Nat} (a c : Nat)
    (h : ∀ j, j < n → window b d (a + k * j) k = g (c + j)) :
    window b d a (k * n) = window (b ^ k) g c n := by
  induction n with
  | zero => simp
  | succ n ih =>
    rw [Nat.mul_succ, window_add, ih fun j hj => h j (by omega), h n (by omega), window_succ]

/-- A first group of `w` digits and `n` full groups after it. -/
theorem window_first_group {k n w : Nat} {g : Nat → Nat} (a : Nat)
    (hfirst : g 0 = window b d a w)
    (h : ∀ j, j < n → window b d (a + w + k * j) k = g (1 + j)) :
    window (b ^ k) g 0 (1 + n) = window b d a (w + k * n) := by
  rw [window_add, window_add, window_group (a + w) (0 + 1) (by simpa using h), ← pow_mul]
  simp [window_succ, hfirst]

/-! ## The value of a digit string with a point -/

/-- **Zeros around the significant digits do not change the value.** -/
theorem scaled_window_eq {s t N L : Nat} (hb : 0 < b) (p : Int) (hlow : ∀ i, i < s → d i = 0)
    (hhigh : ∀ i, t ≤ i → d i = 0) (hN : t ≤ N) (hL : t ≤ s + L) :
    (window b d 0 N : ℚ) * (b : ℚ) ^ (p - N) =
      (window b d s L : ℚ) * (b : ℚ) ^ (p - s - L) := by
  have hbq : (b : ℚ) ≠ 0 := by exact_mod_cast hb.ne'
  have hpad : ∀ M, t ≤ M → ∀ K, (window b d 0 (M + K) : ℚ) * (b : ℚ) ^ (p - (M + K : Nat)) =
      (window b d 0 M : ℚ) * (b : ℚ) ^ (p - M) := by
    intro M hM K
    have hz : window b d (0 + M) K = 0 := window_eq_zero fun i _ => hhigh _ (by omega)
    rw [window_add, hz]
    push_cast
    rw [add_zero, mul_assoc, ← zpow_natCast (b : ℚ) K, ← zpow_add₀ hbq]
    congr 2
    ring
  have hlead : window b d 0 (s + L) = window b d s L := by
    rw [window_add, window_eq_zero (a := 0) (n := s) fun i hi => hlow _ (by omega)]
    simp
  have hmax1 := hpad N hN (s + L)
  have hmax2 := hpad (s + L) hL N
  rw [Nat.add_comm (s + L) N] at hmax2
  rw [← hmax1, hmax2, hlead]
  congr 2
  push_cast
  ring

/-! ## Uniqueness of the canonical representation -/

theorem window_eq_ofDigits (l : List Nat) :
    window b (fun i => l.getD i 0) 0 l.length = Nat.ofDigits b l.reverse := by
  induction l using List.reverseRecOn with
  | nil => simp
  | append_singleton l x ih =>
    rw [List.length_append, List.length_singleton, window_succ, List.reverse_append,
      List.reverse_singleton, List.singleton_append, Nat.ofDigits_cons, ← ih,
      window_congr (e := fun i => l.getD i 0) (c := 0)]
    · have hx : (l ++ [x]).getD l.length 0 = x := by
        simp [List.getD_eq_getElem?_getD]
      rw [Nat.zero_add, hx, Nat.add_comm, Nat.mul_comm]
    · intro i hi
      simp only [List.getD_eq_getElem?_getD]
      rw [List.getElem?_append_left (by omega)]

/-- Digits below the base whose first and last one are not zero. -/
structure Canonical (b : Nat) (l : List Nat) : Prop where
  lt : ∀ x ∈ l, x < b
  head : l.getD 0 0 ≠ 0
  last : l.getD (l.length - 1) 0 ≠ 0

theorem Canonical.length_pos {l : List Nat} (h : Canonical b l) : 0 < l.length := by
  by_contra hl
  have : l = [] := List.length_eq_zero_iff.mp (by omega)
  subst this
  exact h.head rfl

theorem Canonical.not_dvd {l : List Nat} (h : Canonical b l) :
    ¬ b ∣ window b (fun i => l.getD i 0) 0 l.length := by
  have hlen := h.length_pos
  have hmem : l.getD (l.length - 1) 0 ∈ l := by
    rw [List.getD_eq_getElem?_getD, List.getElem?_eq_getElem (by omega), Option.getD_some]
    exact List.getElem_mem _
  have hlt := h.lt _ hmem
  have hlast := h.last
  intro hdvd
  rw [show l.length = l.length - 1 + 1 by omega, window_succ, Nat.zero_add] at hdvd
  have := (Nat.dvd_add_right ⟨_, mul_comm _ _⟩).mp hdvd
  exact hlast (Nat.eq_zero_of_dvd_of_lt this hlt)

theorem Canonical.ext_window {l m : List Nat} (hb : 1 < b) (hl : Canonical b l)
    (hm : Canonical b m)
    (h : window b (fun i => l.getD i 0) 0 l.length = window b (fun i => m.getD i 0) 0 m.length) :
    l = m := by
  have key : ∀ {k : List Nat}, Canonical b k →
      b.digits (Nat.ofDigits b k.reverse) = k.reverse := by
    intro k hk
    refine Nat.digits_ofDigits b hb _ (fun x hx => hk.lt x (by simpa using hx)) ?_
    intro hne
    have hlen := hk.length_pos
    have hhead := hk.head
    rw [List.getD_eq_getElem?_getD, List.getElem?_eq_getElem hlen, Option.getD_some] at hhead
    rw [List.getLast_reverse, List.head_eq_getElem]
    exact hhead
  rw [window_eq_ofDigits, window_eq_ofDigits] at h
  have hrev : l.reverse = m.reverse := by rw [← key hl, ← key hm, h]
  exact List.reverse_injective hrev

/-- **A number has one canonical representation**: scale and digits are determined. -/
theorem canonical_unique {l m : List Nat} {x y : Int} (hb : 1 < b) (hl : Canonical b l)
    (hm : Canonical b m)
    (h : (window b (fun i => l.getD i 0) 0 l.length : ℚ) * (b : ℚ) ^ x =
      (window b (fun i => m.getD i 0) 0 m.length : ℚ) * (b : ℚ) ^ y) : x = y ∧ l = m := by
  have hbq : (b : ℚ) ≠ 0 := by exact_mod_cast (show b ≠ 0 by omega)
  have hle : ∀ {k k' : List Nat} {u v : Int}, Canonical b k →
      (window b (fun i => k.getD i 0) 0 k.length : ℚ) * (b : ℚ) ^ u =
        (window b (fun i => k'.getD i 0) 0 k'.length : ℚ) * (b : ℚ) ^ v → v ≤ u := by
    intro k k' u v hk he
    by_contra hlt
    obtain ⟨n, hn⟩ : ∃ n : Nat, v = u + (n + 1 : Nat) := ⟨(v - u - 1).toNat, by omega⟩
    rw [hn, zpow_add₀ hbq, mul_comm ((b : ℚ) ^ u), ← mul_assoc] at he
    have hc := mul_right_cancel₀ (zpow_ne_zero u hbq) he
    rw [zpow_natCast] at hc
    have hnat : window b (fun i => k.getD i 0) 0 k.length =
        window b (fun i => k'.getD i 0) 0 k'.length * b ^ (n + 1) := by exact_mod_cast hc
    exact hk.not_dvd (hnat ▸ Dvd.dvd.mul_left (dvd_pow_self b (Nat.succ_ne_zero n)) _)
  have hxy : x = y := le_antisymm (hle hm h.symm) (hle hl h)
  subst hxy
  have hc := mul_right_cancel₀ (zpow_ne_zero x hbq) h
  exact ⟨rfl, hl.ext_window hb hm (by exact_mod_cast hc)⟩

/-! ## Numbers of lists -/

/-- The number that a list of digits denotes. -/
def number (b : Nat) (l : List Nat) : Nat := Nat.ofDigits b l.reverse

theorem window_eq_number (l : List Nat) :
    window b (fun i => l.getD i 0) 0 l.length = number b l := window_eq_ofDigits l

@[simp] theorem number_nil : number b [] = 0 := rfl

theorem number_append (l m : List Nat) :
    number b (l ++ m) = number b l * b ^ m.length + number b m := by
  unfold number
  rw [List.reverse_append, Nat.ofDigits_append, List.length_reverse, Nat.add_comm, Nat.mul_comm]

theorem number_singleton (x : Nat) : number b [x] = x := Nat.ofDigits_singleton

theorem number_cons (x : Nat) (l : List Nat) :
    number b (x :: l) = x * b ^ l.length + number b l := by
  rw [← List.singleton_append, number_append, number_singleton]

theorem number_lt (hb : 1 < b) {l : List Nat} (h : ∀ x ∈ l, x < b) : number b l < b ^ l.length := by
  rw [number, ← List.length_reverse]
  exact Nat.ofDigits_lt_base_pow_length hb fun x hx => h x (List.mem_reverse.mp hx)

/-- A digit counts with the power of its place. -/
theorem number_set {l : List Nat} {i : Nat} (hi : i < l.length) (x : Nat) :
    number b (l.set i x) + l[i] * b ^ (l.length - 1 - i) =
      number b l + x * b ^ (l.length - 1 - i) := by
  induction l generalizing i with
  | nil => exact absurd hi (Nat.not_lt_zero i)
  | cons y l ih =>
    cases i with
    | zero =>
      rw [List.set_cons_zero, number_cons, number_cons, List.getElem_cons_zero]
      simp only [List.length_cons, Nat.add_sub_cancel, Nat.sub_zero]
      omega
    | succ i =>
      have hrest := ih (Nat.lt_of_succ_lt_succ hi)
      rw [List.set_cons_succ, number_cons, number_cons, List.length_set, List.getElem_cons_succ,
        List.length_cons, show l.length + 1 - 1 - (i + 1) = l.length - 1 - i by omega]
      omega

theorem number_set_add {l : List Nat} {i : Nat} (hi : i < l.length) (x : Nat) :
    number b (l.set i (l[i] + x)) = number b l + x * b ^ (l.length - 1 - i) := by
  have hset := number_set (b := b) hi (l[i] + x)
  rw [Nat.add_mul] at hset
  omega

/-- A digit that reaches the base leaves a unit of the place before it. -/
theorem number_set_carry {l : List Nat} {i : Nat} (hi : i < l.length) {x : Nat}
    (hfull : b ≤ l[i] + x) :
    number b (l.set i (l[i] + x - b)) + b ^ (l.length - i) =
      number b l + x * b ^ (l.length - 1 - i) := by
  have hset := number_set (b := b) hi (l[i] + x - b)
  have hpow : b ^ (l.length - i) = b * b ^ (l.length - 1 - i) := by
    rw [← Nat.pow_succ']
    exact congrArg _ (by omega)
  have hle := Nat.mul_le_mul_right (b ^ (l.length - 1 - i)) hfull
  rw [Nat.sub_mul, Nat.add_mul] at hset
  rw [Nat.add_mul] at hle
  omega

/-- A number of as many digits as a canonical one, and not below it, has a first digit. -/
theorem Canonical.first_pos {l rest : List Nat} {x : Nat} (h : Canonical b l) (hb : 1 < b)
    (hlt : ∀ y ∈ rest, y < b) (hlength : (x :: rest).length = l.length)
    (hle : number b l ≤ number b (x :: rest)) : 0 < x := by
  by_contra hx
  obtain rfl : x = 0 := by omega
  cases l with
  | nil => exact absurd hlength (Nat.succ_ne_zero _)
  | cons u tail =>
    have hu : u ≠ 0 := h.head
    have hrest := number_lt hb hlt
    have hlength : rest.length = tail.length := Nat.succ.inj hlength
    rw [number_cons, number_cons, Nat.zero_mul, Nat.zero_add] at hle
    rw [hlength] at hrest
    have hpow := Nat.le_mul_of_pos_left (b ^ tail.length) (Nat.pos_of_ne_zero hu)
    omega

/-! ## Zeros at the end -/

theorem number_append_zeros (l : List Nat) (n : Nat) :
    number b (l ++ List.replicate n 0) = number b l * b ^ n := by
  induction n with
  | zero => rw [List.replicate_zero, List.append_nil, Nat.pow_zero, Nat.mul_one]
  | succ n ih =>
    rw [List.replicate_succ', ← List.append_assoc, number_append, ih, number_singleton,
      List.length_singleton, Nat.pow_one, Nat.add_zero, Nat.pow_succ, Nat.mul_assoc]

/-- Without the zeros at its end, a list whose first digit is not zero is canonical. -/
theorem canonical_rdropWhile {l : List Nat} (hlt : ∀ x ∈ l, x < b) (hhead : l.getD 0 0 ≠ 0) :
    ∃ n, l = l.rdropWhile (· == 0) ++ List.replicate n 0 ∧
      Canonical b (l.rdropWhile (· == 0)) := by
  induction l using List.reverseRecOn with
  | nil => exact absurd rfl hhead
  | append_singleton l x ih =>
    by_cases hx : x = 0
    · subst hx
      have hne : l ≠ [] := by
        rintro rfl
        exact hhead rfl
      have hget : (l ++ [0]).getD 0 0 = l.getD 0 0 := by
        rw [List.getD_append _ _ _ _ (List.length_pos_of_ne_nil hne)]
      obtain ⟨n, hn, hcanonical⟩ :=
        ih (fun y hy => hlt y (List.mem_append_left _ hy)) (hget ▸ hhead)
      rw [List.rdropWhile_concat_pos _ _ _ rfl]
      refine ⟨n + 1, ?_, hcanonical⟩
      rw [List.replicate_succ', ← List.append_assoc, ← hn]
    · rw [List.rdropWhile_concat_neg _ _ _ (by rwa [beq_iff_eq])]
      refine ⟨0, (List.append_nil _).symm, hlt, hhead, ?_⟩
      rw [List.length_append, List.length_singleton, Nat.add_sub_cancel,
        List.getD_append_right _ _ _ _ (Nat.le_refl _), Nat.sub_self]
      exact hx

end Digits
