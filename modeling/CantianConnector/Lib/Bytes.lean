import Mathlib.Data.List.Basic
import Mathlib.Tactic.Ring

/-!
# Byte images of numbers

Little-endian and big-endian images of natural numbers and two's complement images of
integers, as lists of bytes. Writing a number in `n` bytes keeps it modulo `256 ^ n`, and
reading back what was written, or writing what was read, changes nothing.
-/

namespace Bytes

/-- The little-endian image of `v` in `n` bytes. -/
def le : Nat → Nat → List UInt8
  | 0, _ => []
  | n + 1, v => UInt8.ofNat v :: le n (v / 256)

/-- The number denoted by a little-endian image. -/
def ofLe : List UInt8 → Nat
  | [] => 0
  | b :: bs => b.toNat + 256 * ofLe bs

/-- The big-endian image of `v` in `n` bytes. -/
def be (n v : Nat) : List UInt8 := (le n v).reverse

def ofBe (bs : List UInt8) : Nat := ofLe bs.reverse

@[simp] theorem length_le (n v : Nat) : (le n v).length = n := by
  induction n generalizing v with
  | zero => rfl
  | succ n ih => rw [le, List.length_cons, ih]

theorem ofLe_le (n v : Nat) : ofLe (le n v) = v % 256 ^ n := by
  induction n generalizing v with
  | zero => rw [le, ofLe, pow_zero, Nat.mod_one]
  | succ n ih =>
    rw [le, ofLe, ih, pow_succ, mul_comm (256 ^ n) 256, Nat.mod_mul]
    have hb : (UInt8.ofNat v).toNat = v % 256 := by simp
    rw [hb]

theorem ofLe_lt (bs : List UInt8) : ofLe bs < 256 ^ bs.length := by
  induction bs with
  | nil => simp [ofLe]
  | cons b bs ih =>
    have hb : b.toNat < 256 := b.toNat_lt
    rw [ofLe, List.length_cons, pow_succ]
    omega

theorem le_ofLe (bs : List UInt8) : le bs.length (ofLe bs) = bs := by
  induction bs with
  | nil => rfl
  | cons b bs ih =>
    have hb : b.toNat < 256 := b.toNat_lt
    have hdiv : (b.toNat + 256 * ofLe bs) / 256 = ofLe bs := by omega
    have hmod : UInt8.ofNat (b.toNat + 256 * ofLe bs) = b := by
      apply UInt8.toNat_inj.mp
      rw [UInt8.toNat_ofNat']
      omega
    rw [List.length_cons, ofLe, le, hdiv, hmod, ih]

theorem ofLe_le_of_lt {n v : Nat} (h : v < 256 ^ n) : ofLe (le n v) = v := by
  rw [ofLe_le, Nat.mod_eq_of_lt h]

/-- Bytes appended to an image count from its length on. -/
theorem ofLe_append (as bs : List UInt8) :
    ofLe (as ++ bs) = ofLe as + 256 ^ as.length * ofLe bs := by
  induction as with
  | nil => simp [ofLe]
  | cons a as ih =>
    rw [List.cons_append, ofLe, ofLe, ih, List.length_cons, pow_succ]
    ring

theorem ofLe_zeros (n : Nat) : ofLe (List.replicate n 0) = 0 := by
  induction n with
  | zero => rfl
  | succ n ih => rw [List.replicate_succ, ofLe, ih]; rfl

/-- A number in more bytes than it needs. -/
theorem le_ofLe_zeros (bs : List UInt8) (k : Nat) :
    le (bs.length + k) (ofLe bs) = bs ++ List.replicate k 0 := by
  have h := le_ofLe (bs ++ List.replicate k 0)
  rwa [List.length_append, List.length_replicate, ofLe_append, ofLe_zeros, Nat.mul_zero,
    Nat.add_zero] at h

/-! ## Two's complement -/

/-- The number of an integer in `n` bytes of two's complement. -/
def wrap (n : Nat) (v : Int) : Nat := (v % (256 : Int) ^ n).toNat

/-- The integer denoted by `v` read as `n` bytes of two's complement. -/
def signed (n v : Nat) : Int := if 2 * v < 256 ^ n then v else (v : Int) - 256 ^ n

theorem wrap_lt (n : Nat) (v : Int) : wrap n v < 256 ^ n := by
  have hpos : (0 : Int) < 256 ^ n := Int.pow_pos (by decide)
  have h1 := Int.emod_nonneg v hpos.ne'
  have h2 := Int.emod_lt_of_pos v hpos
  unfold wrap
  rw [Int.toNat_lt h1]
  exact_mod_cast h2

/-- A signed value fits its bytes. -/
theorem signed_wrap {n : Nat} {v : Int} (h1 : -(256 : Int) ^ n ≤ 2 * v)
    (h2 : 2 * v < (256 : Int) ^ n) : signed n (wrap n v) = v := by
  have hpos : (0 : Int) < 256 ^ n := Int.pow_pos (by decide)
  have hcast : ((256 ^ n : Nat) : Int) = (256 : Int) ^ n := by push_cast; rfl
  have hw : ((wrap n v : Nat) : Int) = v % (256 : Int) ^ n := by
    unfold wrap
    rw [Int.toNat_of_nonneg (Int.emod_nonneg v hpos.ne')]
  unfold signed
  by_cases hv : 0 ≤ v
  · have hmod : v % (256 : Int) ^ n = v := Int.emod_eq_of_lt hv (by omega)
    rw [if_pos (by omega), hw, hmod]
  · have hmod : v % (256 : Int) ^ n = v + 256 ^ n := by
      rw [← Int.add_emod_right]
      exact Int.emod_eq_of_lt (by omega) (by omega)
    rw [if_neg (by omega), hw, hmod]
    ring

theorem wrap_signed {n v : Nat} (h : v < 256 ^ n) : wrap n (signed n v) = v := by
  have hcast : ((256 ^ n : Nat) : Int) = (256 : Int) ^ n := by push_cast; rfl
  unfold wrap signed
  split
  · rw [Int.emod_eq_of_lt (by omega) (by omega), Int.toNat_natCast]
  · rw [Int.sub_emod_right, Int.emod_eq_of_lt (by omega) (by omega), Int.toNat_natCast]

end Bytes
