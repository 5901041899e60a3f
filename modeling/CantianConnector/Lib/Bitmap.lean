import Mathlib.Algebra.Group.Nat.Defs
import Mathlib.Data.Nat.Bitwise
import Mathlib.Logic.Function.Basic

/-!
# Bitmaps in words

A bitmap keeps bit `n` in word `n / k` at position `n % k`, where `k` may be smaller than the width
`w` of a word. Setting and clearing a bit change what is asked about that bit, and nothing else.
-/

namespace Bitmap

variable {w : Nat}

def isSet (k : Nat) (words : Nat → BitVec w) (n : Nat) : Bool := (words (n / k)).getLsbD (n % k)

def setBit (k : Nat) (words : Nat → BitVec w) (n : Nat) : Nat → BitVec w :=
  Function.update words (n / k) (words (n / k) ||| BitVec.twoPow w (n % k))

def clearBit (k : Nat) (words : Nat → BitVec w) (n : Nat) : Nat → BitVec w :=
  Function.update words (n / k) (words (n / k) &&& ~~~BitVec.twoPow w (n % k))

variable {k : Nat} {words : Nat → BitVec w}

/-- Two bits are the same if they are at the same position of the same word. -/
theorem eq_of_div_eq {m n : Nat} (hdiv : m / k = n / k) (hmod : m % k = n % k) : m = n := by
  rw [← Nat.div_add_mod m k, ← Nat.div_add_mod n k, hdiv, hmod]

theorem mod_lt (hpos : 0 < k) (hk : k ≤ w) (n : Nat) : n % k < w :=
  Nat.lt_of_lt_of_le (Nat.mod_lt n hpos) hk

theorem isSet_setBit (hpos : 0 < k) (hk : k ≤ w) (m n : Nat) :
    isSet k (setBit k words m) n = (decide (n = m) || isSet k words n) := by
  unfold isSet setBit
  by_cases hdiv : n / k = m / k
  · rw [hdiv, Function.update_self, BitVec.getLsbD_or, BitVec.getLsbD_twoPow,
      decide_eq_true (mod_lt hpos hk m), Bool.true_and, Bool.or_comm]
    congr 1
    rw [decide_eq_decide]
    constructor
    · intro hmod
      exact eq_of_div_eq hdiv hmod.symm
    · rintro rfl
      rfl
  · have hne : n ≠ m := by
      rintro rfl
      exact hdiv rfl
    rw [Function.update_of_ne hdiv, decide_eq_false hne, Bool.false_or]

theorem isSet_clearBit (hpos : 0 < k) (hk : k ≤ w) (m n : Nat) :
    isSet k (clearBit k words m) n = (decide (n ≠ m) && isSet k words n) := by
  unfold isSet clearBit
  by_cases hdiv : n / k = m / k
  · rw [hdiv, Function.update_self, BitVec.getLsbD_and, BitVec.getLsbD_not,
      BitVec.getLsbD_twoPow, decide_eq_true (mod_lt hpos hk m), Bool.true_and,
      decide_eq_true (mod_lt hpos hk n), Bool.true_and, Bool.and_comm]
    congr 1
    rw [← decide_not, decide_eq_decide, not_iff_not]
    constructor
    · intro hmod
      exact eq_of_div_eq hdiv hmod.symm
    · rintro rfl
      rfl
  · have hne : n ≠ m := by
      rintro rfl
      exact hdiv rfl
    rw [Function.update_of_ne hdiv, decide_eq_true hne, Bool.true_and]

/-- The test for a bit by its mask. -/
theorem isSet_eq_and_ne (hpos : 0 < k) (hk : k ≤ w) (n : Nat) :
    isSet k words n = decide (words (n / k) &&& BitVec.twoPow w (n % k) ≠ 0#w) := by
  have hlt := mod_lt hpos hk n
  unfold isSet
  rw [BitVec.and_twoPow]
  cases (words (n / k)).getLsbD (n % k) with
  | false => simp only [Bool.false_eq_true, if_false, ne_eq, not_true, decide_false]
  | true =>
    have hne : BitVec.twoPow w (n % k) ≠ 0#w := by
      intro hzero
      have hbit := congrArg (BitVec.getLsbD · (n % k)) hzero
      simp only [BitVec.getLsbD_twoPow, decide_eq_true hlt, decide_true, Bool.and_self,
        BitVec.getLsbD_zero, Bool.true_eq_false] at hbit
    rw [if_pos rfl, decide_eq_true hne]

end Bitmap
