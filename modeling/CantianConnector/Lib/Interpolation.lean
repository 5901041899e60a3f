import Mathlib.Algebra.Order.Field.Basic
import Mathlib.Data.List.Basic
import Mathlib.Tactic.Linarith
import Mathlib.Tactic.Ring

/-!
# Positions among sorted endpoints

Sorted endpoints cut a line into buckets; the first one begins at `low`. The position of a point
is the number of buckets before it, with a linear share of its own bucket. A point that is an
endpoint belongs to the bucket after it in `after`, and to the first bucket that ends there in
`upTo`; the two differ where endpoints are repeated. Both positions grow with the point, and that
of a smaller point in `after` is at most that of a larger point in `upTo` (`after_le_upTo`).
-/

namespace Interpolation

variable {K : Type} [Field K] [LinearOrder K]

/-- The part of a bucket above a point. -/
def share (high x low : K) : K := (high - x) / (high - low)

/-- The position of a point in the first bucket that ends after it, from the last bucket's
number. -/
def after : K → List K → K → K
  | _, [], _ => 0
  | low, e :: es, x => if x < e then -share e x low else 1 + after e es x

/-- The position of a point in the first bucket that ends at it or after it. -/
def upTo : K → List K → K → K
  | _, [], _ => 0
  | low, e :: es, x => if x ≤ e then -share e x low else 1 + upTo e es x

/-- The bucket that `after` finds: its number and its endpoints. -/
theorem after_eq {low x : K} {es : List K} (hlow : low ≤ x) (h : ∃ e ∈ es, x < e) :
    ∃ high base, es[es.findIdx fun e => decide (x < e)]? = some high ∧
      (low :: es)[es.findIdx fun e => decide (x < e)]? = some base ∧ base ≤ x ∧ x < high ∧
      after low es x = (es.findIdx fun e => decide (x < e) : Nat) - share high x base := by
  induction es generalizing low with
  | nil =>
    obtain ⟨e, he, -⟩ := h
    cases he
  | cons e es ih =>
    by_cases hx : x < e
    · have hidx : (e :: es).findIdx (fun e => decide (x < e)) = 0 := by
        simp [List.findIdx_cons, hx]
      rw [hidx]
      refine ⟨e, low, rfl, rfl, hlow, hx, ?_⟩
      rw [after, if_pos hx, Nat.cast_zero, zero_sub]
    · have hidx : (e :: es).findIdx (fun e => decide (x < e)) =
          es.findIdx (fun e => decide (x < e)) + 1 := by
        simp [List.findIdx_cons, hx]
      have hrest : ∃ e' ∈ es, x < e' := by
        obtain ⟨e', he', hlt⟩ := h
        rcases List.mem_cons.mp he' with rfl | he'
        · exact absurd hlt hx
        · exact ⟨e', he', hlt⟩
      obtain ⟨high, base, hhigh, hbase, hle, hlt, hafter⟩ := ih (not_lt.mp hx) hrest
      rw [hidx]
      refine ⟨high, base, ?_, ?_, hle, hlt, ?_⟩
      · simpa using hhigh
      · simpa using hbase
      · rw [after, if_neg hx, hafter, Nat.cast_succ]
        ring

/-- The bucket that `upTo` finds. -/
theorem upTo_eq {low x : K} {es : List K} (hlow : low < x) (h : ∃ e ∈ es, x ≤ e) :
    ∃ high base, es[es.findIdx fun e => decide (x ≤ e)]? = some high ∧
      (low :: es)[es.findIdx fun e => decide (x ≤ e)]? = some base ∧ base < x ∧ x ≤ high ∧
      upTo low es x = (es.findIdx fun e => decide (x ≤ e) : Nat) - share high x base := by
  induction es generalizing low with
  | nil =>
    obtain ⟨e, he, -⟩ := h
    cases he
  | cons e es ih =>
    by_cases hx : x ≤ e
    · have hidx : (e :: es).findIdx (fun e => decide (x ≤ e)) = 0 := by
        simp [List.findIdx_cons, hx]
      rw [hidx]
      refine ⟨e, low, rfl, rfl, hlow, hx, ?_⟩
      rw [upTo, if_pos hx, Nat.cast_zero, zero_sub]
    · have hidx : (e :: es).findIdx (fun e => decide (x ≤ e)) =
          es.findIdx (fun e => decide (x ≤ e)) + 1 := by
        simp [List.findIdx_cons, hx]
      have hrest : ∃ e' ∈ es, x ≤ e' := by
        obtain ⟨e', he', hle⟩ := h
        rcases List.mem_cons.mp he' with rfl | he'
        · exact absurd hle hx
        · exact ⟨e', he', hle⟩
      obtain ⟨high, base, hhigh, hbase, hlt, hle, hupTo⟩ := ih (not_le.mp hx) hrest
      rw [hidx]
      refine ⟨high, base, ?_, ?_, hlt, hle, ?_⟩
      · simpa using hhigh
      · simpa using hbase
      · rw [upTo, if_neg hx, hupTo, Nat.cast_succ]
        ring

/-! ## Monotony -/

section

variable [IsStrictOrderedRing K] {low x y : K} {es : List K}

theorem share_nonneg {high : K} (hlow : low ≤ x) (hx : x ≤ high) : 0 ≤ share high x low :=
  div_nonneg (sub_nonneg.mpr hx) (sub_nonneg.mpr (hlow.trans hx))

theorem share_le_one {high : K} (hlow : low ≤ x) (hx : x ≤ high) : share high x low ≤ 1 :=
  div_le_one_of_le₀ (by linarith) (by linarith)

theorem share_anti {high : K} (hlow : low ≤ high) (hxy : x ≤ y) :
    share high y low ≤ share high x low :=
  div_le_div_of_nonneg_right (by linarith) (by linarith)

theorem neg_one_le_after (es : List K) (hlow : low ≤ x) : -1 ≤ after low es x := by
  induction es generalizing low with
  | nil =>
    rw [after]
    linarith
  | cons e es ih =>
    rw [after]
    split
    · rename_i hx
      have hshare := share_le_one hlow hx.le
      linarith
    · rename_i hx
      have hrest := ih (not_lt.mp hx)
      linarith

theorem neg_one_le_upTo (es : List K) (hlow : low ≤ x) : -1 ≤ upTo low es x := by
  induction es generalizing low with
  | nil =>
    rw [upTo]
    linarith
  | cons e es ih =>
    rw [upTo]
    split
    · rename_i hx
      have hshare := share_le_one hlow hx
      linarith
    · rename_i hx
      have hrest := ih (not_le.mp hx).le
      linarith

/-- The last bucket ends at or after the point. -/
theorem upTo_le (hlow : low ≤ x) (h : ∃ e ∈ es, x ≤ e) : upTo low es x ≤ es.length - 1 := by
  induction es generalizing low with
  | nil =>
    obtain ⟨e, he, -⟩ := h
    cases he
  | cons e es ih =>
    rw [upTo, List.length_cons, Nat.cast_succ, add_sub_cancel_right]
    split
    · rename_i hx
      have hshare := share_nonneg hlow hx
      have hlen : (0 : K) ≤ es.length := Nat.cast_nonneg _
      linarith
    · rename_i hx
      have hrest : ∃ e' ∈ es, x ≤ e' := by
        obtain ⟨e', he', hle⟩ := h
        rcases List.mem_cons.mp he' with rfl | he'
        · exact absurd hle hx
        · exact ⟨e', he', hle⟩
      have hih := ih (not_le.mp hx).le hrest
      linarith

theorem after_mono (es : List K) (hlow : low ≤ x) (hxy : x ≤ y) :
    after low es x ≤ after low es y := by
  induction es generalizing low with
  | nil => exact le_rfl
  | cons e es ih =>
    rw [after, after]
    by_cases hy : y < e
    · have hx : x < e := lt_of_le_of_lt hxy hy
      have hshare := share_anti (hlow.trans hx.le) hxy
      rw [if_pos hx, if_pos hy]
      linarith
    · rw [if_neg hy]
      by_cases hx : x < e
      · have hshare := share_nonneg hlow hx.le
        have hrest := neg_one_le_after es (not_lt.mp hy)
        rw [if_pos hx]
        linarith
      · have hrest := ih (not_lt.mp hx)
        rw [if_neg hx]
        linarith

theorem upTo_mono (es : List K) (hlow : low ≤ x) (hxy : x ≤ y) :
    upTo low es x ≤ upTo low es y := by
  induction es generalizing low with
  | nil => exact le_rfl
  | cons e es ih =>
    rw [upTo, upTo]
    by_cases hy : y ≤ e
    · have hx : x ≤ e := hxy.trans hy
      have hshare := share_anti (hlow.trans hx) hxy
      rw [if_pos hx, if_pos hy]
      linarith
    · rw [if_neg hy]
      by_cases hx : x ≤ e
      · have hshare := share_nonneg hlow hx
        have hrest := neg_one_le_upTo es (not_le.mp hy).le
        rw [if_pos hx]
        linarith
      · have hrest := ih (not_le.mp hx).le
        rw [if_neg hx]
        linarith

/-- **A smaller point comes first**, also if both are in one bucket. -/
theorem after_le_upTo (hlow : low ≤ x) (hxy : x < y) : after low es x ≤ upTo low es y := by
  induction es generalizing low with
  | nil => exact le_rfl
  | cons e es ih =>
    rw [after, upTo]
    by_cases hy : y ≤ e
    · have hx : x < e := lt_of_lt_of_le hxy hy
      have hshare := share_anti (hlow.trans hx.le) hxy.le
      rw [if_pos hx, if_pos hy]
      linarith
    · rw [if_neg hy]
      by_cases hx : x < e
      · have hshare := share_nonneg hlow hx.le
        have hrest := neg_one_le_upTo es (not_le.mp hy).le
        rw [if_pos hx]
        linarith
      · have hrest := ih (not_lt.mp hx)
        rw [if_neg hx]
        linarith

end

end Interpolation
