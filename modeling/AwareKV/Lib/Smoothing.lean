import Mathlib.Algebra.Order.Field.Basic
import Mathlib.Data.Finset.Max
import Mathlib.Order.Interval.Set.Basic
import Mathlib.Tactic.Linarith
import Mathlib.Tactic.Positivity
import Mathlib.Tactic.Ring

/-!
# AwareKV.Lib.Smoothing — exponential smoothing

`smoothed α x ys` moves from `x` towards each sample in turn, by the share `α` of the way.

* `smoothed_hull`: the value never leaves the range of the start and the samples.
* `smoothed_eq_zero_iff`: a positive value comes down to zero only in one way.
-/

namespace AwareKV.Smoothing

variable {K : Type*} [Field K] [LinearOrder K] [IsStrictOrderedRing K] {α : K}

/-- One step from `x` towards `y`. -/
def smooth (α x y : K) : K := α * y + (1 - α) * x

/-- The value after the samples `ys`. -/
def smoothed (α x : K) (ys : List K) : K := ys.foldl (smooth α) x

omit [LinearOrder K] [IsStrictOrderedRing K] in
@[simp] theorem smoothed_nil (x : K) : smoothed α x [] = x := rfl

omit [LinearOrder K] [IsStrictOrderedRing K] in
theorem smoothed_append (x : K) (ys zs : List K) :
    smoothed α x (ys ++ zs) = smoothed α (smoothed α x ys) zs := List.foldl_append

omit [LinearOrder K] [IsStrictOrderedRing K] in
theorem smoothed_snoc (x : K) (ys : List K) (y : K) :
    smoothed α x (ys ++ [y]) = smooth α (smoothed α x ys) y := smoothed_append x ys [y]

/-! ### The range -/

/-- A step stays between two bounds. -/
theorem smooth_mem (h0 : 0 ≤ α) (h1 : α ≤ 1) {lo hi x y : K} (hx : x ∈ Set.Icc lo hi)
    (hy : y ∈ Set.Icc lo hi) : smooth α x y ∈ Set.Icc lo hi := by
  have hrest : 0 ≤ 1 - α := sub_nonneg.mpr h1
  constructor
  · calc lo = α * lo + (1 - α) * lo := by ring
      _ ≤ smooth α x y :=
        add_le_add (mul_le_mul_of_nonneg_left hy.1 h0) (mul_le_mul_of_nonneg_left hx.1 hrest)
  · calc smooth α x y ≤ α * hi + (1 - α) * hi :=
        add_le_add (mul_le_mul_of_nonneg_left hy.2 h0) (mul_le_mul_of_nonneg_left hx.2 hrest)
      _ = hi := by ring

theorem smoothed_mem (h0 : 0 ≤ α) (h1 : α ≤ 1) {lo hi x : K} {ys : List K}
    (h : ∀ z ∈ x :: ys, z ∈ Set.Icc lo hi) : smoothed α x ys ∈ Set.Icc lo hi := by
  induction ys using List.reverseRecOn with
  | nil => exact h x (List.mem_singleton_self x)
  | append_singleton ys y ih =>
    rw [smoothed_snoc]
    refine smooth_mem h0 h1 (ih fun z hz => h z ?_) (h y (by simp))
    rw [← List.cons_append]
    exact List.mem_append_left _ hz

/-- **Hull**: the value lies between the least and the greatest of the start and the samples. -/
theorem smoothed_hull (h0 : 0 ≤ α) (h1 : α ≤ 1) (x : K) (ys : List K) :
    ∃ lo hi, IsLeast {z | z ∈ x :: ys} lo ∧ IsGreatest {z | z ∈ x :: ys} hi ∧
      lo ≤ smoothed α x ys ∧ smoothed α x ys ≤ hi := by
  have hne : (x :: ys).toFinset.Nonempty := ⟨x, by simp⟩
  have hset : ((x :: ys).toFinset : Set K) = {z | z ∈ x :: ys} := List.coe_toFinset _
  have hleast := (x :: ys).toFinset.isLeast_min' hne
  have hgreatest := (x :: ys).toFinset.isGreatest_max' hne
  rw [hset] at hleast hgreatest
  have hmem := smoothed_mem h0 h1 fun z hz => ⟨hleast.2 hz, hgreatest.2 hz⟩
  exact ⟨_, _, hleast, hgreatest, hmem.1, hmem.2⟩

/-! ### The sign -/

/-- With some weight on the value itself, a positive value stays positive. -/
theorem smoothed_pos (h0 : 0 ≤ α) (h1 : α < 1) {x : K} (hx : 0 < x) {ys : List K} (hys : ∀ y ∈ ys, 0 ≤ y) :
    0 < smoothed α x ys := by
  induction ys using List.reverseRecOn with
  | nil => exact hx
  | append_singleton ys y ih =>
    rw [smoothed_snoc]
    have hy : 0 ≤ y := hys y (by simp)
    have hprev := ih fun z hz => hys z (List.mem_append_left _ hz)
    have hrest : 0 < 1 - α := sub_pos.mpr h1
    exact add_pos_of_nonneg_of_pos (mul_nonneg h0 hy) (mul_pos hrest hprev)

omit [LinearOrder K] [IsStrictOrderedRing K] in
/-- With no weight on the value itself, the last sample is all there is. -/
theorem smoothed_one (x : K) (ys : List K) : smoothed 1 x ys = ys.getLast?.getD x := by
  cases ys using List.reverseRecOn with
  | nil => rfl
  | append_singleton ys y =>
    rw [smoothed_snoc, smooth, List.getLast?_concat, Option.getD_some]
    ring

/-- **A positive value comes down to zero** only when a zero sample replaces it. -/
theorem smoothed_eq_zero_iff (h0 : 0 ≤ α) (h1 : α ≤ 1) {x : K} (hx : 0 < x) {ys : List K}
    (hys : ∀ y ∈ ys, 0 ≤ y) : smoothed α x ys = 0 ↔ α = 1 ∧ ys.getLast? = some 0 := by
  constructor
  · intro hzero
    have hone : α = 1 := by
      refine h1.eq_or_lt.resolve_right fun hlt => ?_
      exact (smoothed_pos h0 hlt hx hys).ne' hzero
    subst hone
    rw [smoothed_one] at hzero
    refine ⟨rfl, ?_⟩
    cases hlast : ys.getLast? with
    | none =>
      rw [hlast] at hzero
      exact absurd hzero hx.ne'
    | some y =>
      rw [hlast] at hzero
      exact congrArg some hzero
  · rintro ⟨rfl, hlast⟩
    rw [smoothed_one, hlast, Option.getD_some]

/-- The value is never negative. -/
theorem smoothed_nonneg (h0 : 0 ≤ α) (h1 : α ≤ 1) {x : K} (hx : 0 ≤ x) {ys : List K}
    (hys : ∀ y ∈ ys, 0 ≤ y) : 0 ≤ smoothed α x ys := by
  obtain ⟨lo, hi, hleast, -, hlo, -⟩ := smoothed_hull h0 h1 x ys
  refine le_trans ?_ hlo
  rcases List.mem_cons.mp hleast.1 with rfl | hmem
  · exact hx
  · exact hys _ hmem

end AwareKV.Smoothing
