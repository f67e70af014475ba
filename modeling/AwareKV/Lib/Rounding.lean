import Mathlib.Algebra.Order.Field.Basic
import Mathlib.Algebra.Order.Floor.Ring
import Mathlib.Tactic.Linarith
import Mathlib.Tactic.Ring

/-!
# AwareKV.Lib.Rounding — rounding to the nearest integer, ties to even

`roundHalfEven x` is the integer that `IsNearestEven` describes: nearer than one half, or even and
exactly one half away.  Everything else follows from that description.

`gridIndex s x` is the index of the multiple of `s` that `x` rounds to: `gridIndex_mul` (the multiples of
`s` stay), `abs_sub_gridIndex_mul` (nothing moves by more than `s / 2`), `gridIndex_neg`, `gridIndex_mono`,
`abs_gridIndex_le`.
-/

namespace AwareKV.Rounding

variable {K : Type*} [Field K] [LinearOrder K] [IsStrictOrderedRing K]

/-! ### The nearest integer -/

/-- `n` is the integer that `x` rounds to. -/
def IsNearestEven (x : K) (n : ℤ) : Prop := |x - n| < 1 / 2 ∨ |x - n| = 1 / 2 ∧ Even n

omit [IsStrictOrderedRing K] in
theorem IsNearestEven.close {x : K} {n : ℤ} (h : IsNearestEven x n) : |x - n| ≤ 1 / 2 := by
  rcases h with hlt | ⟨heq, -⟩
  · exact hlt.le
  · exact heq.le

/-- Two integers that are both within one half of `x` differ by at most one, and then one is odd. -/
theorem IsNearestEven.le {x : K} {n m : ℤ} (hn : IsNearestEven x n) (hm : IsNearestEven x m) : n ≤ m := by
  by_contra hlt
  have hstep : (m : K) + 1 ≤ n := by exact_mod_cast not_le.mp hlt
  have hxn := abs_le.mp hn.close
  have hxm := abs_le.mp hm.close
  have hadj : (n : K) = m + 1 := by linarith
  have hhalf : x = m + 1 / 2 := by linarith
  have htie : |x - m| = 1 / 2 := by
    rw [hhalf, add_sub_cancel_left, abs_of_pos one_half_pos]
  have htie' : |x - n| = 1 / 2 := by
    rw [hadj, hhalf, show (m : K) + 1 / 2 - (m + 1) = -(1 / 2) by ring, abs_neg, abs_of_pos one_half_pos]
  have hmeven : Even m := hm.elim (fun h => absurd h htie.not_lt) fun h => h.2
  have hneven : Even n := hn.elim (fun h => absurd h htie'.not_lt) fun h => h.2
  have hnm : n = m + 1 := by exact_mod_cast hadj
  obtain ⟨a, ha⟩ := hmeven
  obtain ⟨b, hb⟩ := hneven
  omega

theorem IsNearestEven.unique {x : K} {n m : ℤ} (hn : IsNearestEven x n) (hm : IsNearestEven x m) : n = m :=
  le_antisymm (hn.le hm) (hm.le hn)

omit [IsStrictOrderedRing K] in
theorem IsNearestEven.neg {x : K} {n : ℤ} (h : IsNearestEven x n) : IsNearestEven (-x) (-n) := by
  have hdist : |-x - (-n : ℤ)| = |x - n| := by
    rw [Int.cast_neg, neg_sub_neg, abs_sub_comm]
  unfold IsNearestEven
  rwa [hdist, even_neg]

theorem isNearestEven_intCast (n : ℤ) : IsNearestEven (n : K) n := by
  refine Or.inl ?_
  rw [sub_self, abs_zero]
  exact one_half_pos

variable [FloorRing K]

/-- Round to the nearest integer, ties to even. -/
def roundHalfEven (x : K) : ℤ :=
  if 2 * (x - ⌊x⌋) < 1 then ⌊x⌋
  else if 1 < 2 * (x - ⌊x⌋) then ⌊x⌋ + 1
  else if Even ⌊x⌋ then ⌊x⌋ else ⌊x⌋ + 1

theorem isNearestEven_roundHalfEven (x : K) : IsNearestEven x (roundHalfEven x) := by
  have hlo := Int.floor_le x
  have hhi := Int.lt_floor_add_one x
  have hup : |x - (⌊x⌋ + 1 : ℤ)| = 1 - (x - ⌊x⌋) := by
    rw [Int.cast_add, Int.cast_one, abs_of_nonpos (by linarith)]
    ring
  have hdown : |x - ⌊x⌋| = x - ⌊x⌋ := abs_of_nonneg (by linarith)
  unfold roundHalfEven
  split_ifs with hbelow habove heven
  · exact Or.inl (by rw [hdown]; linarith)
  · exact Or.inl (by rw [hup]; linarith)
  · exact Or.inr ⟨by rw [hdown]; linarith, heven⟩
  · exact Or.inr ⟨by rw [hup]; linarith, by simpa [Int.even_add_one] using heven⟩

theorem roundHalfEven_eq_iff {x : K} {n : ℤ} : roundHalfEven x = n ↔ IsNearestEven x n :=
  ⟨fun h => h ▸ isNearestEven_roundHalfEven x, (isNearestEven_roundHalfEven x).unique⟩

@[simp] theorem roundHalfEven_intCast (n : ℤ) : roundHalfEven (n : K) = n :=
  roundHalfEven_eq_iff.mpr (isNearestEven_intCast n)

@[simp] theorem roundHalfEven_neg (x : K) : roundHalfEven (-x) = -roundHalfEven x :=
  roundHalfEven_eq_iff.mpr (isNearestEven_roundHalfEven x).neg

theorem abs_sub_roundHalfEven (x : K) : |x - roundHalfEven x| ≤ 1 / 2 :=
  (isNearestEven_roundHalfEven x).close

theorem roundHalfEven_mono {x y : K} (h : x ≤ y) : roundHalfEven x ≤ roundHalfEven y := by
  rcases h.eq_or_lt with rfl | hlt
  · exact le_rfl
  by_contra hover
  have hstep : (roundHalfEven y : K) + 1 ≤ roundHalfEven x := by exact_mod_cast not_le.mp hover
  have hx := abs_le.mp (abs_sub_roundHalfEven x)
  have hy := abs_le.mp (abs_sub_roundHalfEven y)
  linarith

/-- No integer bound is rounded over. -/
theorem abs_roundHalfEven_le {x : K} {n : ℤ} (h : |x| ≤ n) : |roundHalfEven x| ≤ n := by
  have hx := abs_le.mp h
  rw [abs_le]
  constructor
  · have hmono := roundHalfEven_mono (show ((-n : ℤ) : K) ≤ x by push_cast; exact hx.1)
    rwa [roundHalfEven_intCast] at hmono
  · have hmono := roundHalfEven_mono hx.2
    rwa [roundHalfEven_intCast] at hmono

/-! ### Multiples of a step -/

/-- The index of the multiple of `s` that `x` rounds to. -/
def gridIndex (s x : K) : ℤ := roundHalfEven (x / s)

variable {s : K}

theorem gridIndex_mul (hs : s ≠ 0) (n : ℤ) : gridIndex s (n * s) = n := by
  rw [gridIndex, mul_div_cancel_right₀ _ hs, roundHalfEven_intCast]

theorem gridIndex_neg (s x : K) : gridIndex s (-x) = -gridIndex s x := by
  rw [gridIndex, neg_div, roundHalfEven_neg, gridIndex]

theorem gridIndex_mono (hs : 0 < s) {x y : K} (h : x ≤ y) : gridIndex s x ≤ gridIndex s y :=
  roundHalfEven_mono (div_le_div_of_nonneg_right h hs.le)

theorem abs_sub_gridIndex_mul (hs : 0 < s) (x : K) : |x - gridIndex s x * s| ≤ s / 2 := by
  have hscaled : x - gridIndex s x * s = (x / s - gridIndex s x) * s := by
    rw [sub_mul, div_mul_cancel₀ x hs.ne']
  rw [hscaled, abs_mul, abs_of_pos hs]
  calc |x / s - gridIndex s x| * s ≤ 1 / 2 * s :=
        mul_le_mul_of_nonneg_right (abs_sub_roundHalfEven _) hs.le
    _ = s / 2 := by ring

theorem abs_gridIndex_le (hs : 0 < s) {x : K} {n : ℤ} (h : |x| ≤ n * s) : |gridIndex s x| ≤ n := by
  refine abs_roundHalfEven_le ?_
  rw [abs_div, abs_of_pos hs]
  exact (div_le_iff₀ hs).mpr h

end AwareKV.Rounding
