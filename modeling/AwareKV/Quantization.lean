import AwareKV.Codec
import AwareKV.Lib.Rounding
import Mathlib.Order.Bounds.Basic

/-!
# AwareKV.Quantization — the arithmetic of the int8 codec

`QuantOps` are the operations of `codec/int8_symm.py` on numbers; `quantize` and `dequantize` are what it
computes with them.  On bit patterns this is what the codec does (`encode_quantize`,
`decode_dequantize`), and on rationals the same computation is exact.

* `absMax_eq_ok_iff`, `code_exact`: the maximum and the codes in exact arithmetic.
* `int8_quantization_exact`: range, error, symmetry and order of the codes, and that a second encoding
  changes nothing.
-/

namespace AwareKV

open Rounding

/-- Numbers `F` and codes `C` with the operations that the codec applies to them. -/
structure QuantOps (F C : Type) where
  abs : F → F
  max : F → F → F
  isZero : F → Bool
  one : F
  /-- `127.0` -/
  levels : F
  div : F → F → F
  mul : F → F → F
  /-- `np.round` -/
  round : F → F
  /-- `astype(np.int8)` -/
  toInt8 : F → C
  /-- `astype(np.float32)` -/
  ofInt8 : C → F

namespace QuantOps

variable {F C : Type} (o : QuantOps F C)

/-- `np.abs(x).max()`. -/
def absMax : List F → Py F
  | [] => .error ⟨.valueError,
      "zero-size array to reduction operation maximum which has no identity"⟩
  | x :: xs => .ok (xs.foldl (fun m y => o.max m (o.abs y)) (o.abs x))

/-- `scale`. -/
def scaleOf (absMax : F) : F := o.div (if o.isZero absMax then o.one else absMax) o.levels

/-- `np.round(x / scale).astype(np.int8)`. -/
def code (scale x : F) : C := o.toInt8 (o.round (o.div x scale))

/-- The scale and the codes that `encode` writes. -/
def quantize (xs : List F) : Py (F × List C) := do
  let m ← o.absMax xs
  let scale := o.scaleOf m
  return (scale, xs.map (o.code scale))

/-- The numbers that `decode` computes. -/
def dequantize (scale : F) (codes : List C) : List F := codes.map (fun c => o.mul (o.ofInt8 c) scale)

end QuantOps

/-! ## On bit patterns -/

/-- The operations of numpy on singles. -/
def FloatOps.quantOps (fo : FloatOps) : QuantOps UInt32 UInt8 where
  abs := absF32
  max := fo.max
  isZero m := absF32 m = 0
  one := oneF32
  levels := f32_127
  div := fo.div
  mul := fo.mul
  round := fo.round
  toInt8 := fo.toInt8
  ofInt8 := fo.ofInt8

namespace Int8SymmetricCodec

/-- **What the codec encodes**: the scale, then the codes. -/
theorem encode_quantize {α : Type} (fo : FloatOps) (toHalf : α → Half) (t : Tensor α) :
    encode fo toHalf t = do
      let (scale, codes) ← fo.quantOps.quantize ((t.map toHalf).data.map fo.toFloat32)
      let data := leBytes 4 scale.toNat ++ codes
      return .make "int8_symm" data (some (t.shape.map Int.ofNat)) "int8" data.length := by
  have hmax : ∀ xs, absMax fo xs = fo.quantOps.absMax xs := by
    rintro (_ | ⟨x, xs⟩) <;> rfl
  have hscale : ∀ m, scaleOf fo m = fo.quantOps.scaleOf m := by
    intro m
    simp [scaleOf, QuantOps.scaleOf, FloatOps.quantOps]
  unfold encode QuantOps.quantize
  dsimp only
  rw [hmax, bind_assoc]
  refine bind_congr fun m => ?_
  rw [hscale]
  rfl

/-- **What the codec decodes**: the codes by the scale before them. -/
theorem decode_dequantize (fo : FloatOps) {blob : EncodedBlob} {t : Tensor Half}
    (h : decode fo blob = .ok t) :
    t.data = (fo.quantOps.dequantize (UInt32.ofNat (leNat (blob.data.take 4)))
      (blob.data.drop 4)).map fo.toFloat16 := by
  obtain ⟨-, -, h⟩ := Py.bind_eq_ok.mp h
  split_ifs at h
  obtain ⟨q, hq, h⟩ := Py.bind_eq_ok.mp h
  have hdata : q.data = blob.data.drop 4 := by
    cases hs : blob.shape with
    | none =>
      rw [hs] at hq
      cases hq
      rfl
    | some shape =>
      rw [hs] at hq
      exact Tensor.reshape_data hq
  cases h
  show (q.data.map _).map _ = _
  rw [hdata]
  rfl

end Int8SymmetricCodec

/-! ## In exact arithmetic -/

/-- The operations on rationals; the cast to int8 truncates and wraps. -/
def exactOps : QuantOps ℚ ℤ where
  abs x := |x|
  max := max
  isZero m := m = 0
  one := 1
  levels := 127
  div x y := x / y
  mul x y := x * y
  round x := roundHalfEven x
  toInt8 x := (intOfRat x).bmod 256
  ofInt8 c := c

namespace Quantization

/-- The magnitudes of numbers. -/
def magnitudes (xs : List ℚ) : Set ℚ := {a | ∃ x ∈ xs, |x| = a}

theorem isGreatest_foldl_max (xs : List ℚ) (a : ℚ) :
    IsGreatest (insert a (magnitudes xs)) (xs.foldl (fun m y => max m |y|) a) := by
  induction xs generalizing a with
  | nil =>
    refine ⟨Set.mem_insert a _, ?_⟩
    rintro b (rfl | ⟨x, hx, -⟩)
    · exact le_rfl
    · cases hx
  | cons x xs ih =>
    have hset : ∀ b, b ∈ magnitudes (x :: xs) ↔ b = |x| ∨ b ∈ magnitudes xs := by
      intro b
      simp [magnitudes, eq_comm]
    obtain ⟨hmem, hupper⟩ := ih (max a |x|)
    constructor
    · rcases hmem with heq | hin
      · rcases max_choice a |x| with ha | hx
        · exact Or.inl (heq.trans ha)
        · exact Or.inr ((hset _).mpr (Or.inl (heq.trans hx)))
      · exact Or.inr ((hset _).mpr (Or.inr hin))
    · have hfirst := hupper (Set.mem_insert _ _)
      rintro b (rfl | hb)
      · exact (le_max_left _ _).trans hfirst
      · rcases (hset b).mp hb with rfl | hin
        · exact (le_max_right _ _).trans hfirst
        · exact hupper (Set.mem_insert_of_mem _ hin)

/-- **The maximum that the codec computes.** -/
theorem absMax_eq_ok_iff {xs : List ℚ} {m : ℚ} :
    exactOps.absMax xs = .ok m ↔ IsGreatest (magnitudes xs) m := by
  cases xs with
  | nil =>
    refine ⟨fun h => (by cases h), fun h => ?_⟩
    obtain ⟨x, hx, -⟩ := h.1
    cases hx
  | cons x xs =>
    have hfold := isGreatest_foldl_max xs |x|
    have hset : insert |x| (magnitudes xs) = magnitudes (x :: xs) := by
      ext b
      simp [magnitudes, eq_comm]
    rw [hset] at hfold
    constructor
    · intro h
      cases h
      exact hfold
    · intro h
      exact congrArg Except.ok (hfold.unique h)

variable {xs : List ℚ} {m : ℚ}

theorem scaleOf_exact (m : ℚ) : exactOps.scaleOf m = (if m = 0 then 1 else m) / 127 := by
  simp [QuantOps.scaleOf, exactOps]

theorem scaleOf_pos (h : 0 ≤ m) : 0 < exactOps.scaleOf m := by
  rw [scaleOf_exact]
  split_ifs with h0
  · norm_num
  · have hpos : 0 < m := lt_of_le_of_ne h (Ne.symm h0)
    positivity

/-- Unless everything is zero, the maximum is the 127th multiple of the scale. -/
theorem scaleOf_mul (h : m ≠ 0) : 127 * exactOps.scaleOf m = m := by
  rw [scaleOf_exact, if_neg h]
  ring

theorem le_scaleOf_mul (m : ℚ) : m ≤ 127 * exactOps.scaleOf m := by
  by_cases h0 : m = 0
  · rw [h0]
    have hpos := scaleOf_pos (m := 0) le_rfl
    positivity
  · exact (scaleOf_mul h0).ge

/-- **The cast never wraps**: a number within 127 multiples of the scale has its index as code. -/
theorem code_exact {s x : ℚ} (hs : 0 < s) (hx : |x| ≤ 127 * s) :
    exactOps.code s x = gridIndex s x ∧ |gridIndex s x| ≤ 127 := by
  have hrange : |gridIndex s x| ≤ 127 := abs_gridIndex_le hs (by exact_mod_cast hx)
  have hcast : intOfRat ((gridIndex s x : ℤ) : ℚ) = gridIndex s x := by
    unfold intOfRat
    split_ifs
    · exact Int.floor_intCast _
    · exact Int.ceil_intCast _
  refine ⟨?_, hrange⟩
  show (intOfRat ((gridIndex s x : ℤ) : ℚ)).bmod 256 = gridIndex s x
  rw [hcast]
  obtain ⟨hlo, hhi⟩ := abs_le.mp hrange
  exact Int.bmod_eq_of_le (by omega) (by omega)

/-- **What the codec writes in exact arithmetic.** -/
theorem quantize_exact (h : IsGreatest (magnitudes xs) m) :
    exactOps.quantize xs = .ok (exactOps.scaleOf m, xs.map (gridIndex (exactOps.scaleOf m))) := by
  obtain ⟨x, -, rfl⟩ := h.1
  have hmax := absMax_eq_ok_iff.mpr h
  have hcodes : xs.map (exactOps.code (exactOps.scaleOf |x|)) =
      xs.map (gridIndex (exactOps.scaleOf |x|)) := by
    refine List.map_congr_left fun y hy => ?_
    have hy' : |y| ≤ |x| := h.2 ⟨y, hy, rfl⟩
    exact (code_exact (scaleOf_pos (abs_nonneg x)) (hy'.trans (le_scaleOf_mul |x|))).1
  unfold QuantOps.quantize
  rw [hmax, ← hcodes]
  rfl

/-- The number that is decoded for `x`. -/
def decoded (m x : ℚ) : ℚ := gridIndex (exactOps.scaleOf m) x * exactOps.scaleOf m

theorem abs_decoded_le {x : ℚ} (hx : |x| ≤ m) : |decoded m x| ≤ m := by
  have h0 : 0 ≤ m := (abs_nonneg x).trans hx
  have hpos := scaleOf_pos h0
  by_cases hm : m = 0
  · have hzero : x = 0 := abs_eq_zero.mp (le_antisymm (hm ▸ hx) (abs_nonneg x))
    have hindex : gridIndex (exactOps.scaleOf m) x = 0 := by
      have hmul := gridIndex_mul hpos.ne' 0
      rwa [Int.cast_zero, zero_mul, ← hzero] at hmul
    rw [decoded, hindex, Int.cast_zero, zero_mul, abs_zero]
    exact h0
  · have hrange := (code_exact hpos (hx.trans (le_scaleOf_mul m))).2
    have hcast : |((gridIndex (exactOps.scaleOf m) x : ℤ) : ℚ)| ≤ 127 := by exact_mod_cast hrange
    rw [decoded, abs_mul, abs_of_pos hpos]
    calc _ ≤ 127 * exactOps.scaleOf m := mul_le_mul_of_nonneg_right hcast hpos.le
      _ = m := scaleOf_mul hm

/-- **The extreme elements stay as they are.** -/
theorem decoded_of_abs_eq {x : ℚ} (hx : |x| = m) : decoded m x = x := by
  have hpos := scaleOf_pos (hx ▸ abs_nonneg x)
  have hmultiple : ∃ n : ℤ, x = n * exactOps.scaleOf m := by
    by_cases hm : m = 0
    · refine ⟨0, ?_⟩
      rw [Int.cast_zero, zero_mul]
      exact abs_eq_zero.mp (hx.trans hm)
    · have hmul := scaleOf_mul hm
      rcases abs_choice x with hsign | hsign
      · exact ⟨127, by push_cast; linarith⟩
      · exact ⟨-127, by push_cast; linarith⟩
  obtain ⟨n, hn⟩ := hmultiple
  rw [decoded, hn, gridIndex_mul hpos.ne']

/-- The decoded numbers have the same greatest magnitude. -/
theorem isGreatest_decoded (h : IsGreatest (magnitudes xs) m) :
    IsGreatest (magnitudes (xs.map (decoded m))) m := by
  constructor
  · obtain ⟨x, hx, hxm⟩ := h.1
    exact ⟨decoded m x, List.mem_map_of_mem hx, by rw [decoded_of_abs_eq hxm, hxm]⟩
  · rintro b ⟨y, hy, rfl⟩
    obtain ⟨x, hx, rfl⟩ := List.mem_map.mp hy
    exact abs_decoded_le (h.2 ⟨x, hx, rfl⟩)

theorem isGreatest_neg (h : IsGreatest (magnitudes xs) m) :
    IsGreatest (magnitudes (xs.map (fun x => -x))) m := by
  have hset : magnitudes (xs.map (fun x => -x)) = magnitudes xs := by
    ext b
    constructor
    · rintro ⟨y, hy, rfl⟩
      obtain ⟨x, hx, rfl⟩ := List.mem_map.mp hy
      exact ⟨x, hx, (abs_neg x).symm⟩
    · rintro ⟨x, hx, rfl⟩
      exact ⟨-x, List.mem_map_of_mem hx, abs_neg x⟩
  rw [hset]
  exact h

end Quantization

open Quantization in
/-- **Int8 quantisation in exact arithmetic**: numbers with greatest magnitude `m` are encoded with scale
`m / 127` (`1 / 127` for zeros) and the nearest codes, ties to even.  The codes lie between -127 and 127
and are off by half a scale at most; negated numbers have negated codes; codes are in the order of the
numbers; and the decoded numbers are encoded again with the same scale and codes. -/
theorem int8_quantization_exact (xs : List ℚ) (hne : xs ≠ []) :
    ∃ m s codes, IsGreatest (magnitudes xs) m ∧ s = (if m = 0 then 1 else m) / 127 ∧
      codes = xs.map (fun x => roundHalfEven (x / s)) ∧
      exactOps.quantize xs = .ok (s, codes) ∧
      (∀ q ∈ codes, -127 ≤ q ∧ q ≤ 127) ∧
      (∀ x ∈ xs, |x - roundHalfEven (x / s) * s| ≤ s / 2) ∧
      exactOps.quantize (xs.map (fun x => -x)) = .ok (s, codes.map (fun q => -q)) ∧
      (∀ x ∈ xs, ∀ y ∈ xs, x ≤ y → roundHalfEven (x / s) ≤ roundHalfEven (y / s)) ∧
      exactOps.dequantize s codes = codes.map (fun q : ℤ => (q : ℚ) * s) ∧
      exactOps.quantize (exactOps.dequantize s codes) = .ok (s, codes) := by
  obtain ⟨x0, rest, rfl⟩ := List.exists_cons_of_ne_nil hne
  obtain ⟨m, hmax⟩ : ∃ m, exactOps.absMax (x0 :: rest) = .ok m := ⟨_, rfl⟩
  generalize x0 :: rest = xs at hmax ⊢
  have hm := absMax_eq_ok_iff.mp hmax
  have h0 : 0 ≤ m := by
    obtain ⟨x, -, rfl⟩ := hm.1
    exact abs_nonneg x
  have hs := scaleOf_pos h0
  have hdecoded : exactOps.dequantize (exactOps.scaleOf m) (xs.map (gridIndex (exactOps.scaleOf m))) =
      xs.map (decoded m) := by
    rw [QuantOps.dequantize, List.map_map]
    rfl
  refine ⟨m, exactOps.scaleOf m, xs.map (gridIndex (exactOps.scaleOf m)), hm, scaleOf_exact m, rfl,
    quantize_exact hm, ?_, fun x _ => abs_sub_gridIndex_mul hs x, ?_,
    fun x _ y _ hxy => gridIndex_mono hs hxy, rfl, ?_⟩
  · intro q hq
    obtain ⟨x, hx, rfl⟩ := List.mem_map.mp hq
    exact abs_le.mp (code_exact hs ((hm.2 ⟨x, hx, rfl⟩).trans (le_scaleOf_mul m))).2
  · rw [quantize_exact (isGreatest_neg hm), List.map_map, List.map_map]
    refine congrArg (fun codes => Except.ok (exactOps.scaleOf m, codes)) (List.map_congr_left ?_)
    intro x _
    exact gridIndex_neg _ x
  · rw [hdecoded, quantize_exact (isGreatest_decoded hm), List.map_map]
    refine congrArg (fun codes => Except.ok (exactOps.scaleOf m, codes)) (List.map_congr_left ?_)
    intro x _
    exact gridIndex_mul hs.ne' _

/-- Ties, a zero and a negative extreme. -/
theorem int8_quantization_exact_ties :
    ∃ m s codes, IsGreatest (Quantization.magnitudes [-254, 1, 3, 0]) m ∧
      s = (if m = 0 then 1 else m) / 127 ∧ exactOps.quantize [-254, 1, 3, 0] = .ok (s, codes) := by
  obtain ⟨m, s, codes, hm, hs, -, hquant, -⟩ := int8_quantization_exact [-254, 1, 3, 0] (by simp)
  exact ⟨m, s, codes, hm, hs, hquant⟩

example : exactOps.quantize [-254, 1, 3, 0] = .ok (2, [-127, 0, 2, 0]) := by decide +kernel

end AwareKV
