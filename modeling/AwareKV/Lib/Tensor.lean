import AwareKV.Lib.Py
import Mathlib.Algebra.BigOperators.Group.List.Basic

/-!
# AwareKV.Lib.Tensor — dense tensors as dimensions and row-major elements

A `Tensor` carries the proof that it has as many elements as its dimensions say.  `reshape` is
`ndarray.reshape` of a flat array (one negative dimension is inferred), `gather?` indexing of the
first dimension by a list of positions, `takeRows` the slice `t[:stop]`.
-/

namespace AwareKV

/-- A dense tensor. -/
structure Tensor (α : Type*) where
  shape : List ℕ
  data : List α
  sized : data.length = shape.prod

namespace Tensor

variable {α : Type*}

@[ext] theorem ext {t t' : Tensor α} (hs : t.shape = t'.shape) (hd : t.data = t'.data) : t = t' := by
  cases t; cases t'; cases hs; cases hd; rfl

instance [DecidableEq α] : DecidableEq (Tensor α) := fun t t' =>
  decidable_of_iff (t.shape = t'.shape ∧ t.data = t'.data)
    ⟨fun h => ext h.1 h.2, fun h => h ▸ ⟨rfl, rfl⟩⟩

/-- The one-dimensional tensor of a list. -/
def flat (xs : List α) : Tensor α := ⟨[xs.length], xs, by simp⟩

/-- Elementwise map. -/
def map {β : Type*} (f : α → β) (t : Tensor α) : Tensor β :=
  ⟨t.shape, t.data.map f, by rw [List.length_map, t.sized]⟩

/-! ## Reshaping -/

/-- The product of the dimensions that are given. -/
def knownSize (shape : List ℤ) : ℕ := ((shape.filter (fun d => 0 ≤ d)).map Int.toNat).prod

/-- The dimensions for `n` elements: a negative one is inferred from the others. -/
def resolveDims (n : ℕ) (shape : List ℤ) : List ℕ :=
  shape.map (fun d => if 0 ≤ d then d.toNat else n / knownSize shape)

/-- How a shape is printed in an error text. -/
def shapeText (shape : List ℤ) : String :=
  "(" ++ String.intercalate "," (shape.map (fun d => if 0 ≤ d then toString d else "newaxis")) ++
    (if shape.length = 1 then ",)" else ")")

/-- `array.reshape(shape)` of a flat array. -/
def reshape (xs : List α) (shape : List ℤ) : Py (Tensor α) :=
  if 1 < (shape.filter (fun d => d < 0)).length then
    .error ⟨.valueError, "can only specify one unknown dimension"⟩
  else if h : (knownSize shape = 0 → ∀ d ∈ shape, 0 ≤ d) ∧
      xs.length = (resolveDims xs.length shape).prod then
    .ok ⟨resolveDims xs.length shape, xs, h.2⟩
  else .error ⟨.valueError,
    "cannot reshape array of size " ++ toString xs.length ++ " into shape " ++ shapeText shape⟩

/-- Reshaping keeps the elements. -/
theorem reshape_data {xs : List α} {shape : List ℤ} {t : Tensor α} (h : reshape xs shape = .ok t) :
    t.data = xs := by
  unfold reshape at h
  split_ifs at h
  cases h
  rfl

/-- A reshaped array has as many elements as the dimensions of the result. -/
theorem reshape_length {xs : List α} {shape : List ℤ} {t : Tensor α}
    (h : reshape xs shape = .ok t) : xs.length = t.shape.prod := by
  rw [← reshape_data h, t.sized]

/-- Dimensions that are all given are not changed. -/
theorem resolveDims_natCast (n : ℕ) (shape : List ℕ) : resolveDims n (shape.map Int.ofNat) = shape := by
  rw [resolveDims, List.map_map]
  refine List.map_id'' (fun d => ?_) shape
  simp only [Function.comp_apply]
  exact if_pos (Int.natCast_nonneg d)

/-- Dimensions that account for all elements can be given as they are. -/
theorem reshape_natCast {xs : List α} {shape : List ℕ} (h : xs.length = shape.prod) :
    reshape xs (shape.map Int.ofNat) = .ok ⟨shape, xs, h⟩ := by
  have hnonneg : ∀ d ∈ shape.map Int.ofNat, 0 ≤ d := by
    intro d hd
    obtain ⟨n, -, rfl⟩ := List.mem_map.mp hd
    exact Int.natCast_nonneg n
  have hknown : (shape.map Int.ofNat).filter (fun d => d < 0) = [] :=
    List.filter_eq_nil_iff.mpr fun d hd => by simpa using hnonneg d hd
  have hdims := resolveDims_natCast xs.length shape
  unfold reshape
  rw [hknown, if_neg (by decide), dif_pos ⟨fun _ => hnonneg, hdims.symm ▸ h⟩]
  exact congrArg Except.ok (ext hdims rfl)

/-- **Given dimensions** are the shape of the result, and nothing else is accepted. -/
theorem reshape_natCast_iff {xs : List α} {shape : List ℕ} {t : Tensor α} :
    reshape xs (shape.map Int.ofNat) = .ok t ↔ t.shape = shape ∧ t.data = xs := by
  constructor
  · intro h
    refine ⟨?_, reshape_data h⟩
    unfold reshape at h
    split_ifs at h
    cases h
    exact resolveDims_natCast _ _
  · rintro ⟨rfl, rfl⟩
    exact reshape_natCast t.sized

/-- The elements of row `i` along the first dimension. -/
def row (t : Tensor α) (i : ℕ) : List α :=
  (t.data.drop (i * t.shape.tail.prod)).take t.shape.tail.prod

theorem row_length {t : Tensor α} {n : ℕ} {dims : List ℕ} (hs : t.shape = n :: dims) {i : ℕ}
    (hi : i < n) : (t.row i).length = dims.prod := by
  have hlen : t.data.length = n * dims.prod := by rw [t.sized, hs, List.prod_cons]
  have hle : (i + 1) * dims.prod ≤ n * dims.prod := Nat.mul_le_mul_right _ hi
  rw [Nat.add_mul, Nat.one_mul] at hle
  simp only [row, hs, List.tail_cons, List.length_take, List.length_drop, hlen]
  omega

theorem flatMap_length {idxs : List ℕ} {f : ℕ → List α} {m : ℕ} (h : ∀ i ∈ idxs, (f i).length = m) :
    (idxs.flatMap f).length = idxs.length * m := by
  induction idxs with
  | nil => simp
  | cons i idxs ih =>
    rw [List.flatMap_cons, List.length_append, h i List.mem_cons_self,
      ih fun j hj => h j (List.mem_cons_of_mem _ hj), List.length_cons]
    ring

/-- `t[idxs]` for positions along the first dimension; `none` when one of them is out of range (or
the tensor has no dimension). -/
def gather? (t : Tensor α) (idxs : List ℕ) : Option (Tensor α) :=
  match hs : t.shape with
  | [] => none
  | n :: dims =>
    if hi : ∀ i ∈ idxs, i < n then
      some ⟨idxs.length :: dims, idxs.flatMap t.row, by
        rw [List.prod_cons, flatMap_length fun i h => row_length hs (hi i h)]⟩
    else none

/-- `t[:stop]`; `none` for a tensor without dimensions. -/
def takeRows (t : Tensor α) (stop : ℤ) : Option (Tensor α) :=
  t.gather? (List.range (sliceBound (t.shape.headD 0) stop))

/-- Positions that exist can be gathered. -/
theorem gather?_isSome {t : Tensor α} {n : ℕ} {dims : List ℕ} (hs : t.shape = n :: dims)
    {idxs : List ℕ} (hi : ∀ i ∈ idxs, i < n) : ∃ u, t.gather? idxs = some u := by
  unfold gather?
  split
  · next h => rw [hs] at h; cases h
  · next n' dims' h =>
    obtain ⟨rfl, rfl⟩ := List.cons.inj (hs.symm.trans h)
    rw [dif_pos hi]
    exact ⟨_, rfl⟩

/-- Nothing can be gathered from a tensor without dimensions. -/
theorem gather?_scalar {t : Tensor α} (hs : t.shape = []) (idxs : List ℕ) : t.gather? idxs = none := by
  unfold gather?
  split
  · rfl
  · next h => rw [hs] at h; cases h

/-- Taking the first rows only needs a first dimension. -/
theorem takeRows_isSome {t : Tensor α} {n : ℕ} {dims : List ℕ} (hs : t.shape = n :: dims) (stop : ℤ) :
    ∃ u, t.takeRows stop = some u := by
  unfold takeRows
  rw [hs, List.headD_cons]
  refine gather?_isSome hs fun i hi => ?_
  exact Nat.lt_of_lt_of_le (List.mem_range.mp hi) (sliceBound_le n stop)

end Tensor

end AwareKV
