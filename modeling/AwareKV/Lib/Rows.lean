import AwareKV.Lib.ForEach
import AwareKV.Lib.Tensor

/-!
# AwareKV.Lib.Rows — the rows of a tensor, and writing to them

`t.row? i` is `t[i]`.  A tensor is its shape and its rows (`ext_rows`), and `setRow` replaces one of
them.  There are two ways to write a row in place, which differ in what they broadcast: `copyRow?` is
`t[i].copy_(r)` and `assignRow?` is `t[i] = r`, where leading dimensions of size one of `r` do not count.
Both raise (`none`) for a row that does not expand to the shape of the tensor's rows.
-/

namespace AwareKV.Tensor

variable {α β : Type*}

/-! ## Chunks of equal length -/

/-- The chunks that a list was put together from. -/
theorem flatMap_chunk {ι : Type*} {idxs : List ι} {f : ι → List α} {m : ℕ}
    (h : ∀ x ∈ idxs, (f x).length = m) (j : ℕ) (hj : j < idxs.length) :
    ((idxs.flatMap f).drop (j * m)).take m = f idxs[j] := by
  induction idxs generalizing j with
  | nil => exact absurd hj (Nat.not_lt_zero j)
  | cons x xs ih =>
    have hx : (f x).length = m := h x List.mem_cons_self
    rw [List.flatMap_cons]
    cases j with
    | zero => rw [Nat.zero_mul, List.drop_zero, List.take_left' hx, List.getElem_cons_zero]
    | succ j =>
      have hdrop : (f x ++ xs.flatMap f).drop ((j + 1) * m) = (xs.flatMap f).drop (j * m) := by
        rw [Nat.succ_mul, Nat.add_comm, ← List.drop_drop, List.drop_left' hx]
      rw [hdrop, ih (fun y hy => h y (List.mem_cons_of_mem x hy)) j (by simpa using hj),
        List.getElem_cons_succ]

/-- A list is put together from its chunks. -/
theorem flatMap_chunks (xs : List α) (m n : ℕ) :
    (List.range n).flatMap (fun i => (xs.drop (i * m)).take m) = xs.take (n * m) := by
  induction n with
  | zero => simp
  | succ n ih =>
    rw [List.range_succ, List.flatMap_append, ih, List.flatMap_singleton, Nat.succ_mul, List.take_add]

/-! ## Rows -/

/-- `t.shape[0]`; `none` for an `IndexError`. -/
def len? (t : Tensor α) : Option ℕ := t.shape.head?

/-- The number of rows. -/
def rowCount (t : Tensor α) : ℕ := t.shape.headD 0

/-- The shape of a row. -/
def rowShape (t : Tensor α) : List ℕ := t.shape.tail

theorem row_length_of_lt {t : Tensor α} {i : ℕ} (hi : i < t.rowCount) :
    (t.row i).length = t.rowShape.prod := by
  unfold rowCount at hi
  unfold rowShape
  cases hs : t.shape with
  | nil =>
    rw [hs] at hi
    exact absurd hi (Nat.not_lt_zero i)
  | cons n dims =>
    rw [hs] at hi
    exact row_length hs hi

/-- `t[i]`; `none` for an `IndexError`. -/
def row? (t : Tensor α) (i : ℕ) : Option (Tensor α) :=
  if h : i < t.rowCount then some ⟨t.rowShape, t.row i, row_length_of_lt h⟩ else none

theorem row?_isSome {t : Tensor α} {i : ℕ} : (t.row? i).isSome = true ↔ i < t.rowCount := by
  unfold row?
  split_ifs with h <;> simp [h]

theorem row?_of_lt {t : Tensor α} {i : ℕ} (h : i < t.rowCount) :
    t.row? i = some ⟨t.rowShape, t.row i, row_length_of_lt h⟩ := dif_pos h

theorem row?_eq_none {t : Tensor α} {i : ℕ} (h : ¬ i < t.rowCount) : t.row? i = none := dif_neg h

theorem row?_shape {t r : Tensor α} {i : ℕ} (h : t.row? i = some r) : r.shape = t.rowShape := by
  unfold row? at h
  split_ifs at h
  cases h
  rfl

@[simp] theorem rowCount_map (f : α → β) (t : Tensor α) : (t.map f).rowCount = t.rowCount := rfl

@[simp] theorem rowShape_map (f : α → β) (t : Tensor α) : (t.map f).rowShape = t.rowShape := rfl

theorem shape_eq {t : Tensor α} (h : t.shape ≠ []) : t.shape = t.rowCount :: t.rowShape := by
  unfold rowCount rowShape
  cases hs : t.shape with
  | nil => exact absurd hs h
  | cons n dims => rfl

theorem len?_eq {t : Tensor α} (h : t.shape ≠ []) : t.len? = some t.rowCount := by
  rw [len?, shape_eq h, List.head?_cons]

theorem row?_map (f : α → β) (t : Tensor α) (i : ℕ) : (t.map f).row? i = (t.row? i).map (fun r => r.map f) := by
  by_cases hi : i < t.rowCount
  · rw [row?_of_lt hi, row?_of_lt (show i < (t.map f).rowCount from hi), Option.map_some, Option.some.injEq]
    refine Tensor.ext rfl ?_
    show ((t.data.map f).drop _).take _ = ((t.data.drop _).take _).map f
    rw [List.map_take, List.map_drop]
    rfl
  · rw [row?_eq_none hi, row?_eq_none (show ¬ i < (t.map f).rowCount from hi), Option.map_none]

theorem shape_ne_nil_of_lt {t : Tensor α} {i : ℕ} (h : i < t.rowCount) : t.shape ≠ [] := by
  intro hs
  rw [rowCount, hs] at h
  exact absurd h (Nat.not_lt_zero i)

theorem len?_of_lt {t : Tensor α} {i : ℕ} (h : i < t.rowCount) : t.len? = some t.rowCount :=
  len?_eq (shape_ne_nil_of_lt h)

theorem rowCount_congr {t : Tensor α} {u : Tensor β} (h : t.shape = u.shape) : t.rowCount = u.rowCount := by
  rw [rowCount, rowCount, h]

theorem rowShape_congr {t : Tensor α} {u : Tensor β} (h : t.shape = u.shape) : t.rowShape = u.rowShape := by
  rw [rowShape, rowShape, h]

theorem of_shape_cons {t : Tensor α} {n : ℕ} {dims : List ℕ} (h : t.shape = n :: dims) :
    t.shape ≠ [] ∧ t.rowCount = n ∧ t.rowShape = dims := by
  refine ⟨?_, ?_, ?_⟩
  · rw [h]
    exact List.cons_ne_nil n dims
  · rw [rowCount, h, List.headD_cons]
  · rw [rowShape, h, List.tail_cons]

/-- The elements, row by row. -/
theorem data_eq_rows {t : Tensor α} (h : t.shape ≠ []) : t.data = (List.range t.rowCount).flatMap t.row := by
  have hlen : t.data.length = t.rowCount * t.rowShape.prod := by rw [t.sized, shape_eq h, List.prod_cons]
  have hchunks := flatMap_chunks t.data t.rowShape.prod t.rowCount
  rw [← hlen, List.take_length] at hchunks
  exact hchunks.symm

/-- **A tensor is its shape and its rows.** -/
theorem ext_rows {t u : Tensor α} (hdim : t.shape ≠ []) (hs : t.shape = u.shape)
    (h : ∀ i < t.rowCount, t.row? i = u.row? i) : t = u := by
  have hcount : t.rowCount = u.rowCount := rowCount_congr hs
  refine Tensor.ext hs ?_
  rw [data_eq_rows hdim, data_eq_rows (hs ▸ hdim), ← hcount]
  refine List.flatMap_congr fun i hi => ?_
  have hi' : i < t.rowCount := List.mem_range.mp hi
  have hrow := h i hi'
  rw [row?_of_lt hi', row?_of_lt (hcount ▸ hi'), Option.some.injEq] at hrow
  exact congrArg Tensor.data hrow

/-! ## Building a tensor from rows -/

/-- The tensor with the given rows. -/
def ofRows (n : ℕ) (dims : List ℕ) (f : ℕ → List α) (hf : ∀ i < n, (f i).length = dims.prod) : Tensor α :=
  ⟨n :: dims, (List.range n).flatMap f, by
    rw [List.prod_cons, flatMap_length fun i hi => hf i (List.mem_range.mp hi), List.length_range]⟩

theorem row?_ofRows {n : ℕ} {dims : List ℕ} {f : ℕ → List α} {hf : ∀ i < n, (f i).length = dims.prod}
    {i : ℕ} (hi : i < n) {r : Tensor α} (hs : r.shape = dims) (hd : r.data = f i) :
    (ofRows n dims f hf).row? i = some r := by
  have hchunk := flatMap_chunk (fun x hx => hf x (List.mem_range.mp hx)) i (by rwa [List.length_range])
  rw [List.getElem_range] at hchunk
  rw [row?_of_lt (show i < (ofRows n dims f hf).rowCount from hi), Option.some.injEq]
  exact Tensor.ext hs.symm (hchunk.trans hd.symm)

/-- `t` with another row `i`; unchanged if there is no such row, or if the row has another shape. -/
def setRow (t : Tensor α) (i : ℕ) (r : Tensor α) : Tensor α :=
  if h : i < t.rowCount ∧ r.shape = t.rowShape then
    ofRows t.rowCount t.rowShape (fun k => if k = i then r.data else t.row k) (fun k hk => by
      split_ifs
      · rw [r.sized, h.2]
      · exact row_length_of_lt hk)
  else t

theorem setRow_shape (t : Tensor α) (i : ℕ) (r : Tensor α) : (t.setRow i r).shape = t.shape := by
  unfold setRow
  split_ifs with h
  · have hcount : t.shape.headD 0 ≠ 0 := Nat.ne_of_gt (Nat.lt_of_le_of_lt (Nat.zero_le i) h.1)
    show t.shape.headD 0 :: t.shape.tail = t.shape
    cases hs : t.shape with
    | nil =>
      rw [hs] at hcount
      exact absurd rfl hcount
    | cons n dims => rfl
  · rfl

/-- **Writing a row** changes this row only. -/
theorem row?_setRow {t r : Tensor α} {i : ℕ} (hi : i < t.rowCount) (hr : r.shape = t.rowShape) (k : ℕ) :
    (t.setRow i r).row? k = if k = i then some r else t.row? k := by
  have hcount : (t.setRow i r).rowCount = t.rowCount := rowCount_congr (setRow_shape t i r)
  by_cases hk : k < t.rowCount
  · have hset : t.setRow i r = ofRows t.rowCount t.rowShape (fun k => if k = i then r.data else t.row k) _ :=
      dif_pos ⟨hi, hr⟩
    rw [hset]
    by_cases hki : k = i
    · rw [if_pos hki]
      exact row?_ofRows hk hr (if_pos hki).symm
    · rw [if_neg hki, row?_of_lt hk]
      exact row?_ofRows hk rfl (if_neg hki).symm
  · have hki : ¬ k = i := by
      rintro rfl
      exact hk hi
    rw [row?_eq_none (hcount ▸ hk), row?_eq_none hk, if_neg hki]

/-! ## Gathered rows -/

theorem gather?_eq_some {t u : Tensor α} {idxs : List ℕ} (h : t.gather? idxs = some u) :
    u.shape = idxs.length :: t.rowShape ∧ u.data = idxs.flatMap t.row ∧ ∀ i ∈ idxs, i < t.rowCount := by
  unfold gather? at h
  split at h
  · cases h
  · next n dims hs =>
    split_ifs at h with hi
    cases h
    obtain ⟨-, hcount, hdims⟩ := of_shape_cons hs
    exact ⟨by rw [hdims], rfl, hcount ▸ hi⟩

/-- Rows that exist can be gathered. -/
theorem gather?_of_lt {t : Tensor α} {idxs : List ℕ} (hdim : t.shape ≠ []) (h : ∀ i ∈ idxs, i < t.rowCount) :
    ∃ u, t.gather? idxs = some u := gather?_isSome (shape_eq hdim) h

/-- **The rows of `t[idxs]`.** -/
theorem row?_gather {t u : Tensor α} {idxs : List ℕ} (h : t.gather? idxs = some u) (j : ℕ) :
    u.row? j = idxs[j]?.bind t.row? := by
  obtain ⟨hshape, hdata, hidx⟩ := gather?_eq_some h
  obtain ⟨-, hcount, hdims⟩ := of_shape_cons hshape
  by_cases hj : j < idxs.length
  · have hmem : idxs[j] < t.rowCount := hidx _ (List.getElem_mem hj)
    have hchunk : u.row j = t.row idxs[j] := by
      have hlen : ∀ i ∈ idxs, (t.row i).length = t.rowShape.prod := fun i hi => row_length_of_lt (hidx i hi)
      rw [row, ← rowShape, hdims, hdata, flatMap_chunk hlen j hj]
    rw [row?_of_lt (hcount ▸ hj), List.getElem?_eq_getElem hj, Option.bind_some, row?_of_lt hmem,
      Option.some.injEq]
    exact Tensor.ext hdims hchunk
  · rw [row?_eq_none (hcount ▸ hj), List.getElem?_eq_none (not_lt.mp hj), Option.bind_none]

/-- Positions that do not all exist cannot be gathered. -/
theorem gather?_eq_none {t : Tensor α} {idxs : List ℕ} {i : ℕ} (hi : i ∈ idxs) (h : ¬ i < t.rowCount) :
    t.gather? idxs = none := by
  cases hu : t.gather? idxs with
  | none => rfl
  | some u => exact absurd ((gather?_eq_some hu).2.2 i hi) h

/-- The rows of `t[:stop]`. -/
theorem row?_takeRows {t u : Tensor α} {stop : ℤ} (h : t.takeRows stop = some u) (j : ℕ) :
    u.row? j = if j < sliceBound t.rowCount stop then t.row? j else none := by
  rw [row?_gather h]
  show (List.range (sliceBound t.rowCount stop))[j]?.bind t.row? = _
  by_cases hj : j < sliceBound t.rowCount stop
  · rw [if_pos hj, List.getElem?_range hj, Option.bind_some]
  · rw [if_neg hj, List.getElem?_eq_none (by rw [List.length_range]; omega), Option.bind_none]

/-! ## Broadcasting -/

/-- A tensor of the given shape expands to `dims`: from the last dimension on, dimensions are equal, or
one of size one is repeated. -/
def ExpandsTo (shape dims : List ℕ) : Prop :=
  List.Forall₂ (fun d e => e = d ∨ e = 1) dims (List.replicate (dims.length - shape.length) 1 ++ shape)

instance (shape dims : List ℕ) : Decidable (ExpandsTo shape dims) :=
  inferInstanceAs (Decidable (List.Forall₂ _ _ _))

/-- The elements of the expanded tensor, for shapes of the same length. -/
def expandData : List ℕ → List ℕ → List α → List α
  | d :: dims, e :: shape, xs =>
    (List.range d).flatMap fun i =>
      expandData dims shape (if e = d then (xs.drop (i * shape.prod)).take shape.prod else xs)
  | _, _, xs => xs

theorem expandData_length {dims shape : List ℕ} (h : List.Forall₂ (fun d e => e = d ∨ e = 1) dims shape)
    {xs : List α} (hxs : xs.length = shape.prod) : (expandData dims shape xs).length = dims.prod := by
  induction h generalizing xs with
  | nil => exact hxs
  | @cons d e dims shape he _ ih =>
    rw [List.prod_cons] at hxs
    rw [expandData, flatMap_length (m := dims.prod), List.length_range, List.prod_cons]
    intro i hi
    apply ih
    have hle : (i + 1) * shape.prod ≤ d * shape.prod := Nat.mul_le_mul_right _ (List.mem_range.mp hi)
    rw [Nat.add_mul, Nat.one_mul] at hle
    split_ifs with hed
    · rw [List.length_take, List.length_drop, hxs, hed]
      omega
    · rw [hxs, he.resolve_left hed, Nat.one_mul]

theorem expandData_self (dims : List ℕ) {xs : List α} (hxs : xs.length = dims.prod) :
    expandData dims dims xs = xs := by
  induction dims generalizing xs with
  | nil => rfl
  | cons d dims ih =>
    rw [List.prod_cons] at hxs
    have hchunk : ∀ i ∈ List.range d, expandData dims dims ((xs.drop (i * dims.prod)).take dims.prod) =
        (xs.drop (i * dims.prod)).take dims.prod := by
      intro i hi
      apply ih
      have hle : (i + 1) * dims.prod ≤ d * dims.prod := Nat.mul_le_mul_right _ (List.mem_range.mp hi)
      rw [Nat.add_mul, Nat.one_mul] at hle
      rw [List.length_take, List.length_drop, hxs]
      omega
    simp only [expandData, if_true]
    rw [List.flatMap_congr hchunk, flatMap_chunks, ← hxs, List.take_length]

/-- `t.expand(dims)`; `none` when it raises. -/
def expand? (t : Tensor α) (dims : List ℕ) : Option (Tensor α) :=
  if h : ExpandsTo t.shape dims then
    some ⟨dims, expandData dims (List.replicate (dims.length - t.shape.length) 1 ++ t.shape) t.data,
      expandData_length h (by rw [List.prod_append, List.prod_replicate, one_pow, one_mul, t.sized])⟩
  else none

theorem expand?_isSome {t : Tensor α} {dims : List ℕ} :
    (t.expand? dims).isSome = true ↔ ExpandsTo t.shape dims := by
  unfold expand?
  split_ifs with h <;> simp [h]

theorem expand?_shape {t u : Tensor α} {dims : List ℕ} (h : t.expand? dims = some u) : u.shape = dims := by
  unfold expand? at h
  split_ifs at h
  cases h
  rfl

theorem expandsTo_self (dims : List ℕ) : ExpandsTo dims dims := by
  unfold ExpandsTo
  rw [Nat.sub_self, List.replicate_zero, List.nil_append]
  exact List.forall₂_same.mpr fun d _ => Or.inl rfl

/-- A tensor that has the shape already. -/
theorem expand?_self {t : Tensor α} {dims : List ℕ} (h : t.shape = dims) : t.expand? dims = some t := by
  subst h
  rw [expand?, dif_pos (expandsTo_self t.shape), Option.some.injEq]
  refine Tensor.ext rfl ?_
  simp only [Nat.sub_self, List.replicate_zero, List.nil_append]
  exact expandData_self t.shape t.sized

/-- The tensor without its leading dimensions of size one. -/
def dropOnes (t : Tensor α) : Tensor α :=
  ⟨t.shape.dropWhile (fun d => d = 1), t.data, by
    rw [t.sized]
    induction t.shape with
    | nil => rfl
    | cons d dims ih =>
      by_cases hd : d = 1
      · simp [hd, ih]
      · simp [hd]⟩

/-- What a value of the given shape becomes when it is assigned to a place with the shape `dims`. -/
def fit? (v : Tensor α) (dims : List ℕ) : Option (Tensor α) :=
  (if v.shape = dims then v else v.dropOnes).expand? dims

/-- A value of the given shape can be assigned to a place with the shape `dims`. -/
def FitsTo (shape dims : List ℕ) : Prop := shape = dims ∨ ExpandsTo (shape.dropWhile (fun d => d = 1)) dims

instance (shape dims : List ℕ) : Decidable (FitsTo shape dims) := inferInstanceAs (Decidable (_ ∨ _))

theorem fit?_isSome {v : Tensor α} {dims : List ℕ} : (v.fit? dims).isSome = true ↔ FitsTo v.shape dims := by
  unfold fit? FitsTo
  rw [expand?_isSome]
  split_ifs with h
  · exact iff_of_true (h ▸ expandsTo_self dims) (Or.inl h)
  · exact ⟨Or.inr, fun hv => hv.resolve_left h⟩

theorem fit?_self {v : Tensor α} {dims : List ℕ} (h : v.shape = dims) : v.fit? dims = some v := by
  rw [fit?, if_pos h, expand?_self h]

theorem fit?_shape {v u : Tensor α} {dims : List ℕ} (h : v.fit? dims = some u) : u.shape = dims :=
  expand?_shape h

/-! ## Writing rows -/

/-- `t[i].copy_(r)`; `none` when it raises. -/
def copyRow? (t : Tensor α) (i : ℕ) (r : Tensor α) : Option (Tensor α) := (r.expand? t.rowShape).map (t.setRow i)

/-- `t[i] = r`; `none` when it raises. -/
def assignRow? (t : Tensor α) (i : ℕ) (r : Tensor α) : Option (Tensor α) := (r.fit? t.rowShape).map (t.setRow i)

/-- `t[:n] = v`; `none` when it raises. -/
def assignRows? (t : Tensor α) (n : ℕ) (v : Tensor α) : Option (Tensor α) := do
  let rows ← v.fit? (n :: t.rowShape)
  return (List.range n).foldl (fun t i => ((rows.row? i).map (t.setRow i)).getD t) t

/-- **A loop that writes rows.**  The first `m` rounds over `enumerate(xs)` write `val i` into row `xs[i]`
where there is one; then every row holds what was written to it last. -/
theorem forEach_setRow (xs : List ℤ) (body : ℤ × ℕ → Tensor α → Option (Tensor α)) {t : Tensor α} {n : ℕ}
    (hn : t.rowCount = n) (m : ℕ) (val : ℕ → Option (Tensor α))
    (hwrite : ∀ (x : ℤ) (i : ℕ) s, xs[i]? = some x → s.shape = t.shape → i < m → 0 ≤ x → x < n →
      ∃ r, val i = some r ∧ r.shape = t.rowShape ∧ body (x, i) s = some (s.setRow x.toNat r))
    (hskip : ∀ (x : ℤ) (i : ℕ) s, xs[i]? = some x → s.shape = t.shape → ¬ (i < m ∧ 0 ≤ x ∧ x < n) →
      body (x, i) s = some s) :
    ∃ t', forEach xs.zipIdx body t = (t', true) ∧ t'.shape = t.shape ∧
      ∀ k < n, t'.row? k = (lastPos (xs.take m) (k : ℤ)).elim (t.row? k) val := by
  refine forEach_overwrite (fun s => s.shape = t.shape) row? (fun k : ℕ => (k : ℤ)) val m ?_ rfl
  intro x i s hx hs
  by_cases hw : i < m ∧ 0 ≤ x ∧ x < n
  · obtain ⟨hi, h0, hlt⟩ := hw
    obtain ⟨r, hval, hr, hbody⟩ := hwrite x i s hx hs hi h0 hlt
    refine ⟨_, hbody, (setRow_shape s _ r).trans hs, fun k hk => ?_⟩
    have hrow : x.toNat < s.rowCount := by
      rw [rowCount_congr hs, hn]
      omega
    rw [row?_setRow hrow (hr.trans (rowShape_congr hs.symm)), hval]
    by_cases hk' : k = x.toNat
    · rw [if_pos hk', if_pos ⟨hi, by omega⟩]
    · rw [if_neg hk', if_neg fun h => hk' (by omega)]
  · refine ⟨s, hskip x i s hx hs hw, hs, fun k hk => ?_⟩
    rw [if_neg]
    rintro ⟨hi, rfl⟩
    exact hw ⟨hi, by omega, by omega⟩

end AwareKV.Tensor
