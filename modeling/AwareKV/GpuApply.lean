import AwareKV.Lib.Rows

/-!
# AwareKV.GpuApply — decoded rows are written into a cache layer

Translation of `tier/gpu_apply.py`.  A function returns the layer as it leaves it, and whether it
returned (`false`: it raised).  `toCache` is torch's conversion of an element to the layer's type.

* `assignAt_stuck`: rows that cannot be assigned are not written, any of them.
* `forEach_assignAt`: otherwise every row holds what was assigned to it last.
-/

namespace AwareKV

variable {α β : Type}

/-- `if slot >= 0 and slot < kv_cache.shape[0]: kv_cache[slot] = kv_tensor[i]` -/
def assignAt (kvTensor : Tensor α) (round : ℤ × ℕ) (kvCache : Tensor α) : Option (Tensor α) :=
  if round.1 < 0 then some kvCache
  else do
    let n ← kvCache.len?
    if round.1 < n then
      let row ← kvTensor.row? round.2
      kvCache.assignRow? round.1.toNat row
    else some kvCache

section Functions

variable (toCache : β → α)

/-- `apply_kv_to_cache`. -/
def applyKvToCache (kvTensor : Tensor β) (kvCache : Tensor α) (slotMapping : Option (List ℤ)) :
    Tensor α × Bool :=
  let mapping := slotMapping.getD []
  if mapping = [] then (kvCache, true)
  else match kvTensor.len? with
    | none => (kvCache, false)
    | some numTokens =>
      forEach (mapping.take (min numTokens mapping.length)).zipIdx (assignAt (kvTensor.map toCache)) kvCache

/-- The loop of `apply_critical_kv` and `apply_refinement_kv`. -/
def assignBlocks (kv : Tensor β) (kvCache : Tensor α) (blockIds : List ℤ) : Tensor α × Bool :=
  forEach blockIds.zipIdx (assignAt (kv.map toCache)) kvCache

/-- `apply_critical_kv`. -/
def applyCriticalKv (decodedKv : Tensor β) (kvCache : Tensor α) (blockIds : List ℤ) : Tensor α × Bool :=
  assignBlocks toCache decodedKv kvCache blockIds

/-- `apply_refinement_kv`. -/
def applyRefinementKv (refinedKv : Tensor β) (kvCache : Tensor α) (blockIds : List ℤ) : Tensor α × Bool :=
  assignBlocks toCache refinedKv kvCache blockIds

end Functions

/-! ## What the loops do -/

variable {kv cache : Tensor α} {slot : ℤ} {i : ℕ}

theorem assignAt_skip (h : ¬ (0 ≤ slot ∧ slot < cache.rowCount)) (hdim : cache.shape ≠ []) :
    assignAt kv (slot, i) cache = some cache := by
  unfold assignAt
  dsimp only
  by_cases hneg : slot < 0
  · rw [if_pos hneg]
  · rw [if_neg hneg, Tensor.len?_eq hdim, Option.bind_eq_bind, Option.bind_some, if_neg (by omega)]

theorem assignAt_eq (h0 : 0 ≤ slot) (hlt : slot < cache.rowCount) :
    assignAt kv (slot, i) cache = (kv.row? i).bind (cache.assignRow? slot.toNat) := by
  have hin : slot.toNat < cache.rowCount := by omega
  unfold assignAt
  dsimp only
  rw [if_neg (by omega), Tensor.len?_of_lt hin, Option.bind_eq_bind, Option.bind_some, if_pos hlt]
  rfl

theorem assignAt_raises (h0 : 0 ≤ slot) (hlt : slot < cache.rowCount)
    (hfit : ¬ Tensor.FitsTo kv.rowShape cache.rowShape) : assignAt kv (slot, i) cache = none := by
  rw [assignAt_eq h0 hlt]
  cases hrow : kv.row? i with
  | none => rfl
  | some r =>
    rw [← Tensor.row?_shape hrow, ← Tensor.fit?_isSome, Option.not_isSome_iff_eq_none] at hfit
    rw [Option.bind_some, Tensor.assignRow?, hfit, Option.map_none]

/-- **Rows that do not fit** are not written: every round does nothing or raises. -/
theorem assignAt_stuck (h : cache.shape = [] ∨ ¬ Tensor.FitsTo kv.rowShape cache.rowShape) :
    assignAt kv (slot, i) cache = some cache ∨ assignAt kv (slot, i) cache = none := by
  by_cases hneg : slot < 0
  · exact Or.inl (by rw [assignAt, if_pos hneg])
  rcases h with hs | hfit
  · right
    rw [assignAt, if_neg hneg, Tensor.len?, hs]
    rfl
  · by_cases hdim : cache.shape = []
    · right
      rw [assignAt, if_neg hneg, Tensor.len?, hdim]
      rfl
    by_cases hlt : slot < cache.rowCount
    · exact Or.inr (assignAt_raises (not_lt.mp hneg) hlt hfit)
    · exact Or.inl (assignAt_skip (fun h => hlt h.2) hdim)

/-- **Rows that fit** are all written, and every row of the layer holds what was written to it last. -/
theorem forEach_assignAt (kv : Tensor α) {cache : Tensor α} {xs : List ℤ} (hdim : cache.shape ≠ [])
    (hfit : Tensor.FitsTo kv.rowShape cache.rowShape) (hxs : xs.length ≤ kv.rowCount) :
    ∃ cache', forEach xs.zipIdx (assignAt kv) cache = (cache', true) ∧ cache'.shape = cache.shape ∧
      ∀ k < cache.rowCount, cache'.row? k = (lastPos xs (k : ℤ)).elim (cache.row? k)
        (fun i => (kv.row? i).bind (fun r => r.fit? cache.rowShape)) := by
  have hloop := Tensor.forEach_setRow xs (assignAt kv) (t := cache) rfl kv.rowCount
    (fun i => (kv.row? i).bind (fun r => r.fit? cache.rowShape)) ?_ ?_
  · rwa [List.take_of_length_le hxs] at hloop
  · intro x i s _ hs hi h0 hlt
    have hcount : s.rowCount = cache.rowCount := Tensor.rowCount_congr hs
    have hshape : s.rowShape = cache.rowShape := Tensor.rowShape_congr hs
    have hrow := Tensor.row?_of_lt hi
    obtain ⟨r, hr⟩ := Option.isSome_iff_exists.mp (Tensor.fit?_isSome.mpr
      ((Tensor.row?_shape hrow).symm ▸ hfit))
    refine ⟨r, ?_, Tensor.fit?_shape hr, ?_⟩
    · rw [hrow, Option.bind_some, hr]
    · rw [assignAt_eq h0 (hcount ▸ hlt), hrow, Option.bind_some, Tensor.assignRow?, hshape, hr,
        Option.map_some]
  · intro x i s hx hs hno
    have hi : i < kv.rowCount := Nat.lt_of_lt_of_le (List.getElem?_eq_some_iff.mp hx).1 hxs
    have hcount : s.rowCount = cache.rowCount := Tensor.rowCount_congr hs
    exact assignAt_skip (fun h => hno ⟨hi, h.1, hcount ▸ h.2⟩) (hs.symm ▸ hdim)

end AwareKV
