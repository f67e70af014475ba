import AwareKV.GpuApply
import AwareKV.SaveSession

/-!
# AwareKV.PagedKv — taking a prefix out of a paged layer and putting it back

Translation of `inject_prefix_kv_into_layer` of `connector/paged_kv_ops.py`, over
`extract_prefix_kv_from_layer` of `AwareKV.SaveSession`.  The destination is written in place: the
function returns it as it leaves it, with the function's result.  `toDst` is torch's conversion of an
element to the destination's type.
-/

namespace AwareKV

variable {α β : Type}

/-! ## Injection -/

/-- A round of the loop over `matched_blocks`, with `src_idx`. -/
def injectBlock (src : Tensor α) (blockId : ℤ) (s : Tensor α × ℕ) : Option (Tensor α × ℕ) :=
  if blockId < 0 then some s
  else do
    let n ← s.1.len?
    if blockId < n then
      let m ← src.len?
      if s.2 < m then
        let row ← src.row? s.2
        let dst ← s.1.assignRow? blockId.toNat row
        return (dst, s.2 + 1)
      else some s
    else some s

/-- `inject_prefix_kv_into_layer`: an exception is logged and `False` is returned. -/
def injectPrefixKvIntoLayer (toDst : β → α) (dst : Tensor α) (srcKv : Tensor β) (slotMapping : Option (List ℤ))
    (matchedBlocks : List ℤ) : Tensor α × Bool :=
  let src := srcKv.map toDst
  let mapping := slotMapping.getD []
  if mapping ≠ [] then
    match src.len? with
    | none => (dst, false)
    | some m => forEach (mapping.take (min m mapping.length)).zipIdx (assignAt src) dst
  else if matchedBlocks ≠ [] then
    let r := forEach matchedBlocks (injectBlock src) (dst, 0)
    (r.1.1, r.2)
  else
    let direct := do
      let m ← src.len?
      let n ← dst.len?
      let rows ← src.takeRows (min m n)
      dst.assignRows? (min m n) rows
    match direct with
    | some dst => (dst, true)
    | none => (dst, false)

/-! ## What extracting does -/

section Extract

variable {kvLayer : Tensor α} (slotMapping : Option (List ℤ)) (matchedBlocks : List ℤ) (matchedTokens : ℤ)

/-- `slot_mapping[slot_mapping >= 0]` -/
def validSlots (mapping : List ℤ) : List ℤ := mapping.filter (fun s => 0 ≤ s)

theorem mem_validSlots {mapping : List ℤ} {s : ℤ} : s ∈ validSlots mapping ↔ s ∈ mapping ∧ 0 ≤ s := by
  rw [validSlots, List.mem_filter, decide_eq_true_eq]

theorem mem_blocksIn {n b : ℕ} {blocks : List ℤ} : b ∈ blocksIn n blocks ↔ b < n ∧ (b : ℤ) ∈ blocks := by
  simp only [blocksIn, List.mem_map, List.mem_filter, decide_eq_true_eq]
  constructor
  · rintro ⟨c, ⟨hc, h0, hlt⟩, rfl⟩
    rw [Int.toNat_of_nonneg h0]
    exact ⟨by omega, hc⟩
  · rintro ⟨hlt, hmem⟩
    exact ⟨b, ⟨hmem, by omega, by omega⟩, by omega⟩

theorem extractAttempt_eq :
    extractAttempt kvLayer slotMapping matchedBlocks matchedTokens =
      if validSlots (slotMapping.getD []) ≠ [] then
        kvLayer.gather? ((slice (validSlots (slotMapping.getD [])) 0 matchedTokens).map Int.toNat)
      else if matchedBlocks ≠ [] ∧ kvLayer.shape = [] then none
      else if blocksIn kvLayer.rowCount matchedBlocks ≠ [] then
        kvLayer.gather? (blocksIn kvLayer.rowCount matchedBlocks)
      else kvLayer.takeRows matchedTokens := rfl

theorem extract_of_attempt {t : Tensor α}
    (h : extractAttempt kvLayer slotMapping matchedBlocks matchedTokens = some t) :
    extractPrefixKvFromLayer kvLayer slotMapping matchedBlocks matchedTokens = .ok t := by
  rw [extractPrefixKvFromLayer, h]

/-- **Slots that exist** are gathered. -/
theorem extract_slots (hvalid : validSlots (slotMapping.getD []) ≠ [])
    (hall : ∀ s ∈ slice (validSlots (slotMapping.getD [])) 0 matchedTokens, s < kvLayer.rowCount)
    (hdim : kvLayer.shape ≠ []) :
    ∃ t, extractPrefixKvFromLayer kvLayer slotMapping matchedBlocks matchedTokens = .ok t ∧
      kvLayer.gather? ((slice (validSlots (slotMapping.getD [])) 0 matchedTokens).map Int.toNat) = some t := by
  have hexist : ∀ i ∈ (slice (validSlots (slotMapping.getD [])) 0 matchedTokens).map Int.toNat,
      i < kvLayer.rowCount := by
    intro i hi
    obtain ⟨s, hs, rfl⟩ := List.mem_map.mp hi
    have hlt := hall s hs
    have h0 := (mem_validSlots.mp (List.mem_of_mem_take (List.mem_of_mem_drop hs))).2
    omega
  obtain ⟨t, ht⟩ := Tensor.gather?_of_lt hdim hexist
  refine ⟨t, extract_of_attempt _ _ _ ?_, ht⟩
  rw [extractAttempt_eq, if_pos hvalid, ht]

/-- **Without slots**, the blocks that exist are gathered. -/
theorem extract_blocks (hvalid : validSlots (slotMapping.getD []) = [])
    (hblocks : blocksIn kvLayer.rowCount matchedBlocks ≠ []) :
    ∃ t, extractPrefixKvFromLayer kvLayer slotMapping matchedBlocks matchedTokens = .ok t ∧
      kvLayer.gather? (blocksIn kvLayer.rowCount matchedBlocks) = some t := by
  obtain ⟨b, hb⟩ := List.exists_mem_of_ne_nil _ hblocks
  have hdim : kvLayer.shape ≠ [] := Tensor.shape_ne_nil_of_lt (mem_blocksIn.mp hb).1
  obtain ⟨t, ht⟩ := Tensor.gather?_of_lt hdim fun i hi => (mem_blocksIn.mp hi).1
  refine ⟨t, extract_of_attempt _ _ _ ?_, ht⟩
  rw [extractAttempt_eq, if_neg (not_not.mpr hvalid), if_neg fun h => hdim h.2, if_pos hblocks, ht]

/-- **In every other case** the first rows are returned: a slot does not exist, or there are neither
slots nor blocks. -/
theorem extract_first (hdim : kvLayer.shape ≠ [])
    (hslots : ¬ (validSlots (slotMapping.getD []) ≠ [] ∧
      ∀ s ∈ slice (validSlots (slotMapping.getD [])) 0 matchedTokens, s < kvLayer.rowCount))
    (hblocks : ¬ (validSlots (slotMapping.getD []) = [] ∧ blocksIn kvLayer.rowCount matchedBlocks ≠ [])) :
    ∃ t, extractPrefixKvFromLayer kvLayer slotMapping matchedBlocks matchedTokens = .ok t ∧
      kvLayer.takeRows matchedTokens = some t := by
  have hshape : kvLayer.shape = kvLayer.rowCount :: kvLayer.rowShape := Tensor.shape_eq hdim
  obtain ⟨t, ht⟩ := Tensor.takeRows_isSome hshape matchedTokens
  refine ⟨t, ?_, ht⟩
  by_cases hvalid : validSlots (slotMapping.getD []) = []
  · refine extract_of_attempt _ _ _ ?_
    rw [extractAttempt_eq, if_neg (not_not.mpr hvalid), if_neg fun h => hdim h.2,
      if_neg fun h => hblocks ⟨hvalid, h⟩, ht]
  · -- a slot that does not exist: the exception handler takes the first rows
    obtain ⟨s, hs, hout⟩ : ∃ s ∈ slice (validSlots (slotMapping.getD [])) 0 matchedTokens,
        ¬ s < kvLayer.rowCount := by
      by_contra hno
      exact hslots ⟨hvalid, fun s hs => by_contra fun hlt => hno ⟨s, hs, hlt⟩⟩
    have hattempt : extractAttempt kvLayer slotMapping matchedBlocks matchedTokens = none := by
      rw [extractAttempt_eq, if_pos hvalid]
      exact Tensor.gather?_eq_none (List.mem_map.mpr ⟨s, hs, rfl⟩) (by omega)
    have hmin : kvLayer.takeRows (min matchedTokens kvLayer.rowCount) = some t := by
      rw [← ht, Tensor.takeRows, Tensor.takeRows, hshape, List.headD_cons, sliceBound_min]
    rw [extractPrefixKvFromLayer, hattempt, hshape]
    simp only [List.headD_cons, hmin]

end Extract

/-! ## What injecting by slots does -/

section Slots

variable {toDst : β → α} {dst : Tensor α} {src : Tensor β} {mapping matchedBlocks : List ℤ}

/-- With slots, injection does what `apply_kv_to_cache` does, and reports a failure where that raises. -/
theorem inject_eq_applyKvToCache (hmapping : mapping ≠ []) :
    injectPrefixKvIntoLayer toDst dst src (some mapping) matchedBlocks =
      applyKvToCache toDst src dst (some mapping) := by
  have hmap : (src.map toDst).len? = src.len? := rfl
  cases hlen : src.len? <;>
    simp only [injectPrefixKvIntoLayer, applyKvToCache, Option.getD_some, if_pos hmapping, if_neg hmapping, hmap, hlen]

theorem inject_slots (hmapping : mapping ≠ []) (hsrc : src.shape ≠ []) :
    injectPrefixKvIntoLayer toDst dst src (some mapping) matchedBlocks =
      forEach (mapping.take src.rowCount).zipIdx (assignAt (src.map toDst)) dst := by
  have hlen : (src.map toDst).len? = some src.rowCount := Tensor.len?_eq hsrc
  have htake : mapping.take (min src.rowCount mapping.length) = mapping.take src.rowCount := by
    rw [← List.take_eq_take_min]
  simp only [injectPrefixKvIntoLayer, Option.getD_some, if_pos hmapping, hlen, htake]

theorem inject_slots_scalar (hmapping : mapping ≠ []) (hsrc : src.shape = []) :
    injectPrefixKvIntoLayer toDst dst src (some mapping) matchedBlocks = (dst, false) := by
  have hlen : (src.map toDst).len? = none := by
    show src.shape.head? = none
    rw [hsrc, List.head?_nil]
  simp only [injectPrefixKvIntoLayer, Option.getD_some, if_pos hmapping, hlen]

/-- Rows that fit are written, the last one of each slot. -/
theorem inject_slots_fit (toDst : β → α) (matchedBlocks : List ℤ) (hmapping : mapping ≠ [])
    (hsrc : src.shape ≠ []) (hdst : dst.shape ≠ []) (hfit : Tensor.FitsTo src.rowShape dst.rowShape) :
    ∃ dst', injectPrefixKvIntoLayer toDst dst src (some mapping) matchedBlocks = (dst', true) ∧
      dst'.shape = dst.shape ∧
      ∀ k < dst.rowCount, dst'.row? k = (lastPos (mapping.take src.rowCount) (k : ℤ)).elim (dst.row? k)
        (fun i => ((src.map toDst).row? i).bind (fun r => r.fit? dst.rowShape)) := by
  rw [inject_slots hmapping hsrc]
  exact forEach_assignAt (src.map toDst) hdst hfit (by rw [List.length_take]; exact Nat.min_le_left _ _)

/-- Rows that do not fit are not written, and `False` is returned if one was tried. -/
theorem inject_slots_stuck (toDst : β → α) (matchedBlocks : List ℤ) (hmapping : mapping ≠ [])
    (hsrc : src.shape ≠ []) (h : dst.shape = [] ∨ ¬ Tensor.FitsTo src.rowShape dst.rowShape) :
    (injectPrefixKvIntoLayer toDst dst src (some mapping) matchedBlocks).1 = dst ∧
      (dst.shape ≠ [] → ((injectPrefixKvIntoLayer toDst dst src (some mapping) matchedBlocks).2 = false ↔
        ∃ s < dst.rowCount, (s : ℤ) ∈ mapping.take src.rowCount)) := by
  rw [inject_slots hmapping hsrc]
  have hstuck : ∀ round ∈ (mapping.take src.rowCount).zipIdx,
      assignAt (src.map toDst) round dst = some dst ∨ assignAt (src.map toDst) round dst = none :=
    fun _ _ => assignAt_stuck h
  obtain ⟨hstate, hraise⟩ := forEach_stuck hstuck
  refine ⟨hstate, fun hdim => hraise.trans ?_⟩
  have hfit := h.resolve_left hdim
  constructor
  · rintro ⟨⟨s, i⟩, hround, hnone⟩
    by_cases hs : 0 ≤ s ∧ s < dst.rowCount
    · refine ⟨s.toNat, by omega, ?_⟩
      rw [Int.toNat_of_nonneg hs.1]
      exact List.mem_of_getElem? (List.mem_zipIdx_iff_getElem?.mp hround)
    · rw [assignAt_skip hs hdim] at hnone
      cases hnone
  · rintro ⟨s, hs, hmem⟩
    obtain ⟨i, hi⟩ := List.mem_iff_getElem?.mp hmem
    exact ⟨((s : ℤ), i), List.mem_zipIdx_iff_getElem?.mpr hi, assignAt_raises (by omega) (by omega) hfit⟩

/-- The shape of the destination is kept. -/
theorem inject_slots_shape (toDst : β → α) (dst : Tensor α) (matchedBlocks : List ℤ) (hmapping : mapping ≠ [])
    (hsrc : src.shape ≠ []) :
    (injectPrefixKvIntoLayer toDst dst src (some mapping) matchedBlocks).1.shape = dst.shape := by
  by_cases h : dst.shape = [] ∨ ¬ Tensor.FitsTo src.rowShape dst.rowShape
  · rw [(inject_slots_stuck toDst matchedBlocks hmapping hsrc h).1]
  · rw [not_or, not_not] at h
    obtain ⟨dst', hrun, hshape, -⟩ := inject_slots_fit toDst matchedBlocks hmapping hsrc h.1 h.2
    rw [hrun, hshape]

end Slots

end AwareKV
