import AwareKV.Loader

/-!
# AwareKV.RefinementApply — what a refinement does to the cache layers

A refinement is written layer by layer, into the cache that the request decodes on.

* `refinement_atomic_iff`: a refinement that fails has changed nothing exactly when the layers before the
  one that raises held the refined rows already; nothing is rolled back.
* `refinement_absorbs_critical`: a refinement with as many rows as the critical tensor leaves nothing of
  it, and does what it does without it.
-/

namespace AwareKV

variable {α β γ : Type}

/-! ## Failed refinements -/

section Atomic

variable {toCache : β → α} {blockIds : List ℤ}

/-- The layer holds the rows that the refinement would copy into it. -/
def AlreadyRefined (toCache : β → α) (blockIds : List ℤ) (refinedKv : Tensor β) (kvCacheLayer : Tensor α) :
    Prop :=
  ∀ k < kvCacheLayer.rowCount, ∀ i, lastPos (blockIds.take refinedKv.rowCount) (k : ℤ) = some i →
    refinedRow toCache refinedKv kvCacheLayer i = kvCacheLayer.row? k

/-- A layer without dimensions is never written. -/
theorem applyRefinementToLayer_scalar (toCache : β → α) (refinedKv : Tensor β) (blockIds : List ℤ)
    {layer : Tensor α} (hs : layer.shape = []) :
    (applyRefinementToLayer toCache refinedKv layer blockIds).1 = layer := by
  refine (forEach_stuck ?_).1
  rintro ⟨b, i⟩ -
  by_cases hb : b < 0
  · exact Or.inl (refineBlock_neg hb)
  · exact Or.inr (refineBlock_scalar (not_lt.mp hb) (Or.inl hs))

/-- A layer that is written stays the same exactly when it is refined already. -/
theorem applyRefinementToLayer_unchanged {refinedKv : Tensor β} {layer layer' : Tensor α}
    (h : applyRefinementToLayer toCache refinedKv layer blockIds = (layer', true)) :
    layer' = layer ↔ AlreadyRefined toCache blockIds refinedKv layer := by
  have hok : ¬ RefineRaises refinedKv layer blockIds := by
    intro hraise
    rw [applyRefinementToLayer_raises hraise] at h
    exact absurd (congrArg Prod.snd h) Bool.false_ne_true
  obtain ⟨written, hwritten, hshape, hrows⟩ := applyRefinementToLayer_writes toCache hok
  obtain rfl : written = layer' := congrArg Prod.fst (hwritten.symm.trans h)
  by_cases hdim : layer.shape = []
  · have hcount : layer.rowCount = 0 := by rw [Tensor.rowCount, hdim, List.headD_nil]
    have hsame : written = layer := by
      rw [← applyRefinementToLayer_scalar toCache refinedKv blockIds hdim, h]
    refine iff_of_true hsame fun k hk => ?_
    rw [hcount] at hk
    exact absurd hk (Nat.not_lt_zero k)
  constructor
  · rintro rfl k hk i hi
    have hrow := hrows k hk
    rw [hi, Option.elim_some] at hrow
    exact hrow.symm
  · intro halready
    refine Tensor.ext_rows (hshape ▸ hdim) hshape fun k hk => ?_
    have hk' : k < layer.rowCount := Tensor.rowCount_congr hshape ▸ hk
    rw [hrows k hk']
    cases hpos : lastPos (blockIds.take refinedKv.rowCount) (k : ℤ) with
    | none => rfl
    | some i => exact halready k hk' i hpos

/-- The loop over the layers comes to its end exactly when no layer raises. -/
theorem applyRefinementToLayers_returns (refined : List (Tensor β)) (layers : List (Tensor α)) :
    (applyRefinementToLayers toCache blockIds refined layers).2 = false ↔
      ∃ p ∈ refined.zip layers, RefineRaises p.1 p.2 blockIds := by
  induction refined generalizing layers with
  | nil => simp [applyRefinementToLayers]
  | cons r rs ih =>
    cases layers with
    | nil => simp [applyRefinementToLayers]
    | cons k ks =>
      rw [applyRefinementToLayers, List.zip_cons_cons, List.exists_mem_cons_iff]
      by_cases hraise : RefineRaises r k blockIds
      · rw [applyRefinementToLayer_raises hraise]
        exact iff_of_true rfl (Or.inl hraise)
      · obtain ⟨k', hk', -, -⟩ := applyRefinementToLayer_writes toCache hraise
        rw [hk', or_iff_right hraise]
        exact ih ks

/-- **A loop that is cut short** leaves the layers as they were exactly when those before the layer that
raises are refined already. -/
theorem applyRefinementToLayers_unchanged (toCache : β → α) (refined : List (Tensor β)) (layers : List (Tensor α)) :
    ((applyRefinementToLayers toCache blockIds refined layers).2 = false →
        (applyRefinementToLayers toCache blockIds refined layers).1 = layers) ↔
      ((∃ p ∈ refined.zip layers, RefineRaises p.1 p.2 blockIds) →
        ∀ p ∈ (refined.zip layers).takeWhile (fun p => ¬ RefineRaises p.1 p.2 blockIds),
          AlreadyRefined toCache blockIds p.1 p.2) := by
  induction refined generalizing layers with
  | nil => simp [applyRefinementToLayers]
  | cons r rs ih =>
    cases layers with
    | nil => simp [applyRefinementToLayers]
    | cons k ks =>
      by_cases hraise : RefineRaises r k blockIds
      · -- the first layer raises: nothing is written, and no layer stands before it
        rw [applyRefinementToLayers, applyRefinementToLayer_raises hraise, List.zip_cons_cons,
          List.takeWhile_cons_of_neg (by simpa using hraise)]
        exact iff_of_true (fun _ => rfl) fun _ p hp => absurd hp List.not_mem_nil
      · obtain ⟨k', hk', -, -⟩ := applyRefinementToLayer_writes toCache hraise
        have hrest := ih ks
        rw [applyRefinementToLayers_returns] at hrest
        rw [applyRefinementToLayers_returns, applyRefinementToLayers, hk', List.zip_cons_cons,
          List.exists_mem_cons_iff, or_iff_right hraise, List.takeWhile_cons_of_pos (by simpa using hraise)]
        simp only [List.cons.injEq, applyRefinementToLayer_unchanged hk', List.forall_mem_cons]
        constructor
        · intro h hex
          exact ⟨(h hex).1, hrest.mp (fun hex => (h hex).2) hex⟩
        · intro h hex
          exact ⟨(h hex).1, hrest.mpr (fun hex => (h hex).2) hex⟩

/-- **A refinement that fails has changed nothing** exactly when it is not there, has another number of
layers, or is cut short after layers that held the refined rows already. -/
theorem refinement_atomic_iff (toCache : β → α) (loader : RemoteKVLoader β) (rid : ReqId)
    (kvCacheLayers : List (Tensor α)) (blockIds : List ℤ) :
    ((loader.applyRefinementIfReady toCache rid kvCacheLayers blockIds).2.2 = false →
        (loader.applyRefinementIfReady toCache rid kvCacheLayers blockIds).2.1 = kvCacheLayers) ↔
      ∀ data, loader.pendingRefinements.get? rid = some data → data.tensors.length = kvCacheLayers.length →
        (∃ p ∈ data.tensors.zip kvCacheLayers, RefineRaises p.1 p.2 blockIds) →
          ∀ p ∈ (data.tensors.zip kvCacheLayers).takeWhile (fun p => ¬ RefineRaises p.1 p.2 blockIds),
            AlreadyRefined toCache blockIds p.1 p.2 := by
  unfold RemoteKVLoader.applyRefinementIfReady
  cases hdata : loader.pendingRefinements.get? rid with
  | none => exact iff_of_true (fun _ => rfl) (fun data h => absurd h (by simp))
  | some data =>
    simp only [Option.some.injEq, forall_eq']
    by_cases hlen : data.tensors.length = kvCacheLayers.length
    · rw [if_neg (not_not.mpr hlen), forall_prop_of_true hlen,
        ← applyRefinementToLayers_unchanged toCache]
      rcases hrun : applyRefinementToLayers toCache blockIds data.tensors kvCacheLayers with ⟨layers, _ | _⟩
      · rfl
      · simp
    · rw [if_pos hlen]
      exact iff_of_true (fun _ => rfl) fun h => absurd h hlen

/-- A refinement of two layers: one row that fits and one row of two elements for a row of three. -/
def misshapenRefinement : RemoteKVLoader Half :=
  { pendingRefinements := Dict.empty.insert "r"
      { tensors := [⟨[1, 1], [7], rfl⟩, ⟨[1, 2], [7, 7], rfl⟩],
        metadata := { requestId := "r", planMode := .criticalInt8ThenFp16 } } }

/-- It is reported as failed, and the first layer is overwritten. -/
theorem refinement_half_applied :
    ¬ ∀ (loader : RemoteKVLoader Half) (rid : ReqId) (kvCacheLayers : List (Tensor Half)) (blockIds : List ℤ),
      (loader.applyRefinementIfReady id rid kvCacheLayers blockIds).2.2 = false →
        (loader.applyRefinementIfReady id rid kvCacheLayers blockIds).2.1 = kvCacheLayers := by
  intro h
  have hrun := h misshapenRefinement "r" [⟨[1, 1], [0], rfl⟩, ⟨[1, 3], [0, 0, 0], rfl⟩] [0] (by decide +kernel)
  revert hrun
  decide +kernel

end Atomic

/-! ## Refinements over critical tensors -/

section Absorb

/-- The layer `final` is `layer` with the rows of `refinedKv` in the listed blocks. -/
structure Refined (toCache : γ → α) (refinedKv : Tensor γ) (blockIds : List ℤ) (layer final : Tensor α) :
    Prop where
  shape : final.shape = layer.shape
  listed : ∀ b < layer.rowCount, ∀ i, blockIds[i]? = some (b : ℤ) → (∀ j, i < j → blockIds[j]? ≠ some (b : ℤ)) →
    final.row? b = (refinedKv.map toCache).row? i
  others : ∀ b < layer.rowCount, (b : ℤ) ∉ blockIds → final.row? b = layer.row? b

/-- The listed rows, by the last position of a block. -/
theorem refined_of_rows {toCache : γ → α} {refinedKv : Tensor γ} {blockIds : List ℤ} {layer final : Tensor α}
    (hshape : final.shape = layer.shape)
    (hrows : ∀ b < layer.rowCount, final.row? b =
      (lastPos blockIds (b : ℤ)).elim (layer.row? b) (refinedKv.map toCache).row?) :
    Refined toCache refinedKv blockIds layer final := by
  refine ⟨hshape, fun b hb i hi hlast => ?_, fun b hb hno => ?_⟩
  · rw [hrows b hb, lastPos_eq_some.mpr ⟨hi, hlast⟩, Option.elim_some]
  · rw [hrows b hb, lastPos_eq_none.mpr hno, Option.elim_none]

/-- Two layers that are refined from layers which agree on the other blocks are the same. -/
theorem refined_unique {toCache : γ → α} {refinedKv : Tensor γ} {blockIds : List ℤ}
    {layer layer' final final' : Tensor α} (hdim : layer.shape ≠ []) (hsame : layer'.shape = layer.shape)
    (hothers : ∀ b < layer.rowCount, (b : ℤ) ∉ blockIds → layer'.row? b = layer.row? b)
    (h : Refined toCache refinedKv blockIds layer final)
    (h' : Refined toCache refinedKv blockIds layer' final') : final' = final := by
  have hcount : layer'.rowCount = layer.rowCount := Tensor.rowCount_congr hsame
  refine Tensor.ext_rows ?_ ?_ fun b hb => ?_
  · rw [h'.shape, hsame]
    exact hdim
  · rw [h'.shape, hsame, h.shape]
  · rw [Tensor.rowCount_congr h'.shape, hcount] at hb
    cases hpos : lastPos blockIds (b : ℤ) with
    | none =>
      have hno := lastPos_eq_none.mp hpos
      rw [h'.others b (hcount ▸ hb) hno, h.others b hb hno, hothers b hb hno]
    | some i =>
      obtain ⟨hi, hlast⟩ := lastPos_eq_some.mp hpos
      rw [h'.listed b (hcount ▸ hb) i hi hlast, h.listed b hb i hi hlast]

variable {toCache : β → α} {kv : Tensor β} {cache : Tensor α} {blockIds : List ℤ}

/-- Rows of the cache's shape, one for each listed block. -/
structure RowsFor (kv : Tensor β) (cache : Tensor α) (blockIds : List ℤ) : Prop where
  cache_dim : cache.shape ≠ []
  rowShape : kv.rowShape = cache.rowShape
  enough : blockIds.length ≤ kv.rowCount

/-- Rows of the cache's shape are assigned as they are. -/
theorem assignBlocks_refined (toCache : β → α) (h : RowsFor kv cache blockIds) :
    ∃ final, assignBlocks toCache kv cache blockIds = (final, true) ∧
      Refined toCache kv blockIds cache final := by
  obtain ⟨final, hrun, hshape, hrows⟩ := forEach_assignAt (kv.map toCache) h.cache_dim
    (Or.inl h.rowShape) h.enough
  refine ⟨final, hrun, refined_of_rows hshape fun b hb => ?_⟩
  have hfit : (fun i => ((kv.map toCache).row? i).bind (fun r => r.fit? cache.rowShape)) =
      (kv.map toCache).row? := by
    funext i
    cases hrow : (kv.map toCache).row? i with
    | none => rfl
    | some r => exact Tensor.fit?_self ((Tensor.row?_shape hrow).trans h.rowShape)
  rw [hrows b hb, hfit]

/-- The loader copies them as they are. -/
theorem applyRefinementToLayer_refined (toCache : β → α) (h : RowsFor kv cache blockIds) :
    ∃ final, applyRefinementToLayer toCache kv cache blockIds = (final, true) ∧
      Refined toCache kv blockIds cache final := by
  have hok : ¬ RefineRaises kv cache blockIds := by
    rintro ⟨⟨b, i⟩, hround, -, hwhy⟩
    have hi : i < kv.rowCount :=
      Nat.lt_of_lt_of_le (List.getElem?_eq_some_iff.mp (List.mem_zipIdx_iff_getElem?.mp hround)).1 h.enough
    rcases hwhy with hs | ⟨-, hs | ⟨-, hno⟩⟩
    · exact h.cache_dim hs
    · exact Tensor.shape_ne_nil_of_lt hi hs
    · exact hno (h.rowShape ▸ Tensor.expandsTo_self kv.rowShape)
  obtain ⟨final, hrun, hshape, hrows⟩ := applyRefinementToLayer_writes toCache hok
  refine ⟨final, hrun, refined_of_rows hshape fun b hb => ?_⟩
  have hrow : refinedRow toCache kv cache = (kv.map toCache).row? := by
    funext i
    unfold refinedRow
    cases hrow : (kv.map toCache).row? i with
    | none => rfl
    | some r => exact Tensor.expand?_self ((Tensor.row?_shape hrow).trans h.rowShape)
  rw [hrows b hb, List.take_of_length_le h.enough, hrow]

end Absorb

/-- **A refinement absorbs the critical tier**: applied after the critical rows it gives the layer that it
gives alone, the refined row of the last position of every listed block and the old row elsewhere.  This
is so for the loader's method and for `gpu_apply`. -/
theorem refinement_absorbs_critical (toCache : β → α) (toCache' : γ → α) {n m : ℕ} {dims : List ℕ}
    {cache : Tensor α} (hcache : cache.shape = n :: dims) {decodedKv : Tensor β} (hd : decodedKv.shape = m :: dims)
    {refinedKv : Tensor γ} (hr : refinedKv.shape = m :: dims) {blockIds : List ℤ} (hm : blockIds.length ≤ m) :
    ∃ critical final, applyCriticalKv toCache decodedKv cache blockIds = (critical, true) ∧
      Refined toCache' refinedKv blockIds cache final ∧
      ∀ apply ∈ [applyRefinementToLayer toCache' refinedKv, applyRefinementKv toCache' refinedKv],
        apply critical blockIds = (final, true) ∧ apply cache blockIds = (final, true) := by
  have hrowsFor : ∀ {δ : Type} {kv : Tensor δ} {layer : Tensor α}, kv.shape = m :: dims →
      layer.shape = n :: dims → RowsFor kv layer blockIds := by
    intro δ kv layer hkv hlayer
    obtain ⟨-, hcount, hdims⟩ := Tensor.of_shape_cons hkv
    obtain ⟨hne, -, hdims'⟩ := Tensor.of_shape_cons hlayer
    exact ⟨hne, hdims.trans hdims'.symm, by rwa [hcount]⟩
  obtain ⟨critical, hcritical, hwritten⟩ := assignBlocks_refined toCache (hrowsFor hd hcache)
  obtain ⟨final, hfinal, hrefined⟩ := applyRefinementToLayer_refined toCache' (hrowsFor hr hcache)
  -- whatever refines one of the two layers refines it to `final`
  have halone : ∀ final', Refined toCache' refinedKv blockIds cache final' → final' = final := fun _ h =>
    refined_unique (hrowsFor hr hcache).cache_dim rfl (fun _ _ _ => rfl) hrefined h
  have hafter : ∀ final', Refined toCache' refinedKv blockIds critical final' → final' = final := fun _ h =>
    refined_unique (hrowsFor hr hcache).cache_dim hwritten.shape hwritten.others hrefined h
  have hcrit : critical.shape = n :: dims := hwritten.shape.trans hcache
  refine ⟨critical, final, hcritical, hrefined, ?_⟩
  simp only [List.forall_mem_cons, List.not_mem_nil, false_implies, implies_true, and_true]
  refine ⟨⟨?_, hfinal⟩, ?_, ?_⟩
  · obtain ⟨final', hrun, h⟩ := applyRefinementToLayer_refined toCache' (hrowsFor hr hcrit)
    rw [hrun, hafter final' h]
  · obtain ⟨final', hrun, h⟩ := assignBlocks_refined toCache' (hrowsFor hr hcrit)
    rw [applyRefinementKv, hrun, hafter final' h]
  · obtain ⟨final', hrun, h⟩ := assignBlocks_refined toCache' (hrowsFor hr hcache)
    rw [applyRefinementKv, hrun, halone final' h]

/-- Blocks 1, -1, 1 and 5 of a layer of two rows. -/
theorem refinement_absorbs_critical_repeated :
    ∃ critical final : Tensor Half,
      applyCriticalKv id ⟨[4, 1], [1, 2, 3, 4], rfl⟩ ⟨[2, 1], [0, 0], rfl⟩ [1, -1, 1, 5] = (critical, true) ∧
      Refined id ⟨[4, 1], [5, 6, 7, 8], rfl⟩ [1, -1, 1, 5] ⟨[2, 1], [0, 0], rfl⟩ final ∧
      ∀ apply ∈ [applyRefinementToLayer id ⟨[4, 1], [5, 6, 7, 8], rfl⟩,
          applyRefinementKv id ⟨[4, 1], [5, 6, 7, 8], rfl⟩],
        apply critical [1, -1, 1, 5] = (final, true) ∧
          apply ⟨[2, 1], [0, 0], rfl⟩ [1, -1, 1, 5] = (final, true) :=
  refinement_absorbs_critical id id rfl rfl rfl (by decide)

end AwareKV
