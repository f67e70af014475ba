import AwareKV.DataService
import AwareKV.GpuApply
import AwareKV.ObjectFormat
import AwareKV.Worker

/-!
# AwareKV.Loader — the loader of critical and refinement tensors

Translation of `start_critical_load`, `apply_refinement_if_ready` and `_apply_refinement_to_layer` of
`connector/loader.py` (its parser is in `AwareKV.ObjectFormat`).  The cache layers are an argument that
is written in place: a function returns them as it leaves them.

* `applyRefinementToLayer_raises`: a layer whose write raises is left alone.
* `applyRefinementToLayer_writes`: any other layer gets the refined rows.
-/

namespace AwareKV

variable {α β : Type}

/-- An entry of `pending_refinements`. -/
structure PendingRefinement (β : Type) where
  tensors : List (Tensor β)
  header : Option PyObj := none
  metadata : DeadlineConnectorMetadata

/-- `RemoteKVLoader`. -/
structure RemoteKVLoader (β : Type) where
  pendingRefinements : Dict ReqId (PendingRefinement β) := .empty

/-! ## Critical load -/

section Critical

variable (rt : Runtime) (fo : FloatOps)

/-- The `try` block of `start_critical_load`: the layers and the number of tokens. -/
def decodeCritical (md : DeadlineConnectorMetadata) (data : Bytes) : Py (List (Tensor Half) × ℤ) := do
  let (header, layers) ← parseAndDecodeObject fo data md.criticalCodec md.numLayers
  match header with
  | some h =>
    let v ← h.attr "ObjectHeader" "matched_tokens"
    let tokens ← v.toInt
    return (layers, tokens)
  | none => return (layers, md.matchedTokens)

/-- `start_critical_load`.  The fetch is outside the `try` block. -/
def startCriticalLoad (network : Bytes → Option Bytes) (md : DeadlineConnectorMetadata) :
    Py (Bool × Option (List (Tensor Half)) × ℤ) :=
  if md.criticalObjectId = "" then .ok (false, none, 0)
  else do
    let data ← criticalFetch md.criticalObjectId
      (DataClient.get rt network (pyStr md.criticalObjectId) .critical (pyStr md.requestId))
    match decodeCritical fo md data with
    | .ok (layers, tokens) => return (true, some layers, tokens)
    | .error _ => return (false, none, 0)

end Critical

/-! ## Refinement -/

section Refinement

variable (toCache : β → α)

/-- A round of the loop of `_apply_refinement_to_layer`. -/
def refineBlock (refinedKv : Tensor β) (round : ℤ × ℕ) (kvCacheLayer : Tensor α) : Option (Tensor α) :=
  if round.1 < 0 then some kvCacheLayer
  else do
    let n ← kvCacheLayer.len?
    if round.1 < n then
      let m ← refinedKv.len?
      if round.2 < m then
        let row ← (refinedKv.map toCache).row? round.2
        kvCacheLayer.copyRow? round.1.toNat row
      else some kvCacheLayer
    else some kvCacheLayer

/-- `_apply_refinement_to_layer`. -/
def applyRefinementToLayer (refinedKv : Tensor β) (kvCacheLayer : Tensor α) (blockIds : List ℤ) :
    Tensor α × Bool :=
  forEach blockIds.zipIdx (refineBlock toCache refinedKv) kvCacheLayer

/-- The loop over the layers in `apply_refinement_if_ready`. -/
def applyRefinementToLayers (blockIds : List ℤ) :
    List (Tensor β) → List (Tensor α) → List (Tensor α) × Bool
  | refinedKv :: refined, kvCacheLayer :: layers =>
    match applyRefinementToLayer toCache refinedKv kvCacheLayer blockIds with
    | (layer, true) =>
      let rest := applyRefinementToLayers blockIds refined layers
      (layer :: rest.1, rest.2)
    | (layer, false) => (layer :: layers, false)
  | _, layers => (layers, true)

/-- `apply_refinement_if_ready`. -/
def RemoteKVLoader.applyRefinementIfReady (loader : RemoteKVLoader β) (rid : ReqId)
    (kvCacheLayers : List (Tensor α)) (allocatedBlockIds : List ℤ) :
    RemoteKVLoader β × List (Tensor α) × Bool :=
  match loader.pendingRefinements.get? rid with
  | none => (loader, kvCacheLayers, false)
  | some data =>
    if data.tensors.length ≠ kvCacheLayers.length then (loader, kvCacheLayers, false)
    else match applyRefinementToLayers toCache allocatedBlockIds data.tensors kvCacheLayers with
      | (layers, true) =>
        ({ pendingRefinements := loader.pendingRefinements.erase rid }, layers, true)
      | (layers, false) => (loader, layers, false)

end Refinement

/-- Writing the refinement into the layer raises: a round looks for rows where there is no dimension, or
copies a row that does not expand to the layer's rows. -/
def RefineRaises (refinedKv : Tensor β) (kvCacheLayer : Tensor α) (blockIds : List ℤ) : Prop :=
  ∃ round ∈ blockIds.zipIdx, 0 ≤ round.1 ∧
    (kvCacheLayer.shape = [] ∨ round.1 < kvCacheLayer.rowCount ∧
      (refinedKv.shape = [] ∨ round.2 < refinedKv.rowCount ∧
        ¬ Tensor.ExpandsTo refinedKv.rowShape kvCacheLayer.rowShape))

instance (refinedKv : Tensor β) (kvCacheLayer : Tensor α) (blockIds : List ℤ) :
    Decidable (RefineRaises refinedKv kvCacheLayer blockIds) :=
  inferInstanceAs (Decidable (∃ round ∈ blockIds.zipIdx, _))

/-- What the loop copies into a row in round `i`. -/
def refinedRow (toCache : β → α) (refinedKv : Tensor β) (kvCacheLayer : Tensor α) (i : ℕ) : Option (Tensor α) :=
  ((refinedKv.map toCache).row? i).bind (fun row => row.expand? kvCacheLayer.rowShape)

variable {toCache : β → α} {refinedKv : Tensor β} {layer : Tensor α} {blockIds : List ℤ} {block : ℤ} {i : ℕ}

theorem refineBlock_neg (h : block < 0) : refineBlock toCache refinedKv (block, i) layer = some layer := by
  rw [refineBlock, if_pos h]

theorem refineBlock_out (h0 : 0 ≤ block) (hdim : layer.shape ≠ []) (h : ¬ block < layer.rowCount) :
    refineBlock toCache refinedKv (block, i) layer = some layer := by
  rw [refineBlock, if_neg (not_lt.mpr h0), Tensor.len?_eq hdim, Option.bind_eq_bind, Option.bind_some, if_neg h]

theorem refineBlock_in (h0 : 0 ≤ block) (h : block < layer.rowCount) (hdim : refinedKv.shape ≠ []) :
    refineBlock toCache refinedKv (block, i) layer =
      if i < refinedKv.rowCount then (refinedRow toCache refinedKv layer i).map (layer.setRow block.toNat)
      else some layer := by
  have hin : block.toNat < layer.rowCount := by omega
  rw [refineBlock, if_neg (not_lt.mpr h0), Tensor.len?_of_lt hin, Tensor.len?_eq hdim]
  simp only [Option.bind_eq_bind, Option.bind_some, if_pos h, refinedRow, Tensor.copyRow?]
  split_ifs
  · rw [Option.map_bind]
    rfl
  · rfl

theorem refineBlock_scalar (h0 : 0 ≤ block)
    (h : layer.shape = [] ∨ block < layer.rowCount ∧ refinedKv.shape = []) :
    refineBlock toCache refinedKv (block, i) layer = none := by
  rw [refineBlock, if_neg (not_lt.mpr h0)]
  rcases h with hs | ⟨hlt, hs⟩
  · rw [Tensor.len?, hs]
    rfl
  · have hin : block.toNat < layer.rowCount := by omega
    rw [Tensor.len?_of_lt hin, Option.bind_eq_bind, Option.bind_some, if_pos hlt, Tensor.len?, hs]
    rfl

/-- The row of a round exists exactly if it expands to the layer's rows. -/
theorem refinedRow_isSome (toCache : β → α) (h : i < refinedKv.rowCount) :
    (refinedRow toCache refinedKv layer i).isSome = true ↔
      Tensor.ExpandsTo refinedKv.rowShape layer.rowShape := by
  have hrow := Tensor.row?_of_lt (t := refinedKv.map toCache) h
  rw [refinedRow, hrow, Option.bind_some, Tensor.expand?_isSome]
  rfl

/-- **A layer whose write raises is left as it is**: all rows have one shape, so the first row that is
copied already raises. -/
theorem applyRefinementToLayer_raises (h : RefineRaises refinedKv layer blockIds) :
    applyRefinementToLayer toCache refinedKv layer blockIds = (layer, false) := by
  obtain ⟨⟨b, i⟩, hmem, h0, hwhy⟩ := h
  dsimp only at h0 hwhy
  have hraise : refineBlock toCache refinedKv (b, i) layer = none := by
    rcases hwhy with hs | ⟨hlt, hs | ⟨hi, hno⟩⟩
    · exact refineBlock_scalar h0 (Or.inl hs)
    · exact refineBlock_scalar h0 (Or.inr ⟨hlt, hs⟩)
    · rw [← refinedRow_isSome toCache hi, Option.not_isSome_iff_eq_none] at hno
      rw [refineBlock_in h0 hlt (Tensor.shape_ne_nil_of_lt hi), if_pos hi, hno, Option.map_none]
  have hstuck : ∀ round ∈ blockIds.zipIdx, refineBlock toCache refinedKv round layer = some layer ∨
      refineBlock toCache refinedKv round layer = none := by
    rintro ⟨c, j⟩ -
    by_cases hc : c < 0
    · exact Or.inl (refineBlock_neg hc)
    by_cases hdim : layer.shape = []
    · exact Or.inr (refineBlock_scalar (not_lt.mp hc) (Or.inl hdim))
    by_cases hlt : c < layer.rowCount
    · by_cases hsrc : refinedKv.shape = []
      · exact Or.inr (refineBlock_scalar (not_lt.mp hc) (Or.inr ⟨hlt, hsrc⟩))
      rw [refineBlock_in (not_lt.mp hc) hlt hsrc]
      by_cases hj : j < refinedKv.rowCount
      · have hno : ¬ Tensor.ExpandsTo refinedKv.rowShape layer.rowShape := by
          rcases hwhy with hs | ⟨-, hs | ⟨-, hno⟩⟩
          · exact absurd hs hdim
          · exact absurd hs hsrc
          · exact hno
        rw [← refinedRow_isSome toCache hj, Option.not_isSome_iff_eq_none] at hno
        rw [if_pos hj, hno]
        exact Or.inr rfl
      · exact Or.inl (if_neg hj)
    · exact Or.inl (refineBlock_out (not_lt.mp hc) hdim hlt)
  obtain ⟨hstate, hend⟩ := forEach_stuck hstuck
  exact Prod.ext hstate (hend.mpr ⟨(b, i), hmem, hraise⟩)

/-- **Any other layer** holds in every row what was copied into it last. -/
theorem applyRefinementToLayer_writes (toCache : β → α) (h : ¬ RefineRaises refinedKv layer blockIds) :
    ∃ layer', applyRefinementToLayer toCache refinedKv layer blockIds = (layer', true) ∧
      layer'.shape = layer.shape ∧
      ∀ k < layer.rowCount, layer'.row? k =
        (lastPos (blockIds.take refinedKv.rowCount) (k : ℤ)).elim (layer.row? k)
          (refinedRow toCache refinedKv layer) := by
  refine Tensor.forEach_setRow _ _ rfl refinedKv.rowCount (refinedRow toCache refinedKv layer) ?_ ?_
  · intro x i s hx hs hi h0 hlt
    have hexpand : Tensor.ExpandsTo refinedKv.rowShape layer.rowShape := by
      by_contra hno
      exact h ⟨(x, i), List.mem_zipIdx_iff_getElem?.mpr hx, h0, Or.inr ⟨hlt, Or.inr ⟨hi, hno⟩⟩⟩
    obtain ⟨r, hr⟩ := Option.isSome_iff_exists.mp ((refinedRow_isSome toCache hi).mpr hexpand)
    have hsame : refinedRow toCache refinedKv s i = refinedRow toCache refinedKv layer i := by
      rw [refinedRow, refinedRow, Tensor.rowShape_congr hs]
    refine ⟨r, hr, ?_, ?_⟩
    · obtain ⟨row, -, hrow⟩ := Option.bind_eq_some_iff.mp hr
      exact Tensor.expand?_shape hrow
    · rw [refineBlock_in h0 (Tensor.rowCount_congr hs ▸ hlt) (Tensor.shape_ne_nil_of_lt hi), if_pos hi, hsame,
        hr, Option.map_some]
  · intro x i s hx hs hno
    by_cases hx0 : x < 0
    · exact refineBlock_neg hx0
    have hround : (x, i) ∈ blockIds.zipIdx := List.mem_zipIdx_iff_getElem?.mpr hx
    have hdim : layer.shape ≠ [] := fun hl => h ⟨(x, i), hround, not_lt.mp hx0, Or.inl hl⟩
    by_cases hlt : x < layer.rowCount
    · have hsrc : refinedKv.shape ≠ [] := fun hl =>
        h ⟨(x, i), hround, not_lt.mp hx0, Or.inr ⟨hlt, Or.inl hl⟩⟩
      rw [refineBlock_in (not_lt.mp hx0) (Tensor.rowCount_congr hs ▸ hlt) hsrc,
        if_neg fun hi => hno ⟨hi, not_lt.mp hx0, hlt⟩]
    · exact refineBlock_out (not_lt.mp hx0) (hs ▸ hdim) (Tensor.rowCount_congr hs ▸ hlt)

end AwareKV
