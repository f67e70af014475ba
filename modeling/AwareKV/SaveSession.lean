import AwareKV.Lib.Dict
import AwareKV.Lib.Tensor
import AwareKV.Types
import Mathlib.Data.List.Sort

/-!
# AwareKV.SaveSession — collecting a request's layers

Translation of `connector/save_session.py` and of `extract_prefix_kv_from_layer` of
`connector/paged_kv_ops.py`, over tensors with any element type.
-/

namespace AwareKV

variable {α : Type}

/-! ## Save sessions -/

/-- `LayerKVData`; the shape is the tensor's. -/
structure LayerKVData (α : Type) where
  layerIdx : ℤ
  layerName : String
  kvTensor : Tensor α
  deriving DecidableEq

/-- `SaveSession`. -/
structure SaveSession (α : Type) where
  requestId : ReqId
  prefixKey : String
  matchedTokens : ℤ
  matchedBlocks : List ℤ
  numLayers : ℤ
  layerData : Dict ℤ (LayerKVData α) := .empty
  completed : Bool := false
  aborted : Bool := false
  abortReason : Option String := none
  deriving DecidableEq

namespace SaveSession

/-- `SaveSession(request_id, …)`. -/
def new (requestId : ReqId) (prefixKey : String) (matchedTokens : ℤ) (matchedBlocks : List ℤ)
    (numLayers : ℤ) : SaveSession α :=
  { requestId, prefixKey, matchedTokens, matchedBlocks, numLayers }

/-- The index of a layer to add: the number after the last underscore, or the number of layers added
so far. -/
def layerIdxOf (s : SaveSession α) (layerName : String) : ℤ :=
  if '_' ∈ layerName.toList then
    (parseInt (lastPart '_' layerName.toList)).getD s.layerData.size
  else s.layerData.size

/-- `add_layer`. -/
def addLayer (s : SaveSession α) (layerName : String) (kvTensor : Tensor α) : SaveSession α × Bool :=
  if s.completed || s.aborted then (s, false)
  else
    let layerIdx := s.layerIdxOf layerName
    if s.numLayers ≤ layerIdx then (s, false)
    else if s.layerData.contains layerIdx then (s, false)
    else
      ({ s with layerData := s.layerData.insert layerIdx ⟨layerIdx, layerName, kvTensor⟩ }, true)

/-- `is_complete`. -/
def isComplete (s : SaveSession α) : Bool := s.numLayers ≤ s.layerData.size

/-- `get_all_layers`. -/
def getAllLayers (s : SaveSession α) : List (LayerKVData α) :=
  (s.layerData.keys.insertionSort (· ≤ ·)).filterMap s.layerData.get?

/-- `abort`. -/
def abort (s : SaveSession α) (reason : String) : SaveSession α :=
  { s with aborted := true, abortReason := some reason }

/-- `session.num_layers_saved()`: the class has no such attribute. -/
def numLayersSaved (_ : SaveSession α) : Py ℤ :=
  .error ⟨.attributeError, "'SaveSession' object has no attribute 'num_layers_saved'"⟩

/-- The session takes layers. -/
def Open (s : SaveSession α) : Prop := s.completed = false ∧ s.aborted = false

/-- **What `add_layer` does** on an open session: the index is too large or taken, or the layer is
stored. -/
inductive Added (s : SaveSession α) (layerName : String) (t : Tensor α) : SaveSession α × Bool → Prop
  | refused (h : s.numLayers ≤ s.layerIdxOf layerName ∨ s.layerIdxOf layerName ∈ s.layerData.keys) :
      Added s layerName t (s, false)
  | stored (hlt : s.layerIdxOf layerName < s.numLayers)
      (hnew : s.layerData.get? (s.layerIdxOf layerName) = none) :
      Added s layerName t
        ({ s with
            layerData := s.layerData.insert (s.layerIdxOf layerName) ⟨s.layerIdxOf layerName, layerName, t⟩ },
          true)

theorem Open.addLayer {s : SaveSession α} (h : s.Open) (layerName : String) (t : Tensor α) :
    Added s layerName t (s.addLayer layerName t) := by
  have hopen : ¬ (s.completed || s.aborted) = true := by
    rw [h.1, h.2]
    decide
  unfold SaveSession.addLayer
  rw [if_neg hopen]
  dsimp only
  split_ifs with hlarge htaken
  · exact .refused (Or.inl hlarge)
  · exact .refused (Or.inr (Dict.contains_iff.mp htaken))
  · refine .stored (not_le.mp hlarge) ?_
    rwa [Dict.get?_eq_none_iff, ← Dict.contains_iff]

/-- A layer that is there stays; the layer of the call is added where its index allows it. -/
theorem Open.get?_addLayer {s : SaveSession α} (h : s.Open) (layerName : String) (t : Tensor α) (i : ℤ) :
    (s.addLayer layerName t).1.layerData.get? i = (s.layerData.get? i).or
      (if s.layerIdxOf layerName = i ∧ s.layerIdxOf layerName < s.numLayers then
        some ⟨s.layerIdxOf layerName, layerName, t⟩ else none) := by
  have hadded := h.addLayer layerName t
  generalize s.addLayer layerName t = r at hadded ⊢
  cases hadded with
  | refused hrefused =>
    by_cases hi : s.layerIdxOf layerName = i ∧ s.layerIdxOf layerName < s.numLayers
    · obtain ⟨d, hd⟩ := Dict.mem_keys_iff.mp (hrefused.resolve_left (not_le.mpr hi.2))
      rw [← hi.1, hd]
      rfl
    · rw [if_neg hi, Option.or_none]
  | stored hlt hnew =>
    rw [Dict.get?_insert]
    by_cases hi : i = s.layerIdxOf layerName
    · rw [if_pos hi, if_pos ⟨hi.symm, hlt⟩, hi, hnew, Option.none_or]
    · rw [if_neg hi, if_neg fun hboth => hi hboth.1.symm, Option.or_none]

/-- When `add_layer` answers `True`. -/
theorem Open.addLayer_eq_true {s : SaveSession α} (h : s.Open) (layerName : String) (t : Tensor α) :
    (s.addLayer layerName t).2 = true ↔
      s.layerIdxOf layerName < s.numLayers ∧ s.layerData.get? (s.layerIdxOf layerName) = none := by
  have hadded := h.addLayer layerName t
  generalize s.addLayer layerName t = r at hadded ⊢
  cases hadded with
  | refused hrefused =>
    rw [Dict.get?_eq_none_iff, ← not_le, ← not_or]
    exact iff_of_false Bool.false_ne_true fun hneither => hneither hrefused
  | stored hlt hnew => exact iff_of_true rfl ⟨hlt, hnew⟩

@[simp] theorem addLayer_completed (s : SaveSession α) (layerName : String) (t : Tensor α) :
    (s.addLayer layerName t).1.completed = s.completed := by
  simp only [addLayer]
  split_ifs <;> rfl

@[simp] theorem addLayer_numLayers (s : SaveSession α) (layerName : String) (t : Tensor α) :
    (s.addLayer layerName t).1.numLayers = s.numLayers := by
  simp only [addLayer]
  split_ifs <;> rfl

@[simp] theorem addLayer_aborted (s : SaveSession α) (layerName : String) (t : Tensor α) :
    (s.addLayer layerName t).1.aborted = s.aborted := by
  simp only [addLayer]
  split_ifs <;> rfl

end SaveSession

/-! ## Extraction of the prefix -/

/-- The blocks of a list that a layer has. -/
def blocksIn (n : ℕ) (blocks : List ℤ) : List ℕ :=
  (blocks.filter (fun b => 0 ≤ b ∧ b < (n : ℤ))).map Int.toNat

/-- The `try` block of `extract_prefix_kv_from_layer`; `none` for an exception. -/
def extractAttempt (kvLayer : Tensor α) (slotMapping : Option (List ℤ)) (matchedBlocks : List ℤ)
    (matchedTokens : ℤ) : Option (Tensor α) :=
  let validSlots := (slotMapping.getD []).filter (fun s => 0 ≤ s)
  if validSlots ≠ [] then
    kvLayer.gather? ((slice validSlots 0 matchedTokens).map Int.toNat)
  else if matchedBlocks ≠ [] ∧ kvLayer.shape = [] then none
  else
    let blocks := blocksIn (kvLayer.shape.headD 0) matchedBlocks
    if blocks ≠ [] then kvLayer.gather? blocks else kvLayer.takeRows matchedTokens

/-- `extract_prefix_kv_from_layer`: the fallback is the first tokens of the layer. -/
def extractPrefixKvFromLayer (kvLayer : Tensor α) (slotMapping : Option (List ℤ))
    (matchedBlocks : List ℤ) (matchedTokens : ℤ) : Py (Tensor α) :=
  match extractAttempt kvLayer slotMapping matchedBlocks matchedTokens with
  | some t => .ok t
  | none =>
    match kvLayer.shape, kvLayer.takeRows (min matchedTokens (kvLayer.shape.headD 0)) with
    | _ :: _, some t => .ok t
    | _, _ => .error ⟨.indexError, "tuple index out of range"⟩

/-- **Extraction only fails for tensors without dimensions.** -/
theorem extractPrefixKvFromLayer_ok_iff (kvLayer : Tensor α) (slotMapping : Option (List ℤ))
    (matchedBlocks : List ℤ) (matchedTokens : ℤ) :
    (∃ t, extractPrefixKvFromLayer kvLayer slotMapping matchedBlocks matchedTokens = .ok t) ↔
      kvLayer.shape ≠ [] := by
  unfold extractPrefixKvFromLayer
  cases hs : kvLayer.shape with
  | nil =>
    have hnone : extractAttempt kvLayer slotMapping matchedBlocks matchedTokens = none := by
      unfold extractAttempt
      simp only [Tensor.gather?_scalar hs, Tensor.takeRows, ite_self]
    simp [hnone]
  | cons n dims =>
    obtain ⟨u, hu⟩ := Tensor.takeRows_isSome hs (min matchedTokens n)
    simp only [List.headD_cons, hu]
    cases extractAttempt kvLayer slotMapping matchedBlocks matchedTokens <;> simp

end AwareKV
