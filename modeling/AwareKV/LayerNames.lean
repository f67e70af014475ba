import AwareKV.SessionRuns
import AwareKV.Worker

/-!
# AwareKV.LayerNames — two readings of a layer's name

`add_layer` and `_extract_layer_idx` take the number after the last underscore of a name.  Where there is
none, `add_layer` counts the layers stored so far; `_extract_layer_idx` reads the whole name, or raises.

* `extract_stored_iff`: when a stored layer's name leads back to its index.
-/

namespace AwareKV

variable {α : Type}

namespace SaveSession

/-- `add_layer` stores the layer under the index `i`. -/
def StoresUnder (s : SaveSession α) (layerName : String) (t : Tensor α) (i : ℤ) : Prop :=
  (s.addLayer layerName t).2 = true ∧
    (s.addLayer layerName t).1.layerData = s.layerData.insert i ⟨i, layerName, t⟩ ∧
    s.layerData.get? i = none

instance [DecidableEq α] (s : SaveSession α) (layerName : String) (t : Tensor α) (i : ℤ) :
    Decidable (s.StoresUnder layerName t i) :=
  inferInstanceAs (Decidable (_ ∧ _ ∧ _))

/-- The index is the one that `add_layer` computes. -/
theorem StoresUnder.layerIdxOf_eq {s : SaveSession α} {layerName : String} {t : Tensor α} {i : ℤ}
    (h : s.StoresUnder layerName t i) : s.layerIdxOf layerName = i := by
  obtain ⟨htrue, hdata, hnew⟩ := h
  unfold addLayer at htrue hdata
  dsimp only at htrue hdata
  split_ifs at htrue hdata with _ hlarge htaken
  have hget := congrArg (fun d => d.get? i) hdata
  simp only [Dict.get?_insert, if_true] at hget
  split_ifs at hget with hi
  · exact hi.symm
  · rw [hnew] at hget
    cases hget

end SaveSession

/-- The name itself tells the index: a number follows its last underscore; or it has no underscore and is
the number of layers that the session has so far. -/
def TellsIndex (s : SaveSession α) (layerName : String) : Prop :=
  (suffixIdx layerName).isSome = true ∨
    '_' ∉ layerName.toList ∧ parseInt layerName.toList = some (s.layerData.size : ℤ)

instance (s : SaveSession α) (layerName : String) : Decidable (TellsIndex s layerName) :=
  inferInstanceAs (Decidable (_ ∨ _ ∧ _))

/-- **Saving and loading agree on the names that tell the index**, and on no others: for every session and
every name under which `add_layer` stores a layer, `_extract_layer_idx` gives the stored index if and only
if a number follows the last underscore of the name, or it has no underscore and is the count of layers. -/
theorem extract_stored_iff (s : SaveSession α) (layerName : String) (t : Tensor α) (i : ℤ)
    (h : s.StoresUnder layerName t i) :
    WorkerSide.extractLayerIdx layerName = some i ↔ TellsIndex s layerName := by
  have hi := h.layerIdxOf_eq
  rw [SaveSession.layerIdxOf_eq] at hi
  unfold WorkerSide.extractLayerIdx TellsIndex
  unfold suffixIdx at hi ⊢
  by_cases hmem : '_' ∈ layerName.toList
  · rw [if_pos hmem] at hi
    rw [if_pos hmem, if_pos hmem]
    simp only [hmem, not_true_eq_false, false_and, or_false]
    cases hparse : parseInt (lastPart '_' layerName.toList) with
    | none => simp
    | some j =>
      rw [hparse, Option.getD_some] at hi
      rw [hi]
      exact iff_of_true rfl rfl
  · rw [if_neg hmem, Option.getD_none] at hi
    rw [if_neg hmem, if_neg hmem, hi]
    simp [hmem]

/-- The first layer of a model, named as the docstrings name it. -/
theorem extract_stored_first :
    WorkerSide.extractLayerIdx "layer_0" = some 0 ↔
      TellsIndex (SaveSession.new "r" "k" 1 [] 2 : SaveSession ℕ) "layer_0" :=
  extract_stored_iff (SaveSession.new "r" "k" 1 [] 2 : SaveSession ℕ) "layer_0" (.flat [1]) 0 (by decide +kernel)

/-- A dotted name is stored as layer 0 and cannot be read back. -/
theorem dotted_name_not_read_back :
    ¬ ∀ (s : SaveSession ℕ) (layerName : String) (t : Tensor ℕ) (i : ℤ), s.StoresUnder layerName t i →
      WorkerSide.extractLayerIdx layerName = some i := by
  intro h
  have hread := h (.new "r" "k" 1 [] 2) "model.layers.1.self_attn" (.flat [1]) 0 (by decide +kernel)
  revert hread
  decide +kernel

end AwareKV
