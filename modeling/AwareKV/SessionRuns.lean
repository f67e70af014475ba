import AwareKV.Lib.Decimal
import AwareKV.Lib.Machine
import AwareKV.SaveSession
import Mathlib.Data.Int.Interval

/-!
# AwareKV.SessionRuns — what a save session has collected

* `complete_iff_negative`: a session that says it is complete has every layer exactly when no layer name
  ended in a negative number.  `add_layer` checks no lower bound.
* `session_order`: with names `layer_i`, the first layer under each number is kept, whatever the order.
-/

namespace AwareKV

variable {α : Type}

/-! ## Indices -/

/-- The number after the last underscore of a name, if there is one. -/
def suffixIdx (layerName : String) : Option ℤ :=
  if '_' ∈ layerName.toList then parseInt (lastPart '_' layerName.toList) else none

namespace SaveSession

variable {s : SaveSession α}

theorem layerIdxOf_eq (s : SaveSession α) (layerName : String) :
    s.layerIdxOf layerName = (suffixIdx layerName).getD s.layerData.size := by
  unfold layerIdxOf suffixIdx
  split_ifs <;> rfl

/-- A negative index comes from the name. -/
theorem layerIdxOf_neg {layerName : String} (h : s.layerIdxOf layerName < 0) :
    suffixIdx layerName = some (s.layerIdxOf layerName) := by
  rw [layerIdxOf_eq] at h ⊢
  cases hsuffix : suffixIdx layerName with
  | none =>
    rw [hsuffix, Option.getD_none] at h
    omega
  | some i => rfl

/-! ## Runs -/

/-- The calls of `add_layer` on a session. -/
def machine (s : SaveSession α) : Machine (SaveSession α) (String × Tensor α) Bool where
  init := s
  step s call := s.addLayer call.1 call.2

/-- What holds of a session for `n` layers that only took layers. -/
structure Filed (n : ℤ) (s : SaveSession α) : Prop where
  isOpen : s.Open
  numLayers : s.numLayers = n
  bounded : ∀ i ∈ s.layerData.keys, i < n
  indexed : ∀ i d, s.layerData.get? i = some d → d.layerIdx = i

theorem filed_new (requestId : ReqId) (prefixKey : String) (matchedTokens : ℤ) (matchedBlocks : List ℤ)
    (n : ℤ) : Filed n (new requestId prefixKey matchedTokens matchedBlocks n : SaveSession α) :=
  ⟨⟨rfl, rfl⟩, rfl, fun i hi => absurd hi List.not_mem_nil, fun i d h => by cases h⟩

namespace Filed

variable {n : ℤ}

/-- What is there after a call: what was there, or the layer of the call. -/
theorem get?_addLayer (h : Filed n s) (layerName : String) (t : Tensor α) (i : ℤ) :
    (s.addLayer layerName t).1.layerData.get? i = (s.layerData.get? i).or
      (if s.layerIdxOf layerName = i ∧ s.layerIdxOf layerName < n then
        some ⟨s.layerIdxOf layerName, layerName, t⟩ else none) := by
  rw [h.isOpen.get?_addLayer, h.numLayers]

theorem addLayer (h : Filed n s) (layerName : String) (t : Tensor α) :
    Filed n (s.addLayer layerName t).1 := by
  have hget := h.get?_addLayer layerName t
  refine ⟨⟨by simp [h.isOpen.1], by simp [h.isOpen.2]⟩, by simp [h.numLayers], fun i hi => ?_, fun i d hd => ?_⟩
  · obtain ⟨d, hd⟩ := Dict.mem_keys_iff.mp hi
    rw [hget, Option.or_eq_some_iff] at hd
    rcases hd with hold | ⟨-, hnew⟩
    · exact h.bounded i (Dict.mem_keys_iff.mpr ⟨d, hold⟩)
    · split_ifs at hnew with hidx
      exact hidx.1 ▸ hidx.2
  · rw [hget, Option.or_eq_some_iff] at hd
    rcases hd with hold | ⟨-, hnew⟩
    · exact h.indexed i d hold
    · split_ifs at hnew with hidx
      cases hnew
      exact hidx.1

theorem exec (h : Filed n s) (calls : List (String × Tensor α)) : Filed n (s.machine.exec calls) :=
  s.machine.invariant (I := Filed n) h (fun _ call hs => hs.addLayer call.1 call.2) calls

/-- The indices of the listed layers. -/
theorem map_getAllLayers (h : Filed n s) :
    s.getAllLayers.map LayerKVData.layerIdx = s.layerData.keys.insertionSort (· ≤ ·) := by
  have hall : ∀ is : List ℤ, (∀ i ∈ is, i ∈ s.layerData.keys) →
      (is.filterMap s.layerData.get?).map LayerKVData.layerIdx = is := by
    intro is his
    induction is with
    | nil => rfl
    | cons i is ih =>
      obtain ⟨d, hd⟩ := Dict.mem_keys_iff.mp (his i List.mem_cons_self)
      rw [List.filterMap_cons_some hd, List.map_cons, h.indexed i d hd,
        ih fun j hj => his j (List.mem_cons_of_mem i hj)]
  exact hall _ fun i hi => (List.mem_insertionSort _).mp hi

end Filed

/-- The stored indices are `0, …, n-1`, and `get_all_layers` lists a layer for each of them. -/
def HasEveryLayer (s : SaveSession α) : Prop :=
  (∀ i, i ∈ s.layerData.keys ↔ 0 ≤ i ∧ i < s.numLayers) ∧
    s.getAllLayers.map LayerKVData.layerIdx = (List.range s.numLayers.toNat).map Nat.cast

end SaveSession

/-- **Pigeonhole**: distinct numbers from `0` to `n-1` are at least `n` exactly when they are all. -/
theorem le_length_iff_of_nodup {is : List ℤ} (hnodup : is.Nodup) {n : ℤ}
    (h : ∀ i ∈ is, 0 ≤ i ∧ i < n) : n ≤ is.length ↔ ∀ i, 0 ≤ i → i < n → i ∈ is := by
  have hsub : is.toFinset ⊆ Finset.Ico 0 n := by
    intro i hi
    exact Finset.mem_Ico.mpr (h i (List.mem_toFinset.mp hi))
  have hcard : is.toFinset.card = is.length := List.toFinset_card_of_nodup hnodup
  constructor
  · intro hn i hi hlt
    have hle : (Finset.Ico 0 n).card ≤ is.toFinset.card := by
      rw [hcard, Int.card_Ico]
      omega
    have hmem : i ∈ is.toFinset := by
      rw [Finset.eq_of_subset_of_card_le hsub hle]
      exact Finset.mem_Ico.mpr ⟨hi, hlt⟩
    exact List.mem_toFinset.mp hmem
  · intro hall
    have hle : (Finset.Ico 0 n).card ≤ is.toFinset.card := by
      refine Finset.card_le_card fun i hi => ?_
      obtain ⟨hi0, hin⟩ := Finset.mem_Ico.mp hi
      exact List.mem_toFinset.mpr (hall i hi0 hin)
    rw [hcard, Int.card_Ico] at hle
    omega

namespace SaveSession

variable {s : SaveSession α} {n : ℤ}

/-- With no index below zero, the count decides. -/
theorem Filed.isComplete_iff (h : Filed n s) (h0 : ∀ i ∈ s.layerData.keys, 0 ≤ i) :
    s.isComplete = true ↔ ∀ i, 0 ≤ i → i < n → i ∈ s.layerData.keys := by
  have hsize : s.layerData.size = s.layerData.keys.length := by
    unfold Dict.size Dict.keys
    rw [List.length_map]
  rw [isComplete, decide_eq_true_iff, h.numLayers, hsize]
  exact le_length_iff_of_nodup s.layerData.nodup fun i hi => ⟨h0 i hi, h.bounded i hi⟩

/-- The right indices are listed in order. -/
theorem Filed.hasEveryLayer_iff (h : Filed n s) :
    s.HasEveryLayer ↔ ∀ i, i ∈ s.layerData.keys ↔ 0 ≤ i ∧ i < n := by
  rw [HasEveryLayer, h.numLayers, and_iff_left_iff_imp]
  intro hkeys
  rw [h.map_getAllLayers]
  have hrange : ∀ i, i ∈ (List.range n.toNat).map (Nat.cast : ℕ → ℤ) ↔ 0 ≤ i ∧ i < n := by
    intro i
    rw [List.mem_map]
    constructor
    · rintro ⟨k, hk, rfl⟩
      have hlt := List.mem_range.mp hk
      omega
    · rintro ⟨hi0, hin⟩
      exact ⟨i.toNat, List.mem_range.mpr (by omega), by omega⟩
  have hnodup : ((List.range n.toNat).map (Nat.cast : ℕ → ℤ)).Nodup :=
    List.nodup_range.map Nat.cast_injective
  have hperm : (s.layerData.keys.insertionSort (· ≤ ·)).Perm ((List.range n.toNat).map Nat.cast) := by
    refine (List.perm_insertionSort _ _).trans ((List.perm_ext_iff_of_nodup s.layerData.nodup hnodup).mpr ?_)
    intro i
    rw [hrange]
    exact hkeys i
  have hsorted : ((List.range n.toNat).map (Nat.cast : ℕ → ℤ)).Pairwise (· ≤ ·) := by
    rw [List.pairwise_map]
    exact List.pairwise_le_range.imp fun hle => Int.ofNat_le.mpr hle
  exact hperm.eq_of_pairwise' (List.pairwise_insertionSort _ _) hsorted

/-- Keys stay, and a new one is the index of the call. -/
theorem Filed.mem_addLayer (h : Filed n s) {layerName : String} {t : Tensor α} {i : ℤ} :
    i ∈ (s.addLayer layerName t).1.layerData.keys ↔
      i ∈ s.layerData.keys ∨ i = s.layerIdxOf layerName ∧ i < n := by
  rw [← not_iff_not, not_or, ← Dict.get?_eq_none_iff, ← Dict.get?_eq_none_iff, h.get?_addLayer,
    Option.or_eq_none_iff, ite_eq_right_iff]
  refine and_congr_right fun _ => ?_
  constructor
  · rintro hnew ⟨rfl, hlt⟩
    cases hnew ⟨rfl, hlt⟩
  · rintro hno ⟨hidx, hlt⟩
    exact absurd ⟨hidx.symm, hidx ▸ hlt⟩ hno

/-- **Negative indices of a run** come from the names, and every one of them that is below the bound is
stored. -/
theorem Filed.mem_exec_neg (h : Filed n s) (hempty : s.layerData.keys = [])
    (calls : List (String × Tensor α)) {i : ℤ} (hi : i < 0) :
    i ∈ (s.machine.exec calls).layerData.keys ↔ i < n ∧ ∃ call ∈ calls, suffixIdx call.1 = some i := by
  induction calls using List.reverseRecOn with
  | nil =>
    show i ∈ s.layerData.keys ↔ _
    simp [hempty]
  | append_singleton calls call ih =>
    have hidx : i = (s.machine.exec calls).layerIdxOf call.1 ↔ suffixIdx call.1 = some i := by
      constructor
      · rintro rfl
        exact layerIdxOf_neg hi
      · intro hsuffix
        rw [layerIdxOf_eq, hsuffix]
        rfl
    rw [Machine.exec_snoc]
    show i ∈ ((s.machine.exec calls).addLayer call.1 call.2).1.layerData.keys ↔ _
    rw [(h.exec calls).mem_addLayer, ih, hidx]
    simp only [List.mem_append, List.mem_singleton, or_and_right, exists_or, exists_eq_left]
    rw [and_comm (a := suffixIdx call.1 = some i), ← and_or_left]

end SaveSession

open SaveSession in
/-- **A complete session has every layer exactly when no name carried a negative index.**  After every run
of `add_layer` calls on a new session for which `is_complete` holds, the stored indices are `0, …, n-1`,
with one layer for each in `get_all_layers`, if and only if the number after the last underscore of a name
was never negative (and below `n`). -/
theorem complete_iff_negative (requestId : ReqId) (prefixKey : String) (matchedTokens : ℤ)
    (matchedBlocks : List ℤ) (n : ℤ) (calls : List (String × Tensor α))
    (hcomplete : ((machine (new requestId prefixKey matchedTokens matchedBlocks n)).exec
      calls).isComplete = true) :
    ((machine (new requestId prefixKey matchedTokens matchedBlocks n)).exec calls).HasEveryLayer ↔
      ∀ call ∈ calls, ∀ i, suffixIdx call.1 = some i → 0 ≤ i ∨ n ≤ i := by
  have hnew := filed_new (α := α) requestId prefixKey matchedTokens matchedBlocks n
  have hempty : (new requestId prefixKey matchedTokens matchedBlocks n : SaveSession α).layerData.keys = [] :=
    rfl
  generalize new requestId prefixKey matchedTokens matchedBlocks n = s at hnew hempty hcomplete ⊢
  have hfiled := hnew.exec calls
  rw [hfiled.hasEveryLayer_iff]
  constructor
  · intro hkeys call hcall i hsuffix
    by_contra hneg
    have hmem := (hnew.mem_exec_neg hempty calls (i := i) (by omega)).mpr ⟨by omega, call, hcall, hsuffix⟩
    have h0 := ((hkeys i).mp hmem).1
    omega
  · intro hnames
    have h0 : ∀ i ∈ (s.machine.exec calls).layerData.keys, 0 ≤ i := by
      intro i hi
      by_contra hneg
      obtain ⟨hlt, call, hcall, hsuffix⟩ := (hnew.mem_exec_neg hempty calls (by omega)).mp hi
      have hbound := hnames call hcall i hsuffix
      omega
    have hall := (hfiled.isComplete_iff h0).mp hcomplete
    exact fun i => ⟨fun hi => ⟨h0 i hi, hfiled.bounded i hi⟩, fun hi => hall i hi.1 hi.2⟩

/-- Two layers, the first of which comes last. -/
theorem complete_iff_negative_two :
    ((SaveSession.machine (.new "r" "k" 1 [] 2)).exec
      [("layer_1", Tensor.flat [1]), ("layer_0", Tensor.flat [2])]).HasEveryLayer :=
  (complete_iff_negative "r" "k" 1 [] 2 [("layer_1", Tensor.flat [1]), ("layer_0", Tensor.flat [2])]
    (by decide +kernel)).mpr (by decide +kernel)

/-- Layer `-1` counts as one of two. -/
theorem negative_layer_counts :
    ¬ ∀ (n : ℤ) (calls : List (String × Tensor ℕ)),
      ((SaveSession.machine (.new "r" "k" 1 [] n)).exec calls).isComplete = true →
      ((SaveSession.machine (.new "r" "k" 1 [] n)).exec calls).HasEveryLayer := by
  intro h
  have hall := h 2 [("layer_-1", .flat [1]), ("layer_0", .flat [2])] (by decide +kernel)
  have hlisted := hall.2
  revert hlisted
  decide +kernel

/-! ## Names of the form `layer_i` -/

/-- `f"layer_{i}"`. -/
def layerName (i : ℕ) : String := "layer_" ++ toString i

/-- `int` reads the number back while it has at most 4300 digits. -/
theorem suffixIdx_layerName (i : ℕ) :
    suffixIdx (layerName i) = if i < 10 ^ maxStrDigits then some (i : ℤ) else none := by
  have hchars : (layerName i).toList = "layer".toList ++ '_' :: Nat.toDigits 10 i := by
    rw [layerName, String.toList_append, Nat.toString_eq_repr, Nat.toList_repr]
    rfl
  have hmem : '_' ∈ (layerName i).toList := by
    rw [hchars]
    exact List.mem_append_right _ List.mem_cons_self
  rw [suffixIdx, if_pos hmem, hchars, lastPart_append Nat.underscore_not_in_toDigits, parseInt_toDigits]

namespace SaveSession

/-- A call for the layer with a number. -/
def numbered (call : ℕ × Tensor α) : String × Tensor α := (layerName call.1, call.2)

/-- What the first of the calls for layer `i` brings. -/
def firstLayer (n : ℤ) (calls : List (ℕ × Tensor α)) (i : ℤ) : Option (LayerKVData α) :=
  (calls.find? (fun call => (call.1 : ℤ) = i ∧ (call.1 : ℤ) < n)).map
    fun call => ⟨call.1, layerName call.1, call.2⟩

variable {s : SaveSession α} {n : ℤ}

theorem layerIdxOf_layerName {i : ℕ} (hi : i < 10 ^ maxStrDigits) (s : SaveSession α) :
    s.layerIdxOf (layerName i) = i := by
  rw [layerIdxOf_eq, suffixIdx_layerName, if_pos hi, Option.getD_some]

theorem firstLayer_snoc (n : ℤ) (calls : List (ℕ × Tensor α)) (call : ℕ × Tensor α) (i : ℤ) :
    firstLayer n (calls ++ [call]) i = (firstLayer n calls i).or
      (if (call.1 : ℤ) = i ∧ (call.1 : ℤ) < n then some ⟨call.1, layerName call.1, call.2⟩ else none) := by
  unfold firstLayer
  rw [List.find?_append]
  cases calls.find? (fun call => (call.1 : ℤ) = i ∧ (call.1 : ℤ) < n) with
  | some first => rfl
  | none =>
    simp only [Option.none_or, Option.map_none, List.find?_singleton, decide_eq_true_eq]
    split_ifs <;> rfl

theorem firstLayer_eq_none {calls : List (ℕ × Tensor α)} {i : ℕ} :
    firstLayer n calls i = none ↔ ((i : ℤ) < n → i ∉ calls.map Prod.fst) := by
  rw [firstLayer, Option.map_eq_none_iff, List.find?_eq_none]
  constructor
  · intro h hlt hmem
    obtain ⟨call, hcall, rfl⟩ := List.mem_map.mp hmem
    exact h call hcall (decide_eq_true ⟨rfl, hlt⟩)
  · intro h call hcall hfirst
    obtain ⟨hidx, hlt⟩ := of_decide_eq_true hfirst
    have hi : call.1 = i := Nat.cast_injective hidx
    exact h (hi ▸ hlt) (hi ▸ List.mem_map_of_mem hcall)

/-- **Each stored layer is the first one under its number.** -/
theorem Filed.get?_exec (h : Filed n s) (hempty : ∀ i, s.layerData.get? i = none)
    {calls : List (ℕ × Tensor α)} (hdigits : ∀ call ∈ calls, call.1 < 10 ^ maxStrDigits) (i : ℤ) :
    (s.machine.exec (calls.map numbered)).layerData.get? i = firstLayer n calls i := by
  induction calls using List.reverseRecOn generalizing i with
  | nil => exact hempty i
  | append_singleton calls call ih =>
    have ih' := ih fun c hc => hdigits c (List.mem_append_left _ hc)
    have hidx := layerIdxOf_layerName (hdigits call (by simp)) (s.machine.exec (calls.map numbered))
    rw [List.map_append, List.map_singleton, Machine.exec_snoc, firstLayer_snoc, ← ih', ← hidx]
    exact (h.exec (calls.map numbered)).get?_addLayer (layerName call.1) call.2 i

/-- A call for a layer stores exactly when the number is below the bound and new. -/
theorem Filed.addLayer_numbered (h : Filed n s) (hempty : ∀ i, s.layerData.get? i = none)
    {calls : List (ℕ × Tensor α)} {call : ℕ × Tensor α}
    (hdigits : ∀ c ∈ calls ++ [call], c.1 < 10 ^ maxStrDigits) :
    s.machine.answer (calls.map numbered) (numbered call) = true ↔
      (call.1 : ℤ) < n ∧ call.1 ∉ calls.map Prod.fst := by
  have hget := h.get?_exec hempty fun c hc => hdigits c (List.mem_append_left _ hc)
  have hfiled := h.exec (calls.map numbered)
  have hidx := layerIdxOf_layerName (hdigits call (by simp)) (s.machine.exec (calls.map numbered))
  show ((s.machine.exec (calls.map numbered)).addLayer (layerName call.1) call.2).2 = true ↔ _
  rw [hfiled.isOpen.addLayer_eq_true, hidx, hget, hfiled.numLayers, firstLayer_eq_none]
  exact and_congr_right fun hlt => ⟨fun hnew => hnew hlt, fun hnew _ => hnew⟩

/-- With numbers for names, complete means that every layer was added. -/
theorem Filed.isComplete_numbered (h : Filed n s) (hempty : ∀ i, s.layerData.get? i = none)
    {calls : List (ℕ × Tensor α)} (hdigits : ∀ call ∈ calls, call.1 < 10 ^ maxStrDigits) :
    (s.machine.exec (calls.map numbered)).isComplete = true ↔
      ∀ i : ℕ, (i : ℤ) < n → i ∈ calls.map Prod.fst := by
  have hget := h.get?_exec hempty hdigits
  have h0 : ∀ i ∈ (s.machine.exec (calls.map numbered)).layerData.keys, 0 ≤ i := by
    intro i hi
    obtain ⟨d, hd⟩ := Dict.mem_keys_iff.mp hi
    rw [hget] at hd
    obtain ⟨call, hcall, -⟩ := Option.map_eq_some_iff.mp hd
    have hfirst := List.find?_some hcall
    simp only [decide_eq_true_eq] at hfirst
    omega
  rw [(h.exec _).isComplete_iff h0]
  have hmem : ∀ i : ℕ, (i : ℤ) < n →
      ((i : ℤ) ∈ (s.machine.exec (calls.map numbered)).layerData.keys ↔ i ∈ calls.map Prod.fst) := by
    intro i hi
    rw [← not_iff_not, ← Dict.get?_eq_none_iff, hget, firstLayer_eq_none]
    exact ⟨fun hnone => hnone hi, fun hnone _ => hnone⟩
  constructor
  · intro hall i hi
    exact (hmem i hi).mp (hall i (Int.natCast_nonneg i) hi)
  · intro hall i hi0 hi
    obtain ⟨k, rfl⟩ := Int.eq_ofNat_of_zero_le hi0
    exact (hmem k hi).mpr (hall k hi)

/-! ### The list of layers -/

theorem mem_getAllLayers {d : LayerKVData α} :
    d ∈ s.getAllLayers ↔ ∃ i, s.layerData.get? i = some d := by
  unfold getAllLayers
  rw [List.mem_filterMap]
  constructor
  · rintro ⟨i, -, hd⟩
    exact ⟨i, hd⟩
  · rintro ⟨i, hd⟩
    exact ⟨i, (List.mem_insertionSort _).mpr (Dict.mem_keys_iff.mpr ⟨d, hd⟩), hd⟩

theorem Filed.getAllLayers_ascending (h : Filed n s) :
    s.getAllLayers.Pairwise (fun d e => d.layerIdx < e.layerIdx) := by
  have hkeys : (s.layerData.keys.insertionSort (· ≤ ·)).Pairwise (· < ·) := by
    have hsorted := List.pairwise_insertionSort (· ≤ ·) s.layerData.keys
    have hnodup : (s.layerData.keys.insertionSort (· ≤ ·)).Nodup :=
      (List.perm_insertionSort _ _).nodup_iff.mpr s.layerData.nodup
    exact hsorted.imp₂ (fun _ _ hle hne => lt_of_le_of_ne hle hne) hnodup
  rw [← h.map_getAllLayers, List.pairwise_map] at hkeys
  exact hkeys

/-- Only what is stored matters, not when it was stored. -/
theorem getAllLayers_congr {s s' : SaveSession α}
    (h : ∀ i, s.layerData.get? i = s'.layerData.get? i) : s.getAllLayers = s'.getAllLayers := by
  have hperm : s.layerData.keys.Perm s'.layerData.keys := by
    refine (List.perm_ext_iff_of_nodup s.layerData.nodup s'.layerData.nodup).mpr fun i => ?_
    show i ∈ s.layerData.keys ↔ i ∈ s'.layerData.keys
    rw [Dict.mem_keys_iff, Dict.mem_keys_iff, h]
  have hsort : s.layerData.keys.insertionSort (· ≤ ·) = s'.layerData.keys.insertionSort (· ≤ ·) :=
    ((List.perm_insertionSort _ _).trans (hperm.trans (List.perm_insertionSort _ _).symm)).eq_of_pairwise'
      (List.pairwise_insertionSort _ _) (List.pairwise_insertionSort _ _)
  unfold getAllLayers
  rw [hsort]
  exact List.filterMap_congr fun i _ => h i

/-- The order of calls for different layers does not matter. -/
theorem firstLayer_perm {calls calls' : List (ℕ × Tensor α)} (hperm : calls.Perm calls')
    (hnodup : (calls.map Prod.fst).Nodup) (n i : ℤ) : firstLayer n calls i = firstLayer n calls' i := by
  have hfirst : ∀ {cs : List (ℕ × Tensor α)} {call}, (cs.map Prod.fst).Nodup →
      (cs.find? (fun c => (c.1 : ℤ) = i ∧ (c.1 : ℤ) < n) = some call ↔
        call ∈ cs ∧ (call.1 : ℤ) = i ∧ (call.1 : ℤ) < n) := by
    intro cs call hcs
    constructor
    · intro hsome
      have hcall := List.find?_some hsome
      simp only [decide_eq_true_eq] at hcall
      exact ⟨List.mem_of_find?_eq_some hsome, hcall⟩
    · rintro ⟨hmem, hcall⟩
      cases hfind : cs.find? (fun c => (c.1 : ℤ) = i ∧ (c.1 : ℤ) < n) with
      | none => exact absurd (decide_eq_true hcall) (List.find?_eq_none.mp hfind call hmem)
      | some first =>
        have hidx := List.find?_some hfind
        simp only [decide_eq_true_eq] at hidx
        have hsame : first.1 = call.1 := by omega
        rw [List.inj_on_of_nodup_map hcs (List.mem_of_find?_eq_some hfind) hmem hsame]
  unfold firstLayer
  congr 1
  ext call
  rw [hfirst hnodup, hfirst ((hperm.map Prod.fst).nodup_iff.mp hnodup), hperm.mem_iff]

end SaveSession

open SaveSession in
/-- **Save sessions do not depend on the order.**  After every run of `add_layer` calls on a new session,
with names `layer_i` whose numbers `int` converts: a call returned `True` exactly when its number is below
`n` and no call before had it; each stored layer is that of the first call; the session is complete exactly
when every number below `n` was there; the layers are listed by ascending index; and calls with distinct
names lead to the same list in whatever order they come. -/
theorem session_order (requestId : ReqId) (prefixKey : String) (matchedTokens : ℤ) (matchedBlocks : List ℤ)
    (n : ℤ) (calls : List (ℕ × Tensor α)) (hdigits : ∀ call ∈ calls, call.1 < 10 ^ maxStrDigits) :
    let M := machine (new (α := α) requestId prefixKey matchedTokens matchedBlocks n)
    EveryStep (fun before call => M.answer (before.map numbered) (numbered call) = true ↔
        (call.1 : ℤ) < n ∧ call.1 ∉ before.map Prod.fst) calls ∧
      (∀ i, (M.exec (calls.map numbered)).layerData.get? i = firstLayer n calls i) ∧
      ((M.exec (calls.map numbered)).isComplete = true ↔
        ∀ i : ℕ, (i : ℤ) < n → i ∈ calls.map Prod.fst) ∧
      (M.exec (calls.map numbered)).getAllLayers.Pairwise (fun d e => d.layerIdx < e.layerIdx) ∧
      (∀ d, d ∈ (M.exec (calls.map numbered)).getAllLayers ↔
        ∃ i, (M.exec (calls.map numbered)).layerData.get? i = some d) ∧
      ∀ calls', calls.Perm calls' → (calls.map fun call => layerName call.1).Nodup →
        (M.exec (calls.map numbered)).getAllLayers = (M.exec (calls'.map numbered)).getAllLayers := by
  have hnew := filed_new (α := α) requestId prefixKey matchedTokens matchedBlocks n
  have hempty : ∀ i, (new (α := α) requestId prefixKey matchedTokens matchedBlocks n).layerData.get? i = none :=
    fun _ => rfl
  intro M
  refine ⟨?_, hnew.get?_exec hempty hdigits, hnew.isComplete_numbered hempty hdigits,
    (hnew.exec _).getAllLayers_ascending, fun d => mem_getAllLayers, ?_⟩
  · rintro before call after rfl
    refine hnew.addLayer_numbered hempty fun c hc => hdigits c ?_
    simp only [List.mem_append, List.mem_cons] at hc ⊢
    tauto
  · intro calls' hperm hnames
    have hnodup : (calls.map Prod.fst).Nodup := by
      refine List.Nodup.of_map layerName ?_
      rw [List.map_map]
      exact hnames
    refine getAllLayers_congr fun i => ?_
    rw [hnew.get?_exec hempty hdigits, firstLayer_perm hperm hnodup,
      hnew.get?_exec hempty fun call hcall => hdigits call (hperm.mem_iff.mpr hcall)]

/-- Two layers, out of order. -/
theorem session_order_two :
    ((SaveSession.machine (.new "r" "k" 1 [] 2)).exec ([(1, Tensor.flat [1]), (0, Tensor.flat [2])].map
      SaveSession.numbered)).isComplete = true ↔ ∀ i : ℕ, (i : ℤ) < 2 → i ∈ [1, 0] :=
  (session_order "r" "k" 1 [] 2 [(1, Tensor.flat [1]), (0, Tensor.flat [2])] (by decide +kernel)).2.2.1

/-- A number with 4301 digits is refused by `int`, and the layer is stored as layer 0. -/
theorem long_number_stored :
    ¬ ∀ (n : ℤ) (calls : List (ℕ × Tensor ℕ)),
      EveryStep (fun before call =>
        (SaveSession.machine (.new "r" "k" 1 [] n)).answer (before.map SaveSession.numbered)
          (SaveSession.numbered call) = true ↔ (call.1 : ℤ) < n ∧ call.1 ∉ before.map Prod.fst) calls := by
  intro h
  obtain ⟨i, hi⟩ : ∃ i : ℕ, i = 10 ^ maxStrDigits := ⟨_, rfl⟩
  have hstep := h 1 [(i, .flat [1])]
  rw [everyStep_singleton] at hstep
  have hsuffix : suffixIdx (layerName i) = none := by
    rw [suffixIdx_layerName, if_neg (by omega)]
  have hidx : (SaveSession.new (α := ℕ) "r" "k" 1 [] 1).layerIdxOf (layerName i) = 0 := by
    rw [SaveSession.layerIdxOf_eq, hsuffix]
    rfl
  have hstored : ((SaveSession.new "r" "k" 1 [] 1).addLayer (layerName i) (Tensor.flat [1])).2 = true := by
    rw [(SaveSession.filed_new (α := ℕ) "r" "k" 1 [] 1).isOpen.addLayer_eq_true, hidx]
    exact ⟨by decide, rfl⟩
  have hlt : (i : ℤ) < 1 := (hstep.mp hstored).1
  have hbig : 1 ≤ 10 ^ maxStrDigits := Nat.one_le_pow _ _ (by decide)
  omega

end AwareKV
