import AwareKV.Codec
import AwareKV.PagedKv

/-!
# AwareKV.SlotAccess — whose rows are read, and what a write reports

* `inject_truthful_iff`: when the result of `inject_prefix_kv_into_layer` tells what happened.  A source
  with fewer rows than the mapping has entries is written as far as it goes, and this is a success.
* `extract_own_rows_iff`: when `extract_prefix_kv_from_layer` only takes rows of the request.  Its
  fallbacks take the first rows of the layer, whoever they belong to.
-/

namespace AwareKV

variable {α β : Type}

/-! ## The report of an injection -/

section Report

/-- `True` means that every slot in range holds the source row of its last position in the mapping,
`False` that nothing was written. -/
def InjectTruthful (toDst : β → α) (dst : Tensor α) (src : Tensor β) (mapping matchedBlocks : List ℤ) : Prop :=
  let r := injectPrefixKvIntoLayer toDst dst src (some mapping) matchedBlocks
  (r.2 = true → ∀ s < dst.rowCount, ∀ i, mapping[i]? = some (s : ℤ) →
    (∀ j, i < j → mapping[j]? ≠ some (s : ℤ)) → r.1.row? s = (src.map toDst).row? i) ∧
  (r.2 = false → r.1 = dst)

/-- The source has no rows at all, no slot is in range, the first slot in range raises, or the rows have
one shape and the source has a row for every slot in range. -/
def InjectCovered (dst : Tensor α) (src : Tensor β) (mapping : List ℤ) : Prop :=
  src.shape = [] ∨
    (∀ s < dst.rowCount, (s : ℤ) ∉ mapping) ∨
    (¬ Tensor.FitsTo src.rowShape dst.rowShape ∧ ∃ s < dst.rowCount, (s : ℤ) ∈ mapping.take src.rowCount) ∨
    (src.rowShape = dst.rowShape ∧ ∀ s < dst.rowCount, (s : ℤ) ∉ mapping.drop src.rowCount)

variable {toDst : β → α} {dst : Tensor α} {src : Tensor β} {mapping matchedBlocks : List ℤ}

/-- The success that is reported, with last positions. -/
theorem injectTruthful_of_true {dst' : Tensor α}
    (h : injectPrefixKvIntoLayer toDst dst src (some mapping) matchedBlocks = (dst', true)) :
    InjectTruthful toDst dst src mapping matchedBlocks ↔
      ∀ s < dst.rowCount, ∀ i, lastPos mapping (s : ℤ) = some i → dst'.row? s = (src.map toDst).row? i := by
  unfold InjectTruthful
  rw [h]
  simp only [lastPos_eq_some, and_imp, forall_const]
  exact and_iff_left fun hfalse => absurd hfalse.symm Bool.false_ne_true

/-- A source row that a layer has got has the shape of the layer's rows. -/
theorem rowShape_of_written {layer : Tensor α} {s i : ℕ} (hs : s < layer.rowCount)
    (h : layer.row? s = (src.map toDst).row? i) : src.rowShape = layer.rowShape ∧ i < src.rowCount := by
  have hrow := h.symm.trans (Tensor.row?_of_lt hs)
  exact ⟨(Tensor.row?_shape hrow).symm, Tensor.row?_isSome (t := src.map toDst) |>.mp (by rw [hrow]; rfl)⟩

/-- Rows that fit are written, as many as there are: a success tells the truth about rows of one shape that
go round. -/
theorem inject_truthful_fit (hmapping : mapping ≠ []) (hsrc : src.shape ≠ [])
    (hfit : Tensor.FitsTo src.rowShape dst.rowShape) {s₀ : ℕ} (hs₀ : s₀ < dst.rowCount)
    (hmem₀ : (s₀ : ℤ) ∈ mapping) :
    InjectTruthful toDst dst src mapping matchedBlocks ↔
      src.rowShape = dst.rowShape ∧ ∀ s < dst.rowCount, (s : ℤ) ∉ mapping.drop src.rowCount := by
  obtain ⟨i₀, hi₀⟩ := exists_lastPos hmem₀
  obtain ⟨dst', hrun, hshape, hrows⟩ := inject_slots_fit toDst matchedBlocks hmapping hsrc
    (Tensor.shape_ne_nil_of_lt hs₀) hfit
  rw [injectTruthful_of_true hrun]
  constructor
  · intro h
    have hwritten : ∀ s < dst.rowCount, ∀ i, lastPos mapping (s : ℤ) = some i →
        src.rowShape = dst.rowShape ∧ i < src.rowCount := by
      intro s hs i hi
      have hrow := rowShape_of_written (Tensor.rowCount_congr hshape ▸ hs) (h s hs i hi)
      rwa [Tensor.rowShape_congr hshape] at hrow
    refine ⟨(hwritten s₀ hs₀ i₀ hi₀).1, fun s hs hlate => ?_⟩
    obtain ⟨i, hi⟩ := exists_lastPos (List.mem_of_mem_drop hlate)
    have hle := (mem_drop_iff_lastPos hi).mp hlate
    have hlt := (hwritten s hs i hi).2
    omega
  · rintro ⟨hsame, hearly⟩ s hs i hi
    have hlt : i < src.rowCount := by
      by_contra hle
      exact hearly s hs ((mem_drop_iff_lastPos hi).mpr (not_lt.mp hle))
    have hrow := Tensor.row?_of_lt (t := src.map toDst) hlt
    rw [hrows s hs, lastPos_take hi hlt, Option.elim_some, hrow, Option.bind_some, Tensor.fit?_self hsame]

/-- Rows that do not fit are not written: only a failure tells the truth. -/
theorem inject_truthful_stuck (hmapping : mapping ≠ []) (hsrc : src.shape ≠ [])
    (hfit : ¬ Tensor.FitsTo src.rowShape dst.rowShape) {s₀ : ℕ} (hs₀ : s₀ < dst.rowCount)
    (hmem₀ : (s₀ : ℤ) ∈ mapping) :
    InjectTruthful toDst dst src mapping matchedBlocks ↔
      ∃ s < dst.rowCount, (s : ℤ) ∈ mapping.take src.rowCount := by
  obtain ⟨i₀, hi₀⟩ := exists_lastPos hmem₀
  obtain ⟨hstate, hraise⟩ := inject_slots_stuck toDst matchedBlocks hmapping hsrc (Or.inr hfit)
  have hfalse := hraise (Tensor.shape_ne_nil_of_lt hs₀)
  constructor
  · intro h
    by_contra hno
    have htrue : (injectPrefixKvIntoLayer toDst dst src (some mapping) matchedBlocks).2 = true := by
      rw [← Bool.not_eq_false, hfalse]
      exact hno
    rw [injectTruthful_of_true (Prod.ext hstate htrue)] at h
    exact hfit (Or.inl (rowShape_of_written hs₀ (h s₀ hs₀ i₀ hi₀)).1)
  · intro htried
    refine ⟨fun htrue => ?_, fun _ => hstate⟩
    rw [hfalse.mpr htried] at htrue
    exact absurd htrue Bool.false_ne_true

/-- Without a slot in range nothing is said about rows, and nothing fails. -/
theorem inject_truthful_none (hmapping : mapping ≠ []) (hsrc : src.shape ≠ [])
    (hnone : ∀ s < dst.rowCount, (s : ℤ) ∉ mapping) : InjectTruthful toDst dst src mapping matchedBlocks := by
  refine ⟨fun _ s hs i hi => absurd (List.mem_of_getElem? hi) (hnone s hs), fun hfalse => ?_⟩
  by_cases hstuck : dst.shape = [] ∨ ¬ Tensor.FitsTo src.rowShape dst.rowShape
  · exact (inject_slots_stuck toDst matchedBlocks hmapping hsrc hstuck).1
  · rw [not_or, not_not] at hstuck
    obtain ⟨dst', hrun, -, -⟩ := inject_slots_fit toDst matchedBlocks hmapping hsrc hstuck.1 hstuck.2
    rw [hrun] at hfalse
    exact absurd hfalse.symm Bool.false_ne_true

/-- **The result is truthful** exactly for these inputs. -/
theorem inject_truthful_iff (hmapping : mapping ≠ []) :
    InjectTruthful toDst dst src mapping matchedBlocks ↔ InjectCovered dst src mapping := by
  by_cases hsrc : src.shape = []
  · refine iff_of_true ?_ (Or.inl hsrc)
    unfold InjectTruthful
    rw [inject_slots_scalar hmapping hsrc]
    exact ⟨fun h => absurd h Bool.false_ne_true, fun _ => rfl⟩
  by_cases hnone : ∀ s < dst.rowCount, (s : ℤ) ∉ mapping
  · exact iff_of_true (inject_truthful_none hmapping hsrc hnone) (Or.inr (Or.inl hnone))
  unfold InjectCovered
  rw [or_iff_right hsrc, or_iff_right hnone]
  obtain ⟨s₀, hs₀, hmem₀⟩ : ∃ s < dst.rowCount, (s : ℤ) ∈ mapping := by
    by_contra hno
    exact hnone fun s hs hmem => hno ⟨s, hs, hmem⟩
  by_cases hfit : Tensor.FitsTo src.rowShape dst.rowShape
  · rw [or_iff_right fun h => h.1 hfit]
    exact inject_truthful_fit hmapping hsrc hfit hs₀ hmem₀
  · rw [or_iff_left fun h => hfit (Or.inl h.1), and_iff_right hfit]
    exact inject_truthful_stuck hmapping hsrc hfit hs₀ hmem₀

/-- A source of one row for the slots 0 and 1 of a layer of two rows. -/
theorem inject_truthful_short :
    InjectTruthful id (⟨[2, 1], [0, 0], rfl⟩ : Tensor Half) ⟨[1, 1], [7], rfl⟩ [0, 1] [] ↔
      InjectCovered (⟨[2, 1], [0, 0], rfl⟩ : Tensor Half) (⟨[1, 1], [7], rfl⟩ : Tensor Half) [0, 1] :=
  inject_truthful_iff (by decide)

/-- Slot 1 is not written, and `True` is returned. -/
theorem inject_short_source :
    ¬ ∀ (dst src : Tensor Half) (mapping : List ℤ), mapping ≠ [] → InjectTruthful id dst src mapping [] := by
  intro h
  have hlast : ∀ j, 1 < j → ([0, 1] : List ℤ)[j]? ≠ some 1 := by
    intro j hj hget
    have hlt := (List.getElem?_eq_some_iff.mp hget).1
    simp only [List.length_cons, List.length_nil] at hlt
    omega
  have hrow := (h ⟨[2, 1], [0, 0], rfl⟩ ⟨[1, 1], [7], rfl⟩ [0, 1] (by decide)).1 (by decide +kernel) 1
    (by decide) 1 rfl hlast
  revert hrow
  decide +kernel

end Report

/-! ## The rows of an extraction -/

section OwnRows

/-- Row `s` of the layer belongs to the request: a slot or a block of it. -/
def OwnRow (kvLayer : Tensor α) (mapping matchedBlocks : List ℤ) (s : ℕ) : Prop :=
  s < kvLayer.rowCount ∧ ((s : ℤ) ∈ mapping ∨ (s : ℤ) ∈ matchedBlocks)

/-- Every row that is returned is a row of the request. -/
def ExtractsOwn (kvLayer : Tensor α) (mapping matchedBlocks : List ℤ) (matchedTokens : ℤ) : Prop :=
  ∀ t, extractPrefixKvFromLayer kvLayer (some mapping) matchedBlocks matchedTokens = .ok t →
    ∀ j r, t.row? j = some r → ∃ s, OwnRow kvLayer mapping matchedBlocks s ∧ kvLayer.row? s = some r

variable {kvLayer : Tensor α} {mapping matchedBlocks : List ℤ} {matchedTokens : ℤ}

theorem rows_of_gather {t r : Tensor α} {idxs : List ℕ} {j : ℕ} (h : kvLayer.gather? idxs = some t)
    (hr : t.row? j = some r) : ∃ s ∈ idxs, kvLayer.row? s = some r := by
  rw [Tensor.row?_gather h] at hr
  obtain ⟨s, hs, hrow⟩ := Option.bind_eq_some_iff.mp hr
  exact ⟨s, List.mem_of_getElem? hs, hrow⟩

theorem extractsOwn_slots (hvalid : validSlots mapping ≠ [])
    (hall : ∀ s ∈ slice (validSlots mapping) 0 matchedTokens, s < kvLayer.rowCount) :
    ExtractsOwn kvLayer mapping matchedBlocks matchedTokens := by
  intro t ht j r hr
  have hdim : kvLayer.shape ≠ [] := (extractPrefixKvFromLayer_ok_iff _ _ _ _).mp ⟨t, ht⟩
  obtain ⟨t', ht', hgather⟩ := extract_slots (some mapping) matchedBlocks matchedTokens hvalid hall hdim
  obtain rfl := Except.ok.inj (ht.symm.trans ht')
  obtain ⟨s, hs, hrow⟩ := rows_of_gather hgather hr
  obtain ⟨slot, hslot, rfl⟩ := List.mem_map.mp hs
  obtain ⟨hmem, h0⟩ := mem_validSlots.mp (List.mem_of_mem_take (List.mem_of_mem_drop hslot))
  have hlt := hall slot hslot
  exact ⟨slot.toNat, ⟨by omega, Or.inl (by rwa [Int.toNat_of_nonneg h0])⟩, hrow⟩

theorem extractsOwn_blocks (hvalid : validSlots mapping = [])
    (hblocks : blocksIn kvLayer.rowCount matchedBlocks ≠ []) :
    ExtractsOwn kvLayer mapping matchedBlocks matchedTokens := by
  intro t ht j r hr
  obtain ⟨t', ht', hgather⟩ := extract_blocks (some mapping) matchedBlocks matchedTokens hvalid hblocks
  obtain rfl := Except.ok.inj (ht.symm.trans ht')
  obtain ⟨s, hs, hrow⟩ := rows_of_gather hgather hr
  obtain ⟨hlt, hmem⟩ := mem_blocksIn.mp hs
  exact ⟨s, ⟨hlt, Or.inr hmem⟩, hrow⟩

/-- What the fallbacks return are the first rows. -/
theorem extractsOwn_first
    (hslots : ¬ (validSlots mapping ≠ [] ∧
      ∀ s ∈ slice (validSlots mapping) 0 matchedTokens, s < kvLayer.rowCount))
    (hblocks : ¬ (validSlots mapping = [] ∧ blocksIn kvLayer.rowCount matchedBlocks ≠ [])) :
    ExtractsOwn kvLayer mapping matchedBlocks matchedTokens ↔
      ∀ j < sliceBound kvLayer.rowCount matchedTokens,
        ∃ s, OwnRow kvLayer mapping matchedBlocks s ∧ kvLayer.row? s = kvLayer.row? j := by
  have hbound : ∀ j < sliceBound kvLayer.rowCount matchedTokens, j < kvLayer.rowCount := fun j hj =>
    Nat.lt_of_lt_of_le hj (sliceBound_le _ _)
  constructor
  · intro h j hj
    have hdim : kvLayer.shape ≠ [] := Tensor.shape_ne_nil_of_lt (hbound j hj)
    obtain ⟨t, ht, hfirst⟩ := extract_first (some mapping) matchedBlocks matchedTokens hdim hslots hblocks
    have hrow := Tensor.row?_of_lt (hbound j hj)
    have hret : t.row? j = kvLayer.row? j := by rw [Tensor.row?_takeRows hfirst, if_pos hj]
    obtain ⟨s, hown, hs⟩ := h t ht j _ (hret.trans hrow)
    exact ⟨s, hown, hs.trans hrow.symm⟩
  · intro h t ht j r hr
    have hdim : kvLayer.shape ≠ [] := (extractPrefixKvFromLayer_ok_iff _ _ _ _).mp ⟨t, ht⟩
    obtain ⟨t', ht', hfirst⟩ := extract_first (some mapping) matchedBlocks matchedTokens hdim hslots hblocks
    obtain rfl := Except.ok.inj (ht.symm.trans ht')
    rw [Tensor.row?_takeRows hfirst] at hr
    split_ifs at hr with hj
    obtain ⟨s, hown, hs⟩ := h j hj
    exact ⟨s, hown, hs.trans hr⟩

/-- **Only rows of the request are returned** exactly for these inputs: all the slots that are read exist,
there are no slots and some block exists, or the first rows of the layer look like rows of the request. -/
theorem extract_own_rows_iff :
    ExtractsOwn kvLayer mapping matchedBlocks matchedTokens ↔
      (validSlots mapping ≠ [] ∧ ∀ s ∈ slice (validSlots mapping) 0 matchedTokens, s < kvLayer.rowCount) ∨
      (validSlots mapping = [] ∧ blocksIn kvLayer.rowCount matchedBlocks ≠ []) ∨
      ∀ j < sliceBound kvLayer.rowCount matchedTokens,
        ∃ s, OwnRow kvLayer mapping matchedBlocks s ∧ kvLayer.row? s = kvLayer.row? j := by
  by_cases hslots : validSlots mapping ≠ [] ∧
      ∀ s ∈ slice (validSlots mapping) 0 matchedTokens, s < kvLayer.rowCount
  · exact iff_of_true (extractsOwn_slots hslots.1 hslots.2) (Or.inl hslots)
  by_cases hblocks : validSlots mapping = [] ∧ blocksIn kvLayer.rowCount matchedBlocks ≠ []
  · exact iff_of_true (extractsOwn_blocks hblocks.1 hblocks.2) (Or.inr (Or.inl hblocks))
  rw [or_iff_right hslots, or_iff_right hblocks]
  exact extractsOwn_first hslots hblocks

/-- Slot 9 does not exist in a layer of two rows, so row 0 is returned, which is not the request's. -/
theorem extract_foreign_row :
    ¬ ∀ (kvLayer : Tensor Half) (mapping matchedBlocks : List ℤ) (matchedTokens : ℤ), mapping ≠ [] →
      ExtractsOwn kvLayer mapping matchedBlocks matchedTokens := by
  intro h
  obtain ⟨s, ⟨hlt, hown⟩, hrow⟩ := h ⟨[2, 1], [5, 7], rfl⟩ [1, 9] [] 2 (by decide) ⟨[2, 1], [5, 7], rfl⟩
    (by decide +kernel) 0 ⟨[1], [5], rfl⟩ (by decide +kernel)
  have hs : s = 1 := by
    rcases hown with hmem | hmem
    · rcases List.mem_cons.mp hmem with h1 | hmem
      · omega
      · have h9 := List.mem_singleton.mp hmem
        change s < 2 at hlt
        omega
    · exact absurd hmem List.not_mem_nil
  subst hs
  revert hrow
  decide +kernel

end OwnRows

end AwareKV
