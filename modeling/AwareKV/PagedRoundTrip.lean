import AwareKV.Codec
import AwareKV.PagedKv

/-!
# AwareKV.PagedRoundTrip — what is extracted from one layer is injected into another

* `block_round_trip`: with blocks, both loops skip the same ids, so the packed rows meet their ids again.
* `slot_round_trip_iff`: with slots, extraction leaves the padding out and injection counts it, so a slot
  behind a padding entry gets the row of a later slot, or none.
-/

namespace AwareKV

variable {α β : Type}

/-! ## Blocks -/

section Blocks

/-- One more block in the list. -/
theorem blocksIn_concat (n : ℕ) (ys : List ℤ) (y : ℤ) :
    blocksIn n (ys ++ [y]) = if 0 ≤ y ∧ y < n then blocksIn n ys ++ [y.toNat] else blocksIn n ys := by
  unfold blocksIn
  rw [List.filter_append, List.map_append]
  split_ifs with h
  · rw [List.filter_cons_of_pos (by exact decide_eq_true h)]
    rfl
  · rw [List.filter_cons_of_neg (by rwa [decide_eq_true_eq])]
    simp

variable {src dst : Tensor α} {idx : ℕ}

theorem injectBlock_skip {b : ℤ} (h : ¬ (0 ≤ b ∧ b < dst.rowCount)) (hdim : dst.shape ≠ []) :
    injectBlock src b (dst, idx) = some (dst, idx) := by
  unfold injectBlock
  by_cases hneg : b < 0
  · rw [if_pos hneg]
  · rw [if_neg hneg, Tensor.len?_eq hdim, Option.bind_eq_bind, Option.bind_some, if_neg (by omega)]

/-- A block in range takes the next row of the source. -/
theorem injectBlock_write {b : ℤ} (h0 : 0 ≤ b) (hlt : b < dst.rowCount) (hidx : idx < src.rowCount)
    (hshape : src.rowShape = dst.rowShape) :
    ∃ r, src.row? idx = some r ∧ r.shape = dst.rowShape ∧
      injectBlock src b (dst, idx) = some (dst.setRow b.toNat r, idx + 1) := by
  have hin : b.toNat < dst.rowCount := by omega
  have hrow := Tensor.row?_of_lt hidx
  refine ⟨_, hrow, hshape, ?_⟩
  unfold injectBlock
  rw [if_neg (by omega), Tensor.len?_of_lt hin, Option.bind_eq_bind, Option.bind_some, if_pos hlt,
    Tensor.len?_of_lt hidx, Option.bind_eq_bind, Option.bind_some, if_pos hidx, hrow, Option.bind_some,
    Tensor.assignRow?, Tensor.fit?_self hshape]
  rfl

/-- **The loop over the blocks** puts the rows of the source, one after the other, into the blocks in
range. -/
theorem forEach_injectBlock (src : Tensor α) (hdim : dst.shape ≠ []) (hshape : src.rowShape = dst.rowShape)
    {blocks : List ℤ} (hrows : (blocksIn dst.rowCount blocks).length ≤ src.rowCount) :
    ∃ dst', forEach blocks (injectBlock src) (dst, 0) =
        ((dst', (blocksIn dst.rowCount blocks).length), true) ∧
      dst'.shape = dst.shape ∧
      ∀ k < dst.rowCount,
        dst'.row? k = (lastPos (blocksIn dst.rowCount blocks) k).elim (dst.row? k) src.row? := by
  induction blocks using List.reverseRecOn with
  | nil => exact ⟨dst, rfl, rfl, fun k _ => rfl⟩
  | append_singleton ys y ih =>
    rw [blocksIn_concat] at hrows ⊢
    by_cases hy : 0 ≤ y ∧ y < dst.rowCount
    · rw [if_pos hy] at hrows ⊢
      rw [List.length_append, List.length_singleton] at hrows ⊢
      obtain ⟨d, hrun, hd, hdrows⟩ := ih (by omega)
      have hcount : d.rowCount = dst.rowCount := Tensor.rowCount_congr hd
      have hrow : d.rowShape = dst.rowShape := Tensor.rowShape_congr hd
      have hlt : y < d.rowCount := by rw [hcount]; exact hy.2
      have hleft : (blocksIn dst.rowCount ys).length < src.rowCount := by omega
      obtain ⟨r, hr, hrshape, hstep⟩ := injectBlock_write hy.1 hlt hleft (hshape.trans hrow.symm)
      refine ⟨d.setRow y.toNat r, ?_, (Tensor.setRow_shape d _ r).trans hd, fun k hk => ?_⟩
      · rw [forEach_concat hrun, hstep]
      rw [Tensor.row?_setRow (by omega) hrshape, lastPos_concat]
      by_cases hk' : k = y.toNat
      · rw [if_pos hk', if_pos hk'.symm, Option.elim_some, hr]
      · rw [if_neg hk', if_neg fun h => hk' h.symm, hdrows k hk]
    · rw [if_neg hy] at hrows ⊢
      obtain ⟨d, hrun, hd, hdrows⟩ := ih hrows
      refine ⟨d, ?_, hd, hdrows⟩
      rw [forEach_concat hrun, injectBlock_skip (by rwa [Tensor.rowCount_congr hd]) (hd.symm ▸ hdim)]

/-- A block that is listed twice is one row, written twice. -/
theorem lastPos_blocksIn {n k : ℕ} (hk : k < n) (blocks : List ℤ) :
    if (k : ℤ) ∈ blocks then ∃ i, lastPos (blocksIn n blocks) k = some i ∧ (blocksIn n blocks)[i]? = some k
    else lastPos (blocksIn n blocks) k = none := by
  split_ifs with hmem
  · obtain ⟨i, hi⟩ := exists_lastPos (mem_blocksIn.mpr ⟨hk, hmem⟩)
    exact ⟨i, hi, (lastPos_eq_some.mp hi).1⟩
  · exact lastPos_eq_none.mpr fun h => hmem (mem_blocksIn.mp h).2

/-- What is extracted without slots has the rows of the blocks in range, in their order. -/
theorem extract_packed {layer : Tensor β} (blocks : List ℤ) (tokens : ℤ) (hdim : layer.shape ≠ []) :
    ∃ t, extractPrefixKvFromLayer layer none blocks tokens = .ok t ∧ t.shape ≠ [] ∧
      t.rowShape = layer.rowShape ∧ (blocksIn layer.rowCount blocks).length ≤ t.rowCount ∧
      ∀ i k, (blocksIn layer.rowCount blocks)[i]? = some k → t.row? i = layer.row? k := by
  by_cases hnone : blocksIn layer.rowCount blocks = []
  · -- nothing is in range: the first rows are extracted, and no block asks for them
    obtain ⟨t, ht, hfirst⟩ := extract_first none blocks tokens hdim (fun h => h.1 rfl) fun h => h.2 hnone
    obtain ⟨hne, -, hdims⟩ := Tensor.of_shape_cons (Tensor.gather?_eq_some hfirst).1
    refine ⟨t, ht, hne, hdims, by rw [hnone]; exact Nat.zero_le _, fun i k hi => ?_⟩
    rw [hnone, List.getElem?_nil] at hi
    cases hi
  · obtain ⟨t, ht, hgather⟩ := extract_blocks none blocks tokens rfl hnone
    obtain ⟨hne, hcount, hdims⟩ := Tensor.of_shape_cons (Tensor.gather?_eq_some hgather).1
    refine ⟨t, ht, hne, hdims, hcount.ge, fun i k hi => ?_⟩
    rw [Tensor.row?_gather hgather, hi, Option.bind_some]

/-- Injection succeeds, the rows of the listed blocks that are in range are those of `layer`, and the
other rows those of `dst`. -/
def BlockRoundTrip (toDst : β → α) (layer : Tensor β) (dst : Tensor α) (blocks : List ℤ) (tokens : ℤ) : Prop :=
  ∃ t dst', extractPrefixKvFromLayer layer none blocks tokens = .ok t ∧
    injectPrefixKvIntoLayer toDst dst t none blocks = (dst', true) ∧ dst'.shape = dst.shape ∧
    ∀ k < dst.rowCount,
      dst'.row? k = if (k : ℤ) ∈ blocks then (layer.map toDst).row? k else dst.row? k

/-- **Round trip by blocks**, for layers of one shape and whatever blocks are listed. -/
theorem block_round_trip (toDst : β → α) {layer : Tensor β} {dst : Tensor α} {blocks : List ℤ} {tokens : ℤ}
    (hdim : layer.shape ≠ []) (hshape : dst.shape = layer.shape) (hblocks : blocks ≠ []) :
    BlockRoundTrip toDst layer dst blocks tokens := by
  have hcount : dst.rowCount = layer.rowCount := Tensor.rowCount_congr hshape
  have hrowShape : dst.rowShape = layer.rowShape := Tensor.rowShape_congr hshape
  obtain ⟨t, ht, -, htshape, htcount, htrows⟩ := extract_packed blocks tokens hdim
  rw [← hcount] at htcount htrows
  obtain ⟨dst', hrun, hkeep, hrows⟩ := forEach_injectBlock (t.map toDst) (hshape ▸ hdim)
    (htshape.trans hrowShape.symm) htcount
  refine ⟨t, dst', ht, ?_, hkeep, fun k hk => ?_⟩
  · simp only [injectPrefixKvIntoLayer, Option.getD_none, ne_eq, not_true_eq_false, if_false, hblocks,
      not_false_eq_true, if_true, hrun]
  rw [hrows k hk]
  have hlast := lastPos_blocksIn hk blocks
  split_ifs at hlast ⊢ with hmem
  · obtain ⟨i, hi, hget⟩ := hlast
    rw [hi, Option.elim_some, Tensor.row?_map, htrows i k hget, Tensor.row?_map]
  · rw [hlast, Option.elim_none]

/-- A layer of three rows, with the blocks 2, 7, -1, 0 and 2. -/
theorem block_round_trip_ids :
    BlockRoundTrip id (⟨[3, 1], [4, 5, 6], rfl⟩ : Tensor Half) ⟨[3, 1], [0, 0, 0], rfl⟩ [2, 7, -1, 0, 2] 0 :=
  block_round_trip id (List.cons_ne_nil _ _) rfl (List.cons_ne_nil _ _)

/-- Rows of two elements do not go into a layer with rows of three, and `False` is returned. -/
theorem block_row_shape :
    ¬ ∀ (layer dst : Tensor Half) (blocks : List ℤ) (tokens : ℤ), layer.shape ≠ [] →
      dst.rowCount = layer.rowCount → blocks ≠ [] → 0 ≤ tokens → BlockRoundTrip id layer dst blocks tokens := by
  intro h
  obtain ⟨t, dst', ht, hinject, -⟩ := h ⟨[1, 2], [4, 5], rfl⟩ ⟨[1, 3], [0, 0, 0], rfl⟩ [0] 1
    (List.cons_ne_nil _ _) rfl (List.cons_ne_nil _ _) (by decide)
  have hextract : extractPrefixKvFromLayer (⟨[1, 2], [4, 5], rfl⟩ : Tensor Half) none [0] 1 =
      .ok ⟨[1, 2], [4, 5], rfl⟩ := by decide +kernel
  obtain rfl := Except.ok.inj (hextract.symm.trans ht)
  have hfalse : (injectPrefixKvIntoLayer id (⟨[1, 3], [0, 0, 0], rfl⟩ : Tensor Half)
      ⟨[1, 2], [4, 5], rfl⟩ none [0]).2 = false := by decide +kernel
  rw [hinject] at hfalse
  exact Bool.true_eq_false.mp hfalse

end Blocks

/-! ## Slots -/

section Slots

/-- A slot of a mapping with distinct slots stands at one position. -/
theorem position_unique {mapping : List ℤ} (hnodup : (validSlots mapping).Nodup) {s : ℤ} (h0 : 0 ≤ s)
    {i j : ℕ} (hij : i < j) (hi : mapping[i]? = some s) : mapping[j]? ≠ some s := by
  intro hj
  have hsplit : validSlots mapping = validSlots (mapping.take j) ++ validSlots (mapping.drop j) := by
    rw [validSlots, validSlots, validSlots, ← List.filter_append, List.take_append_drop]
  rw [hsplit] at hnodup
  have hbefore : s ∈ validSlots (mapping.take j) :=
    mem_validSlots.mpr ⟨List.mem_of_getElem? (by rwa [List.getElem?_take_of_lt hij]), h0⟩
  have hbehind : s ∈ validSlots (mapping.drop j) := by
    refine mem_validSlots.mpr ⟨List.mem_of_getElem? (i := 0) ?_, h0⟩
    rwa [List.getElem?_drop, Nat.add_zero]
  exact (List.disjoint_of_nodup_append hnodup) hbefore hbehind

/-- The rows of the slots of the mapping are those of `layer`, the other rows those of `dst`. -/
def SlotRoundTrip (toDst : β → α) (layer : Tensor β) (dst : Tensor α) (mapping blocks : List ℤ) (tokens : ℤ) :
    Prop :=
  ∃ t, extractPrefixKvFromLayer layer (some mapping) blocks tokens = .ok t ∧
    ∀ k < dst.rowCount, (injectPrefixKvIntoLayer toDst dst t (some mapping) blocks).1.row? k =
      if (k : ℤ) ∈ mapping then (layer.map toDst).row? k else dst.row? k

/-- Injection walks the mapping with its padding.  What it writes into a slot at position `p` is the row of
the `p`-th slot without padding; it must be the row of the slot itself.  Without such a slot nothing is
written. -/
def SlotAligned (toDst : β → α) (layer : Tensor β) (dst : Tensor α) (mapping : List ℤ) : Prop :=
  ∀ (p s : ℕ), mapping[p]? = some (s : ℤ) →
    (((validSlots mapping)[p]?).elim (dst.row? s) fun w => (layer.map toDst).row? w.toNat) =
      (layer.map toDst).row? s

/-- Padding at the end does no harm. -/
theorem slotAligned_of_padding_last (toDst : β → α) (layer : Tensor β) (dst : Tensor α)
    {slots padding : List ℤ} (hslots : ∀ s ∈ slots, 0 ≤ s) (hpadding : ∀ s ∈ padding, s < 0) :
    SlotAligned toDst layer dst (slots ++ padding) := by
  have hvalid : validSlots (slots ++ padding) = slots := by
    have hkeep : validSlots slots = slots := List.filter_eq_self.mpr fun s hs => decide_eq_true (hslots s hs)
    have hdrop : validSlots padding = [] :=
      List.filter_eq_nil_iff.mpr fun s hs => by
        have hneg := hpadding s hs
        rw [decide_eq_true_eq]
        omega
    rw [validSlots, List.filter_append]
    exact (congrArg₂ _ hkeep hdrop).trans (List.append_nil slots)
  intro p s hp
  rw [hvalid]
  by_cases hlt : p < slots.length
  · rw [List.getElem?_append_left hlt] at hp
    rw [hp, Option.elim_some, Int.toNat_natCast]
  · rw [List.getElem?_append_right (by omega)] at hp
    have hneg := hpadding _ (List.mem_of_getElem? hp)
    omega

variable {toDst : β → α} {layer : Tensor β} {dst : Tensor α} {mapping blocks : List ℤ} {tokens : ℤ}

/-- `t` holds the rows of the slots without padding, in their order. -/
structure SlotRows (layer : Tensor β) (mapping : List ℤ) (t : Tensor β) : Prop where
  dim : t.shape ≠ []
  count : t.rowCount = (validSlots mapping).length
  rowShape : t.rowShape = layer.rowShape
  row : ∀ p, t.row? p = (validSlots mapping)[p]?.bind fun s => layer.row? s.toNat

/-- With as many tokens as slots, all of them are extracted. -/
theorem extract_all_slots (blocks : List ℤ) (hone : validSlots mapping ≠ [])
    (hrange : ∀ s ∈ validSlots mapping, s < layer.rowCount) (htokens : (validSlots mapping).length ≤ tokens) :
    ∃ t, extractPrefixKvFromLayer layer (some mapping) blocks tokens = .ok t ∧ SlotRows layer mapping t := by
  obtain ⟨s, hs⟩ := List.exists_mem_of_ne_nil _ hone
  have hlt := hrange s hs
  have h0 := (mem_validSlots.mp hs).2
  have hdim : layer.shape ≠ [] := Tensor.shape_ne_nil_of_lt (show s.toNat < layer.rowCount by omega)
  have hslice : slice (validSlots mapping) 0 tokens = validSlots mapping := slice_whole htokens
  obtain ⟨t, ht, hgather⟩ := extract_slots (some mapping) blocks tokens hone
    (by rwa [Option.getD_some, hslice]) hdim
  rw [Option.getD_some, hslice] at hgather
  obtain ⟨hne, hcount, hdims⟩ := Tensor.of_shape_cons (Tensor.gather?_eq_some hgather).1
  refine ⟨t, ht, hne, by rw [hcount, List.length_map], hdims, fun p => ?_⟩
  rw [Tensor.row?_gather hgather, List.getElem?_map, Option.bind_map]
  rfl

/-- What is written last into the slot at position `p`. -/
theorem SlotRows.written {t : Tensor β} (ht : SlotRows layer mapping t) (toDst : β → α) (dst : Tensor α)
    (hnodup : (validSlots mapping).Nodup) (hrange : ∀ s ∈ validSlots mapping, s < layer.rowCount)
    (hshape : layer.rowShape = dst.rowShape) {p k : ℕ} (hp : mapping[p]? = some (k : ℤ)) :
    ((lastPos (mapping.take t.rowCount) (k : ℤ)).elim (dst.row? k)
        fun i => ((t.map toDst).row? i).bind fun r => r.fit? dst.rowShape) =
      (validSlots mapping)[p]?.elim (dst.row? k) fun w : ℤ => (layer.map toDst).row? w.toNat := by
  have hlast : lastPos mapping (k : ℤ) = some p :=
    lastPos_eq_some.mpr ⟨hp, fun j hj => position_unique hnodup (by omega) hj hp⟩
  rw [ht.count]
  by_cases hlt : p < (validSlots mapping).length
  · -- the row of the `p`-th slot without padding
    have hw : (validSlots mapping)[p] < layer.rowCount := hrange _ (List.getElem_mem hlt)
    have hw0 := (mem_validSlots.mp (List.getElem_mem hlt)).2
    have hsome : (layer.map toDst).row? ((validSlots mapping)[p]).toNat = some _ :=
      Tensor.row?_of_lt (show ((validSlots mapping)[p]).toNat < (layer.map toDst).rowCount by
        rw [Tensor.rowCount_map]; omega)
    rw [lastPos_take hlast hlt, Option.elim_some, List.getElem?_eq_getElem hlt, Option.elim_some,
      Tensor.row?_map, ht.row, List.getElem?_eq_getElem hlt, Option.bind_some, ← Tensor.row?_map, hsome,
      Option.bind_some, Tensor.fit?_self hshape]
  · have hnone : lastPos (mapping.take (validSlots mapping).length) (k : ℤ) = none := by
      refine lastPos_eq_none.mpr fun hmem => ?_
      obtain ⟨j, hj⟩ := List.mem_iff_getElem?.mp hmem
      have hjlt : j < (mapping.take (validSlots mapping).length).length := (List.getElem?_eq_some_iff.mp hj).1
      rw [List.length_take] at hjlt
      rw [List.getElem?_take_of_lt (by omega)] at hj
      exact position_unique hnodup (by omega) (show j < p by omega) hj hp
    rw [hnone, Option.elim_none, List.getElem?_eq_none (not_lt.mp hlt), Option.elim_none]

/-- **What injection leaves**, for rows of one shape: a slot is looked up at its position. -/
theorem SlotRows.inject {t : Tensor β} (ht : SlotRows layer mapping t) (toDst : β → α) (blocks : List ℤ)
    (hdst : dst.shape ≠ []) (hmapping : mapping ≠ []) (hnodup : (validSlots mapping).Nodup)
    (hrange : ∀ s ∈ validSlots mapping, s < layer.rowCount) (hshape : layer.rowShape = dst.rowShape) {k : ℕ}
    (hk : k < dst.rowCount) :
    (∀ p : ℕ, mapping[p]? = some (k : ℤ) →
      (injectPrefixKvIntoLayer toDst dst t (some mapping) blocks).1.row? k =
        (validSlots mapping)[p]?.elim (dst.row? k) fun w : ℤ => (layer.map toDst).row? w.toNat) ∧
    ((k : ℤ) ∉ mapping →
      (injectPrefixKvIntoLayer toDst dst t (some mapping) blocks).1.row? k = dst.row? k) := by
  obtain ⟨dst', hrun, -, hrows⟩ := inject_slots_fit toDst blocks hmapping ht.dim hdst
    (Or.inl (ht.rowShape.trans hshape))
  rw [hrun]
  refine ⟨fun p hp => ?_, fun hno => ?_⟩
  · rw [hrows k hk]
    exact ht.written toDst dst hnodup hrange hshape hp
  · have hnone : lastPos (mapping.take t.rowCount) (k : ℤ) = none :=
      lastPos_eq_none.mpr fun hmem => hno (List.mem_of_mem_take hmem)
    rw [hrows k hk, hnone, Option.elim_none]

/-- **Round trip by slots**: exactly for rows of one shape and slots that padding does not move. -/
theorem slot_round_trip_iff (hcount : dst.rowCount = layer.rowCount) (hnodup : (validSlots mapping).Nodup)
    (hrange : ∀ s ∈ validSlots mapping, s < layer.rowCount) (hone : validSlots mapping ≠ [])
    (htokens : (validSlots mapping).length ≤ tokens) :
    SlotRoundTrip toDst layer dst mapping blocks tokens ↔
      dst.rowShape = layer.rowShape ∧ SlotAligned toDst layer dst mapping := by
  obtain ⟨s₀, hs₀⟩ := List.exists_mem_of_ne_nil _ hone
  obtain ⟨hmem₀, h0⟩ := mem_validSlots.mp hs₀
  have hlt₀ : s₀.toNat < layer.rowCount := by
    have hlt := hrange s₀ hs₀
    omega
  have hdst : dst.shape ≠ [] := Tensor.shape_ne_nil_of_lt (hcount ▸ hlt₀)
  have hmapping : mapping ≠ [] := List.ne_nil_of_mem hmem₀
  obtain ⟨t, ht, hslots⟩ := extract_all_slots blocks hone hrange htokens
  constructor
  · rintro ⟨t', ht', hrows⟩
    obtain rfl := Except.ok.inj (ht.symm.trans ht')
    have hshape : dst.rowShape = layer.rowShape := by
      have hk := hrows s₀.toNat (hcount ▸ hlt₀)
      rw [if_pos (by rwa [Int.toNat_of_nonneg h0]),
        Tensor.row?_of_lt (show s₀.toNat < (layer.map toDst).rowCount from hlt₀)] at hk
      rw [← Tensor.rowShape_congr (inject_slots_shape toDst dst blocks hmapping hslots.dim)]
      exact (Tensor.row?_shape hk).symm
    refine ⟨hshape, fun p s hp => ?_⟩
    have hlt := hrange s (mem_validSlots.mpr ⟨List.mem_of_getElem? hp, by omega⟩)
    have hs : s < dst.rowCount := by omega
    rw [← (hslots.inject toDst blocks hdst hmapping hnodup hrange hshape.symm hs).1 p hp, hrows s hs,
      if_pos (List.mem_of_getElem? hp)]
  · rintro ⟨hshape, haligned⟩
    refine ⟨t, ht, fun k hk => ?_⟩
    obtain ⟨hin, hout⟩ := hslots.inject toDst blocks hdst hmapping hnodup hrange hshape.symm hk
    split_ifs with hmem
    · obtain ⟨p, hp⟩ := List.mem_iff_getElem?.mp hmem
      rw [hin p hp, haligned p k hp]
    · exact hout hmem

/-- A layer of three rows, with the slots 2 and 0 and padding behind them. -/
theorem slot_round_trip_padded :
    SlotRoundTrip id (⟨[3, 1], [4, 5, 6], rfl⟩ : Tensor Half) ⟨[3, 1], [0, 0, 0], rfl⟩ [2, 0, -1] [] 2 ↔
      (⟨[3, 1], [0, 0, 0], rfl⟩ : Tensor Half).rowShape = (⟨[3, 1], [4, 5, 6], rfl⟩ : Tensor Half).rowShape ∧
        SlotAligned id (⟨[3, 1], [4, 5, 6], rfl⟩ : Tensor Half) ⟨[3, 1], [0, 0, 0], rfl⟩ [2, 0, -1] :=
  slot_round_trip_iff rfl (by decide) (by decide) (by decide) (by decide)

/-- Padding before slot 0: one row is extracted, injection meets the padding with it, and is done. -/
theorem slot_behind_padding :
    ¬ ∀ (layer dst : Tensor Half) (mapping blocks : List ℤ) (tokens : ℤ), dst.rowCount = layer.rowCount →
      (validSlots mapping).Nodup → (∀ s ∈ validSlots mapping, s < layer.rowCount) → validSlots mapping ≠ [] →
      (validSlots mapping).length ≤ tokens → SlotRoundTrip id layer dst mapping blocks tokens := by
  intro h
  obtain ⟨t, ht, hrows⟩ := h ⟨[1, 1], [7], rfl⟩ ⟨[1, 1], [0], rfl⟩ [-1, 0] [] 1 rfl (by decide) (by decide)
    (by decide) (by decide)
  have hextract : extractPrefixKvFromLayer (⟨[1, 1], [7], rfl⟩ : Tensor Half) (some [-1, 0]) [] 1 =
      .ok ⟨[1, 1], [7], rfl⟩ := by decide +kernel
  obtain rfl := Except.ok.inj (hextract.symm.trans ht)
  have hrow := hrows 0 (by decide)
  revert hrow
  decide +kernel

end Slots

end AwareKV
