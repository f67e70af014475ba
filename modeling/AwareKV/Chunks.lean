import AwareKV.CriticalLoad
import AwareKV.HeaderWords
import AwareKV.RoundTrip
import AwareKV.Saver

/-!
# AwareKV.Chunks — objects without a header: their slices and their size

The worker and the loader both divide an object's bytes by the number of layers.  The worker gives what is
left over to the last layer, the loader to none.

* `decode_concatenation`: from the encodings of layers of one shape the worker gets the layers' own
  decodings; and its slices cover every object without a gap or an overlap.
* `slices_agree_iff`: the two lists of slices are the same exactly when the division leaves no remainder.
* `estimate_exact_iff`: when the size that the saver notes for an object is the object's size.
-/

namespace AwareKV

/-! ## Slices -/

/-- `start` in the loop of `_decode_critical_kv`. -/
def sliceStart (chunkSize : ℤ) (i : ℕ) : ℤ := i * chunkSize

/-- `end` in the loop of `_decode_critical_kv`. -/
def sliceEnd (data : Bytes) (numLayers chunkSize : ℤ) (i : ℕ) : ℤ :=
  if (i : ℤ) < numLayers - 1 then i * chunkSize + chunkSize else data.length

/-- The slices that `_decode_critical_kv` decodes. -/
def workerSlices (data : Bytes) (n : ℕ) : List Bytes :=
  (List.range n).map fun i =>
    slice data (sliceStart ((data.length : ℤ).fdiv n) i) (sliceEnd data n ((data.length : ℤ).fdiv n) i)

/-- The slices that `_decode_legacy_format` decodes. -/
def legacySlices (data : Bytes) (n : ℕ) : List Bytes :=
  (List.range n).map fun i =>
    let piece := layerPiece 0 ((data.length : ℤ).fdiv n) i
    slice data piece.start piece.stop

theorem workerSlices_eq (data : Bytes) (n : ℕ) :
    workerSlices data n = (List.range n).map (layerData data n ((data.length : ℤ).fdiv n)) := rfl

section Decode

variable (cfg : DeadlineKVConfig) (fo : FloatOps)

/-- A round of the loop of `_decode_critical_kv`, for its slice. -/
def decodeSlice (codec : Codec) (codecName : String) (bytes : Bytes) : Py (Tensor Half) := do
  let shape ← estimatedShape cfg codecName bytes.length
  let dtype := if containsText "int8" codec.name then "int8" else "float16"
  codec.decode fo (.make codec.name bytes (some shape) dtype 0)

/-- The worker decodes its slices, one after the other. -/
theorem decodeCriticalKv_slices (data : Bytes) (codec : Codec) {n : ℕ} (hn : 0 < n) :
    decodeCriticalKv cfg fo data codec.name n =
      (workerSlices data n).mapM (decodeSlice cfg fo codec codec.name) := by
  unfold decodeCriticalKv
  rw [getCodec_name, Py.ok_bind, floorDiv, if_neg (by omega), Py.ok_bind, workerSlices_eq, List.mapM_map]
  rfl

/-- And so does the loader. -/
theorem decodeLegacyFormat_slices (data : Bytes) (codec : Codec) {n : ℕ} (hn : 0 < n) :
    decodeLegacyFormat fo data codec n = do
      let layers ← (legacySlices data n).mapM fun bytes =>
        codec.decode fo (.make codec.name bytes none (match codec with
          | .int8Symm => "int8"
          | .fp16Raw => "float16") 0)
      return (none, layers) := by
  unfold decodeLegacyFormat
  rw [if_neg (by omega), floorDiv, if_neg (by omega), Py.ok_bind, decodePieces_eq, legacySlices, List.mapM_map]
  rfl

end Decode

/-! ### The two splitters -/

theorem workerSlices_getElem (data : Bytes) {n i : ℕ} (hi : i < (workerSlices data n).length) :
    (workerSlices data n)[i] = if i + 1 < n then slice data (i * (data.length / n) : ℕ)
      (i * (data.length / n) + data.length / n : ℕ) else data.drop (i * (data.length / n)) := by
  have hlt : i < n := by simpa [workerSlices] using hi
  simp only [workerSlices_eq, List.getElem_map, List.getElem_range]
  rw [← Int.ofNat_fdiv]
  split_ifs with hinner
  · exact layerData_inner data hinner _
  · obtain rfl : n = i + 1 := by omega
    exact layerData_last data i _

theorem legacySlices_getElem (data : Bytes) {n i : ℕ} (hi : i < (legacySlices data n).length) :
    (legacySlices data n)[i] =
      slice data (i * (data.length / n) : ℕ) (i * (data.length / n) + data.length / n : ℕ) := by
  simp only [legacySlices, List.getElem_map, List.getElem_range, layerPiece]
  rw [← Int.ofNat_fdiv, zero_add]
  push_cast
  rfl

/-- **The two splitters agree exactly when nothing is left over.** -/
theorem slices_agree_iff (data : Bytes) (n : ℕ) (hn : 1 ≤ n) :
    workerSlices data n = legacySlices data n ↔ n ∣ data.length := by
  obtain ⟨k, rfl⟩ : ∃ k, n = k + 1 := ⟨n - 1, by omega⟩
  have hw : (workerSlices data (k + 1)).length = k + 1 := by simp [workerSlices]
  have hl : (legacySlices data (k + 1)).length = k + 1 := by simp [legacySlices]
  have hfit : k * (data.length / (k + 1)) + data.length / (k + 1) ≤ data.length := by
    rw [← Nat.succ_mul]
    exact Nat.mul_div_le _ _
  constructor
  · intro h
    have hlast : (workerSlices data (k + 1))[k] = (legacySlices data (k + 1))[k] := by
      simp only [h]
    rw [workerSlices_getElem, legacySlices_getElem, if_neg (by omega), slice_nat] at hlast
    have hlen := congrArg List.length hlast
    rw [List.length_drop, List.length_drop, List.length_take, Nat.min_eq_left hfit] at hlen
    refine ⟨data.length / (k + 1), ?_⟩
    generalize data.length / (k + 1) = q at hfit hlen ⊢
    rw [Nat.succ_mul]
    omega
  · intro h
    have hall : k * (data.length / (k + 1)) + data.length / (k + 1) = data.length := by
      rw [← Nat.succ_mul]
      exact Nat.mul_div_cancel' h
    refine List.ext_getElem (hw.trans hl.symm) fun i hi hi' => ?_
    rw [workerSlices_getElem, legacySlices_getElem]
    split_ifs with hinner
    · rfl
    · obtain rfl : i = k := by omega
      rw [slice_nat, hall, List.take_length]

/-- Two layers of an object of six bytes. -/
theorem slices_agree_six : workerSlices [1, 2, 3, 4, 5, 6] 2 = legacySlices [1, 2, 3, 4, 5, 6] 2 ↔ 2 ∣ 6 :=
  slices_agree_iff [1, 2, 3, 4, 5, 6] 2 (by decide)

/-- Of five bytes the loader loses one. -/
theorem slices_disagree_five :
    ¬ ∀ (data : Bytes) (n : ℕ), data.take 8 ≠ objectMagic → 1 ≤ n →
      workerSlices data n = legacySlices data n := by
  intro h
  have hfive := h [1, 2, 3, 4, 5] 2 (by decide) (by decide)
  revert hfive
  decide

/-! ### Layers of one shape -/

/-- A chunk of equal pieces put together is a piece. -/
theorem layerData_flatten {layers : List Bytes} {size : ℕ} (hsize : ∀ l ∈ layers, l.length = size)
    {i : ℕ} (hi : i < layers.length) :
    layerData layers.flatten layers.length ((layers.flatten.length : ℤ).fdiv layers.length) i = layers[i] := by
  have hlen : ∀ ls : List Bytes, (∀ l ∈ ls, l.length = size) → ls.flatten.length = ls.length * size := by
    intro ls hls
    rw [List.length_flatten, List.map_eq_replicate_iff.mpr hls, List.sum_const_nat]
  have hq : layers.flatten.length / layers.length = size := by
    rw [hlen layers hsize]
    exact Nat.mul_div_cancel_left size (by omega)
  have hbefore : (layers.take i).flatten.length = i * size := by
    rw [hlen _ fun l hl => hsize l (List.mem_of_mem_take hl), List.length_take_of_le hi.le]
  have hsplit : layers.flatten = (layers.take i).flatten ++ layers[i] ++ (layers.drop (i + 1)).flatten := by
    conv_lhs => rw [← List.take_append_drop i layers, List.drop_eq_getElem_cons hi]
    rw [List.flatten_append, List.flatten_cons, List.append_assoc]
  rw [← Int.ofNat_fdiv, hq]
  by_cases hinner : i + 1 < layers.length
  · rw [layerData_inner _ hinner]
    refine slice_mid hsplit ?_ ?_
    · rw [hbefore]
    · rw [hbefore, hsize _ (List.getElem_mem hi), Nat.cast_add]
  · have hlast : layers.length = i + 1 := by omega
    have hnone : layers.drop (i + 1) = [] := List.drop_eq_nil_of_le (by omega)
    rw [hlast, layerData_last, hsplit, hnone, List.flatten_nil, List.append_nil, ← hbefore, List.drop_left]

/-- Equal pieces put together are cut into the pieces. -/
theorem workerSlices_flatten {layers : List Bytes} {size : ℕ} (hsize : ∀ l ∈ layers, l.length = size) :
    workerSlices layers.flatten layers.length = layers := by
  refine List.ext_getElem (by simp [workerSlices]) fun i hi hi' => ?_
  simp only [workerSlices_eq, List.getElem_map, List.getElem_range]
  exact layerData_flatten hsize hi'

section Concatenation

variable {α : Type} {cfg : DeadlineKVConfig} {fo : FloatOps} {codec : Codec} {toHalf : α → Half}

/-- **The estimated shape is the layer's**, although an int8 encoding has four bytes more than elements. -/
theorem estimatedShape_encoded (cfg : DeadlineKVConfig) (codec : Codec) {k blockSize numKvHeads headSize : ℕ}
    (hb : cfg.blockSize = blockSize) (hh : cfg.numKvHeads.getD 32 = numKvHeads)
    (hd : cfg.headSize.getD 128 = headSize) (hprod : 4 < blockSize * numKvHeads * headSize) (hk : 1 ≤ k) :
    estimatedShape cfg codec.name (codec.encodedSize (k * (blockSize * numKvHeads * headSize))) =
      .ok ([k, blockSize, numKvHeads, headSize].map Int.ofNat) := by
  generalize hE : blockSize * numKvHeads * headSize = E at hprod
  have hcast : (blockSize * numKvHeads * headSize : ℤ) = (E : ℤ) := by exact_mod_cast hE
  have hblocks : ((codec.encodedSize (k * E) : ℤ).fdiv
      (if containsText "int8" codec.name then 1 else 2)).fdiv E = k := by
    cases codec with
    | fp16Raw =>
      rw [if_neg (by decide), Codec.encodedSize]
      rw [show (2 : ℤ) = ((2 : ℕ) : ℤ) from rfl, ← Int.ofNat_fdiv, ← Int.ofNat_fdiv,
        Nat.mul_div_cancel_left _ (by decide), Nat.mul_div_cancel _ (by omega)]
    | int8Symm =>
      rw [if_pos (by decide), Codec.encodedSize, Int.fdiv_one, ← Int.ofNat_fdiv, Nat.add_comm,
        Nat.add_mul_div_right _ _ (by omega), Nat.div_eq_of_lt hprod, Nat.zero_add]
  unfold estimatedShape
  rw [hb, hh, hd]
  dsimp only
  rw [hcast, floorDiv, if_neg (by omega), Py.ok_bind, hblocks, max_eq_right (by omega)]
  rfl

/-- A slice that is an encoding decodes as the encoding does. -/
theorem decodeSlice_encoded {k blockSize numKvHeads headSize : ℕ}
    (hb : cfg.blockSize = blockSize) (hh : cfg.numKvHeads.getD 32 = numKvHeads)
    (hd : cfg.headSize.getD 128 = headSize) (hprod : 4 < blockSize * numKvHeads * headSize) (hk : 1 ≤ k)
    {t : Tensor α} (ht : t.shape = [k, blockSize, numKvHeads, headSize]) {blob : EncodedBlob}
    (hblob : codec.encode fo toHalf t = .ok blob) :
    decodeSlice cfg fo codec codec.name blob.data = codec.decode fo blob := by
  have hlen : blob.data.length = codec.encodedSize (k * (blockSize * numKvHeads * headSize)) := by
    rw [encode_length hblob, ht]
    simp only [List.prod_cons, List.prod_nil, mul_one, mul_assoc]
  obtain ⟨hname, hshape⟩ := encode_blob hblob
  unfold decodeSlice
  rw [hlen, estimatedShape_encoded cfg codec hb hh hd hprod hk, Py.ok_bind]
  refine decode_congr fo codec hname.symm rfl ?_
  rw [hshape, ht]
  rfl

/-- The encodings' slices decode to the layers' own decodings. -/
theorem mapM_decodeSlice {k blockSize numKvHeads headSize : ℕ}
    (hb : cfg.blockSize = blockSize) (hh : cfg.numKvHeads.getD 32 = numKvHeads)
    (hd : cfg.headSize.getD 128 = headSize) (hprod : 4 < blockSize * numKvHeads * headSize) (hk : 1 ≤ k)
    {kvTensors : List (Tensor α)} (hshape : ∀ t ∈ kvTensors, t.shape = [k, blockSize, numKvHeads, headSize])
    {layers : List Bytes} (hl : encodeLayers fo toHalf codec kvTensors = .ok layers) :
    layers.mapM (decodeSlice cfg fo codec codec.name) = ownDecodings fo codec toHalf kvTensors := by
  have hencoded := Py.mapM_eq_ok.mp hl
  clear hl
  induction hencoded with
  | nil => rfl
  | @cons t l kvTensors layers ht _ ih =>
    obtain ⟨blob, hblob, hdata⟩ := Py.bind_eq_ok.mp ht
    cases hdata
    have hhead := decodeSlice_encoded hb hh hd hprod hk (hshape t List.mem_cons_self) hblob
    have htail := ih fun u hu => hshape u (List.mem_cons_of_mem t hu)
    unfold ownDecodings at htail ⊢
    rw [List.mapM_cons, List.mapM_cons, hhead, htail, hblob, Py.ok_bind]

/-- Layers that the codec encodes one by one are encoded, each to the length for its elements. -/
theorem encodeLayers_exists {kvTensors : List (Tensor α)}
    (hencode : ∀ t ∈ kvTensors, ∃ blob, codec.encode fo toHalf t = .ok blob) :
    ∃ layers, encodeLayers fo toHalf codec kvTensors = .ok layers ∧
      ∀ l ∈ layers, ∃ t ∈ kvTensors, l.length = codec.encodedSize t.shape.prod := by
  refine Py.mapM_exists kvTensors fun t ht => ?_
  obtain ⟨blob, hblob⟩ := hencode t ht
  exact ⟨blob.data, by rw [hblob]; rfl, t, ht, encode_length hblob⟩

/-- Their own decodings have their shape. -/
theorem ownDecodings_exists {kvTensors : List (Tensor α)} {shape : List ℕ}
    (hencode : ∀ t ∈ kvTensors, ∃ blob, codec.encode fo toHalf t = .ok blob)
    (hshape : ∀ t ∈ kvTensors, t.shape = shape) :
    ∃ own, ownDecodings fo codec toHalf kvTensors = .ok own ∧ ∀ t ∈ own, t.shape = shape := by
  refine Py.mapM_exists kvTensors fun t ht => ?_
  obtain ⟨blob, hblob⟩ := hencode t ht
  obtain ⟨hname, hsh⟩ := encode_blob hblob
  obtain ⟨y, hy, hys⟩ := decode_shaped fo codec (encode_length hblob) blob.dtype blob.nbytes
  refine ⟨y, ?_, hys.trans (hshape t ht)⟩
  rw [hblob, Py.ok_bind, ← hy]
  exact decode_congr fo codec hname rfl hsh

end Concatenation

/-! ### The bounds -/

/-- The slices of an object for `n` layers start at its first byte and end at its last one, each where the
one before it ends; so no two overlap, and put together they are the object. -/
structure SlicesCover (data : Bytes) (n : ℕ) (chunkSize : ℤ) : Prop where
  first : sliceStart chunkSize 0 = 0
  ordered : ∀ i < n, sliceStart chunkSize i ≤ sliceEnd data n chunkSize i
  contiguous : ∀ i, i + 1 < n → sliceEnd data n chunkSize i = sliceStart chunkSize (i + 1)
  disjoint : ∀ i j, i < j → j < n → sliceEnd data n chunkSize i ≤ sliceStart chunkSize j
  last : sliceEnd data n chunkSize (n - 1) = data.length
  whole : ((List.range n).map fun i =>
    slice data (sliceStart chunkSize i) (sliceEnd data n chunkSize i)).flatten = data

theorem slicesCover (data : Bytes) {n : ℕ} (hn : 1 ≤ n) :
    SlicesCover data n ((data.length : ℤ).fdiv n) := by
  have hwhole := flatMap_layerData data hn
  rw [← Int.ofNat_fdiv] at hwhole ⊢
  have hfit : n * (data.length / n) ≤ data.length := Nat.mul_div_le _ _
  generalize data.length / n = q at hwhole hfit ⊢
  have hinner : ∀ i, i + 1 < n → sliceEnd data n q i = sliceStart q (i + 1) := by
    intro i hi
    rw [sliceEnd, if_pos (by omega), sliceStart]
    push_cast
    ring
  have hmono : ∀ {i j : ℕ}, i ≤ j → sliceStart q i ≤ sliceStart q j := fun hij =>
    mul_le_mul_of_nonneg_right (Int.ofNat_le.mpr hij) (Int.natCast_nonneg q)
  have hlast : sliceEnd data n q (n - 1) = data.length := by
    rw [sliceEnd, if_neg (by omega)]
  refine ⟨by simp [sliceStart], fun i hi => ?_, hinner, fun i j hij hj => ?_, hlast, ?_⟩
  · by_cases hi' : i + 1 < n
    · rw [hinner i hi']
      exact hmono (Nat.le_succ i)
    · obtain rfl : i = n - 1 := by omega
      rw [hlast, sliceStart]
      have hle : (n - 1) * q ≤ data.length := (Nat.mul_le_mul_right q (Nat.sub_le n 1)).trans hfit
      exact_mod_cast hle
  · rw [hinner i (by omega)]
    exact hmono hij
  · rw [← List.flatMap_def]
    exact hwhole

/-- **Chunked decoding**: for layers of one shape that the configuration knows, with more than four elements
for each block, the worker decodes the encodings, put together without a header, to the layers' own
decodings, in that shape; and for all bytes and at least one layer, its slices cover the bytes. -/
theorem decode_concatenation {α : Type} (cfg : DeadlineKVConfig) (fo : FloatOps) (codec : Codec)
    (toHalf : α → Half) (k blockSize numKvHeads headSize : ℕ) (hb : cfg.blockSize = blockSize)
    (hh : cfg.numKvHeads.getD 32 = numKvHeads) (hd : cfg.headSize.getD 128 = headSize)
    (hprod : 4 < blockSize * numKvHeads * headSize) (hk : 1 ≤ k) (kvTensors : List (Tensor α))
    (hne : kvTensors ≠ []) (hshape : ∀ t ∈ kvTensors, t.shape = [k, blockSize, numKvHeads, headSize]) :
    (∃ layers own, encodeLayers fo toHalf codec kvTensors = .ok layers ∧
      ownDecodings fo codec toHalf kvTensors = .ok own ∧
      decodeCriticalKv cfg fo layers.flatten codec.name kvTensors.length = .ok own ∧
      ∀ t ∈ own, t.shape = [k, blockSize, numKvHeads, headSize]) ∧
    ∀ (data : Bytes) (n : ℕ), 1 ≤ n → SlicesCover data n ((data.length : ℤ).fdiv n) := by
  refine ⟨?_, fun data n hn => slicesCover data hn⟩
  have hencode : ∀ t ∈ kvTensors, ∃ blob, codec.encode fo toHalf t = .ok blob := by
    intro t ht
    refine (encode_isOk fo codec toHalf t).mpr fun _ => ?_
    rw [hshape t ht]
    have hpos : 0 < k * (blockSize * numKvHeads * headSize) := Nat.mul_pos hk (by omega)
    simp only [List.prod_cons, List.prod_nil, mul_one, mul_assoc] at hpos ⊢
    omega
  obtain ⟨layers, hlayers, hlengths⟩ := encodeLayers_exists hencode
  obtain ⟨own, hown, hownShape⟩ := ownDecodings_exists hencode hshape
  have hsize : ∀ l ∈ layers, l.length = codec.encodedSize [k, blockSize, numKvHeads, headSize].prod := by
    intro l hl
    obtain ⟨t, ht, hlength⟩ := hlengths l hl
    rw [hlength, hshape t ht]
  have hlen : layers.length = kvTensors.length := ((Py.mapM_eq_ok.mp hlayers).length_eq).symm
  have hpos : 0 < layers.length := hlen ▸ List.length_pos_iff.mpr hne
  refine ⟨layers, own, hlayers, hown, ?_, hownShape⟩
  rw [← hlen, decodeCriticalKv_slices cfg fo _ codec hpos, workerSlices_flatten hsize]
  exact (mapM_decodeSlice hb hh hd hprod hk hshape hlayers).trans hown

/-- A layer with one block of one token, one head and five elements. -/
def smallLayer : Tensor Half := ⟨[1, 1, 1, 5], [0, 0, 0, 0, 0], rfl⟩

/-- Two such layers as int8. -/
theorem decode_concatenation_two :
    ∃ layers own, encodeLayers default id .int8Symm [smallLayer, smallLayer] = .ok layers ∧
      ownDecodings default .int8Symm id [smallLayer, smallLayer] = .ok own ∧
      decodeCriticalKv { blockSize := 1, numKvHeads := some 1, headSize := some 5 } default layers.flatten
        "int8_symm" 2 = .ok own ∧
      ∀ t ∈ own, t.shape = [1, 1, 1, 5] :=
  (decode_concatenation { blockSize := 1, numKvHeads := some 1, headSize := some 5 } default .int8Symm id
    1 1 1 5 rfl rfl rfl (by decide) (by decide) [smallLayer, smallLayer] (by simp)
    (by simp [smallLayer])).1

/-! ## The noted size -/

section Size

variable {α : Type} (cfg : DeadlineKVConfig) (fo : FloatOps) (codec : Codec) (toHalf : α → Half)

/-- The encodings' bytes. -/
theorem encodeLayers_length {fo : FloatOps} {codec : Codec} {toHalf : α → Half}
    {kvTensors : List (Tensor α)} {layers : List Bytes}
    (h : encodeLayers fo toHalf codec kvTensors = .ok layers) :
    layers.flatten.length = (kvTensors.map fun t => codec.encodedSize t.shape.prod).sum := by
  have hencoded := Py.mapM_eq_ok.mp h
  clear h
  induction hencoded with
  | nil => rfl
  | cons ht _ ih =>
    obtain ⟨blob, hblob, hdata⟩ := Py.bind_eq_ok.mp ht
    cases hdata
    rw [List.flatten_cons, List.length_append, ih, encode_length hblob, List.map_cons, List.sum_cons]

/-- Encodings are `n` times as long as one encoding exactly when there are `n` times as many elements. -/
theorem sum_encodedSize_iff (codec : Codec) (ms : List ℕ) (m : ℕ) :
    (ms.map codec.encodedSize).sum = ms.length * codec.encodedSize m ↔ ms.sum = ms.length * m := by
  cases codec with
  | fp16Raw =>
    have hsum : (ms.map Codec.fp16Raw.encodedSize).sum = 2 * ms.sum :=
      (List.sum_map_mul_left ms id 2).trans (by rw [List.map_id])
    rw [hsum, Codec.encodedSize, Nat.mul_left_comm]
    omega
  | int8Symm =>
    have hsum : (ms.map Codec.int8Symm.encodedSize).sum = ms.sum + ms.length * 4 := by
      induction ms with
      | nil => rfl
      | cons m ms ih =>
        rw [List.map_cons, List.sum_cons, ih, List.sum_cons, List.length_cons, Codec.encodedSize]
        omega
    rw [hsum, Codec.encodedSize, Nat.mul_add]
    omega

/-- The saver notes the size of the object that it builds: of the encodings behind a serialized header. -/
def NotesObjectSize (kvTensors : List (Tensor α)) : Prop :=
  ∀ layers header object, encodeLayers fo toHalf codec kvTensors = .ok layers →
    buildObjectWithHeader header layers = .ok object →
    estimateCriticalSize { cfg with criticalCodec := codec.name } fo toHalf kvTensors =
      .ok (object.length : ℤ)

/-- The noted size is that of as many first layers. -/
theorem estimateCriticalSize_eq {t : Tensor α} {sample : EncodedBlob}
    (hsample : codec.encode fo toHalf t = .ok sample) (ts : List (Tensor α)) :
    estimateCriticalSize { cfg with criticalCodec := codec.name } fo toHalf (t :: ts) =
      .ok ((t :: ts).length * codec.encodedSize t.shape.prod + headerSize : ℕ) := by
  unfold estimateCriticalSize
  dsimp only
  rw [getCodec_name, Py.ok_bind, hsample, Py.ok_bind, encode_length hsample, mul_comm]
  push_cast
  rfl

/-- The size of an object. -/
theorem buildObject_length {fo : FloatOps} {codec : Codec} {toHalf : α → Half} {kvTensors : List (Tensor α)}
    {layers : List Bytes} {header : PyObj} {object : Bytes}
    (hlayers : encodeLayers fo toHalf codec kvTensors = .ok layers)
    (hobject : buildObjectWithHeader header layers = .ok object) :
    object.length = headerSize + ((kvTensors.map fun t => t.shape.prod).map codec.encodedSize).sum := by
  obtain ⟨bytes, hbytes, hobject⟩ := Py.bind_eq_ok.mp hobject
  cases hobject
  rw [List.length_append, serializeHeader_length hbytes, encodeLayers_length hlayers, List.map_map]
  rfl

/-- Without an empty layer, or without quantisation, there is an object. -/
theorem exists_object {kvTensors : List (Tensor α)}
    (hencode : ∀ t ∈ kvTensors, ∃ blob, codec.encode fo toHalf t = .ok blob) :
    ∃ layers header object, encodeLayers fo toHalf codec kvTensors = .ok layers ∧
      buildObjectWithHeader header layers = .ok object := by
  obtain ⟨layers, hlayers, -⟩ := encodeLayers_exists hencode
  obtain ⟨bytes, hbytes⟩ := serializeHeader_plain
  exact ⟨layers, plainHeader, bytes ++ layers.flatten, hlayers, by rw [buildObjectWithHeader, hbytes]; rfl⟩

/-- **The noted size is right exactly when the layers have as many elements as that many first layers.**
(When the int8 codec refuses a layer, there is no object.) -/
theorem estimate_exact_iff (t : Tensor α) (ts : List (Tensor α)) :
    NotesObjectSize cfg fo codec toHalf (t :: ts) ↔
      (codec = .int8Symm ∧ ∃ u ∈ t :: ts, u.shape.prod = 0) ∨
        ((t :: ts).map fun u => u.shape.prod).sum = (t :: ts).length * t.shape.prod := by
  by_cases hempty : codec = .int8Symm ∧ ∃ u ∈ t :: ts, u.shape.prod = 0
  · refine iff_of_true ?_ (Or.inl hempty)
    obtain ⟨rfl, u, hu, h0⟩ := hempty
    intro layers header object hlayers
    have hall := Py.mapM_isOk.mp ⟨layers, hlayers⟩ u hu
    obtain ⟨bytes, hbytes⟩ := hall
    obtain ⟨blob, hblob, -⟩ := Py.bind_eq_ok.mp hbytes
    exact absurd h0 ((encode_isOk fo _ toHalf u).mp ⟨blob, hblob⟩ rfl)
  rw [or_iff_right hempty]
  have hencode : ∀ u ∈ t :: ts, ∃ blob, codec.encode fo toHalf u = .ok blob := fun u hu =>
    (encode_isOk fo codec toHalf u).mpr fun hc h0 => hempty ⟨hc, u, hu, h0⟩
  obtain ⟨sample, hsample⟩ := hencode t List.mem_cons_self
  have hestimate := estimateCriticalSize_eq cfg fo codec toHalf hsample ts
  have hsizes := sum_encodedSize_iff codec ((t :: ts).map fun u => u.shape.prod) t.shape.prod
  rw [List.length_map] at hsizes
  rw [← hsizes]
  constructor
  · intro h
    obtain ⟨layers, header, object, hlayers, hbuilt⟩ := exists_object fo codec toHalf hencode
    have hnoted := hestimate.symm.trans (h layers header object hlayers hbuilt)
    have hnat := Int.ofNat_inj.mp (Except.ok.inj hnoted)
    rw [buildObject_length hlayers hbuilt] at hnat
    omega
  · intro hsum layers header object hlayers hbuilt
    rw [hestimate, buildObject_length hlayers hbuilt, hsum, Nat.add_comm]

/-- The second of two fp16 layers is larger. -/
theorem estimate_short :
    ¬ ∀ (codec : Codec) (kvTensors : List (Tensor Half)), kvTensors ≠ [] →
      NotesObjectSize {} default codec id kvTensors := by
  intro h
  have hnoted := h .fp16Raw [.flat [0], .flat [0, 0]] (by simp) [[0, 0], [0, 0, 0, 0]] plainHeader _ rfl rfl
  revert hnoted
  decide +kernel

end Size

end AwareKV
