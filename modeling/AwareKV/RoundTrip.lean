import AwareKV.ObjectFormat
import AwareKV.Worker

/-!
# AwareKV.RoundTrip — reading back what was saved

Two readers exist for the saver's objects: the worker's `_decode_critical_kv`, and the loader's
`_parse_and_decode_object`.  Neither gets an object, since the saver cannot construct a header.

* `live_round_trip_never`: with any header of the saver's size in its place, the worker still does not
  give back the layers, since it decodes the header's bytes as layer data.
* `object_round_trip_never`: the loader cannot construct a header either, so it never returns one.
-/

namespace AwareKV

variable {α : Type}

/-- Each layer's own encoding, decoded. -/
def ownDecodings (fo : FloatOps) (codec : Codec) (toHalf : α → Half) (kvTensors : List (Tensor α)) :
    Py (List (Tensor Half)) :=
  kvTensors.mapM fun t => do
    let blob ← codec.encode fo toHalf t
    codec.decode fo blob

/-! ### The live path -/

/-- The saver builds an object for the layers, and the worker decodes it to their own decodings. -/
def LiveRoundTrip (cfg : DeadlineKVConfig) (fo : FloatOps) (codec : Codec) (toHalf : α → Half)
    (kvTensors : List (Tensor α)) (matchedTokens : ℤ) (matchedBlocks : PyVal) : Prop :=
  ∃ object own,
    buildObject cfg fo toHalf codec.name kvTensors matchedTokens matchedBlocks = .ok object ∧
    ownDecodings fo codec toHalf kvTensors = .ok own ∧
    decodeCriticalKv cfg fo object codec.name kvTensors.length = .ok own

section Live

variable {cfg : DeadlineKVConfig} {fo : FloatOps} {codec : Codec} {toHalf : α → Half}

/-- The decodings account for the encodings' bytes. -/
theorem ownDecodings_length {kvTensors : List (Tensor α)} {layers : List Bytes}
    {own : List (Tensor Half)} (hl : encodeLayers fo toHalf codec kvTensors = .ok layers)
    (ho : ownDecodings fo codec toHalf kvTensors = .ok own) :
    (own.map (fun t => codec.encodedSize t.shape.prod)).sum = layers.flatten.length := by
  have hlayers := Py.mapM_eq_ok.mp hl
  have hown := Py.mapM_eq_ok.mp ho
  clear hl ho
  induction hlayers generalizing own with
  | nil =>
    cases hown
    rfl
  | cons hl _ ih =>
    cases hown with
    | cons ho hown =>
      obtain ⟨blob, hblob, hl⟩ := Py.bind_eq_ok.mp hl
      obtain ⟨blob', hblob', ho⟩ := Py.bind_eq_ok.mp ho
      rw [hblob] at hblob'
      cases hblob'
      cases hl
      rw [List.map_cons, List.sum_cons, List.flatten_cons, List.length_append, ih hown, decode_length ho]

/-- **A header makes the layers too long**: what the worker decodes from header and encodings are not
the layers' own decodings. -/
theorem decode_with_header_ne {header : Bytes} (hh : 0 < header.length) {kvTensors : List (Tensor α)}
    (hne : 0 < kvTensors.length) {layers : List Bytes} {own : List (Tensor Half)}
    (hl : encodeLayers fo toHalf codec kvTensors = .ok layers)
    (ho : ownDecodings fo codec toHalf kvTensors = .ok own) :
    decodeCriticalKv cfg fo (header ++ layers.flatten) codec.name kvTensors.length ≠ .ok own := by
  intro h
  have hall := decodeCriticalKv_length hne h
  rw [ownDecodings_length hl ho, List.length_append] at hall
  omega

variable (cfg fo codec toHalf)

/-- **No layers survive the live path.**  The saver raises; and if its header were there, the worker
would not give back the layers. -/
theorem live_round_trip_never (t : Tensor α) (ts : List (Tensor α)) (matchedTokens : ℤ)
    (matchedBlocks : PyVal) :
    ¬ LiveRoundTrip cfg fo codec toHalf (t :: ts) matchedTokens matchedBlocks ∧
      ∀ header layers own, header.length = headerSize →
        encodeLayers fo toHalf codec (t :: ts) = .ok layers →
        ownDecodings fo codec toHalf (t :: ts) = .ok own →
        decodeCriticalKv cfg fo (header ++ layers.flatten) codec.name (t :: ts).length ≠ .ok own := by
  constructor
  · rintro ⟨object, own, hobject, -⟩
    exact buildObject_ne_ok hobject
  · intro header layers own hh hl ho
    exact decode_with_header_ne (by rw [hh]; decide) (by simp) hl ho

/-- A layer with one block of one token, one head and one element. -/
def tinyLayer : Tensor Half := ⟨[1, 1, 1, 1], [0], rfl⟩

/-- One layer, saved as fp16. -/
theorem live_round_trip_tiny :
    ¬ LiveRoundTrip { blockSize := 1, numKvHeads := some 1, headSize := some 1 } default .fp16Raw id
      [tinyLayer] 1 (.int 1) := by
  rintro ⟨object, own, hobject, -⟩
  revert hobject
  exact buildObject_ne_ok

end Live

/-! ### The object format -/

/-- The saver builds an object for the layers, and the loader returns the header fields of the saver
and the layers' own decodings. -/
def ObjectRoundTrip (cfg : DeadlineKVConfig) (fo : FloatOps) (codec : Codec) (toHalf : α → Half)
    (kvTensors : List (Tensor α)) (matchedTokens : ℤ) (matchedBlocks : PyVal) : Prop :=
  ∃ object own version,
    buildObject cfg fo toHalf codec.name kvTensors matchedTokens matchedBlocks = .ok object ∧
    ownDecodings fo codec toHalf kvTensors = .ok own ∧ cfg.getObjectFormatVersion = .ok version ∧
    ∀ numLayers, ∃ header,
      parseAndDecodeObject fo object codec.name numLayers = .ok (some header, own) ∧
      header.attr "ObjectHeader" "object_format_version" = .ok version ∧
      header.attr "ObjectHeader" "num_layers" = .ok (.int kvTensors.length) ∧
      header.attr "ObjectHeader" "matched_tokens" = .ok (.int matchedTokens) ∧
      header.attr "ObjectHeader" "matched_blocks" = .ok matchedBlocks ∧
      header.attr "ObjectHeader" "block_size" = .ok (.int cfg.blockSize)

section Format

variable (cfg : DeadlineKVConfig) (fo : FloatOps) (codec : Codec) (toHalf : α → Half)

/-- **No object survives the format.**  The saver raises; and from whatever bytes, the loader returns
no header. -/
theorem object_round_trip_never (t : Tensor α) (ts : List (Tensor α)) (matchedTokens : ℤ)
    (matchedBlocks : PyVal) :
    ¬ ObjectRoundTrip cfg fo codec toHalf (t :: ts) matchedTokens matchedBlocks ∧
      ∀ data numLayers header layers,
        parseAndDecodeObject fo data codec.name numLayers ≠ .ok (some header, layers) := by
  constructor
  · rintro ⟨object, own, version, hobject, -⟩
    exact buildObject_ne_ok hobject
  · intro data numLayers header layers h
    have hnone := parseAndDecodeObject_header h
    cases hnone

/-- One layer, saved as fp16 under a format version that the configuration does have. -/
theorem object_round_trip_tiny :
    ¬ ObjectRoundTrip { blockSize := 1, objectFormatVersion := some (.int 1) } default .fp16Raw id
      [tinyLayer] 1 (.int 1) := by
  rintro ⟨object, own, version, hobject, -⟩
  revert hobject
  exact buildObject_ne_ok

end Format

end AwareKV
