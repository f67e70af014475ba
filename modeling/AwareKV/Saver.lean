import AwareKV.Hashing
import AwareKV.Lib.Effect
import AwareKV.ObjectFormat
import AwareKV.Store

/-!
# AwareKV.Saver — saving a prefix

Translation of `KVSaver` of `connector/saver.py` (its header and object functions are in
`AwareKV.ObjectFormat`), for a data server that stores what it is sent and a manifest service that
answers.  The arguments `request_id` are used in log messages and in an ignored field only.

* `updateManifest_int`: a count of blocks is no list of blocks, so the manifest is refused.
* `SaveClosure`, `save_closure_never`: what was saved is found again — for no input.
-/

namespace AwareKV

open Effect

/-- What a save writes to. -/
structure Cloud where
  server : DataServer
  manifests : MemoryIndex
  deriving DecidableEq

/-- A part of a save. -/
abbrev Save (α : Type) := Effect Exc Cloud α

/-- `CriticalChannel.store` and `RefineChannel.store`: the server stores every object. -/
def storeObject (tier : DataTier) (objectId : String) (data : Bytes) : Save Bool := do
  modify (fun cloud => { cloud with server := cloud.server.put tier objectId data })
  return true

/-- `requests.post` to `/manifest/put` at time `now`: the status code. -/
def postManifest (now : ℤ) (payload : Body) : Save ℤ := do
  let cloud ← get
  let (manifests, status) := manifestPut cloud.manifests payload now
  set { cloud with manifests := manifests }
  return status

/-- The text of a format version in an f-string. -/
def PyVal.format : PyVal → String
  | .none => "None"
  | .int i => toString i
  | .str s => s
  | .ints l => jsonList (l.map toString)

section Saver

variable (sha256Hex : String → String) (cfg : DeadlineKVConfig)

/-- The saver's calls of `compute_object_id`. -/
def callComputeObjectId (prefixKey tier codecName : String) : Py String := do
  let version ← cfg.getObjectFormatVersion
  checkKeywords "compute_object_id" computeObjectIdRequired computeObjectIdOptional
    ["prefix_key", "tier", "codec_name", "object_format_version"]
  return computeObjectId sha256Hex prefixKey tier codecName version.format

/-- The payload of `_update_manifest`. -/
def manifestPayload (prefixKey : String) (matchedTokens : ℤ) (matchedBlocks : PyVal) (numLayers : ℤ)
    (criticalObjectId criticalCodec : String) (criticalNbytes : ℤ) (refinementObjectId : Option String)
    (refinementCodec : Option String) (refinementNbytes : ℤ) : Py Body := do
  let qualityMode := if refinementObjectId.getD "" ≠ "" then "int8+fp16" else "int8_only"
  let version ← cfg.getObjectFormatVersion
  return [
    ("prefix_key", .str prefixKey),
    ("model_id", .str cfg.modelId),
    ("tokenizer_id", .str cfg.tokenizerId),
    ("kv_layout_version", .str cfg.kvLayoutVersion),
    ("object_format_version", version),
    ("block_size", .int cfg.blockSize),
    ("cache_dtype", .str cfg.cacheDtype),
    ("matched_tokens", .int matchedTokens),
    ("matched_blocks", matchedBlocks),
    ("num_layers", .int numLayers),
    ("ttl_s", .int 3600),
    ("critical_codec", .str criticalCodec),
    ("critical_nbytes", .int criticalNbytes),
    ("critical_object_id", .str criticalObjectId),
    ("refinement_codec", (refinementCodec.map PyVal.str).getD .none),
    ("refinement_nbytes", if 0 < refinementNbytes then .int refinementNbytes else .none),
    ("refinement_object_id", (refinementObjectId.map PyVal.str).getD .none),
    ("quality_mode", .str qualityMode),
    ("checksum", .str "")]

/-- `_update_manifest`: whatever is raised, the answer is `False`. -/
def updateManifest (now : ℤ) (prefixKey : String) (matchedTokens : ℤ) (matchedBlocks : PyVal)
    (numLayers : ℤ) (criticalObjectId criticalCodec : String) (criticalNbytes : ℤ)
    (refinementObjectId refinementCodec : Option String) (refinementNbytes : ℤ) : Save Bool :=
  tryCatch (do
    let payload ← lift (manifestPayload cfg prefixKey matchedTokens matchedBlocks numLayers
      criticalObjectId criticalCodec criticalNbytes refinementObjectId refinementCodec refinementNbytes)
    let status ← postManifest now payload
    return status = 200) (fun _ => return false)

variable (fo : FloatOps) {α : Type} (toHalf : α → Half)

/-- `_save_critical_tier`. -/
def saveCriticalTier (prefixKey : String) (kvTensors : List (Tensor α)) (matchedTokens : ℤ)
    (matchedBlocks : PyVal) : Save Bool := do
  let object ← lift (buildObject cfg fo toHalf cfg.criticalCodec kvTensors matchedTokens matchedBlocks)
  let objectId ← lift (callComputeObjectId sha256Hex cfg prefixKey "critical" cfg.criticalCodec)
  storeObject .critical objectId object

/-- `_save_refinement_tier`: success, object id, size and codec. -/
def saveRefinementTier (prefixKey : String) (kvTensors : List (Tensor α)) (matchedTokens : ℤ)
    (matchedBlocks : PyVal) : Save (Bool × Option String × ℤ × Option String) := do
  let object ← lift (buildObject cfg fo toHalf cfg.refinementCodec kvTensors matchedTokens matchedBlocks)
  let objectId ← lift (callComputeObjectId sha256Hex cfg prefixKey "refinement" cfg.refinementCodec)
  if ← storeObject .refinement objectId object then
    return (true, some objectId, object.length, some cfg.refinementCodec)
  else return (false, none, 0, none)

/-- `_estimate_critical_size`. -/
def estimateCriticalSize (kvTensors : List (Tensor α)) : Py ℤ := do
  let codec ← getCodec cfg.criticalCodec
  match kvTensors with
  | [] => return 0
  | t :: _ =>
    let sample ← codec.encode fo toHalf t
    return sample.data.length * kvTensors.length + 128

/-- `save_prefix_kv` at time `now`. -/
def savePrefixKv (now : ℤ) (prefixKey : String) (kvTensors : List (Tensor α)) (matchedTokens : ℤ)
    (matchedBlocks : PyVal) : Save Bool :=
  if kvTensors.length = 0 then return false
  else do
    let criticalSuccess ←
      saveCriticalTier sha256Hex cfg fo toHalf prefixKey kvTensors matchedTokens matchedBlocks
    if !criticalSuccess then return false
    else
      let (refinementSuccess, refinementObjectId, refinementNbytes, refinementCodecName) ←
        if cfg.enableRefinement then
          saveRefinementTier sha256Hex cfg fo toHalf prefixKey kvTensors matchedTokens matchedBlocks
        else pure (false, none, 0, none)
      let criticalObjectId ← lift (callComputeObjectId sha256Hex cfg prefixKey "critical" cfg.criticalCodec)
      let criticalNbytes ← lift (estimateCriticalSize cfg fo toHalf kvTensors)
      let manifestSuccess ← updateManifest cfg now prefixKey matchedTokens matchedBlocks
        kvTensors.length criticalObjectId cfg.criticalCodec criticalNbytes
        (if refinementSuccess then refinementObjectId else none)
        (if refinementSuccess then refinementCodecName else none)
        (if refinementSuccess then refinementNbytes else 0)
      return criticalSuccess && manifestSuccess

variable {sha256Hex cfg fo toHalf}

/-- The schema of the manifest service refuses a number of blocks. -/
theorem parseManifestPut_int {prefixKey : String} {matchedTokens matchedBlocks numLayers : ℤ}
    {criticalObjectId criticalCodec : String} {criticalNbytes : ℤ}
    {refinementObjectId refinementCodec : Option String} {refinementNbytes : ℤ} {payload : Body}
    (h : manifestPayload cfg prefixKey matchedTokens (.int matchedBlocks) numLayers criticalObjectId
      criticalCodec criticalNbytes refinementObjectId refinementCodec refinementNbytes = .ok payload) :
    parseManifestPut payload = none := by
  obtain ⟨version, -, h⟩ := Py.bind_eq_ok.mp h
  cases h
  rfl

/-- **A manifest with a number of blocks is never accepted**: the update fails and the index stays. -/
theorem updateManifest_int (now : ℤ) (prefixKey : String) (matchedTokens matchedBlocks numLayers : ℤ)
    (criticalObjectId criticalCodec : String) (criticalNbytes : ℤ)
    (refinementObjectId refinementCodec : Option String) (refinementNbytes : ℤ) (cloud : Cloud) :
    exec (updateManifest cfg now prefixKey matchedTokens (.int matchedBlocks) numLayers
      criticalObjectId criticalCodec criticalNbytes refinementObjectId refinementCodec
      refinementNbytes) cloud = (.ok false, cloud) := by
  rw [updateManifest, exec_tryCatch, exec_bind, exec_lift]
  cases h : manifestPayload cfg prefixKey matchedTokens (.int matchedBlocks) numLayers
      criticalObjectId criticalCodec criticalNbytes refinementObjectId refinementCodec
      refinementNbytes with
  | error e => rfl
  | ok payload =>
    have hpost : exec (postManifest now payload) cloud = (.ok 422, cloud) := by
      have hput : manifestPut cloud.manifests payload now = (cloud.manifests, 422) := by
        rw [manifestPut, parseManifestPut_int h]
      simp only [postManifest, exec_bind, exec_get, exec_set, exec_pure, hput]
    simp only [exec_bind, hpost]
    rfl

/-- The critical tier cannot be saved. -/
theorem saveCriticalTier_raises {prefixKey : String} {kvTensors : List (Tensor α)} {matchedTokens : ℤ}
    {matchedBlocks : PyVal} :
    Raises (saveCriticalTier sha256Hex cfg fo toHalf prefixKey kvTensors matchedTokens matchedBlocks) :=
  (raises_lift fun _ => buildObject_ne_ok).bind _

/-- **A save raises before it has written anything.** -/
theorem savePrefixKv_raises {now : ℤ} {prefixKey : String} {kvTensors : List (Tensor α)}
    {matchedTokens : ℤ} {matchedBlocks : PyVal} (hne : kvTensors ≠ []) :
    Raises (savePrefixKv sha256Hex cfg fo toHalf now prefixKey kvTensors matchedTokens matchedBlocks) := by
  unfold savePrefixKv
  rw [if_neg (by simpa using hne)]
  exact saveCriticalTier_raises.bind _

end Saver

/-! ## Save closure -/

section Closure

variable (sha256Hex : String → String) (cfg : DeadlineKVConfig) (fo : FloatOps) {α : Type}
  (toHalf : α → Half)

/-- The object stored for a tier under `objectId` is the one that the saver builds with `codecName`. -/
def HoldsObject (cloud : Cloud) (tier : DataTier) (objectId codecName : String)
    (kvTensors : List (Tensor α)) (matchedTokens : ℤ) (matchedBlocks : PyVal) : Prop :=
  ∃ object, buildObject cfg fo toHalf codecName kvTensors matchedTokens matchedBlocks = .ok object ∧
    cloud.server.get tier objectId = some object

/-- Saving the layers at time `now` returns `True`, and until the manifest expires a query for the key
finds a manifest whose objects are the saved ones. -/
def SaveClosure (cloud : Cloud) (now : ℤ) (prefixKey : String) (kvTensors : List (Tensor α))
    (matchedTokens : ℤ) (matchedBlocks : PyVal) : Prop :=
  ∃ saved,
    exec (savePrefixKv sha256Hex cfg fo toHalf now prefixKey kvTensors matchedTokens matchedBlocks)
      cloud = (.ok true, saved) ∧
    ∀ later, now ≤ later → later - now ≤ 3600 * 1000 →
      ∃ m, (manifestQuery saved.manifests prefixKey later).2 = some m ∧
        HoldsObject cfg fo toHalf saved .critical m.criticalObjectId cfg.criticalCodec kvTensors
          matchedTokens matchedBlocks ∧
        ∀ objectId, m.refinementObjectId = some objectId →
          HoldsObject cfg fo toHalf saved .refinement objectId cfg.refinementCodec kvTensors
            matchedTokens matchedBlocks

variable {sha256Hex cfg fo toHalf}

/-- A save that raises closes nothing. -/
theorem not_saveClosure_of_raises {now : ℤ} {prefixKey : String} {kvTensors : List (Tensor α)}
    {matchedTokens : ℤ} {matchedBlocks : PyVal}
    (h : Raises (savePrefixKv sha256Hex cfg fo toHalf now prefixKey kvTensors matchedTokens
      matchedBlocks)) (cloud : Cloud) :
    ¬ SaveClosure sha256Hex cfg fo toHalf cloud now prefixKey kvTensors matchedTokens matchedBlocks := by
  rintro ⟨saved, hsaved, -⟩
  obtain ⟨e, he⟩ := h cloud
  rw [he] at hsaved
  cases hsaved

variable (sha256Hex cfg fo toHalf)

/-- **No save is ever found again**: it raises, and it leaves no object and no manifest behind. -/
theorem save_closure_never (cloud : Cloud) (now : ℤ) (prefixKey : String) (t : Tensor α)
    (ts : List (Tensor α)) (matchedTokens : ℤ) (matchedBlocks : PyVal) :
    ¬ SaveClosure sha256Hex cfg fo toHalf cloud now prefixKey (t :: ts) matchedTokens matchedBlocks ∧
      ∃ e, exec (savePrefixKv sha256Hex cfg fo toHalf now prefixKey (t :: ts) matchedTokens
        matchedBlocks) cloud = (.error e, cloud) := by
  have hraises : Raises (savePrefixKv sha256Hex cfg fo toHalf now prefixKey (t :: ts) matchedTokens
      matchedBlocks) := savePrefixKv_raises (List.cons_ne_nil t ts)
  exact ⟨not_saveClosure_of_raises hraises cloud, hraises cloud⟩

/-- The default configuration, one layer of one element, one token in one block. -/
theorem save_closure_one_layer :
    ¬ SaveClosure (fun text => text) {} default (fun h : Half => h) ⟨⟨.empty⟩, ⟨.empty⟩⟩ 0 "prefix"
      [⟨[1, 1, 1, 1], [0], rfl⟩] 1 (.int 1) :=
  not_saveClosure_of_raises (savePrefixKv_raises (List.cons_ne_nil _ _)) _

end Closure

end AwareKV
