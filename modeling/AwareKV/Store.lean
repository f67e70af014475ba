import AwareKV.Lib.Dict
import AwareKV.Types

/-!
# AwareKV.Store — the data server's objects and the manifest service

Translation of `store/memory_index.py`, of the query and put routes of `store/manifest_service.py`
with the schema of `store/manifest_models.py`, and of the objects that the data server keeps for its
two tiers.  A request body is a list of JSON fields.  The schema is taken to be strict: a body whose declared
fields do not have the declared types is refused, also where pydantic could convert the value (a string of
digits for a number); other fields are ignored.

* `DataServer.get_put`: a GET returns the bytes that were PUT last under that id on that tier.
-/

namespace AwareKV

/-! ## Data server -/

/-- The tiers of the data server. -/
inductive DataTier
  | critical | refinement
  deriving DecidableEq, Repr

/-- The objects of a data server. -/
structure DataServer where
  objects : Dict (DataTier × String) Bytes
  deriving DecidableEq

namespace DataServer

/-- `_handle_put` of a server that stores what it is sent. -/
def put (server : DataServer) (tier : DataTier) (objectId : String) (data : Bytes) : DataServer :=
  ⟨server.objects.insert (tier, objectId) data⟩

/-- `_handle_get`. -/
def get (server : DataServer) (tier : DataTier) (objectId : String) : Option Bytes :=
  server.objects.get? (tier, objectId)

@[simp] theorem get_put (server : DataServer) (tier tier' : DataTier) (objectId objectId' : String)
    (data : Bytes) : (server.put tier objectId data).get tier' objectId' =
      if (tier', objectId') = (tier, objectId) then some data else server.get tier' objectId' :=
  server.objects.get?_insert _ _ _

end DataServer

/-! ## Manifest index -/

/-- `MemoryIndex`. -/
structure MemoryIndex where
  index : Dict String PrefixManifest
  deriving DecidableEq

namespace MemoryIndex

/-- `_is_expired` at time `now`. -/
def isExpired (m : PrefixManifest) (now : ℤ) : Bool :=
  if m.ttlS ≤ 0 then false else m.ttlS * 1000 < now - m.createdAtMs

/-- `get`: an expired manifest is deleted. -/
def get (ix : MemoryIndex) (prefixKey : String) (now : ℤ) : MemoryIndex × Option PrefixManifest :=
  match ix.index.get? prefixKey with
  | none => (ix, none)
  | some m => if isExpired m now then (⟨ix.index.erase prefixKey⟩, none) else (ix, some m)

/-- `put`. -/
def put (ix : MemoryIndex) (m : PrefixManifest) : MemoryIndex := ⟨ix.index.insert m.prefixKey m⟩

/-- `touch`. -/
def touch (ix : MemoryIndex) (prefixKey : String) (now : ℤ) : MemoryIndex :=
  ⟨ix.index.modify prefixKey (fun m => { m with lastAccessMs := now })⟩

/-- What `touch` answers: the key is there. -/
def touchable (ix : MemoryIndex) (prefixKey : String) : Bool := ix.index.contains prefixKey

/-- `delete`. -/
def delete (ix : MemoryIndex) (prefixKey : String) : MemoryIndex × Bool :=
  if ix.index.contains prefixKey then (⟨ix.index.erase prefixKey⟩, true) else (ix, false)

/-- `list_all`. -/
def listAll (ix : MemoryIndex) : List PrefixManifest := ix.index.entries.map Prod.snd

/-- The keys that `evict_expired` finds expired, when the clock shows `now i` at the `i`-th entry. -/
def expiredKeys (ix : MemoryIndex) (now : ℕ → ℤ) : List String :=
  (ix.index.entries.zipIdx.filter (fun e => isExpired e.1.2 (now e.2))).map (fun e => e.1.1)

/-- `evict_expired`. -/
def evictExpired (ix : MemoryIndex) (now : ℕ → ℤ) : MemoryIndex × ℕ :=
  (⟨(ix.expiredKeys now).foldl Dict.erase ix.index⟩, (ix.expiredKeys now).length)

theorem delete_fst (ix : MemoryIndex) (prefixKey : String) :
    (ix.delete prefixKey).1 = ⟨ix.index.erase prefixKey⟩ := by
  unfold delete
  split_ifs with hc
  · rfl
  · have habsent : ix.index.get? prefixKey = none := by simpa [Dict.contains] using hc
    exact (congrArg mk (Dict.erase_of_get? habsent)).symm

/-- Evicted entries have expired at some time of the eviction. -/
theorem expired_of_mem {ix : MemoryIndex} {now : ℕ → ℤ} {k : String} (h : k ∈ ix.expiredKeys now)
    {m : PrefixManifest} (hm : ix.index.get? k = some m) : ∃ i, isExpired m (now i) = true := by
  unfold expiredKeys at h
  obtain ⟨⟨⟨k', m'⟩, i⟩, hmem, rfl⟩ := List.mem_map.mp h
  obtain ⟨hin, hexp⟩ := List.mem_filter.mp hmem
  have hentry : ix.index.get? k' = some m' :=
    Dict.get?_eq_some_iff.mpr (List.fst_mem_of_mem_zipIdx hin)
  rw [hentry] at hm
  cases hm
  exact ⟨i, hexp⟩

end MemoryIndex

/-! ## Manifest service -/

/-- `ManifestPutRequest`, without the fields that are ignored. -/
structure ManifestPutRequest where
  prefixKey : String
  modelId : String
  tokenizerId : String
  kvLayoutVersion : String
  blockSize : ℤ
  cacheDtype : String
  matchedTokens : ℤ
  matchedBlocks : List ℤ
  numLayers : ℤ
  ttlS : ℤ
  criticalCodec : String
  criticalNbytes : ℤ
  criticalObjectId : String
  refinementCodec : Option String
  refinementNbytes : Option ℤ
  refinementObjectId : Option String
  qualityMode : String
  checksum : String
  deriving DecidableEq

/-- A JSON object. -/
abbrev Body := List (String × PyVal)

section Schema

/-- A `str`. -/
def PyVal.str? : PyVal → Option String
  | .str s => Option.some s
  | _ => Option.none

/-- An `int`. -/
def PyVal.int? : PyVal → Option ℤ
  | .int i => Option.some i
  | _ => Option.none

/-- A `List[int]`. -/
def PyVal.ints? : PyVal → Option (List ℤ)
  | .ints l => Option.some l
  | _ => Option.none

/-- An `Optional` value. -/
def PyVal.opt? {β : Type} (type? : PyVal → Option β) : PyVal → Option (Option β)
  | .none => some Option.none
  | v => (type? v).map some

/-- A field without a default. -/
def field {β : Type} (type? : PyVal → Option β) (body : Body) (name : String) : Option β :=
  (body.lookup name).bind type?

/-- A field with a default. -/
def fieldOr {β : Type} (type? : PyVal → Option β) (default : β) (body : Body) (name : String) :
    Option β :=
  match body.lookup name with
  | some v => type? v
  | none => some default

/-- The check of the body of `/manifest/put`, with a strict schema; `none` is status 422. -/
def parseManifestPut (body : Body) : Option ManifestPutRequest := do
  let prefixKey ← field PyVal.str? body "prefix_key"
  let modelId ← field PyVal.str? body "model_id"
  let tokenizerId ← field PyVal.str? body "tokenizer_id"
  let kvLayoutVersion ← field PyVal.str? body "kv_layout_version"
  let blockSize ← field PyVal.int? body "block_size"
  let cacheDtype ← field PyVal.str? body "cache_dtype"
  let matchedTokens ← field PyVal.int? body "matched_tokens"
  let matchedBlocks ← field PyVal.ints? body "matched_blocks"
  let numLayers ← field PyVal.int? body "num_layers"
  let ttlS ← fieldOr PyVal.int? 3600 body "ttl_s"
  let criticalCodec ← fieldOr PyVal.str? "fp16_raw" body "critical_codec"
  let criticalNbytes ← fieldOr PyVal.int? 0 body "critical_nbytes"
  let criticalObjectId ← fieldOr PyVal.str? "" body "critical_object_id"
  let refinementCodec ← fieldOr (PyVal.opt? PyVal.str?) none body "refinement_codec"
  let refinementNbytes ← fieldOr (PyVal.opt? PyVal.int?) none body "refinement_nbytes"
  let refinementObjectId ← fieldOr (PyVal.opt? PyVal.str?) none body "refinement_object_id"
  let qualityMode ← fieldOr PyVal.str? "fp16" body "quality_mode"
  let checksum ← fieldOr PyVal.str? "" body "checksum"
  return {
    prefixKey := prefixKey, modelId := modelId, tokenizerId := tokenizerId,
    kvLayoutVersion := kvLayoutVersion, blockSize := blockSize, cacheDtype := cacheDtype,
    matchedTokens := matchedTokens, matchedBlocks := matchedBlocks, numLayers := numLayers,
    ttlS := ttlS, criticalCodec := criticalCodec, criticalNbytes := criticalNbytes,
    criticalObjectId := criticalObjectId, refinementCodec := refinementCodec,
    refinementNbytes := refinementNbytes, refinementObjectId := refinementObjectId,
    qualityMode := qualityMode, checksum := checksum }

end Schema

/-- The manifest that `put_manifest` stores at time `now`. -/
def manifestOfPut (req : ManifestPutRequest) (now : ℤ) : PrefixManifest :=
  { prefixKey := req.prefixKey, modelId := req.modelId, tokenizerId := req.tokenizerId,
    kvLayoutVersion := req.kvLayoutVersion, blockSize := req.blockSize, cacheDtype := req.cacheDtype,
    matchedTokens := req.matchedTokens, matchedBlocks := req.matchedBlocks, numLayers := req.numLayers,
    createdAtMs := now, lastAccessMs := now, ttlS := req.ttlS, criticalCodec := req.criticalCodec,
    criticalNbytes := req.criticalNbytes, criticalObjectId := req.criticalObjectId,
    refinementCodec := req.refinementCodec, refinementNbytes := req.refinementNbytes,
    refinementObjectId := req.refinementObjectId, qualityMode := req.qualityMode,
    checksum := req.checksum }

/-- `POST /manifest/put`: the new index and the status code. -/
def manifestPut (ix : MemoryIndex) (body : Body) (now : ℤ) : MemoryIndex × ℤ :=
  match parseManifestPut body with
  | some req => (ix.put (manifestOfPut req now), 200)
  | none => (ix, 422)

/-- `POST /manifest/query`: the new index and the manifest that the client reads.  The answer has no
`object_format_version`, so the client takes the default. -/
def manifestQuery (ix : MemoryIndex) (prefixKey : String) (now : ℤ) :
    MemoryIndex × Option PrefixManifest :=
  match ix.get prefixKey now with
  | (ix, none) => (ix, none)
  | (ix, some m) =>
    (ix.touch prefixKey now, some { m with lastAccessMs := now, objectFormatVersion := "v1" })

theorem manifestQuery_snd (ix : MemoryIndex) (prefixKey : String) (now : ℤ) :
    (manifestQuery ix prefixKey now).2 = (ix.get prefixKey now).2.map
      (fun m => { m with lastAccessMs := now, objectFormatVersion := "v1" }) := by
  unfold manifestQuery
  rcases ix.get prefixKey now with ⟨ix', _ | m⟩
  · rfl
  · rfl

/-- A body for `/manifest/put` without the fields that have defaults. -/
def bareBody : Body :=
  [("prefix_key", .str "digest"), ("model_id", .str "m"), ("tokenizer_id", .str "m"),
    ("kv_layout_version", .str "v1-block-first"), ("block_size", .int 16),
    ("cache_dtype", .str "float16"), ("matched_tokens", .int 128), ("matched_blocks", .ints []),
    ("num_layers", .int 1)]

end AwareKV
