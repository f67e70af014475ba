import AwareKV.ManifestIndex
import AwareKV.Saver
import AwareKV.Scheduler

/-!
# AwareKV.ManifestService — the routes of the manifest service and their client

Translation of the routes of `store/manifest_service.py` over the index, of `_manifest_to_dict`, and of
what `_query_manifest` makes of the answer.  A manifest passes through the saver's payload, the schema
of `/manifest/put`, the constructor call of `put_manifest`, the dictionary of the answer and the keyword
call `PrefixManifest(**manifest_dict)`.

* `queryRoute_eq`: the answer to a query, as the client reads it.
* `service_exec`: a run of the routes is a run of the index.
* `manifest_round_trip_iff`: a posted manifest comes back, until it expires or is written again, exactly
  when its format version is the default one: the schema has no such field.
-/

namespace AwareKV

/-! ## The answer to a query -/

/-- `_manifest_to_dict`. -/
def manifestToDict (m : PrefixManifest) : Body :=
  [("prefix_key", .str m.prefixKey),
    ("model_id", .str m.modelId),
    ("tokenizer_id", .str m.tokenizerId),
    ("kv_layout_version", .str m.kvLayoutVersion),
    ("block_size", .int m.blockSize),
    ("cache_dtype", .str m.cacheDtype),
    ("matched_tokens", .int m.matchedTokens),
    ("matched_blocks", .ints m.matchedBlocks),
    ("num_layers", .int m.numLayers),
    ("created_at_ms", .int m.createdAtMs),
    ("last_access_ms", .int m.lastAccessMs),
    ("ttl_s", .int m.ttlS),
    ("critical_codec", .str m.criticalCodec),
    ("critical_nbytes", .int m.criticalNbytes),
    ("critical_object_id", .str m.criticalObjectId),
    ("refinement_codec", (m.refinementCodec.map PyVal.str).getD .none),
    ("refinement_nbytes", (m.refinementNbytes.map PyVal.int).getD .none),
    ("refinement_object_id", (m.refinementObjectId.map PyVal.str).getD .none),
    ("quality_mode", .str m.qualityMode),
    ("checksum", .str m.checksum)]

/-- The fields of `PrefixManifest` without a default. -/
def prefixManifestRequired : List String :=
  ["prefix_key", "model_id", "tokenizer_id", "kv_layout_version", "block_size", "cache_dtype",
    "matched_tokens", "matched_blocks", "num_layers", "created_at_ms", "last_access_ms", "ttl_s",
    "critical_codec", "critical_nbytes", "critical_object_id"]

/-- The fields of `PrefixManifest` with a default. -/
def prefixManifestOptional : List String :=
  ["refinement_codec", "refinement_nbytes", "refinement_object_id", "quality_mode", "checksum",
    "object_format_version"]

/-- `PrefixManifest(**dict)`; `none` when it raises.  The values have the types of the fields in every
answer of the service. -/
def PrefixManifest.ofKeywords (dict : Body) : Option PrefixManifest := do
  let _ ← (checkKeywords "PrefixManifest.__init__" prefixManifestRequired prefixManifestOptional
    (dict.map Prod.fst)).toOption
  let prefixKey ← field PyVal.str? dict "prefix_key"
  let modelId ← field PyVal.str? dict "model_id"
  let tokenizerId ← field PyVal.str? dict "tokenizer_id"
  let kvLayoutVersion ← field PyVal.str? dict "kv_layout_version"
  let blockSize ← field PyVal.int? dict "block_size"
  let cacheDtype ← field PyVal.str? dict "cache_dtype"
  let matchedTokens ← field PyVal.int? dict "matched_tokens"
  let matchedBlocks ← field PyVal.ints? dict "matched_blocks"
  let numLayers ← field PyVal.int? dict "num_layers"
  let createdAtMs ← field PyVal.int? dict "created_at_ms"
  let lastAccessMs ← field PyVal.int? dict "last_access_ms"
  let ttlS ← field PyVal.int? dict "ttl_s"
  let criticalCodec ← field PyVal.str? dict "critical_codec"
  let criticalNbytes ← field PyVal.int? dict "critical_nbytes"
  let criticalObjectId ← field PyVal.str? dict "critical_object_id"
  let refinementCodec ← fieldOr (PyVal.opt? PyVal.str?) none dict "refinement_codec"
  let refinementNbytes ← fieldOr (PyVal.opt? PyVal.int?) none dict "refinement_nbytes"
  let refinementObjectId ← fieldOr (PyVal.opt? PyVal.str?) none dict "refinement_object_id"
  let qualityMode ← fieldOr PyVal.str? "fp16" dict "quality_mode"
  let checksum ← fieldOr PyVal.str? "" dict "checksum"
  let objectFormatVersion ← fieldOr PyVal.str? "v1" dict "object_format_version"
  return {
    prefixKey := prefixKey, modelId := modelId, tokenizerId := tokenizerId,
    kvLayoutVersion := kvLayoutVersion, blockSize := blockSize, cacheDtype := cacheDtype,
    matchedTokens := matchedTokens, matchedBlocks := matchedBlocks, numLayers := numLayers,
    createdAtMs := createdAtMs, lastAccessMs := lastAccessMs, ttlS := ttlS,
    criticalCodec := criticalCodec, criticalNbytes := criticalNbytes,
    criticalObjectId := criticalObjectId, refinementCodec := refinementCodec,
    refinementNbytes := refinementNbytes, refinementObjectId := refinementObjectId,
    qualityMode := qualityMode, checksum := checksum, objectFormatVersion := objectFormatVersion }

/-- What the client reads of a manifest's dictionary: everything but the format version. -/
theorem ofKeywords_manifestToDict (m : PrefixManifest) :
    PrefixManifest.ofKeywords (manifestToDict m) = some { m with objectFormatVersion := "v1" } := by
  obtain ⟨_, _, _, _, _, _, _, _, _, _, _, _, _, _, _, refinementCodec, refinementNbytes,
    refinementObjectId, _, _, _⟩ := m
  cases refinementCodec <;> cases refinementNbytes <;> cases refinementObjectId <;> rfl

/-- `POST /manifest/query`: the new index and the manifest's dictionary, for a hit. -/
def queryRoute (ix : MemoryIndex) (prefixKey : String) (now : ℤ) : MemoryIndex × Option Body :=
  match ix.get prefixKey now with
  | (ix, none) => (ix, none)
  | (ix, some m) => (ix.touch prefixKey now, some (manifestToDict { m with lastAccessMs := now }))

/-- The answer that reaches `_query_manifest`. -/
def routeAnswer (dict : Option Body) : ManifestAnswer :=
  .response { hit := dict.isSome, manifest := dict.bind PrefixManifest.ofKeywords }

theorem queryManifest_routeAnswer (dict : Option Body) :
    queryManifest (routeAnswer dict) = dict.bind PrefixManifest.ofKeywords := by
  cases dict <;> simp [routeAnswer, queryManifest]

/-- **The client reads what `manifestQuery` says.** -/
theorem queryRoute_eq (ix : MemoryIndex) (prefixKey : String) (now : ℤ) :
    (queryRoute ix prefixKey now).1 = (manifestQuery ix prefixKey now).1 ∧
      queryManifest (routeAnswer (queryRoute ix prefixKey now).2) =
        (manifestQuery ix prefixKey now).2 := by
  rw [queryManifest_routeAnswer]
  unfold queryRoute manifestQuery
  rcases ix.get prefixKey now with ⟨ix', _ | m⟩
  · exact ⟨rfl, rfl⟩
  · exact ⟨rfl, ofKeywords_manifestToDict _⟩

/-! ## The routes -/

/-- The requests, with the time of the service's clock. -/
inductive ServiceOp
  | query (prefixKey : String) (now : ℤ)
  | put (body : Body) (now : ℤ)
  | touch (prefixKey : String) (now : ℤ)
  | delete (prefixKey : String) (now : ℤ)
  | stats (now : ℤ)

/-- The answers. -/
inductive ServiceAnswer
  | manifest (dict : Option Body)
  | status (code : ℤ)
  | success (b : Bool)
  | stats (totalManifests totalObjects : ℕ) (totalBytes : ℤ)
  deriving DecidableEq

/-- The service as a machine. -/
def manifestService : Machine MemoryIndex ServiceOp ServiceAnswer where
  init := ⟨.empty⟩
  step ix
    | .query prefixKey now =>
      ((queryRoute ix prefixKey now).1, .manifest (queryRoute ix prefixKey now).2)
    | .put body now => ((manifestPut ix body now).1, .status (manifestPut ix body now).2)
    | .touch prefixKey now => (ix.touch prefixKey now, .success (ix.touchable prefixKey))
    | .delete prefixKey _ => ((ix.delete prefixKey).1, .success (ix.delete prefixKey).2)
    | .stats _ => (ix, .stats ix.listAll.length (ix.listAll.length * 2)
        ((ix.listAll.map (fun m => m.criticalNbytes + m.refinementNbytes.getD 0)).sum))

/-- The calls that a request makes on the index. -/
def ServiceOp.calls : ServiceOp → List IndexOp
  | .query prefixKey now => [.get prefixKey now, .touch prefixKey now]
  | .put body now =>
    match parseManifestPut body with
    | some req => [.put (manifestOfPut req now) now]
    | none => []
  | .touch prefixKey now => [.touch prefixKey now]
  | .delete prefixKey now => [.delete prefixKey now]
  | .stats now => [.listAll now]

/-- **A request makes its calls on the index**: touching a key that a miss has left out changes
nothing. -/
theorem service_step (ix : MemoryIndex) (op : ServiceOp) :
    (manifestService.step ix op).1 = memoryIndex.execFrom ix op.calls := by
  cases op with
  | query prefixKey now =>
    show (queryRoute ix prefixKey now).1 = (ix.get prefixKey now).1.touch prefixKey now
    have hmiss : (ix.get prefixKey now).2 = none →
        (ix.get prefixKey now).1.touch prefixKey now = (ix.get prefixKey now).1 := by
      intro hnone
      have habsent : (ix.get prefixKey now).1.index.get? prefixKey = none := by
        unfold MemoryIndex.get at hnone ⊢
        cases hget : ix.index.get? prefixKey with
        | none => simp [hget]
        | some m =>
          simp only [hget] at hnone ⊢
          split_ifs at hnone ⊢ with hexp
          simp
      unfold MemoryIndex.touch Dict.modify
      rw [habsent]
    unfold queryRoute
    rcases hget : ix.get prefixKey now with ⟨ix', _ | m⟩
    · rw [hget] at hmiss
      exact (hmiss rfl).symm
    · rfl
  | put body now =>
    show (manifestPut ix body now).1 = _
    simp only [manifestPut, ServiceOp.calls]
    cases hbody : parseManifestPut body with
    | none => rfl
    | some req => rfl
  | touch prefixKey now => rfl
  | delete prefixKey now => rfl
  | stats now => rfl

/-- **A run of the service is a run of the index.** -/
theorem service_exec (ops : List ServiceOp) :
    manifestService.exec ops = memoryIndex.exec (ops.flatMap ServiceOp.calls) := by
  induction ops using List.reverseRecOn with
  | nil => rfl
  | append_singleton ops op ih =>
    rw [Machine.exec_snoc, service_step, ih, List.flatMap_append, List.flatMap_singleton]
    exact (memoryIndex.execFrom_append memoryIndex.init _ _).symm

/-! ## Round trips -/

/-- The body that the saver sends: the fields of the schema with the format version and the id of the
request, in the order of its payload. -/
def saverBody (req : ManifestPutRequest) (version : PyVal) (requestId : String) : Body :=
  [("prefix_key", .str req.prefixKey),
    ("model_id", .str req.modelId),
    ("tokenizer_id", .str req.tokenizerId),
    ("kv_layout_version", .str req.kvLayoutVersion),
    ("object_format_version", version),
    ("block_size", .int req.blockSize),
    ("cache_dtype", .str req.cacheDtype),
    ("matched_tokens", .int req.matchedTokens),
    ("matched_blocks", .ints req.matchedBlocks),
    ("num_layers", .int req.numLayers),
    ("ttl_s", .int req.ttlS),
    ("critical_codec", .str req.criticalCodec),
    ("critical_nbytes", .int req.criticalNbytes),
    ("critical_object_id", .str req.criticalObjectId),
    ("refinement_codec", (req.refinementCodec.map PyVal.str).getD .none),
    ("refinement_nbytes", (req.refinementNbytes.map PyVal.int).getD .none),
    ("refinement_object_id", (req.refinementObjectId.map PyVal.str).getD .none),
    ("quality_mode", .str req.qualityMode),
    ("checksum", .str req.checksum),
    ("request_id", .str requestId)]

/-- The saver's payload has this shape when its blocks are a list. -/
theorem manifestPayload_shape {cfg : DeadlineKVConfig} {prefixKey : String}
    {matchedTokens numLayers criticalNbytes refinementNbytes : ℤ} {matchedBlocks : List ℤ}
    {criticalObjectId criticalCodec : String} {refinementObjectId refinementCodec : Option String}
    {payload : Body}
    (h : manifestPayload cfg prefixKey matchedTokens (.ints matchedBlocks) numLayers criticalObjectId
      criticalCodec criticalNbytes refinementObjectId refinementCodec refinementNbytes = .ok payload)
    (requestId : String) :
    ∃ req version, payload ++ [("request_id", .str requestId)] = saverBody req version requestId := by
  obtain ⟨version, -, h⟩ := Py.bind_eq_ok.mp h
  cases h
  refine ⟨{
    prefixKey := prefixKey, modelId := cfg.modelId, tokenizerId := cfg.tokenizerId,
    kvLayoutVersion := cfg.kvLayoutVersion, blockSize := cfg.blockSize, cacheDtype := cfg.cacheDtype,
    matchedTokens := matchedTokens, matchedBlocks := matchedBlocks, numLayers := numLayers, ttlS := 3600,
    criticalCodec := criticalCodec, criticalNbytes := criticalNbytes,
    criticalObjectId := criticalObjectId, refinementCodec := refinementCodec,
    refinementNbytes := if 0 < refinementNbytes then some refinementNbytes else none,
    refinementObjectId := refinementObjectId,
    qualityMode := if refinementObjectId.getD "" ≠ "" then "int8+fp16" else "int8_only",
    checksum := "" }, version, ?_⟩
  have hbytes : (if 0 < refinementNbytes then PyVal.int refinementNbytes else .none) =
      ((if 0 < refinementNbytes then some refinementNbytes else none).map PyVal.int).getD .none := by
    split_ifs <;> rfl
  rw [saverBody, ← hbytes]
  rfl

/-- The schema reads its own fields and drops the others. -/
theorem parseManifestPut_saverBody (req : ManifestPutRequest) (version : PyVal) (requestId : String) :
    parseManifestPut (saverBody req version requestId) = some req := by
  obtain ⟨_, _, _, _, _, _, _, _, _, _, _, _, _, refinementCodec, refinementNbytes,
    refinementObjectId, _, _⟩ := req
  cases refinementCodec <;> cases refinementNbytes <;> cases refinementObjectId <;> rfl

/-- The fields of a manifest other than its times and its format version. -/
def postedFields (m : PrefixManifest) : ManifestPutRequest :=
  { prefixKey := m.prefixKey, modelId := m.modelId, tokenizerId := m.tokenizerId,
    kvLayoutVersion := m.kvLayoutVersion, blockSize := m.blockSize, cacheDtype := m.cacheDtype,
    matchedTokens := m.matchedTokens, matchedBlocks := m.matchedBlocks, numLayers := m.numLayers,
    ttlS := m.ttlS, criticalCodec := m.criticalCodec, criticalNbytes := m.criticalNbytes,
    criticalObjectId := m.criticalObjectId, refinementCodec := m.refinementCodec,
    refinementNbytes := m.refinementNbytes, refinementObjectId := m.refinementObjectId,
    qualityMode := m.qualityMode, checksum := m.checksum }

/-- A query for the key at time `now` gives a manifest all of whose fields but the times are as
posted. -/
def RoundTrips (ix : MemoryIndex) (req : ManifestPutRequest) (version : PyVal) (now : ℤ) : Prop :=
  ∃ m, queryManifest (routeAnswer (queryRoute ix req.prefixKey now).2) = some m ∧
    postedFields m = req ∧ PyVal.str m.objectFormatVersion = version

/-- The request stores a manifest under `k` or deletes it. -/
def ServiceOp.Writes (k : String) : ServiceOp → Prop
  | .put body _ => ∃ req, parseManifestPut body = some req ∧ req.prefixKey = k
  | .delete prefixKey _ => prefixKey = k
  | _ => False

/-- The time that the request reads off the clock. -/
def ServiceOp.now : ServiceOp → Option ℤ
  | .query _ now => some now
  | .put _ now => some now
  | .touch _ now => some now
  | .delete _ _ => none
  | .stats _ => none

/-- The calls of a request read the time of the request. -/
theorem reads_calls {op : ServiceOp} {call : IndexOp} (hcall : call ∈ op.calls) {t : ℤ}
    (ht : call.Reads t) : op.now = some t := by
  cases op with
  | query prefixKey now =>
    simp only [ServiceOp.calls, List.mem_cons, List.not_mem_nil, or_false] at hcall
    rcases hcall with rfl | rfl
    · exact congrArg some (Eq.symm ht)
    · exact congrArg some (Eq.symm ht)
  | put body now =>
    unfold ServiceOp.calls at hcall
    cases hbody : parseManifestPut body with
    | none => simp [hbody] at hcall
    | some req =>
      simp only [hbody, List.mem_singleton] at hcall
      subst hcall
      exact ht.elim
  | touch prefixKey now =>
    rw [List.mem_singleton.mp hcall] at ht
    exact congrArg some (Eq.symm ht)
  | delete prefixKey now =>
    rw [List.mem_singleton.mp hcall] at ht
    exact ht.elim
  | stats now =>
    rw [List.mem_singleton.mp hcall] at ht
    exact ht.elim

/-- A request that does not write under `k` leaves its last write. -/
theorem lastWrite_calls {op : ServiceOp} {k : String} (h : ¬ op.Writes k) (acc : Option PrefixManifest) :
    op.calls.foldl (lastWrite k) acc = acc := by
  cases op with
  | put body now =>
    simp only [ServiceOp.calls]
    cases hbody : parseManifestPut body with
    | none => rfl
    | some req =>
      have hne : k ≠ req.prefixKey := fun hk => h ⟨req, hbody, hk.symm⟩
      exact if_neg hne
  | delete prefixKey now => exact if_neg fun hk => h hk.symm
  | query prefixKey now => rfl
  | touch prefixKey now => rfl
  | stats now => rfl

/-- A manifest that was put is the last write until its key is written again. -/
theorem lastManifest_put (pre mid : List ServiceOp) {body : Body} {req : ManifestPutRequest} {now : ℤ}
    (hbody : parseManifestPut body = some req) (hmid : ∀ op ∈ mid, ¬ op.Writes req.prefixKey) :
    lastManifest ((pre ++ .put body now :: mid).flatMap ServiceOp.calls) req.prefixKey =
      some (manifestOfPut req now) := by
  have hput : (ServiceOp.put body now).calls = [.put (manifestOfPut req now) now] := by
    simp only [ServiceOp.calls, hbody]
  have hkeep : ∀ acc, (mid.flatMap ServiceOp.calls).foldl (lastWrite req.prefixKey) acc = acc := by
    intro acc
    induction mid generalizing acc with
    | nil => rfl
    | cons op mid ih =>
      rw [List.flatMap_cons, List.foldl_append, lastWrite_calls (hmid op List.mem_cons_self)]
      exact ih (fun op' hop' => hmid op' (List.mem_cons_of_mem _ hop')) acc
  rw [lastManifest, List.flatMap_append, List.flatMap_cons, hput, List.foldl_append, List.foldl_append,
    hkeep]
  exact if_pos rfl

/-- What a query finds of a manifest that was put and not written again, until it expires. -/
theorem query_after_put (pre mid : List ServiceOp) {body : Body} {req : ManifestPutRequest} {t₀ t : ℤ}
    (hbody : parseManifestPut body = some req) (hmid : ∀ op ∈ mid, ¬ op.Writes req.prefixKey)
    (hclock : ∀ op ∈ pre ++ .put body t₀ :: mid, ∀ s ∈ op.now, s ≤ t)
    (halive : Alive (manifestOfPut req t₀) t = true) :
    queryManifest (routeAnswer (queryRoute (manifestService.exec (pre ++ .put body t₀ :: mid))
      req.prefixKey t).2) = some { manifestOfPut req t₀ with lastAccessMs := t } := by
  rw [(queryRoute_eq _ _ _).2, service_exec]
  have hrep := represents_exec ((pre ++ .put body t₀ :: mid).flatMap ServiceOp.calls) t (by
    intro call hcall s hs
    obtain ⟨op, hop, hin⟩ := List.mem_flatMap.mp hcall
    exact hclock op hop s (reads_calls hin hs))
  have hget := hrep.get req.prefixKey
  rw [lastManifest_put pre mid hbody hmid, Option.filter_some, if_pos halive] at hget
  obtain ⟨m, hm, hsame⟩ := Option.map_eq_some_iff.mp hget
  have hfields : { m with lastAccessMs := t, objectFormatVersion := "v1" } =
      { (manifestOfPut req t₀).untouched with lastAccessMs := t, objectFormatVersion := "v1" } := by
    rw [← hsame]
    rfl
  rw [manifestQuery_snd, hm, Option.map_some]
  exact congrArg some hfields

/-- **A posted manifest comes back, before it expires or is written again, exactly when its format
version is `"v1"`.** -/
theorem manifest_round_trip_iff (req : ManifestPutRequest) (version : PyVal) (requestId : String)
    (pre mid : List ServiceOp) (t₀ t : ℤ) (hmid : ∀ op ∈ mid, ¬ op.Writes req.prefixKey)
    (hclock : ∀ op ∈ pre ++ .put (saverBody req version requestId) t₀ :: mid, ∀ s ∈ op.now, s ≤ t)
    (halive : req.ttlS ≤ 0 ∨ t - t₀ ≤ 1000 * req.ttlS) :
    RoundTrips (manifestService.exec (pre ++ .put (saverBody req version requestId) t₀ :: mid)) req
      version t ↔ version = .str "v1" := by
  have hfound := query_after_put pre mid (parseManifestPut_saverBody req version requestId) hmid hclock
    (decide_eq_true halive)
  unfold RoundTrips
  rw [hfound]
  constructor
  · rintro ⟨m, hm, -, hversion⟩
    cases hm
    exact hversion.symm
  · rintro rfl
    exact ⟨_, rfl, rfl, rfl⟩

/-- A request in the shape of the saver's. -/
def savedRequest : ManifestPutRequest :=
  { prefixKey := "digest", modelId := "m", tokenizerId := "m", kvLayoutVersion := "v1-block-first",
    blockSize := 16, cacheDtype := "float16", matchedTokens := 128, matchedBlocks := [0, 1], numLayers := 2,
    ttlS := 3600, criticalCodec := "int8_symm", criticalNbytes := 1000, criticalObjectId := "critical",
    refinementCodec := some "fp16_raw", refinementNbytes := some 2000,
    refinementObjectId := some "refinement", qualityMode := "int8+fp16", checksum := "" }

/-- A manifest that is asked for twice within its hour. -/
theorem manifest_round_trip_saved :
    RoundTrips (manifestService.exec ([] ++ .put (saverBody savedRequest (.str "v1") "r") 0 ::
      [.query "digest" 1000])) savedRequest (.str "v1") 2000 :=
  (manifest_round_trip_iff savedRequest (.str "v1") "r" [] [.query "digest" 1000] 0 2000
    (by simp [ServiceOp.Writes]) (by simp [ServiceOp.now]) (by decide)).mpr rfl

/-- A manifest of another format version comes back under the default one. -/
theorem manifest_round_trip_version :
    ¬ RoundTrips (manifestService.exec [.put (saverBody savedRequest (.str "v2") "r") 0]) savedRequest
      (.str "v2") 1 := by
  rintro ⟨m, hm, -, hversion⟩
  cases hm
  revert hversion
  decide

end AwareKV
