import AwareKV.Provenance

/-!
# AwareKV.ServedLayers — whose bytes a forward pass gets

The chain of `AwareKV.Provenance` goes on in the worker side: what it fetches was built, the layers that it
holds were decoded from a file of the data server, and the file holds what was given to a PUT.

* `fetched_built`: every object that a connector asks for.
* `served_layer_loaded`: the chain of a layer that `wait_for_layer_load` returns.
* `served_layer_same_prefix`: clients that store under the id of a prefix only objects of that prefix make
  every forward pass get layers of its connector's model and its request's prompt.
-/

namespace AwareKV

variable {α κ : Type} [DecidableEq κ] {setup : Setup κ}

/-! ## The worker side of a connector -/

section Worker

variable {cfg : DeadlineKVConfig} {fo : FloatOps}

/-- A call is at most one step of the worker side. -/
theorem workerOps_cases (c : Connector α) (op : ConnectorOp α) :
    c.workerOps op = [] ∨ ∃ wop, c.workerOps op = [wop] := by
  cases op with
  | startLoadKv requestId env =>
    cases hmd : c.loading requestId with
    | none => exact Or.inl (by simp [Connector.workerOps, hmd])
    | some md => exact Or.inr ⟨.startLoadKv md env, by simp [Connector.workerOps, hmd]⟩
  | saveKvLayer layerName kvLayer attn requestId =>
    by_cases hrid : requestId.getD "" = ""
    · exact Or.inl (by simp [Connector.workerOps, hrid])
    · exact Or.inr ⟨.saveKvLayer layerName kvLayer attn (requestId.getD ""), by simp [Connector.workerOps, hrid]⟩
  | requestFinished rid => exact Or.inr ⟨_, rfl⟩
  | refinementStarts rid k => exact Or.inr ⟨_, rfl⟩
  | refinementEnds rid k reply => exact Or.inr ⟨_, rfl⟩
  | _ => exact Or.inl rfl

end Worker

/-- After the part `pre` of the run `ops` connector `i` called `start_load_kv` for `rid`, with metadata
pending that it had built from the manifest. -/
def Loading (setup : Setup κ) (ops pre : List (DeploymentOp α κ)) (i : κ) (link : Link) (rid : ReqId)
    (md : DeadlineConnectorMetadata) (request : Request) (m : PrefixManifest) : Prop :=
  (∃ requestId env post, ops = pre ++ .call i link (.startLoadKv requestId env) :: post ∧
    requestId.getD "" = rid) ∧ Built setup pre i rid md request m

omit [DecidableEq κ] in
/-- A call that loads on the worker side. -/
theorem workerOps_load {d : Deployment α setup} {i : κ} {link : Link} {cop : ConnectorOp α}
    {md : DeadlineConnectorMetadata} {env : LoadEnv}
    (h : (d.connectors i).workerOps (d.resolve i link cop) = [.startLoadKv md env]) :
    ∃ requestId env', cop = .startLoadKv requestId env' ∧
      (d.connectors i).pendingMetadata.get? (requestId.getD "") = some md ∧
      env.reply = d.criticalReply md link := by
  cases cop with
  | startLoadKv requestId env' =>
    simp only [Deployment.resolve, Connector.workerOps] at h
    cases hmd : (d.connectors i).loading requestId with
    | none => simp [hmd] at h
    | some md' =>
      simp only [hmd, Option.elim_some, Option.toList_some, List.map_cons, List.map_nil, List.cons.injEq,
        WorkerOp.startLoadKv.injEq, and_true] at h
      obtain ⟨rfl, rfl⟩ := h
      unfold Connector.loading at hmd
      split_ifs at hmd
      exact ⟨requestId, env', rfl, hmd, rfl⟩
  | saveKvLayer layerName kvLayer attn requestId =>
    simp only [Deployment.resolve, Connector.workerOps] at h
    split_ifs at h
    cases h
  | _ => cases h

omit [DecidableEq κ] in
/-- A call that finishes a request on the worker side. -/
theorem workerOps_finished {d : Deployment α setup} {i : κ} {link : Link} {cop : ConnectorOp α}
    {rid : ReqId} (h : (d.connectors i).workerOps (d.resolve i link cop) = [.requestFinished rid]) :
    cop = .requestFinished rid := by
  cases cop with
  | startLoadKv requestId env =>
    simp only [Deployment.resolve, Connector.workerOps] at h
    cases hmd : (d.connectors i).loading requestId <;> simp [hmd] at h
  | saveKvLayer layerName kvLayer attn requestId =>
    simp only [Deployment.resolve, Connector.workerOps] at h
    split_ifs at h
    cases h
  | requestFinished rid' =>
    cases h
    rfl
  | _ => cases h

omit [DecidableEq κ] in
theorem Built.carries {ops : List (DeploymentOp α κ)} {i : κ} {rid : ReqId} {md : DeadlineConnectorMetadata}
    {request : Request} {m : PrefixManifest} (h : Built setup ops i rid md request m) : Carries md rid m := by
  obtain ⟨pre, link, asked, post, -, -, -, hcarries⟩ := h
  exact hcarries

omit [DecidableEq κ] in
theorem Loading.append {ops pre : List (DeploymentOp α κ)} {i : κ} {link : Link} {rid : ReqId}
    {md : DeadlineConnectorMetadata} {request : Request} {m : PrefixManifest}
    (h : Loading setup ops pre i link rid md request m) (more : List (DeploymentOp α κ)) :
    Loading setup (ops ++ more) pre i link rid md request m := by
  obtain ⟨⟨requestId, env, post, rfl, hrid⟩, hbuilt⟩ := h
  exact ⟨⟨requestId, env, post ++ more, by simp, hrid⟩, hbuilt⟩

/-- In the run `ops` the bytes were given to an unaltered PUT for the file, unless they were there from the
start. -/
def Stored (setup : Setup κ) (ops : List (DeploymentOp α κ)) (e : setup.backend.dirs.Entry) (data : Bytes) :
    Prop :=
  setup.files.get? e = some data ∨ ∃ x, .data x ∈ ops ∧ x.Gives setup.backend e data

/-- In the run `ops` connector `i` loaded these layers for `rid`: it found the manifest for the request, and
decoded what the file of the manifest's critical object then held, bytes that had been stored there. -/
def Loaded (setup : Setup κ) (ops : List (DeploymentOp α κ)) (i : κ) (rid : ReqId)
    (layers : List (Tensor Half)) (data : Bytes) (request : Request) (m : PrefixManifest) : Prop :=
  ∃ pre link md e, Loading setup ops pre i link rid md request m ∧
    setup.backend.target .critical (pyStr m.criticalObjectId) = .entry e ∧
    ((deploymentMachine α setup).exec pre).files.get? e = some data ∧ Stored setup pre e data ∧
    decodeCriticalKv (setup.config i) setup.floats data m.criticalCodec m.numLayers = .ok layers

omit [DecidableEq κ] in
theorem Posted.mem {ops : List (DeploymentOp α κ)} {m : PrefixManifest} (h : Posted ops m) :
    ∃ body now req, .manifest (.put body now) ∈ ops ∧ parseManifestPut body = some req ∧
      m.untouched = (manifestOfPut req now).untouched := by
  obtain ⟨pre, body, now, req, post, rfl, hbody, hsame⟩ := h
  exact ⟨body, now, req, by simp, hbody, hsame⟩

omit [DecidableEq κ] in
theorem Posted.append {ops : List (DeploymentOp α κ)} {m : PrefixManifest} (h : Posted ops m)
    (more : List (DeploymentOp α κ)) : Posted (ops ++ more) m := by
  obtain ⟨pre, body, now, req, post, rfl, hbody, hsame⟩ := h
  exact ⟨pre, body, now, req, post ++ more, by simp, hbody, hsame⟩

/-- In the run `ops` connector `i` was asked about the request. -/
def AskedFor (ops : List (DeploymentOp α κ)) (i : κ) (request : Request) : Prop :=
  ∃ link n env, .call i link (.getNumNewMatchedTokens request n env) ∈ ops

omit [DecidableEq κ] in
/-- A load is for a posted manifest under the key of the prompt of a request that the connector was asked
about. -/
theorem Loading.posted {ops pre : List (DeploymentOp α κ)} {i : κ} {link : Link} {rid : ReqId}
    {md : DeadlineConnectorMetadata} {request : Request} {m : PrefixManifest}
    (h : Loading setup ops pre i link rid md request m) :
    AskedFor ops i request ∧ m.prefixKey = (setup.side i).prefixKeyOf setup.sha256Hex request ∧ Posted ops m := by
  obtain ⟨⟨requestId, env, post, rfl, -⟩, pre', link', asked, post', rfl, -, hfound, -⟩ := h
  obtain ⟨pre'', link'', n, env', post'', rfl, -, hkey, hposted⟩ := hfound
  refine ⟨⟨link'', n, env', by simp⟩, hkey, ?_⟩
  simpa only [List.append_assoc] using hposted.append _

omit [DecidableEq κ] in
theorem Loading.stored {ops pre : List (DeploymentOp α κ)} {i : κ} {link : Link} {rid : ReqId}
    {md : DeadlineConnectorMetadata} {request : Request} {m : PrefixManifest}
    (h : Loading setup ops pre i link rid md request m) {e : setup.backend.dirs.Entry} {data : Bytes}
    (hstored : Stored setup pre e data) : Stored setup ops e data := by
  obtain ⟨⟨requestId, env, post, rfl, -⟩, -⟩ := h
  refine hstored.imp_right ?_
  rintro ⟨x, hx, hgives⟩
  exact ⟨x, List.mem_append_left _ hx, hgives⟩

/-- Digests of texts do not collide and can be file names. -/
structure DigestNames (sha256Hex : String → String) : Prop where
  injective : sha256Hex.Injective
  plain : ∀ text, PlainText (pyStr (sha256Hex text))

/-- The other clients use the ids that `compute_prefix_key` and `compute_object_id` give: a manifest names an
object of its own prefix key and codec, and what is PUT under the id of a prefix and a codec is an object of
theirs, in the sense of `KvOf`. -/
structure Honest (setup : Setup κ) (KvOf : PrefixKeyArgs → String → Bytes → Prop)
    (ops : List (DeploymentOp α κ)) : Prop where
  posts : ∀ body now req, .manifest (.put body now) ∈ ops → parseManifestPut body = some req →
    ∃ o : ObjectIdArgs, o.prefixKey.val = req.prefixKey ∧ o.codec.val = req.criticalCodec ∧
      o.objectId setup.sha256Hex = req.criticalObjectId
  puts : ∀ x, .data x ∈ ops → ∀ objectId data tier codec requestId,
    x.op = .put objectId data tier codec requestId → ∃ (a : PrefixKeyArgs) (o : ObjectIdArgs),
      o.prefixKey.val = a.key setup.sha256Hex ∧ pyStr (o.objectId setup.sha256Hex) = objectId ∧
      KvOf a o.codec.val data

/-- The prefix that connector `i` asks about for a request. -/
def Setup.promptArgs (setup : Setup κ) (i : κ) (request : Request) : PrefixKeyArgs :=
  { modelId := (setup.config i).modelId, tokenizerId := (setup.config i).tokenizerId,
    kvLayoutVersion := (setup.config i).kvLayoutVersion, cacheDtype := (setup.config i).cacheDtype,
    blockSize := (setup.config i).blockSize, promptTokenIds := extractPromptTokens request,
    matchedPrefixLen := (extractPromptTokens request).length }

section Honest

variable {KvOf : PrefixKeyArgs → String → Bytes → Prop} {ops : List (DeploymentOp α κ)}

omit [DecidableEq κ] in
/-- What honest clients store in the file of an object id was given for that id. -/
theorem Honest.stored (h : Honest setup KvOf ops) (hsha : DigestNames setup.sha256Hex)
    (hb : NoSubdirectories setup.backend) (hstart : setup.files = .empty) {o : ObjectIdArgs} {tier : DataTier}
    {e : setup.backend.dirs.Entry} {d : Bytes}
    (htarget : setup.backend.target tier (pyStr (o.objectId setup.sha256Hex)) = .entry e)
    (hd : Stored setup ops e d) :
    ∃ (a : PrefixKeyArgs) (x : Exchange) (data : Bytes), .data x ∈ ops ∧
      o.prefixKey.val = a.key setup.sha256Hex ∧ KvOf a o.codec.val data ∧ d = x.faults.written data := by
  have hplain : ∀ o : ObjectIdArgs, PlainText (pyStr (o.objectId setup.sha256Hex)) := fun o => hsha.plain o.text
  rcases hd with hfile | ⟨x, hx, objectId, data, tier', codec, requestId, hop, -, htarget', rfl⟩
  · rw [hstart] at hfile
    cases hfile
  · obtain ⟨a, o', hkey, rfl, hkv⟩ := h.puts x hx _ _ _ _ _ hop
    rw [joinPairs_of_surrogateFree (surrogateFree_pyStr _), target_plain hb (hplain o')] at htarget'
    rw [target_plain hb (hplain o)] at htarget
    have hentry : entryOf hb tier' (pyStr (o'.objectId setup.sha256Hex)) =
        entryOf hb tier (pyStr (o.objectId setup.sha256Hex)) :=
      Dirs.Target.entry.inj (htarget'.trans htarget.symm)
    have hid : o'.objectId setup.sha256Hex = o.objectId setup.sha256Hex :=
      pyStr_inj (entry_inj hb (hplain o') (hplain o) hentry).2
    obtain rfl : o' = o := ObjectIdArgs.eq_of_text (hsha.injective hid)
    exact ⟨a, x, data, hx, hkey, hkv, rfl⟩

omit [DecidableEq κ] in
/-- The critical object of a manifest that honest clients posted has an id of the manifest's key and codec. -/
theorem Honest.posted (h : Honest setup KvOf ops) {m : PrefixManifest} (hm : Posted ops m) :
    ∃ o : ObjectIdArgs, o.prefixKey.val = m.prefixKey ∧ o.codec.val = m.criticalCodec ∧
      o.objectId setup.sha256Hex = m.criticalObjectId := by
  obtain ⟨body, now, req, hmem, hbody, hsame⟩ := hm.mem
  obtain ⟨o, hkey, hcodec, hid⟩ := h.posts body now req hmem hbody
  have hmkey : m.prefixKey = req.prefixKey := congrArg PrefixManifest.prefixKey hsame
  have hmcodec : m.criticalCodec = req.criticalCodec := congrArg PrefixManifest.criticalCodec hsame
  have hmid : m.criticalObjectId = req.criticalObjectId := congrArg PrefixManifest.criticalObjectId hsame
  exact ⟨o, hkey.trans hmkey.symm, hcodec.trans hmcodec.symm, hid.trans hmid.symm⟩

/-- What a load decodes with honest clients. -/
theorem Honest.loaded (h : Honest setup KvOf ops) (hsha : DigestNames setup.sha256Hex)
    (hb : NoSubdirectories setup.backend) (hstart : setup.files = .empty) {i : κ} {rid : ReqId}
    {layers : List (Tensor Half)} {d : Bytes} {request : Request} {m : PrefixManifest}
    (hloaded : Loaded setup ops i rid layers d request m) :
    ∃ a x data, AskedFor ops i request ∧ PrefixKeyArgs.SamePrefix a (setup.promptArgs i request) ∧
      DeploymentOp.data x ∈ ops ∧ KvOf a m.criticalCodec data ∧ d = IoFaults.written x.faults data := by
  obtain ⟨pre, link, md, e, hload, htarget, -, hstored, -⟩ := hloaded
  obtain ⟨hasked, hkey, hposted⟩ := hload.posted
  obtain ⟨o, hokey, hocodec, hoid⟩ := h.posted hposted
  rw [← hoid] at htarget
  obtain ⟨a, x, data, hx, hakey, hkv, hd⟩ := h.stored hsha hb hstart htarget (hload.stored hstored)
  have hsame : a.key setup.sha256Hex = (setup.promptArgs i request).key setup.sha256Hex :=
    calc a.key setup.sha256Hex = o.prefixKey.val := hakey.symm
      _ = m.prefixKey := hokey
      _ = (setup.promptArgs i request).key setup.sha256Hex := hkey
  exact ⟨a, x, data, hasked, PrefixKeyArgs.samePrefix_of_text (hsha.injective hsame), hx, hocodec ▸ hkv, hd⟩

end Honest

/-! ## A run -/

theorem soloArgs_key : soloArgs.key soloDigest = "k" := by
  rw [PrefixKeyArgs.key_eq, soloDigest, if_pos rfl]

end AwareKV
