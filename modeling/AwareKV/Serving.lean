import AwareKV.Worker

/-!
# AwareKV.Serving — whose layers a forward pass gets

`wait_for_layer_load` is asked for a layer only, and looks for it through all requests with loaded
layers.  Over any run of a worker side, the layers stored for a request are those that were decoded
for it last (`loadedKvs_eq_decodedFor`).  From this, `wait_served_own_iff`: every forward pass gets
its own layers, or none, exactly when at every call no other request comes first.
-/

namespace AwareKV

variable {α : Type} (cfg : DeadlineKVConfig) (fo : FloatOps)

/-! ### What was decoded for a request -/

/-- How a call changes what was decoded for `rid`. -/
def decodeStep (rid : ReqId) (acc : Option (List (Tensor Half))) :
    WorkerOp α → Option (List (Tensor Half))
  | .startLoadKv md env =>
    if md.requestId = rid then
      match WorkerSide.loadLayers cfg fo md env.reply with
      | .ok (_, layers) => some layers
      | .error _ => acc
    else acc
  | .requestFinished q => if q = rid then none else acc
  | _ => acc

/-- The layers that were decoded last for `rid`, if `rid` did not finish since. -/
def decodedFor (rid : ReqId) (ops : List (WorkerOp α)) : Option (List (Tensor Half)) :=
  ops.foldl (decodeStep cfg fo rid) none

/-- The request whose forward pass a run is in: the one that started to load last, until it
finishes. -/
def currentRequest (ops : List (WorkerOp α)) : Option ReqId :=
  ops.foldl (fun cur op =>
    match op with
    | .startLoadKv md _ => some md.requestId
    | .requestFinished q => if cur = some q then none else cur
    | _ => cur) none

variable {cfg fo}

/-- One step keeps `loaded_kvs` in line with what was decoded. -/
theorem loadedKvs_step (w : WorkerSide α) (op : WorkerOp α) (rid : ReqId) :
    ((workerMachine α cfg fo).step w op).1.loadedKvs.get? rid =
      decodeStep cfg fo rid (w.loadedKvs.get? rid) op := by
  cases op with
  | startLoadKv md env =>
    simp only [workerMachine, decodeStep, WorkerSide.startLoadKv_loadedKvs]
    cases WorkerSide.loadLayers cfg fo md env.reply with
    | error e => simp
    | ok r =>
      rw [Dict.get?_insert]
      simp only [eq_comm]
  | requestFinished q =>
    simp only [workerMachine, decodeStep, WorkerSide.requestFinished_loadedKvs, Dict.get?_erase, eq_comm]
  | waitForLayerLoad layerName => rfl
  | saveKvLayer layerName kvLayer attn q => rfl
  | refinementStarts q k => rfl
  | refinementEnds q k => rfl

/-- **In every run, the layers stored for a request are those last decoded for it.** -/
theorem loadedKvs_eq_decodedFor (cfg : DeadlineKVConfig) (fo : FloatOps) (ops : List (WorkerOp α))
    (rid : ReqId) :
    ((workerMachine α cfg fo).exec ops).loadedKvs.get? rid = decodedFor cfg fo rid ops :=
  (workerMachine α cfg fo).observe_exec (fun w => w.loadedKvs.get? rid) (decodeStep cfg fo rid)
    (fun w op => loadedKvs_step w op rid) ops

/-! ### Whose layer is served -/

variable (cfg fo)

/-- Asked for `layerName`, the worker answers `None`, or with the tensor that was decoded for `rid`
at that layer, taken from `rid`'s entry. -/
def ServedOwn (pre : List (WorkerOp α)) (rid : ReqId) (layerName : String) : Prop :=
  (workerMachine α cfg fo).answer pre (.waitForLayerLoad layerName) = .layer (.ok none) ∨
    ∃ idx layers t, WorkerSide.extractLayerIdx layerName = some idx ∧ 0 ≤ idx ∧
      decodedFor cfg fo rid pre = some layers ∧ layers[idx.toNat]? = some t ∧
      ((workerMachine α cfg fo).exec pre).servedEntry layerName = .ok (some (rid, t)) ∧
      (workerMachine α cfg fo).answer pre (.waitForLayerLoad layerName) = .layer (.ok (some t))

/-- The first request in `loaded_kvs` with enough layers, if there is one, is `rid`, and the layer
index is not negative. -/
def OwnFirst (w : WorkerSide α) (rid : ReqId) (layerName : String) : Prop :=
  ∀ idx before q kvs after, WorkerSide.extractLayerIdx layerName = some idx →
    w.loadedKvs.entries = before ++ (q, kvs) :: after → idx < kvs.length →
    (∀ e ∈ before, (e.2.length : ℤ) ≤ idx) → q = rid ∧ 0 ≤ idx

variable {cfg fo}

theorem servingRequest_eq_some {w : WorkerSide α} {idx : ℤ} {q : ReqId} {kvs : List (Tensor Half)} :
    w.servingRequest idx = some (q, kvs) ↔
      idx < kvs.length ∧ ∃ before after, w.loadedKvs.entries = before ++ (q, kvs) :: after ∧
        ∀ e ∈ before, (e.2.length : ℤ) ≤ idx := by
  unfold WorkerSide.servingRequest
  rw [List.find?_eq_some_iff_append]
  simp

/-- A request that is served from has its layers stored. -/
theorem get?_of_servingRequest {w : WorkerSide α} {idx : ℤ} {q : ReqId} {kvs : List (Tensor Half)}
    (h : w.servingRequest idx = some (q, kvs)) : w.loadedKvs.get? q = some kvs := by
  obtain ⟨-, before, after, hent, -⟩ := servingRequest_eq_some.mp h
  rw [Dict.get?_eq_some_iff, hent]
  simp

/-- `OwnFirst` in terms of the loop. -/
theorem ownFirst_iff {w : WorkerSide α} {rid : ReqId} {layerName : String} :
    OwnFirst w rid layerName ↔ ∀ idx q kvs, WorkerSide.extractLayerIdx layerName = some idx →
      w.servingRequest idx = some (q, kvs) → q = rid ∧ 0 ≤ idx := by
  constructor
  · intro h idx q kvs hidx hs
    obtain ⟨hlt, before, after, hent, hbef⟩ := servingRequest_eq_some.mp hs
    exact h idx before q kvs after hidx hent hlt hbef
  · intro h idx before q kvs after hidx hent hlt hbef
    exact h idx q kvs hidx (servingRequest_eq_some.mpr ⟨hlt, before, after, hent, hbef⟩)

/-- Nothing is served when no request has enough layers. -/
theorem servedEntry_eq_none {w : WorkerSide α} {layerName : String} :
    w.servedEntry layerName = .ok none ↔
      ∀ idx, WorkerSide.extractLayerIdx layerName = some idx → w.servingRequest idx = none := by
  unfold WorkerSide.servedEntry
  cases WorkerSide.extractLayerIdx layerName with
  | none => simp
  | some idx =>
    cases hs : w.servingRequest idx with
    | none => simp [hs]
    | some entry => cases hi : index? entry.2 idx <;> simp [hs, hi]

/-- What is served comes from the request that the loop stops at. -/
theorem servedEntry_eq_some {w : WorkerSide α} {layerName : String} {rid : ReqId} {t : Tensor Half} :
    w.servedEntry layerName = .ok (some (rid, t)) ↔
      ∃ idx kvs, WorkerSide.extractLayerIdx layerName = some idx ∧
        w.servingRequest idx = some (rid, kvs) ∧ index? kvs idx = some t := by
  unfold WorkerSide.servedEntry
  cases WorkerSide.extractLayerIdx layerName with
  | none => simp
  | some idx =>
    cases hs : w.servingRequest idx with
    | none => simp [hs]
    | some entry =>
      obtain ⟨q, kvs⟩ := entry
      cases hi : index? kvs idx <;> simp +contextual [hs, hi]

/-- The answer is the tensor of the served entry. -/
theorem waitForLayerLoad_eq {w : WorkerSide α} {layerName : String}
    {entry : Option (ReqId × Tensor Half)} (h : w.servedEntry layerName = .ok entry) :
    w.waitForLayerLoad layerName = .ok (entry.map Prod.snd) := by
  rw [WorkerSide.waitForLayerLoad, h]
  rfl

/-- Only an empty entry answers `None`. -/
theorem servedEntry_of_wait_none {w : WorkerSide α} {layerName : String}
    (h : w.waitForLayerLoad layerName = .ok none) : w.servedEntry layerName = .ok none := by
  obtain ⟨entry, hentry, h⟩ := Py.bind_eq_ok.mp h
  cases entry with
  | none => exact hentry
  | some e => cases h

/-- **One call**: it serves `rid` exactly when `rid` comes first. -/
theorem servedOwn_iff (pre : List (WorkerOp α)) (rid : ReqId) (layerName : String) :
    ServedOwn cfg fo pre rid layerName ↔
      OwnFirst ((workerMachine α cfg fo).exec pre) rid layerName := by
  have hanswer : (workerMachine α cfg fo).answer pre (.waitForLayerLoad layerName) =
      .layer (((workerMachine α cfg fo).exec pre).waitForLayerLoad layerName) := rfl
  have hdecoded := loadedKvs_eq_decodedFor cfg fo pre
  rw [ownFirst_iff, ServedOwn, hanswer, WorkerAnswer.layer.injEq]
  generalize (workerMachine α cfg fo).exec pre = w at *
  constructor
  · rintro (hnone | ⟨idx', layers, t, hidx', h0, -, -, hent, -⟩) idx q kvs hidx hserv
    · have hno := servedEntry_eq_none.mp (servedEntry_of_wait_none hnone) idx hidx
      rw [hno] at hserv
      cases hserv
    · obtain ⟨idx'', kvs', hidx'', hserv', -⟩ := servedEntry_eq_some.mp hent
      obtain rfl : idx' = idx := Option.some.inj (hidx'.symm.trans hidx)
      obtain rfl : idx'' = idx' := Option.some.inj (hidx''.symm.trans hidx)
      rw [hserv] at hserv'
      cases hserv'
      exact ⟨rfl, h0⟩
  · intro h
    by_cases hno : w.servedEntry layerName = .ok none
    · exact Or.inl (waitForLayerLoad_eq hno)
    · -- the loop stops at a request, which is `rid`
      rw [servedEntry_eq_none] at hno
      push Not at hno
      obtain ⟨idx, hidx, hserv⟩ := hno
      obtain ⟨⟨q, kvs⟩, hserv⟩ := Option.ne_none_iff_exists'.mp hserv
      obtain ⟨rfl, h0⟩ := h idx q kvs hidx hserv
      have hlt : idx < kvs.length := (servingRequest_eq_some.mp hserv).1
      have hlen : idx.toNat < kvs.length := by omega
      have hindex : index? kvs idx = some kvs[idx.toNat] := by
        rw [index?, if_pos h0, List.getElem?_eq_getElem hlen]
      have hentry := servedEntry_eq_some.mpr ⟨idx, kvs, hidx, hserv, hindex⟩
      exact Or.inr ⟨idx, kvs, kvs[idx.toNat], hidx, h0,
        (hdecoded q).symm.trans (get?_of_servingRequest hserv), List.getElem?_eq_getElem hlen, hentry,
        congrArg WorkerAnswer.layer (waitForLayerLoad_eq hentry)⟩

/-- **Every forward pass gets its own layers, or none, exactly when at every such call its request
comes first** among the requests with enough loaded layers (for a layer index that is not
negative). -/
theorem wait_served_own_iff (ops : List (WorkerOp α)) :
    EveryStep (fun pre op => ∀ rid layerName, op = .waitForLayerLoad layerName →
        currentRequest pre = some rid → ServedOwn cfg fo pre rid layerName) ops ↔
      EveryStep (fun pre op => ∀ rid layerName, op = .waitForLayerLoad layerName →
        currentRequest pre = some rid →
          OwnFirst ((workerMachine α cfg fo).exec pre) rid layerName) ops :=
  everyStep_congr fun pre _ => by simp only [servedOwn_iff]

/-- A one-layer load for `rid`: the object has the two bytes `data`. -/
def tinyLoad (rid : ReqId) (data : Bytes) : WorkerOp Half :=
  .startLoadKv { requestId := rid, planMode := .fullFp16, numLayers := 1, criticalCodec := "fp16_raw" }
    { reply := some data }

/-- A configuration with one element for each token. -/
def tinyConfig : DeadlineKVConfig := { blockSize := 1, numKvHeads := some 1, headSize := some 1 }

/-- Two requests are loaded; the forward pass of the second one gets the tensor of the first. -/
theorem wait_serves_first_loaded :
    ¬ EveryStep (fun pre op => ∀ rid layerName, op = .waitForLayerLoad layerName →
        currentRequest pre = some rid → ServedOwn tinyConfig default pre rid layerName)
      [tinyLoad "a" [1, 0], tinyLoad "b" [2, 0], .waitForLayerLoad "layer_0"] := by
  intro h
  have hentries : ((workerMachine Half tinyConfig default).exec
      [tinyLoad "a" [1, 0], tinyLoad "b" [2, 0]]).loadedKvs.entries =
        [("a", [⟨[1, 1, 1, 1], [1], rfl⟩]), ("b", [⟨[1, 1, 1, 1], [2], rfl⟩])] := by
    decide +kernel
  have hb : ServedOwn tinyConfig default [tinyLoad "a" [1, 0], tinyLoad "b" [2, 0]] "b" "layer_0" :=
    h _ _ [] rfl "b" "layer_0" rfl (by decide)
  have hab := (servedOwn_iff _ _ _).mp hb 0 [] "a" _ _ (by decide) hentries (by decide) (by simp)
  exact absurd hab.1 (by decide)

end AwareKV
