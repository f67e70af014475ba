import AwareKV.Adapter
import AwareKV.Codec
import AwareKV.Config
import AwareKV.Lib.Machine
import AwareKV.Metadata
import AwareKV.SaveSession
import AwareKV.Store

/-!
# AwareKV.Worker — the worker side

Translation of `connector/worker_side.py` and of `CriticalChannel.fetch`.  The data server's reply
to a fetch is an input (`none` is an error frame, a bad checksum or no reply); what the channels were
asked for is recorded in `fetches`.  A refinement runs in the thread pool, so it is two steps of its
own: its thread starts, and it fetches and ends.  `load_futures` only refers to a future: one that is
replaced there, or that runs when its request is finished, goes on all the same.

* `decodeCriticalKv_length`: the decoded layers account for every byte of the object.
* `loadOutcome`: everything that a load can do.
* `startLoadKv_fetches`, `startLoadKv_loadedKvs`, `requestFinished_ok_iff`: what loading and cleaning
  up do.
* `workerMachine`: all calls in any order.
-/

namespace AwareKV

/-! ## State -/

/-- A fetch through one of the channels. -/
structure Fetch where
  tier : DataTier
  objectId : String
  requestId : ReqId
  deriving DecidableEq, Repr

/-- The status of a future of the thread pool. -/
inductive FutureStatus
  | pending | running | done | cancelled
  deriving DecidableEq, Repr

/-- A scheduled refinement load. -/
structure Future where
  metadata : DeadlineConnectorMetadata
  status : FutureStatus := .pending
  deriving DecidableEq

/-- `WorkerSide`; the configuration is passed to its methods.  The executor has, for each request, the
futures that were submitted for it, and `load_futures` refers to one of them by its number. -/
structure WorkerSide (α : Type) where
  activeLoads : Dict ReqId DeadlineConnectorMetadata := .empty
  loadedKvs : Dict ReqId (List (Tensor Half)) := .empty
  loadFutures : Dict ReqId ℕ := .empty
  executor : Dict ReqId (List Future) := .empty
  saveSessions : Dict ReqId (SaveSession α) := .empty
  fetches : List Fetch := []
  deriving DecidableEq

/-! ## Decoding -/

section Decode

variable (cfg : DeadlineKVConfig) (fo : FloatOps)

/-- `sub in s` on strings. -/
def containsText (sub s : String) : Bool := s.toList.tails.any (fun t => sub.toList.isPrefixOf t)

/-- The bytes of layer `i`: pieces of equal length, the last one to the end of the data. -/
def layerData (data : Bytes) (numLayers chunkSize : ℤ) (i : ℕ) : Bytes :=
  slice data (i * chunkSize)
    (if (i : ℤ) < numLayers - 1 then i * chunkSize + chunkSize else data.length)

/-- The shape that is assumed for a layer of `nbytes` bytes. -/
def estimatedShape (codecName : String) (nbytes : ℤ) : Py (List ℤ) := do
  let numKvHeads := cfg.numKvHeads.getD 32
  let headSize := cfg.headSize.getD 128
  let totalElements := nbytes.fdiv (if containsText "int8" codecName then 1 else 2)
  let numBlocks ← floorDiv totalElements (cfg.blockSize * numKvHeads * headSize)
  return [max 1 numBlocks, cfg.blockSize, numKvHeads, headSize]

/-- One round of the loop of `_decode_critical_kv`. -/
def decodeLayer (codec : Codec) (codecName : String) (data : Bytes) (numLayers chunkSize : ℤ)
    (i : ℕ) : Py (Tensor Half) := do
  let bytes := layerData data numLayers chunkSize i
  let shape ← estimatedShape cfg codecName bytes.length
  let dtype := if containsText "int8" codec.name then "int8" else "float16"
  codec.decode fo (.make codec.name bytes (some shape) dtype 0)

/-- `_decode_critical_kv`. -/
def decodeCriticalKv (data : Bytes) (codecName : String) (numLayers : ℤ) : Py (List (Tensor Half)) := do
  let codec ← getCodec codecName
  let chunkSize ← floorDiv data.length numLayers
  (List.range numLayers.toNat).mapM (decodeLayer cfg fo codec codecName data numLayers chunkSize)

/-- A layer before the last one has its share of the bytes. -/
theorem layerData_inner (data : Bytes) {n i : ℕ} (hi : i + 1 < n) (q : ℕ) :
    layerData data n q i = slice data (i * q : ℕ) (i * q + q : ℕ) := by
  rw [layerData, if_pos (by omega)]
  push_cast
  rfl

/-- The last layer has the rest. -/
theorem layerData_last (data : Bytes) (i q : ℕ) :
    layerData data (i + 1 : ℕ) q i = data.drop (i * q) := by
  rw [layerData, if_neg (by omega), ← Nat.cast_mul, slice_nat, List.take_length]

/-- The layers' pieces put together are the data. -/
theorem flatMap_layerData (data : Bytes) {n : ℕ} (hn : 0 < n) :
    (List.range n).flatMap (layerData data n ((data.length : ℤ).fdiv n)) = data := by
  obtain ⟨k, rfl⟩ := Nat.exists_eq_succ_of_ne_zero hn.ne'
  rw [← Int.ofNat_fdiv]
  generalize data.length / k.succ = q
  have hinit : (List.range k).flatMap (layerData data (k + 1 : ℕ) q) = data.take (k * q) := by
    rw [← flatMap_slice]
    exact List.flatMap_congr fun i hi => layerData_inner data (Nat.succ_lt_succ (List.mem_range.mp hi)) q
  rw [List.range_succ, List.flatMap_append, hinit, List.flatMap_singleton, layerData_last,
    List.take_append_drop]

variable {cfg fo}

/-- **The decoded layers account for every byte**: their encodings would be as long as the data. -/
theorem decodeCriticalKv_length {data : Bytes} {codec : Codec} {n : ℕ} (hn : 0 < n)
    {layers : List (Tensor Half)} (h : decodeCriticalKv cfg fo data codec.name n = .ok layers) :
    (layers.map (fun t => codec.encodedSize t.shape.prod)).sum = data.length := by
  obtain ⟨c, hc, h⟩ := Py.bind_eq_ok.mp h
  rw [getCodec_name] at hc
  cases hc
  obtain ⟨chunk, hchunk, h⟩ := Py.bind_eq_ok.mp h
  rw [floorDiv, if_neg (by omega)] at hchunk
  cases hchunk
  have hround : List.Forall₂ (fun i (t : Tensor Half) => codec.encodedSize t.shape.prod =
      (layerData data n ((data.length : ℤ).fdiv n) i).length) (List.range (n : ℤ).toNat) layers := by
    refine (Py.mapM_eq_ok.mp h).imp fun i t ht => ?_
    obtain ⟨shape, -, ht⟩ := Py.bind_eq_ok.mp ht
    exact (decode_length ht).symm
  have hsum : ∀ {is : List ℕ} {ts : List (Tensor Half)} {f : ℕ → Bytes},
      List.Forall₂ (fun i (t : Tensor Half) => codec.encodedSize t.shape.prod = (f i).length) is ts →
      (ts.map (fun t => codec.encodedSize t.shape.prod)).sum = (is.flatMap f).length := by
    intro is ts f hf
    induction hf with
    | nil => rfl
    | cons hit _ ih => rw [List.map_cons, List.sum_cons, hit, ih, List.flatMap_cons, List.length_append]
  rw [hsum hround, Int.toNat_natCast, flatMap_layerData data hn]

end Decode

/-! ## Methods -/

/-- What `start_load_kv` reads from outside: the reply of the data server, the time it took, and what
the thread pool raises when a refinement is submitted, if it does. -/
structure LoadEnv where
  reply : Option Bytes
  elapsedMs : ℤ := 0
  submitFault : Option Exc := none
  deriving DecidableEq

/-- `CriticalChannel.fetch`. -/
def criticalFetch (objectId : String) (reply : Option Bytes) : Py Bytes :=
  match reply with
  | none => .error ⟨.runtimeError, "Critical fetch failed for " ++ objectId⟩
  | some data => .ok data

namespace WorkerSide

variable {α : Type} (cfg : DeadlineKVConfig) (fo : FloatOps) (w : WorkerSide α)

/-- `_fetch_critical_kv`. -/
def fetchCriticalKv (md : DeadlineConnectorMetadata) (reply : Option Bytes) :
    WorkerSide α × Option Bytes :=
  ({ w with fetches := w.fetches ++ [⟨.critical, md.criticalObjectId, md.requestId⟩] },
    match criticalFetch md.criticalObjectId reply with
    | .ok data => some data
    | .error _ => none)

/-- The fetched bytes and their layers, or what is raised on the way. -/
def loadLayers (md : DeadlineConnectorMetadata) (criticalData : Option Bytes) :
    Py (Bytes × List (Tensor Half)) :=
  match criticalData with
  | none => .error ⟨.runtimeError, "Critical KV fetch failed"⟩
  | some data => do
    let layers ← decodeCriticalKv cfg fo data md.criticalCodec md.numLayers
    return (data, layers)

/-- The futures of a request, in the order of their submission. -/
def futuresOf (rid : ReqId) : List Future := (w.executor.get? rid).getD []

/-- The metadata of the request's future number `k`, if that has the status. -/
def futureIn (status : FutureStatus) (rid : ReqId) (k : ℕ) : Option DeadlineConnectorMetadata :=
  ((w.futuresOf rid)[k]?.filter (fun future => future.status = status)).map Future.metadata

/-- The executor when the request's future number `k` goes from one status to another, if it has the first. -/
def moveFuture (rid : ReqId) (k : ℕ) (status status' : FutureStatus) : Dict ReqId (List Future) :=
  w.executor.insert rid ((w.futuresOf rid).modify k
    (fun future => if future.status = status then { future with status := status' } else future))

/-- `_schedule_refinement_load`. -/
def scheduleRefinementLoad (md : DeadlineConnectorMetadata) (submitFault : Option Exc) :
    Py (WorkerSide α) :=
  match submitFault with
  | some e => .error e
  | none => .ok { w with
      executor := w.executor.insert md.requestId (w.futuresOf md.requestId ++ [{ metadata := md }])
      loadFutures := w.loadFutures.insert md.requestId (w.futuresOf md.requestId).length }

/-- The load schedules a refinement. -/
def WantsRefinement (md : DeadlineConnectorMetadata) : Prop :=
  md.needRefinement = true ∧ md.refinementObjectId.getD "" ≠ ""

instance (md : DeadlineConnectorMetadata) : Decidable (WantsRefinement md) :=
  inferInstanceAs (Decidable (_ ∧ _))

/-- The `except` branch of `start_load_kv`. -/
def loadFailed (rid : ReqId) (e : Exc) : WorkerSide α × WorkerLoadResult :=
  ({ w with activeLoads := w.activeLoads.erase rid },
    createLoadResult rid false false false 0 0 0 0 0 0 "load_failed" e.msg)

/-- `start_load_kv`. -/
def startLoadKv (md : DeadlineConnectorMetadata) (env : LoadEnv) : WorkerSide α × WorkerLoadResult :=
  let rid := md.requestId
  let w := { w with activeLoads := w.activeLoads.insert rid md }
  let (w, criticalData) := w.fetchCriticalKv md env.reply
  match loadLayers cfg fo md criticalData with
  | .error e => w.loadFailed rid e
  | .ok (data, layers) =>
    let w := { w with loadedKvs := w.loadedKvs.insert rid layers }
    match if WantsRefinement md then w.scheduleRefinementLoad md env.submitFault else .ok w with
    | .error e => w.loadFailed rid e
    | .ok w =>
      (w, createLoadResult rid true true false md.matchedTokens md.matchedBlocks.length data.length 0
        env.elapsedMs)

/-- The thread of the request's future number `k` starts; from now on the future cannot be cancelled. -/
def refinementStarts (rid : ReqId) (k : ℕ) : WorkerSide α :=
  { w with executor := w.moveFuture rid k .pending .running }

/-- The thread asks for the object and ends; what it fetched is not kept. -/
def refinementEnds (rid : ReqId) (k : ℕ) : WorkerSide α :=
  { w with
    executor := w.moveFuture rid k .running .done
    fetches := w.fetches ++ (w.futureIn .running rid k).toList.map
      (fun md => ⟨.refinement, md.refinementObjectId.getD "", rid⟩) }

/-- `_extract_layer_idx`; `none` for a `ValueError`. -/
def extractLayerIdx (layerName : String) : Option ℤ :=
  if '_' ∈ layerName.toList then parseInt (lastPart '_' layerName.toList)
  else parseInt layerName.toList

/-- The first request with loaded layers that has more than `idx` of them. -/
def servingRequest (idx : ℤ) : Option (ReqId × List (Tensor Half)) :=
  w.loadedKvs.entries.find? (fun e => idx < e.2.length)

/-- The loop of `wait_for_layer_load`: the request that it stops at and the tensor it takes there. -/
def servedEntry (layerName : String) : Py (Option (ReqId × Tensor Half)) :=
  match extractLayerIdx layerName with
  | none => .ok none
  | some idx =>
    match w.servingRequest idx with
    | none => .ok none
    | some (rid, kvs) =>
      match index? kvs idx with
      | some t => .ok (some (rid, t))
      | none => .error ⟨.indexError, "list index out of range"⟩

/-- `wait_for_layer_load`. -/
def waitForLayerLoad (layerName : String) : Py (Option (Tensor Half)) := do
  let entry ← w.servedEntry layerName
  return entry.map Prod.snd

/-- The session that `save_kv_layer` creates. -/
def defaultSession (rid : ReqId) : SaveSession α :=
  { requestId := rid, prefixKey := "temp_key", matchedTokens := 0, matchedBlocks := [],
    numLayers := cfg.numLayers }

/-- `save_kv_layer`. -/
def saveKvLayer (layerName : String) (kvLayer : Tensor α) (attn : Option AttnMetadata) (rid : ReqId) :
    WorkerSide α :=
  let session := (w.saveSessions.get? rid).getD (defaultSession cfg rid)
  let session :=
    match extractPrefixKvFromLayer kvLayer (attn.bind extractSlotMapping) session.matchedBlocks
      session.matchedTokens with
    | .ok prefixKv => (session.addLayer layerName prefixKv).1
    | .error e => session.abort e.msg
  { w with saveSessions := w.saveSessions.insert rid session }

/-- The report that `request_finished` logs about a save session. -/
def reportSession (session : SaveSession α) : Py Unit := do
  if session.isComplete && !session.aborted then
    let _ ← session.numLayersSaved
  else if session.aborted then
    return ()
  else
    let _ ← session.numLayersSaved

/-- The executor after `future.cancel()` for the future in `load_futures`; one that runs goes on. -/
def cancelFuture (rid : ReqId) : Dict ReqId (List Future) :=
  match w.loadFutures.get? rid with
  | none => w.executor
  | some k => w.moveFuture rid k .pending .cancelled

/-- `request_finished`. -/
def requestFinished (rid : ReqId) : WorkerSide α × Py Unit :=
  let w := { w with
    activeLoads := w.activeLoads.erase rid
    loadedKvs := w.loadedKvs.erase rid
    executor := w.cancelFuture rid
    loadFutures := w.loadFutures.erase rid }
  match w.saveSessions.get? rid with
  | none => (w, .ok ())
  | some session =>
    match reportSession session with
    | .error e => (w, .error e)
    | .ok () => ({ w with saveSessions := w.saveSessions.erase rid }, .ok ())

/-! ### What is held about a request -/

/-- Nothing is held about a load of the request. -/
structure NoLoad (rid : ReqId) : Prop where
  activeLoads : w.activeLoads.get? rid = none
  loadedKvs : w.loadedKvs.get? rid = none
  loadFutures : w.loadFutures.get? rid = none

/-- The two worker sides hold the same about every request but `rid`. -/
structure SameOthers (rid : ReqId) (w w' : WorkerSide α) : Prop where
  activeLoads : ∀ q ≠ rid, w'.activeLoads.get? q = w.activeLoads.get? q
  loadedKvs : ∀ q ≠ rid, w'.loadedKvs.get? q = w.loadedKvs.get? q
  loadFutures : ∀ q ≠ rid, w'.loadFutures.get? q = w.loadFutures.get? q
  futures : ∀ q ≠ rid, w'.futuresOf q = w.futuresOf q
  saveSessions : ∀ q ≠ rid, w'.saveSessions.get? q = w.saveSessions.get? q

/-! ### The futures of the executor -/

section Futures

variable {w} {w' : WorkerSide α} {rid : ReqId} {k : ℕ} {status status' : FutureStatus}

theorem futuresOf_moveFuture (h : w'.executor = w.moveFuture rid k status status') (q : ReqId) :
    w'.futuresOf q = if q = rid then (w.futuresOf rid).modify k
      (fun future => if future.status = status then { future with status := status' } else future)
      else w.futuresOf q := by
  rw [futuresOf, h, moveFuture, Dict.get?_insert]
  split_ifs <;> rfl

/-- The futures stay what they are for. -/
theorem metadata_moveFuture (h : w'.executor = w.moveFuture rid k status status') (q : ReqId) :
    (w'.futuresOf q).map Future.metadata = (w.futuresOf q).map Future.metadata := by
  rw [futuresOf_moveFuture h]
  split_ifs with hq
  · subst hq
    refine List.ext_getElem? fun j => ?_
    rw [List.getElem?_map, List.getElem?_map, List.getElem?_modify]
    cases (w.futuresOf q)[j]? with
    | none => rfl
    | some future => by_cases hs : future.status = status <;> simp [hs, apply_ite]
  · rfl

/-- At most one future is cancelled. -/
theorem cancelFuture_eq (w : WorkerSide α) (rid : ReqId) : w.cancelFuture rid = w.executor ∨
    ∃ k, w.cancelFuture rid = w.moveFuture rid k .pending .cancelled := by
  unfold cancelFuture
  cases w.loadFutures.get? rid with
  | none => exact Or.inl rfl
  | some k => exact Or.inr ⟨k, rfl⟩

/-- It is one of the request. -/
theorem futuresOf_cancelFuture (h : w'.executor = w.cancelFuture rid) {q : ReqId} (hq : q ≠ rid) :
    w'.futuresOf q = w.futuresOf q := by
  rcases w.cancelFuture_eq rid with hkept | ⟨k, hmoved⟩
  · rw [futuresOf, h, hkept, futuresOf]
  · rw [futuresOf_moveFuture (h.trans hmoved), if_neg hq]

theorem metadata_cancelFuture (h : w'.executor = w.cancelFuture rid) (q : ReqId) :
    (w'.futuresOf q).map Future.metadata = (w.futuresOf q).map Future.metadata := by
  rcases w.cancelFuture_eq rid with hkept | ⟨k, hmoved⟩
  · rw [futuresOf, h, hkept, futuresOf]
  · exact metadata_moveFuture (h.trans hmoved) q

end Futures

/-! ### What the methods can do -/

theorem fetchCriticalKv_eq (md : DeadlineConnectorMetadata) (reply : Option Bytes) :
    w.fetchCriticalKv md reply =
      ({ w with fetches := w.fetches ++ [⟨.critical, md.criticalObjectId, md.requestId⟩] }, reply) := by
  cases reply <;> rfl

/-- **What a load can do**: the worker side after it, and its result. -/
inductive LoadOutcome (md : DeadlineConnectorMetadata) (env : LoadEnv) :
    WorkerSide α × WorkerLoadResult → Prop
  | failed (e : Exc) (hl : loadLayers cfg fo md env.reply = .error e) :
      LoadOutcome md env
        ({ w with
            activeLoads := (w.activeLoads.insert md.requestId md).erase md.requestId
            fetches := w.fetches ++ [⟨.critical, md.criticalObjectId, md.requestId⟩] },
          createLoadResult md.requestId false false false 0 0 0 0 0 0 "load_failed" e.msg)
  | submitFailed (data : Bytes) (layers : List (Tensor Half)) (e : Exc)
      (hl : loadLayers cfg fo md env.reply = .ok (data, layers)) (hr : WantsRefinement md)
      (hf : env.submitFault = some e) :
      LoadOutcome md env
        ({ w with
            activeLoads := (w.activeLoads.insert md.requestId md).erase md.requestId
            loadedKvs := w.loadedKvs.insert md.requestId layers
            fetches := w.fetches ++ [⟨.critical, md.criticalObjectId, md.requestId⟩] },
          createLoadResult md.requestId false false false 0 0 0 0 0 0 "load_failed" e.msg)
  | loaded (data : Bytes) (layers : List (Tensor Half))
      (hl : loadLayers cfg fo md env.reply = .ok (data, layers))
      (hf : WantsRefinement md → env.submitFault = none) :
      LoadOutcome md env
        ({ w with
            activeLoads := w.activeLoads.insert md.requestId md
            loadedKvs := w.loadedKvs.insert md.requestId layers
            executor := if WantsRefinement md then
              w.executor.insert md.requestId (w.futuresOf md.requestId ++ [{ metadata := md }]) else w.executor
            loadFutures := if WantsRefinement md then
              w.loadFutures.insert md.requestId (w.futuresOf md.requestId).length else w.loadFutures
            fetches := w.fetches ++ [⟨.critical, md.criticalObjectId, md.requestId⟩] },
          createLoadResult md.requestId true true false md.matchedTokens md.matchedBlocks.length
            data.length 0 env.elapsedMs)

/-- **Every load is such an outcome.** -/
theorem loadOutcome (md : DeadlineConnectorMetadata) (env : LoadEnv) :
    LoadOutcome cfg fo w md env (w.startLoadKv cfg fo md env) := by
  simp only [startLoadKv, fetchCriticalKv_eq]
  cases hl : loadLayers cfg fo md env.reply with
  | error e => exact .failed e hl
  | ok r =>
    obtain ⟨data, layers⟩ := r
    dsimp only
    by_cases hr : WantsRefinement md
    · cases hf : env.submitFault with
      | some e =>
        simp only [if_pos hr, scheduleRefinementLoad]
        exact .submitFailed data layers e hl hr hf
      | none =>
        have hloaded := LoadOutcome.loaded (w := w) data layers hl fun _ => hf
        simpa only [if_pos hr, scheduleRefinementLoad, futuresOf] using hloaded
    · have hloaded : LoadOutcome cfg fo w md env _ := .loaded data layers hl fun h => absurd h hr
      simpa only [if_neg hr] using hloaded

variable {cfg fo w}

/-- **A load asks once, for the metadata's critical object.** -/
theorem startLoadKv_fetches (md : DeadlineConnectorMetadata) (env : LoadEnv) :
    (w.startLoadKv cfg fo md env).1.fetches =
      w.fetches ++ [⟨.critical, md.criticalObjectId, md.requestId⟩] := by
  have h := loadOutcome cfg fo w md env
  generalize w.startLoadKv cfg fo md env = r at h ⊢
  cases h <;> rfl

/-- A load stores the decoded layers, or leaves the loaded layers alone. -/
theorem startLoadKv_loadedKvs (md : DeadlineConnectorMetadata) (env : LoadEnv) :
    (w.startLoadKv cfg fo md env).1.loadedKvs =
      match loadLayers cfg fo md env.reply with
      | .ok (_, layers) => w.loadedKvs.insert md.requestId layers
      | .error _ => w.loadedKvs := by
  have h := loadOutcome cfg fo w md env
  generalize w.startLoadKv cfg fo md env = r at h ⊢
  cases h with
  | failed e hl => rw [hl]
  | submitFailed data layers e hl => rw [hl]
  | loaded data layers hl => rw [hl]

/-- Only the report about an aborted session does not raise. -/
theorem reportSession_eq_ok {session : SaveSession α} :
    reportSession session = .ok () ↔ session.aborted = true := by
  unfold reportSession SaveSession.numLayersSaved
  cases session.aborted <;> cases session.isComplete <;> simp [bind, Except.bind, pure, Except.pure]

/-- The request has a save session that was not aborted. -/
def HasOpenSession (w : WorkerSide α) (rid : ReqId) : Prop :=
  ∃ session, w.saveSessions.get? rid = some session ∧ session.aborted = false

/-- **Cleaning up raises exactly when there is a save session that was not aborted.** -/
theorem requestFinished_ok_iff {rid : ReqId} :
    (w.requestFinished rid).2 = .ok () ↔ ¬ w.HasOpenSession rid := by
  simp only [requestFinished, HasOpenSession]
  cases hs : w.saveSessions.get? rid with
  | none => simp
  | some session =>
    cases hr : reportSession session with
    | ok u => simp [hr, reportSession_eq_ok.mp hr]
    | error e =>
      have hne : session.aborted ≠ true := fun h => by
        rw [reportSession_eq_ok.mpr h] at hr
        cases hr
      simp [hr, hne]

/-- Cleaning up empties the three maps of loads, also when it raises. -/
theorem requestFinished_loads (w : WorkerSide α) (rid : ReqId) :
    (w.requestFinished rid).1.activeLoads = w.activeLoads.erase rid ∧
      (w.requestFinished rid).1.loadedKvs = w.loadedKvs.erase rid ∧
      (w.requestFinished rid).1.loadFutures = w.loadFutures.erase rid := by
  simp only [requestFinished]
  split
  · exact ⟨rfl, rfl, rfl⟩
  · split <;> exact ⟨rfl, rfl, rfl⟩

theorem requestFinished_loadedKvs (rid : ReqId) :
    (w.requestFinished rid).1.loadedKvs = w.loadedKvs.erase rid :=
  (w.requestFinished_loads rid).2.1

/-- Cleaning up cancels the future that `load_futures` refers to, also when it raises. -/
theorem requestFinished_executor (w : WorkerSide α) (rid : ReqId) :
    (w.requestFinished rid).1.executor = w.cancelFuture rid := by
  simp only [requestFinished]
  split
  · rfl
  · split <;> rfl

/-- Cleaning up asks for nothing. -/
theorem requestFinished_fetches (w : WorkerSide α) (rid : ReqId) :
    (w.requestFinished rid).1.fetches = w.fetches := by
  simp only [requestFinished]
  split
  · rfl
  · split <;> rfl

end WorkerSide

/-! ## All calls in any order -/

/-- The calls of a worker side, and the steps of its refinement threads. -/
inductive WorkerOp (α : Type)
  | startLoadKv (md : DeadlineConnectorMetadata) (env : LoadEnv)
  | waitForLayerLoad (layerName : String)
  | saveKvLayer (layerName : String) (kvLayer : Tensor α) (attn : Option AttnMetadata) (rid : ReqId)
  | requestFinished (rid : ReqId)
  | refinementStarts (rid : ReqId) (k : ℕ)
  | refinementEnds (rid : ReqId) (k : ℕ)

/-- What a call gives back. -/
inductive WorkerAnswer
  | none
  | load (r : WorkerLoadResult)
  | layer (r : Py (Option (Tensor Half)))
  | finished (r : Py Unit)
  deriving DecidableEq

/-- The worker side as a machine. -/
def workerMachine (α : Type) (cfg : DeadlineKVConfig) (fo : FloatOps) :
    Machine (WorkerSide α) (WorkerOp α) WorkerAnswer where
  init := {}
  step w
    | .startLoadKv md env => ((w.startLoadKv cfg fo md env).1, .load (w.startLoadKv cfg fo md env).2)
    | .waitForLayerLoad layerName => (w, .layer (w.waitForLayerLoad layerName))
    | .saveKvLayer layerName kvLayer attn rid => (w.saveKvLayer cfg layerName kvLayer attn rid, .none)
    | .requestFinished rid => ((w.requestFinished rid).1, .finished (w.requestFinished rid).2)
    | .refinementStarts rid k => (w.refinementStarts rid k, .none)
    | .refinementEnds rid k => (w.refinementEnds rid k, .none)

end AwareKV
