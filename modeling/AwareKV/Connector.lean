import AwareKV.Scheduler
import AwareKV.Worker

/-!
# AwareKV.Connector — the connector and its lifecycle calls

Translation of `connector/deadline_connector.py`.  Metrics and log output are left out; everything
that one call can see of another is in `Connector`.  `connectorMachine` takes the calls in any order,
for any requests, and the steps of the refinement threads between them.

* `getNum_spec`: a query in terms of `prepare_request_state`.
* `startLoadKv_fetches`: which fetch a load makes.
* `connectorStep`: everything that a call can do; the results about runs use it and do not unfold the
  calls again.
-/

namespace AwareKV

/-! ## State -/

/-- `DeadlinePrefixKVConnector`. -/
structure Connector (α : Type) where
  config : DeadlineKVConfig
  stateManager : StateManager := .new
  schedulerSide : Option SchedulerSide
  workerSide : Option (WorkerSide α)
  pendingMetadata : Dict ReqId DeadlineConnectorMetadata := .empty
  workerResults : Dict ReqId WorkerLoadResult := .empty
  finishedRequests : List ReqId := []

/-- The planner that the connector sets up; `alpha` is the float that the configuration's number denotes. -/
def plannerOf (fl : DoubleOps) (cfg : DeadlineKVConfig) : DeadlinePlanner :=
  { ttftSloMs := cfg.ttftSloMs, alpha := fl.ofRat cfg.planner.alpha,
    minPrefixTokens := cfg.planner.minPrefixTokens }

/-- The scheduler side that the connector sets up. -/
def sideOf (fo : FloatOps) (cfg : DeadlineKVConfig) : SchedulerSide :=
  ⟨cfg, plannerOf fo.doubles cfg, fo.doubles⟩

namespace Connector

variable {α : Type}

/-- A connector with a valid role: both sides are there unless it is a producer only. -/
def start (α : Type) (fo : FloatOps) (cfg : DeadlineKVConfig) (role : String) : Connector α :=
  if role = "kv_both" ∨ role = "kv_consumer" then
    { config := cfg, schedulerSide := some (sideOf fo cfg), workerSide := some {} }
  else { config := cfg, schedulerSide := none, workerSide := none }

/-- `__init__`. -/
def new (α : Type) (fo : FloatOps) (cfg : DeadlineKVConfig) (role : String) : Py (Connector α) :=
  if validateConnectorRole role then .ok (start α fo cfg role)
  else .error ⟨.valueError, "Invalid connector role: " ++ role ++
    ". Must be one of: kv_producer, kv_consumer, kv_both"⟩

/-! ## Scheduler-side calls -/

variable (sha256Hex : String → String) (fo : FloatOps) (c : Connector α)

/-- `get_num_new_matched_tokens`: an exception answers like a miss. -/
def getNumNewMatchedTokens (request : Request) (numComputedTokens : ℤ) (env : QueryEnv) :
    Connector α × (ℤ × Bool) :=
  match c.schedulerSide with
  | none => (c, (0, false))
  | some side =>
    let (sm, result) := side.prepareRequestState sha256Hex c.stateManager request numComputedTokens env
    match result with
    | .ok answer => ({ c with stateManager := sm }, answer)
    | .error _ => ({ c with stateManager := sm }, (0, false))

/-- `update_state_after_alloc`. -/
def updateStateAfterAlloc (request : Request) (out : SchedulerOutput) : Connector α :=
  match c.schedulerSide with
  | none => c
  | some _ =>
    let rid := extractRequestId request
    match extractAllocatedBlocks out rid with
    | [] => c
    | b :: bs => { c with stateManager := SchedulerSide.bindAllocatedBlocks c.stateManager rid (b :: bs) }

/-- `build_connector_meta`. -/
def buildConnectorMeta (request : Request) : Connector α × Option DeadlineConnectorMetadata :=
  match c.schedulerSide with
  | none => (c, none)
  | some _ =>
    let rid := extractRequestId request
    match SchedulerSide.buildRequestMetadata c.stateManager rid with
    | some md => ({ c with pendingMetadata := c.pendingMetadata.insert rid md }, some md)
    | none => (c, none)

/-- `update_connector_output`. -/
def updateConnectorOutput (rid : ReqId) (result : Option WorkerLoadResult) : Connector α :=
  match result with
  | some r => { c with workerResults := c.workerResults.insert rid r }
  | none => c

/-- The scheduler-side part of `request_finished`: status, pending metadata and worker results. -/
def forget (rid : ReqId) : Connector α :=
  let sm := match c.schedulerSide with
    | none => c.stateManager
    | some _ => c.stateManager.update rid
        (fun st => { st with status := .done, requestFinished := true })
  { c with
    stateManager := sm
    pendingMetadata := c.pendingMetadata.erase rid
    workerResults := c.workerResults.erase rid }

/-- `request_finished`: the id is recorded last, after the worker side has cleaned up. -/
def requestFinished (rid : ReqId) : Connector α × Py Unit :=
  let c := c.forget rid
  match c.workerSide with
  | none => ({ c with finishedRequests := c.finishedRequests ++ [rid] }, .ok ())
  | some w =>
    match (w.requestFinished rid).2 with
    | .error e => ({ c with workerSide := some (w.requestFinished rid).1 }, .error e)
    | .ok () =>
      ({ c with workerSide := some (w.requestFinished rid).1,
                finishedRequests := c.finishedRequests ++ [rid] }, .ok ())

/-- `take_events`. -/
def takeEvents : List String := []

/-- `get_finished`. -/
def getFinished : Connector α × List ReqId := ({ c with finishedRequests := [] }, c.finishedRequests)

/-! ## Worker-side calls -/

/-- `start_load_kv`; the worker side's result is not used. -/
def startLoadKv (requestId : Option ReqId) (env : LoadEnv) : Connector α :=
  match c.workerSide with
  | none => c
  | some w =>
    let rid := requestId.getD ""
    if rid = "" then c
    else match c.pendingMetadata.get? rid with
      | none => c
      | some md => { c with workerSide := some (w.startLoadKv c.config fo md env).1 }

/-- `wait_for_layer_load`: an exception answers `None`. -/
def waitForLayerLoad (layerName : String) : Option (Tensor Half) :=
  match c.workerSide with
  | none => none
  | some w =>
    match w.waitForLayerLoad layerName with
    | .ok t => t
    | .error _ => none

/-- `save_kv_layer`. -/
def saveKvLayer (layerName : String) (kvLayer : Tensor α) (attn : Option AttnMetadata)
    (requestId : Option ReqId) : Connector α :=
  match c.workerSide with
  | none => c
  | some w =>
    let rid := requestId.getD ""
    if rid = "" then c
    else { c with workerSide := some (w.saveKvLayer c.config layerName kvLayer attn rid) }

/-- A step of the worker side's thread pool. -/
def threadStep (f : WorkerSide α → WorkerSide α) : Connector α :=
  { c with workerSide := c.workerSide.map f }

/-- What the worker side has fetched so far. -/
def fetches : List Fetch := (c.workerSide.map WorkerSide.fetches).getD []

end Connector

/-! ## All calls in any order -/

/-- The lifecycle calls, and the steps of the refinement threads; a thread ends with the reply to its fetch. -/
inductive ConnectorOp (α : Type)
  | getNumNewMatchedTokens (request : Request) (numComputedTokens : ℤ) (env : QueryEnv)
  | updateStateAfterAlloc (request : Request) (out : SchedulerOutput)
  | buildConnectorMeta (request : Request)
  | updateConnectorOutput (rid : ReqId) (result : Option WorkerLoadResult)
  | requestFinished (rid : ReqId)
  | takeEvents
  | getFinished
  | startLoadKv (requestId : Option ReqId) (env : LoadEnv)
  | waitForLayerLoad (layerName : String)
  | saveKvLayer (layerName : String) (kvLayer : Tensor α) (attn : Option AttnMetadata)
      (requestId : Option ReqId)
  | waitForSave
  | refinementStarts (rid : ReqId) (k : ℕ)
  | refinementEnds (rid : ReqId) (k : ℕ) (reply : Option Bytes)

/-- What a call gives back; `done` is a return without a value. -/
inductive ConnectorAnswer
  | done
  | tokens (answer : ℤ × Bool)
  | metadata (md : Option DeadlineConnectorMetadata)
  | events (es : List String)
  | finished (ids : List ReqId)
  | layer (t : Option (Tensor Half))
  | raised (e : Exc)
  deriving DecidableEq

/-- The answer of a call that returns nothing or raises. -/
def ConnectorAnswer.ofPy : Py Unit → ConnectorAnswer
  | .ok () => .done
  | .error e => .raised e

/-- The connector as a machine. -/
def connectorMachine (α : Type) (sha256Hex : String → String) (fo : FloatOps) (cfg : DeadlineKVConfig)
    (role : String) : Machine (Connector α) (ConnectorOp α) ConnectorAnswer where
  init := .start α fo cfg role
  step c
    | .getNumNewMatchedTokens request n env =>
      ((c.getNumNewMatchedTokens sha256Hex request n env).1,
        .tokens (c.getNumNewMatchedTokens sha256Hex request n env).2)
    | .updateStateAfterAlloc request out => (c.updateStateAfterAlloc request out, .done)
    | .buildConnectorMeta request =>
      ((c.buildConnectorMeta request).1, .metadata (c.buildConnectorMeta request).2)
    | .updateConnectorOutput rid result => (c.updateConnectorOutput rid result, .done)
    | .requestFinished rid => ((c.requestFinished rid).1, .ofPy (c.requestFinished rid).2)
    | .takeEvents => (c, .events Connector.takeEvents)
    | .getFinished => (c.getFinished.1, .finished c.getFinished.2)
    | .startLoadKv requestId env => (c.startLoadKv fo requestId env, .done)
    | .waitForLayerLoad layerName => (c, .layer (c.waitForLayerLoad layerName))
    | .saveKvLayer layerName kvLayer attn requestId =>
      (c.saveKvLayer layerName kvLayer attn requestId, .done)
    | .waitForSave => (c, .done)
    | .refinementStarts rid k => (c.threadStep (fun w => w.refinementStarts rid k), .done)
    | .refinementEnds rid k _ => (c.threadStep (fun w => w.refinementEnds rid k), .done)

@[simp] theorem connectorMachine_init (α : Type) (sha256Hex : String → String) (fo : FloatOps)
    (cfg : DeadlineKVConfig) (role : String) :
    (connectorMachine α sha256Hex fo cfg role).init = .start α fo cfg role := rfl

/-! ## What the calls do -/

namespace Connector

variable {α : Type} {sha256Hex : String → String} {fo : FloatOps} {c : Connector α}

/-! ### A new connector -/

section Start

variable {cfg : DeadlineKVConfig} {role : String}

@[simp] theorem start_stateManager : (start α fo cfg role).stateManager = .new := by
  unfold start
  split_ifs <;> rfl

@[simp] theorem start_pendingMetadata : (start α fo cfg role).pendingMetadata = .empty := by
  unfold start
  split_ifs <;> rfl

@[simp] theorem start_workerResults : (start α fo cfg role).workerResults = .empty := by
  unfold start
  split_ifs <;> rfl

@[simp] theorem start_finishedRequests : (start α fo cfg role).finishedRequests = [] := by
  unfold start
  split_ifs <;> rfl

/-- A worker side that a new connector has is new. -/
theorem start_workerSide {w : WorkerSide α} (h : (start α fo cfg role).workerSide = some w) : w = {} := by
  unfold start at h
  split_ifs at h
  exact (Option.some.inj h).symm

/-- A scheduler side that a new connector has is the one of its configuration. -/
theorem start_schedulerSide {side : SchedulerSide} (h : (start α fo cfg role).schedulerSide = some side) :
    side = sideOf fo cfg := by
  unfold start at h
  split_ifs at h
  exact (Option.some.inj h).symm

end Start

/-! ### Calls -/

/-- A query of a connector with a scheduler side. -/
theorem getNum_spec {side : SchedulerSide} (hs : c.schedulerSide = some side) (request : Request)
    (n : ℤ) (env : QueryEnv) :
    c.getNumNewMatchedTokens sha256Hex request n env =
      ({ c with stateManager := (side.prepareRequestState sha256Hex c.stateManager request n env).1 },
        match (side.prepareRequestState sha256Hex c.stateManager request n env).2 with
        | .ok answer => answer
        | .error _ => (0, false)) := by
  simp only [getNumNewMatchedTokens, hs]
  split <;> simp_all

/-- Metadata becomes pending as it is built. -/
theorem buildConnectorMeta_spec {side : SchedulerSide} (hs : c.schedulerSide = some side)
    (request : Request) :
    c.buildConnectorMeta request =
      (match SchedulerSide.buildRequestMetadata c.stateManager (extractRequestId request) with
        | some md => { c with pendingMetadata := c.pendingMetadata.insert (extractRequestId request) md }
        | none => c,
        SchedulerSide.buildRequestMetadata c.stateManager (extractRequestId request)) := by
  simp only [buildConnectorMeta, hs]
  cases SchedulerSide.buildRequestMetadata c.stateManager (extractRequestId request) <;> rfl

/-- What the worker side's cleanup answers; without a worker side there is none. -/
def cleanup (c : Connector α) (rid : ReqId) : Py Unit :=
  match c.workerSide with
  | none => .ok ()
  | some w => (w.requestFinished rid).2

/-- **The end of a request**, whether the cleanup raises or not. -/
theorem requestFinished_eq (c : Connector α) (rid : ReqId) :
    c.requestFinished rid =
      ({ c.forget rid with
          workerSide := c.workerSide.map (fun w => (w.requestFinished rid).1)
          finishedRequests := match c.cleanup rid with
            | .ok () => c.finishedRequests ++ [rid]
            | .error _ => c.finishedRequests }, c.cleanup rid) := by
  simp only [requestFinished, forget, cleanup]
  cases hw : c.workerSide with
  | none => rfl
  | some w =>
    dsimp only
    cases (w.requestFinished rid).2 <;> rfl

/-- `request_finished` records the id and returns if the worker side's cleanup does not raise. -/
theorem requestFinished_ok {rid : ReqId}
    (h : ∀ w, c.workerSide = some w → (w.requestFinished rid).2 = .ok ()) :
    c.requestFinished rid =
      ({ c.forget rid with
          workerSide := c.workerSide.map (fun w => (w.requestFinished rid).1)
          finishedRequests := c.finishedRequests ++ [rid] }, .ok ()) := by
  simp only [requestFinished, forget]
  cases hw : c.workerSide with
  | none => rfl
  | some w => simp only [h w hw, Option.map_some]

/-- An exception of the cleanup goes on, and the id is not recorded. -/
theorem requestFinished_error {rid : ReqId} {w : WorkerSide α} {e : Exc} (hw : c.workerSide = some w)
    (he : (w.requestFinished rid).2 = .error e) :
    c.requestFinished rid =
      ({ c.forget rid with workerSide := some (w.requestFinished rid).1 }, .error e) := by
  simp only [requestFinished, forget, hw, he]

/-- **Which fetch a load makes**: one, for the critical object of the request's pending metadata. -/
theorem startLoadKv_fetches (requestId : Option ReqId) (env : LoadEnv) :
    (c.startLoadKv fo requestId env).fetches = c.fetches ++
      (if c.workerSide.isNone ∨ requestId.getD "" = "" then []
        else (c.pendingMetadata.get? (requestId.getD "")).toList.map
          (fun md => ⟨.critical, md.criticalObjectId, md.requestId⟩)) := by
  unfold startLoadKv fetches
  cases hw : c.workerSide with
  | none => simp [hw]
  | some w =>
    by_cases hr : requestId.getD "" = ""
    · simp [hr, hw]
    · cases hp : c.pendingMetadata.get? (requestId.getD "") with
      | none => simp [hr, hp, hw]
      | some md => simp [hr, hp, WorkerSide.startLoadKv_fetches]

end Connector

/-! ## Inversion -/

section Inversion

variable {α : Type} (sha256Hex : String → String) (fo : FloatOps) (cfg : DeadlineKVConfig) (role : String)

/-- **What a call can do**: the connector after it, and its answer. -/
inductive ConnectorStep (c : Connector α) : ConnectorOp α → Connector α → ConnectorAnswer → Prop
  | queried (side : SchedulerSide) (request : Request) (n : ℤ) (env : QueryEnv)
      (hs : c.schedulerSide = some side) :
      ConnectorStep c (.getNumNewMatchedTokens request n env)
        { c with stateManager := (side.prepareRequestState sha256Hex c.stateManager request n env).1 }
        (.tokens (match (side.prepareRequestState sha256Hex c.stateManager request n env).2 with
          | .ok answer => answer
          | .error _ => (0, false)))
  | allocated (request : Request) (out : SchedulerOutput) (blocks : List ℤ) :
      ConnectorStep c (.updateStateAfterAlloc request out)
        { c with stateManager :=
            SchedulerSide.bindAllocatedBlocks c.stateManager (extractRequestId request) blocks } .done
  | built (request : Request) (md : DeadlineConnectorMetadata)
      (hb : SchedulerSide.buildRequestMetadata c.stateManager (extractRequestId request) = some md) :
      ConnectorStep c (.buildConnectorMeta request)
        { c with pendingMetadata := c.pendingMetadata.insert (extractRequestId request) md }
        (.metadata (some md))
  | reported (rid : ReqId) (result : WorkerLoadResult) :
      ConnectorStep c (.updateConnectorOutput rid (some result))
        { c with workerResults := c.workerResults.insert rid result } .done
  | finished (rid : ReqId) (hw : ∀ w, c.workerSide = some w → (w.requestFinished rid).2 = .ok ()) :
      ConnectorStep c (.requestFinished rid)
        { c.forget rid with
          workerSide := c.workerSide.map (fun w => (w.requestFinished rid).1)
          finishedRequests := c.finishedRequests ++ [rid] } .done
  | finishRaised (rid : ReqId) (w : WorkerSide α) (e : Exc) (hw : c.workerSide = some w)
      (he : (w.requestFinished rid).2 = .error e) :
      ConnectorStep c (.requestFinished rid)
        { c.forget rid with workerSide := some (w.requestFinished rid).1 } (.raised e)
  | taken : ConnectorStep c .getFinished { c with finishedRequests := [] } (.finished c.finishedRequests)
  | loaded (rid : ReqId) (env : LoadEnv) (w : WorkerSide α) (md : DeadlineConnectorMetadata)
      (hw : c.workerSide = some w) (hmd : c.pendingMetadata.get? rid = some md) :
      ConnectorStep c (.startLoadKv (some rid) env)
        { c with workerSide := some (w.startLoadKv c.config fo md env).1 } .done
  | saved (layerName : String) (kvLayer : Tensor α) (attn : Option AttnMetadata) (rid : ReqId)
      (w : WorkerSide α) (hw : c.workerSide = some w) :
      ConnectorStep c (.saveKvLayer layerName kvLayer attn (some rid))
        { c with workerSide := some (w.saveKvLayer c.config layerName kvLayer attn rid) } .done
  | refinementStarted (rid : ReqId) (k : ℕ) :
      ConnectorStep c (.refinementStarts rid k)
        { c with workerSide := c.workerSide.map (fun w => w.refinementStarts rid k) } .done
  | refinementEnded (rid : ReqId) (k : ℕ) (reply : Option Bytes) :
      ConnectorStep c (.refinementEnds rid k reply)
        { c with workerSide := c.workerSide.map (fun w => w.refinementEnds rid k) } .done
  | kept (op : ConnectorOp α) (answer : ConnectorAnswer)
      (hq : ∀ request n env, op = .getNumNewMatchedTokens request n env → c.schedulerSide = none)
      (hf : ∀ rid, op ≠ .requestFinished rid) (hg : op ≠ .getFinished) : ConnectorStep c op c answer

/-- **Every call is such a step.** -/
theorem connectorStep (c : Connector α) (op : ConnectorOp α) :
    ConnectorStep sha256Hex fo c op ((connectorMachine α sha256Hex fo cfg role).step c op).1
      ((connectorMachine α sha256Hex fo cfg role).step c op).2 := by
  cases op with
  | getNumNewMatchedTokens request n env =>
    cases hs : c.schedulerSide with
    | none =>
      simp only [connectorMachine, Connector.getNumNewMatchedTokens, hs]
      exact .kept _ _ (fun _ _ _ _ => hs) (by simp) (by simp)
    | some side =>
      simp only [connectorMachine, Connector.getNum_spec hs]
      exact .queried side request n env hs
  | updateStateAfterAlloc request out =>
    simp only [connectorMachine, Connector.updateStateAfterAlloc]
    split
    · exact .kept _ _ (by simp) (by simp) (by simp)
    · split
      · exact .kept _ _ (by simp) (by simp) (by simp)
      · exact .allocated request out _
  | buildConnectorMeta request =>
    cases hs : c.schedulerSide with
    | none =>
      simp only [connectorMachine, Connector.buildConnectorMeta, hs]
      exact .kept _ _ (by simp) (by simp) (by simp)
    | some side =>
      simp only [connectorMachine, Connector.buildConnectorMeta_spec hs]
      cases hb : SchedulerSide.buildRequestMetadata c.stateManager (extractRequestId request) with
      | none => exact .kept _ _ (by simp) (by simp) (by simp)
      | some md => exact .built request md hb
  | updateConnectorOutput rid result =>
    cases result with
    | none => exact .kept _ _ (by simp) (by simp) (by simp)
    | some r => exact .reported rid r
  | requestFinished rid =>
    simp only [connectorMachine]
    by_cases h : ∀ w, c.workerSide = some w → (w.requestFinished rid).2 = .ok ()
    · rw [Connector.requestFinished_ok h]
      exact .finished rid h
    · push Not at h
      obtain ⟨w, hw, hne⟩ := h
      cases he : (w.requestFinished rid).2 with
      | ok u => exact absurd he hne
      | error e =>
        rw [Connector.requestFinished_error hw he]
        exact .finishRaised rid w e hw he
  | takeEvents => exact .kept _ _ (by simp) (by simp) (by simp)
  | getFinished => exact .taken
  | startLoadKv requestId env =>
    simp only [connectorMachine, Connector.startLoadKv]
    cases hw : c.workerSide with
    | none => exact .kept _ _ (by simp) (by simp) (by simp)
    | some w =>
      cases requestId with
      | none => exact .kept _ _ (by simp) (by simp) (by simp)
      | some rid =>
        rw [Option.getD_some]
        split_ifs
        · exact .kept _ _ (by simp) (by simp) (by simp)
        · cases hmd : c.pendingMetadata.get? rid with
          | none => exact .kept _ _ (by simp) (by simp) (by simp)
          | some md => exact .loaded rid env w md hw hmd
  | waitForLayerLoad layerName => exact .kept _ _ (by simp) (by simp) (by simp)
  | saveKvLayer layerName kvLayer attn requestId =>
    simp only [connectorMachine, Connector.saveKvLayer]
    cases hw : c.workerSide with
    | none => exact .kept _ _ (by simp) (by simp) (by simp)
    | some w =>
      cases requestId with
      | none => exact .kept _ _ (by simp) (by simp) (by simp)
      | some rid =>
        rw [Option.getD_some]
        split_ifs
        · exact .kept _ _ (by simp) (by simp) (by simp)
        · exact .saved layerName kvLayer attn rid w hw
  | waitForSave => exact .kept _ _ (by simp) (by simp) (by simp)
  | refinementStarts rid k => exact .refinementStarted rid k
  | refinementEnds rid k reply => exact .refinementEnded rid k reply

end Inversion

end AwareKV
