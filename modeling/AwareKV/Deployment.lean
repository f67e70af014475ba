import AwareKV.Connector
import AwareKV.PrefixReuse
import AwareKV.Transit

/-!
# AwareKV.Deployment — manifest service, data server and connectors together

Connectors with their own configurations share a manifest service and a data server, which also have
other clients.  What a connector asks for goes to the services over a link on which requests and replies
can be lost, payloads can be altered and the server's files can fail; calls are atomic and happen in any
order.  The environment that the connector's model takes as an input is here what the services answer.

* `index_run`, `files_run`, `connector_run`: each party makes a run of its own.
* `connectors_read_only`: connectors change no object, and no manifest that others find.
-/

namespace AwareKV

/-! ## The parties -/

/-- What a deployment is set up with: the digests, the arithmetic and the interpreter, the connectors,
and the data server's directories with the files that are there at the start. -/
structure Setup (κ : Type) where
  sha256Hex : String → String
  floats : FloatOps
  runtime : Runtime
  config : κ → DeadlineKVConfig
  role : κ → String
  backend : LocalDiskBackend
  files : Files backend.dirs

/-- The state of all parties. -/
structure Deployment (α : Type) {κ : Type} (setup : Setup κ) where
  index : MemoryIndex
  files : Files setup.backend.dirs
  connectors : κ → Connector α

/-- The link of one call: whether the service receives the request, whether its reply comes back, the
clock of the manifest service, and the faults and alterations of an exchange with the data server. -/
structure Link where
  received : Bool := true
  answered : Bool := true
  now : ℤ := 0
  faults : IoFaults := {}
  alteration : Alteration := .none

namespace Connector

variable {α : Type} (c : Connector α)

/-- The scheduler side that asks the manifest service about the request, if one does. -/
def asking (request : Request) : Option SchedulerSide :=
  c.schedulerSide.filter (fun side => ¬ side.Rejects request ∧
    SchedulerSide.cachedState c.stateManager (extractRequestId request) = none)

/-- The metadata that `start_load_kv` loads, if it loads. -/
def loading (requestId : Option ReqId) : Option DeadlineConnectorMetadata :=
  if c.workerSide.isNone ∨ requestId.getD "" = "" then none
  else c.pendingMetadata.get? (requestId.getD "")

/-- The metadata of the refinement thread that ends, if it is running. -/
def refining (rid : ReqId) (k : ℕ) : Option DeadlineConnectorMetadata :=
  c.workerSide.bind (fun w => w.futureIn .running rid k)

end Connector

/-- `DataClient._get` for a fetch of one of the channels, as an exchange. -/
def Link.get (link : Link) (f : Fetch) : Exchange :=
  ⟨.get (pyStr f.objectId) f.tier (pyStr f.requestId), link.faults, link.alteration⟩

/-- `DataClient.get_critical` for a load. -/
def Link.criticalGet (link : Link) (md : DeadlineConnectorMetadata) : Exchange :=
  link.get ⟨.critical, md.criticalObjectId, md.requestId⟩

/-- `DataClient.get_refinement` for a refinement thread. -/
def Link.refinementGet (link : Link) (rid : ReqId) (md : DeadlineConnectorMetadata) : Exchange :=
  link.get ⟨.refinement, md.refinementObjectId.getD "", rid⟩

namespace Deployment

variable {α κ : Type} {setup : Setup κ} (d : Deployment α setup)

/-- What the manifest service receives of a call. -/
def queries (i : κ) (link : Link) : ConnectorOp α → List ServiceOp
  | .getNumNewMatchedTokens request _ _ =>
    if link.received then
      ((d.connectors i).asking request).toList.map
        (fun side => .query (side.prefixKeyOf setup.sha256Hex request) link.now)
    else []
  | _ => []

/-- What the data server receives of a call. -/
def gets (i : κ) (link : Link) : ConnectorOp α → List Exchange
  | .startLoadKv requestId _ =>
    if link.received then ((d.connectors i).loading requestId).toList.map link.criticalGet else []
  | .refinementEnds rid k _ =>
    if link.received then ((d.connectors i).refining rid k).toList.map (link.refinementGet rid) else []
  | _ => []

/-- At most one query. -/
theorem queries_cases (i : κ) (link : Link) (op : ConnectorOp α) :
    d.queries i link op = [] ∨ ∃ side request n env, op = .getNumNewMatchedTokens request n env ∧
      (d.connectors i).asking request = some side ∧
      d.queries i link op = [.query (side.prefixKeyOf setup.sha256Hex request) link.now] := by
  cases op with
  | getNumNewMatchedTokens request n env =>
    cases hr : link.received with
    | false => exact Or.inl (by simp [queries, hr])
    | true =>
      cases hs : (d.connectors i).asking request with
      | none => exact Or.inl (by simp [queries, hr, hs])
      | some side => exact Or.inr ⟨side, request, n, env, rfl, hs, by simp [queries, hr, hs]⟩
  | _ => exact Or.inl rfl

/-- At most one GET. -/
theorem gets_cases (i : κ) (link : Link) (op : ConnectorOp α) :
    d.gets i link op = [] ∨ ∃ f, d.gets i link op = [link.get f] := by
  cases op with
  | startLoadKv requestId env =>
    cases hr : link.received with
    | false => exact Or.inl (by simp [gets, hr])
    | true =>
      cases hmd : (d.connectors i).loading requestId with
      | none => exact Or.inl (by simp [gets, hr, hmd])
      | some md =>
        exact Or.inr ⟨⟨.critical, md.criticalObjectId, md.requestId⟩, by simp [gets, hr, hmd, Link.criticalGet]⟩
  | refinementEnds rid k reply =>
    cases hr : link.received with
    | false => exact Or.inl (by simp [gets, hr])
    | true =>
      cases hmd : (d.connectors i).refining rid k with
      | none => exact Or.inl (by simp [gets, hr, hmd])
      | some md =>
        exact Or.inr ⟨⟨.refinement, md.refinementObjectId.getD "", rid⟩,
          by simp [gets, hr, hmd, Link.refinementGet]⟩
  | _ => exact Or.inl rfl

/-- The answer to a query that arrives at the connector. -/
def manifestAnswer (side : SchedulerSide) (request : Request) (link : Link) : ManifestAnswer :=
  if link.received ∧ link.answered then
    routeAnswer (queryRoute d.index (side.prefixKeyOf setup.sha256Hex request) link.now).2
  else .timeout

/-- What `DataClient._get` returns when it is sent as this exchange. -/
def reply (x : Exchange) (link : Link) : Option Bytes :=
  if link.received ∧ link.answered then
    DataClient.getResult setup.runtime ((x.serve setup.runtime setup.backend d.files).2.map x.onReply)
  else none

/-- What `DataClient.get_critical` returns for the load of `md`. -/
def criticalReply (md : DeadlineConnectorMetadata) (link : Link) : Option Bytes :=
  d.reply (link.criticalGet md) link

/-- What `DataClient.get_refinement` returns to the thread that refines the load of `md`. -/
def refinementReply (rid : ReqId) (md : DeadlineConnectorMetadata) (link : Link) : Option Bytes :=
  d.reply (link.refinementGet rid md) link

/-- A call with the environment that the services make. -/
def resolve (i : κ) (link : Link) : ConnectorOp α → ConnectorOp α
  | .getNumNewMatchedTokens request n env =>
    .getNumNewMatchedTokens request n
      (((d.connectors i).asking request).elim env
        (fun side => { env with answer := d.manifestAnswer side request link }))
  | .startLoadKv requestId env =>
    .startLoadKv requestId
      (((d.connectors i).loading requestId).elim env
        (fun md => { env with reply := d.criticalReply md link }))
  | .refinementEnds rid k reply =>
    .refinementEnds rid k
      (((d.connectors i).refining rid k).elim reply (fun md => d.refinementReply rid md link))
  | op => op

end Deployment

/-! ## Runs -/

/-- A request of another client to the manifest service or the data server, or a call of a connector. -/
inductive DeploymentOp (α κ : Type)
  | manifest (op : ServiceOp)
  | data (x : Exchange)
  | call (i : κ) (link : Link) (op : ConnectorOp α)

/-- The answers. -/
inductive DeploymentAnswer
  | manifest (a : ServiceAnswer)
  | data (a : DataAnswer)
  | call (a : ConnectorAnswer)
  deriving DecidableEq

section Runs

variable {κ : Type} [DecidableEq κ] (α : Type) (setup : Setup κ)

/-- Connector `i` on its own. -/
abbrev Setup.connector (i : κ) : Machine (Connector α) (ConnectorOp α) ConnectorAnswer :=
  connectorMachine α setup.sha256Hex setup.floats (setup.config i) (setup.role i)

/-- The data server on its own. -/
abbrev Setup.dataServer : Machine (Files setup.backend.dirs) Exchange DataAnswer :=
  transitService setup.runtime setup.backend setup.files

/-- The deployment as a machine. -/
def deploymentMachine : Machine (Deployment α setup) (DeploymentOp α κ) DeploymentAnswer where
  init := ⟨⟨.empty⟩, setup.files, fun i => .start α setup.floats (setup.config i) (setup.role i)⟩
  step d
    | .manifest op =>
      ({ d with index := (manifestService.step d.index op).1 }, .manifest (manifestService.step d.index op).2)
    | .data x =>
      ({ d with files := (setup.dataServer.step d.files x).1 }, .data (setup.dataServer.step d.files x).2)
    | .call i link op =>
      let r := (setup.connector α i).step (d.connectors i) (d.resolve i link op)
      ({ index := manifestService.execFrom d.index (d.queries i link op)
         files := setup.dataServer.execFrom d.files (d.gets i link op)
         connectors := Function.update d.connectors i r.1 }, .call r.2)

variable {α setup}

/-- What the manifest service receives in a step. -/
def Deployment.serviceOps (d : Deployment α setup) : DeploymentOp α κ → List ServiceOp
  | .manifest op => [op]
  | .data _ => []
  | .call i link op => d.queries i link op

/-- What the data server receives in a step. -/
def Deployment.exchanges (d : Deployment α setup) : DeploymentOp α κ → List Exchange
  | .manifest _ => []
  | .data x => [x]
  | .call i link op => d.gets i link op

/-- The calls of connector `i` in a step. -/
def Deployment.callsOf (i : κ) (d : Deployment α setup) : DeploymentOp α κ → List (ConnectorOp α)
  | .call j link op => if j = i then [d.resolve j link op] else []
  | _ => []

/-- **The manifest service makes a run of its own**, on what it receives. -/
theorem index_run (ops : List (DeploymentOp α κ)) :
    ((deploymentMachine α setup).exec ops).index =
      manifestService.exec ((deploymentMachine α setup).notes Deployment.serviceOps ops) := by
  refine (deploymentMachine α setup).projection Deployment.index Deployment.serviceOps rfl ?_ ops
  intro d op
  cases op <;> rfl

/-- **The data server makes a run of its own.** -/
theorem files_run (ops : List (DeploymentOp α κ)) :
    ((deploymentMachine α setup).exec ops).files =
      setup.dataServer.exec ((deploymentMachine α setup).notes Deployment.exchanges ops) := by
  refine (deploymentMachine α setup).projection Deployment.files Deployment.exchanges rfl ?_ ops
  intro d op
  cases op <;> rfl

/-- A step is for a connector what its calls in it are. -/
theorem callsOf_step (i : κ) (d : Deployment α setup) (op : DeploymentOp α κ) :
    ((deploymentMachine α setup).step d op).1.connectors i =
      (setup.connector α i).execFrom (d.connectors i) (d.callsOf i op) := by
  cases op with
  | manifest op => rfl
  | data x => rfl
  | call j link op =>
    have hcalls : d.callsOf i (.call j link op) = if j = i then [d.resolve j link op] else [] := rfl
    show Function.update d.connectors j _ i = _
    rw [hcalls]
    by_cases hj : j = i
    · subst hj
      rw [Function.update_self, if_pos rfl]
      rfl
    · rw [Function.update_of_ne (Ne.symm hj), if_neg hj]
      rfl

/-- **Every connector makes a run of its own.** -/
theorem connector_run (i : κ) (ops : List (DeploymentOp α κ)) :
    ((deploymentMachine α setup).exec ops).connectors i =
      (setup.connector α i).exec ((deploymentMachine α setup).notes (Deployment.callsOf i) ops) :=
  (deploymentMachine α setup).projection (fun d => d.connectors i) (Deployment.callsOf i) rfl (callsOf_step i) ops

/-! ## Connectors only read -/

/-- The requests of the manifest service's other clients. -/
def DeploymentOp.posted : DeploymentOp α κ → Option ServiceOp
  | .manifest op => some op
  | _ => none

/-- The exchanges of the data server's other clients. -/
def DeploymentOp.sent : DeploymentOp α κ → Option Exchange
  | .data x => some x
  | _ => none

omit [DecidableEq κ] in
/-- A connector's GET changes no file. -/
theorem serve_linkGet (link : Link) (f : Fetch) (files : Files setup.backend.dirs) :
    ((link.get f).serve setup.runtime setup.backend files).1 = files := by
  by_cases hfits : FrameFits ((link.get f).op.header setup.runtime) (link.get f).op.payload
  · exact held_get hfits rfl files
  · rw [serve_unsent hfits]

/-- The files after a step are those after the clients' exchanges in it. -/
theorem files_step (d : Deployment α setup) (op : DeploymentOp α κ) :
    ((deploymentMachine α setup).step d op).1.files = setup.dataServer.execFrom d.files op.sent.toList := by
  cases op with
  | manifest op => rfl
  | data x => rfl
  | call i link op =>
    show setup.dataServer.execFrom d.files (d.gets i link op) = d.files
    rcases d.gets_cases i link op with hnone | ⟨f, hget⟩
    · rw [hnone]
      rfl
    · rw [hget]
      exact serve_linkGet link f d.files

omit [DecidableEq κ] in
/-- The connectors' queries write no manifest. -/
theorem serviceOps_written (d : Deployment α setup) (op : DeploymentOp α κ) (k : String)
    (acc : Option PrefixManifest) :
    ((d.serviceOps op).flatMap ServiceOp.calls).foldl (lastWrite k) acc =
      (op.posted.toList.flatMap ServiceOp.calls).foldl (lastWrite k) acc := by
  cases op with
  | manifest op => rfl
  | data x => rfl
  | call i link op =>
    show ((d.queries i link op).flatMap ServiceOp.calls).foldl (lastWrite k) acc = acc
    rcases d.queries_cases i link op with hnone | ⟨side, request, n, env, -, -, hquery⟩
    · rw [hnone]
      rfl
    · rw [hquery]
      rfl

/-- The last manifest under a key is the last one that a client posted. -/
theorem lastManifest_posted (ops : List (DeploymentOp α κ)) (k : String) :
    lastManifest (((deploymentMachine α setup).notes Deployment.serviceOps ops).flatMap ServiceOp.calls) k =
      lastManifest ((ops.filterMap DeploymentOp.posted).flatMap ServiceOp.calls) k := by
  induction ops using List.reverseRecOn with
  | nil => rfl
  | append_singleton ops op ih =>
    have hlast : [op].filterMap DeploymentOp.posted = op.posted.toList := by
      cases hop : op.posted <;> simp [hop]
    rw [Machine.notes_snoc, List.filterMap_append, hlast, List.flatMap_append, List.flatMap_append,
      lastManifest, List.foldl_append, serviceOps_written, lastManifest, List.foldl_append]
    exact congrArg (fun acc => (op.posted.toList.flatMap ServiceOp.calls).foldl (lastWrite k) acc) ih

/-- The clock of the manifest service during a step. -/
def DeploymentOp.now : DeploymentOp α κ → Option ℤ
  | .manifest op => op.now
  | .data _ => none
  | .call _ link _ => some link.now

omit [DecidableEq κ] in
theorem now_of_serviceOps {d : Deployment α setup} {op : DeploymentOp α κ} {sop : ServiceOp}
    (h : sop ∈ d.serviceOps op) {s : ℤ} (hs : sop.now = some s) : op.now = some s := by
  cases op with
  | manifest op =>
    rw [List.mem_singleton.mp h] at hs
    exact hs
  | data x => cases h
  | call i link op =>
    have h : sop ∈ d.queries i link op := h
    rcases d.queries_cases i link op with hnone | ⟨side, request, n, env, -, -, hquery⟩
    · rw [hnone] at h
      cases h
    · rw [hquery, List.mem_singleton] at h
      subst h
      exact hs

/-- Requests at times up to `t` leave the last writes, but for manifests that have expired at `t`. -/
theorem represents_service {sops : List ServiceOp} {t : ℤ} (h : ∀ sop ∈ sops, ∀ s ∈ sop.now, s ≤ t) :
    Represents (manifestService.exec sops) (lastManifest (sops.flatMap ServiceOp.calls)) t := by
  rw [service_exec]
  refine represents_exec _ t fun call hcall r hr => ?_
  obtain ⟨sop, hsop, hin⟩ := List.mem_flatMap.mp hcall
  exact h sop hsop r (reads_calls hin hr)

/-- **The index holds what the other clients posted**, but for manifests that have expired at `t`. -/
theorem represents_run {ops : List (DeploymentOp α κ)} {t : ℤ} (h : ∀ op ∈ ops, ∀ s ∈ op.now, s ≤ t) :
    Represents ((deploymentMachine α setup).exec ops).index
      (lastManifest ((ops.filterMap DeploymentOp.posted).flatMap ServiceOp.calls)) t := by
  have hlast : lastManifest
      (((deploymentMachine α setup).notes Deployment.serviceOps ops).flatMap ServiceOp.calls) =
        lastManifest ((ops.filterMap DeploymentOp.posted).flatMap ServiceOp.calls) :=
    funext (lastManifest_posted ops)
  rw [index_run, ← hlast]
  refine represents_service fun sop hsop s hs => ?_
  obtain ⟨pre, op, post, rfl, hin⟩ := (Machine.mem_notes _).mp hsop
  exact h op (by simp) s (now_of_serviceOps hin hs)

/-- What a query finds does not depend on when the manifest was last asked for. -/
theorem manifestQuery_untouched (ix : MemoryIndex) (k : String) (t : ℤ) :
    (manifestQuery ix k t).2 = ((ix.get k t).2.map PrefixManifest.untouched).map
      (fun m => { m with lastAccessMs := t, objectFormatVersion := "v1" }) := by
  rw [manifestQuery_snd, Option.map_map]
  rfl

/-- The files are those that the clients' exchanges leave. -/
theorem clients_files (ops : List (DeploymentOp α κ)) :
    ((deploymentMachine α setup).exec ops).files = setup.dataServer.exec (ops.filterMap DeploymentOp.sent) := by
  induction ops using List.reverseRecOn with
  | nil => rfl
  | append_singleton ops op ih =>
    have hsent : [op].filterMap DeploymentOp.sent = op.sent.toList := by
      cases hop : op.sent <;> simp [hop]
    rw [Machine.exec_snoc, files_step, ih, List.filterMap_append, hsent]
    exact (setup.dataServer.execFrom_append _ _ _).symm

/-- A query at the end of a run finds what it would find if the service had only had its other clients. -/
theorem clients_query {ops : List (DeploymentOp α κ)} {t : ℤ} (hclock : ∀ op ∈ ops, ∀ s ∈ op.now, s ≤ t)
    (k : String) :
    (manifestQuery ((deploymentMachine α setup).exec ops).index k t).2 =
      (manifestQuery (manifestService.exec (ops.filterMap DeploymentOp.posted)) k t).2 := by
  have hown : ∀ sop ∈ ops.filterMap DeploymentOp.posted, ∀ s ∈ sop.now, s ≤ t := by
    intro sop hsop s hs
    obtain ⟨op, hop, hpost⟩ := List.mem_filterMap.mp hsop
    refine hclock op hop s ?_
    cases op with
    | manifest op' =>
      cases hpost
      exact hs
    | data x => cases hpost
    | call i link op' => cases hpost
  rw [manifestQuery_untouched, (represents_run hclock).get k, ← (represents_service hown).get k,
    ← manifestQuery_untouched]

/-- **Connectors only read**: in every run the files are those that the data server's other clients
leave on their own, and from the end of the run on a query finds what it would find if the manifest
service had only had its other clients. -/
theorem connectors_read_only (ops : List (DeploymentOp α κ)) (t : ℤ)
    (hclock : ∀ op ∈ ops, ∀ s ∈ op.now, s ≤ t) :
    ((deploymentMachine α setup).exec ops).files = setup.dataServer.exec (ops.filterMap DeploymentOp.sent) ∧
      ∀ k, (manifestQuery ((deploymentMachine α setup).exec ops).index k t).2 =
        (manifestQuery (manifestService.exec (ops.filterMap DeploymentOp.posted)) k t).2 :=
  ⟨clients_files ops, clients_query hclock⟩

end Runs

/-! ## One connector -/

/-- The prefix of one token that the small deployment is about. -/
def soloArgs : PrefixKeyArgs :=
  { modelId := "m", tokenizerId := "t", kvLayoutVersion := "v1-block-first", cacheDtype := "float16",
    blockSize := 1, promptTokenIds := [7], matchedPrefixLen := 1 }

/-- A text of its own for each text: the code of each character. -/
def codesDigest (text : String) : String :=
  String.ofList ('x' :: (text.toList.flatMap (fun c => (toString (c.toNat : ℤ)).toList ++ ['.']) ++ [';']))

/-- Short digests for the prefix and its object. -/
def soloDigest (text : String) : String :=
  if text = soloArgs.text then "k" else if text = "k:critical:fp16_raw:v1" then "o" else codesDigest text

/-- One connector, with one element for each token and block. -/
def soloSetup : Setup Unit where
  sha256Hex := soloDigest
  floats := default
  runtime := distinctRuntime
  config _ := { modelId := "m", tokenizerId := "t", blockSize := 1, numKvHeads := some 1, headSize := some 1,
                planner := { minPrefixTokens := 1 } }
  role _ := "kv_both"
  backend := exampleBackend
  files := .empty

/-- The manifest of the prefix. -/
def soloManifest : ManifestPutRequest :=
  { prefixKey := "k", modelId := "m", tokenizerId := "t", kvLayoutVersion := "v1-block-first", blockSize := 1,
    cacheDtype := "float16", matchedTokens := 1, matchedBlocks := [0], numLayers := 1, ttlS := 3600,
    criticalCodec := "fp16_raw", criticalNbytes := 2, criticalObjectId := "o", refinementCodec := none,
    refinementNbytes := none, refinementObjectId := none, qualityMode := "", checksum := "" }

/-- A request whose prompt is the prefix. -/
def soloPrompt : Request := { requestId := some "r", promptTokenIds := some [7] }

/-- The object is PUT and its manifest is posted; the connector is asked about the request and loads. -/
def soloRun : List (DeploymentOp Half Unit) :=
  [.data ⟨.put (pyStr "o") [1, 0] .critical (pyStr "fp16_raw") [], {}, .none⟩,
    .manifest (.put (saverBody soloManifest (.str "v1") "r") 0),
    .call () {} (.getNumNewMatchedTokens soloPrompt 0 SchedulerSide.startEnv),
    .call () {} (.buildConnectorMeta soloPrompt),
    .call () {} (.startLoadKv (some "r") { reply := none })]

/-- The manifest of the prefix with a refinement. -/
def refinedManifest : ManifestPutRequest :=
  { soloManifest with refinementCodec := some "fp16_raw", refinementNbytes := some 2, refinementObjectId := some "f" }

/-- The request loads twice, which replaces its future, and is finished, which cancels the second one; then the
thread of the first one starts and ends. -/
def refinedRun : List (DeploymentOp Half Unit) :=
  [.data ⟨.put (pyStr "o") [1, 0] .critical (pyStr "fp16_raw") [], {}, .none⟩,
    .data ⟨.put (pyStr "f") [2, 0] .refinement (pyStr "fp16_raw") [], {}, .none⟩,
    .manifest (.put (saverBody refinedManifest (.str "v1") "r") 0),
    .call () {} (.getNumNewMatchedTokens soloPrompt 0 SchedulerSide.startEnv),
    .call () {} (.buildConnectorMeta soloPrompt),
    .call () {} (.startLoadKv (some "r") { reply := none }),
    .call () {} (.startLoadKv (some "r") { reply := none }),
    .call () {} (.requestFinished "r"),
    .call () {} (.refinementStarts "r" 1),
    .call () {} (.refinementStarts "r" 0),
    .call () {} (.refinementEnds "r" 0 none)]

/-- The connector loads twice, and the replaced future of the finished request reads the refinement. -/
theorem connectors_read_only_refined :
    (((deploymentMachine Half soloSetup).exec refinedRun).connectors ()).fetches =
        [⟨.critical, "o", "r"⟩, ⟨.critical, "o", "r"⟩, ⟨.refinement, "f", "r"⟩] ∧
      ((deploymentMachine Half soloSetup).exec refinedRun).files =
        soloSetup.dataServer.exec (refinedRun.filterMap DeploymentOp.sent) ∧
      ∀ k, (manifestQuery ((deploymentMachine Half soloSetup).exec refinedRun).index k 1000).2 =
        (manifestQuery (manifestService.exec (refinedRun.filterMap DeploymentOp.posted)) k 1000).2 :=
  ⟨by decide +kernel,
    connectors_read_only refinedRun 1000 (by simp [refinedRun, DeploymentOp.now, ServiceOp.now])⟩

end AwareKV
