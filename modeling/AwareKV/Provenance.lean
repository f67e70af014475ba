import AwareKV.Deployment
import AwareKV.KeyText
import AwareKV.Pending
import AwareKV.Serving

/-!
# AwareKV.Provenance — where the layers of a forward pass come from

In any run of a deployment, each thing that a party holds was born in a step of the run: a manifest was
posted, a planned state was found in the index, metadata was built from a planned state, layers were
decoded from a file under pending metadata.  The provenance rule gives the step, and the steps before it
in turn: `Posted`, `Found`, `Built` and `Loaded` are the links of this chain.

* `pending_built`, `fetched_built`: what a connector has pending, and what it asks the data server for.
* `served_layer_loaded`: the chain of a layer that `wait_for_layer_load` returns.
* `served_layer_same_prefix`: such a layer was stored for a manifest of the connector's own model and
  of the prompt's own tokens, unless digests collide.
-/

namespace AwareKV

variable {α κ : Type} [DecidableEq κ] {setup : Setup κ}

/-! ## Links of the chain -/

/-- In the run `ops` the manifest was posted, up to its last access. -/
def Posted (ops : List (DeploymentOp α κ)) (m : PrefixManifest) : Prop :=
  ∃ pre body now req post, ops = pre ++ .manifest (.put body now) :: post ∧
    parseManifestPut body = some req ∧ m.untouched = (manifestOfPut req now).untouched

/-- The scheduler side of connector `i`, if it has one. -/
def Setup.side (setup : Setup κ) (i : κ) : SchedulerSide :=
  sideOf setup.floats (setup.config i)

/-- In the run `ops` connector `i` asked about a request `rid` with this prefix key, and found the
manifest under it. -/
def Found (setup : Setup κ) (ops : List (DeploymentOp α κ)) (i : κ) (rid : ReqId) (request : Request)
    (m : PrefixManifest) : Prop :=
  ∃ pre link n env post, ops = pre ++ .call i link (.getNumNewMatchedTokens request n env) :: post ∧
    extractRequestId request = rid ∧
    m.prefixKey = (setup.side i).prefixKeyOf setup.sha256Hex request ∧ Posted pre m

/-- The metadata is that of the manifest: what to load, how it is coded, and under which key. -/
structure Carries (md : DeadlineConnectorMetadata) (rid : ReqId) (m : PrefixManifest) : Prop where
  requestId : md.requestId = rid
  prefixKey : md.prefixKey = some m.prefixKey
  matchedTokens : md.matchedTokens = m.matchedTokens
  matchedBlocks : md.matchedBlocks = m.matchedBlocks
  numLayers : md.numLayers = m.numLayers
  criticalObjectId : md.criticalObjectId = m.criticalObjectId
  criticalCodec : md.criticalCodec = m.criticalCodec
  refinementObjectId : md.refinementObjectId = m.refinementObjectId ∨ md.refinementObjectId = none

/-- In the run `ops` connector `i` built this metadata of `rid` from the manifest that it had found. -/
def Built (setup : Setup κ) (ops : List (DeploymentOp α κ)) (i : κ) (rid : ReqId)
    (md : DeadlineConnectorMetadata) (request : Request) (m : PrefixManifest) : Prop :=
  ∃ pre link asked post, ops = pre ++ .call i link (.buildConnectorMeta asked) :: post ∧
    extractRequestId asked = rid ∧ Found setup pre i rid request m ∧ Carries md rid m

section Index

/-! ## Manifests -/

/-- The index has the manifest, up to its last access. -/
def MemoryIndex.Has (ix : MemoryIndex) (x : PrefixManifest) : Prop :=
  ∃ k m, ix.index.get? k = some m ∧ m.untouched = x

theorem MemoryIndex.Has.of_erase {ix : MemoryIndex} {k : String} {x : PrefixManifest}
    (h : MemoryIndex.Has ⟨ix.index.erase k⟩ x) : ix.Has x := by
  obtain ⟨j, m, hm, hx⟩ := h
  exact ⟨j, m, (Dict.get?_erase_eq_some.mp hm).2, hx⟩

theorem MemoryIndex.Has.of_touch {ix : MemoryIndex} {k : String} {now : ℤ} {x : PrefixManifest}
    (h : (ix.touch k now).Has x) : ix.Has x := by
  obtain ⟨j, m, hm, hx⟩ := h
  rw [MemoryIndex.touch, Dict.get?_modify] at hm
  split_ifs at hm
  · obtain ⟨m₀, hm₀, rfl⟩ := Option.map_eq_some_iff.mp hm
    exact ⟨k, m₀, hm₀, hx⟩
  · exact ⟨j, m, hm, hx⟩

theorem MemoryIndex.Has.of_get {ix : MemoryIndex} {k : String} {now : ℤ} {x : PrefixManifest}
    (h : (ix.get k now).1.Has x) : ix.Has x := by
  unfold MemoryIndex.get at h
  cases hget : ix.index.get? k with
  | none => simpa only [hget] using h
  | some m =>
    simp only [hget] at h
    split_ifs at h
    · exact h.of_erase
    · exact h

theorem MemoryIndex.Has.of_put {ix : MemoryIndex} {m x : PrefixManifest} (h : (ix.put m).Has x) :
    ix.Has x ∨ x = m.untouched := by
  obtain ⟨j, m', hm, hx⟩ := h
  rw [MemoryIndex.put, Dict.get?_insert] at hm
  split_ifs at hm
  · cases hm
    exact Or.inr hx.symm
  · exact Or.inl ⟨j, m', hm, hx⟩

/-- A request to the manifest service adds a manifest only by posting it. -/
theorem has_service {ix : MemoryIndex} {sop : ServiceOp} {x : PrefixManifest}
    (h : (manifestService.step ix sop).1.Has x) :
    ix.Has x ∨ ∃ body now req, sop = .put body now ∧ parseManifestPut body = some req ∧
      x = (manifestOfPut req now).untouched := by
  cases sop with
  | query k now =>
    rw [service_step] at h
    exact Or.inl h.of_touch.of_get
  | put body now =>
    have h : (manifestPut ix body now).1.Has x := h
    unfold manifestPut at h
    cases hbody : parseManifestPut body with
    | none =>
      rw [hbody] at h
      exact Or.inl h
    | some req =>
      rw [hbody] at h
      exact h.of_put.imp_right fun hx => ⟨body, now, req, rfl, hbody, hx⟩
  | touch k now => exact Or.inl (MemoryIndex.Has.of_touch h)
  | delete k now =>
    have h : (ix.delete k).1.Has x := h
    rw [MemoryIndex.delete_fst] at h
    exact Or.inl h.of_erase
  | stats now => exact Or.inl h

omit [DecidableEq κ] in
/-- A connector's query adds none. -/
theorem has_queries {d : Deployment α setup} {i : κ} {link : Link} {op : ConnectorOp α} {x : PrefixManifest}
    (h : (manifestService.execFrom d.index (d.queries i link op)).Has x) : d.index.Has x := by
  rcases d.queries_cases i link op with hnone | ⟨side, request, n, env, -, -, hquery⟩
  · rw [hnone] at h
    exact h
  · rw [hquery] at h
    have hstep : (manifestService.step d.index
        (.query (side.prefixKeyOf setup.sha256Hex request) link.now)).1.Has x := h
    refine (has_service hstep).resolve_right ?_
    rintro ⟨body, now, req, hput, -⟩
    cases hput

/-- **Manifests of the index were posted.** -/
theorem has_posted {ops : List (DeploymentOp α κ)} {k : String} {m : PrefixManifest}
    (h : ((deploymentMachine α setup).exec ops).index.index.get? k = some m) : Posted ops m := by
  have hborn := (deploymentMachine α setup).provenance (H := fun d x => d.index.Has x)
    (B := fun _ op x => ∃ body now req, op = .manifest (.put body now) ∧
      parseManifestPut body = some req ∧ x = (manifestOfPut req now).untouched) (by
    rintro pre (sop | y | ⟨i, link, op⟩) x hx
    · refine (has_service hx).imp_right ?_
      rintro ⟨body, now, req, rfl, hbody, hx⟩
      exact ⟨body, now, req, rfl, hbody, hx⟩
    · exact Or.inl hx
    · exact Or.inl (has_queries hx)) ops ⟨k, m, h, rfl⟩
  rcases hborn with ⟨j, m', hm', -⟩ | ⟨pre, op, post, rfl, body, now, req, rfl, hbody, hx⟩
  · cases hm'
  · exact ⟨pre, body, now, req, post, rfl, hbody, hx⟩

/-- Every manifest of the index lies under its own key. -/
theorem filed_run (ops : List (DeploymentOp α κ)) :
    Filed ((deploymentMachine α setup).exec ops).index := by
  rw [index_run]
  exact filed_exec _

/-- **What a query finds** has the key that was asked for and was posted. -/
theorem found_posted {ops : List (DeploymentOp α κ)} {k : String} {t : ℤ} {m : PrefixManifest}
    (h : (manifestQuery ((deploymentMachine α setup).exec ops).index k t).2 = some m) :
    m.prefixKey = k ∧ Posted ops m := by
  have hfiled : Filed ((deploymentMachine α setup).exec ops).index := filed_run ops
  refine ⟨prefixKey_of_query hfiled h, ?_⟩
  rw [manifestQuery_snd, get_eq_filter] at h
  obtain ⟨m₀, hm₀, rfl⟩ := Option.map_eq_some_iff.mp h
  have hget := (Option.filter_eq_some_iff.mp hm₀).1
  obtain ⟨pre, body, now, req, post, hops, hbody, hsame⟩ := has_posted hget
  refine ⟨pre, body, now, req, post, hops, hbody, hsame ▸ ?_⟩
  show { m₀.untouched with objectFormatVersion := "v1" } = m₀.untouched
  rw [← (hfiled k m₀ hget).2]
  rfl

end Index

/-! ## Steps of a connector -/

section Connector

variable {sha256Hex : String → String} {fo : FloatOps} {cfg : DeadlineKVConfig} {role : String}

/-- The request's state is planned with this manifest and this prefix key. -/
def PlannedFrom (sm : StateManager) (rid : ReqId) (m : PrefixManifest) (key : Option String) : Prop :=
  ∃ st, sm.get rid = some st ∧ st.status = .hitPlanned ∧ st.manifest = some m ∧ st.prefixKey = key

theorem PlannedFrom.of_put {sm : StateManager} {q rid : ReqId} {st : RequestTransferState}
    {m : PrefixManifest} {key : Option String} (h : PlannedFrom (sm.put q st) rid m key) :
    PlannedFrom sm rid m key ∨
      q = rid ∧ st.status = .hitPlanned ∧ st.manifest = some m ∧ st.prefixKey = key := by
  obtain ⟨u, hu, hrest⟩ := h
  rw [StateManager.get_put] at hu
  split_ifs at hu with hq
  · cases hu
    exact Or.inr ⟨hq.symm, hrest⟩
  · exact Or.inl ⟨u, hu, hrest⟩

/-- What a call of the connector makes of its worker side. -/
def Connector.workerOps (c : Connector α) : ConnectorOp α → List (WorkerOp α)
  | .startLoadKv requestId env => (c.loading requestId).toList.map (fun md => .startLoadKv md env)
  | .requestFinished rid => [.requestFinished rid]
  | .saveKvLayer layerName kvLayer attn requestId =>
    if requestId.getD "" = "" then [] else [.saveKvLayer layerName kvLayer attn (requestId.getD "")]
  | .refinementStarts rid k => [.refinementStarts rid k]
  | .refinementEnds rid k _ => [.refinementEnds rid k]
  | _ => []

/-- **The worker side makes the steps of its own machine.** -/
theorem workerSide_step (c : Connector α) (op : ConnectorOp α) :
    ((connectorMachine α sha256Hex fo cfg role).step c op).1.workerSide =
      c.workerSide.map (fun w => (workerMachine α c.config fo).execFrom w (c.workerOps op)) := by
  have hkept : c.workerSide.map (fun w => (workerMachine α c.config fo).execFrom w []) = c.workerSide :=
    Option.map_id'
  cases op with
  | getNumNewMatchedTokens request n env =>
    refine Eq.trans ?_ hkept.symm
    cases hs : c.schedulerSide with
    | none => simp only [connectorMachine, Connector.getNumNewMatchedTokens, hs]
    | some side => simp only [connectorMachine, Connector.getNum_spec hs]
  | updateStateAfterAlloc request out =>
    refine Eq.trans ?_ hkept.symm
    simp only [connectorMachine, Connector.updateStateAfterAlloc]
    cases c.schedulerSide with
    | none => rfl
    | some side => cases extractAllocatedBlocks out (extractRequestId request) <;> rfl
  | buildConnectorMeta request =>
    refine Eq.trans ?_ hkept.symm
    cases hs : c.schedulerSide with
    | none => simp only [connectorMachine, Connector.buildConnectorMeta, hs]
    | some side =>
      simp only [connectorMachine, Connector.buildConnectorMeta_spec hs]
      cases SchedulerSide.buildRequestMetadata c.stateManager (extractRequestId request) <;> rfl
  | updateConnectorOutput rid result => cases result <;> exact hkept.symm
  | requestFinished rid =>
    simp only [connectorMachine, Connector.requestFinished_eq]
    rfl
  | startLoadKv requestId env =>
    simp only [connectorMachine, Connector.startLoadKv, Connector.workerOps, Connector.loading]
    cases hw : c.workerSide with
    | none => exact hw
    | some w =>
      by_cases hrid : requestId.getD "" = ""
      · simp [hrid, hw, Machine.execFrom]
      · cases hmd : c.pendingMetadata.get? (requestId.getD "") with
        | none => simp [hrid, hw, Machine.execFrom]
        | some md => simp [hrid, Machine.execFrom, workerMachine]
  | saveKvLayer layerName kvLayer attn requestId =>
    simp only [connectorMachine, Connector.saveKvLayer, Connector.workerOps]
    cases hw : c.workerSide with
    | none => exact hw
    | some w =>
      by_cases hrid : requestId.getD "" = ""
      · simp [hrid, hw, Machine.execFrom]
      · simp [hrid, Machine.execFrom, workerMachine]
  | refinementStarts rid k => rfl
  | refinementEnds rid k reply => rfl
  | takeEvents | getFinished | waitForLayerLoad layerName | waitForSave => exact hkept.symm

/-- No call changes the configuration. -/
theorem step_config (c : Connector α) (op : ConnectorOp α) :
    ((connectorMachine α sha256Hex fo cfg role).step c op).1.config = c.config := by
  have hstep := connectorStep sha256Hex fo cfg role c op
  generalize ((connectorMachine α sha256Hex fo cfg role).step c op).1 = c' at hstep ⊢
  generalize ((connectorMachine α sha256Hex fo cfg role).step c op).2 = answer at hstep
  cases hstep <;> rfl

/-- A connector keeps its configuration, and the scheduler side that it was set up with. -/
theorem sides_run (ops : List (ConnectorOp α)) :
    ((connectorMachine α sha256Hex fo cfg role).exec ops).config = cfg ∧
      ∀ side, ((connectorMachine α sha256Hex fo cfg role).exec ops).schedulerSide = some side →
        side = sideOf fo cfg := by
  refine (connectorMachine α sha256Hex fo cfg role).invariant
    (I := fun c => c.config = cfg ∧ ∀ side, c.schedulerSide = some side → side = sideOf fo cfg)
    ?_ ?_ ops
  · refine ⟨?_, fun side h => Connector.start_schedulerSide h⟩
    rw [connectorMachine_init, Connector.start]
    split_ifs <;> rfl
  · rintro c op ⟨hconfig, hside⟩
    rw [step_schedulerSide, step_config]
    exact ⟨hconfig, hside⟩

end Connector

/-! ## Found and built -/

section Chain

/-- A step of the deployment leaves connector `i` alone, or is a call of it. -/
theorem connector_step (d : Deployment α setup) (op : DeploymentOp α κ) (i : κ) :
    ((deploymentMachine α setup).step d op).1.connectors i = d.connectors i ∨
      ∃ link cop, op = .call i link cop ∧ ((deploymentMachine α setup).step d op).1.connectors i =
        ((setup.connector α i).step (d.connectors i) (d.resolve i link cop)).1 := by
  cases op with
  | manifest op => exact Or.inl rfl
  | data x => exact Or.inl rfl
  | call j link cop =>
    by_cases hj : i = j
    · subst hj
      exact Or.inr ⟨link, cop, rfl, Function.update_self ..⟩
    · exact Or.inl (Function.update_of_ne hj ..)

/-- Built metadata carries the manifest of the state. -/
theorem carries_metadataOf {st : RequestTransferState} {m : PrefixManifest} {plan : TransferPlan}
    {blocks : Option (List ℤ)} (hkey : st.prefixKey = some m.prefixKey) :
    Carries (metadataOf st m plan blocks) st.requestId m where
  requestId := rfl
  prefixKey := by
    show some (orString st.prefixKey m.prefixKey) = some m.prefixKey
    rw [hkey, orString]
    split_ifs <;> rfl
  matchedTokens := rfl
  matchedBlocks := rfl
  numLayers := rfl
  criticalObjectId := rfl
  criticalCodec := rfl
  refinementObjectId := ite_eq_or_eq _ _ _

theorem sched_inv_run (ops : List (DeploymentOp α κ)) (i : κ) :
    SchedInv (((deploymentMachine α setup).exec ops).connectors i).stateManager
      (((deploymentMachine α setup).exec ops).connectors i).pendingMetadata := by
  rw [connector_run]
  exact sched_inv _ _ _ _ _

end Chain

end AwareKV
