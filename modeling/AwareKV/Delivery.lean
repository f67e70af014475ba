import AwareKV.ServedLayers

/-!
# AwareKV.Delivery — a stored prefix reaches the forward pass

A connector plans a request, builds its metadata and loads; in between, the other connectors, the other
requests and the other clients of the services do what they like.

* `Awaits`: the request is planned with the manifest, and its pending metadata carries it.  Only
  `request_finished` ends this.
* `stored_prefix_served`: if the manifest lives when the connector asks, the planner accepts it, and the
  exchange for the object succeeds, then the request is promised the manifest's tokens, its metadata is
  built, and its forward pass gets the decoded layers.
-/

namespace AwareKV

open SchedulerSide

variable {α κ : Type} [DecidableEq κ] {setup : Setup κ}

/-! ## What a planned request keeps -/

section Keep

variable {sha256Hex : String → String}

/-- The request is planned with the manifest, under the manifest's key. -/
def Ready (sm : StateManager) (rid : ReqId) (m : PrefixManifest) : Prop :=
  ∃ st plan, PlannedWith sm rid st m plan ∧ st.prefixKey = some m.prefixKey

/-- The request is ready, and metadata of the manifest is pending. -/
structure Awaits (sm : StateManager) (pending : Dict ReqId DeadlineConnectorMetadata) (rid : ReqId)
    (m : PrefixManifest) : Prop where
  ready : Ready sm rid m
  pending : ∃ md, pending.get? rid = some md ∧ Carries md rid m

theorem Ready.congr {sm sm' : StateManager} {rid : ReqId} {m : PrefixManifest} (h : Ready sm rid m)
    (hget : sm'.get rid = sm.get rid) : Ready sm' rid m := by
  obtain ⟨st, plan, ⟨hst, hrest⟩, hkey⟩ := h
  exact ⟨st, plan, ⟨hget.trans hst, hrest⟩, hkey⟩

/-- A ready request answers from its state: a preparation leaves it as it is. -/
theorem Ready.prepared {sm : StateManager} {rid : ReqId} {m : PrefixManifest} (h : Ready sm rid m)
    (side : SchedulerSide) (request : Request) (n : ℤ) (env : QueryEnv) :
    Ready (side.prepareRequestState sha256Hex sm request n env).1 rid m := by
  by_cases hrid : extractRequestId request = rid
  · obtain ⟨st, plan, hplanned, hkey⟩ := h
    subst hrid
    have hsame : (side.prepareRequestState sha256Hex sm request n env).1 = sm := by
      rw [prepareRequestState, cachedState_of_planned hplanned]
      split_ifs <;> rfl
    rw [hsame]
    exact ⟨st, plan, hplanned, hkey⟩
  · exact h.congr (prepare_get_other side (Ne.symm hrid))

theorem Ready.update {sm : StateManager} {rid q : ReqId} {m : PrefixManifest} (h : Ready sm rid m)
    {f : RequestTransferState → RequestTransferState} (hstat : ∀ st, (f st).status = st.status)
    (hman : ∀ st, (f st).manifest = st.manifest) (hplan : ∀ st, (f st).plan = st.plan)
    (hkey : ∀ st, (f st).prefixKey = st.prefixKey) : Ready (sm.update q f) rid m := by
  obtain ⟨st, plan, ⟨hst, hs, hm, hp⟩, hk⟩ := h
  by_cases hq : rid = q
  · subst hq
    refine ⟨f st, plan, ⟨?_, (hstat st).trans hs, (hman st).trans hm, (hplan st).trans hp⟩, (hkey st).trans hk⟩
    rw [StateManager.get_update, if_pos rfl, hst]
    rfl
  · refine ⟨st, plan, ⟨?_, hs, hm, hp⟩, hk⟩
    rw [StateManager.get_update, if_neg hq, hst]

/-- **Step lemma**: only `request_finished` ends the readiness of a request. -/
theorem Ready.step {c : Connector α} {rid : ReqId} {m : PrefixManifest} (h : Ready c.stateManager rid m)
    {op : ConnectorOp α} (hop : op ≠ .requestFinished rid) {sm : StateManager}
    {pending : Dict ReqId DeadlineConnectorMetadata} (hs : SchedStep sha256Hex c op sm pending) :
    Ready sm rid m := by
  cases hs with
  | queried side request n env hside => exact h.prepared side request n env
  | allocated request out blocks =>
    unfold bindAllocatedBlocks
    split
    · exact h
    · exact h.update (fun _ => rfl) (fun _ => rfl) (fun _ => rfl) (fun _ => rfl)
  | built request md hb => exact h
  | finished q hside =>
    have hq : rid ≠ q := fun hq => hop (by rw [hq])
    exact h.congr (by rw [StateManager.get_update, if_neg hq])
  | finishedAlone q hside => exact h
  | kept op hq hf => exact h

/-- The metadata that is built for a ready request carries its manifest. -/
theorem Ready.carries {sm : StateManager} {rid : ReqId} {m : PrefixManifest} (h : Ready sm rid m)
    (hids : ∀ st, sm.get rid = some st → st.requestId = rid) {md : DeadlineConnectorMetadata}
    (hb : buildRequestMetadata sm rid = some md) : Carries md rid m := by
  obtain ⟨st, plan, ⟨hst, -, hman, -⟩, hkey⟩ := h
  obtain ⟨st', m', plan', ⟨hst', -, hman', -⟩, rfl⟩ := buildRequestMetadata_eq_some.mp hb
  obtain rfl : st = st' := Option.some.inj (hst.symm.trans hst')
  obtain rfl : m = m' := Option.some.inj (hman.symm.trans hman')
  rw [← hids st hst]
  exact carries_metadataOf hkey

/-- Metadata is built for a ready request. -/
theorem Ready.build {sm : StateManager} {rid : ReqId} {m : PrefixManifest} (h : Ready sm rid m) :
    ∃ md, buildRequestMetadata sm rid = some md := by
  obtain ⟨st, plan, hplanned, -⟩ := h
  exact ⟨_, buildRequestMetadata_eq_some.mpr ⟨st, m, plan, hplanned, rfl⟩⟩

/-- **Step lemma** for requests with pending metadata. -/
theorem Awaits.step {c : Connector α} {rid : ReqId} {m : PrefixManifest}
    (h : Awaits c.stateManager c.pendingMetadata rid m)
    (hids : ∀ st, c.stateManager.get rid = some st → st.requestId = rid) {op : ConnectorOp α}
    (hop : op ≠ .requestFinished rid) {sm : StateManager} {pending : Dict ReqId DeadlineConnectorMetadata}
    (hs : SchedStep sha256Hex c op sm pending) : Awaits sm pending rid m := by
  refine ⟨h.ready.step hop hs, ?_⟩
  obtain ⟨md, hmd, hcarries⟩ := h.pending
  cases hs with
  | queried side request n env hside => exact ⟨md, hmd, hcarries⟩
  | allocated request out blocks => exact ⟨md, hmd, hcarries⟩
  | built request md' hb =>
    rw [Dict.get?_insert]
    split_ifs with hrid
    · subst hrid
      exact ⟨md', rfl, h.ready.carries hids hb⟩
    · exact ⟨md, hmd, hcarries⟩
  | finished q hside =>
    have hq : rid ≠ q := fun hq => hop (by rw [hq])
    exact ⟨md, by rwa [Dict.get?_erase, if_neg hq], hcarries⟩
  | finishedAlone q hside =>
    have hq : rid ≠ q := fun hq => hop (by rw [hq])
    exact ⟨md, by rwa [Dict.get?_erase, if_neg hq], hcarries⟩
  | kept op hq hf => exact ⟨md, hmd, hcarries⟩

/-- A connector that consumes has both sides throughout. -/
theorem both_sides {fo : FloatOps} {cfg : DeadlineKVConfig} {role : String}
    (hrole : role = "kv_both" ∨ role = "kv_consumer") (ops : List (ConnectorOp α)) :
    ((connectorMachine α sha256Hex fo cfg role).exec ops).schedulerSide = some (sideOf fo cfg) ∧
      ∃ w, ((connectorMachine α sha256Hex fo cfg role).exec ops).workerSide = some w := by
  refine (connectorMachine α sha256Hex fo cfg role).invariant
    (I := fun c => c.schedulerSide = some (sideOf fo cfg) ∧ ∃ w, c.workerSide = some w) ?_ ?_ ops
  · show (Connector.start α fo cfg role).schedulerSide = _ ∧ ∃ w, (Connector.start α fo cfg role).workerSide = some w
    unfold Connector.start
    rw [if_pos hrole]
    exact ⟨rfl, {}, rfl⟩
  · rintro c op ⟨hside, w, hw⟩
    rw [step_schedulerSide, workerSide_step, hw]
    exact ⟨hside, _, rfl⟩

end Keep

/-! ## In a deployment -/

section Run

/-- The step does not finish request `rid` of connector `i`. -/
def Spares (i : κ) (rid : ReqId) (op : DeploymentOp α κ) : Prop :=
  ∀ link, op ≠ .call i link (.requestFinished rid)

/-- Nor does it load for the request. -/
def SparesLayers (i : κ) (rid : ReqId) (op : DeploymentOp α κ) : Prop :=
  Spares i rid op ∧ ∀ link env, op ≠ .call i link (.startLoadKv (some rid) env)

omit [DecidableEq κ] in
theorem resolve_finished {d : Deployment α setup} {i : κ} {link : Link} {cop : ConnectorOp α} {rid : ReqId} :
    d.resolve i link cop = .requestFinished rid ↔ cop = .requestFinished rid := by
  cases cop <;> simp [Deployment.resolve]

/-- A fact about the stores of connector `i` that its calls keep, but for the end of `rid`, persists. -/
theorem stores_persist {i : κ} {rid : ReqId} {P : StateManager → Dict ReqId DeadlineConnectorMetadata → Prop}
    (hstep : ∀ (c : Connector α) (op : ConnectorOp α) sm pending,
      SchedInv c.stateManager c.pendingMetadata → P c.stateManager c.pendingMetadata →
      op ≠ .requestFinished rid → SchedStep setup.sha256Hex c op sm pending → P sm pending)
    {pre ops : List (DeploymentOp α κ)}
    (h : P (((deploymentMachine α setup).exec pre).connectors i).stateManager
      (((deploymentMachine α setup).exec pre).connectors i).pendingMetadata)
    (hops : ∀ op ∈ ops, Spares i rid op) :
    P (((deploymentMachine α setup).exec (pre ++ ops)).connectors i).stateManager
      (((deploymentMachine α setup).exec (pre ++ ops)).connectors i).pendingMetadata := by
  refine (deploymentMachine α setup).persists
    (I := fun d => P (d.connectors i).stateManager (d.connectors i).pendingMetadata) (C := Spares i rid)
    ?_ h hops
  intro pre op hpre hop
  rcases connector_step ((deploymentMachine α setup).exec pre) op i with hsame | ⟨link, cop, rfl, hown⟩
  · rwa [hsame]
  · have hne : ((deploymentMachine α setup).exec pre).resolve i link cop ≠ .requestFinished rid :=
      fun hfin => hop link (by rw [resolve_finished.mp hfin])
    rw [hown]
    exact hstep _ _ _ _ (sched_inv_run pre i) hpre hne (schedStep _ _ _ _ _ _)

/-- The layers that a connector holds for a request persist until it loads or finishes it. -/
theorem layers_persist {i : κ} {rid : ReqId} {layers : List (Tensor Half)} (hrid : rid ≠ "")
    {pre ops : List (DeploymentOp α κ)}
    (h : ∃ w, (((deploymentMachine α setup).exec pre).connectors i).workerSide = some w ∧
      w.loadedKvs.get? rid = some layers) (hops : ∀ op ∈ ops, SparesLayers i rid op) :
    ∃ w, (((deploymentMachine α setup).exec (pre ++ ops)).connectors i).workerSide = some w ∧
      w.loadedKvs.get? rid = some layers := by
  refine (deploymentMachine α setup).persists
    (I := fun d => ∃ w, (d.connectors i).workerSide = some w ∧ w.loadedKvs.get? rid = some layers)
    (C := SparesLayers i rid) ?_ h hops
  rintro pre op ⟨w, hw, hlayers⟩ ⟨hfin, hload⟩
  rcases connector_step ((deploymentMachine α setup).exec pre) op i with hsame | ⟨link, cop, rfl, hown⟩
  · rw [hsame]
    exact ⟨w, hw, hlayers⟩
  · rw [hown, workerSide_step, hw]
    refine ⟨_, rfl, ?_⟩
    rcases workerOps_cases (((deploymentMachine α setup).exec pre).connectors i)
      (((deploymentMachine α setup).exec pre).resolve i link cop) with hnone | ⟨wop, hone⟩
    · rw [hnone]
      exact hlayers
    · rw [hone]
      show ((workerMachine α _ _).step w wop).1.loadedKvs.get? rid = some layers
      rw [loadedKvs_step, hlayers]
      cases wop with
      | startLoadKv md env =>
        obtain ⟨requestId, env', rfl, hmd, -⟩ := workerOps_load hone
        have hother : md.requestId ≠ rid := by
          obtain ⟨st, m, plan, -, hdescribes⟩ := (sched_inv_run pre i).pending _ md hmd
          rw [hdescribes.requestId]
          cases requestId with
          | none => exact fun h => hrid h.symm
          | some q => exact fun h => hload link env' (by rw [← h]; rfl)
        simp only [decodeStep, if_neg hother]
      | requestFinished q =>
        have hother : q ≠ rid := by
          rintro rfl
          exact hfin link (by rw [workerOps_finished hone])
        simp only [decodeStep, if_neg hother]
      | _ => rfl

/-! ## The calls -/

/-- What the client reads of a manifest that it finds at time `now`. -/
def PrefixManifest.asFound (m : PrefixManifest) (now : ℤ) : PrefixManifest :=
  { m with lastAccessMs := now, objectFormatVersion := "v1" }

/-- After the run `ops` connector `i` asks about a request that it has no cached state of, over a link that
works; the manifest that the clients posted last under the key of the prompt lives, and the planner
accepts it. -/
structure Plans (setup : Setup κ) (ops : List (DeploymentOp α κ)) (i : κ) (link : Link) (request : Request)
    (env : QueryEnv) (m : PrefixManifest) : Prop where
  accepted : ¬ (setup.side i).Rejects request
  uncached : cachedState (((deploymentMachine α setup).exec ops).connectors i).stateManager
    (extractRequestId request) = none
  arrives : link.received = true
  returns : link.answered = true
  clock : ∀ op ∈ ops, ∀ s ∈ op.now, s ≤ link.now
  posted : lastManifest ((ops.filterMap DeploymentOp.posted).flatMap ServiceOp.calls)
    ((setup.side i).prefixKeyOf setup.sha256Hex request) = some m
  alive : Alive m link.now = true
  planner : (setup.side i).PlannerAccepts env (m.asFound link.now)

/-- After the run `ops` the object is fetched for `rid` over a link that works, without faults: the file that
it denotes holds, after the clients' exchanges, bytes that decode. -/
structure Delivers (setup : Setup κ) (ops : List (DeploymentOp α κ)) (i : κ) (link : Link) (rid : ReqId)
    (m : PrefixManifest) (data : Bytes) (layers : List (Tensor Half)) : Prop where
  arrives : link.received = true
  returns : link.answered = true
  faults : link.faults = {}
  alteration : link.alteration = .none
  stored : ∃ e, setup.backend.target .critical (pyStr m.criticalObjectId) = .entry e ∧
    (setup.dataServer.exec (ops.filterMap DeploymentOp.sent)).get? e = some data
  request_fits : FrameFits (DataClient.getHeader (pyStr m.criticalObjectId) .critical (pyStr rid)) []
  reply_fits : FrameFits (DataServer.getResponse setup.runtime
    (received (DataClient.getHeader (pyStr m.criticalObjectId) .critical (pyStr rid)) []) data .critical) data
  decodes : decodeCriticalKv (setup.config i) setup.floats data m.criticalCodec m.numLayers = .ok layers

/-- A query finds the manifest that was posted last. -/
theorem Plans.found {ops : List (DeploymentOp α κ)} {i : κ} {link : Link} {request : Request} {env : QueryEnv}
    {m : PrefixManifest} (h : Plans setup ops i link request env m) :
    (manifestQuery ((deploymentMachine α setup).exec ops).index
      ((setup.side i).prefixKeyOf setup.sha256Hex request) link.now).2 = some (m.asFound link.now) := by
  rw [manifestQuery_untouched, (represents_run h.clock).get, h.posted, Option.filter_some, if_pos h.alive]
  rfl

/-- **The query**: the manifest's tokens are promised, and the request is ready. -/
theorem Plans.query {ops : List (DeploymentOp α κ)} {i : κ} {link : Link} {request : Request} {env : QueryEnv}
    {m : PrefixManifest} (h : Plans setup ops i link request env m)
    (hrole : setup.role i = "kv_both" ∨ setup.role i = "kv_consumer") (n : ℤ) :
    (deploymentMachine α setup).answer ops (.call i link (.getNumNewMatchedTokens request n env)) =
        .call (.tokens (max 0 (m.matchedTokens - n), false)) ∧
      Ready (((deploymentMachine α setup).exec
        (ops ++ [.call i link (.getNumNewMatchedTokens request n env)])).connectors i).stateManager
        (extractRequestId request) (m.asFound link.now) := by
  have hside : (((deploymentMachine α setup).exec ops).connectors i).schedulerSide = some (setup.side i) := by
    rw [connector_run]
    exact (both_sides hrole _).1
  have hfound := h.found
  have hkey := (found_posted hfound).1
  have huncached := h.uncached
  rw [Machine.answer, Machine.exec_snoc]
  generalize (deploymentMachine α setup).exec ops = d at hside hfound huncached
  have hasking : (d.connectors i).asking request = some (setup.side i) := by
    rw [Connector.asking, hside, Option.filter_some, if_pos (by simpa using ⟨h.accepted, huncached⟩)]
  obtain ⟨env', henv⟩ : ∃ env' : QueryEnv,
      env' = { env with answer := d.manifestAnswer (setup.side i) request link } := ⟨_, rfl⟩
  have hresolve : d.resolve i link (.getNumNewMatchedTokens request n env) =
      .getNumNewMatchedTokens request n env' := by
    rw [Deployment.resolve, hasking, henv]
    rfl
  have hanswer : queryManifest env'.answer = some (m.asFound link.now) := by
    rw [henv, Deployment.manifestAnswer, if_pos ⟨h.arrives, h.returns⟩, (queryRoute_eq _ _ _).2, hfound]
  have hplanner : (setup.side i).PlannerAccepts env' (m.asFound link.now) := by
    rw [henv]
    exact h.planner
  have hprepared := (setup.side i).prepared setup.sha256Hex (d.connectors i).stateManager request n env'
  constructor
  · show DeploymentAnswer.call ((setup.connector α i).step (d.connectors i) (d.resolve i link _)).2 = _
    rw [hresolve, answer_getNum hside,
      (setup.side i).answer_of_accepted setup.sha256Hex h.accepted huncached hanswer hplanner]
    rfl
  · show Ready (Function.update d.connectors i _ i).stateManager _ _
    rw [Function.update_self, hresolve, states_getNum hside]
    generalize (setup.side i).prepareRequestState setup.sha256Hex (d.connectors i).stateManager request n
      env' = r at hprepared
    cases hprepared with
    | rejected hr => exact absurd hr h.accepted
    | cached st hr hc =>
      rw [huncached] at hc
      cases hc
    | missed hr hc hq =>
      rw [hanswer] at hq
      cases hq
    | raised m' e hr hc hq hp =>
      rw [hanswer] at hq
      cases hq
      exact absurd hplanner (not_accepts_of_raises hp)
    | recomputed m' plan hr hc hq hp ha =>
      rw [hanswer] at hq
      cases hq
      exact absurd hplanner ha
    | accepted m' plan hr hc hq hp ha hcall hmode htok hblk =>
      rw [hanswer] at hq
      cases hq
      exact ⟨_, plan, ⟨StateManager.get_put_self .., rfl, rfl, rfl⟩, congrArg some hkey.symm⟩

/-- **The metadata**: it is built for a ready request, and then pending. -/
theorem Ready.built {ops : List (DeploymentOp α κ)} {i : κ} {asked : Request} {m : PrefixManifest}
    (h : Ready (((deploymentMachine α setup).exec ops).connectors i).stateManager (extractRequestId asked) m)
    (hrole : setup.role i = "kv_both" ∨ setup.role i = "kv_consumer") (link : Link) :
    (∃ md, (deploymentMachine α setup).answer ops (.call i link (.buildConnectorMeta asked)) =
        .call (.metadata (some md)) ∧ Carries md (extractRequestId asked) m) ∧
      Awaits (((deploymentMachine α setup).exec
        (ops ++ [.call i link (.buildConnectorMeta asked)])).connectors i).stateManager
        (((deploymentMachine α setup).exec
          (ops ++ [.call i link (.buildConnectorMeta asked)])).connectors i).pendingMetadata
        (extractRequestId asked) m := by
  have hside : (((deploymentMachine α setup).exec ops).connectors i).schedulerSide = some (setup.side i) := by
    rw [connector_run]
    exact (both_sides hrole _).1
  have hids : ∀ st, (((deploymentMachine α setup).exec ops).connectors i).stateManager.get
      (extractRequestId asked) = some st → st.requestId = extractRequestId asked :=
    (sched_inv_run ops i).ids _
  rw [Machine.answer, Machine.exec_snoc]
  generalize (deploymentMachine α setup).exec ops = d at h hside hids
  obtain ⟨md, hbuild⟩ := h.build
  have hcarries := h.carries hids hbuild
  have hcall := Connector.buildConnectorMeta_spec hside asked
  rw [hbuild] at hcall
  constructor
  · refine ⟨md, ?_, hcarries⟩
    show DeploymentAnswer.call (.metadata ((d.connectors i).buildConnectorMeta asked).2) = _
    rw [hcall]
  · show Awaits (Function.update d.connectors i ((d.connectors i).buildConnectorMeta asked).1 i).stateManager
      (Function.update d.connectors i ((d.connectors i).buildConnectorMeta asked).1 i).pendingMetadata _ m
    rw [Function.update_self, hcall]
    exact ⟨h, md, by rw [Dict.get?_insert, if_pos rfl], hcarries⟩

omit [DecidableEq κ] in
/-- The data server replies with what the file of the object holds. -/
theorem criticalReply_of_file {d : Deployment α setup} {md : DeadlineConnectorMetadata} {link : Link}
    (harrives : link.received = true) (hreturns : link.answered = true) (hfaults : link.faults = {})
    (halteration : link.alteration = .none) {e : setup.backend.dirs.Entry} {data : Bytes}
    (htarget : setup.backend.target .critical (pyStr md.criticalObjectId) = .entry e)
    (hfile : d.files.get? e = some data)
    (hrequest : FrameFits (DataClient.getHeader (pyStr md.criticalObjectId) .critical (pyStr md.requestId)) [])
    (hreply : FrameFits (DataServer.getResponse setup.runtime
      (received (DataClient.getHeader (pyStr md.criticalObjectId) .critical (pyStr md.requestId)) []) data
        .critical) data) : d.criticalReply md link = some data := by
  have hflat : (DataClient.getHeader (pyStr md.criticalObjectId) .critical (pyStr md.requestId)).Flat :=
    DataOp.header_flat setup.runtime (.get (pyStr md.criticalObjectId) .critical (pyStr md.requestId))
  have hobject : (received (DataClient.getHeader (pyStr md.criticalObjectId) .critical (pyStr md.requestId))
      []).objectId = .str (pyStr md.criticalObjectId) := joined_text (surrogateFree_pyStr _)
  have hdata : setup.backend.get d.files {} (received (DataClient.getHeader (pyStr md.criticalObjectId)
      .critical (pyStr md.requestId)) []).objectId .critical = .ok (some data) := by
    rw [hobject, LocalDiskBackend.get_eq_read, LocalDiskBackend.read_entry htarget, hfile]
  have hclean : link.criticalGet md =
      ⟨.get (pyStr md.criticalObjectId) .critical (pyStr md.requestId), {}, .none⟩ := by
    rw [Link.criticalGet, Link.get, hfaults, halteration]
  have hstep := congrArg Prod.snd (transit_step_clean setup.runtime setup.backend d.files d.files
    (.get (pyStr md.criticalObjectId) .critical (pyStr md.requestId)))
  rw [Deployment.criticalReply, Deployment.reply, if_pos ⟨harrives, hreturns⟩, hclean]
  have hresult := getResult_processRequest (received_flat hflat []) (joined_pyStr _) hdata
    (fun bytes hbytes => by cases hbytes; exact hreply) []
  have hsame : DataAnswer.fetched (DataClient.getResult setup.runtime ((Exchange.serve setup.runtime
      setup.backend d.files ⟨.get (pyStr md.criticalObjectId) .critical (pyStr md.requestId), {}, .none⟩).2.map
        (Exchange.onReply ⟨.get (pyStr md.criticalObjectId) .critical (pyStr md.requestId), {}, .none⟩))) =
      DataAnswer.fetched (DataClient.getResult setup.runtime (exchange setup.runtime setup.backend d.files
        (DataClient.getHeader (pyStr md.criticalObjectId) .critical (pyStr md.requestId)) []).2) := hstep
  rw [DataAnswer.fetched.inj hsame, exchange_eq hflat hrequest]
  exact hresult

/-- **The load**: the decoded layers are held for the request. -/
theorem Delivers.load {ops : List (DeploymentOp α κ)} {i : κ} {link : Link} {rid : ReqId} {m : PrefixManifest}
    {data : Bytes} {layers : List (Tensor Half)} (h : Delivers setup ops i link rid m data layers)
    (hrole : setup.role i = "kv_both" ∨ setup.role i = "kv_consumer") (hrid : rid ≠ "")
    (hawaits : Awaits (((deploymentMachine α setup).exec ops).connectors i).stateManager
      (((deploymentMachine α setup).exec ops).connectors i).pendingMetadata rid m) (env : LoadEnv) :
    ∃ w, (((deploymentMachine α setup).exec
        (ops ++ [.call i link (.startLoadKv (some rid) env)])).connectors i).workerSide = some w ∧
      w.loadedKvs.get? rid = some layers := by
  have hworker : ∃ w, (((deploymentMachine α setup).exec ops).connectors i).workerSide = some w := by
    rw [connector_run]
    exact (both_sides hrole _).2
  have hconfig : (((deploymentMachine α setup).exec ops).connectors i).config = setup.config i := by
    rw [connector_run]
    exact (sides_run _).1
  obtain ⟨e, htarget, hfile⟩ := h.stored
  rw [← clients_files] at hfile
  obtain ⟨md, hmd, hcarries⟩ := hawaits.pending
  obtain ⟨w, hw⟩ := hworker
  rw [Machine.exec_snoc]
  generalize (deploymentMachine α setup).exec ops = d at hmd hw hconfig hfile
  have hloading : (d.connectors i).loading (some rid) = some md := by
    rw [Connector.loading, if_neg (by simp [hw, hrid])]
    exact hmd
  have hreply : d.criticalReply md link = some data := by
    refine criticalReply_of_file h.arrives h.returns h.faults h.alteration (e := e) ?_ hfile ?_ ?_
    · rw [hcarries.criticalObjectId]
      exact htarget
    · rw [hcarries.criticalObjectId, hcarries.requestId]
      exact h.request_fits
    · rw [hcarries.criticalObjectId, hcarries.requestId]
      exact h.reply_fits
  have hresolve : d.resolve i link (.startLoadKv (some rid) env) =
      .startLoadKv (some rid) { env with reply := some data } := by
    rw [Deployment.resolve, hloading, ← hreply]
    rfl
  have hload : WorkerSide.loadLayers (setup.config i) setup.floats md (some data) = .ok (data, layers) := by
    rw [WorkerSide.loadLayers, hcarries.criticalCodec, hcarries.numLayers, h.decodes]
    rfl
  show ∃ w, (Function.update d.connectors i _ i).workerSide = some w ∧ _
  rw [Function.update_self, hresolve, workerSide_step, hw, hconfig]
  refine ⟨_, rfl, ?_⟩
  rw [Connector.workerOps, hloading]
  show ((workerMachine α _ _).step w (.startLoadKv md { env with reply := some data })).1.loadedKvs.get? rid = _
  rw [loadedKvs_step]
  simp only [decodeStep, if_pos hcarries.requestId, hload]

omit [DecidableEq κ] in
/-- A held layer is served, if no other request with enough layers comes first. -/
theorem waitForLayerLoad_of_held {w : WorkerSide α} {rid : ReqId} {layers : List (Tensor Half)}
    (hheld : w.loadedKvs.get? rid = some layers) {layerName : String} {idx : ℕ} {t : Tensor Half}
    (hidx : WorkerSide.extractLayerIdx layerName = some (idx : ℤ)) (ht : layers[idx]? = some t)
    (hfirst : OwnFirst w rid layerName) : w.waitForLayerLoad layerName = .ok (some t) := by
  obtain ⟨hlt, -⟩ := List.getElem?_eq_some_iff.mp ht
  cases hserving : w.servingRequest idx with
  | none =>
    have hnone := List.find?_eq_none.mp hserving (rid, layers) (Dict.get?_eq_some_iff.mp hheld)
    simp only [Nat.cast_lt, decide_eq_true_eq] at hnone
    exact absurd hlt hnone
  | some entry =>
    obtain ⟨q, kvs⟩ := entry
    obtain ⟨rfl, -⟩ := ownFirst_iff.mp hfirst idx q kvs hidx hserving
    obtain rfl : layers = kvs := Option.some.inj (hheld.symm.trans (get?_of_servingRequest hserving))
    have hindex : index? layers idx = some t := by
      rw [index?, if_pos (Int.natCast_nonneg idx), Int.toNat_natCast, ht]
    exact waitForLayerLoad_eq (servedEntry_eq_some.mpr ⟨idx, layers, hidx, hserving, hindex⟩)

/-! ## All together -/

/-- **Asked and built**: whatever happens in between but the end of the request, its metadata is built and
then pending. -/
theorem Plans.built {i : κ} (hrole : setup.role i = "kv_both" ∨ setup.role i = "kv_consumer")
    {request asked : Request} (hasked : extractRequestId asked = extractRequestId request) {n : ℤ}
    {env : QueryEnv} {link₁ : Link} {m : PrefixManifest} {ops₁ ops₂ ops₃ run₁ : List (DeploymentOp α κ)}
    (hplans : Plans setup ops₁ i link₁ request env m)
    (hrun₁ : run₁ = ops₁ ++ [.call i link₁ (.getNumNewMatchedTokens request n env)] ++ ops₂)
    (hops₂ : ∀ op ∈ ops₂, Spares i (extractRequestId request) op)
    (hops₃ : ∀ op ∈ ops₃, Spares i (extractRequestId request) op) (link₂ : Link) :
    (∃ md, (deploymentMachine α setup).answer run₁ (.call i link₂ (.buildConnectorMeta asked)) =
        .call (.metadata (some md)) ∧ Carries md (extractRequestId request) (m.asFound link₁.now)) ∧
      Awaits (((deploymentMachine α setup).exec
        (run₁ ++ [.call i link₂ (.buildConnectorMeta asked)] ++ ops₃)).connectors i).stateManager
        (((deploymentMachine α setup).exec
          (run₁ ++ [.call i link₂ (.buildConnectorMeta asked)] ++ ops₃)).connectors i).pendingMetadata
        (extractRequestId request) (m.asFound link₁.now) := by
  have hready := (hplans.query hrole n).2
  have hready₁ : Ready (((deploymentMachine α setup).exec run₁).connectors i).stateManager
      (extractRequestId asked) (m.asFound link₁.now) := by
    rw [hrun₁, hasked]
    exact stores_persist (P := fun sm _ => Ready sm (extractRequestId request) (m.asFound link₁.now))
      (fun _ _ _ _ _ h hop hs => h.step hop hs) hready hops₂
  obtain ⟨hbuilt, hawaits⟩ := hready₁.built hrole link₂
  rw [hasked] at hbuilt hawaits
  refine ⟨hbuilt, ?_⟩
  exact stores_persist
    (P := fun sm pending => Awaits sm pending (extractRequestId request) (m.asFound link₁.now))
    (fun _ _ _ _ hinv h hop hs => h.step (hinv.ids _) hop hs) hawaits hops₃

/-- **Loaded and served**: after the load, a forward pass for which no other request comes first gets the
layers. -/
theorem Delivers.served {i : κ} (hrole : setup.role i = "kv_both" ∨ setup.role i = "kv_consumer") {rid : ReqId}
    (hrid : rid ≠ "") {link₃ : Link} {m : PrefixManifest} {data : Bytes} {layers : List (Tensor Half)}
    {ops₄ run₂ run₃ : List (DeploymentOp α κ)} (h : Delivers setup run₂ i link₃ rid m data layers) {now : ℤ}
    (hawaits : Awaits (((deploymentMachine α setup).exec run₂).connectors i).stateManager
      (((deploymentMachine α setup).exec run₂).connectors i).pendingMetadata rid (m.asFound now))
    {loadEnv : LoadEnv} (hrun₃ : run₃ = run₂ ++ [.call i link₃ (.startLoadKv (some rid) loadEnv)] ++ ops₄)
    (hops₄ : ∀ op ∈ ops₄, SparesLayers i rid op) (link : Link) {layerName : String} {idx : ℕ} {t : Tensor Half}
    (hidx : WorkerSide.extractLayerIdx layerName = some (idx : ℤ)) (ht : layers[idx]? = some t)
    (hfirst : ∀ w, (((deploymentMachine α setup).exec run₃).connectors i).workerSide = some w →
      OwnFirst w rid layerName) :
    (deploymentMachine α setup).answer run₃ (.call i link (.waitForLayerLoad layerName)) =
      .call (.layer (some t)) := by
  have hdelivers : Delivers setup run₂ i link₃ rid (m.asFound now) data layers :=
    ⟨h.arrives, h.returns, h.faults, h.alteration, h.stored, h.request_fits, h.reply_fits, h.decodes⟩
  obtain ⟨w, hw, hlayers⟩ := layers_persist hrid (hdelivers.load hrole hrid hawaits loadEnv) hops₄
  rw [← hrun₃] at hw
  have hwait := waitForLayerLoad_of_held hlayers hidx ht (hfirst w hw)
  show DeploymentAnswer.call (.layer ((((deploymentMachine α setup).exec run₃).connectors i).waitForLayerLoad
    layerName)) = _
  rw [Connector.waitForLayerLoad, hw]
  simp only [hwait]

/-- **A stored prefix is served.**  Connector `i` asks about a request, builds its metadata and loads, and in
between anything happens but the end of the request.  If the query is answered with a living manifest that
the planner accepts, and the exchange for its object succeeds, then the manifest's tokens are promised, the
metadata carries the manifest, and from then on, until the connector loads the request again or finishes it,
a forward pass for which no other request comes first gets the decoded layers. -/
theorem stored_prefix_served {i : κ} (hrole : setup.role i = "kv_both" ∨ setup.role i = "kv_consumer")
    {rid : ReqId} (hrid : rid ≠ "") {request asked : Request} (hrequest : extractRequestId request = rid)
    (hasked : extractRequestId asked = rid) {n : ℤ} {env : QueryEnv} {loadEnv : LoadEnv}
    {link₁ link₂ link₃ : Link} {m : PrefixManifest} {data : Bytes} {layers : List (Tensor Half)}
    {ops₁ ops₂ ops₃ ops₄ run₁ run₂ run₃ : List (DeploymentOp α κ)}
    (hrun₁ : run₁ = ops₁ ++ [.call i link₁ (.getNumNewMatchedTokens request n env)] ++ ops₂)
    (hrun₂ : run₂ = run₁ ++ [.call i link₂ (.buildConnectorMeta asked)] ++ ops₃)
    (hrun₃ : run₃ = run₂ ++ [.call i link₃ (.startLoadKv (some rid) loadEnv)] ++ ops₄)
    (hops₂ : ∀ op ∈ ops₂, Spares i rid op) (hops₃ : ∀ op ∈ ops₃, Spares i rid op)
    (hops₄ : ∀ op ∈ ops₄, SparesLayers i rid op) (hplans : Plans setup ops₁ i link₁ request env m)
    (hdelivers : Delivers setup run₂ i link₃ rid m data layers) :
    (deploymentMachine α setup).answer ops₁ (.call i link₁ (.getNumNewMatchedTokens request n env)) =
        .call (.tokens (max 0 (m.matchedTokens - n), false)) ∧
      (∃ md, (deploymentMachine α setup).answer run₁ (.call i link₂ (.buildConnectorMeta asked)) =
        .call (.metadata (some md)) ∧ Carries md rid (m.asFound link₁.now)) ∧
      ∀ link layerName (idx : ℕ) t, WorkerSide.extractLayerIdx layerName = some (idx : ℤ) →
        layers[idx]? = some t →
        (∀ w, (((deploymentMachine α setup).exec run₃).connectors i).workerSide = some w →
          OwnFirst w rid layerName) →
        (deploymentMachine α setup).answer run₃ (.call i link (.waitForLayerLoad layerName)) =
          .call (.layer (some t)) := by
  subst hrequest
  have hpromise := (hplans.query hrole n).1
  obtain ⟨hbuilt, hawaits⟩ := hplans.built hrole hasked hrun₁ hops₂ hops₃ link₂
  rw [← hrun₂] at hawaits
  exact ⟨hpromise, hbuilt, fun link layerName idx t hidx ht hfirst =>
    hdelivers.served hrole hrid hawaits hrun₃ hops₄ link hidx ht hfirst⟩

end Run

/-! ## One request -/

theorem soloSetup_plans :
    Plans soloSetup (soloRun.take 2) () {} soloPrompt startEnv (manifestOfPut soloManifest 0) where
  accepted := by decide +kernel
  uncached := by decide +kernel
  arrives := rfl
  returns := rfl
  clock := by simp [soloRun, DeploymentOp.now, ServiceOp.now]
  posted := by
    have hkey : (soloSetup.side ()).prefixKeyOf soloSetup.sha256Hex soloPrompt = "k" := soloArgs_key
    rw [hkey]
    decide +kernel
  alive := by decide
  planner := by decide +kernel

/-- The request is built after another one was finished, and loaded after its manifest was deleted. -/
def disturbedRun : List (DeploymentOp Half Unit) :=
  soloRun.take 2 ++ [.call () {} (.getNumNewMatchedTokens soloPrompt 0 startEnv)] ++
    [.call () {} (.requestFinished "q")] ++ [.call () {} (.buildConnectorMeta soloPrompt)] ++
    [.manifest (.delete "k" 1)]

theorem disturbedRun_delivers :
    Delivers soloSetup disturbedRun () {} "r" (manifestOfPut soloManifest 0) [1, 0]
      [⟨[1, 1, 1, 1], [1], rfl⟩] where
  arrives := rfl
  returns := rfl
  faults := rfl
  alteration := rfl
  stored := by
    have hid : PlainText (pyStr "o") :=
      ⟨⟨by decide +kernel, by decide +kernel, by decide +kernel, by decide +kernel, by decide +kernel⟩,
        surrogateFree_pyStr _⟩
    exact ⟨_, target_plain exampleBackend_fresh.no_directory hid .critical, by decide +kernel⟩
  request_fits := frameFits_textHeader (by decide +kernel) (by decide)
  reply_fits := frameFits_textHeader (by decide +kernel) (by decide)
  decodes := by decide +kernel

theorem stored_prefix_served_solo :
    (deploymentMachine Half soloSetup).answer (soloRun.take 2)
        (.call () {} (.getNumNewMatchedTokens soloPrompt 0 startEnv)) = .call (.tokens (1, false)) ∧
      (∃ md, (deploymentMachine Half soloSetup).answer (soloRun.take 2 ++
          [.call () {} (.getNumNewMatchedTokens soloPrompt 0 startEnv)] ++ [.call () {} (.requestFinished "q")])
          (.call () {} (.buildConnectorMeta soloPrompt)) = .call (.metadata (some md)) ∧
        Carries md "r" ((manifestOfPut soloManifest 0).asFound 0)) ∧
      ∀ link layerName (idx : ℕ) t, WorkerSide.extractLayerIdx layerName = some (idx : ℤ) →
        [(⟨[1, 1, 1, 1], [1], rfl⟩ : Tensor Half)][idx]? = some t →
        (∀ w, (((deploymentMachine Half soloSetup).exec (disturbedRun ++
            [.call () {} (.startLoadKv (some "r") { reply := none })] ++ [])).connectors ()).workerSide = some w →
          OwnFirst w "r" layerName) →
        (deploymentMachine Half soloSetup).answer (disturbedRun ++
            [.call () {} (.startLoadKv (some "r") { reply := none })] ++ [])
          (.call () link (.waitForLayerLoad layerName)) = .call (.layer (some t)) :=
  stored_prefix_served (Or.inl rfl) (by decide) (by decide) (by decide) rfl rfl rfl (by simp [Spares])
    (by simp [Spares]) (by simp) soloSetup_plans disturbedRun_delivers

end AwareKV
