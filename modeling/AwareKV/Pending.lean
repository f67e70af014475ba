import AwareKV.Connector

/-!
# AwareKV.Pending — pending metadata belongs to a planned request

The connector keeps three stores that belong together: the pending metadata, the statuses, and the
manifests and plans of the states.  `SchedStep` says once how a call can change them;
`SchedInv` is the invariant, and `sched_inv` holds it of every run.

`pending_describes` and `fetches_planned` read it off: whoever has pending metadata is planned, the metadata
describes the manifest and the plan in the state, and so does every critical fetch.
-/

namespace AwareKV

variable {α : Type} (sha256Hex : String → String) (fo : FloatOps) (cfg : DeadlineKVConfig)
  (role : String)

/-! ### What a call can do to the stores -/

/-- How a call can change the state manager and the pending metadata. -/
inductive SchedStep (c : Connector α) :
    ConnectorOp α → StateManager → Dict ReqId DeadlineConnectorMetadata → Prop
  | queried (side : SchedulerSide) (request : Request) (n : ℤ) (env : QueryEnv)
      (hs : c.schedulerSide = some side) :
      SchedStep c (.getNumNewMatchedTokens request n env)
        (side.prepareRequestState sha256Hex c.stateManager request n env).1 c.pendingMetadata
  | allocated (request : Request) (out : SchedulerOutput) (blocks : List ℤ) :
      SchedStep c (.updateStateAfterAlloc request out)
        (SchedulerSide.bindAllocatedBlocks c.stateManager (extractRequestId request) blocks)
        c.pendingMetadata
  | built (request : Request) (md : DeadlineConnectorMetadata)
      (hb : SchedulerSide.buildRequestMetadata c.stateManager (extractRequestId request) = some md) :
      SchedStep c (.buildConnectorMeta request) c.stateManager
        (c.pendingMetadata.insert (extractRequestId request) md)
  | finished (rid : ReqId) (hs : c.schedulerSide.isSome) :
      SchedStep c (.requestFinished rid)
        (c.stateManager.update rid (fun st => { st with status := .done, requestFinished := true }))
        (c.pendingMetadata.erase rid)
  | finishedAlone (rid : ReqId) (hs : c.schedulerSide = none) :
      SchedStep c (.requestFinished rid) c.stateManager (c.pendingMetadata.erase rid)
  | kept (op : ConnectorOp α)
      (hq : ∀ request n env, op = .getNumNewMatchedTokens request n env → c.schedulerSide = none)
      (hf : ∀ rid, op ≠ .requestFinished rid) :
      SchedStep c op c.stateManager c.pendingMetadata

/-- What `request_finished` does to the stores, whether it raises or not. -/
theorem schedStep_forget (c : Connector α) (rid : ReqId) :
    SchedStep sha256Hex c (.requestFinished rid) (c.forget rid).stateManager
      (c.forget rid).pendingMetadata := by
  unfold Connector.forget
  cases hs : c.schedulerSide with
  | none => exact .finishedAlone rid hs
  | some side => exact .finished rid (by simp [hs])

/-- **Every call is such a step.** -/
theorem schedStep (c : Connector α) (op : ConnectorOp α) :
    SchedStep sha256Hex c op ((connectorMachine α sha256Hex fo cfg role).step c op).1.stateManager
      ((connectorMachine α sha256Hex fo cfg role).step c op).1.pendingMetadata := by
  have hstep := connectorStep sha256Hex fo cfg role c op
  generalize ((connectorMachine α sha256Hex fo cfg role).step c op).1 = c' at hstep ⊢
  generalize ((connectorMachine α sha256Hex fo cfg role).step c op).2 = answer at hstep
  cases hstep with
  | queried side request n env hs => exact .queried side request n env hs
  | allocated request out blocks => exact .allocated request out blocks
  | built request md hb => exact .built request md hb
  | finished rid hw => exact schedStep_forget sha256Hex c rid
  | finishRaised rid w e hw he => exact schedStep_forget sha256Hex c rid
  | kept op answer hq hf hg => exact .kept op hq hf
  | reported rid result => exact .kept _ (by simp) (by simp)
  | taken => exact .kept _ (by simp) (by simp)
  | loaded rid env w md hw hmd => exact .kept _ (by simp) (by simp)
  | saved layerName kvLayer attn rid w hw => exact .kept _ (by simp) (by simp)
  | refinementStarted rid k => exact .kept _ (by simp) (by simp)
  | refinementEnded rid k reply => exact .kept _ (by simp) (by simp)

variable {sha256Hex fo cfg role}

/-- A call makes metadata pending only as it builds it. -/
theorem pending_step {c : Connector α} {op : ConnectorOp α} {sm : StateManager}
    {pending : Dict ReqId DeadlineConnectorMetadata} (hs : SchedStep sha256Hex c op sm pending)
    {rid : ReqId} {md : DeadlineConnectorMetadata} (h : pending.get? rid = some md) :
    c.pendingMetadata.get? rid = some md ∨ ∃ request, op = .buildConnectorMeta request ∧
      extractRequestId request = rid ∧ SchedulerSide.buildRequestMetadata c.stateManager rid = some md := by
  cases hs with
  | queried side request n env hside => exact Or.inl h
  | allocated request out blocks => exact Or.inl h
  | built request md' hb =>
    rw [Dict.get?_insert] at h
    split_ifs at h with hq
    · cases h
      subst hq
      exact Or.inr ⟨request, rfl, rfl, hb⟩
    · exact Or.inl h
  | finished q hside => exact Or.inl (Dict.get?_erase_eq_some.mp h).2
  | finishedAlone q hside => exact Or.inl (Dict.get?_erase_eq_some.mp h).2
  | kept op hq hf => exact Or.inl h

/-! ### The invariant -/

open SchedulerSide

/-- Metadata of `rid` that carries the plan's mode and the manifest's data. -/
structure Describes (md : DeadlineConnectorMetadata) (rid : ReqId) (m : PrefixManifest)
    (plan : TransferPlan) : Prop where
  requestId : md.requestId = rid
  planMode : md.planMode = plan.mode
  matchedTokens : md.matchedTokens = m.matchedTokens
  matchedBlocks : md.matchedBlocks = m.matchedBlocks
  numLayers : md.numLayers = m.numLayers
  criticalObjectId : md.criticalObjectId = m.criticalObjectId
  criticalCodec : md.criticalCodec = m.criticalCodec
  criticalNbytes : md.criticalNbytes = m.criticalNbytes

theorem metadataOf_describes (st : RequestTransferState) (m : PrefixManifest) (plan : TransferPlan)
    (blocks : Option (List ℤ)) : Describes (metadataOf st m plan blocks) st.requestId m plan :=
  ⟨rfl, rfl, rfl, rfl, rfl, rfl, rfl, rfl⟩

/-- **The invariant of the stores.** -/
structure SchedInv (sm : StateManager) (pending : Dict ReqId DeadlineConnectorMetadata) : Prop where
  ids : ∀ rid st, sm.get rid = some st → st.requestId = rid
  plans : ∀ rid st plan, sm.get rid = some st → st.plan = some plan → plan.mode ≠ .recompute
  pending : ∀ rid md, pending.get? rid = some md →
    ∃ st m plan, PlannedWith sm rid st m plan ∧ Describes md rid m plan

theorem schedInv_init : SchedInv .new .empty :=
  ⟨by simp, by simp, by simp⟩

/-- A planned request answers from its state. -/
theorem cachedState_of_planned {sm : StateManager} {rid : ReqId} {st : RequestTransferState}
    {m : PrefixManifest} {plan : TransferPlan} (h : PlannedWith sm rid st m plan) :
    cachedState sm rid = some st := by
  simp [cachedState, h.1, h.2.1]

section Keep

variable {sm : StateManager} {pending : Dict ReqId DeadlineConnectorMetadata}

/-- The invariant survives a new state for a request that is not planned. -/
theorem SchedInv.put (h : SchedInv sm pending) {rid : ReqId} (hc : cachedState sm rid = none)
    {st : RequestTransferState} (hid : st.requestId = rid)
    (hplan : ∀ plan, st.plan = some plan → plan.mode ≠ .recompute) : SchedInv (sm.put rid st) pending where
  ids q u hu := by
    rw [StateManager.get_put] at hu
    split_ifs at hu with hq
    · cases hu; rw [hid, hq]
    · exact h.ids q u hu
  plans q u plan hu := by
    rw [StateManager.get_put] at hu
    split_ifs at hu
    · cases hu; exact hplan plan
    · exact h.plans q u plan hu
  pending q md hmd := by
    obtain ⟨u, m, plan, hp, hd⟩ := h.pending q md hmd
    have hq : q ≠ rid := by
      rintro rfl
      rw [cachedState_of_planned hp] at hc
      cases hc
    refine ⟨u, m, plan, ⟨?_, hp.2⟩, hd⟩
    rw [StateManager.get_put, if_neg hq]
    exact hp.1

/-- The invariant survives an update that keeps id and plan, if the request has no pending metadata
or stays planned. -/
theorem SchedInv.update (h : SchedInv sm pending) {rid : ReqId}
    {f : RequestTransferState → RequestTransferState} (hid : ∀ st, (f st).requestId = st.requestId)
    (hplan : ∀ st, (f st).plan = st.plan)
    (hkeep : pending.get? rid = none ∨
      ∀ st, (f st).status = st.status ∧ (f st).manifest = st.manifest) :
    SchedInv (sm.update rid f) pending where
  ids q u hu := by
    obtain ⟨rfl, st, hst, rfl⟩ | ⟨hq, hold⟩ := StateManager.get_update_eq_some.mp hu
    · exact (hid st).trans (h.ids q st hst)
    · exact h.ids q u hold
  plans q u plan hu := by
    obtain ⟨rfl, st, hst, rfl⟩ | ⟨hq, hold⟩ := StateManager.get_update_eq_some.mp hu
    · rw [hplan]
      exact h.plans q st plan hst
    · exact h.plans q u plan hold
  pending q md hmd := by
    obtain ⟨u, m, plan, ⟨hu, hstat, hman, hpl⟩, hd⟩ := h.pending q md hmd
    by_cases hq : q = rid
    · subst hq
      rcases hkeep with hnone | hkeep
      · rw [hnone] at hmd
        cases hmd
      · refine ⟨f u, m, plan, ⟨?_, (hkeep u).1.trans hstat, (hkeep u).2.trans hman, ?_⟩, hd⟩
        · rw [StateManager.get_update, if_pos rfl, hu]
          rfl
        · rw [hplan, hpl]
    · refine ⟨u, m, plan, ⟨?_, hstat, hman, hpl⟩, hd⟩
      rw [StateManager.get_update, if_neg hq, hu]

/-- The invariant survives the removal of pending metadata. -/
theorem SchedInv.erase (h : SchedInv sm pending) (rid : ReqId) : SchedInv sm (pending.erase rid) where
  ids := h.ids
  plans := h.plans
  pending q md hmd := h.pending q md (Dict.get?_erase_eq_some.mp hmd).2

/-- The invariant survives metadata that is built from the request's state. -/
theorem SchedInv.built (h : SchedInv sm pending) {rid : ReqId} {md : DeadlineConnectorMetadata}
    (hb : buildRequestMetadata sm rid = some md) : SchedInv sm (pending.insert rid md) where
  ids := h.ids
  plans := h.plans
  pending q md' hmd := by
    rw [Dict.get?_insert] at hmd
    split_ifs at hmd with hq
    · cases hmd
      subst hq
      obtain ⟨st, m, plan, hp, rfl⟩ := buildRequestMetadata_eq_some.mp hb
      exact ⟨st, m, plan, hp, h.ids q st hp.1 ▸ metadataOf_describes st m plan _⟩
    · exact h.pending q md' hmd

/-- The state that a preparation starts from keeps id and plan. -/
theorem SchedInv.start (h : SchedInv sm pending) (sha256Hex : String → String) (side : SchedulerSide)
    (request : Request) (env : QueryEnv) :
    (side.startState sha256Hex sm request env).requestId = extractRequestId request ∧
      ∀ plan, (side.startState sha256Hex sm request env).plan = some plan → plan.mode ≠ .recompute := by
  simp only [startState]
  cases hst : sm.get (extractRequestId request) with
  | none => simp [StateManager.fresh]
  | some st => exact ⟨h.ids _ st hst, fun plan => h.plans _ st plan hst⟩

/-- **The invariant survives every preparation.** -/
theorem SchedInv.prepared (h : SchedInv sm pending) (side : SchedulerSide) (request : Request) (n : ℤ)
    (env : QueryEnv) : SchedInv (side.prepareRequestState sha256Hex sm request n env).1 pending := by
  obtain ⟨hid, hplan⟩ := h.start sha256Hex side request env
  have hout := side.prepared sha256Hex sm request n env
  generalize side.prepareRequestState sha256Hex sm request n env = out at hout
  cases hout with
  | rejected hr => exact h
  | cached st hr hc => exact h
  | missed hr hc hq => exact h.put hc hid hplan
  | raised m e hr hc hq hp => exact h.put hc hid hplan
  | recomputed m plan hr hc hq hp ha => exact h.put hc hid hplan
  | accepted m plan hr hc hq hp ha hcall hmode htok hblk =>
    exact h.put hc hid fun plan' hp' => by cases hp'; exact hmode

end Keep

/-- **Step lemma.** -/
theorem SchedInv.step {c : Connector α} (h : SchedInv c.stateManager c.pendingMetadata)
    {op : ConnectorOp α} {sm : StateManager} {pending : Dict ReqId DeadlineConnectorMetadata}
    (hs : SchedStep sha256Hex c op sm pending) : SchedInv sm pending := by
  cases hs with
  | queried side request n env hs => exact h.prepared side request n env
  | allocated request out blocks =>
    unfold bindAllocatedBlocks
    split
    · exact h
    · exact h.update (fun _ => rfl) (fun _ => rfl) (Or.inr fun _ => ⟨rfl, rfl⟩)
  | built request md hb => exact h.built hb
  | finished rid hs =>
    exact (h.erase rid).update (fun _ => rfl) (fun _ => rfl) (Or.inl (by simp))
  | finishedAlone rid hs => exact h.erase rid
  | kept op hq hf => exact h

variable (sha256Hex fo cfg role)

/-- **The invariant holds in every run.** -/
theorem sched_inv (ops : List (ConnectorOp α)) :
    SchedInv ((connectorMachine α sha256Hex fo cfg role).exec ops).stateManager
      ((connectorMachine α sha256Hex fo cfg role).exec ops).pendingMetadata := by
  refine (connectorMachine α sha256Hex fo cfg role).invariant
    (I := fun c => SchedInv c.stateManager c.pendingMetadata) ?_ ?_ ops
  · rw [connectorMachine_init, Connector.start_stateManager, Connector.start_pendingMetadata]
    exact schedInv_init
  · exact fun c op h => h.step (schedStep sha256Hex fo cfg role c op)

variable {sha256Hex fo cfg role}

/-! ### What it says -/

/-- The fetches that a call adds. -/
def fetchedBy (M : Machine (Connector α) (ConnectorOp α) ConnectorAnswer) (pre : List (ConnectorOp α))
    (op : ConnectorOp α) : List Fetch :=
  (M.step (M.exec pre) op).1.fetches.drop (M.exec pre).fetches.length

/-- A load fetches for its request's pending metadata, or not at all. -/
theorem fetchedBy_startLoadKv {pre : List (ConnectorOp α)} {requestId : Option ReqId} {env : LoadEnv} :
    fetchedBy (connectorMachine α sha256Hex fo cfg role) pre (.startLoadKv requestId env) =
      if ((connectorMachine α sha256Hex fo cfg role).exec pre).workerSide.isNone ∨
        requestId.getD "" = "" then []
      else (((connectorMachine α sha256Hex fo cfg role).exec pre).pendingMetadata.get?
        (requestId.getD "")).toList.map (fun md => ⟨.critical, md.criticalObjectId, md.requestId⟩) := by
  unfold fetchedBy
  generalize (connectorMachine α sha256Hex fo cfg role).exec pre = c
  have hstep : ((connectorMachine α sha256Hex fo cfg role).step c (.startLoadKv requestId env)).1 =
    c.startLoadKv fo requestId env := rfl
  rw [hstep, Connector.startLoadKv_fetches, List.drop_left]

/-- **Pending metadata belongs to a planned request**: a request with pending metadata is `HIT_PLANNED`, with a
manifest and a plan that is not a recompute plan, and the metadata describes the two. -/
theorem pending_describes (ops : List (ConnectorOp α)) {rid : ReqId} {md : DeadlineConnectorMetadata}
    (hmd : ((connectorMachine α sha256Hex fo cfg role).exec ops).pendingMetadata.get? rid = some md) :
    ∃ st m plan, PlannedWith ((connectorMachine α sha256Hex fo cfg role).exec ops).stateManager rid st m plan ∧
      plan.mode ≠ .recompute ∧ Describes md rid m plan := by
  have hinv := sched_inv sha256Hex fo cfg role ops
  obtain ⟨st, m, plan, hplanned, hd⟩ := hinv.pending rid md hmd
  exact ⟨st, m, plan, hplanned, hinv.plans rid st plan hplanned.1 hplanned.2.2.2, hd⟩

/-- What `start_load_kv` fetches is the critical object of the manifest that the request's state then holds,
under a plan that is not a recompute plan, and not while the request is `MISS` or `DONE`. -/
def FetchesPlanned (M : Machine (Connector α) (ConnectorOp α) ConnectorAnswer) (pre : List (ConnectorOp α))
    (op : ConnectorOp α) : Prop :=
  ∀ requestId env, op = .startLoadKv requestId env →
    ∀ f ∈ fetchedBy M pre op, requestId = some f.requestId ∧
      ∃ st m plan, (M.exec pre).stateManager.get f.requestId = some st ∧
        st.status = .hitPlanned ∧ st.status ≠ .miss ∧ st.status ≠ .done ∧ st.manifest = some m ∧
        st.plan = some plan ∧ plan.mode ≠ .recompute ∧ f.objectId = m.criticalObjectId

/-- **Critical fetches belong to planned requests**, in every run. -/
theorem fetches_planned (ops : List (ConnectorOp α)) :
    EveryStep (FetchesPlanned (connectorMachine α sha256Hex fo cfg role)) ops := by
  rintro pre op post - requestId env rfl f hf
  rw [fetchedBy_startLoadKv] at hf
  split_ifs at hf with hno
  · cases hf
  · obtain ⟨md, hmd, rfl⟩ := List.mem_map.mp hf
    rw [Option.mem_toList] at hmd
    obtain ⟨st, m, plan, ⟨hst, hstat, hman, hpl⟩, hmode, hd⟩ := pending_describes pre hmd
    have hid : requestId = some md.requestId := by
      cases requestId with
      | none => simp at hno
      | some q => exact congrArg some hd.requestId.symm
    rw [hid, Option.getD_some] at hst
    exact ⟨hid, st, m, plan, hst, hstat, by simp [hstat], by simp [hstat], hman, hpl, hmode,
      hd.criticalObjectId⟩

end AwareKV
