import AwareKV.Adapter
import AwareKV.Config
import AwareKV.Hashing
import AwareKV.Metadata
import AwareKV.Planner
import AwareKV.State

/-!
# AwareKV.Scheduler — the scheduler side

Translation of `connector/scheduler_side.py`.  A query brings its environment with it (`QueryEnv`):
what the manifest service answers and what the estimator says.  The arithmetic on floats that the planner
computes with is part of the side; it rounds and raises as it does.

* `prepared`: everything that `prepare_request_state` can do, one case for each path.
* `buildRequestMetadata_eq_some`: when metadata is built, and from what.
-/

namespace AwareKV

/-! ## Environment of a query -/

/-- The response of `/manifest/query`; `manifest` is `none` when it is missing, empty or has keys
that `PrefixManifest` does not know. -/
structure ManifestResponse where
  statusCode : ℤ := 200
  hit : Bool := false
  manifest : Option PrefixManifest := none
  deriving DecidableEq

/-- How the request to the manifest service ends. -/
inductive ManifestAnswer
  | timeout
  | exception
  | response (r : ManifestResponse)
  deriving DecidableEq

/-- `_query_manifest`. -/
def queryManifest : ManifestAnswer → Option PrefixManifest
  | .timeout => none
  | .exception => none
  | .response r => if r.statusCode ≠ 200 then none else if !r.hit then none else r.manifest

/-- What one call of `prepare_request_state` reads from outside. -/
structure QueryEnv where
  answer : ManifestAnswer
  net : NetworkEstimate
  planId : String := ""
  now : ℤ := 0
  deriving DecidableEq

/-! ## Scheduler side -/

/-- `SchedulerSide`; the state manager is passed to its methods. -/
structure SchedulerSide where
  config : DeadlineKVConfig
  planner : DeadlinePlanner
  doubles : DoubleOps

namespace SchedulerSide

variable (sha256Hex : String → String) (side : SchedulerSide)

/-- The prompt checks: no tokens, or too few. -/
def Rejects (request : Request) : Prop :=
  extractPromptTokens request = [] ∨
    ((extractPromptTokens request).length : ℤ) < side.config.planner.minPrefixTokens

instance (request : Request) : Decidable (side.Rejects request) :=
  inferInstanceAs (Decidable (_ ∨ _))

/-- The state from which a call answers without asking the manifest service. -/
def cachedState (sm : StateManager) (rid : ReqId) : Option RequestTransferState :=
  (sm.get rid).filter (fun st => st.status = .hitPlanned ∨ st.status = .recompute)

/-- The prefix key of a request's whole prompt. -/
def prefixKeyOf (request : Request) : String :=
  computePrefixKey sha256Hex side.config.modelId side.config.tokenizerId side.config.kvLayoutVersion
    side.config.cacheDtype side.config.blockSize (extractPromptTokens request)
    (extractPromptTokens request).length

/-- `self.planner.plan(...)`. -/
def callPlanner (env : QueryEnv) (m : PrefixManifest) : Py TransferPlan :=
  side.planner.plan side.doubles env.net env.planId m side.config.enableRefinement

/-- `prepare_request_state` after the cached states: query, plan, record. -/
def prepareFresh (sm : StateManager) (request : Request) (numComputedTokens : ℤ) (env : QueryEnv) :
    StateManager × Py (ℤ × Bool) :=
  let rid := extractRequestId request
  let sm := (sm.createOrGet rid).update rid (fun st => { st with startTimeMs := env.now })
  let sm := sm.update rid (fun st => { st with prefixKey := some (side.prefixKeyOf sha256Hex request) })
  match queryManifest env.answer with
  | none =>
    let sm := sm.markManifestMiss rid "no_match"
    (sm.update rid (fun st => { st with matchedTokens := 0 }), .ok (0, false))
  | some m =>
    let sm := sm.markManifestHit rid m
    let sm := sm.update rid (fun st => { st with matchedTokens := m.matchedTokens })
    let sm := sm.update rid (fun st => { st with matchedBlocks := m.matchedBlocks })
    match side.callPlanner env m with
    | .error e => (sm, .error e)
    | .ok plan =>
      if plan.mode = .recompute then
        let sm := sm.markRecompute rid plan.reasonCode
        (sm.update rid (fun st => { st with matchedTokens := 0 }), .ok (0, false))
      else (sm.setPlan rid plan, .ok (max 0 (plan.matchedTokens - numComputedTokens), false))

/-- `prepare_request_state`. -/
def prepareRequestState (sm : StateManager) (request : Request) (numComputedTokens : ℤ)
    (env : QueryEnv) : StateManager × Py (ℤ × Bool) :=
  if side.Rejects request then (sm, .ok (0, false))
  else match cachedState sm (extractRequestId request) with
    | some st => (sm, .ok (st.matchedTokens, false))
    | none => side.prepareFresh sha256Hex sm request numComputedTokens env

/-- `bind_allocated_blocks`. -/
def bindAllocatedBlocks (sm : StateManager) (rid : ReqId) (blocks : List ℤ) : StateManager :=
  match sm.get rid with
  | none => sm
  | some _ => sm.setAllocatedBlocks rid blocks

/-- `build_request_metadata`. -/
def buildRequestMetadata (sm : StateManager) (rid : ReqId) : Option DeadlineConnectorMetadata :=
  match sm.get rid with
  | none => none
  | some st =>
    if st.status ≠ .hitPlanned then none
    else if st.manifest.isNone || st.plan.isNone then none
    else buildMetadataFromState st (some st.allocatedBlockIds)

/-! ### What the planner call can be -/

/-- The planner call raises. -/
def PlannerRaises (env : QueryEnv) (m : PrefixManifest) : Prop :=
  side.planner.Raises side.doubles env.net m side.config.enableRefinement

/-- The planner call returns a plan to load the manifest's prefix. -/
def PlannerAccepts (env : QueryEnv) (m : PrefixManifest) : Prop :=
  ¬ side.PlannerRaises env m ∧ side.planner.Accepts side.doubles env.net m

/-- An accepted manifest gets a plan that refines: its critical bytes fit, or refinement is enabled and
it has bytes to refine with. -/
def PlanRefines (env : QueryEnv) (m : PrefixManifest) : Prop :=
  side.planner.Refines side.doubles env.net m side.config.enableRefinement

instance (env : QueryEnv) (m : PrefixManifest) : Decidable (side.PlannerRaises env m) :=
  inferInstanceAs (Decidable (side.planner.Raises _ _ _ _))

instance (env : QueryEnv) (m : PrefixManifest) : Decidable (side.PlannerAccepts env m) :=
  inferInstanceAs (Decidable (_ ∧ _))

theorem not_accepts_of_raises {side : SchedulerSide} {env : QueryEnv} {m : PrefixManifest}
    (h : side.PlannerRaises env m) : ¬ side.PlannerAccepts env m := fun hacc => hacc.1 h

/-- **The outcomes of the planner call.** -/
theorem callPlanner_cases (env : QueryEnv) (m : PrefixManifest) :
    (side.PlannerRaises env m ∧ ∃ e, side.callPlanner env m = .error e) ∨
    (side.PlannerAccepts env m ∧ ¬ side.PlannerRaises env m ∧
      ∃ plan, side.callPlanner env m = .ok plan ∧ plan.mode ≠ .recompute ∧
        plan.matchedTokens = m.matchedTokens ∧ plan.matchedBlocks = m.matchedBlocks) ∨
    (¬ side.PlannerAccepts env m ∧ ¬ side.PlannerRaises env m ∧
      ∃ plan, side.callPlanner env m = .ok plan ∧ plan.mode = .recompute) := by
  have hplanned := DeadlinePlanner.plan_cases side.doubles side.planner env.net env.planId m
    side.config.enableRefinement
  unfold PlannerAccepts PlannerRaises callPlanner
  generalize side.planner.plan side.doubles env.net env.planId m side.config.enableRefinement = out at hplanned
  cases hplanned with
  | raised e hr => exact Or.inl ⟨hr, e, rfl⟩
  | short hs =>
    have hshort : ¬ side.planner.minPrefixTokens ≤ m.matchedTokens := not_le.mpr hs
    exact Or.inr (Or.inr ⟨fun h => hshort h.2.1, fun h => hshort h.1, _, rfl, rfl⟩)
  | accepted pl hr ha htok hblk hmode => exact Or.inr (Or.inl ⟨⟨hr, ha⟩, hr, pl, rfl, hmode, htok, hblk⟩)
  | late hr hs ha => exact Or.inr (Or.inr ⟨fun h => ha h.2, hr, _, rfl, rfl⟩)

/-- **When the plan of an accepted manifest refines.** -/
theorem callPlanner_refines {side : SchedulerSide} {env : QueryEnv} {m : PrefixManifest}
    {plan : TransferPlan} (ha : side.PlannerAccepts env m) (hcall : side.callPlanner env m = .ok plan) :
    plan.mode.refines = true ↔ side.PlanRefines env m := by
  have hplanned := DeadlinePlanner.plan_cases side.doubles side.planner env.net env.planId m
    side.config.enableRefinement
  rw [callPlanner] at hcall
  rw [hcall] at hplanned
  cases hplanned with
  | short hs => exact absurd ha.2.1 (not_le.mpr hs)
  | accepted _ _ _ _ _ _ _ hrefines => exact hrefines
  | late _ hs hnot => exact absurd ha.2 hnot

/-! ### What a preparation can be -/

/-- The state that a fresh preparation starts from. -/
def startState (sm : StateManager) (request : Request) (env : QueryEnv) : RequestTransferState :=
  { (sm.get (extractRequestId request)).getD (StateManager.fresh (extractRequestId request)) with
    startTimeMs := env.now, prefixKey := some (side.prefixKeyOf sha256Hex request) }

/-- A start state has the plan of the request's old state. -/
theorem startState_plan {sm : StateManager} {request : Request} {plan : TransferPlan} (env : QueryEnv) :
    (side.startState sha256Hex sm request env).plan = some plan ↔
      ∃ st, sm.get (extractRequestId request) = some st ∧ st.plan = some plan := by
  unfold startState
  cases sm.get (extractRequestId request) with
  | none => simp [StateManager.fresh]
  | some st => simp

/-- The state after a manifest miss. -/
def missState (sm : StateManager) (request : Request) (env : QueryEnv) : RequestTransferState :=
  { side.startState sha256Hex sm request env with
    status := .miss, fallbackReason := some "no_match", matchedTokens := 0 }

/-- The state after a manifest hit, before there is a plan. -/
def hitState (sm : StateManager) (request : Request) (env : QueryEnv) (m : PrefixManifest) :
    RequestTransferState :=
  { side.startState sha256Hex sm request env with
    manifest := some m, status := .hitPlanned, matchedTokens := m.matchedTokens,
    matchedBlocks := m.matchedBlocks }

/-- The state after a recompute plan. -/
def recomputeState (sm : StateManager) (request : Request) (env : QueryEnv) (m : PrefixManifest)
    (plan : TransferPlan) : RequestTransferState :=
  { side.hitState sha256Hex sm request env m with
    status := .miss, fallbackReason := some plan.reasonCode, matchedTokens := 0 }

/-- The state after an accepted plan. -/
def plannedState (sm : StateManager) (request : Request) (env : QueryEnv) (m : PrefixManifest)
    (plan : TransferPlan) : RequestTransferState :=
  { side.hitState sha256Hex sm request env m with plan := some plan }

/-- The paths of `prepare_request_state`, each with the state it leaves and its answer. -/
inductive Prepared (sm : StateManager) (request : Request) (c : ℤ) (env : QueryEnv) :
    StateManager × Py (ℤ × Bool) → Prop
  | rejected (hr : side.Rejects request) : Prepared sm request c env (sm, .ok (0, false))
  | cached (st : RequestTransferState) (hr : ¬ side.Rejects request)
      (hc : cachedState sm (extractRequestId request) = some st) :
      Prepared sm request c env (sm, .ok (st.matchedTokens, false))
  | missed (hr : ¬ side.Rejects request) (hc : cachedState sm (extractRequestId request) = none)
      (hq : queryManifest env.answer = none) :
      Prepared sm request c env
        (sm.put (extractRequestId request) (side.missState sha256Hex sm request env), .ok (0, false))
  | raised (m : PrefixManifest) (e : Exc) (hr : ¬ side.Rejects request)
      (hc : cachedState sm (extractRequestId request) = none)
      (hq : queryManifest env.answer = some m) (hp : side.PlannerRaises env m) :
      Prepared sm request c env
        (sm.put (extractRequestId request) (side.hitState sha256Hex sm request env m), .error e)
  | recomputed (m : PrefixManifest) (plan : TransferPlan) (hr : ¬ side.Rejects request)
      (hc : cachedState sm (extractRequestId request) = none)
      (hq : queryManifest env.answer = some m) (hp : ¬ side.PlannerRaises env m)
      (ha : ¬ side.PlannerAccepts env m) :
      Prepared sm request c env
        (sm.put (extractRequestId request) (side.recomputeState sha256Hex sm request env m plan),
          .ok (0, false))
  | accepted (m : PrefixManifest) (plan : TransferPlan) (hr : ¬ side.Rejects request)
      (hc : cachedState sm (extractRequestId request) = none)
      (hq : queryManifest env.answer = some m) (hp : ¬ side.PlannerRaises env m)
      (ha : side.PlannerAccepts env m) (hcall : side.callPlanner env m = .ok plan)
      (hmode : plan.mode ≠ .recompute) (htok : plan.matchedTokens = m.matchedTokens)
      (hblk : plan.matchedBlocks = m.matchedBlocks) :
      Prepared sm request c env
        (sm.put (extractRequestId request) (side.plannedState sha256Hex sm request env m plan),
          .ok (max 0 (m.matchedTokens - c), false))

/-- **Every preparation takes one of the paths.** -/
theorem prepared (sm : StateManager) (request : Request) (c : ℤ) (env : QueryEnv) :
    side.Prepared sha256Hex sm request c env
      (side.prepareRequestState sha256Hex sm request c env) := by
  unfold prepareRequestState
  by_cases hr : side.Rejects request
  · rw [if_pos hr]
    exact .rejected hr
  rw [if_neg hr]
  cases hc : cachedState sm (extractRequestId request) with
  | some st => exact .cached st hr hc
  | none =>
    simp only [prepareFresh, StateManager.createOrGet_eq, StateManager.update_put,
      StateManager.markManifestMiss, StateManager.markManifestHit, StateManager.markRecompute,
      StateManager.setPlan]
    cases hq : queryManifest env.answer with
    | none => exact .missed hr hc hq
    | some m =>
      rcases side.callPlanner_cases env m with
        ⟨hp, e, hcall⟩ | ⟨ha, hp, plan, hcall, hmode, htok, hblk⟩ | ⟨ha, hp, plan, hcall, hmode⟩
      · simp only [hcall]
        exact .raised m e hr hc hq hp
      · simp only [hcall, if_neg hmode, htok]
        exact .accepted m plan hr hc hq hp ha hcall hmode htok hblk
      · simp only [hcall, if_pos hmode]
        exact .recomputed m plan hr hc hq hp ha

/-! ### When metadata is built -/

/-- The request's state is planned, with a manifest and a plan. -/
def PlannedWith (sm : StateManager) (rid : ReqId) (st : RequestTransferState) (m : PrefixManifest)
    (plan : TransferPlan) : Prop :=
  sm.get rid = some st ∧ st.status = .hitPlanned ∧ st.manifest = some m ∧ st.plan = some plan

theorem buildRequestMetadata_eq_some {sm : StateManager} {rid : ReqId}
    {md : DeadlineConnectorMetadata} :
    buildRequestMetadata sm rid = some md ↔
      ∃ st m plan, PlannedWith sm rid st m plan ∧
        md = metadataOf st m plan (some st.allocatedBlockIds) := by
  unfold buildRequestMetadata PlannedWith
  cases hst : sm.get rid with
  | none => simp
  | some st =>
    by_cases hs : st.status = .hitPlanned
    · simp only [hs, ne_eq, not_true_eq_false, if_false]
      cases hm : st.manifest with
      | none => simp [hm]
      | some m =>
        cases hp : st.plan with
        | none => simp [hp]
        | some plan => simp [buildMetadataFromState, hm, hp, hs, eq_comm]
    · simp [hs]

/-- No metadata is built exactly for the requests that are not planned. -/
theorem buildRequestMetadata_eq_none {sm : StateManager} {rid : ReqId} :
    buildRequestMetadata sm rid = none ↔ ¬ ∃ st m plan, PlannedWith sm rid st m plan := by
  constructor
  · rintro h ⟨st, m, plan, hp⟩
    rw [buildRequestMetadata_eq_some.mpr ⟨st, m, plan, hp, rfl⟩] at h
    cases h
  · intro h
    cases hb : buildRequestMetadata sm rid with
    | none => rfl
    | some md =>
      obtain ⟨st, m, plan, hp, -⟩ := buildRequestMetadata_eq_some.mp hb
      exact absurd ⟨st, m, plan, hp⟩ h

end SchedulerSide

end AwareKV
