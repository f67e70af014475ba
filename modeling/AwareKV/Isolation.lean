import AwareKV.Cleanup
import AwareKV.LoadGate

/-!
# AwareKV.Isolation — requests do not see each other on the scheduler side

The scheduler side's own methods and the connector's scheduler-side calls, in any order, for any
requests.  Two runs are compared: one with all calls, and one with the calls of a single request,
in which plan ids and start times may be drawn anew.  `SameFor` is what the two have in common; each
own call keeps it and answers alike (`sameFor_own`), every other call keeps it (`sameFor_other`), and
the unwinding rule gives `scheduler_isolation`.
-/

namespace AwareKV

variable {α : Type}

/-! ### Calls -/

/-- A call of `SchedulerSide`, or a scheduler-side lifecycle call of the connector. -/
inductive SchedulerOp
  | prepareRequestState (request : Request) (numComputedTokens : ℤ) (env : QueryEnv)
  | bindAllocatedBlocks (rid : ReqId) (blocks : List ℤ)
  | buildRequestMetadata (rid : ReqId)
  | getNumNewMatchedTokens (request : Request) (numComputedTokens : ℤ) (env : QueryEnv)
  | updateStateAfterAlloc (request : Request) (out : SchedulerOutput)
  | buildConnectorMeta (request : Request)
  | updateConnectorOutput (rid : ReqId) (result : Option WorkerLoadResult)
  | requestFinished (rid : ReqId)
  deriving DecidableEq

/-- The request that a call is for. -/
def SchedulerOp.owner : SchedulerOp → ReqId
  | .prepareRequestState request _ _ => extractRequestId request
  | .bindAllocatedBlocks rid _ => rid
  | .buildRequestMetadata rid => rid
  | .getNumNewMatchedTokens request _ _ => extractRequestId request
  | .updateStateAfterAlloc request _ => extractRequestId request
  | .buildConnectorMeta request => extractRequestId request
  | .updateConnectorOutput rid _ => rid
  | .requestFinished rid => rid

/-- What a call gives back. -/
inductive SchedulerAnswer
  | done
  | tokens (answer : Py (ℤ × Bool))
  | metadata (md : Option DeadlineConnectorMetadata)
  | finished (answer : Py Unit)
  deriving DecidableEq

/-- A call of a method of the scheduler side, on its state manager. -/
def Connector.onSide (c : Connector α)
    (call : SchedulerSide → StateManager → StateManager × SchedulerAnswer) :
    Connector α × SchedulerAnswer :=
  match c.schedulerSide with
  | none => (c, .done)
  | some side =>
    ({ c with stateManager := (call side c.stateManager).1 }, (call side c.stateManager).2)

/-- The scheduler side as a machine, from any connector. -/
def schedulerMachine (sha256Hex : String → String) (c₀ : Connector α) :
    Machine (Connector α) SchedulerOp SchedulerAnswer where
  init := c₀
  step c
    | .prepareRequestState request n env =>
      c.onSide fun side sm =>
        ((side.prepareRequestState sha256Hex sm request n env).1,
          .tokens (side.prepareRequestState sha256Hex sm request n env).2)
    | .bindAllocatedBlocks rid blocks =>
      c.onSide fun _ sm => (SchedulerSide.bindAllocatedBlocks sm rid blocks, .done)
    | .buildRequestMetadata rid =>
      c.onSide fun _ sm => (sm, .metadata (SchedulerSide.buildRequestMetadata sm rid))
    | .getNumNewMatchedTokens request n env =>
      ((c.getNumNewMatchedTokens sha256Hex request n env).1,
        .tokens (.ok (c.getNumNewMatchedTokens sha256Hex request n env).2))
    | .updateStateAfterAlloc request out => (c.updateStateAfterAlloc request out, .done)
    | .buildConnectorMeta request =>
      ((c.buildConnectorMeta request).1, .metadata (c.buildConnectorMeta request).2)
    | .updateConnectorOutput rid result => (c.updateConnectorOutput rid result, .done)
    | .requestFinished rid => ((c.requestFinished rid).1, .finished (c.requestFinished rid).2)

/-! ### Up to plan ids and start times -/

/-- A query's environment without the drawn plan id and the clock. -/
def QueryEnv.sansRandom (env : QueryEnv) : QueryEnv := { env with planId := "", now := 0 }

/-- A plan without its id. -/
def TransferPlan.sansId (plan : TransferPlan) : TransferPlan := { plan with planId := "" }

/-- A state without its start time and its plan's id. -/
def RequestTransferState.sansRandom (st : RequestTransferState) : RequestTransferState :=
  { st with startTimeMs := 0, plan := st.plan.map TransferPlan.sansId }

/-- A call without what is drawn or read from the clock. -/
def SchedulerOp.sansRandom : SchedulerOp → SchedulerOp
  | .prepareRequestState request n env => .prepareRequestState request n env.sansRandom
  | .getNumNewMatchedTokens request n env => .getNumNewMatchedTokens request n env.sansRandom
  | op => op

/-- The same call, up to plan id and start time. -/
def SameCall (op op' : SchedulerOp) : Prop := op.sansRandom = op'.sansRandom

/-- The states are the same, up to start time and plan id. -/
def SameState (st st' : RequestTransferState) : Prop := st.sansRandom = st'.sansRandom

theorem exists_planId {plan plan' : TransferPlan} (h : plan.sansId = plan'.sansId) :
    ∃ id, plan' = { plan with planId := id } := by
  obtain ⟨⟩ := plan
  obtain ⟨⟩ := plan'
  simp only [TransferPlan.sansId, TransferPlan.mk.injEq, true_and] at h
  obtain ⟨rfl, rfl, rfl, rfl, rfl, rfl, rfl, rfl, rfl, rfl⟩ := h
  exact ⟨_, rfl⟩

/-- Two states that are the same differ in start time and plan id only. -/
theorem sameState_iff {st st' : RequestTransferState} :
    SameState st st' ↔ ∃ t plan, plan.map TransferPlan.sansId = st.plan.map TransferPlan.sansId ∧
      st' = { st with startTimeMs := t, plan := plan } := by
  constructor
  · intro h
    obtain ⟨⟩ := st
    obtain ⟨⟩ := st'
    simp only [SameState, RequestTransferState.sansRandom, RequestTransferState.mk.injEq] at h
    obtain ⟨rfl, rfl, rfl, rfl, hplan, rfl, rfl, -, rfl, rfl, rfl, rfl, rfl, rfl, rfl, rfl⟩ := h
    exact ⟨_, _, hplan.symm, rfl⟩
  · rintro ⟨t, plan, hplan, rfl⟩
    simp only [SameState, RequestTransferState.sansRandom, hplan]

/-- Plans of one manifest over one network differ in their ids only. -/
theorem plan_sansId (fl : DoubleOps) (p : DeadlinePlanner) (net : NetworkEstimate) (id id' : String)
    (m : PrefixManifest) (enableRefinement : Bool) :
    (p.plan fl net id m enableRefinement).map TransferPlan.sansId =
      (p.plan fl net id' m enableRefinement).map TransferPlan.sansId := by
  rw [DeadlinePlanner.plan_planId fl p net id, DeadlinePlanner.plan_planId fl p net id']
  cases p.plan fl net "" m enableRefinement <;> rfl

namespace SchedulerSide

variable {sha256Hex : String → String} (side : SchedulerSide)

/-- The planner is not told the start time, and does not use the id. -/
theorem callPlanner_sansId {env env' : QueryEnv} (henv : env.sansRandom = env'.sansRandom)
    (m : PrefixManifest) :
    (side.callPlanner env m).map TransferPlan.sansId =
      (side.callPlanner env' m).map TransferPlan.sansId := by
  simp only [QueryEnv.sansRandom, QueryEnv.mk.injEq] at henv
  obtain ⟨-, hnet, -, -⟩ := henv
  unfold callPlanner
  rw [hnet]
  exact plan_sansId side.doubles side.planner env'.net env.planId env'.planId m side.config.enableRefinement

/-- How the planner's outcomes for the same query compare. -/
theorem callPlanner_same {env env' : QueryEnv} (henv : env.sansRandom = env'.sansRandom)
    (m : PrefixManifest) :
    (∃ e, side.callPlanner env m = .error e ∧ side.callPlanner env' m = .error e) ∨
      ∃ plan id, side.callPlanner env m = .ok plan ∧
        side.callPlanner env' m = .ok { plan with planId := id } := by
  have h := side.callPlanner_sansId henv m
  cases hp : side.callPlanner env m with
  | error e =>
    cases hp' : side.callPlanner env' m with
    | error e' =>
      rw [hp, hp'] at h
      cases h
      exact Or.inl ⟨e, rfl, rfl⟩
    | ok plan' =>
      rw [hp, hp'] at h
      cases h
  | ok plan =>
    cases hp' : side.callPlanner env' m with
    | error e' =>
      rw [hp, hp'] at h
      cases h
    | ok plan' =>
      rw [hp, hp'] at h
      obtain ⟨id, rfl⟩ := exists_planId (Except.ok.inj h)
      exact Or.inr ⟨plan, id, rfl, rfl⟩

end SchedulerSide

/-! ### One request's slots -/

/-- The slots of the same request in two state managers. -/
def SameSlot (s s' : Option RequestTransferState) : Prop :=
  s.map RequestTransferState.sansRandom = s'.map RequestTransferState.sansRandom

theorem sameSlot_some {st : RequestTransferState} {s' : Option RequestTransferState}
    (h : SameSlot (some st) s') : ∃ st', s' = some st' ∧ SameState st st' := by
  cases s' with
  | none => cases h
  | some st' => exact ⟨st', rfl, Option.some.inj h⟩

theorem sameSlot_none {s' : Option RequestTransferState} (h : SameSlot none s') : s' = none := by
  cases s' with
  | none => rfl
  | some st' => cases h

/-- Two slots that are the same are both empty, or differ in start time and plan id only. -/
theorem sameSlot_cases {s s' : Option RequestTransferState} (h : SameSlot s s') :
    (s = none ∧ s' = none) ∨ ∃ st t plan,
      plan.map TransferPlan.sansId = st.plan.map TransferPlan.sansId ∧ s = some st ∧
        s' = some { st with startTimeMs := t, plan := plan } := by
  cases s with
  | none => exact Or.inl ⟨rfl, sameSlot_none h⟩
  | some st =>
    obtain ⟨st', rfl, hsame⟩ := sameSlot_some h
    obtain ⟨t, plan, hplan, rfl⟩ := sameState_iff.mp hsame
    exact Or.inr ⟨st, t, plan, hplan, rfl, rfl⟩

namespace SchedulerSide

variable {sha256Hex : String → String} (side : SchedulerSide)

theorem cachedState_same {sm sm' : StateManager} {rid : ReqId}
    (hslot : SameSlot (sm.get rid) (sm'.get rid)) :
    SameSlot (cachedState sm rid) (cachedState sm' rid) := by
  unfold cachedState
  rcases sameSlot_cases hslot with ⟨hst, hst'⟩ | ⟨st, t, plan, hplan, hst, hst'⟩
  · rw [hst, hst']
    rfl
  · rw [hst, hst', Option.filter_some, Option.filter_some]
    split_ifs
    · rwa [hst, hst'] at hslot
    · rfl

/-- The state that a query without cached answer starts from. -/
theorem fresh_same {sm sm' : StateManager} {rid : ReqId} (hslot : SameSlot (sm.get rid) (sm'.get rid)) :
    SameState ((sm.get rid).getD (StateManager.fresh rid)) ((sm'.get rid).getD (StateManager.fresh rid)) := by
  rcases sameSlot_cases hslot with ⟨hst, hst'⟩ | ⟨st, t, plan, hplan, hst, hst'⟩
  · rw [hst, hst']
    rfl
  · rw [hst, hst']
    exact sameState_iff.mpr ⟨t, plan, hplan, rfl⟩

/-- A fresh query reads and writes its request's slot only. -/
theorem prepareFresh_same (sha256Hex : String → String) {sm sm' : StateManager} {request : Request}
    (n : ℤ) {env env' : QueryEnv}
    (hslot : SameSlot (sm.get (extractRequestId request)) (sm'.get (extractRequestId request)))
    (henv : env.sansRandom = env'.sansRandom) :
    SameSlot ((side.prepareFresh sha256Hex sm request n env).1.get (extractRequestId request))
        ((side.prepareFresh sha256Hex sm' request n env').1.get (extractRequestId request)) ∧
      (side.prepareFresh sha256Hex sm request n env).2 =
        (side.prepareFresh sha256Hex sm' request n env').2 := by
  have hstart := fresh_same hslot
  have hanswer : env.answer = env'.answer := (QueryEnv.mk.inj henv).1
  simp only [prepareFresh, StateManager.createOrGet_eq, StateManager.update_put,
    StateManager.markManifestMiss, StateManager.markManifestHit, StateManager.markRecompute,
    StateManager.setPlan, hanswer]
  generalize (sm.get (extractRequestId request)).getD
    (StateManager.fresh (extractRequestId request)) = st
    at hstart ⊢
  generalize (sm'.get (extractRequestId request)).getD
    (StateManager.fresh (extractRequestId request)) = st'
    at hstart ⊢
  obtain ⟨t, plan, hplan, rfl⟩ := sameState_iff.mp hstart
  cases queryManifest env'.answer with
  | none =>
    simp only [StateManager.get_put, if_true, and_true]
    exact congrArg some (sameState_iff.mpr ⟨_, _, hplan, rfl⟩)
  | some m =>
    rcases side.callPlanner_same henv m with ⟨e, he, he'⟩ | ⟨pl, id, hp, hp'⟩
    · simp only [he, he', StateManager.get_put, if_true, and_true]
      exact congrArg some (sameState_iff.mpr ⟨_, _, hplan, rfl⟩)
    · simp only [hp, hp']
      split_ifs
      · simp only [StateManager.get_put, if_true, and_true]
        exact congrArg some (sameState_iff.mpr ⟨_, _, hplan, rfl⟩)
      · -- the new plans take the place of the old ones
        simp only [StateManager.get_put, if_true, and_true]
        exact congrArg some (sameState_iff.mpr ⟨_, some { pl with planId := id }, rfl, rfl⟩)

/-- **A preparation reads and writes its request's slot only**: the same query, from the same slot,
gets the same answer and leaves the same slot. -/
theorem prepare_same (sha256Hex : String → String) {sm sm' : StateManager} {request : Request} (n : ℤ)
    {env env' : QueryEnv}
    (hslot : SameSlot (sm.get (extractRequestId request)) (sm'.get (extractRequestId request)))
    (henv : env.sansRandom = env'.sansRandom) :
    SameSlot ((side.prepareRequestState sha256Hex sm request n env).1.get (extractRequestId request))
        ((side.prepareRequestState sha256Hex sm' request n env').1.get (extractRequestId request)) ∧
      (side.prepareRequestState sha256Hex sm request n env).2 =
        (side.prepareRequestState sha256Hex sm' request n env').2 := by
  unfold prepareRequestState
  by_cases hr : side.Rejects request
  · rw [if_pos hr, if_pos hr]
    exact ⟨hslot, rfl⟩
  rw [if_neg hr, if_neg hr]
  rcases sameSlot_cases (cachedState_same hslot) with ⟨hc, hc'⟩ | ⟨st, t, plan, -, hc, hc'⟩
  · rw [hc, hc']
    exact side.prepareFresh_same sha256Hex n hslot henv
  · rw [hc, hc']
    exact ⟨hslot, rfl⟩

/-- Binding blocks reads and writes one slot. -/
theorem bind_same {sm sm' : StateManager} {rid : ReqId} (hslot : SameSlot (sm.get rid) (sm'.get rid))
    (blocks : List ℤ) :
    SameSlot ((bindAllocatedBlocks sm rid blocks).get rid)
      ((bindAllocatedBlocks sm' rid blocks).get rid) := by
  unfold bindAllocatedBlocks
  rcases sameSlot_cases hslot with ⟨hst, hst'⟩ | ⟨st, t, plan, hplan, hst, hst'⟩
  · simp only [hst, hst']
    rfl
  · simp only [hst, hst', StateManager.setAllocatedBlocks, StateManager.get_update, if_true,
      Option.map_some]
    exact congrArg some (sameState_iff.mpr ⟨_, _, hplan, rfl⟩)

/-- Metadata is built from one slot, and has neither plan id nor start time. -/
theorem build_same {sm sm' : StateManager} {rid : ReqId}
    (hslot : SameSlot (sm.get rid) (sm'.get rid)) :
    buildRequestMetadata sm rid = buildRequestMetadata sm' rid := by
  unfold buildRequestMetadata
  rcases sameSlot_cases hslot with ⟨hst, hst'⟩ | ⟨st, t, plan, hplan, hst, hst'⟩
  · rw [hst, hst']
  · simp only [hst, hst', buildMetadataFromState]
    cases hp : st.plan with
    | none =>
      rw [hp] at hplan
      rw [Option.map_eq_none_iff.mp hplan]
      cases st.manifest <;> rfl
    | some pl =>
      rw [hp] at hplan
      obtain ⟨pl', rfl, hid⟩ := Option.map_eq_some_iff.mp hplan
      obtain ⟨id, rfl⟩ := exists_planId hid.symm
      cases st.manifest <;> rfl

end SchedulerSide

/-- The report about a save session depends on that session only. -/
theorem requestFinished_same {w w' : WorkerSide α} {rid : ReqId}
    (h : w.saveSessions.get? rid = w'.saveSessions.get? rid) :
    (w.requestFinished rid).2 = (w'.requestFinished rid).2 ∧
      (w.requestFinished rid).1.saveSessions.get? rid =
        (w'.requestFinished rid).1.saveSessions.get? rid := by
  simp only [WorkerSide.requestFinished, h]
  cases hs : w'.saveSessions.get? rid with
  | none => exact ⟨rfl, h.trans rfl⟩
  | some session =>
    cases hr : WorkerSide.reportSession session with
    | ok u => simp [hr]
    | error e => simp [hr, h]

/-! ### What two connectors have in common for a request -/

/-- The two connectors hold the same for `rid`, up to its start time and plan id. -/
structure SameFor (rid : ReqId) (c c' : Connector α) : Prop where
  side : c.schedulerSide = c'.schedulerSide
  slot : SameSlot (c.stateManager.get rid) (c'.stateManager.get rid)
  pending : c.pendingMetadata.get? rid = c'.pendingMetadata.get? rid
  result : c.workerResults.get? rid = c'.workerResults.get? rid
  session : c.workerSide.map (fun w => w.saveSessions.get? rid) =
    c'.workerSide.map (fun w => w.saveSessions.get? rid)

namespace SameFor

variable {rid : ReqId} {c c' c'' : Connector α}

theorem refl (rid : ReqId) (c : Connector α) : SameFor rid c c := ⟨rfl, rfl, rfl, rfl, rfl⟩

theorem trans (h : SameFor rid c c') (h' : SameFor rid c' c'') : SameFor rid c c'' :=
  ⟨h.side.trans h'.side, Eq.trans h.slot h'.slot, h.pending.trans h'.pending,
    h.result.trans h'.result, h.session.trans h'.session⟩

/-- Changing the state managers only. -/
theorem states (h : SameFor rid c c') {sm sm' : StateManager} (hslot : SameSlot (sm.get rid) (sm'.get rid)) :
    SameFor rid { c with stateManager := sm } { c' with stateManager := sm' } :=
  ⟨h.side, hslot, h.pending, h.result, h.session⟩

theorem cleanup (h : SameFor rid c c') : c.cleanup rid = c'.cleanup rid := by
  have hsession := h.session
  unfold Connector.cleanup
  cases hw : c.workerSide with
  | none =>
    cases hw' : c'.workerSide with
    | none => rfl
    | some w' =>
      rw [hw, hw'] at hsession
      cases hsession
  | some w =>
    cases hw' : c'.workerSide with
    | none =>
      rw [hw, hw'] at hsession
      cases hsession
    | some w' =>
      rw [hw, hw'] at hsession
      exact (requestFinished_same (Option.some.inj hsession)).1

theorem sessions_after (h : SameFor rid c c') :
    (c.workerSide.map (fun w => (w.requestFinished rid).1)).map (fun w => w.saveSessions.get? rid) =
      (c'.workerSide.map (fun w => (w.requestFinished rid).1)).map
        (fun w => w.saveSessions.get? rid) := by
  have hsession := h.session
  cases hw : c.workerSide with
  | none =>
    rw [hw] at hsession
    rw [Option.map_eq_none_iff.mp hsession.symm]
  | some w =>
    rw [hw] at hsession
    obtain ⟨w', hw', hget⟩ := Option.map_eq_some_iff.mp hsession.symm
    rw [hw']
    exact congrArg some (requestFinished_same hget.symm).2

end SameFor

section Steps

variable {sha256Hex : String → String} {c₀ c c' : Connector α} {rid : ReqId}

theorem onSide_same {call call' : SchedulerSide → StateManager → StateManager × SchedulerAnswer}
    (h : SameFor rid c c')
    (hcall : ∀ side, SameSlot ((call side c.stateManager).1.get rid)
        ((call' side c'.stateManager).1.get rid) ∧
      (call side c.stateManager).2 = (call' side c'.stateManager).2) :
    SameFor rid (c.onSide call).1 (c'.onSide call').1 ∧ (c.onSide call).2 = (c'.onSide call').2 := by
  have hside := h.side
  unfold Connector.onSide
  cases hs : c.schedulerSide with
  | none =>
    rw [← hside, hs]
    exact ⟨h, rfl⟩
  | some side =>
    rw [← hside, hs]
    obtain ⟨hslot, hanswer⟩ := hcall side
    exact ⟨⟨rfl, hslot, h.pending, h.result, h.session⟩, hanswer⟩

theorem getNum_same (sha256Hex : String → String) {request : Request} (n : ℤ) {env env' : QueryEnv}
    (h : SameFor (extractRequestId request) c c') (henv : env.sansRandom = env'.sansRandom) :
    SameFor (extractRequestId request) (c.getNumNewMatchedTokens sha256Hex request n env).1
        (c'.getNumNewMatchedTokens sha256Hex request n env').1 ∧
      (c.getNumNewMatchedTokens sha256Hex request n env).2 =
        (c'.getNumNewMatchedTokens sha256Hex request n env').2 := by
  cases hs : c.schedulerSide with
  | none =>
    have hs' : c'.schedulerSide = none := h.side.symm.trans hs
    simp only [Connector.getNumNewMatchedTokens, hs, hs']
    exact ⟨h, True.intro⟩
  | some side =>
    have hs' : c'.schedulerSide = some side := h.side.symm.trans hs
    obtain ⟨hslot, hanswer⟩ := side.prepare_same sha256Hex n h.slot henv
    rw [Connector.getNum_spec hs, Connector.getNum_spec hs', hanswer]
    exact ⟨h.states hslot, rfl⟩

theorem alloc_same {request : Request} {out : SchedulerOutput}
    (h : SameFor (extractRequestId request) c c') :
    SameFor (extractRequestId request) (c.updateStateAfterAlloc request out)
      (c'.updateStateAfterAlloc request out) := by
  have hside := h.side
  unfold Connector.updateStateAfterAlloc
  cases hs : c.schedulerSide with
  | none =>
    rw [← hside, hs]
    exact h
  | some side =>
    rw [← hside, hs]
    cases hb : extractAllocatedBlocks out (extractRequestId request) with
    | nil => simpa only [hb] using h
    | cons b bs =>
      simp only [hb]
      exact ⟨rfl, SchedulerSide.bind_same h.slot (b :: bs), h.pending, h.result, h.session⟩

theorem buildMeta_same {request : Request} (h : SameFor (extractRequestId request) c c') :
    SameFor (extractRequestId request) (c.buildConnectorMeta request).1
        (c'.buildConnectorMeta request).1 ∧
      (c.buildConnectorMeta request).2 = (c'.buildConnectorMeta request).2 := by
  cases hs : c.schedulerSide with
  | none =>
    have hs' : c'.schedulerSide = none := h.side.symm.trans hs
    simp only [Connector.buildConnectorMeta, hs, hs']
    exact ⟨h, True.intro⟩
  | some side =>
    have hs' : c'.schedulerSide = some side := h.side.symm.trans hs
    rw [Connector.buildConnectorMeta_spec hs, Connector.buildConnectorMeta_spec hs',
      SchedulerSide.build_same h.slot]
    refine ⟨?_, rfl⟩
    cases SchedulerSide.buildRequestMetadata c'.stateManager (extractRequestId request) with
    | none => exact h
    | some md => exact ⟨h.side, h.slot, by simp, h.result, h.session⟩

theorem output_same {result : Option WorkerLoadResult} (h : SameFor rid c c') :
    SameFor rid (c.updateConnectorOutput rid result) (c'.updateConnectorOutput rid result) := by
  cases result with
  | none => exact h
  | some r =>
    exact ⟨h.side, h.slot, h.pending, by simp [Connector.updateConnectorOutput], h.session⟩

theorem forget_slot (h : SameFor rid c c') :
    SameSlot ((c.forget rid).stateManager.get rid) ((c'.forget rid).stateManager.get rid) := by
  have hslot := h.slot
  simp only [Connector.forget, ← h.side]
  cases c.schedulerSide with
  | none => exact hslot
  | some side =>
    simp only [StateManager.get_update, if_true]
    rcases sameSlot_cases hslot with ⟨hst, hst'⟩ | ⟨st, t, plan, hplan, hst, hst'⟩
    · rw [hst, hst']
      rfl
    · rw [hst, hst']
      exact congrArg some (sameState_iff.mpr ⟨_, _, hplan, rfl⟩)

theorem finished_same (h : SameFor rid c c') :
    SameFor rid (c.requestFinished rid).1 (c'.requestFinished rid).1 ∧
      (c.requestFinished rid).2 = (c'.requestFinished rid).2 := by
  rw [Connector.requestFinished_eq, Connector.requestFinished_eq]
  exact ⟨⟨h.side, forget_slot h, by simp [Connector.forget], by simp [Connector.forget],
    h.sessions_after⟩, h.cleanup⟩

/-- **Own calls**: the same call, from connectors that hold the same for its request, gets the same
answer and leaves them so. -/
theorem sameFor_own {op op' : SchedulerOp} (hop : SameCall op op') (h : SameFor op.owner c c') :
    SameFor op.owner ((schedulerMachine sha256Hex c₀).step c op).1
        ((schedulerMachine sha256Hex c₀).step c' op').1 ∧
      ((schedulerMachine sha256Hex c₀).step c op).2 =
        ((schedulerMachine sha256Hex c₀).step c' op').2 := by
  unfold SameCall at hop
  cases op with
  | prepareRequestState request n env =>
    cases op' <;> simp only [SchedulerOp.sansRandom, reduceCtorEq] at hop
    obtain ⟨rfl, rfl, henv⟩ := SchedulerOp.prepareRequestState.inj hop
    refine onSide_same h fun side => ?_
    obtain ⟨hslot, hanswer⟩ := side.prepare_same sha256Hex n h.slot henv
    exact ⟨hslot, congrArg SchedulerAnswer.tokens hanswer⟩
  | bindAllocatedBlocks q blocks =>
    cases op' <;> simp only [SchedulerOp.sansRandom, reduceCtorEq] at hop
    obtain ⟨rfl, rfl⟩ := SchedulerOp.bindAllocatedBlocks.inj hop
    exact onSide_same h fun side => ⟨SchedulerSide.bind_same h.slot blocks, rfl⟩
  | buildRequestMetadata q =>
    cases op' <;> simp only [SchedulerOp.sansRandom, reduceCtorEq] at hop
    obtain rfl := SchedulerOp.buildRequestMetadata.inj hop
    exact onSide_same h fun side =>
      ⟨h.slot, congrArg SchedulerAnswer.metadata (SchedulerSide.build_same h.slot)⟩
  | getNumNewMatchedTokens request n env =>
    cases op' <;> simp only [SchedulerOp.sansRandom, reduceCtorEq] at hop
    obtain ⟨rfl, rfl, henv⟩ := SchedulerOp.getNumNewMatchedTokens.inj hop
    obtain ⟨hsame, hanswer⟩ := getNum_same sha256Hex n h henv
    exact ⟨hsame, congrArg (fun a => SchedulerAnswer.tokens (.ok a)) hanswer⟩
  | updateStateAfterAlloc request out =>
    cases op' <;> simp only [SchedulerOp.sansRandom, reduceCtorEq] at hop
    obtain ⟨rfl, rfl⟩ := SchedulerOp.updateStateAfterAlloc.inj hop
    exact ⟨alloc_same h, rfl⟩
  | buildConnectorMeta request =>
    cases op' <;> simp only [SchedulerOp.sansRandom, reduceCtorEq] at hop
    obtain rfl := SchedulerOp.buildConnectorMeta.inj hop
    obtain ⟨hsame, hanswer⟩ := buildMeta_same h
    exact ⟨hsame, congrArg SchedulerAnswer.metadata hanswer⟩
  | updateConnectorOutput q result =>
    cases op' <;> simp only [SchedulerOp.sansRandom, reduceCtorEq] at hop
    obtain ⟨rfl, rfl⟩ := SchedulerOp.updateConnectorOutput.inj hop
    exact ⟨output_same h, rfl⟩
  | requestFinished q =>
    cases op' <;> simp only [SchedulerOp.sansRandom, reduceCtorEq] at hop
    obtain rfl := SchedulerOp.requestFinished.inj hop
    obtain ⟨hsame, hanswer⟩ := finished_same h
    exact ⟨hsame, congrArg SchedulerAnswer.finished hanswer⟩

theorem onSide_other {call : SchedulerSide → StateManager → StateManager × SchedulerAnswer}
    (hcall : ∀ side, (call side c.stateManager).1.get rid = c.stateManager.get rid) :
    SameFor rid (c.onSide call).1 c := by
  unfold Connector.onSide
  cases hs : c.schedulerSide with
  | none => exact .refl rid c
  | some side => exact ⟨hs.symm, congrArg _ (hcall side), rfl, rfl, rfl⟩

theorem bind_other {sm : StateManager} {q : ReqId} (hq : rid ≠ q) (blocks : List ℤ) :
    (SchedulerSide.bindAllocatedBlocks sm q blocks).get rid = sm.get rid := by
  unfold SchedulerSide.bindAllocatedBlocks
  split
  · rfl
  · rw [StateManager.setAllocatedBlocks, StateManager.get_update, if_neg hq]

theorem forget_other {q : ReqId} (hq : rid ≠ q) :
    (c.forget q).stateManager.get rid = c.stateManager.get rid := by
  unfold Connector.forget
  cases c.schedulerSide with
  | none => rfl
  | some side => exact (c.stateManager.get_update q rid _).trans (if_neg hq)

theorem sessions_other {q : ReqId} (hq : rid ≠ q) (w : Option (WorkerSide α)) :
    (w.map (fun w => (w.requestFinished q).1)).map (fun w => w.saveSessions.get? rid) =
      w.map (fun w => w.saveSessions.get? rid) := by
  cases w with
  | none => rfl
  | some w =>
    simp only [Option.map_some, WorkerSide.requestFinished_saveSessions]
    split_ifs
    · rw [Dict.get?_erase, if_neg hq]
    · rfl

/-- **Calls of others** leave everything that is held for a request. -/
theorem sameFor_other (op : SchedulerOp) (hop : rid ≠ op.owner) :
    SameFor rid ((schedulerMachine sha256Hex c₀).step c op).1 c := by
  cases op with
  | prepareRequestState request n env =>
    exact onSide_other fun side => side.prepare_get_other hop
  | bindAllocatedBlocks q blocks => exact onSide_other fun side => bind_other hop blocks
  | buildRequestMetadata q => exact onSide_other fun side => rfl
  | getNumNewMatchedTokens request n env =>
    cases hs : c.schedulerSide with
    | none =>
      simp only [schedulerMachine, Connector.getNumNewMatchedTokens, hs]
      exact .refl rid c
    | some side =>
      simp only [schedulerMachine, Connector.getNum_spec hs]
      exact ⟨rfl, congrArg _ (side.prepare_get_other hop), rfl, rfl, rfl⟩
  | updateStateAfterAlloc request out =>
    simp only [schedulerMachine, Connector.updateStateAfterAlloc]
    split
    · exact .refl rid c
    · split
      · exact .refl rid c
      · exact ⟨rfl, congrArg _ (bind_other hop _), rfl, rfl, rfl⟩
  | buildConnectorMeta request =>
    cases hs : c.schedulerSide with
    | none =>
      simp only [schedulerMachine, Connector.buildConnectorMeta, hs]
      exact .refl rid c
    | some side =>
      simp only [schedulerMachine, Connector.buildConnectorMeta_spec hs]
      split
      · exact ⟨rfl, rfl, (c.pendingMetadata.get?_insert _ _ _).trans (if_neg hop), rfl, rfl⟩
      · exact .refl rid c
  | updateConnectorOutput q result =>
    cases result with
    | none => exact .refl rid c
    | some r => exact ⟨rfl, rfl, rfl, (c.workerResults.get?_insert _ _ _).trans (if_neg hop), rfl⟩
  | requestFinished q =>
    simp only [schedulerMachine, Connector.requestFinished_eq]
    exact ⟨rfl, congrArg _ (forget_other hop), (c.pendingMetadata.get?_erase _ _).trans (if_neg hop),
      (c.workerResults.get?_erase _ _).trans (if_neg hop), sessions_other hop c.workerSide⟩

/-- **Requests do not see each other.**  From any connector, run the calls of any requests in any
order; or only `rid`'s calls, in the same order and with plan ids and start times of their own.
`rid` gets the same answers, and its state (up to start time and plan id) and its pending metadata
end up the same. -/
theorem scheduler_isolation (sha256Hex : String → String) (c₀ : Connector α) (rid : ReqId)
    (ops own : List SchedulerOp)
    (hown : List.Forall₂ SameCall (ops.filter (fun op => op.owner = rid)) own) :
    (((schedulerMachine sha256Hex c₀).trace ops).filter (fun x => x.1.owner = rid)).map Prod.snd =
        ((schedulerMachine sha256Hex c₀).trace own).map Prod.snd ∧
      (((schedulerMachine sha256Hex c₀).exec ops).stateManager.get rid).map
          RequestTransferState.sansRandom =
        (((schedulerMachine sha256Hex c₀).exec own).stateManager.get rid).map
          RequestTransferState.sansRandom ∧
      ((schedulerMachine sha256Hex c₀).exec ops).pendingMetadata.get? rid =
        ((schedulerMachine sha256Hex c₀).exec own).pendingMetadata.get? rid := by
  have hrun := (schedulerMachine sha256Hex c₀).unwinding (R := SameFor rid) (Q := fun a b => a = b)
    (fun c c' op op' hop hcall hsame => ?_) (fun c c' op hop hsame => ?_) hown (.refl rid c₀)
  · obtain ⟨hstate, htrace⟩ := hrun
    refine ⟨?_, hstate.slot, hstate.pending⟩
    rw [← List.forall₂_eq_eq_eq, List.forall₂_map_left_iff, List.forall₂_map_right_iff]
    exact htrace
  · obtain rfl := of_decide_eq_true hop
    exact sameFor_own hcall hsame
  · exact (sameFor_other op (Ne.symm (of_decide_eq_false hop))).trans hsame

end Steps

/-- Another request like `shortPrompt`. -/
def otherPrompt : Request := { requestId := some "q", promptTokenIds := some (List.replicate 128 1) }

/-- Two requests in turns. -/
def twoRequests : List SchedulerOp :=
  [.getNumNewMatchedTokens shortPrompt 0 { shortEnv with planId := "1", now := 1 },
    .prepareRequestState otherPrompt 0 shortEnv, .bindAllocatedBlocks "r" [4],
    .requestFinished "q", .buildConnectorMeta shortPrompt]

/-- The first request alone, with another plan id and start time. -/
def oneRequest : List SchedulerOp :=
  [.getNumNewMatchedTokens shortPrompt 0 { shortEnv with planId := "2", now := 2 },
    .bindAllocatedBlocks "r" [4], .buildConnectorMeta shortPrompt]

theorem scheduler_isolation_two_requests :
    (((schedulerMachine (fun _ => "digest") (.start Half default {} "kv_both")).trace twoRequests).filter
        (fun x => x.1.owner = "r")).map Prod.snd =
      ((schedulerMachine (fun _ => "digest") (.start Half default {} "kv_both")).trace oneRequest).map
        Prod.snd ∧
    (((schedulerMachine (fun _ => "digest") (.start Half default {} "kv_both")).exec
        twoRequests).stateManager.get "r").map RequestTransferState.sansRandom =
      (((schedulerMachine (fun _ => "digest") (.start Half default {} "kv_both")).exec
        oneRequest).stateManager.get "r").map RequestTransferState.sansRandom ∧
    ((schedulerMachine (fun _ => "digest") (.start Half default {} "kv_both")).exec
        twoRequests).pendingMetadata.get? "r" =
      ((schedulerMachine (fun _ => "digest") (.start Half default {} "kv_both")).exec
        oneRequest).pendingMetadata.get? "r" := by
  refine scheduler_isolation (fun _ => "digest") (.start Half default {} "kv_both") "r" _ _ ?_
  have hfilter : twoRequests.filter (fun op => op.owner = "r") =
      [.getNumNewMatchedTokens shortPrompt 0 { shortEnv with planId := "1", now := 1 },
        .bindAllocatedBlocks "r" [4], .buildConnectorMeta shortPrompt] := by
    decide +kernel
  rw [hfilter]
  exact .cons rfl (.cons rfl (.cons rfl .nil))

end AwareKV
