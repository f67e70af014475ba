import AwareKV.Pending

/-!
# AwareKV.LoadGate — loading only what the scheduler was told about

A request whose last answer was `(0, False)` was promised no external tokens.  The gate holds if then
no metadata is built for it and no critical object is fetched.  `build_connector_meta` looks at the
status, not at the count that was reported, so this depends on what the queries leave behind:

* `gateOk_iff`: after one query the gate holds exactly under `GateOk`, a condition on the state before
  it and on the manifest, the planner and the count.
* `load_gate_iff`: the gate holds throughout a run exactly when every query of the run is `GateOk`.
-/

namespace AwareKV

open SchedulerSide

variable {α : Type} {sha256Hex : String → String} {fo : FloatOps} {cfg : DeadlineKVConfig}
  {role : String}

/-! ### One query -/

/-- The request is planned, with a manifest and a plan. -/
def Planned (sm : StateManager) (rid : ReqId) : Prop := ∃ st m plan, PlannedWith sm rid st m plan

theorem planned_congr {sm sm' : StateManager} {rid : ReqId} (h : sm.get rid = sm'.get rid) :
    Planned sm rid ↔ Planned sm' rid := by
  unfold Planned PlannedWith
  rw [h]

theorem planned_put {sm : StateManager} {rid : ReqId} {st : RequestTransferState} :
    Planned (sm.put rid st) rid ↔
      st.status = .hitPlanned ∧ st.manifest.isSome ∧ st.plan.isSome := by
  simp only [Planned, PlannedWith, StateManager.get_put, if_pos, Option.some.injEq,
    Option.isSome_iff_exists]
  constructor
  · rintro ⟨_, m, plan, rfl, hs, hm, hp⟩
    exact ⟨hs, ⟨m, hm⟩, ⟨plan, hp⟩⟩
  · rintro ⟨hs, ⟨m, hm⟩, ⟨plan, hp⟩⟩
    exact ⟨st, m, plan, rfl, hs, hm, hp⟩

/-- The answer that the connector makes of a preparation. -/
def plainAnswer : Py (ℤ × Bool) → ℤ × Bool
  | .ok answer => answer
  | .error _ => (0, false)

namespace SchedulerSide

/-- **When a query keeps the gate.**  A prompt that is rejected must not meet a planned request; a
cached state must not have zero tokens and a plan; and of a fresh answer, an exception of the planner
must not meet an old plan, and an accepted manifest must have more tokens than are computed. -/
def GateOk (side : SchedulerSide) (sm : StateManager) (request : Request) (numComputedTokens : ℤ)
    (env : QueryEnv) : Prop :=
  if side.Rejects request then ¬ Planned sm (extractRequestId request)
  else match cachedState sm (extractRequestId request) with
    | some st => st.matchedTokens = 0 → ¬ Planned sm (extractRequestId request)
    | none => ∀ m, queryManifest env.answer = some m →
        (side.PlannerRaises env m →
          ∀ st, sm.get (extractRequestId request) = some st → st.plan = none) ∧
        (side.PlannerAccepts env m → numComputedTokens < m.matchedTokens)

variable (side : SchedulerSide) {sm : StateManager} {request : Request} {n : ℤ} {env : QueryEnv}

/-- A start state has the plan of the request's old state. -/
theorem startState_plan_isSome (sha256Hex : String → String) (side : SchedulerSide) (env : QueryEnv) :
    (side.startState sha256Hex sm request env).plan.isSome ↔
      ∃ st, sm.get (extractRequestId request) = some st ∧ st.plan ≠ none := by
  simp only [Option.isSome_iff_exists, startState_plan, Option.ne_none_iff_exists']
  exact ⟨fun ⟨plan, st, hst, hp⟩ => ⟨st, hst, plan, hp⟩, fun ⟨st, hst, plan, hp⟩ => ⟨plan, st, hst, hp⟩⟩

/-- **One query**: no tokens promised and nothing planned, or tokens promised. -/
theorem gateOk_iff (sha256Hex : String → String) :
    side.GateOk sm request n env ↔
      (plainAnswer (side.prepareRequestState sha256Hex sm request n env).2 = (0, false) →
        ¬ Planned (side.prepareRequestState sha256Hex sm request n env).1 (extractRequestId request)) := by
  have hout := side.prepared sha256Hex sm request n env
  unfold GateOk
  generalize side.prepareRequestState sha256Hex sm request n env = out at hout
  cases hout with
  | rejected hr => simp [hr, plainAnswer]
  | cached st hr hc => simp [hr, hc, plainAnswer]
  | missed hr hc hq => simp [hr, hc, hq, plainAnswer, planned_put, missState]
  | recomputed m plan hr hc hq hp ha =>
    simp [hr, hc, hq, hp, ha, plainAnswer, planned_put, recomputeState]
  | raised m e hr hc hq hp =>
    have ha := not_accepts_of_raises hp
    have hplanned : Planned (sm.put (extractRequestId request) (side.hitState sha256Hex sm request env m))
        (extractRequestId request) ↔
          ∃ st, sm.get (extractRequestId request) = some st ∧ st.plan ≠ none := by
      rw [planned_put, ← startState_plan_isSome sha256Hex side env]
      simp [hitState]
    rw [hplanned]
    simp [hr, hc, hq, hp, ha, plainAnswer]
  | accepted m plan hr hc hq hp ha hcall hmode htok hblk =>
    simp [hr, hc, hq, hp, ha, plainAnswer, planned_put, plannedState, hitState]

/-- A preparation leaves the other requests alone. -/
theorem prepare_get_other {rid : ReqId} (hne : rid ≠ extractRequestId request) :
    (side.prepareRequestState sha256Hex sm request n env).1.get rid = sm.get rid := by
  have hout := side.prepared sha256Hex sm request n env
  generalize side.prepareRequestState sha256Hex sm request n env = out at hout
  cases hout <;> simp [hne]

end SchedulerSide

/-! ### Runs -/

/-- How a call changes the last answer for `rid`. -/
def answerStep (rid : ReqId) (acc : Option (ℤ × Bool)) :
    ConnectorOp α × ConnectorAnswer → Option (ℤ × Bool)
  | (.getNumNewMatchedTokens request _ _, .tokens answer) =>
    if extractRequestId request = rid then some answer else acc
  | (.requestFinished q, _) => if q = rid then none else acc
  | _ => acc

/-- The last answer for `rid` since it was last finished. -/
def lastAnswer (rid : ReqId) (tr : List (ConnectorOp α × ConnectorAnswer)) : Option (ℤ × Bool) :=
  tr.foldl (answerStep rid) none

theorem lastAnswer_snoc (rid : ReqId) (tr : List (ConnectorOp α × ConnectorAnswer))
    (x : ConnectorOp α × ConnectorAnswer) :
    lastAnswer rid (tr ++ [x]) = answerStep rid (lastAnswer rid tr) x := List.foldl_append

/-- **The gate** after the calls `pre`: a request that was last answered `(0, False)` gets no metadata
built, and its load fetches nothing. -/
def LoadGate (M : Machine (Connector α) (ConnectorOp α) ConnectorAnswer) (pre : List (ConnectorOp α)) :
    Prop :=
  ∀ rid, lastAnswer rid (M.trace pre) = some (0, false) →
    (∀ request, extractRequestId request = rid →
      M.answer pre (.buildConnectorMeta request) = .metadata none) ∧
    ∀ env, fetchedBy M pre (.startLoadKv (some rid) env) = []

/-- The condition on a call: a query must keep the gate. -/
def QueryOk (c : Connector α) : ConnectorOp α → Prop
  | .getNumNewMatchedTokens request n env =>
    ∀ side, c.schedulerSide = some side → side.GateOk c.stateManager request n env
  | _ => True

/-- The answer to a query of a connector with a scheduler side. -/
theorem answer_getNum {c : Connector α} {side : SchedulerSide} (hs : c.schedulerSide = some side)
    (request : Request) (n : ℤ) (env : QueryEnv) :
    ((connectorMachine α sha256Hex fo cfg role).step c (.getNumNewMatchedTokens request n env)).2 =
      .tokens (plainAnswer (side.prepareRequestState sha256Hex c.stateManager request n env).2) := by
  simp only [connectorMachine, Connector.getNum_spec hs]
  cases (side.prepareRequestState sha256Hex c.stateManager request n env).2 <;> rfl

/-- The states after a query of a connector with a scheduler side. -/
theorem states_getNum {c : Connector α} {side : SchedulerSide} (hs : c.schedulerSide = some side)
    (request : Request) (n : ℤ) (env : QueryEnv) :
    ((connectorMachine α sha256Hex fo cfg role).step c
        (.getNumNewMatchedTokens request n env)).1.stateManager =
      (side.prepareRequestState sha256Hex c.stateManager request n env).1 := by
  simp only [connectorMachine, Connector.getNum_spec hs]

/-- A connector without a scheduler side has no states. -/
def NoSideNoState (c : Connector α) : Prop :=
  c.schedulerSide = none → ∀ rid, c.stateManager.get rid = none

/-- No call adds or removes the scheduler side. -/
theorem step_schedulerSide (c : Connector α) (op : ConnectorOp α) :
    ((connectorMachine α sha256Hex fo cfg role).step c op).1.schedulerSide = c.schedulerSide := by
  have hstep := connectorStep sha256Hex fo cfg role c op
  generalize ((connectorMachine α sha256Hex fo cfg role).step c op).1 = c' at hstep ⊢
  generalize ((connectorMachine α sha256Hex fo cfg role).step c op).2 = answer at hstep
  cases hstep <;> rfl

/-- Binding blocks leaves manifests, plans and statuses as they are. -/
theorem planned_bindAllocatedBlocks {sm : StateManager} {rid q : ReqId} {blocks : List ℤ} :
    Planned (bindAllocatedBlocks sm q blocks) rid ↔ Planned sm rid := by
  unfold bindAllocatedBlocks
  cases hq : sm.get q with
  | none => rfl
  | some st =>
    by_cases hne : rid = q
    · subst hne
      simp [Planned, PlannedWith, StateManager.setAllocatedBlocks, hq]
    · exact planned_congr (by simp [StateManager.setAllocatedBlocks, hne])

/-- What a run keeps when all its queries keep the gate. -/
structure GateInv (tr : List (ConnectorOp α × ConnectorAnswer)) (c : Connector α) : Prop where
  noState : NoSideNoState c
  gate : ∀ rid, lastAnswer rid tr = some (0, false) → ¬ Planned c.stateManager rid

theorem gateInv_init : GateInv [] (Connector.start α fo cfg role) := by
  refine ⟨fun _ rid => ?_, fun rid h => by cases h⟩
  rw [Connector.start_stateManager, StateManager.get_new]

theorem noSideNoState_step {c : Connector α} (h : NoSideNoState c) (op : ConnectorOp α) :
    NoSideNoState ((connectorMachine α sha256Hex fo cfg role).step c op).1 := by
  intro hnone rid
  rw [step_schedulerSide] at hnone
  have hstates := h hnone
  have hs := schedStep sha256Hex fo cfg role c op
  generalize ((connectorMachine α sha256Hex fo cfg role).step c op).1.stateManager = sm at hs ⊢
  generalize ((connectorMachine α sha256Hex fo cfg role).step c op).1.pendingMetadata = pending at hs
  cases hs with
  | queried side request n env hs => rw [hnone] at hs; cases hs
  | allocated request out blocks => simp [bindAllocatedBlocks, hstates]
  | built request md hb => exact hstates rid
  | finished q hs => rw [hnone] at hs; cases hs
  | finishedAlone q hs => exact hstates rid
  | kept op hq hf => exact hstates rid

theorem noSideNoState_exec (sha256Hex : String → String) (fo : FloatOps) (cfg : DeadlineKVConfig)
    (role : String) (ops : List (ConnectorOp α)) :
    NoSideNoState ((connectorMachine α sha256Hex fo cfg role).exec ops) :=
  (connectorMachine α sha256Hex fo cfg role).invariant gateInv_init.noState
    (fun _ op hc => noSideNoState_step hc op) ops

/-- **Step lemma**: a call that is not a bad query keeps the gate. -/
theorem gateInv_step {tr : List (ConnectorOp α × ConnectorAnswer)} {c : Connector α}
    {op : ConnectorOp α} (h : GateInv tr c) (hop : QueryOk c op) :
    GateInv (tr ++ [(op, ((connectorMachine α sha256Hex fo cfg role).step c op).2)])
      ((connectorMachine α sha256Hex fo cfg role).step c op).1 := by
  refine ⟨noSideNoState_step h.noState op, fun rid hlast => ?_⟩
  rw [lastAnswer_snoc] at hlast
  have hs := schedStep sha256Hex fo cfg role c op
  have hanswer : ∀ side request n env, c.schedulerSide = some side →
      op = .getNumNewMatchedTokens request n env →
        ((connectorMachine α sha256Hex fo cfg role).step c op).2 =
          .tokens (plainAnswer (side.prepareRequestState sha256Hex c.stateManager request n env).2) := by
    rintro side request n env hside rfl
    exact answer_getNum hside request n env
  generalize ((connectorMachine α sha256Hex fo cfg role).step c op).1.stateManager = sm at hs ⊢
  generalize ((connectorMachine α sha256Hex fo cfg role).step c op).1.pendingMetadata = pending at hs
  generalize ((connectorMachine α sha256Hex fo cfg role).step c op).2 = answer at hlast hanswer
  cases hs with
  | queried side request n env hside =>
    rw [hanswer side request n env hside rfl, answerStep] at hlast
    by_cases hrid : extractRequestId request = rid
    · rw [if_pos hrid, Option.some.injEq] at hlast
      subst hrid
      exact (side.gateOk_iff sha256Hex).mp (hop side hside) hlast
    · rw [if_neg hrid] at hlast
      rw [planned_congr (prepare_get_other side (Ne.symm hrid))]
      exact h.gate rid hlast
  | allocated request out blocks =>
    rw [planned_bindAllocatedBlocks]
    exact h.gate rid hlast
  | built request md hb => exact h.gate rid hlast
  | finished q hside =>
    simp only [answerStep] at hlast
    split_ifs at hlast with hq
    have hget : (c.stateManager.update q (fun st =>
        { st with status := .done, requestFinished := true })).get rid = c.stateManager.get rid := by
      simp [Ne.symm hq]
    rw [planned_congr hget]
    exact h.gate rid hlast
  | finishedAlone q hside =>
    rintro ⟨st, m, plan, hst, -⟩
    rw [h.noState hside rid] at hst
    cases hst
  | kept op hq hf =>
    cases op with
    | getNumNewMatchedTokens request n env =>
      rintro ⟨st, m, plan, hst, -⟩
      rw [h.noState (hq request n env rfl) rid] at hst
      cases hst
    | requestFinished q => exact absurd rfl (hf q)
    | _ => exact h.gate rid hlast

/-- **Run lemma.** -/
theorem gateInv_run (ops : List (ConnectorOp α))
    (hops : EveryStep (fun pre op =>
      QueryOk ((connectorMachine α sha256Hex fo cfg role).exec pre) op) ops) :
    GateInv ((connectorMachine α sha256Hex fo cfg role).trace ops)
      ((connectorMachine α sha256Hex fo cfg role).exec ops) :=
  (connectorMachine α sha256Hex fo cfg role).guarded_induction (I := GateInv) (C := QueryOk)
    gateInv_init (fun _ _ _ h hop => gateInv_step h hop) ops hops

/-- What is answered when metadata is asked for. -/
theorem answer_build {pre : List (ConnectorOp α)} {request : Request} :
    (connectorMachine α sha256Hex fo cfg role).answer pre (.buildConnectorMeta request) =
      .metadata (((connectorMachine α sha256Hex fo cfg role).exec pre).buildConnectorMeta request).2 := rfl

theorem loadGate_of_gateInv {pre : List (ConnectorOp α)}
    (h : GateInv ((connectorMachine α sha256Hex fo cfg role).trace pre)
      ((connectorMachine α sha256Hex fo cfg role).exec pre)) :
    LoadGate (connectorMachine α sha256Hex fo cfg role) pre := by
  intro rid hlast
  have hnot := h.gate rid hlast
  refine ⟨fun request hrid => ?_, fun env => ?_⟩
  · rw [answer_build]
    cases hs : ((connectorMachine α sha256Hex fo cfg role).exec pre).schedulerSide with
    | none => simp only [Connector.buildConnectorMeta, hs]
    | some side =>
      rw [Connector.buildConnectorMeta_spec hs, buildRequestMetadata_eq_none.mpr]
      rw [hrid]
      exact hnot
  · rw [fetchedBy_startLoadKv, Option.getD_some]
    cases hp : ((connectorMachine α sha256Hex fo cfg role).exec pre).pendingMetadata.get? rid with
    | none => simp
    | some md =>
      obtain ⟨st, m, plan, hplanned, -⟩ :=
        (sched_inv sha256Hex fo cfg role pre).pending rid md hp
      exact absurd ⟨st, m, plan, hplanned⟩ hnot

/-- A query after which the gate holds was a good one. -/
theorem queryOk_of_loadGate {pre : List (ConnectorOp α)} {op : ConnectorOp α}
    (h : LoadGate (connectorMachine α sha256Hex fo cfg role) (pre ++ [op])) :
    QueryOk ((connectorMachine α sha256Hex fo cfg role).exec pre) op := by
  cases op with
  | getNumNewMatchedTokens request n env =>
    intro side hside
    refine (side.gateOk_iff sha256Hex).mpr fun hzero => ?_
    have hlast : lastAnswer (extractRequestId request)
        ((connectorMachine α sha256Hex fo cfg role).trace
          (pre ++ [.getNumNewMatchedTokens request n env])) = some (0, false) := by
      rw [Machine.trace_snoc, lastAnswer_snoc, Machine.answer, answer_getNum hside, hzero, answerStep,
        if_pos rfl]
    have hbuild := (h _ hlast).1 request rfl
    have hside' : ((connectorMachine α sha256Hex fo cfg role).exec
        (pre ++ [.getNumNewMatchedTokens request n env])).schedulerSide = some side := by
      rw [Machine.exec_snoc, step_schedulerSide, hside]
    rw [answer_build, Connector.buildConnectorMeta_spec hside', ConnectorAnswer.metadata.injEq,
      buildRequestMetadata_eq_none, Machine.exec_snoc, states_getNum hside] at hbuild
    exact hbuild
  | _ => trivial

/-- **The gate holds throughout a run exactly when every query of the run keeps it.** -/
theorem load_gate_iff (ops : List (ConnectorOp α)) :
    (∀ pre post, ops = pre ++ post → LoadGate (connectorMachine α sha256Hex fo cfg role) pre) ↔
      EveryStep (fun pre op => QueryOk ((connectorMachine α sha256Hex fo cfg role).exec pre) op) ops := by
  constructor
  · rintro h pre op post rfl
    exact queryOk_of_loadGate (h (pre ++ [op]) post (by simp))
  · rintro h pre post rfl
    refine loadGate_of_gateInv (gateInv_run pre ?_)
    rintro pre' op post' rfl
    exact h pre' op (post' ++ post) (by simp)

/-- A prompt of 128 tokens. -/
def shortPrompt : Request := { requestId := some "r", promptTokenIds := some (List.replicate 128 0) }

/-- The manifest of the whole prompt `shortPrompt`. -/
def shortManifest : PrefixManifest :=
  { prefixKey := "key", modelId := "m", tokenizerId := "m", kvLayoutVersion := "v1-block-first",
    blockSize := 16, cacheDtype := "float16", matchedTokens := 128, matchedBlocks := [], numLayers := 1,
    createdAtMs := 0, lastAccessMs := 0, ttlS := 3600, criticalCodec := "fp16_raw",
    criticalNbytes := 1000, criticalObjectId := "object" }

/-- The service knows `shortManifest`; the network is as the estimator starts out. -/
def shortEnv : QueryEnv :=
  { answer := .response { hit := true, manifest := some shortManifest },
    net := { bandwidthBps := 1000000000, rttMs := 10 } }

/-- A prompt whose tokens are all computed already is answered `(0, False)`, and then loaded. -/
theorem load_gate_all_computed :
    ¬ ∀ pre post, ([.getNumNewMatchedTokens shortPrompt 128 shortEnv] : List (ConnectorOp Half)) =
        pre ++ post →
      LoadGate (connectorMachine Half (fun _ => "digest") default {} "kv_both") pre := by
  intro h
  have hgate := h _ [] (List.append_nil _).symm
  have hlast : lastAnswer "r" ((connectorMachine Half (fun _ => "digest") default {} "kv_both").trace
      [.getNumNewMatchedTokens shortPrompt 128 shortEnv]) = some (0, false) := by
    decide +kernel
  have hbuild := (hgate "r" hlast).1 shortPrompt rfl
  revert hbuild
  decide +kernel

end AwareKV
