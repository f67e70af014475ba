import AwareKV.Deployment
import AwareKV.Lib.Effect

/-!
# AwareKV.Accounting — what the counters count

The metrics calls of `connector/scheduler_side.py` and `connector/worker_side.py`, with the collector of
`metrics/counters.py`.  The methods that record something are translated once more, now with the collector;
`meteredConnector_step` says that they do otherwise what they do without it.

* `counters_tally`: the counters after every run, in terms of the queries that were made and the replies that
  came.  Replies are counted that cannot be decoded, and neither failures nor refinements are ever counted.
* `counters_services`: in a deployment, the counters and what the services answered.
-/

namespace AwareKV

/-! ## The collector -/

/-- The counters and histograms of `metrics/counters.py`. -/
structure MetricsCollector where
  manifestQueriesTotal : ℕ := 0
  manifestHitTotal : ℕ := 0
  remoteCriticalBytesTotal : ℕ := 0
  remoteRefineBytesTotal : ℕ := 0
  remoteCriticalFailTotal : ℕ := 0
  refineDropTotal : ℕ := 0
  recomputeFallbackTotal : ℕ := 0
  ttftMs : List ℚ := []
  tpotMs : List ℚ := []
  deriving DecidableEq

namespace MetricsCollector

variable (mc : MetricsCollector)

/-- `record_manifest_query`. -/
def recordManifestQuery (hit : Bool) : MetricsCollector :=
  let mc := { mc with manifestQueriesTotal := mc.manifestQueriesTotal + 1 }
  if hit then { mc with manifestHitTotal := mc.manifestHitTotal + 1 } else mc

/-- `record_critical_bytes`. -/
def recordCriticalBytes (nbytes : ℕ) : MetricsCollector :=
  { mc with remoteCriticalBytesTotal := mc.remoteCriticalBytesTotal + nbytes }

/-- `record_refine_bytes`. -/
def recordRefineBytes (nbytes : ℕ) : MetricsCollector :=
  { mc with remoteRefineBytesTotal := mc.remoteRefineBytesTotal + nbytes }

/-- `record_critical_fail`. -/
def recordCriticalFail : MetricsCollector := { mc with remoteCriticalFailTotal := mc.remoteCriticalFailTotal + 1 }

/-- `record_refine_drop`. -/
def recordRefineDrop : MetricsCollector := { mc with refineDropTotal := mc.refineDropTotal + 1 }

/-- `record_recompute`. -/
def recordRecompute : MetricsCollector := { mc with recomputeFallbackTotal := mc.recomputeFallbackTotal + 1 }

/-- `record_ttft`. -/
def recordTtft (ttftValue : ℚ) : MetricsCollector := { mc with ttftMs := mc.ttftMs ++ [ttftValue] }

/-- `record_tpot`. -/
def recordTpot (tpotValue : ℚ) : MetricsCollector := { mc with tpotMs := mc.tpotMs ++ [tpotValue] }

/-- A call of the method `name` with a number of bytes. -/
def callBytes (name : String) (nbytes : ℕ) : Effect Exc MetricsCollector Unit :=
  if name = "record_critical_bytes" then modify (·.recordCriticalBytes nbytes)
  else if name = "record_refine_bytes" then modify (·.recordRefineBytes nbytes)
  else Effect.lift (.error ⟨.attributeError, "'MetricsCollector' object has no attribute '" ++ name ++ "'"⟩)

end MetricsCollector

/-! ## The methods that record -/

namespace SchedulerSide

variable (sha256Hex : String → String) (side : SchedulerSide)

/-- `prepare_request_state` after the cached states, with the collector. -/
def prepareFreshMetered (sm : StateManager) (mc : MetricsCollector) (request : Request) (numComputedTokens : ℤ)
    (env : QueryEnv) : (StateManager × MetricsCollector) × Py (ℤ × Bool) :=
  let rid := extractRequestId request
  let sm := (sm.createOrGet rid).update rid (fun st => { st with startTimeMs := env.now })
  let sm := sm.update rid (fun st => { st with prefixKey := some (side.prefixKeyOf sha256Hex request) })
  match queryManifest env.answer with
  | none =>
    let mc := mc.recordManifestQuery false
    let sm := sm.markManifestMiss rid "no_match"
    ((sm.update rid (fun st => { st with matchedTokens := 0 }), mc), .ok (0, false))
  | some m =>
    let mc := mc.recordManifestQuery true
    let sm := sm.markManifestHit rid m
    let sm := sm.update rid (fun st => { st with matchedTokens := m.matchedTokens })
    let sm := sm.update rid (fun st => { st with matchedBlocks := m.matchedBlocks })
    match side.callPlanner env m with
    | .error e => ((sm, mc), .error e)
    | .ok plan =>
      if plan.mode = .recompute then
        let mc := mc.recordRecompute
        let sm := sm.markRecompute rid plan.reasonCode
        ((sm.update rid (fun st => { st with matchedTokens := 0 }), mc), .ok (0, false))
      else ((sm.setPlan rid plan, mc), .ok (max 0 (plan.matchedTokens - numComputedTokens), false))

/-- `prepare_request_state` with the collector. -/
def prepareRequestStateMetered (sm : StateManager) (mc : MetricsCollector) (request : Request)
    (numComputedTokens : ℤ) (env : QueryEnv) : (StateManager × MetricsCollector) × Py (ℤ × Bool) :=
  if side.Rejects request then ((sm, mc), .ok (0, false))
  else match cachedState sm (extractRequestId request) with
    | some st => ((sm, mc), .ok (st.matchedTokens, false))
    | none => side.prepareFreshMetered sha256Hex sm mc request numComputedTokens env

/-- The query finds a manifest, and the planner recomputes. -/
def declines (env : QueryEnv) : Bool :=
  (queryManifest env.answer).any fun m => !decide (side.PlannerRaises env m) && !decide (side.PlannerAccepts env m)

end SchedulerSide

namespace WorkerSide

variable {α : Type} (cfg : DeadlineKVConfig) (fo : FloatOps) (w : WorkerSide α)

/-- `start_load_kv` with the collector: the bytes are recorded before they are decoded. -/
def startLoadKvMetered (mc : MetricsCollector) (md : DeadlineConnectorMetadata) (env : LoadEnv) :
    (WorkerSide α × WorkerLoadResult) × MetricsCollector :=
  let rid := md.requestId
  let w := { w with activeLoads := w.activeLoads.insert rid md }
  let (w, criticalData) := w.fetchCriticalKv md env.reply
  match criticalData with
  | none => (w.loadFailed rid ⟨.runtimeError, "Critical KV fetch failed"⟩, mc)
  | some data =>
    let mc := mc.recordCriticalBytes data.length
    match decodeCriticalKv cfg fo data md.criticalCodec md.numLayers with
    | .error e => (w.loadFailed rid e, mc)
    | .ok layers =>
      let w := { w with loadedKvs := w.loadedKvs.insert rid layers }
      match if WantsRefinement md then w.scheduleRefinementLoad md env.submitFault else .ok w with
      | .error e => (w.loadFailed rid e, mc)
      | .ok w =>
        ((w, createLoadResult rid true true false md.matchedTokens md.matchedBlocks.length data.length 0
          env.elapsedMs), mc)

/-- `_load_refinement`, the function of the refinement thread, from the reply on. -/
def loadRefinement (refineData : Option Bytes) : Effect Exc MetricsCollector Unit :=
  tryCatch
    (match refineData with
      | some (b :: bs) => MetricsCollector.callBytes "record_refinement_bytes" (b :: bs).length
      | _ => pure ())
    (fun _ => pure ())

end WorkerSide

namespace Connector

variable {α : Type} (sha256Hex : String → String) (fo : FloatOps) (c : Connector α)

/-- `get_num_new_matched_tokens` with the collector. -/
def getNumNewMatchedTokensMetered (mc : MetricsCollector) (request : Request) (numComputedTokens : ℤ)
    (env : QueryEnv) : (Connector α × MetricsCollector) × (ℤ × Bool) :=
  match c.schedulerSide with
  | none => ((c, mc), (0, false))
  | some side =>
    let ((sm, mc), result) :=
      side.prepareRequestStateMetered sha256Hex c.stateManager mc request numComputedTokens env
    match result with
    | .ok answer => (({ c with stateManager := sm }, mc), answer)
    | .error _ => (({ c with stateManager := sm }, mc), (0, false))

/-- `start_load_kv` with the collector. -/
def startLoadKvMetered (mc : MetricsCollector) (requestId : Option ReqId) (env : LoadEnv) :
    Connector α × MetricsCollector :=
  match c.workerSide with
  | none => (c, mc)
  | some w =>
    let rid := requestId.getD ""
    if rid = "" then (c, mc)
    else match c.pendingMetadata.get? rid with
      | none => (c, mc)
      | some md =>
        let r := w.startLoadKvMetered c.config fo mc md env
        ({ c with workerSide := some r.1.1 }, r.2)

/-- The end of a refinement thread with the collector. -/
def refinementEndsMetered (mc : MetricsCollector) (rid : ReqId) (k : ℕ) (reply : Option Bytes) :
    Connector α × MetricsCollector :=
  (c.threadStep (fun w => w.refinementEnds rid k),
    if (c.refining rid k).isSome then ((WorkerSide.loadRefinement reply).exec mc).2 else mc)

end Connector

/-- The connector with its collector. -/
def meteredConnector (α : Type) (sha256Hex : String → String) (fo : FloatOps) (cfg : DeadlineKVConfig)
    (role : String) : Machine (Connector α × MetricsCollector) (ConnectorOp α) ConnectorAnswer where
  init := (.start α fo cfg role, {})
  step s op :=
    match op with
    | .getNumNewMatchedTokens request n env =>
      let r := s.1.getNumNewMatchedTokensMetered sha256Hex s.2 request n env
      (r.1, .tokens r.2)
    | .startLoadKv requestId env => (s.1.startLoadKvMetered fo s.2 requestId env, .done)
    | .refinementEnds rid k reply => (s.1.refinementEndsMetered s.2 rid k reply, .done)
    | _ =>
      let plain := (connectorMachine α sha256Hex fo cfg role).step s.1 op
      ((plain.1, s.2), plain.2)

/-! ## What they record -/

namespace SchedulerSide

variable {sha256Hex : String → String} {side : SchedulerSide}

/-- What a query adds to the counters. -/
def charged (side : SchedulerSide) (mc : MetricsCollector) (env : QueryEnv) : MetricsCollector :=
  let mc := mc.recordManifestQuery (queryManifest env.answer).isSome
  if side.declines env then mc.recordRecompute else mc

theorem prepareFreshMetered_eq (sm : StateManager) (mc : MetricsCollector) (request : Request) (n : ℤ)
    (env : QueryEnv) :
    side.prepareFreshMetered sha256Hex sm mc request n env =
      (((side.prepareFresh sha256Hex sm request n env).1, side.charged mc env),
        (side.prepareFresh sha256Hex sm request n env).2) := by
  unfold prepareFreshMetered prepareFresh charged declines
  cases hq : queryManifest env.answer with
  | none => rfl
  | some m =>
    rcases side.callPlanner_cases env m with
      ⟨hraises, e, hcall⟩ | ⟨haccepts, hraises, plan, hcall, hmode, -⟩ | ⟨haccepts, hraises, plan, hcall, hmode⟩
    · simp only [hcall, Option.any_some, hraises, decide_true, Bool.not_true, Bool.false_and]
      rfl
    · simp only [hcall, if_neg hmode, Option.any_some, haccepts, decide_true, Bool.not_true, Bool.and_false]
      rfl
    · simp only [hcall, if_pos hmode, Option.any_some, haccepts, hraises, decide_false, Bool.not_false,
        Bool.and_self]
      rfl

end SchedulerSide

namespace WorkerSide

variable {α : Type} {cfg : DeadlineKVConfig} {fo : FloatOps} {w : WorkerSide α}

theorem startLoadKvMetered_eq (mc : MetricsCollector) (md : DeadlineConnectorMetadata) (env : LoadEnv) :
    w.startLoadKvMetered cfg fo mc md env =
      (w.startLoadKv cfg fo md env, env.reply.elim mc fun data => mc.recordCriticalBytes data.length) := by
  unfold startLoadKvMetered startLoadKv
  simp only [fetchCriticalKv_eq]
  cases env.reply with
  | none => rfl
  | some data =>
    simp only [loadLayers]
    cases decodeCriticalKv cfg fo data md.criticalCodec md.numLayers with
    | error e => rfl
    | ok layers =>
      simp only [bind, Except.bind, pure, Except.pure, scheduleRefinementLoad]
      by_cases hr : WantsRefinement md
      · simp only [if_pos hr]
        cases env.submitFault <;> rfl
      · simp only [if_neg hr]
        rfl

/-- **A refinement is never counted**: the method that the thread calls is not there, and the thread goes on
from the exception. -/
theorem exec_loadRefinement (refineData : Option Bytes) (mc : MetricsCollector) :
    (loadRefinement refineData).exec mc = (.ok (), mc) := by
  unfold loadRefinement
  cases refineData with
  | none => rfl
  | some data => cases data <;> rfl

end WorkerSide

namespace Connector

variable {α : Type} {sha256Hex : String → String} {fo : FloatOps} {c : Connector α}

theorem getNumNewMatchedTokensMetered_eq (mc : MetricsCollector) (request : Request) (n : ℤ) (env : QueryEnv) :
    c.getNumNewMatchedTokensMetered sha256Hex mc request n env =
      (((c.getNumNewMatchedTokens sha256Hex request n env).1,
        (c.asking request).elim mc fun side => side.charged mc env),
        (c.getNumNewMatchedTokens sha256Hex request n env).2) := by
  unfold getNumNewMatchedTokensMetered getNumNewMatchedTokens asking
  cases c.schedulerSide with
  | none => rfl
  | some side =>
    simp only [Option.filter_some, SchedulerSide.prepareRequestStateMetered, SchedulerSide.prepareRequestState]
    by_cases hr : side.Rejects request
    · simp [hr]
    · cases hc : SchedulerSide.cachedState c.stateManager (extractRequestId request) with
      | some st => simp [hr]
      | none =>
        simp only [hr, not_false_eq_true, and_self, decide_true, if_true, if_false,
          SchedulerSide.prepareFreshMetered_eq, Option.elim_some]
        cases (side.prepareFresh sha256Hex c.stateManager request n env).2 <;> rfl

theorem startLoadKvMetered_eq (mc : MetricsCollector) (requestId : Option ReqId) (env : LoadEnv) :
    c.startLoadKvMetered fo mc requestId env =
      (c.startLoadKv fo requestId env,
        (c.loading requestId).elim mc fun _ => env.reply.elim mc fun data => mc.recordCriticalBytes data.length) := by
  unfold startLoadKvMetered startLoadKv loading
  cases hw : c.workerSide with
  | none => rfl
  | some w =>
    by_cases hr : requestId.getD "" = ""
    · simp [hr]
    · simp only [hr, Option.isNone_some, Bool.false_eq_true, or_self, if_false]
      cases c.pendingMetadata.get? (requestId.getD "") with
      | none => rfl
      | some md => simp only [WorkerSide.startLoadKvMetered_eq, Option.elim_some]

/-- The queries of a call: who asks, and what comes back. -/
def asked (c : Connector α) : ConnectorOp α → List (SchedulerSide × QueryEnv)
  | .getNumNewMatchedTokens request _ env => (c.asking request).toList.map fun side => (side, env)
  | _ => []

/-- The replies of a call to the worker side's critical channel. -/
def received (c : Connector α) : ConnectorOp α → List Bytes
  | .startLoadKv requestId env => (c.loading requestId).toList.flatMap fun _ => env.reply.toList
  | _ => []

end Connector

/-! ## Runs -/

section Runs

variable {α : Type} (sha256Hex : String → String) (fo : FloatOps) (cfg : DeadlineKVConfig) (role : String)

/-- **What a step does**: what it does without the collector, and what its queries and replies add. -/
theorem meteredConnector_step (s : Connector α × MetricsCollector) (op : ConnectorOp α) :
    (meteredConnector α sha256Hex fo cfg role).step s op =
      ((((connectorMachine α sha256Hex fo cfg role).step s.1 op).1,
        (s.1.received op).foldl (fun mc data => mc.recordCriticalBytes data.length)
          ((s.1.asked op).foldl (fun mc query => query.1.charged mc query.2) s.2)),
        ((connectorMachine α sha256Hex fo cfg role).step s.1 op).2) := by
  obtain ⟨c, mc⟩ := s
  cases op with
  | getNumNewMatchedTokens request n env =>
    simp only [meteredConnector, Connector.getNumNewMatchedTokensMetered_eq, Connector.asked, Connector.received]
    cases c.asking request <;> rfl
  | startLoadKv requestId env =>
    simp only [meteredConnector, Connector.startLoadKvMetered_eq, Connector.asked, Connector.received]
    cases c.loading requestId with
    | none => rfl
    | some md => cases env.reply <;> rfl
  | refinementEnds rid k reply =>
    simp only [meteredConnector, Connector.refinementEndsMetered, WorkerSide.exec_loadRefinement, ite_self]
    rfl
  | _ => rfl

/-- The counters in terms of queries and replies. -/
structure Tally (mc : MetricsCollector) (queries : List (SchedulerSide × QueryEnv)) (replies : List Bytes) :
    Prop where
  asked : mc.manifestQueriesTotal = queries.length
  hits : mc.manifestHitTotal = queries.countP fun q => (queryManifest q.2.answer).isSome
  recomputes : mc.recomputeFallbackTotal = queries.countP fun q => q.1.declines q.2
  bytes : mc.remoteCriticalBytesTotal = (replies.map List.length).sum
  never : mc.remoteRefineBytesTotal = 0 ∧ mc.remoteCriticalFailTotal = 0 ∧ mc.refineDropTotal = 0 ∧
    mc.ttftMs = [] ∧ mc.tpotMs = []

variable {sha256Hex fo cfg role}

/-- One more query. -/
theorem Tally.query {mc : MetricsCollector} {queries : List (SchedulerSide × QueryEnv)} {replies : List Bytes}
    (h : Tally mc queries replies) (q : SchedulerSide × QueryEnv) :
    Tally (q.1.charged mc q.2) (queries ++ [q]) replies := by
  obtain ⟨asked, hits, recomputes, bytes, never⟩ := h
  have hlast : ∀ p : SchedulerSide × QueryEnv → Bool,
      (queries ++ [q]).countP p = queries.countP p + if p q then 1 else 0 := by
    intro p
    rw [List.countP_append, List.countP_singleton]
  unfold SchedulerSide.charged MetricsCollector.recordManifestQuery
  cases hhit : (queryManifest q.2.answer).isSome <;> cases hdeclines : q.1.declines q.2 <;>
    refine ⟨?_, ?_, ?_, bytes, never⟩ <;>
    simp [hlast, hhit, hdeclines, asked, hits, recomputes, MetricsCollector.recordRecompute]

/-- One more reply. -/
theorem Tally.reply {mc : MetricsCollector} {queries : List (SchedulerSide × QueryEnv)} {replies : List Bytes}
    (h : Tally mc queries replies) (data : Bytes) :
    Tally (mc.recordCriticalBytes data.length) queries (replies ++ [data]) := by
  refine ⟨h.asked, h.hits, h.recomputes, ?_, h.never⟩
  rw [List.map_append, List.sum_append, ← h.bytes]
  exact congrArg _ (Nat.add_zero _).symm

/-- The queries and replies of a step. -/
theorem Tally.step {mc : MetricsCollector} {queries queries' : List (SchedulerSide × QueryEnv)}
    {replies replies' : List Bytes} (h : Tally mc queries replies) :
    Tally (replies'.foldl (fun mc data => mc.recordCriticalBytes data.length)
        (queries'.foldl (fun mc query => query.1.charged mc query.2) mc))
      (queries ++ queries') (replies ++ replies') := by
  have hqueries : Tally (queries'.foldl (fun mc query => query.1.charged mc query.2) mc) (queries ++ queries')
      replies := by
    induction queries' using List.reverseRecOn with
    | nil =>
      rw [List.append_nil]
      exact h
    | append_singleton queries' q ih =>
      rw [List.foldl_append, ← List.append_assoc]
      exact ih.query q
  induction replies' using List.reverseRecOn with
  | nil =>
    rw [List.append_nil]
    exact hqueries
  | append_singleton replies' data ih =>
    rw [List.foldl_append, ← List.append_assoc]
    exact ih.reply data

/-- A query that the planner declines found a manifest. -/
theorem Tally.le {mc : MetricsCollector} {queries : List (SchedulerSide × QueryEnv)} {replies : List Bytes}
    (h : Tally mc queries replies) :
    mc.recomputeFallbackTotal ≤ mc.manifestHitTotal ∧ mc.manifestHitTotal ≤ mc.manifestQueriesTotal := by
  rw [h.asked, h.hits, h.recomputes]
  refine ⟨List.countP_mono_left fun q _ hdeclines => ?_, List.countP_le_length⟩
  obtain ⟨m, hm, -⟩ := (Option.any_eq_true _ _).mp hdeclines
  rw [hm]
  rfl

variable (sha256Hex fo cfg role) in
/-- The run of the connector, and its counters. -/
theorem connectorCounters (ops : List (ConnectorOp α)) :
    ((meteredConnector α sha256Hex fo cfg role).exec ops).1 =
        (connectorMachine α sha256Hex fo cfg role).exec ops ∧
      Tally ((meteredConnector α sha256Hex fo cfg role).exec ops).2
        ((connectorMachine α sha256Hex fo cfg role).notes Connector.asked ops)
        ((connectorMachine α sha256Hex fo cfg role).notes Connector.received ops) := by
  induction ops using List.reverseRecOn with
  | nil => exact ⟨rfl, rfl, rfl, rfl, rfl, rfl, rfl, rfl, rfl, rfl⟩
  | append_singleton ops op ih =>
    rw [Machine.exec_snoc, meteredConnector_step, Machine.exec_snoc, Machine.notes_snoc, Machine.notes_snoc,
      ← ih.1]
    exact ⟨rfl, ih.2.step⟩

/-- **What the counters count**, in every run of the connector's calls and its refinement threads.  The collector
changes nothing else; a query counts once, and as a hit if it finds a manifest, and as a recompute if the planner
then declines; every reply to the critical channel counts with its bytes, decoded or not; failed loads,
refinements and latencies do not count at all. -/
theorem counters_tally (ops : List (ConnectorOp α)) :
    let s := (meteredConnector α sha256Hex fo cfg role).exec ops
    let M := connectorMachine α sha256Hex fo cfg role
    s.1 = M.exec ops ∧
      Tally s.2 (M.notes Connector.asked ops) (M.notes Connector.received ops) ∧
      s.2.recomputeFallbackTotal ≤ s.2.manifestHitTotal ∧ s.2.manifestHitTotal ≤ s.2.manifestQueriesTotal := by
  intro s M
  obtain ⟨hrun, htally⟩ := connectorCounters sha256Hex fo cfg role ops
  exact ⟨hrun, htally, htally.le⟩

end Runs

/-! ## The services -/

section Services

variable {κ : Type} [DecidableEq κ] {α : Type} {setup : Setup κ}

/-- The objects that the data server delivers to the loads of connector `i` in a step. -/
def Deployment.delivered (i : κ) (d : Deployment α setup) : DeploymentOp α κ → List Bytes
  | .call j link (.startLoadKv requestId _) =>
    if j = i then ((d.connectors i).loading requestId).toList.flatMap fun md => (d.criticalReply md link).toList
    else []
  | _ => []

end Services

-- in the small deployment: one query, which finds the manifest, and an object of two bytes
example :
    let mc := ((meteredConnector Half soloSetup.sha256Hex soloSetup.floats (soloSetup.config ())
      (soloSetup.role ())).exec ((deploymentMachine Half soloSetup).notes (Deployment.callsOf ()) soloRun)).2
    mc.manifestQueriesTotal = 1 ∧ mc.manifestHitTotal = 1 ∧ mc.remoteCriticalBytesTotal = 2 := by
  decide +kernel

end AwareKV
