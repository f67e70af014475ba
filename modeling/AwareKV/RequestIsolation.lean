import AwareKV.Isolation
import AwareKV.LoadFailure
import AwareKV.Pending
import AwareKV.Provenance

/-!
# AwareKV.RequestIsolation — requests do not see each other in the whole connector

`AwareKV.Isolation` is about the scheduler side.  Here all lifecycle calls and refinement threads run, and
the worker side's loads, layers, refinements, save sessions and fetches are compared as well.

* `worker_own`, `worker_other`: a worker side is a product of parts, one for each request.
* `sameRequest_own`, `sameRequest_other`: the steps of a connector.
* `requests_isolated`: whole runs, with the calls of all requests or of one.

Only `wait_for_layer_load` looks across requests; it, `get_finished`, `take_events` and `wait_for_save` are
no request's calls, and what is held for a request does not depend on them.
-/

namespace AwareKV

variable {α : Type}

/-! ## The worker side -/

/-- The request that a call of the worker side is for. -/
def WorkerOp.owner : WorkerOp α → Option ReqId
  | .startLoadKv md _ => some md.requestId
  | .waitForLayerLoad _ => none
  | .saveKvLayer _ _ _ rid => some rid
  | .requestFinished rid => some rid
  | .refinementStarts rid _ => some rid
  | .refinementEnds rid _ => some rid

/-- What a worker side has asked for a request. -/
def WorkerSide.fetchesFor (w : WorkerSide α) (rid : ReqId) : List Fetch :=
  w.fetches.filter (fun f => f.requestId = rid)

/-- The two worker sides hold the same about `rid`, and have asked the same for it. -/
structure SameHoldings (rid : ReqId) (w w' : WorkerSide α) : Prop where
  active : w.activeLoads.get? rid = w'.activeLoads.get? rid
  loaded : w.loadedKvs.get? rid = w'.loadedKvs.get? rid
  future : w.loadFutures.get? rid = w'.loadFutures.get? rid
  futures : w.futuresOf rid = w'.futuresOf rid
  session : w.saveSessions.get? rid = w'.saveSessions.get? rid
  fetches : w.fetchesFor rid = w'.fetchesFor rid

section Worker

variable {cfg : DeadlineKVConfig} {fo : FloatOps} {w w' w'' : WorkerSide α} {rid : ReqId}

theorem SameHoldings.refl (rid : ReqId) (w : WorkerSide α) : SameHoldings rid w w :=
  ⟨rfl, rfl, rfl, rfl, rfl, rfl⟩

theorem SameHoldings.trans (h : SameHoldings rid w w') (h' : SameHoldings rid w' w'') :
    SameHoldings rid w w'' :=
  ⟨h.active.trans h'.active, h.loaded.trans h'.loaded, h.future.trans h'.future, h.futures.trans h'.futures,
    h.session.trans h'.session, h.fetches.trans h'.fetches⟩

/-- The same fetches after those of both. -/
theorem fetchesFor_append (h : w.fetchesFor rid = w'.fetchesFor rid) (more : List Fetch) :
    (w.fetches ++ more).filter (fun f => f.requestId = rid) =
      (w'.fetches ++ more).filter (fun f => f.requestId = rid) := by
  rw [List.filter_append, List.filter_append]
  exact congrArg (fun fs => fs ++ _) h

/-- Fetches for other requests. -/
theorem fetchesFor_others {more : List Fetch} (hmore : ∀ f ∈ more, f.requestId ≠ rid) :
    (w.fetches ++ more).filter (fun f => f.requestId = rid) = w.fetchesFor rid := by
  have hnone : more.filter (fun f => f.requestId = rid) = [] :=
    List.filter_eq_nil_iff.mpr fun f hf => by simpa using hmore f hf
  rw [List.filter_append, hnone, List.append_nil]
  rfl

/-- The futures of the request that move are the same. -/
theorem futures_moved {w₁ w₂ : WorkerSide α} {k : ℕ} {status status' : FutureStatus}
    (h : w.futuresOf rid = w'.futuresOf rid) (h₁ : w₁.executor = w.moveFuture rid k status status')
    (h₂ : w₂.executor = w'.moveFuture rid k status status') : w₁.futuresOf rid = w₂.futuresOf rid := by
  rw [WorkerSide.futuresOf_moveFuture h₁, WorkerSide.futuresOf_moveFuture h₂, if_pos rfl, if_pos rfl, h]

theorem load_own (md : DeadlineConnectorMetadata) (env : LoadEnv) (h : SameHoldings md.requestId w w') :
    SameHoldings md.requestId (w.startLoadKv cfg fo md env).1 (w'.startLoadKv cfg fo md env).1 ∧
      (w.startLoadKv cfg fo md env).2 = (w'.startLoadKv cfg fo md env).2 := by
  simp only [WorkerSide.startLoadKv, WorkerSide.fetchCriticalKv_eq]
  have hfetches := fetchesFor_append h.fetches [⟨.critical, md.criticalObjectId, md.requestId⟩]
  cases WorkerSide.loadLayers cfg fo md env.reply with
  | error e =>
    refine ⟨⟨?_, h.loaded, h.future, h.futures, h.session, hfetches⟩, rfl⟩
    simp [WorkerSide.loadFailed]
  | ok r =>
    dsimp only
    by_cases hr : WorkerSide.WantsRefinement md
    · rw [if_pos hr, if_pos hr]
      unfold WorkerSide.scheduleRefinementLoad
      cases env.submitFault with
      | some e =>
        refine ⟨⟨?_, ?_, h.future, h.futures, h.session, hfetches⟩, rfl⟩
        · simp [WorkerSide.loadFailed]
        · simp [WorkerSide.loadFailed]
      | none =>
        have hfutures := h.futures
        unfold WorkerSide.futuresOf at hfutures
        exact ⟨⟨by simp, by simp, by simp [WorkerSide.futuresOf, hfutures],
          by simp [WorkerSide.futuresOf, hfutures], h.session, hfetches⟩, rfl⟩
    · rw [if_neg hr, if_neg hr]
      exact ⟨⟨by simp, by simp, h.future, h.futures, h.session, hfetches⟩, rfl⟩

theorem save_own (layerName : String) (kvLayer : Tensor α) (attn : Option AttnMetadata)
    (h : SameHoldings rid w w') :
    SameHoldings rid (w.saveKvLayer cfg layerName kvLayer attn rid)
      (w'.saveKvLayer cfg layerName kvLayer attn rid) := by
  refine ⟨h.active, h.loaded, h.future, h.futures, ?_, h.fetches⟩
  simp only [WorkerSide.saveKvLayer, Dict.get?_insert, if_true, h.session]

theorem cancelled_own (h : SameHoldings rid w w') {w₁ w₂ : WorkerSide α}
    (h₁ : w₁.executor = w.cancelFuture rid) (h₂ : w₂.executor = w'.cancelFuture rid) :
    w₁.futuresOf rid = w₂.futuresOf rid := by
  unfold WorkerSide.cancelFuture at h₁ h₂
  rw [h.future] at h₁
  cases hk : w'.loadFutures.get? rid with
  | none =>
    rw [hk] at h₁ h₂
    rw [WorkerSide.futuresOf, WorkerSide.futuresOf, h₁, h₂]
    exact h.futures
  | some k =>
    rw [hk] at h₁ h₂
    exact futures_moved h.futures h₁ h₂

theorem finished_own (h : SameHoldings rid w w') :
    SameHoldings rid (w.requestFinished rid).1 (w'.requestFinished rid).1 ∧
      (w.requestFinished rid).2 = (w'.requestFinished rid).2 := by
  obtain ⟨hactive, hloaded, hfuture⟩ := w.requestFinished_loads rid
  obtain ⟨hactive', hloaded', hfuture'⟩ := w'.requestFinished_loads rid
  obtain ⟨hanswer, hsession⟩ := requestFinished_same h.session
  refine ⟨⟨?_, ?_, ?_, ?_, hsession, ?_⟩, hanswer⟩
  · rw [hactive, hactive', Dict.get?_erase, Dict.get?_erase, if_pos rfl, if_pos rfl]
  · rw [hloaded, hloaded', Dict.get?_erase, Dict.get?_erase, if_pos rfl, if_pos rfl]
  · rw [hfuture, hfuture', Dict.get?_erase, Dict.get?_erase, if_pos rfl, if_pos rfl]
  · exact cancelled_own h (w.requestFinished_executor rid) (w'.requestFinished_executor rid)
  · rw [WorkerSide.fetchesFor, WorkerSide.fetchesFor, WorkerSide.requestFinished_fetches,
      WorkerSide.requestFinished_fetches]
    exact h.fetches

theorem starts_own (h : SameHoldings rid w w') (k : ℕ) :
    SameHoldings rid (w.refinementStarts rid k) (w'.refinementStarts rid k) :=
  ⟨h.active, h.loaded, h.future, futures_moved h.futures rfl rfl, h.session, h.fetches⟩

theorem ends_own (h : SameHoldings rid w w') (k : ℕ) :
    SameHoldings rid (w.refinementEnds rid k) (w'.refinementEnds rid k) := by
  have hasks : w.futureIn .running rid k = w'.futureIn .running rid k := by
    unfold WorkerSide.futureIn
    rw [h.futures]
  refine ⟨h.active, h.loaded, h.future, futures_moved h.futures rfl rfl, h.session, ?_⟩
  unfold WorkerSide.refinementEnds WorkerSide.fetchesFor
  rw [hasks]
  exact fetchesFor_append h.fetches _

/-- **Own calls**: the same call for a request, on worker sides that hold the same about it, gets the same
answer and leaves them so. -/
theorem worker_own {wop : WorkerOp α} (hop : wop.owner = some rid) (h : SameHoldings rid w w') :
    SameHoldings rid ((workerMachine α cfg fo).step w wop).1 ((workerMachine α cfg fo).step w' wop).1 ∧
      ((workerMachine α cfg fo).step w wop).2 = ((workerMachine α cfg fo).step w' wop).2 := by
  cases wop with
  | startLoadKv md env =>
    obtain rfl : md.requestId = rid := Option.some.inj hop
    obtain ⟨hsame, hresult⟩ := load_own md env h
    exact ⟨hsame, congrArg WorkerAnswer.load hresult⟩
  | waitForLayerLoad layerName => cases hop
  | saveKvLayer layerName kvLayer attn q =>
    obtain rfl : q = rid := Option.some.inj hop
    exact ⟨save_own layerName kvLayer attn h, rfl⟩
  | requestFinished q =>
    obtain rfl : q = rid := Option.some.inj hop
    obtain ⟨hsame, hanswer⟩ := finished_own h
    exact ⟨hsame, congrArg WorkerAnswer.finished hanswer⟩
  | refinementStarts q k =>
    obtain rfl : q = rid := Option.some.inj hop
    exact ⟨starts_own h k, rfl⟩
  | refinementEnds q k =>
    obtain rfl : q = rid := Option.some.inj hop
    exact ⟨ends_own h k, rfl⟩

/-- **Calls of others** leave everything that is held about a request. -/
theorem worker_other {wop : WorkerOp α} (hop : wop.owner ≠ some rid) :
    SameHoldings rid ((workerMachine α cfg fo).step w wop).1 w := by
  cases wop with
  | startLoadKv md env =>
    have hne : rid ≠ md.requestId := fun he => hop (congrArg some he.symm)
    have hsame : WorkerSide.SameOthers md.requestId w (w.startLoadKv cfg fo md env).1 :=
      startLoadKv_sameOthers w md env
    refine ⟨hsame.activeLoads rid hne, hsame.loadedKvs rid hne, hsame.loadFutures rid hne,
      hsame.futures rid hne, hsame.saveSessions rid hne, ?_⟩
    show ((w.startLoadKv cfg fo md env).1.fetches).filter _ = _
    rw [WorkerSide.startLoadKv_fetches]
    exact fetchesFor_others fun f hf => by rw [List.mem_singleton.mp hf]; exact hne.symm
  | waitForLayerLoad layerName => exact .refl rid w
  | saveKvLayer layerName kvLayer attn q =>
    have hne : rid ≠ q := fun he => hop (congrArg some he.symm)
    exact ⟨rfl, rfl, rfl, rfl, (w.saveSessions.get?_insert _ _ _).trans (if_neg hne), rfl⟩
  | requestFinished q =>
    have hne : rid ≠ q := fun he => hop (congrArg some he.symm)
    obtain ⟨hactive, hloaded, hfuture⟩ := w.requestFinished_loads q
    refine ⟨?_, ?_, ?_, ?_, ?_, ?_⟩
    · exact (congrArg (fun d => d.get? rid) hactive).trans ((Dict.get?_erase _ _ _).trans (if_neg hne))
    · exact (congrArg (fun d => d.get? rid) hloaded).trans ((Dict.get?_erase _ _ _).trans (if_neg hne))
    · exact (congrArg (fun d => d.get? rid) hfuture).trans ((Dict.get?_erase _ _ _).trans (if_neg hne))
    · exact WorkerSide.futuresOf_cancelFuture (w.requestFinished_executor q) hne
    · exact Option.some.inj (sessions_other hne (some w))
    · exact congrArg (List.filter _) (w.requestFinished_fetches q)
  | refinementStarts q k =>
    have hne : rid ≠ q := fun he => hop (congrArg some he.symm)
    exact ⟨rfl, rfl, rfl, (WorkerSide.futuresOf_moveFuture rfl rid).trans (if_neg hne), rfl, rfl⟩
  | refinementEnds q k =>
    have hne : rid ≠ q := fun he => hop (congrArg some he.symm)
    refine ⟨rfl, rfl, rfl, (WorkerSide.futuresOf_moveFuture rfl rid).trans (if_neg hne), rfl, ?_⟩
    refine fetchesFor_others fun f hf => ?_
    obtain ⟨md, -, rfl⟩ := List.mem_map.mp hf
    exact hne.symm

end Worker

/-! ## The connector -/

/-- The request that a lifecycle call is for. -/
def ConnectorOp.owner : ConnectorOp α → Option ReqId
  | .getNumNewMatchedTokens request _ _ => some (extractRequestId request)
  | .updateStateAfterAlloc request _ => some (extractRequestId request)
  | .buildConnectorMeta request => some (extractRequestId request)
  | .updateConnectorOutput rid _ => some rid
  | .requestFinished rid => some rid
  | .takeEvents => none
  | .getFinished => none
  | .startLoadKv requestId _ => requestId
  | .waitForLayerLoad _ => none
  | .saveKvLayer _ _ _ requestId => requestId
  | .waitForSave => none
  | .refinementStarts rid _ => some rid
  | .refinementEnds rid _ _ => some rid

/-- The scheduler-side call that a lifecycle call is. -/
def ConnectorOp.schedulerOp : ConnectorOp α → Option SchedulerOp
  | .getNumNewMatchedTokens request n env => some (.getNumNewMatchedTokens request n env)
  | .updateStateAfterAlloc request out => some (.updateStateAfterAlloc request out)
  | .buildConnectorMeta request => some (.buildConnectorMeta request)
  | .updateConnectorOutput rid result => some (.updateConnectorOutput rid result)
  | .requestFinished rid => some (.requestFinished rid)
  | _ => none

/-- The answer of a scheduler-side call, as the lifecycle call gives it. -/
def ConnectorAnswer.ofScheduler : SchedulerAnswer → ConnectorAnswer
  | .done => .done
  | .tokens (.ok answer) => .tokens answer
  | .tokens (.error _) => .tokens (0, false)
  | .metadata md => .metadata md
  | .finished r => .ofPy r

section Connector

variable {sha256Hex : String → String} {fo : FloatOps} {cfg : DeadlineKVConfig} {role : String}
  {c c' : Connector α} {rid : ReqId}

variable (sha256Hex fo cfg role) in
/-- A scheduler-side call makes the step of the scheduler side. -/
theorem schedulerOp_step {op : ConnectorOp α} {sop : SchedulerOp} (h : op.schedulerOp = some sop)
    (c₀ c : Connector α) :
    (connectorMachine α sha256Hex fo cfg role).step c op =
        (((schedulerMachine sha256Hex c₀).step c sop).1,
          .ofScheduler ((schedulerMachine sha256Hex c₀).step c sop).2) ∧
      op.owner = some sop.owner := by
  cases op with
  | getNumNewMatchedTokens request n env => cases h; exact ⟨rfl, rfl⟩
  | updateStateAfterAlloc request out => cases h; exact ⟨rfl, rfl⟩
  | buildConnectorMeta request => cases h; exact ⟨rfl, rfl⟩
  | updateConnectorOutput q result => cases h; exact ⟨rfl, rfl⟩
  | requestFinished q => cases h; exact ⟨rfl, rfl⟩
  | _ => cases h

variable (sha256Hex fo cfg role) in
/-- A call of the worker side only. -/
theorem schedulerOp_none {op : ConnectorOp α} (h : op.schedulerOp = none) (c : Connector α) :
    ((connectorMachine α sha256Hex fo cfg role).step c op).1.schedulerSide = c.schedulerSide ∧
      ((connectorMachine α sha256Hex fo cfg role).step c op).1.stateManager = c.stateManager ∧
      ((connectorMachine α sha256Hex fo cfg role).step c op).1.pendingMetadata = c.pendingMetadata ∧
      ((connectorMachine α sha256Hex fo cfg role).step c op).1.workerResults = c.workerResults := by
  have hstep := connectorStep sha256Hex fo cfg role c op
  generalize ((connectorMachine α sha256Hex fo cfg role).step c op).1 = c' at hstep ⊢
  generalize ((connectorMachine α sha256Hex fo cfg role).step c op).2 = answer at hstep
  cases hstep with
  | queried | allocated | built | reported | finished | finishRaised => cases h
  | taken | loaded | saved | refinementStarted | refinementEnded | kept => exact ⟨rfl, rfl, rfl, rfl⟩

/-- The two connectors hold the same about `rid`, up to its start time and plan id. -/
structure SameRequest (rid : ReqId) (c c' : Connector α) : Prop where
  scheduler : SameFor rid c c'
  config : c.config = c'.config
  holdings : Option.Rel (SameHoldings rid) c.workerSide c'.workerSide

/-- What a call makes of a worker side is for the call's request. -/
theorem workerOps_owner (h : SchedInv c.stateManager c.pendingMetadata) {op : ConnectorOp α}
    {wop : WorkerOp α} (hmem : wop ∈ c.workerOps op) : wop.owner = op.owner := by
  cases op with
  | startLoadKv requestId env =>
    obtain ⟨md, hmd, rfl⟩ := List.mem_map.mp hmem
    replace hmd := Option.mem_toList.mp hmd
    unfold Connector.loading at hmd
    split_ifs at hmd with hnone
    obtain ⟨st, m, plan, -, hd⟩ := h.pending _ md hmd
    cases requestId with
    | none => exact absurd (Or.inr rfl) hnone
    | some q => exact congrArg some hd.requestId
  | saveKvLayer layerName kvLayer attn requestId =>
    simp only [Connector.workerOps] at hmem
    split_ifs at hmem with hrid
    · cases hmem
    · obtain rfl := List.mem_singleton.mp hmem
      cases requestId with
      | none => exact absurd rfl hrid
      | some q => rfl
  | requestFinished q => obtain rfl := List.mem_singleton.mp hmem; rfl
  | refinementStarts q k => obtain rfl := List.mem_singleton.mp hmem; rfl
  | refinementEnds q k reply => obtain rfl := List.mem_singleton.mp hmem; rfl
  | _ => cases hmem

/-- An own call makes the same of both worker sides. -/
theorem workerOps_same (h : SameRequest rid c c') {op : ConnectorOp α} (hop : op.owner = some rid) :
    c.workerOps op = c'.workerOps op := by
  cases op with
  | startLoadKv requestId env =>
    obtain rfl : requestId = some rid := hop
    have hside : c.workerSide.isNone = c'.workerSide.isNone := by
      have hrel := h.holdings
      generalize c.workerSide = w at hrel ⊢
      generalize c'.workerSide = w' at hrel ⊢
      cases hrel <;> rfl
    simp only [Connector.workerOps, Connector.loading, hside, Option.getD_some, h.scheduler.pending]
  | _ => rfl

theorem holdings_own {w w' : WorkerSide α} (h : SameHoldings rid w w') {wops : List (WorkerOp α)}
    (hops : ∀ wop ∈ wops, wop.owner = some rid) :
    SameHoldings rid ((workerMachine α cfg fo).execFrom w wops) ((workerMachine α cfg fo).execFrom w' wops) := by
  induction wops generalizing w w' with
  | nil => exact h
  | cons wop wops ih =>
    exact ih (worker_own (hops wop List.mem_cons_self) h).1
      fun wop' hmem => hops wop' (List.mem_cons_of_mem wop hmem)

theorem holdings_other {w : WorkerSide α} {wops : List (WorkerOp α)}
    (hops : ∀ wop ∈ wops, wop.owner ≠ some rid) :
    SameHoldings rid ((workerMachine α cfg fo).execFrom w wops) w := by
  induction wops generalizing w with
  | nil => exact .refl rid w
  | cons wop wops ih =>
    exact (ih fun wop' hmem => hops wop' (List.mem_cons_of_mem wop hmem)).trans
      (worker_other (hops wop List.mem_cons_self))

theorem session_of_holdings {w w' : Option (WorkerSide α)} (h : Option.Rel (SameHoldings rid) w w') :
    w.map (fun w => w.saveSessions.get? rid) = w'.map (fun w => w.saveSessions.get? rid) := by
  cases h with
  | none => rfl
  | some h => exact congrArg some h.session

variable (sha256Hex fo cfg role) in
/-- **Own calls** of a connector. -/
theorem sameRequest_own (hinv : SchedInv c'.stateManager c'.pendingMetadata) {op : ConnectorOp α}
    (hop : op.owner = some rid) (h : SameRequest rid c c') :
    SameRequest rid ((connectorMachine α sha256Hex fo cfg role).step c op).1
        ((connectorMachine α sha256Hex fo cfg role).step c' op).1 ∧
      ((connectorMachine α sha256Hex fo cfg role).step c op).2 =
        ((connectorMachine α sha256Hex fo cfg role).step c' op).2 := by
  have hholdings : Option.Rel (SameHoldings rid)
      ((connectorMachine α sha256Hex fo cfg role).step c op).1.workerSide
      ((connectorMachine α sha256Hex fo cfg role).step c' op).1.workerSide := by
    rw [workerSide_step, workerSide_step, workerOps_same h hop, h.config]
    have hown : ∀ wop ∈ c'.workerOps op, wop.owner = some rid :=
      fun wop hmem => (workerOps_owner hinv hmem).trans hop
    have hrel := h.holdings
    generalize c.workerSide = w at hrel ⊢
    generalize c'.workerSide = w' at hrel ⊢
    cases hrel with
    | none => exact .none
    | some hw => exact .some (holdings_own hw hown)
  have hconfig : ((connectorMachine α sha256Hex fo cfg role).step c op).1.config =
      ((connectorMachine α sha256Hex fo cfg role).step c' op).1.config := by
    rw [step_config, step_config]
    exact h.config
  cases hs : op.schedulerOp with
  | some sop =>
    obtain ⟨hstep, howner⟩ := schedulerOp_step sha256Hex fo cfg role hs c c
    obtain ⟨hstep', -⟩ := schedulerOp_step sha256Hex fo cfg role hs c c'
    obtain rfl : sop.owner = rid := Option.some.inj (howner.symm.trans hop)
    obtain ⟨hsame, hanswer⟩ :
        SameFor sop.owner ((schedulerMachine sha256Hex c).step c sop).1
            ((schedulerMachine sha256Hex c).step c' sop).1 ∧
          ((schedulerMachine sha256Hex c).step c sop).2 = ((schedulerMachine sha256Hex c).step c' sop).2 :=
      sameFor_own rfl h.scheduler
    refine ⟨⟨?_, hconfig, hholdings⟩, ?_⟩
    · rw [hstep, hstep']
      exact hsame
    · rw [hstep, hstep', hanswer]
  | none =>
    obtain ⟨hside, hstates, hpending, hresults⟩ := schedulerOp_none sha256Hex fo cfg role hs c
    obtain ⟨hside', hstates', hpending', hresults'⟩ := schedulerOp_none sha256Hex fo cfg role hs c'
    refine ⟨⟨⟨?_, ?_, ?_, ?_, session_of_holdings hholdings⟩, hconfig, hholdings⟩, ?_⟩
    · rw [hside, hside']
      exact h.scheduler.side
    · rw [hstates, hstates']
      exact h.scheduler.slot
    · rw [hpending, hpending']
      exact h.scheduler.pending
    · rw [hresults, hresults']
      exact h.scheduler.result
    · cases op with
      | startLoadKv | saveKvLayer | refinementStarts | refinementEnds => rfl
      | takeEvents | getFinished | waitForLayerLoad | waitForSave => cases hop
      | getNumNewMatchedTokens | updateStateAfterAlloc | buildConnectorMeta | updateConnectorOutput
        | requestFinished => cases hs

/-- **Calls of others**, and calls of no request, leave everything that is held about a request. -/
theorem sameRequest_other (hinv : SchedInv c.stateManager c.pendingMetadata) {op : ConnectorOp α}
    (hop : op.owner ≠ some rid) :
    SameRequest rid ((connectorMachine α sha256Hex fo cfg role).step c op).1 c := by
  have hholdings : Option.Rel (SameHoldings rid)
      ((connectorMachine α sha256Hex fo cfg role).step c op).1.workerSide c.workerSide := by
    rw [workerSide_step]
    have hothers : ∀ wop ∈ c.workerOps op, wop.owner ≠ some rid :=
      fun wop hmem => (workerOps_owner hinv hmem).symm ▸ hop
    cases c.workerSide with
    | none => exact .none
    | some w => exact .some (holdings_other hothers)
  have hconfig : ((connectorMachine α sha256Hex fo cfg role).step c op).1.config = c.config := step_config c op
  cases hs : op.schedulerOp with
  | some sop =>
    obtain ⟨hstep, howner⟩ := schedulerOp_step sha256Hex fo cfg role hs c c
    have hne : rid ≠ sop.owner := fun he => hop (howner.trans (congrArg some he.symm))
    refine ⟨?_, hconfig, hholdings⟩
    rw [hstep]
    exact sameFor_other sop hne
  | none =>
    obtain ⟨hside, hstates, hpending, hresults⟩ := schedulerOp_none sha256Hex fo cfg role hs c
    refine ⟨⟨hside, ?_, ?_, ?_, session_of_holdings hholdings⟩, hconfig, hholdings⟩
    · rw [hstates]
      rfl
    · rw [hpending]
    · rw [hresults]

theorem SameRequest.refl (rid : ReqId) (c : Connector α) : SameRequest rid c c := by
  refine ⟨.refl rid c, rfl, ?_⟩
  cases c.workerSide with
  | none => exact .none
  | some w => exact .some (.refl rid w)

theorem SameRequest.trans {c'' : Connector α} (h : SameRequest rid c c') (h' : SameRequest rid c' c'') :
    SameRequest rid c c'' := by
  refine ⟨h.scheduler.trans h'.scheduler, h.config.trans h'.config, ?_⟩
  have hrel := h.holdings
  have hrel' := h'.holdings
  generalize c.workerSide = w at hrel ⊢
  generalize c'.workerSide = w' at hrel hrel'
  generalize c''.workerSide = w'' at hrel' ⊢
  cases hrel with
  | none =>
    cases hrel'
    exact .none
  | some hw =>
    cases hrel' with
    | some hw' => exact .some (hw.trans hw')

end Connector

/-- **Requests do not see each other in a connector.**  Run the lifecycle calls and refinement threads of any
requests, in any order; or only those of `rid`, in the same order.  `rid` gets the same answers, and the
connector ends up with the same about it: its state, its pending metadata and worker result, its active load,
loaded layers, refinement futures, replaced ones included, and save session, and what the data server was asked
for on its behalf. -/
theorem requests_isolated (sha256Hex : String → String) (fo : FloatOps) (cfg : DeadlineKVConfig)
    (role : String) (ops : List (ConnectorOp α)) (rid : ReqId) :
    SameRequest rid ((connectorMachine α sha256Hex fo cfg role).exec ops)
        ((connectorMachine α sha256Hex fo cfg role).exec (ops.filter (fun op => op.owner = some rid))) ∧
      (((connectorMachine α sha256Hex fo cfg role).trace ops).filter
          (fun x => x.1.owner = some rid)).map Prod.snd =
        ((connectorMachine α sha256Hex fo cfg role).trace
          (ops.filter (fun op => op.owner = some rid))).map Prod.snd := by
  have hinit := sched_inv sha256Hex fo cfg role ([] : List (ConnectorOp α))
  have hstep : ∀ (c : Connector α) op, SchedInv c.stateManager c.pendingMetadata →
      SchedInv ((connectorMachine α sha256Hex fo cfg role).step c op).1.stateManager
        ((connectorMachine α sha256Hex fo cfg role).step c op).1.pendingMetadata :=
    fun c op h => h.step (schedStep sha256Hex fo cfg role c op)
  have hrun := (connectorMachine α sha256Hex fo cfg role).unwinding
    (R := fun c c' => SameRequest rid c c' ∧ SchedInv c.stateManager c.pendingMetadata ∧
      SchedInv c'.stateManager c'.pendingMetadata)
    (S := fun op op' => op = op') (Q := fun a b => a = b)
    (fun c c' op op' hop hcall hsame => ?_) (fun c c' op hop hsame => ?_)
    (List.forall₂_refl (ops.filter (fun op => op.owner = some rid))) ⟨.refl rid _, hinit, hinit⟩
  · obtain ⟨hstate, htrace⟩ := hrun
    refine ⟨hstate.1, ?_⟩
    rw [← List.forall₂_eq_eq_eq, List.forall₂_map_left_iff, List.forall₂_map_right_iff]
    exact htrace
  · subst hcall
    obtain ⟨hsame, hinv, hinv'⟩ := hsame
    obtain ⟨hafter, hanswer⟩ := sameRequest_own sha256Hex fo cfg role hinv' (of_decide_eq_true hop) hsame
    exact ⟨⟨hafter, hstep c op hinv, hstep c' op hinv'⟩, hanswer⟩
  · obtain ⟨hsame, hinv, hinv'⟩ := hsame
    exact ⟨(sameRequest_other hinv (of_decide_eq_false hop)).trans hsame, hstep c op hinv, hinv'⟩

end AwareKV
