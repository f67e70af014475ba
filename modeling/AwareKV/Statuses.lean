import AwareKV.LoadGate

/-!
# AwareKV.Statuses — the life of a request as its state manager sees it

`StateManager` knows eight stages of a request.  In a connector a request goes through three of them, and what
happens to it is decided by its queries and its end alone: `lifeMachine` is all there is to it.

* `statuses_run`: the statuses after every run are those of `lifeMachine`; a state once made stays; and what
  `get_stats` counts.
-/

namespace AwareKV

open SchedulerSide

/-! ## What the statuses mean -/

/-- What happens to a request: it is looked up, or it ends. -/
inductive LifeEvent
  | asked (rid : ReqId) (planned : Bool)
  | ended (rid : ReqId)
  deriving DecidableEq

/-- A planned request stays planned until it ends; any other one is planned or missed each time it is looked up. -/
def lifeMachine : Machine (ReqId → Option Status) LifeEvent Unit where
  init := fun _ => none
  step life
    | .asked rid planned =>
      (Function.update life rid (some (if life rid = some .hitPlanned ∨ planned then .hitPlanned else .miss)), ())
    | .ended rid => (Function.update life rid ((life rid).map fun _ => .done), ())

theorem lifeMachine_asked (life : ReqId → Option Status) (rid : ReqId) (planned : Bool) :
    (lifeMachine.step life (.asked rid planned)).1 =
      Function.update life rid (some (if life rid = some .hitPlanned ∨ planned = true then .hitPlanned else .miss)) :=
  rfl

theorem lifeMachine_ended (life : ReqId → Option Status) (rid : ReqId) :
    (lifeMachine.step life (.ended rid)).1 = Function.update life rid ((life rid).map fun _ => .done) := rfl

/-- A query that finds a manifest leaves its request planned, unless the planner declines; it does so, too, if the
planner raises. -/
def SchedulerSide.plansFor (side : SchedulerSide) (env : QueryEnv) : Bool :=
  (queryManifest env.answer).any fun m => decide (side.PlannerRaises env m ∨ side.PlannerAccepts env m)

/-- What a call is for the life of a request. -/
def ConnectorOp.lifeEvent {α : Type} (side : Option SchedulerSide) : ConnectorOp α → Option LifeEvent
  | .getNumNewMatchedTokens request _ env =>
    side.bind fun side =>
      if side.Rejects request then none else some (.asked (extractRequestId request) (side.plansFor env))
  | .requestFinished rid => side.map fun _ => .ended rid
  | _ => none

/-- The statuses of a state manager. -/
def StateManager.statuses (sm : StateManager) (rid : ReqId) : Option Status := (sm.get rid).map (·.status)

/-! ## Steps -/

section Steps

variable {sm : StateManager}

theorem statuses_put (rid : ReqId) (st : RequestTransferState) :
    (sm.put rid st).statuses = Function.update sm.statuses rid (some st.status) := by
  ext q : 1
  rw [StateManager.statuses, StateManager.get_put, Function.update_apply]
  split_ifs with hq
  · rfl
  · rfl

theorem statuses_update {rid : ReqId} {f : RequestTransferState → RequestTransferState} {g : Status → Status}
    (hf : ∀ st, (f st).status = g st.status) :
    (sm.update rid f).statuses = Function.update sm.statuses rid ((sm.statuses rid).map g) := by
  ext q : 1
  rw [StateManager.statuses, StateManager.get_update, Function.update_apply]
  split_ifs with hq
  · rw [StateManager.statuses, Option.map_map, Option.map_map]
    exact congrArg (fun h => (sm.get rid).map h) (funext hf)
  · rfl

/-- The blocks of a state are no matter. -/
theorem statuses_bind (rid : ReqId) (blocks : List ℤ) : (bindAllocatedBlocks sm rid blocks).statuses = sm.statuses := by
  unfold bindAllocatedBlocks
  split
  · rfl
  · have hset : (sm.setAllocatedBlocks rid blocks).statuses =
        Function.update sm.statuses rid ((sm.statuses rid).map id) := statuses_update fun _ => rfl
    rw [hset, Option.map_id]
    exact Function.update_eq_self _ _

/-- A request that is not answered from its state is not planned. -/
theorem not_planned_of_uncached {rid : ReqId} (hc : cachedState sm rid = none) :
    sm.statuses rid ≠ some .hitPlanned := by
  intro hplanned
  obtain ⟨st, hst, hstatus⟩ := Option.map_eq_some_iff.mp hplanned
  simp [cachedState, hst, hstatus] at hc

/-- One that is, is planned, as long as no status is `RECOMPUTE`. -/
theorem planned_of_cached {rid : ReqId} {st : RequestTransferState} (hnever : sm.statuses rid ≠ some .recompute)
    (hc : cachedState sm rid = some st) : sm.statuses rid = some .hitPlanned := by
  obtain ⟨hst, hstatus⟩ := Option.filter_eq_some_iff.mp hc
  rw [StateManager.statuses, hst] at hnever ⊢
  rcases of_decide_eq_true hstatus with hplanned | hrecompute
  · rw [Option.map_some, hplanned]
  · exact absurd (congrArg some hrecompute) hnever

/-- **A query in the life of its request**, if no status is `RECOMPUTE`. -/
theorem statuses_prepared (hnever : ∀ rid, sm.statuses rid ≠ some .recompute) (sha256Hex : String → String)
    (side : SchedulerSide) (request : Request) (n : ℤ) (env : QueryEnv) :
    (side.prepareRequestState sha256Hex sm request n env).1.statuses =
      if side.Rejects request then sm.statuses
      else (lifeMachine.step sm.statuses (.asked (extractRequestId request) (side.plansFor env))).1 := by
  have hasked : ∀ planned status, (sm.statuses (extractRequestId request) = some .hitPlanned ∨ planned = true ↔
      status = .hitPlanned) → (status = .hitPlanned ∨ status = .miss) →
      (lifeMachine.step sm.statuses (.asked (extractRequestId request) planned)).1 =
        Function.update sm.statuses (extractRequestId request) (some status) := by
    intro planned status hiff hcases
    rw [lifeMachine_asked]
    rcases hcases with rfl | rfl
    · rw [if_pos (hiff.mpr rfl)]
    · rw [if_neg fun h => by cases hiff.mp h]
  have hout := side.prepared sha256Hex sm request n env
  generalize side.prepareRequestState sha256Hex sm request n env = out at hout ⊢
  cases hout with
  | rejected hr => rw [if_pos hr]
  | cached st hr hc =>
    have hplanned := planned_of_cached (hnever _) hc
    rw [if_neg hr, hasked _ .hitPlanned ⟨fun _ => rfl, fun _ => Or.inl hplanned⟩ (Or.inl rfl), ← hplanned]
    exact (Function.update_eq_self _ _).symm
  | missed hr hc hq =>
    have hno : side.plansFor env = false := by rw [plansFor, hq]; rfl
    rw [if_neg hr, statuses_put, hno, hasked false .miss ⟨?_, fun h => by cases h⟩ (Or.inr rfl)]
    · rfl
    · rintro (hplanned | hfound)
      · exact absurd hplanned (not_planned_of_uncached hc)
      · cases hfound
  | raised m e hr hc hq hp =>
    have hyes : side.plansFor env = true := by simp [plansFor, hq, hp]
    rw [if_neg hr, statuses_put, hyes, hasked true .hitPlanned ⟨fun _ => rfl, fun _ => Or.inr rfl⟩ (Or.inl rfl)]
    rfl
  | recomputed m plan hr hc hq hp ha =>
    have hno : side.plansFor env = false := by simp [plansFor, hq, hp, ha]
    rw [if_neg hr, statuses_put, hno, hasked false .miss ⟨?_, fun h => by cases h⟩ (Or.inr rfl)]
    · rfl
    · rintro (hplanned | hfound)
      · exact absurd hplanned (not_planned_of_uncached hc)
      · cases hfound
  | accepted m plan hr hc hq hp ha hcall hmode htok hblk =>
    have hyes : side.plansFor env = true := by simp [plansFor, hq, ha]
    rw [if_neg hr, statuses_put, hyes, hasked true .hitPlanned ⟨fun _ => rfl, fun _ => Or.inr rfl⟩ (Or.inl rfl)]
    rfl

end Steps

/-! ## The life of requests -/

/-- The stages that there are. -/
theorem life_stages (events : List LifeEvent) (rid : ReqId) {status : Status}
    (h : lifeMachine.exec events rid = some status) :
    status = .miss ∨ status = .hitPlanned ∨ status = .done := by
  induction events using List.reverseRecOn generalizing status with
  | nil => cases h
  | append_singleton events event ih =>
    rw [Machine.exec_snoc] at h
    cases event with
    | asked q planned =>
      rw [lifeMachine_asked, Function.update_apply] at h
      split_ifs at h with hq hplanned
      · exact Or.inr (Or.inl (Option.some.inj h).symm)
      · exact Or.inl (Option.some.inj h).symm
      · exact ih h
    | ended q =>
      rw [lifeMachine_ended, Function.update_apply] at h
      split_ifs at h with hq
      · obtain ⟨old, -, hdone⟩ := Option.map_eq_some_iff.mp h
        exact Or.inr (Or.inr hdone.symm)
      · exact ih h

/-- A request that was looked up once has a stage for good. -/
theorem life_isSome (events : List LifeEvent) (rid : ReqId) :
    (lifeMachine.exec events rid).isSome ↔ ∃ planned, .asked rid planned ∈ events := by
  induction events using List.reverseRecOn with
  | nil => simp [lifeMachine, Machine.exec, Machine.execFrom]
  | append_singleton events event ih =>
    rw [Machine.exec_snoc]
    cases event with
    | asked q planned =>
      rw [lifeMachine_asked, Function.update_apply]
      by_cases hq : rid = q
      · rw [if_pos hq]
        exact ⟨fun _ => ⟨planned, by simp [hq]⟩, fun _ => rfl⟩
      · rw [if_neg hq, ih]
        simp [hq]
    | ended q =>
      rw [lifeMachine_ended, Function.update_apply]
      by_cases hq : rid = q
      · rw [if_pos hq, Option.isSome_map, ← hq, ih]
        simp
      · rw [if_neg hq, ih]
        simp

/-! ## What is counted -/

/-- `get_stats` counts the states of each status. -/
theorem getStats_eq (sm : StateManager) (status : Status) :
    (sm.getStats.get? status).getD 0 =
      (sm.getAllRequestIds.filter fun rid => sm.statuses rid = some status).length := by
  have hcount : ∀ states : List RequestTransferState,
      ((states.foldl (fun stats st => stats.insert st.status ((stats.get? st.status).getD 0 + 1))
        (Dict.empty : Dict Status ℕ)).get? status).getD 0 =
        (states.filter fun st => st.status = status).length := by
    intro states
    induction states using List.reverseRecOn with
    | nil => rfl
    | append_singleton states st ih =>
      rw [List.foldl_append, List.filter_append, List.length_append, ← ih, List.foldl_cons, List.foldl_nil,
        Dict.get?_insert]
      by_cases hst : status = st.status
      · simp [hst]
      · simp [hst, Ne.symm hst]
  have hkeys : sm.getAllRequestIds.filter (fun rid => sm.statuses rid = some status) =
      (sm.states.entries.filter fun e => e.2.status = status).map Prod.fst := by
    rw [StateManager.getAllRequestIds, Dict.keys, List.filter_map]
    refine congrArg _ (List.filter_congr fun e he => ?_)
    have hst : sm.get e.1 = some e.2 := Dict.get?_eq_some_iff.mpr he
    simp [StateManager.statuses, hst]
  rw [hkeys, List.length_map, StateManager.getStats, hcount, List.filter_map, List.length_map]
  rfl

/-! ## Runs -/

section Runs

variable {α : Type} (sha256Hex : String → String) (fo : FloatOps) (cfg : DeadlineKVConfig) (role : String)

/-- A connector keeps its scheduler side. -/
theorem schedulerSide_exec (ops : List (ConnectorOp α)) :
    ((connectorMachine α sha256Hex fo cfg role).exec ops).schedulerSide =
      (Connector.start α fo cfg role).schedulerSide :=
  (connectorMachine α sha256Hex fo cfg role).invariant
    (I := fun c => c.schedulerSide = (Connector.start α fo cfg role).schedulerSide) rfl
    (fun c op hc => (step_schedulerSide c op).trans hc) ops

/-- **A call in the life of requests.** -/
theorem statuses_step {c : Connector α} (hnever : ∀ rid, c.stateManager.statuses rid ≠ some .recompute)
    (op : ConnectorOp α) :
    ((connectorMachine α sha256Hex fo cfg role).step c op).1.stateManager.statuses =
      lifeMachine.execFrom c.stateManager.statuses (op.lifeEvent c.schedulerSide).toList := by
  have hs := schedStep sha256Hex fo cfg role c op
  generalize ((connectorMachine α sha256Hex fo cfg role).step c op).1.stateManager = sm at hs ⊢
  generalize ((connectorMachine α sha256Hex fo cfg role).step c op).1.pendingMetadata = pending at hs
  cases hs with
  | queried side request n env hside =>
    rw [statuses_prepared hnever, hside]
    by_cases hr : side.Rejects request
    · rw [if_pos hr]
      simp [ConnectorOp.lifeEvent, hr, Machine.execFrom]
    · rw [if_neg hr]
      simp [ConnectorOp.lifeEvent, hr, Machine.execFrom]
  | allocated request out blocks => exact statuses_bind _ blocks
  | built request md hb => rfl
  | finished rid hside =>
    obtain ⟨side, hside⟩ := Option.isSome_iff_exists.mp hside
    rw [statuses_update (g := fun _ => .done) fun _ => rfl, hside]
    rfl
  | finishedAlone rid hside =>
    rw [hside]
    rfl
  | kept op hq hf =>
    cases op with
    | getNumNewMatchedTokens request n env =>
      rw [hq request n env rfl]
      rfl
    | requestFinished rid => exact absurd rfl (hf rid)
    | _ => rfl

/-- **The statuses of a run** are what the requests' own queries and ends make of them: a request gets a state when
it is first looked up and keeps it for good, is only ever `MISS`, `HIT_PLANNED` or `DONE`, whatever the worker side
does and reports, and `get_stats` counts the requests of each stage. -/
theorem statuses_run (ops : List (ConnectorOp α)) :
    let sm := ((connectorMachine α sha256Hex fo cfg role).exec ops).stateManager
    let events := ops.filterMap (ConnectorOp.lifeEvent (Connector.start α fo cfg role).schedulerSide)
    sm.statuses = lifeMachine.exec events ∧
      (∀ rid, rid ∈ sm.getAllRequestIds ↔ ∃ planned, .asked rid planned ∈ events) ∧
      (∀ rid status, sm.statuses rid = some status → status = .miss ∨ status = .hitPlanned ∨ status = .done) ∧
      ∀ status, (sm.getStats.get? status).getD 0 =
        (sm.getAllRequestIds.filter fun rid => lifeMachine.exec events rid = some status).length := by
  intro sm events
  have hrun : sm.statuses = lifeMachine.exec events := by
    show ((connectorMachine α sha256Hex fo cfg role).exec ops).stateManager.statuses =
      lifeMachine.exec (ops.filterMap _)
    clear sm events
    induction ops using List.reverseRecOn with
    | nil =>
      show (Connector.start α fo cfg role).stateManager.statuses = fun _ => none
      rw [Connector.start_stateManager]
      rfl
    | append_singleton ops op ih =>
      have hnever : ∀ rid, ((connectorMachine α sha256Hex fo cfg role).exec ops).stateManager.statuses rid ≠
          some .recompute := by
        intro rid hrecompute
        rw [ih] at hrecompute
        rcases life_stages _ rid hrecompute with h | h | h <;> cases h
      have hlast : [op].filterMap (ConnectorOp.lifeEvent (Connector.start α fo cfg role).schedulerSide) =
          (op.lifeEvent (Connector.start α fo cfg role).schedulerSide).toList := by
        cases hevent : op.lifeEvent (Connector.start α fo cfg role).schedulerSide <;> simp [hevent]
      rw [Machine.exec_snoc, statuses_step sha256Hex fo cfg role hnever, schedulerSide_exec, ih,
        List.filterMap_append, hlast]
      exact (lifeMachine.execFrom_append _ _ _).symm
  refine ⟨hrun, fun rid => ?_, fun rid status h => ?_, fun status => ?_⟩
  · have hkeys : rid ∈ sm.states.keys ↔ ∃ st, sm.get rid = some st := Dict.mem_keys_iff
    rw [← life_isSome, ← hrun, StateManager.statuses, Option.isSome_map, Option.isSome_iff_exists]
    exact hkeys
  · rw [hrun] at h
    exact life_stages events rid h
  · rw [← hrun]
    exact getStats_eq sm status

end Runs

end AwareKV
