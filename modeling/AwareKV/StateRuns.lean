import AwareKV.LoadGate

/-!
# AwareKV.StateRuns — what holds of every request state of a run

`StatesAll Q` says that `Q` holds of every request state.  The calls that change states without a
query change the blocks or mark a request done; for a `Q` that survives these two, everything depends
on the states that the queries leave:

* `statesAll_step`: a call keeps `StatesAll Q` exactly under `QueryLeaves Q`.
* `plannedAll_query`: what this means for a property of the planned requests, their manifests and
  their plans; `plansOnly_refining` if it sees of the plan only whether it refines.
-/

namespace AwareKV

open SchedulerSide

variable {α : Type} {sha256Hex : String → String} {fo : FloatOps} {cfg : DeadlineKVConfig}
  {role : String}

/-! ### All states -/

/-- `Q` holds of every request state. -/
def StatesAll (Q : ReqId → RequestTransferState → Prop) (sm : StateManager) : Prop :=
  ∀ rid st, sm.get rid = some st → Q rid st

/-- `Q` survives what `update_state_after_alloc` and `request_finished` do to a state. -/
structure Stable (Q : ReqId → RequestTransferState → Prop) : Prop where
  blocks : ∀ rid st blocks, Q rid st → Q rid { st with allocatedBlockIds := blocks }
  done : ∀ rid st, Q rid st → Q rid { st with status := .done, requestFinished := true }

/-- If the call is a query, it leaves its request in a state with `Q`. -/
def QueryLeaves (sha256Hex : String → String) (Q : ReqId → RequestTransferState → Prop)
    (c : Connector α) : ConnectorOp α → Prop
  | .getNumNewMatchedTokens request n env => ∀ side, c.schedulerSide = some side →
      ∀ st, (side.prepareRequestState sha256Hex c.stateManager request n env).1.get
        (extractRequestId request) = some st → Q (extractRequestId request) st
  | _ => True

section Keep

variable {Q : ReqId → RequestTransferState → Prop} {sm : StateManager}

theorem statesAll_init : StatesAll Q (Connector.start α fo cfg role).stateManager := by
  intro rid st hst
  rw [Connector.start_stateManager, StateManager.get_new] at hst
  cases hst

theorem StatesAll.update (h : StatesAll Q sm) {rid : ReqId}
    {f : RequestTransferState → RequestTransferState} (hf : ∀ st, Q rid st → Q rid (f st)) :
    StatesAll Q (sm.update rid f) := by
  intro q u hu
  obtain ⟨rfl, st, hst, rfl⟩ | ⟨hq, hold⟩ := StateManager.get_update_eq_some.mp hu
  · exact hf st (h q st hst)
  · exact h q u hold

/-- A preparation changes the state of its request only. -/
theorem statesAll_prepared (h : StatesAll Q sm) (side : SchedulerSide) (request : Request) (n : ℤ)
    (env : QueryEnv) :
    StatesAll Q (side.prepareRequestState sha256Hex sm request n env).1 ↔
      ∀ st, (side.prepareRequestState sha256Hex sm request n env).1.get
        (extractRequestId request) = some st → Q (extractRequestId request) st := by
  refine ⟨fun hall st hst => hall _ st hst, fun hown q st hst => ?_⟩
  by_cases hq : q = extractRequestId request
  · subst hq
    exact hown st hst
  · rw [prepare_get_other side hq] at hst
    exact h q st hst

variable (sha256Hex fo cfg role) (hQ : Stable Q)

include hQ

/-- **Step lemma**: only the state that a query leaves matters. -/
theorem statesAll_step {c : Connector α} (h : StatesAll Q c.stateManager) (op : ConnectorOp α) :
    StatesAll Q ((connectorMachine α sha256Hex fo cfg role).step c op).1.stateManager ↔
      QueryLeaves sha256Hex Q c op := by
  have hs := schedStep sha256Hex fo cfg role c op
  generalize ((connectorMachine α sha256Hex fo cfg role).step c op).1.stateManager = sm at hs ⊢
  generalize ((connectorMachine α sha256Hex fo cfg role).step c op).1.pendingMetadata = pending at hs
  cases hs with
  | queried side request n env hside =>
    rw [statesAll_prepared h]
    refine ⟨fun hown side' hside' => ?_, fun hleaves => hleaves side hside⟩
    rw [hside] at hside'
    cases hside'
    exact hown
  | allocated request out blocks =>
    refine ⟨fun _ => trivial, fun _ => ?_⟩
    unfold bindAllocatedBlocks
    split
    · exact h
    · exact h.update fun st hst => hQ.blocks _ st blocks hst
  | built request md hb => exact ⟨fun _ => trivial, fun _ => h⟩
  | finished rid hside =>
    exact ⟨fun _ => trivial, fun _ => h.update fun st hst => hQ.done _ st hst⟩
  | finishedAlone rid hside => exact ⟨fun _ => trivial, fun _ => h⟩
  | kept op hq hf =>
    refine ⟨fun _ => ?_, fun _ => h⟩
    cases op with
    | getNumNewMatchedTokens request n env =>
      intro side hside
      rw [hq request n env rfl] at hside
      cases hside
    | _ => trivial

end Keep

/-! ### Planned requests -/

/-- If the state is planned, its manifest and its plan satisfy `P`. -/
def IfPlanned (P : ReqId → PrefixManifest → TransferPlan → Prop) (rid : ReqId)
    (st : RequestTransferState) : Prop :=
  st.status = .hitPlanned → ∀ m plan, st.manifest = some m → st.plan = some plan → P rid m plan

variable {P : ReqId → PrefixManifest → TransferPlan → Prop}

theorem stable_ifPlanned : Stable (IfPlanned P) :=
  ⟨fun _ _ _ h => h, fun _ _ _ hs => by cases hs⟩

theorem statesAll_ifPlanned {sm : StateManager} :
    StatesAll (IfPlanned P) sm ↔ ∀ rid st m plan, PlannedWith sm rid st m plan → P rid m plan :=
  ⟨fun h rid st m plan hp => h rid st hp.1 hp.2.1 m plan hp.2.2.1 hp.2.2.2,
    fun h rid st hst hs m plan hm hp => h rid st m plan ⟨hst, hs, hm, hp⟩⟩

/-- **What a query plans**: nothing, if it is rejected, answered from the state or without a manifest.
Otherwise the manifest under the planner's plan, if that is to load something, or under the plan that
the request's state holds from before, if the planner raises. -/
def PlansOnly (P : ReqId → PrefixManifest → TransferPlan → Prop) (side : SchedulerSide)
    (sm : StateManager) (request : Request) (env : QueryEnv) : Prop :=
  ¬ side.Rejects request → cachedState sm (extractRequestId request) = none →
    ∀ m, queryManifest env.answer = some m →
      (side.PlannerAccepts env m → ∀ plan, side.callPlanner env m = .ok plan →
        P (extractRequestId request) m plan) ∧
      (side.PlannerRaises env m → ∀ st plan, sm.get (extractRequestId request) = some st →
        st.plan = some plan → P (extractRequestId request) m plan)

/-- **A query leaves its request unplanned or planned under `P` exactly when it plans only such.** -/
theorem plannedAll_query {sm : StateManager} (h : StatesAll (IfPlanned P) sm) (side : SchedulerSide)
    (request : Request) (n : ℤ) (env : QueryEnv) :
    (∀ st, (side.prepareRequestState sha256Hex sm request n env).1.get
        (extractRequestId request) = some st → IfPlanned P (extractRequestId request) st) ↔
      PlansOnly P side sm request env := by
  have hout := side.prepared sha256Hex sm request n env
  unfold PlansOnly
  generalize side.prepareRequestState sha256Hex sm request n env = out at hout
  cases hout with
  | rejected hr => exact ⟨fun _ hnot => absurd hr hnot, fun _ st hst => h _ st hst⟩
  | cached st hr hc =>
    refine ⟨fun _ _ hnone => ?_, fun _ st hst => h _ st hst⟩
    rw [hc] at hnone
    cases hnone
  | missed hr hc hq =>
    rw [StateManager.forall_get_put]
    refine ⟨fun _ _ _ m hm => ?_, fun _ hs => (by cases hs)⟩
    rw [hq] at hm
    cases hm
  | raised m e hr hc hq hp =>
    rw [StateManager.forall_get_put]
    refine ⟨fun hown _ _ m' hm' => ?_, fun hplans hs m' plan hm' hplan => ?_⟩
    · rw [hq] at hm'
      cases hm'
      refine ⟨fun hacc => absurd hacc (not_accepts_of_raises hp), fun _ u plan hu hplan => ?_⟩
      exact hown rfl m plan rfl ((side.startState_plan sha256Hex env).mpr ⟨u, hu, hplan⟩)
    · cases hm'
      obtain ⟨u, hu, hold⟩ := (side.startState_plan sha256Hex env).mp hplan
      exact (hplans hr hc m hq).2 hp u plan hu hold
  | recomputed m plan hr hc hq hp ha =>
    rw [StateManager.forall_get_put]
    refine ⟨fun _ _ _ m' hm' => ?_, fun _ hs => (by cases hs)⟩
    rw [hq] at hm'
    cases hm'
    exact ⟨fun hacc => absurd hacc ha, fun hraise => absurd hraise hp⟩
  | accepted m plan hr hc hq hp ha hcall hmode htok hblk =>
    rw [StateManager.forall_get_put]
    refine ⟨fun hown _ _ m' hm' => ?_, fun hplans hs m' plan' hm' hplan' => ?_⟩
    · rw [hq] at hm'
      cases hm'
      refine ⟨fun _ plan' hcall' => ?_, fun hraise => absurd hraise hp⟩
      rw [hcall] at hcall'
      cases hcall'
      exact hown rfl m plan rfl rfl
    · cases hm'
      cases hplan'
      exact (hplans hr hc m hq).1 ha plan hcall

/-! ### Plans that refine -/

variable {R : ReqId → PrefixManifest → Prop → Prop}

/-- `PlansOnly` for a property that sees whether the plan refines. -/
def PlansRefining (R : ReqId → PrefixManifest → Prop → Prop) (side : SchedulerSide) (sm : StateManager)
    (request : Request) (env : QueryEnv) : Prop :=
  ¬ side.Rejects request → cachedState sm (extractRequestId request) = none →
    ∀ m, queryManifest env.answer = some m →
      (side.PlannerAccepts env m → R (extractRequestId request) m (side.PlanRefines env m)) ∧
      (side.PlannerRaises env m → ∀ st plan, sm.get (extractRequestId request) = some st →
        st.plan = some plan → R (extractRequestId request) m (plan.mode.refines = true))

/-- Whether the planner's plan refines is seen from the manifest and the network. -/
theorem plansOnly_refining {side : SchedulerSide} {sm : StateManager} {request : Request}
    {env : QueryEnv} :
    PlansOnly (fun rid m plan => R rid m (plan.mode.refines = true)) side sm request env ↔
      PlansRefining R side sm request env := by
  refine forall₄_congr fun _ _ m _ => and_congr_left' ⟨fun h ha => ?_, fun h ha plan hcall => ?_⟩
  · rcases side.callPlanner_cases env m with ⟨hp, -⟩ | ⟨-, -, plan, hcall, -⟩ | ⟨hna, -⟩
    · exact absurd ha (not_accepts_of_raises hp)
    · rw [← propext (callPlanner_refines ha hcall)]
      exact h ha plan hcall
    · exact absurd ha hna
  · show R (extractRequestId request) m (plan.mode.refines = true)
    rw [propext (callPlanner_refines ha hcall)]
    exact h ha

/-- If the call is a query, it is `PlansRefining`. -/
def QueryRefining (R : ReqId → PrefixManifest → Prop → Prop) (c : Connector α) : ConnectorOp α → Prop
  | .getNumNewMatchedTokens request _ env => ∀ side, c.schedulerSide = some side →
      PlansRefining R side c.stateManager request env
  | _ => True

variable (sha256Hex fo cfg role)

/-- **Run lemma for planned requests**: what is planned satisfies `R` throughout a run exactly when
every query of the run plans only such. -/
theorem plannedAll_iff (ops : List (ConnectorOp α)) :
    (∀ pre post, ops = pre ++ post →
        StatesAll (IfPlanned fun rid m plan => R rid m (plan.mode.refines = true))
          ((connectorMachine α sha256Hex fo cfg role).exec pre).stateManager) ↔
      EveryStep (fun pre op =>
        QueryRefining R ((connectorMachine α sha256Hex fo cfg role).exec pre) op) ops := by
  refine (connectorMachine α sha256Hex fo cfg role).throughout_iff
    (I := fun c => StatesAll (IfPlanned fun rid m plan => R rid m (plan.mode.refines = true))
      c.stateManager) statesAll_init (fun c op hc => ?_) ops
  rw [statesAll_step sha256Hex fo cfg role stable_ifPlanned hc op]
  cases op with
  | getNumNewMatchedTokens request n env =>
    exact forall₂_congr fun side _ =>
      (plannedAll_query hc side request n env).trans plansOnly_refining
  | _ => exact Iff.rfl

end AwareKV
