import AwareKV.LoadGate

/-!
# AwareKV.StalePlans — plans that are older than the manifest

`prepare_request_state` stores the manifest before it plans.  When the planner raises, a request that was
finished before keeps the plan of its earlier life, beside the new manifest and under `HIT_PLANNED`, and
metadata that is built then mixes the two.

* `stalePlan_iff`: after every run, the plan in a request's state is stale exactly if a query of the request
  was misplanned and the request was not finished since.
* `pending_planned_iff`: pending metadata agrees with plan and manifest exactly in the runs that build none for
  a misplanned request.
-/

namespace AwareKV

open SchedulerSide

variable {α : Type} {sha256Hex : String → String} {fo : FloatOps} {cfg : DeadlineKVConfig} {role : String}

/-- The plan is for the tokens and blocks of the manifest. -/
def TransferPlan.IsFor (plan : TransferPlan) (m : PrefixManifest) : Prop :=
  plan.matchedTokens = m.matchedTokens ∧ plan.matchedBlocks = m.matchedBlocks

/-- The request is planned, with a plan for other tokens or blocks than its manifest's. -/
def StalePlan (sm : StateManager) (rid : ReqId) : Prop :=
  ∃ st m plan, PlannedWith sm rid st m plan ∧ ¬ plan.IsFor m

/-- The call is a query of `rid` that asks the service and gets a manifest, and in which the planner raises,
while the request's state has a plan from before that is for other tokens or blocks. -/
def Misplans (rid : ReqId) (c : Connector α) : ConnectorOp α → Prop
  | .getNumNewMatchedTokens request _ env =>
    extractRequestId request = rid ∧ ∃ side m st plan, c.schedulerSide = some side ∧ ¬ side.Rejects request ∧
      cachedState c.stateManager rid = none ∧ queryManifest env.answer = some m ∧ side.PlannerRaises env m ∧
      c.stateManager.get rid = some st ∧ st.plan = some plan ∧ ¬ plan.IsFor m
  | _ => False

/-- In the run a query of `rid` was misplanned, and `rid` was not finished since. -/
def Misplanned (M : Machine (Connector α) (ConnectorOp α) ConnectorAnswer) (rid : ReqId)
    (ops : List (ConnectorOp α)) : Prop :=
  ∃ pre op post, ops = pre ++ op :: post ∧ Misplans rid (M.exec pre) op ∧ .requestFinished rid ∉ post

theorem misplanned_snoc {M : Machine (Connector α) (ConnectorOp α) ConnectorAnswer} {rid : ReqId}
    {ops : List (ConnectorOp α)} {op : ConnectorOp α} :
    Misplanned M rid (ops ++ [op]) ↔
      Misplans rid (M.exec ops) op ∨ (Misplanned M rid ops ∧ op ≠ .requestFinished rid) := by
  constructor
  · rintro ⟨pre, q, post, hops, hq, hpost⟩
    rcases snoc_eq_append_cons.mp hops with ⟨-, rfl, rfl⟩ | ⟨post', rfl, rfl⟩
    · exact Or.inl hq
    · rw [List.mem_append, not_or, List.mem_singleton] at hpost
      exact Or.inr ⟨⟨pre, q, post', rfl, hq, hpost.1⟩, Ne.symm hpost.2⟩
  · rintro (hq | ⟨⟨pre, q, post, rfl, hq, hpost⟩, hne⟩)
    · exact ⟨ops, op, [], rfl, hq, List.not_mem_nil⟩
    · refine ⟨pre, q, post ++ [op], by simp, hq, ?_⟩
      rw [List.mem_append, not_or, List.mem_singleton]
      exact ⟨hpost, Ne.symm hne⟩

/-! ### What makes a plan stale -/

section States

variable {sm : StateManager} {rid q : ReqId}

theorem stalePlan_congr {sm' : StateManager} (h : sm'.get rid = sm.get rid) :
    StalePlan sm' rid ↔ StalePlan sm rid := by
  unfold StalePlan PlannedWith
  rw [h]

theorem stalePlan_put {st : RequestTransferState} :
    StalePlan (sm.put rid st) rid ↔ st.status = .hitPlanned ∧
      ∃ m plan, st.manifest = some m ∧ st.plan = some plan ∧ ¬ plan.IsFor m := by
  unfold StalePlan PlannedWith
  constructor
  · rintro ⟨st', m, plan, ⟨hst, hstat, hm, hplan⟩, hfor⟩
    rw [StateManager.get_put_self, Option.some.injEq] at hst
    subst hst
    exact ⟨hstat, m, plan, hm, hplan, hfor⟩
  · rintro ⟨hstat, m, plan, hm, hplan, hfor⟩
    exact ⟨st, m, plan, ⟨StateManager.get_put_self .., hstat, hm, hplan⟩, hfor⟩

/-- A request that is asked about afresh has no stale plan. -/
theorem not_stalePlan_of_uncached (hc : cachedState sm rid = none) : ¬ StalePlan sm rid := by
  rintro ⟨st, m, plan, hplanned, -⟩
  rw [cachedState_of_planned hplanned] at hc
  cases hc

end States

theorem misplans_query {c : Connector α} {side : SchedulerSide} (hs : c.schedulerSide = some side)
    {rid : ReqId} {request : Request} {n : ℤ} {env : QueryEnv} :
    Misplans rid c (.getNumNewMatchedTokens request n env) ↔ extractRequestId request = rid ∧
      ¬ side.Rejects request ∧ cachedState c.stateManager rid = none ∧
      ∃ m st plan, queryManifest env.answer = some m ∧ side.PlannerRaises env m ∧
        c.stateManager.get rid = some st ∧ st.plan = some plan ∧ ¬ plan.IsFor m := by
  constructor
  · rintro ⟨hrid, side', m, st, plan, hs', hr, hc, hq, hraises, hst, hplan, hfor⟩
    rw [hs, Option.some.injEq] at hs'
    subst hs'
    exact ⟨hrid, hr, hc, m, st, plan, hq, hraises, hst, hplan, hfor⟩
  · rintro ⟨hrid, hr, hc, m, st, plan, hq, hraises, hst, hplan, hfor⟩
    exact ⟨hrid, side, m, st, plan, hs, hr, hc, hq, hraises, hst, hplan, hfor⟩

/-- **A query** leaves a stale plan exactly if it is misplanned or there was one. -/
theorem stalePlan_prepared {c : Connector α} {side : SchedulerSide} (hs : c.schedulerSide = some side)
    (rid : ReqId) (request : Request) (n : ℤ) (env : QueryEnv) :
    StalePlan (side.prepareRequestState sha256Hex c.stateManager request n env).1 rid ↔
      Misplans rid c (.getNumNewMatchedTokens request n env) ∨ StalePlan c.stateManager rid := by
  rw [misplans_query hs]
  have hout := side.prepared sha256Hex c.stateManager request n env
  generalize side.prepareRequestState sha256Hex c.stateManager request n env = out at hout
  by_cases hrid : extractRequestId request = rid
  · subst hrid
    cases hout with
    | rejected hr => simp [hr]
    | cached st hr hc => simp [hc]
    | missed hr hc hq =>
      -- a fresh query starts without a stale plan, and here it ends without one
      rw [or_iff_left (not_stalePlan_of_uncached hc)]
      refine iff_of_false (fun h => ?_) (by simp [hq])
      exact absurd (stalePlan_put.mp h).1 (by simp [missState])
    | raised m e hr hc hq hp =>
      rw [or_iff_left (not_stalePlan_of_uncached hc), stalePlan_put]
      constructor
      · rintro ⟨-, m', plan, hm, hplan, hfor⟩
        cases hm
        obtain ⟨st, hst, hold⟩ := (side.startState_plan sha256Hex env).mp hplan
        exact ⟨rfl, hr, hc, m, st, plan, hq, hp, hst, hold, hfor⟩
      · rintro ⟨-, -, -, m', st, plan, hq', -, hst, hold, hfor⟩
        rw [hq, Option.some.injEq] at hq'
        subst hq'
        exact ⟨rfl, m, plan, rfl, (side.startState_plan sha256Hex env).mpr ⟨st, hst, hold⟩, hfor⟩
    | recomputed m plan hr hc hq hp ha =>
      rw [or_iff_left (not_stalePlan_of_uncached hc)]
      refine iff_of_false (fun h => ?_) (by simp [hq, hp])
      exact absurd (stalePlan_put.mp h).1 (by simp [recomputeState])
    | accepted m plan hr hc hq hp ha hcall hmode htok hblk =>
      rw [or_iff_left (not_stalePlan_of_uncached hc)]
      refine iff_of_false (fun h => ?_) (by simp [hq, hp])
      obtain ⟨-, m', plan', hm', hplan', hfor⟩ := stalePlan_put.mp h
      cases hm'
      cases hplan'
      exact hfor ⟨htok, hblk⟩
  · have hother : ∀ st, StalePlan (c.stateManager.put (extractRequestId request) st) rid ↔
        StalePlan c.stateManager rid :=
      fun st => stalePlan_congr (by rw [StateManager.get_put, if_neg (Ne.symm hrid)])
    rw [or_iff_right fun h => hrid h.1]
    cases hout with
    | rejected hr => rfl
    | cached st hr hc => rfl
    | missed hr hc hq => exact hother _
    | raised m e hr hc hq hp => exact hother _
    | recomputed m plan hr hc hq hp ha => exact hother _
    | accepted m plan hr hc hq hp ha hcall hmode htok hblk => exact hother _

/-- Binding blocks leaves plans and manifests as they are. -/
theorem stalePlan_bindAllocatedBlocks {sm : StateManager} {rid q : ReqId} {blocks : List ℤ} :
    StalePlan (bindAllocatedBlocks sm q blocks) rid ↔ StalePlan sm rid := by
  unfold bindAllocatedBlocks
  cases hq : sm.get q with
  | none => rfl
  | some st =>
    by_cases hne : rid = q
    · subst hne
      simp [StalePlan, PlannedWith, StateManager.setAllocatedBlocks, hq]
    · exact stalePlan_congr (by simp [StateManager.setAllocatedBlocks, hne])

/-- A request that is finished has no stale plan. -/
theorem not_stalePlan_finished {sm : StateManager} {rid : ReqId} :
    ¬ StalePlan (sm.update rid (fun st => { st with status := .done, requestFinished := true })) rid := by
  rintro ⟨st, m, plan, ⟨hst, hstat, -⟩, -⟩
  rcases StateManager.get_update_eq_some.mp hst with ⟨-, old, -, rfl⟩ | ⟨hne, -⟩
  · cases hstat
  · exact hne rfl

/-- **Step lemma**: only a misplanned query makes a plan stale, and only the end of the request lets it go. -/
theorem stalePlan_step {c : Connector α} (hside : NoSideNoState c) (rid : ReqId) (op : ConnectorOp α) :
    StalePlan ((connectorMachine α sha256Hex fo cfg role).step c op).1.stateManager rid ↔
      Misplans rid c op ∨ (StalePlan c.stateManager rid ∧ op ≠ .requestFinished rid) := by
  have hs := schedStep sha256Hex fo cfg role c op
  generalize ((connectorMachine α sha256Hex fo cfg role).step c op).1.stateManager = sm at hs ⊢
  generalize ((connectorMachine α sha256Hex fo cfg role).step c op).1.pendingMetadata = pending at hs
  cases hs with
  | queried side request n env hs =>
    rw [stalePlan_prepared hs]
    simp
  | allocated request out blocks =>
    rw [stalePlan_bindAllocatedBlocks]
    simp [Misplans]
  | built request md hb => simp [Misplans]
  | finished q hs =>
    by_cases hq : q = rid
    · subst hq
      simp [not_stalePlan_finished, Misplans]
    · have hsame : StalePlan (c.stateManager.update q
          (fun st => { st with status := .done, requestFinished := true })) rid ↔ StalePlan c.stateManager rid :=
        stalePlan_congr (by rw [StateManager.get_update, if_neg (Ne.symm hq)])
      simp [hsame, Misplans, hq]
  | finishedAlone q hs =>
    have hnone : ¬ StalePlan c.stateManager rid := by
      rintro ⟨st, m, plan, ⟨hst, -⟩, -⟩
      rw [hside hs rid] at hst
      cases hst
    simp [hnone, Misplans]
  | kept op hq hf =>
    have hnot : ¬ Misplans rid c op := by
      intro h
      cases op with
      | getNumNewMatchedTokens request n env =>
        obtain ⟨-, side, m, st, plan, hside, -⟩ := h
        rw [hq request n env rfl] at hside
        cases hside
      | _ => exact h
    simp [hnot, hf]

variable (sha256Hex fo cfg role)

/-- **A plan is stale** exactly if a query of the request was misplanned and the request was not finished
since. -/
theorem stalePlan_iff (ops : List (ConnectorOp α)) (rid : ReqId) :
    StalePlan ((connectorMachine α sha256Hex fo cfg role).exec ops).stateManager rid ↔
      Misplanned (connectorMachine α sha256Hex fo cfg role) rid ops := by
  induction ops using List.reverseRecOn with
  | nil =>
    refine iff_of_false ?_ ?_
    · rintro ⟨st, m, plan, ⟨hst, -⟩, -⟩
      rw [Machine.exec_nil, connectorMachine_init, Connector.start_stateManager, StateManager.get_new] at hst
      cases hst
    · rintro ⟨pre, op, post, hops, -⟩
      simp at hops
  | append_singleton ops op ih =>
    rw [Machine.exec_snoc, stalePlan_step (noSideNoState_exec sha256Hex fo cfg role ops), ih, misplanned_snoc]

variable {sha256Hex fo cfg role}

/-! ### What pending metadata describes -/

/-- A request with pending metadata is `HIT_PLANNED`, with a manifest and a plan that is not a recompute plan,
and the metadata's fields are those of the two; its tokens and blocks, which both have, are those of both. -/
def PendingPlanned (c : Connector α) : Prop :=
  ∀ rid md, c.pendingMetadata.get? rid = some md →
    ∃ st m plan, PlannedWith c.stateManager rid st m plan ∧ plan.mode ≠ .recompute ∧
      Describes md rid m plan ∧ md.matchedTokens = plan.matchedTokens ∧ md.matchedBlocks = plan.matchedBlocks

/-- No request with pending metadata has a stale plan. -/
def PendingFresh (c : Connector α) : Prop :=
  ∀ rid md, c.pendingMetadata.get? rid = some md → ¬ StalePlan c.stateManager rid

theorem pendingPlanned_iff_fresh {c : Connector α} (h : SchedInv c.stateManager c.pendingMetadata) :
    PendingPlanned c ↔ PendingFresh c := by
  constructor
  · rintro hp rid md hmd ⟨st', m', plan', ⟨hst', -, hm', hplan'⟩, hfor⟩
    obtain ⟨st, m, plan, ⟨hst, -, hm, hplan⟩, -, hd, htok, hblk⟩ := hp rid md hmd
    rw [hst, Option.some.injEq] at hst'
    subst hst'
    rw [hm, Option.some.injEq] at hm'
    rw [hplan, Option.some.injEq] at hplan'
    subst hm' hplan'
    exact hfor ⟨htok.symm.trans hd.matchedTokens, hblk.symm.trans hd.matchedBlocks⟩
  · intro hfresh rid md hmd
    obtain ⟨st, m, plan, hplanned, hd⟩ := h.pending rid md hmd
    have hfor : plan.IsFor m := by
      by_contra hfor
      exact hfresh rid md hmd ⟨st, m, plan, hplanned, hfor⟩
    exact ⟨st, m, plan, hplanned, h.plans rid st plan hplanned.1 hplanned.2.2.2, hd,
      hd.matchedTokens.trans hfor.1.symm, hd.matchedBlocks.trans hfor.2.symm⟩

/-- The stores that every run keeps: what belongs together, and no state without a scheduler side. -/
structure StoresInv (c : Connector α) : Prop where
  sched : SchedInv c.stateManager c.pendingMetadata
  noState : NoSideNoState c

theorem StoresInv.step {c : Connector α} (h : StoresInv c) (op : ConnectorOp α) :
    StoresInv ((connectorMachine α sha256Hex fo cfg role).step c op).1 :=
  ⟨h.sched.step (schedStep sha256Hex fo cfg role c op), noSideNoState_step h.noState op⟩

/-- Pending metadata is not made stale by another call than the one that builds it. -/
theorem pendingFresh_other {c : Connector α} (h : StoresInv c) (hfresh : PendingFresh c) {op : ConnectorOp α}
    (hop : ∀ request, op ≠ .buildConnectorMeta request) :
    PendingFresh ((connectorMachine α sha256Hex fo cfg role).step c op).1 := by
  intro rid md hmd hstale
  have hpending : c.pendingMetadata.get? rid = some md := by
    rcases pending_step (schedStep sha256Hex fo cfg role c op) hmd with hold | ⟨request, hbuild, -⟩
    · exact hold
    · exact absurd hbuild (hop request)
  obtain ⟨st, m, plan, hplanned, -⟩ := h.sched.pending rid md hpending
  rcases (stalePlan_step h.noState rid op).mp hstale with hmis | ⟨hold, -⟩
  · cases op with
    | getNumNewMatchedTokens request n env =>
      obtain ⟨-, side, m', st', plan', -, -, hnone, -⟩ := hmis
      rw [cachedState_of_planned hplanned] at hnone
      cases hnone
    | _ => exact hmis
  · exact hfresh rid md hpending hold

/-- **Step lemma**: pending metadata stays fresh exactly if none is built for a request with a stale plan. -/
theorem pendingFresh_step {c : Connector α} (h : StoresInv c) (hfresh : PendingFresh c) (op : ConnectorOp α) :
    PendingFresh ((connectorMachine α sha256Hex fo cfg role).step c op).1 ↔
      ∀ request, op = .buildConnectorMeta request → ¬ StalePlan c.stateManager (extractRequestId request) := by
  by_cases hop : ∀ request, op ≠ .buildConnectorMeta request
  · exact iff_of_true (pendingFresh_other h hfresh hop) fun request hr => absurd hr (hop request)
  push Not at hop
  obtain ⟨request, rfl⟩ := hop
  have hone : (∀ q, ConnectorOp.buildConnectorMeta (α := α) request = .buildConnectorMeta q →
      ¬ StalePlan c.stateManager (extractRequestId q)) ↔
        ¬ StalePlan c.stateManager (extractRequestId request) := by
    simp
  rw [hone]
  cases hside : c.schedulerSide with
  | none =>
    have hkept : ((connectorMachine α sha256Hex fo cfg role).step c (.buildConnectorMeta request)).1 = c := by
      simp only [connectorMachine, Connector.buildConnectorMeta, hside]
    rw [hkept]
    refine iff_of_true hfresh ?_
    rintro ⟨st, m, plan, ⟨hst, -⟩, -⟩
    rw [h.noState hside] at hst
    cases hst
  | some side =>
    have hbuilt : ((connectorMachine α sha256Hex fo cfg role).step c (.buildConnectorMeta request)).1 =
        (c.buildConnectorMeta request).1 := rfl
    rw [hbuilt, Connector.buildConnectorMeta_spec hside]
    cases hb : buildRequestMetadata c.stateManager (extractRequestId request) with
    | none =>
      refine iff_of_true hfresh ?_
      rintro ⟨st, m, plan, hplanned, -⟩
      exact buildRequestMetadata_eq_none.mp hb ⟨st, m, plan, hplanned⟩
    | some md =>
      constructor
      · exact fun hnew => hnew (extractRequestId request) md (by simp)
      · intro hnot rid md' hmd
        rw [Dict.get?_insert] at hmd
        split_ifs at hmd with hq
        · subst hq
          exact hnot
        · exact hfresh rid md' hmd

/-- **Pending metadata agrees with manifest and plan** at all times exactly in the runs that build none for a
request one of whose queries was misplanned since it was last finished.  The fetches are as they should be
in every run. -/
theorem pending_planned_iff (ops : List (ConnectorOp α)) :
    ((∀ pre post, ops = pre ++ post →
        PendingPlanned ((connectorMachine α sha256Hex fo cfg role).exec pre)) ∧
      EveryStep (FetchesPlanned (connectorMachine α sha256Hex fo cfg role)) ops) ↔
      EveryStep (fun pre op => ∀ request, op = .buildConnectorMeta request →
        ¬ Misplanned (connectorMachine α sha256Hex fo cfg role) (extractRequestId request) pre) ops := by
  let M := connectorMachine α sha256Hex fo cfg role
  have hstores : ∀ pre, StoresInv (M.exec pre) := fun pre =>
    ⟨sched_inv sha256Hex fo cfg role pre, noSideNoState_exec sha256Hex fo cfg role pre⟩
  have hplanned : (∀ pre post, ops = pre ++ post → PendingPlanned (M.exec pre)) ↔
      ∀ pre post, ops = pre ++ post → StoresInv (M.exec pre) ∧ PendingFresh (M.exec pre) :=
    forall_congr' fun pre => forall_congr' fun post => imp_congr_right fun _ => by
      rw [pendingPlanned_iff_fresh (hstores pre).sched, and_iff_right (hstores pre)]
  have hinit : StoresInv M.init ∧ PendingFresh M.init := by
    refine ⟨hstores [], fun rid md hmd => ?_⟩
    rw [connectorMachine_init, Connector.start_pendingMetadata, Dict.get?_empty] at hmd
    cases hmd
  have hfresh := M.throughout_iff (I := fun c => StoresInv c ∧ PendingFresh c)
    (C := fun c op => ∀ request, op = .buildConnectorMeta request →
      ¬ StalePlan c.stateManager (extractRequestId request)) hinit
    (fun c op hI => by rw [and_iff_right (hI.1.step op), pendingFresh_step hI.1 hI.2]) ops
  rw [and_iff_left (fetches_planned ops), hplanned, hfresh]
  exact everyStep_congr fun pre op => forall_congr' fun request => imp_congr_right fun _ =>
    not_congr (stalePlan_iff sha256Hex fo cfg role pre (extractRequestId request))

/-- A manifest of twice the tokens, with critical bytes whose number is no float. -/
def longerManifest : PrefixManifest :=
  { shortManifest with matchedTokens := 256, criticalNbytes := 10 ^ 400 }

/-- The service knows `longerManifest`. -/
def longerEnv : QueryEnv :=
  { shortEnv with answer := .response { hit := true, manifest := some longerManifest } }

/-- A request is planned and finished; its id is asked about again, and the planner raises. -/
def staleRun : List (ConnectorOp Half) :=
  [.getNumNewMatchedTokens shortPrompt 0 shortEnv, .requestFinished "r",
    .getNumNewMatchedTokens shortPrompt 0 longerEnv, .buildConnectorMeta shortPrompt]

/-- The metadata that is built then is for 256 tokens, and the plan for 128. -/
theorem pending_planned_stale :
    ¬ ((∀ pre post, staleRun = pre ++ post →
        PendingPlanned ((connectorMachine Half (fun _ => "digest") default {} "kv_both").exec pre)) ∧
      EveryStep (FetchesPlanned (connectorMachine Half (fun _ => "digest") default {} "kv_both")) staleRun) := by
  rintro ⟨h, -⟩
  have hall := h staleRun [] (List.append_nil _).symm
  generalize hc : (connectorMachine Half (fun _ => "digest") default {} "kv_both").exec staleRun = c at hall
  have hmd : (c.pendingMetadata.get? "r").map (fun md => md.matchedTokens) = some 256 := by
    rw [← hc]
    decide +kernel
  have hplan : ((c.stateManager.get "r").bind (fun st => st.plan)).map (fun plan => plan.matchedTokens) =
      some 128 := by
    rw [← hc]
    decide +kernel
  obtain ⟨md, hget, h256⟩ := Option.map_eq_some_iff.mp hmd
  obtain ⟨st, m, plan, ⟨hst, -, -, hpl⟩, -, -, htok, -⟩ := hall "r" md hget
  rw [hst, Option.bind_some, hpl, Option.map_some, Option.some.injEq, ← htok, h256] at hplan
  norm_num at hplan

end AwareKV
