import AwareKV.LoadGate

/-!
# AwareKV.Requery — asking again

A query is answered by a fresh computation or from the state that an earlier one left.

* `requery_iff`: asking again with the same count, while manifest and network do not change, gives the
  first answer every time exactly under `StableQuery`.
* `failed_planning_iff`: a query whose planner raises leaves no planned state without a plan for the
  stored manifest exactly when the state held such a plan before.
-/

namespace AwareKV

open SchedulerSide

variable {α : Type} {sha256Hex : String → String}

/-! ### Asking again -/

section Requery

/-- Manifest service and network estimate are the same for two queries. -/
def SameService (env env' : QueryEnv) : Prop :=
  (queryManifest env.answer).map PrefixManifest.untouched =
      (queryManifest env'.answer).map PrefixManifest.untouched ∧
    env.net = env'.net

/-- The answers to queries in a row. -/
def requeries (sha256Hex : String → String) (request : Request) (n : ℤ) :
    Connector α → List QueryEnv → List (ℤ × Bool)
  | _, [] => []
  | c, env :: envs =>
    (c.getNumNewMatchedTokens sha256Hex request n env).2 ::
      requeries sha256Hex request n (c.getNumNewMatchedTokens sha256Hex request n env).1 envs

/-- Asking again with the same count, while the service stays the same, gives the first answer every
time. -/
def AnswersStay (sha256Hex : String → String) (c : Connector α) (request : Request) (n : ℤ)
    (env : QueryEnv) : Prop :=
  ∀ envs, (∀ e ∈ envs, SameService env e) → ∀ a ∈ requeries sha256Hex request n c (env :: envs),
    a = (c.getNumNewMatchedTokens sha256Hex request n env).2

namespace SchedulerSide

/-- **When asking again gives the same answer**: the prompt is rejected, or the answer comes from the
state, or there is no manifest; or the planner raises over a manifest without tokens, or accepts one
that has no tokens or has some of which none are computed, or returns a recompute plan. -/
def StableQuery (side : SchedulerSide) (sm : StateManager) (request : Request) (n : ℤ)
    (env : QueryEnv) : Prop :=
  side.Rejects request ∨ (cachedState sm (extractRequestId request)).isSome ∨
    ∀ m, queryManifest env.answer = some m →
      (side.PlannerRaises env m → m.matchedTokens = 0) ∧
      (side.PlannerAccepts env m → m.matchedTokens = 0 ∨ (0 < m.matchedTokens ∧ n = 0))

end SchedulerSide

/-- The same service answers with the same manifest, up to its last access. -/
theorem SameService.manifest {env env' : QueryEnv} (h : SameService env env') {m' : PrefixManifest}
    (hm' : queryManifest env'.answer = some m') :
    ∃ m, queryManifest env.answer = some m ∧ m.untouched = m'.untouched := by
  have hmap := h.1
  rw [hm', Option.map_some, Option.map_eq_some_iff] at hmap
  exact hmap

/-- The planner does not look at the last access. -/
theorem SameService.planner {env env' : QueryEnv} (h : SameService env env') {m m' : PrefixManifest}
    (hm : m.untouched = m'.untouched) (side : SchedulerSide) :
    (side.PlannerRaises env m ↔ side.PlannerRaises env' m') ∧
      (side.PlannerAccepts env m ↔ side.PlannerAccepts env' m') := by
  have hraises : side.planner.Raises side.doubles env.net m side.config.enableRefinement ↔
      side.planner.Raises side.doubles env'.net m' side.config.enableRefinement := by
    show side.planner.Raises side.doubles env.net m.untouched _ ↔
      side.planner.Raises side.doubles env'.net m'.untouched _
    rw [hm, h.2]
  have haccepts : side.planner.Accepts side.doubles env.net m ↔
      side.planner.Accepts side.doubles env'.net m' := by
    show side.planner.Accepts side.doubles env.net m.untouched ↔
      side.planner.Accepts side.doubles env'.net m'.untouched
    rw [hm, h.2]
  unfold PlannerAccepts PlannerRaises
  rw [hraises, haccepts]
  exact ⟨Iff.rfl, Iff.rfl⟩

/-- **Rule for repeated queries**: a property of connectors that fixes the answer and is kept by the
query fixes all answers. -/
theorem requeries_const {request : Request} {n : ℤ} {answer : ℤ × Bool} {E : QueryEnv → Prop}
    {J : Connector α → Prop} (hJ : ∀ c env, J c → E env →
      (c.getNumNewMatchedTokens sha256Hex request n env).2 = answer ∧
        J (c.getNumNewMatchedTokens sha256Hex request n env).1) {c : Connector α} (hc : J c)
    {envs : List QueryEnv} (henvs : ∀ env ∈ envs, E env) :
    ∀ a ∈ requeries sha256Hex request n c envs, a = answer := by
  induction envs generalizing c with
  | nil => intro a ha; cases ha
  | cons env envs ih =>
    obtain ⟨hans, hnext⟩ := hJ c env hc (henvs env List.mem_cons_self)
    intro a ha
    rcases List.mem_cons.mp ha with rfl | ha
    · exact hans
    · exact ih hnext (fun e he => henvs e (List.mem_cons_of_mem _ he)) a ha

variable {side : SchedulerSide} {request : Request} {n : ℤ}

/-- Rejected prompts get the same answer every time. -/
theorem requeries_rejected {c : Connector α} (hs : c.schedulerSide = some side)
    (hr : side.Rejects request) (envs : List QueryEnv) :
    ∀ a ∈ requeries sha256Hex request n c envs, a = (0, false) := by
  refine requeries_const (E := fun _ => True) (J := fun c => c.schedulerSide = some side) ?_ hs
    fun _ _ => trivial
  intro c env hs _
  simp [Connector.getNum_spec hs, prepareRequestState, hr, hs]

/-- A cached state gives the same answer every time. -/
theorem requeries_cached {c : Connector α} (hs : c.schedulerSide = some side)
    (hr : ¬ side.Rejects request) {st : RequestTransferState}
    (hc : cachedState c.stateManager (extractRequestId request) = some st) (envs : List QueryEnv) :
    ∀ a ∈ requeries sha256Hex request n c envs, a = (st.matchedTokens, false) := by
  refine requeries_const (E := fun _ => True)
    (J := fun c => c.schedulerSide = some side ∧
      cachedState c.stateManager (extractRequestId request) = some st) ?_ ⟨hs, hc⟩ fun _ _ => trivial
  rintro c env ⟨hs, hc⟩ _
  simp [Connector.getNum_spec hs, prepareRequestState, hr, hc, hs]

/-- A state that was just stored is cached if its status says so. -/
theorem cachedState_put {sm : StateManager} {rid : ReqId} {st : RequestTransferState} :
    cachedState (sm.put rid st) rid =
      if st.status = .hitPlanned ∨ st.status = .recompute then some st else none := by
  by_cases h : st.status = .hitPlanned ∨ st.status = .recompute
  · simp [cachedState, h]
  · simp [cachedState, not_or.mp h]

/-- Misses and recompute plans give `(0, False)` every time. -/
theorem requeries_unplanned {c : Connector α} (hs : c.schedulerSide = some side)
    (hr : ¬ side.Rejects request)
    (hc : cachedState c.stateManager (extractRequestId request) = none) {envs : List QueryEnv}
    (henvs : ∀ env ∈ envs, ∀ m, queryManifest env.answer = some m →
      ¬ side.PlannerRaises env m ∧ ¬ side.PlannerAccepts env m) :
    ∀ a ∈ requeries sha256Hex request n c envs, a = (0, false) := by
  refine requeries_const
    (J := fun c => c.schedulerSide = some side ∧
      cachedState c.stateManager (extractRequestId request) = none) ?_ ⟨hs, hc⟩ henvs
  rintro c env ⟨hs, hc⟩ henv
  rw [Connector.getNum_spec hs]
  have hout := side.prepared sha256Hex c.stateManager request n env
  generalize side.prepareRequestState sha256Hex c.stateManager request n env = out at hout
  cases hout with
  | rejected hr' => exact absurd hr' hr
  | cached st _ hc' => rw [hc] at hc'; cases hc'
  | missed _ _ hq => exact ⟨rfl, hs, by rw [cachedState_put]; simp [missState]⟩
  | recomputed m plan _ _ hq hp ha => exact ⟨rfl, hs, by rw [cachedState_put]; simp [recomputeState]⟩
  | raised m e _ _ hq hp => exact absurd hp (henv m hq).1
  | accepted m plan _ _ hq hp ha => exact absurd ha (henv m hq).2

/-- The answers stay if they are all one value. -/
theorem answersStay_of_const {c : Connector α} {env : QueryEnv} {v : ℤ × Bool}
    (h : ∀ envs, (∀ e ∈ envs, SameService env e) →
      ∀ a ∈ requeries sha256Hex request n c (env :: envs), a = v) :
    AnswersStay sha256Hex c request n env := by
  intro envs henvs a ha
  rw [h envs henvs a ha]
  exact (h envs henvs _ List.mem_cons_self).symm

/-- After a fresh query that leaves the request planned, the later answers are the state's tokens. -/
theorem answersStay_planned_iff {c : Connector α} (hs : c.schedulerSide = some side)
    (hr : ¬ side.Rejects request) {env : QueryEnv} {st : RequestTransferState} {res : Py (ℤ × Bool)}
    {first : ℤ} (hprep : side.prepareRequestState sha256Hex c.stateManager request n env =
      (c.stateManager.put (extractRequestId request) st, res)) (hstatus : st.status = .hitPlanned)
    (hfirst : plainAnswer res = (first, false)) :
    AnswersStay sha256Hex c request n env ↔ st.matchedTokens = first := by
  have hquery : c.getNumNewMatchedTokens sha256Hex request n env =
      ({ c with stateManager := c.stateManager.put (extractRequestId request) st }, (first, false)) := by
    rw [Connector.getNum_spec hs, hprep, ← hfirst]
    cases res <;> rfl
  have hrest : ∀ envs, ∀ a ∈ requeries sha256Hex request n
      { c with stateManager := c.stateManager.put (extractRequestId request) st } envs,
        a = (st.matchedTokens, false) := by
    intro envs
    have hc : cachedState (c.stateManager.put (extractRequestId request) st)
        (extractRequestId request) = some st := by rw [cachedState_put, if_pos (Or.inl hstatus)]
    exact requeries_cached (c := { c with stateManager := c.stateManager.put _ st }) hs hr hc envs
  simp only [AnswersStay, requeries, hquery]
  constructor
  · intro h
    have hsecond := h [env] (by simp [SameService])
    simp only [requeries, List.mem_cons, forall_eq_or_imp] at hsecond
    have heq := hrest [env] _ List.mem_cons_self
    rw [hsecond.2.1, Prod.mk.injEq] at heq
    exact heq.1.symm
  · rintro heq envs - a ha
    rcases List.mem_cons.mp ha with rfl | ha
    · rfl
    · rw [hrest envs a ha, heq]

/-- Misses and recompute plans are computed afresh every time, with the same outcome. -/
theorem answersStay_unplanned {c : Connector α} {side : SchedulerSide} (hs : c.schedulerSide = some side)
    {request : Request} (hr : ¬ side.Rejects request)
    (hc : cachedState c.stateManager (extractRequestId request) = none) (n : ℕ) {env : QueryEnv}
    (h : ∀ m, queryManifest env.answer = some m → ¬ side.PlannerRaises env m ∧ ¬ side.PlannerAccepts env m) :
    AnswersStay sha256Hex c request n env := by
  refine answersStay_of_const fun envs henvs => requeries_unplanned hs hr hc fun e he m hm => ?_
  rcases List.mem_cons.mp he with rfl | he
  · exact h m hm
  · obtain ⟨m', hm', heq⟩ := (henvs e he).manifest hm
    obtain ⟨hraise, hacc⟩ := (henvs e he).planner heq side
    rw [← hraise, ← hacc]
    exact h m' hm'

/-- **Asking again gives the first answer every time exactly for stable queries.** -/
theorem requery_iff (c : Connector α) (request : Request) (n : ℕ) (env : QueryEnv) :
    AnswersStay sha256Hex c request n env ↔
      ∀ side, c.schedulerSide = some side → side.StableQuery c.stateManager request n env := by
  cases hs : c.schedulerSide with
  | none =>
    refine iff_of_true (answersStay_of_const (v := (0, false)) fun envs _ => ?_) (by simp)
    refine requeries_const (E := fun _ => True) (J := fun c => c.schedulerSide = none) ?_ hs
      fun _ _ => trivial
    intro c' e hs' _
    simp [Connector.getNumNewMatchedTokens, hs']
  | some side =>
    simp only [Option.some.injEq, forall_eq', StableQuery]
    have hout := side.prepared sha256Hex c.stateManager request n env
    generalize hprep : side.prepareRequestState sha256Hex c.stateManager request n env = out at hout
    cases hout with
    | rejected hr =>
      exact iff_of_true (answersStay_of_const fun envs _ => requeries_rejected hs hr _) (Or.inl hr)
    | cached st hr hc =>
      exact iff_of_true (answersStay_of_const fun envs _ => requeries_cached hs hr hc _)
        (Or.inr (Or.inl (by simp [hc])))
    | missed hr hc hq =>
      exact iff_of_true (answersStay_unplanned hs hr hc n (by simp [hq])) (Or.inr (Or.inr (by simp [hq])))
    | recomputed m plan hr hc hq hp ha =>
      exact iff_of_true (answersStay_unplanned hs hr hc n (by simp [hq, hp, ha]))
        (Or.inr (Or.inr (by simp [hq, hp, ha])))
    | raised m e hr hc hq hp =>
      rw [answersStay_planned_iff hs hr hprep (by simp [hitState]) rfl]
      have ha := not_accepts_of_raises hp
      simp [hr, hc, hq, hp, ha, hitState]
    | accepted m plan hr hc hq hp ha hcall hmode htok hblk =>
      rw [answersStay_planned_iff hs hr hprep (by simp [plannedState, hitState]) rfl]
      simp only [hr, hc, hq, hp, ha, plannedState, hitState, Option.isSome_none, Bool.false_eq_true,
        Option.some.injEq, forall_eq', false_or, false_imp_iff, true_imp_iff, true_and]
      omega

/-- With 64 of 128 tokens computed, the first answer is 64, and the second one is 128. -/
theorem requery_drops_computed :
    ¬ AnswersStay (fun _ => "digest") (Connector.start Half default {} "kv_both") shortPrompt 64 shortEnv := by
  intro h
  have hsecond := h [shortEnv] (by simp [SameService]) (128, false) (by decide +kernel)
  revert hsecond
  decide +kernel

end Requery

/-! ### After an exception of the planner -/

section FailedPlanning

variable (sha256Hex) (side : SchedulerSide)

/-- The planner makes this plan for the manifest, over some network, to load its prefix. -/
def PlanFor (plan : TransferPlan) (m : PrefixManifest) : Prop :=
  plan.mode ≠ .recompute ∧
    ∃ est planId enableRefinement, side.planner.plan side.doubles est planId m enableRefinement = .ok plan

/-- The status of `rid` is not `HIT_PLANNED` unless there is a plan for the manifest in the state, and
no query of `rid` reports a positive count from a state without a plan. -/
def NoHalfPlan (c : Connector α) (rid : ReqId) : Prop :=
  (∀ st, c.stateManager.get rid = some st → st.status = .hitPlanned →
    ∃ m plan, st.manifest = some m ∧ st.plan = some plan ∧ PlanFor side plan m) ∧
  ∀ request n env st, extractRequestId request = rid → ¬ side.Rejects request →
    cachedState c.stateManager rid = some st →
      0 < (c.getNumNewMatchedTokens sha256Hex request n env).2.1 → st.plan ≠ none

variable {sha256Hex side}

/-- The planner raises only on the way of a fresh query over a manifest. -/
theorem prepare_raises {sm : StateManager} {request : Request} {n : ℤ} {env : QueryEnv} {e : Exc}
    (h : (side.prepareRequestState sha256Hex sm request n env).2 = .error e) :
    ∃ m, queryManifest env.answer = some m ∧
      (side.prepareRequestState sha256Hex sm request n env).1 =
        sm.put (extractRequestId request) (side.hitState sha256Hex sm request env m) := by
  have hout := side.prepared sha256Hex sm request n env
  generalize side.prepareRequestState sha256Hex sm request n env = out at hout h
  cases hout with
  | raised m e' hr hc hq hp => exact ⟨m, hq, rfl⟩
  | rejected hr => cases h
  | cached st hr hc => cases h
  | missed hr hc hq => cases h
  | recomputed m plan hr hc hq hp ha => cases h
  | accepted m plan hr hc hq hp ha hcall hmode htok hblk => cases h

/-- **A planner exception leaves no half-made plan exactly when the request's state held a plan
before, and the planner makes that plan for the manifest that was answered.** -/
theorem failed_planning_iff {c : Connector α} (hs : c.schedulerSide = some side) {request : Request}
    {n : ℤ} {env : QueryEnv} {e : Exc}
    (hraise : (side.prepareRequestState sha256Hex c.stateManager request n env).2 = .error e) :
    NoHalfPlan sha256Hex side (c.getNumNewMatchedTokens sha256Hex request n env).1
        (extractRequestId request) ↔
      ∃ m st plan, queryManifest env.answer = some m ∧
        c.stateManager.get (extractRequestId request) = some st ∧ st.plan = some plan ∧
        PlanFor side plan m := by
  obtain ⟨m, hq, hput⟩ := prepare_raises hraise
  rw [Connector.getNum_spec hs, hput]
  constructor
  · rintro ⟨hstate, -⟩
    obtain ⟨m', plan, hm, hplan, hfor⟩ := hstate
      (side.hitState sha256Hex c.stateManager request env m) (by simp) rfl
    cases hm
    obtain ⟨st, hst, hp⟩ := (side.startState_plan sha256Hex env).mp hplan
    exact ⟨m, st, plan, hq, hst, hp, hfor⟩
  · rintro ⟨m', st, plan, hm, hst, hp, hfor⟩
    rw [hq, Option.some.injEq] at hm
    subst hm
    have hplan : (side.hitState sha256Hex c.stateManager request env m).plan = some plan :=
      (side.startState_plan sha256Hex env).mpr ⟨st, hst, hp⟩
    have hstatus : (side.hitState sha256Hex c.stateManager request env m).status = .hitPlanned := rfl
    constructor
    · intro u hu _
      rw [StateManager.get_put_self, Option.some.injEq] at hu
      subst hu
      exact ⟨m, plan, rfl, hplan, hfor⟩
    · intro request' n' env' u hrid hr hc _
      rw [cachedState_put, if_pos (Or.inl hstatus), Option.some.injEq] at hc
      subst hc
      rw [hplan]
      simp

/-- The service knows a manifest with so many critical bytes that their number is no float. -/
def hugeEnv : QueryEnv :=
  { answer := .response { hit := true, manifest := some { shortManifest with criticalNbytes := 10 ^ 400 } },
    net := { bandwidthBps := 1000000000, rttMs := 10 } }

/-- The scheduler side of a connector with the default configuration. -/
def defaultSide : SchedulerSide := sideOf default {}

/-- Asked about a new request, the planner raises: no plan, so nothing else may be left planned. -/
theorem failed_planning_new_request :
    NoHalfPlan (fun _ => "digest") defaultSide ((Connector.start Half default {} "kv_both").getNumNewMatchedTokens
        (fun _ => "digest") shortPrompt 0 hugeEnv).1 (extractRequestId shortPrompt) ↔
      ∃ m st plan, queryManifest hugeEnv.answer = some m ∧
        (Connector.start Half default {} "kv_both").stateManager.get (extractRequestId shortPrompt) = some st ∧
        st.plan = some plan ∧ PlanFor defaultSide plan m :=
  failed_planning_iff (e := ⟨.overflowError, "int too large to convert to float"⟩) rfl
    (by decide +kernel)

/-- After the exception the request is `HIT_PLANNED`, without a plan. -/
theorem failed_planning_leaves_hit :
    ¬ NoHalfPlan (fun _ => "digest") defaultSide ((Connector.start Half default {} "kv_both").getNumNewMatchedTokens
        (fun _ => "digest") shortPrompt 0 hugeEnv).1 (extractRequestId shortPrompt) := by
  rintro ⟨hstate, -⟩
  obtain ⟨m, plan, -, hplan, -⟩ := hstate
    (defaultSide.hitState (fun _ => "digest") .new shortPrompt hugeEnv
      { shortManifest with criticalNbytes := 10 ^ 400 }) (by decide +kernel) rfl
  cases hplan

end FailedPlanning

end AwareKV
