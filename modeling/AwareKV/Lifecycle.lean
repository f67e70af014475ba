import AwareKV.StateRuns

/-!
# AwareKV.Lifecycle — a request that is marked finished is done

`request_finished` sets the flag and the status together, and nothing takes the flag back: the state
stays, and a query that reuses the id goes on from it (`create_or_get`) and sets the status only.

* `flags_agree_iff`: every finished state of a run is `DONE`, and `gc_finished` removes no other,
  exactly when no query of the run goes on from a finished state.
-/

namespace AwareKV

open SchedulerSide

variable {α : Type} {sha256Hex : String → String} {fo : FloatOps} {cfg : DeadlineKVConfig}
  {role : String}

/-! ### Runs with garbage collection -/

/-- The connector's calls, with garbage collection of the states between them. -/
inductive LifecycleOp (α : Type)
  | call (op : ConnectorOp α)
  | gcFinished (maxAgeSeconds : ℚ)

/-- The connector as a machine, with garbage collection. -/
def lifecycleMachine (α : Type) (sha256Hex : String → String) (fo : FloatOps) (cfg : DeadlineKVConfig)
    (role : String) : Machine (Connector α) (LifecycleOp α) ConnectorAnswer where
  init := .start α fo cfg role
  step c
    | .call op => (connectorMachine α sha256Hex fo cfg role).step c op
    | .gcFinished age => ({ c with stateManager := c.stateManager.gcFinished age }, .done)

/-! ### Flags and statuses -/

/-- A state that is marked finished is `DONE`. -/
def FlagAgrees (_ : ReqId) (st : RequestTransferState) : Prop :=
  st.requestFinished = true → st.status = .done

/-- `gc_finished` would remove only `DONE` states. -/
def GcSafe (sm : StateManager) : Prop :=
  ∀ age rid st, sm.get rid = some st → (sm.gcFinished age).get rid = none → st.status = .done

theorem stable_flagAgrees : Stable FlagAgrees :=
  ⟨fun _ _ _ h => h, fun _ _ _ _ => rfl⟩

theorem gcSafe_iff {sm : StateManager} : GcSafe sm ↔ StatesAll FlagAgrees sm := by
  refine ⟨fun h rid st hst hfin => h 300 rid st hst ?_, fun h age rid st hst hgone => h rid st hst ?_⟩
  · simp [hst, hfin]
  · rw [StateManager.get_gcFinished, hst] at hgone
    simpa using hgone

/-- The call is no query that goes on from a finished state. -/
def NotRevived (c : Connector α) : LifecycleOp α → Prop
  | .call (.getNumNewMatchedTokens request _ _) => ∀ side, c.schedulerSide = some side →
      ¬ side.Rejects request → ∀ st, c.stateManager.get (extractRequestId request) = some st →
        st.requestFinished = false
  | _ => True

/-- A start state has the flag of the old state. -/
theorem startState_finished (sha256Hex : String → String) (side : SchedulerSide) (env : QueryEnv)
    {sm : StateManager} {request : Request} :
    (side.startState sha256Hex sm request env).requestFinished = false ↔
      ∀ st, sm.get (extractRequestId request) = some st → st.requestFinished = false := by
  simp only [startState]
  cases sm.get (extractRequestId request) with
  | none => simp [StateManager.fresh]
  | some st => simp

/-- **A query leaves the flag of its request right exactly when it is rejected or does not go on from a
finished state.** -/
theorem flagAgrees_query {sm : StateManager} (h : StatesAll FlagAgrees sm) (side : SchedulerSide)
    (request : Request) (n : ℤ) (env : QueryEnv) :
    (∀ st, (side.prepareRequestState sha256Hex sm request n env).1.get
        (extractRequestId request) = some st → FlagAgrees (extractRequestId request) st) ↔
      (¬ side.Rejects request → ∀ st, sm.get (extractRequestId request) = some st →
        st.requestFinished = false) := by
  -- a new state takes over the flag, under a status that is not `DONE`
  have hfresh : ∀ st : RequestTransferState, st.status ≠ .done →
      st.requestFinished = (side.startState sha256Hex sm request env).requestFinished →
      ((∀ u, (sm.put (extractRequestId request) st).get (extractRequestId request) = some u →
          FlagAgrees (extractRequestId request) u) ↔
        ∀ u, sm.get (extractRequestId request) = some u → u.requestFinished = false) := by
    intro st hstat hflag
    rw [StateManager.forall_get_put, ← startState_finished sha256Hex side env, ← hflag]
    simp [FlagAgrees, hstat]
  have hout := side.prepared sha256Hex sm request n env
  generalize side.prepareRequestState sha256Hex sm request n env = out at hout
  cases hout with
  | rejected hr => exact ⟨fun _ hnot => absurd hr hnot, fun _ st hst => h _ st hst⟩
  | cached st hr hc =>
    refine ⟨fun _ _ u hu => ?_, fun _ st hst => h _ st hst⟩
    -- a cached state is planned or recomputing, so it is not `DONE`
    rw [cachedState, Option.filter_eq_some_iff, hu] at hc
    obtain ⟨hus, hstat⟩ := hc
    cases hus
    by_contra hfin
    have hdone := h _ st hu (by simpa using hfin)
    simp [hdone] at hstat
  | missed hr hc hq =>
    rw [forall_prop_of_true hr]
    exact hfresh _ (by simp [missState]) rfl
  | raised m e hr hc hq hp =>
    rw [forall_prop_of_true hr]
    exact hfresh _ (by simp [hitState]) rfl
  | recomputed m plan hr hc hq hp ha =>
    rw [forall_prop_of_true hr]
    exact hfresh _ (by simp [recomputeState]) rfl
  | accepted m plan hr hc hq hp ha hcall hmode htok hblk =>
    rw [forall_prop_of_true hr]
    exact hfresh _ (by simp [plannedState, hitState]) rfl

/-- **Step lemma**: a call keeps the flags right exactly when it revives no finished state. -/
theorem flagAgrees_step (c : Connector α) (op : LifecycleOp α) (h : StatesAll FlagAgrees c.stateManager) :
    StatesAll FlagAgrees ((lifecycleMachine α sha256Hex fo cfg role).step c op).1.stateManager ↔
      NotRevived c op := by
  cases op with
  | gcFinished age =>
    refine ⟨fun _ => trivial, fun _ rid st hst => ?_⟩
    have hget : (c.stateManager.gcFinished age).get rid = some st := hst
    rw [StateManager.get_gcFinished, Option.filter_eq_some_iff] at hget
    exact h rid st hget.1
  | call op =>
    refine (statesAll_step sha256Hex fo cfg role stable_flagAgrees h op).trans ?_
    cases op with
    | getNumNewMatchedTokens request n env =>
      exact forall₂_congr fun side hside => flagAgrees_query h side request n env
    | _ => exact Iff.rfl

/-- **The flags of a run are right throughout exactly when no call of it revives a finished state.** -/
theorem flags_agree_iff (ops : List (LifecycleOp α)) :
    (∀ pre post, ops = pre ++ post →
        StatesAll FlagAgrees ((lifecycleMachine α sha256Hex fo cfg role).exec pre).stateManager ∧
          GcSafe ((lifecycleMachine α sha256Hex fo cfg role).exec pre).stateManager) ↔
      EveryStep (fun pre op =>
        NotRevived ((lifecycleMachine α sha256Hex fo cfg role).exec pre) op) ops := by
  simp only [gcSafe_iff, and_self]
  exact (lifecycleMachine α sha256Hex fo cfg role).throughout_iff
    (I := fun c => StatesAll FlagAgrees c.stateManager) statesAll_init flagAgrees_step ops

/-- A second request under the same id is planned and marked finished at once. -/
theorem flags_disagree_reused :
    ¬ ∀ pre post, ([.call (.getNumNewMatchedTokens shortPrompt 0 shortEnv), .call (.requestFinished "r"),
          .call (.getNumNewMatchedTokens shortPrompt 0 shortEnv)] : List (LifecycleOp Half)) = pre ++ post →
      StatesAll FlagAgrees ((lifecycleMachine Half (fun _ => "digest") default {} "kv_both").exec pre).stateManager ∧
        GcSafe ((lifecycleMachine Half (fun _ => "digest") default {} "kv_both").exec pre).stateManager := by
  intro h
  have hrun := (h _ [] (List.append_nil _).symm).1
  have hst : (((lifecycleMachine Half (fun _ => "digest") default {} "kv_both").exec
      [.call (.getNumNewMatchedTokens shortPrompt 0 shortEnv), .call (.requestFinished "r"),
        .call (.getNumNewMatchedTokens shortPrompt 0 shortEnv)]).stateManager.get "r").map
          (fun st => (st.requestFinished, st.status)) = some (true, .hitPlanned) := by
    decide +kernel
  obtain ⟨st, hget, hflags⟩ := Option.map_eq_some_iff.mp hst
  have hdone := hrun "r" st hget (congrArg Prod.fst hflags)
  have hplanned : st.status = .hitPlanned := congrArg Prod.snd hflags
  rw [hplanned] at hdone
  cases hdone

end AwareKV
