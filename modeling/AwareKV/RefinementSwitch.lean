import AwareKV.StateRuns

/-!
# AwareKV.RefinementSwitch — runs with `enable_refinement = False`

The planner looks at the switch only when the critical bytes do not fit in full; a `FULL_FP16` plan
refines all the same if the manifest names a refinement object.

* `refinement_switch_iff`: with the switch off, a run builds no metadata that needs a refinement and
  fetches none exactly when no query of it plans such a manifest under a `FULL_FP16` plan.
-/

namespace AwareKV

open SchedulerSide

variable {α : Type} {sha256Hex : String → String} {fo : FloatOps} {cfg : DeadlineKVConfig}
  {role : String}

/-- If the manifest is going to be refined, it names no object for that. -/
def Unrefined (_ : ReqId) (m : PrefixManifest) (refines : Prop) : Prop :=
  refines → m.refinementObjectId = none

/-- The metadata made for an unrefined manifest needs no refinement, and for no other. -/
theorem needRefinement_metadataOf {rid : ReqId} {st : RequestTransferState} {m : PrefixManifest}
    {plan : TransferPlan} {blocks : Option (List ℤ)} :
    (metadataOf st m plan blocks).needRefinement = false ↔
      Unrefined rid m (plan.mode.refines = true) := by
  unfold Unrefined
  simp only [metadataOf]
  cases plan.mode.refines <;> cases m.refinementObjectId <;> simp

/-! ### The worker side -/

/-- No refinement was ever submitted, and none was fetched. -/
structure NoRefinement (w : WorkerSide α) : Prop where
  futures : ∀ rid, w.futuresOf rid = []
  fetches : ∀ f ∈ w.fetches, f.tier ≠ .refinement

namespace NoRefinement

variable {w : WorkerSide α}

theorem startLoadKv (h : NoRefinement w) {md : DeadlineConnectorMetadata}
    (hmd : md.needRefinement = false) (env : LoadEnv) :
    NoRefinement (w.startLoadKv cfg fo md env).1 := by
  have hfetch : ∀ f ∈ w.fetches ++ [⟨.critical, md.criticalObjectId, md.requestId⟩],
      f.tier ≠ .refinement := by
    intro f hf
    rcases List.mem_append.mp hf with hf | hf
    · exact h.fetches f hf
    · rw [List.mem_singleton.mp hf]
      exact fun he => by cases he
  have hno : ¬ WorkerSide.WantsRefinement md := by
    rintro ⟨hneed, -⟩
    rw [hmd] at hneed
    cases hneed
  have hout := WorkerSide.loadOutcome cfg fo w md env
  generalize w.startLoadKv cfg fo md env = r at hout ⊢
  cases hout with
  | failed e hl => exact ⟨h.futures, hfetch⟩
  | submitFailed data layers e hl hr hf => exact absurd hr hno
  | loaded data layers hl hf =>
    refine ⟨fun rid => ?_, hfetch⟩
    rw [WorkerSide.futuresOf]
    dsimp only
    rw [if_neg hno]
    exact h.futures rid

/-- No future comes from the futures that there are. -/
theorem of_metadata (h : NoRefinement w) {w' : WorkerSide α} (hfetches : w'.fetches = w.fetches)
    (hfutures : ∀ q, (w'.futuresOf q).map Future.metadata = (w.futuresOf q).map Future.metadata) :
    NoRefinement w' := by
  refine ⟨fun q => ?_, hfetches ▸ h.fetches⟩
  have hnone := hfutures q
  rw [h.futures q, List.map_nil] at hnone
  exact List.map_eq_nil_iff.mp hnone

theorem refinementStarts (h : NoRefinement w) (rid : ReqId) (k : ℕ) : NoRefinement (w.refinementStarts rid k) :=
  h.of_metadata rfl (WorkerSide.metadata_moveFuture rfl)

theorem refinementEnds (h : NoRefinement w) (rid : ReqId) (k : ℕ) : NoRefinement (w.refinementEnds rid k) := by
  have hnone : w.futureIn .running rid k = none := by
    simp [WorkerSide.futureIn, h.futures rid]
  refine h.of_metadata ?_ (WorkerSide.metadata_moveFuture rfl)
  rw [WorkerSide.refinementEnds, hnone]
  exact List.append_nil _

theorem requestFinished (h : NoRefinement w) (rid : ReqId) :
    NoRefinement (w.requestFinished rid).1 :=
  h.of_metadata (w.requestFinished_fetches rid)
    (WorkerSide.metadata_cancelFuture (w.requestFinished_executor rid))

end NoRefinement

/-! ### Runs -/

/-- No pending metadata needs a refinement, and the worker side has none. -/
structure SwitchedOff (c : Connector α) : Prop where
  planned : StatesAll (IfPlanned fun rid m plan => Unrefined rid m (plan.mode.refines = true))
    c.stateManager
  pending : ∀ rid md, c.pendingMetadata.get? rid = some md → md.needRefinement = false
  worker : ∀ w, c.workerSide = some w → NoRefinement w

theorem switchedOff_init : SwitchedOff (Connector.start α fo cfg role) := by
  refine ⟨statesAll_init, fun rid md hmd => ?_, fun w hw => ?_⟩
  · rw [Connector.start_pendingMetadata, Dict.get?_empty] at hmd
    cases hmd
  · cases Connector.start_workerSide hw
    exact ⟨fun _ => rfl, fun f hf => by cases hf⟩

/-- Metadata built from states that are not to be refined needs no refinement. -/
theorem built_unrefined {sm : StateManager}
    (h : StatesAll (IfPlanned fun rid m plan => Unrefined rid m (plan.mode.refines = true)) sm)
    {rid : ReqId} {md : DeadlineConnectorMetadata} (hmd : buildRequestMetadata sm rid = some md) :
    md.needRefinement = false := by
  obtain ⟨st, m, plan, hp, rfl⟩ := buildRequestMetadata_eq_some.mp hmd
  exact needRefinement_metadataOf.mpr (statesAll_ifPlanned.mp h rid st m plan hp)

/-- The metadata that a call leaves pending was pending, or is built from unrefined states. -/
theorem SwitchedOff.pending_step {c : Connector α} (h : SwitchedOff c) (op : ConnectorOp α) (rid : ReqId)
    (md : DeadlineConnectorMetadata)
    (hmd : ((connectorMachine α sha256Hex fo cfg role).step c op).1.pendingMetadata.get? rid = some md) :
    md.needRefinement = false := by
  rcases AwareKV.pending_step (schedStep sha256Hex fo cfg role c op) hmd with hold | ⟨request, -, -, hbuild⟩
  · exact h.pending rid md hold
  · exact built_unrefined h.planned hbuild

/-- A call with metadata that needs no refinement gives the worker side none. -/
theorem SwitchedOff.worker_step {c : Connector α} (h : SwitchedOff c) (op : ConnectorOp α) (w : WorkerSide α)
    (hw : ((connectorMachine α sha256Hex fo cfg role).step c op).1.workerSide = some w) : NoRefinement w := by
  have hstep := connectorStep sha256Hex fo cfg role c op
  generalize ((connectorMachine α sha256Hex fo cfg role).step c op).1 = c' at hstep hw
  generalize ((connectorMachine α sha256Hex fo cfg role).step c op).2 = answer at hstep
  have hmap : ∀ {f : WorkerSide α → WorkerSide α}, (∀ w, NoRefinement w → NoRefinement (f w)) →
      c.workerSide.map f = some w → NoRefinement w := by
    intro f hf hw
    obtain ⟨w', hw', rfl⟩ := Option.map_eq_some_iff.mp hw
    exact hf w' (h.worker w' hw')
  cases hstep with
  | loaded rid env w' md hw' hmd =>
    cases hw
    exact (h.worker w' hw').startLoadKv (h.pending rid md hmd) env
  | saved layerName kvLayer attn rid w' hw' =>
    cases hw
    exact ⟨(h.worker w' hw').futures, (h.worker w' hw').fetches⟩
  | finished rid hclean => exact hmap (fun w h => h.requestFinished rid) hw
  | finishRaised rid w' e hw' he =>
    cases hw
    exact (h.worker w' hw').requestFinished rid
  | refinementStarted rid k => exact hmap (fun w h => h.refinementStarts rid k) hw
  | refinementEnded rid k reply => exact hmap (fun w h => h.refinementEnds rid k) hw
  | queried | allocated | built | reported | taken | kept => exact h.worker w hw

/-- **Step lemma**: as long as the planned manifests are unrefined, nothing refines. -/
theorem SwitchedOff.step {c : Connector α} (h : SwitchedOff c) {op : ConnectorOp α}
    (hplanned : StatesAll (IfPlanned fun rid m plan => Unrefined rid m (plan.mode.refines = true))
      ((connectorMachine α sha256Hex fo cfg role).step c op).1.stateManager) :
    SwitchedOff ((connectorMachine α sha256Hex fo cfg role).step c op).1 :=
  ⟨hplanned, h.pending_step op, h.worker_step op⟩

/-- **Run lemma.** -/
theorem switchedOff_exec (ops : List (ConnectorOp α))
    (hops : ∀ pre post, ops = pre ++ post →
      StatesAll (IfPlanned fun rid m plan => Unrefined rid m (plan.mode.refines = true))
        ((connectorMachine α sha256Hex fo cfg role).exec pre).stateManager) :
    SwitchedOff ((connectorMachine α sha256Hex fo cfg role).exec ops) := by
  induction ops using List.reverseRecOn with
  | nil => exact switchedOff_init
  | append_singleton ops op ih =>
    have hinit := ih fun pre post hpre => hops pre (post ++ [op]) (by simp [hpre])
    have hlast := hops (ops ++ [op]) [] (by simp)
    rw [Machine.exec_snoc] at hlast ⊢
    exact hinit.step hlast

/-! ### The switch -/

/-- **Nothing refines** after the calls `pre`: no metadata that is built then needs a refinement, and
the worker side has fetched none. -/
def NothingRefines (M : Machine (Connector α) (ConnectorOp α) ConnectorAnswer)
    (pre : List (ConnectorOp α)) : Prop :=
  (∀ request md, M.answer pre (.buildConnectorMeta request) = .metadata (some md) →
      md.needRefinement = false) ∧
    ∀ f ∈ (M.exec pre).fetches, f.tier ≠ .refinement

/-- **What keeps the switch**: a fresh answer whose manifest names a refinement object must not be
planned in full, by the planner or by an old plan of the request when the planner raises. -/
def KeepsSwitch (c : Connector α) : ConnectorOp α → Prop
  | .getNumNewMatchedTokens request _ env => ∀ side, c.schedulerSide = some side →
      ¬ side.Rejects request → cachedState c.stateManager (extractRequestId request) = none →
        ∀ m, queryManifest env.answer = some m → m.refinementObjectId ≠ none →
          (side.PlannerAccepts env m → ¬ side.planner.Fits side.doubles env.net m.criticalNbytes) ∧
          (side.PlannerRaises env m → ∀ st plan,
            c.stateManager.get (extractRequestId request) = some st → st.plan = some plan →
              plan.mode.refines = false)
  | _ => True

/-- With the switch off, an accepted manifest's plan refines only if its bytes fit in full. -/
theorem queryRefining_unrefined {c : Connector α}
    (hoff : ∀ side, c.schedulerSide = some side → side.config.enableRefinement = false)
    (op : ConnectorOp α) : QueryRefining Unrefined c op ↔ KeepsSwitch c op := by
  cases op with
  | getNumNewMatchedTokens request n env =>
    refine forall₂_congr fun side hside => forall₄_congr fun _ _ m _ => ?_
    have hrefines : side.PlanRefines env m ↔ side.planner.Fits side.doubles env.net m.criticalNbytes := by
      simp [PlanRefines, DeadlinePlanner.Refines, hoff side hside]
    simp only [Unrefined, hrefines]
    constructor
    · rintro ⟨hacc, hraise⟩ hobj
      refine ⟨fun ha hfits => hobj (hacc ha hfits), fun hp st plan hst hplan => ?_⟩
      by_contra hr
      exact hobj (hraise hp st plan hst hplan (by simpa using hr))
    · intro h
      refine ⟨fun ha hfits => ?_, fun hp st plan hst hplan hr => ?_⟩
      · by_contra hobj
        exact (h hobj).1 ha hfits
      · by_contra hobj
        rw [(h hobj).2 hp st plan hst hplan] at hr
        cases hr
  | _ => exact Iff.rfl

/-- The scheduler side keeps its configuration. -/
theorem side_config_exec (ops : List (ConnectorOp α)) {side : SchedulerSide}
    (hside : ((connectorMachine α sha256Hex fo cfg role).exec ops).schedulerSide = some side) :
    side.config = cfg := by
  have hinit : ((connectorMachine α sha256Hex fo cfg role).exec ops).schedulerSide =
      (Connector.start α fo cfg role).schedulerSide :=
    (connectorMachine α sha256Hex fo cfg role).invariant
      (I := fun c => c.schedulerSide = (Connector.start α fo cfg role).schedulerSide) rfl
      (fun c op hc => (step_schedulerSide c op).trans hc) ops
  rw [hinit] at hside
  rw [Connector.start_schedulerSide hside]
  rfl

/-- After the calls `pre`, no metadata that is built needs a refinement exactly when the planned
manifests are unrefined. -/
theorem built_unrefined_iff (pre : List (ConnectorOp α)) :
    (∀ request md, (connectorMachine α sha256Hex fo cfg role).answer pre (.buildConnectorMeta request) =
        .metadata (some md) → md.needRefinement = false) ↔
      StatesAll (IfPlanned fun rid m plan => Unrefined rid m (plan.mode.refines = true))
        ((connectorMachine α sha256Hex fo cfg role).exec pre).stateManager := by
  have hnone := noSideNoState_exec sha256Hex fo cfg role pre
  simp only [answer_build, ConnectorAnswer.metadata.injEq]
  generalize (connectorMachine α sha256Hex fo cfg role).exec pre = c at hnone
  cases hs : c.schedulerSide with
  | none =>
    simp only [Connector.buildConnectorMeta, hs]
    refine ⟨fun _ rid st hst => ?_, fun _ _ _ h => by cases h⟩
    rw [hnone hs rid] at hst
    cases hst
  | some side =>
    simp only [Connector.buildConnectorMeta_spec hs]
    refine ⟨fun h => statesAll_ifPlanned.mpr fun rid st m plan hp => ?_,
      fun h request md hmd => built_unrefined h hmd⟩
    exact needRefinement_metadataOf.mp (h { requestId := some rid } _
      (buildRequestMetadata_eq_some.mpr ⟨st, m, plan, hp, rfl⟩))

/-- **With `enable_refinement = False`, nothing refines throughout a run exactly when every query of it
keeps the switch.** -/
theorem refinement_switch_iff (hoff : cfg.enableRefinement = false) (ops : List (ConnectorOp α)) :
    (∀ pre post, ops = pre ++ post → NothingRefines (connectorMachine α sha256Hex fo cfg role) pre) ↔
      EveryStep (fun pre op =>
        KeepsSwitch ((connectorMachine α sha256Hex fo cfg role).exec pre) op) ops := by
  have hcond : EveryStep (fun pre op =>
        KeepsSwitch ((connectorMachine α sha256Hex fo cfg role).exec pre) op) ops ↔
      EveryStep (fun pre op =>
        QueryRefining Unrefined ((connectorMachine α sha256Hex fo cfg role).exec pre) op) ops :=
    everyStep_congr fun pre op => (queryRefining_unrefined
      (fun side hside => (side_config_exec pre hside).symm ▸ hoff) op).symm
  rw [hcond, ← plannedAll_iff sha256Hex fo cfg role ops]
  constructor
  · intro h pre post hops
    exact (built_unrefined_iff pre).mp (h pre post hops).1
  · rintro h pre post rfl
    have hplanned := fun pre' post' (hpre : pre = pre' ++ post') => h pre' (post' ++ post) (by simp [hpre])
    refine ⟨(built_unrefined_iff pre).mpr (h pre post rfl), ?_⟩
    have hworker := (switchedOff_exec pre hplanned).worker
    intro f hf
    unfold Connector.fetches at hf
    cases hw : ((connectorMachine α sha256Hex fo cfg role).exec pre).workerSide with
    | none => simp [hw] at hf
    | some w => exact (hworker w hw).fetches f (by simpa [hw] using hf)

/-- The service knows a manifest of the whole prompt with a refinement object. -/
def refinedEnv : QueryEnv :=
  { answer := .response {
      hit := true,
      manifest := some { shortManifest with
        refinementCodec := some "fp16_raw", refinementNbytes := some 2000,
        refinementObjectId := some "refinement" } },
    net := { bandwidthBps := 1000000000, rttMs := 10 } }

/-- A manifest that is not planned in full: its bytes do not fit, half of them do. -/
theorem refinement_switch_int8 :
    NothingRefines (connectorMachine Half (fun _ => "digest") default { enableRefinement := false }
      "kv_both") [.getNumNewMatchedTokens shortPrompt 0
        { refinedEnv with net := { bandwidthBps := 15000, rttMs := 10 } }] := by
  refine (refinement_switch_iff rfl _).mpr ?_ _ [] (List.append_nil _).symm
  refine everyStep_singleton.mpr fun side hside _ _ m hm _ => ?_
  cases hside
  cases hm
  exact ⟨fun _ => by decide +kernel, fun _ st plan hst => by cases hst⟩

/-- A manifest with a refinement object that fits in full: its metadata needs a refinement. -/
theorem refinement_switch_ignored :
    ¬ ∀ pre post, ([.getNumNewMatchedTokens shortPrompt 0 refinedEnv] : List (ConnectorOp Half)) =
        pre ++ post →
      NothingRefines (connectorMachine Half (fun _ => "digest") default { enableRefinement := false }
        "kv_both") pre := by
  intro h
  have hrun := (h _ [] (List.append_nil _).symm).1 shortPrompt
  have hneed : ((((connectorMachine Half (fun _ => "digest") default { enableRefinement := false }
      "kv_both").exec [.getNumNewMatchedTokens shortPrompt 0 refinedEnv]).buildConnectorMeta
        shortPrompt).2).map (fun md => md.needRefinement) = some true := by
    decide +kernel
  obtain ⟨md, hmd, hmdneed⟩ := Option.map_eq_some_iff.mp hneed
  rw [hrun md (by rw [answer_build, hmd])] at hmdneed
  cases hmdneed

end AwareKV
