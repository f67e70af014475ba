import AwareKV.LoadGate
import AwareKV.Serving

/-!
# AwareKV.LoadFailure — loads that do not succeed

When a load succeeds is decided by the reply, its decoding and the thread pool
(`startLoadKv_success_iff`).  Two results say what a failed load leaves.

* `failed_load_clean_iff`: the worker side keeps nothing about the request, exactly in the runs where
  no load fails after decoding, or over layers of an earlier load.
* `failed_load_reported_iff`: the connector drops the worker side's result, so a failure is in
  `worker_results` exactly when one was reported for the request before.
-/

namespace AwareKV

variable {α : Type}

/-! ### When a load succeeds -/

section Outcome

variable (cfg : DeadlineKVConfig) (fo : FloatOps)

/-- The critical object arrives and decodes. -/
def Decodes (md : DeadlineConnectorMetadata) (env : LoadEnv) : Prop :=
  ∃ data layers, env.reply = some data ∧
    decodeCriticalKv cfg fo data md.criticalCodec md.numLayers = .ok layers

/-- It does, and a refinement can be submitted if one is wanted. -/
def LoadSucceeds (md : DeadlineConnectorMetadata) (env : LoadEnv) : Prop :=
  Decodes cfg fo md env ∧ (WorkerSide.WantsRefinement md → env.submitFault = none)

variable {cfg fo}

theorem decodes_iff {md : DeadlineConnectorMetadata} {env : LoadEnv} :
    Decodes cfg fo md env ↔ ∃ r, WorkerSide.loadLayers cfg fo md env.reply = .ok r := by
  unfold Decodes WorkerSide.loadLayers
  cases env.reply with
  | none => simp
  | some data =>
    constructor
    · rintro ⟨data', layers, hdata, h⟩
      cases hdata
      exact ⟨(data, layers), by simp only [h]; rfl⟩
    · rintro ⟨r, h⟩
      obtain ⟨layers, hlayers, -⟩ := Py.bind_eq_ok.mp h
      exact ⟨data, layers, rfl, hlayers⟩

/-- **The result says whether the load succeeded.** -/
theorem startLoadKv_success_iff {w : WorkerSide α} {md : DeadlineConnectorMetadata} {env : LoadEnv} :
    (w.startLoadKv cfg fo md env).2.success = true ↔ LoadSucceeds cfg fo md env := by
  unfold LoadSucceeds
  rw [decodes_iff]
  have h := WorkerSide.loadOutcome cfg fo w md env
  generalize w.startLoadKv cfg fo md env = r at h ⊢
  cases h with
  | failed e hl => simp [createLoadResult, hl]
  | submitFailed data layers e hl hr hf => simp [createLoadResult, hr, hf]
  | loaded data layers hl hf => simpa [createLoadResult, hl] using hf

theorem startLoadKv_failure_iff {w : WorkerSide α} {md : DeadlineConnectorMetadata} {env : LoadEnv} :
    (w.startLoadKv cfg fo md env).2.success = false ↔ ¬ LoadSucceeds cfg fo md env := by
  rw [← startLoadKv_success_iff (w := w), Bool.not_eq_true]

end Outcome

/-! ### What a failed load leaves -/

section Leftovers

variable (cfg : DeadlineKVConfig) (fo : FloatOps)

/-- If the load fails, nothing is held about a load of its request afterwards, and everything that is
held about the others is still there. -/
def FailsClean (w : WorkerSide α) (md : DeadlineConnectorMetadata) (env : LoadEnv) : Prop :=
  (w.startLoadKv cfg fo md env).2.success = false →
    (w.startLoadKv cfg fo md env).1.NoLoad md.requestId ∧
      WorkerSide.SameOthers md.requestId w (w.startLoadKv cfg fo md env).1

/-- Refinements are scheduled for requests with loaded layers only. -/
def FuturesLoaded (w : WorkerSide α) : Prop :=
  ∀ rid, w.loadedKvs.get? rid = none → w.loadFutures.get? rid = none

variable {cfg fo}

theorem FuturesLoaded.startLoadKv {w : WorkerSide α} (h : FuturesLoaded w)
    (md : DeadlineConnectorMetadata) (env : LoadEnv) :
    FuturesLoaded (w.startLoadKv cfg fo md env).1 := by
  have hout := WorkerSide.loadOutcome cfg fo w md env
  generalize w.startLoadKv cfg fo md env = r at hout ⊢
  intro rid
  cases hout with
  | failed e hl => exact h rid
  | submitFailed data layers e hl hr hf =>
    simp only [Dict.get?_insert]
    intro hnone
    split_ifs at hnone
    exact h rid hnone
  | loaded data layers hl hf =>
    simp only [Dict.get?_insert]
    intro hnone
    split_ifs at hnone with hrid
    have hold := h rid hnone
    by_cases hr : WorkerSide.WantsRefinement md
    · simp only [if_pos hr, Dict.get?_insert, if_neg hrid, hold]
    · simp only [if_neg hr, hold]

/-- **In every run, refinements are scheduled for requests with loaded layers only.** -/
theorem futuresLoaded_run (cfg : DeadlineKVConfig) (fo : FloatOps) (ops : List (WorkerOp α)) :
    FuturesLoaded ((workerMachine α cfg fo).exec ops) := by
  refine (workerMachine α cfg fo).invariant (fun _ _ => rfl) ?_ ops
  intro w op h
  cases op with
  | startLoadKv md env => exact h.startLoadKv md env
  | waitForLayerLoad layerName => exact h
  | saveKvLayer layerName kvLayer attn q => exact h
  | requestFinished q =>
    obtain ⟨-, hkvs, hfutures⟩ := w.requestFinished_loads q
    intro rid
    simp only [workerMachine, hkvs, hfutures, Dict.get?_erase]
    split_ifs
    · exact fun _ => rfl
    · exact h rid
  | refinementStarts q k => exact h
  | refinementEnds q k => exact h

/-- A load touches the entries of its own request only. -/
theorem startLoadKv_sameOthers (w : WorkerSide α) (md : DeadlineConnectorMetadata) (env : LoadEnv) :
    WorkerSide.SameOthers md.requestId w (w.startLoadKv cfg fo md env).1 := by
  have hout := WorkerSide.loadOutcome cfg fo w md env
  generalize w.startLoadKv cfg fo md env = r at hout ⊢
  cases hout with
  | failed e hl =>
    exact ⟨fun q hq => by simp [hq], fun _ _ => rfl, fun _ _ => rfl, fun _ _ => rfl, fun _ _ => rfl⟩
  | submitFailed data layers e hl hr hf =>
    exact ⟨fun q hq => by simp [hq], fun q hq => by simp [hq], fun _ _ => rfl, fun _ _ => rfl, fun _ _ => rfl⟩
  | loaded data layers hl hf =>
    by_cases hr : WorkerSide.WantsRefinement md
    · refine ⟨fun q hq => by simp [hq], fun q hq => by simp [hq], fun q hq => by simp [hr, hq], fun q hq => ?_,
        fun _ _ => rfl⟩
      simp [WorkerSide.futuresOf, hr, hq]
    · refine ⟨fun q hq => by simp [hq], fun q hq => by simp [hq], fun q hq => by simp [hr], fun q hq => ?_,
        fun _ _ => rfl⟩
      simp [WorkerSide.futuresOf, hr]

/-- **When a load leaves nothing if it fails**: it succeeds, or it fails before decoding and there
were no layers of the request to begin with. -/
theorem failsClean_iff {w : WorkerSide α} (hw : FuturesLoaded w) {md : DeadlineConnectorMetadata}
    {env : LoadEnv} :
    FailsClean cfg fo w md env ↔ LoadSucceeds cfg fo md env ∨
      (¬ Decodes cfg fo md env ∧ w.loadedKvs.get? md.requestId = none) := by
  have hothers : WorkerSide.SameOthers md.requestId w (w.startLoadKv cfg fo md env).1 :=
    startLoadKv_sameOthers w md env
  have hkvs : (w.startLoadKv cfg fo md env).1.loadedKvs = _ := WorkerSide.startLoadKv_loadedKvs md env
  unfold FailsClean
  rw [startLoadKv_failure_iff, and_iff_left hothers]
  by_cases hs : LoadSucceeds cfg fo md env
  · exact ⟨fun _ => Or.inl hs, fun _ hns => absurd hs hns⟩
  by_cases hd : Decodes cfg fo md env
  · -- decoded, but the refinement could not be submitted: the layers stay
    obtain ⟨r, hr⟩ := decodes_iff.mp hd
    constructor
    · intro h
      have hloaded := (h hs).loadedKvs
      rw [hkvs, hr, Dict.get?_insert, if_pos rfl] at hloaded
      cases hloaded
    · rintro (h | ⟨h, -⟩)
      · exact absurd h hs
      · exact absurd hd h
  · have hl : ∀ r, WorkerSide.loadLayers cfg fo md env.reply ≠ .ok r :=
      fun r hr => hd (decodes_iff.mpr ⟨r, hr⟩)
    have hout := WorkerSide.loadOutcome cfg fo w md env
    generalize w.startLoadKv cfg fo md env = r at hout ⊢
    cases hout with
    | submitFailed data layers e hok => exact absurd hok (hl _)
    | loaded data layers hok => exact absurd hok (hl _)
    | failed e _ =>
      constructor
      · exact fun h => Or.inr ⟨hd, (h hs).loadedKvs⟩
      · rintro (h | ⟨-, hnone⟩)
        · exact absurd h hs
        · exact fun _ => ⟨by simp, hnone, hw _ hnone⟩

/-- **Failed loads leave nothing to serve, exactly in these runs**: whenever a load of the run fails,
it fails before its layers are decoded, and no layers decoded for its request earlier are still held. -/
theorem failed_load_clean_iff (cfg : DeadlineKVConfig) (fo : FloatOps) (ops : List (WorkerOp α)) :
    EveryStep (fun pre op => ∀ md env, op = .startLoadKv md env →
        FailsClean cfg fo ((workerMachine α cfg fo).exec pre) md env) ops ↔
      EveryStep (fun pre op => ∀ md env, op = .startLoadKv md env →
        LoadSucceeds cfg fo md env ∨
          (¬ Decodes cfg fo md env ∧ decodedFor cfg fo md.requestId pre = none)) ops := by
  refine everyStep_congr fun pre op => ?_
  refine forall_congr' fun md => forall_congr' fun env => imp_congr_right fun _ => ?_
  rw [failsClean_iff (futuresLoaded_run cfg fo pre), loadedKvs_eq_decodedFor]

/-- The second load of a request fails, and the layers of the first one stay. -/
theorem failed_reload_keeps_layers :
    ¬ EveryStep (fun pre op => ∀ md env, op = .startLoadKv md env →
        FailsClean tinyConfig default ((workerMachine Half tinyConfig default).exec pre) md env)
      [tinyLoad "a" [1, 0],
        .startLoadKv { requestId := "a", planMode := .criticalInt8Only } { reply := none }] := by
  intro h
  have hclean := h [tinyLoad "a" [1, 0]] _ [] rfl _ _ rfl (by decide +kernel)
  have hloaded := hclean.1.loadedKvs
  revert hloaded
  decide +kernel

end Leftovers

/-! ### What the scheduler learns of it -/

section Report

variable (sha256Hex : String → String) (fo : FloatOps) (cfg : DeadlineKVConfig) (role : String)

/-- How a call changes the last report about `rid`. -/
def reportStep (rid : ReqId) (acc : Option WorkerLoadResult) :
    ConnectorOp α → Option WorkerLoadResult
  | .updateConnectorOutput q (some r) => if q = rid then some r else acc
  | .requestFinished q => if q = rid then none else acc
  | _ => acc

/-- The last result that was passed to `update_connector_output` for `rid`, if `rid` did not finish
since. -/
def lastReport (rid : ReqId) (ops : List (ConnectorOp α)) : Option WorkerLoadResult :=
  ops.foldl (reportStep rid) none

/-- A result that says that the load of `rid` failed. -/
def IsFailureOf (rid : ReqId) (report : Option WorkerLoadResult) : Prop :=
  ∃ r, report = some r ∧ r.success = false ∧ r.requestId = rid

/-- The call starts a load for `rid`: on the worker side `w`, with the pending metadata `md`. -/
structure StartsLoad (c : Connector α) (op : ConnectorOp α) (rid : ReqId) (env : LoadEnv)
    (w : WorkerSide α) (md : DeadlineConnectorMetadata) : Prop where
  call : op = .startLoadKv (some rid) env
  named : rid ≠ ""
  workerSide : c.workerSide = some w
  pending : c.pendingMetadata.get? rid = some md

/-- Only a report and the end of a request change `worker_results`. -/
theorem workerResults_kept (c : Connector α) {op : ConnectorOp α}
    (hreport : ∀ q r, op ≠ .updateConnectorOutput q (some r)) (hfinish : ∀ q, op ≠ .requestFinished q) :
    ((connectorMachine α sha256Hex fo cfg role).step c op).1.workerResults = c.workerResults := by
  have hstep := connectorStep sha256Hex fo cfg role c op
  generalize (connectorMachine α sha256Hex fo cfg role).step c op = r at hstep ⊢
  obtain ⟨c', answer⟩ := r
  cases hstep with
  | reported q r => exact absurd rfl (hreport q r)
  | finished q hw => exact absurd rfl (hfinish q)
  | finishRaised q w e hw he => exact absurd rfl (hfinish q)
  | _ => rfl

theorem workerResults_step (c : Connector α) (op : ConnectorOp α) (rid : ReqId) :
    ((connectorMachine α sha256Hex fo cfg role).step c op).1.workerResults.get? rid =
      reportStep rid (c.workerResults.get? rid) op := by
  cases op with
  | updateConnectorOutput q result =>
    cases result with
    | none => rfl
    | some r =>
      simp only [connectorMachine, Connector.updateConnectorOutput, Dict.get?_insert, reportStep,
        eq_comm]
  | requestFinished q =>
    simp only [connectorMachine, Connector.requestFinished_eq, Connector.forget, Dict.get?_erase,
      reportStep, eq_comm]
  | _ =>
    rw [workerResults_kept sha256Hex fo cfg role c (by simp) (by simp)]
    rfl

/-- **In every run, `worker_results` holds the last report about each request.** -/
theorem workerResults_exec (ops : List (ConnectorOp α)) (rid : ReqId) :
    ((connectorMachine α sha256Hex fo cfg role).exec ops).workerResults.get? rid =
      lastReport rid ops := by
  have hobs := (connectorMachine α sha256Hex fo cfg role).observe_exec
    (fun c => c.workerResults.get? rid) (reportStep rid)
    (fun c op => workerResults_step sha256Hex fo cfg role c op rid) ops
  have hinit : (connectorMachine α sha256Hex fo cfg role).init.workerResults.get? rid = none := by
    simp
  rw [hobs, hinit, lastReport]

/-- **Failed loads are reported, exactly in these runs**: whenever a load that `start_load_kv` starts
in the run fails, the last report about its request already was a failure. -/
theorem failed_load_reported_iff (ops : List (ConnectorOp α)) :
    EveryStep (fun pre op => ∀ rid env w md,
        StartsLoad ((connectorMachine α sha256Hex fo cfg role).exec pre) op rid env w md →
        (w.startLoadKv ((connectorMachine α sha256Hex fo cfg role).exec pre).config fo md env).2.success =
          false →
        IsFailureOf rid
          (((connectorMachine α sha256Hex fo cfg role).exec (pre ++ [op])).workerResults.get? rid)) ops ↔
      EveryStep (fun pre op => ∀ rid env w md,
        StartsLoad ((connectorMachine α sha256Hex fo cfg role).exec pre) op rid env w md →
        ¬ LoadSucceeds ((connectorMachine α sha256Hex fo cfg role).exec pre).config fo md env →
        IsFailureOf rid (lastReport rid pre)) ops := by
  refine everyStep_congr fun pre op => ?_
  refine forall_congr' fun rid => forall_congr' fun env => forall_congr' fun w =>
    forall_congr' fun md => imp_congr_right fun hstarts => ?_
  obtain ⟨rfl, -, -, -⟩ := hstarts
  have hkept : lastReport rid (pre ++ [.startLoadKv (some rid) env]) = lastReport rid pre :=
    List.foldl_append
  rw [startLoadKv_failure_iff, workerResults_exec, hkept]

/-- The service does not have the object of a planned request: the load fails, and no result says
so. -/
theorem failed_load_unreported :
    ¬ EveryStep (fun pre op => ∀ rid env w md,
        StartsLoad ((connectorMachine Half (fun _ => "digest") default {} "kv_both").exec pre)
          op rid env w md →
        (w.startLoadKv ((connectorMachine Half (fun _ => "digest") default {} "kv_both").exec pre).config
          default md env).2.success = false →
        IsFailureOf rid (((connectorMachine Half (fun _ => "digest") default {} "kv_both").exec
          (pre ++ [op])).workerResults.get? rid))
      [.getNumNewMatchedTokens shortPrompt 0 shortEnv, .buildConnectorMeta shortPrompt,
        .startLoadKv (some "r") { reply := none }] := by
  intro h
  set M := connectorMachine Half (fun _ => "digest") default {} "kv_both" with hM
  set pre : List (ConnectorOp Half) :=
    [.getNumNewMatchedTokens shortPrompt 0 shortEnv, .buildConnectorMeta shortPrompt] with hpre
  have hpending : ((M.exec pre).pendingMetadata.get? "r").isSome = true := by
    rw [hM, hpre]
    decide +kernel
  obtain ⟨md, hmd⟩ := Option.isSome_iff_exists.mp hpending
  have hworker : (M.exec pre).workerSide = some {} := by
    rw [hM, hpre]
    decide +kernel
  have hfailed := h pre (.startLoadKv (some "r") { reply := none }) [] rfl "r" _ {} md
    ⟨rfl, by decide, hworker, hmd⟩ rfl
  rw [hM, workerResults_exec] at hfailed
  obtain ⟨r, hr, -⟩ := hfailed
  cases hr

end Report

end AwareKV
