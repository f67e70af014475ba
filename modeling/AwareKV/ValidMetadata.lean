import AwareKV.StateRuns
import AwareKV.Store

/-!
# AwareKV.ValidMetadata — what the unused validation would say

`build_request_metadata` does not call `validate_metadata`, and neither the manifest service nor the
planner asks for what it asks for.

* `valid_metadata_iff`: all metadata that can be built in a run is valid exactly when every query of
  the run plans complete manifests only, for a request with an id.
-/

namespace AwareKV

open SchedulerSide

variable {α : Type} {sha256Hex : String → String} {fo : FloatOps} {cfg : DeadlineKVConfig}
  {role : String}

/-- A manifest that is complete for the metadata of request `rid`, if it is going to be refined or
not. -/
def Complete (rid : ReqId) (m : PrefixManifest) (refines : Prop) : Prop :=
  rid ≠ "" ∧ 0 < m.matchedTokens ∧ m.criticalObjectId ≠ "" ∧
    (refines → m.refinementObjectId ≠ some "")

/-! ### Prefix keys -/

/-- A planned state has a digest as its prefix key. -/
def Keyed (sha256Hex : String → String) (_ : ReqId) (st : RequestTransferState) : Prop :=
  st.status = .hitPlanned → ∃ text, st.prefixKey = some (sha256Hex text)

theorem stable_keyed : Stable (Keyed sha256Hex) :=
  ⟨fun _ _ _ h => h, fun _ _ _ hs => by cases hs⟩

/-- Queries set the prefix key before the status. -/
theorem keyed_query {sm : StateManager} (h : StatesAll (Keyed sha256Hex) sm) (side : SchedulerSide)
    (request : Request) (n : ℤ) (env : QueryEnv) :
    ∀ st, (side.prepareRequestState sha256Hex sm request n env).1.get (extractRequestId request) =
      some st → Keyed sha256Hex (extractRequestId request) st := by
  have hnew : ∀ st, st.prefixKey = some (side.prefixKeyOf sha256Hex request) →
      ∀ u, (sm.put (extractRequestId request) st).get (extractRequestId request) = some u →
        Keyed sha256Hex (extractRequestId request) u :=
    fun st hkey => StateManager.forall_get_put.mpr fun _ => ⟨_, hkey⟩
  have hout := side.prepared sha256Hex sm request n env
  generalize side.prepareRequestState sha256Hex sm request n env = out at hout
  cases hout with
  | rejected hr => exact fun st hst => h _ st hst
  | cached st' hr hc => exact fun st hst => h _ st hst
  | missed hr hc hq => exact hnew _ rfl
  | raised m e hr hc hq hp => exact hnew _ rfl
  | recomputed m plan hr hc hq hp ha => exact hnew _ rfl
  | accepted m plan hr hc hq hp ha hcall hmode htok hblk => exact hnew _ rfl

variable (sha256Hex fo cfg role)

theorem keyed_exec (ops : List (ConnectorOp α)) :
    StatesAll (Keyed sha256Hex) ((connectorMachine α sha256Hex fo cfg role).exec ops).stateManager := by
  refine (connectorMachine α sha256Hex fo cfg role).invariant
    (I := fun c => StatesAll (Keyed sha256Hex) c.stateManager) statesAll_init (fun c op hc => ?_) ops
  rw [statesAll_step sha256Hex fo cfg role stable_keyed hc op]
  cases op with
  | getNumNewMatchedTokens request n env => exact fun side _ => keyed_query hc side request n env
  | _ => trivial

variable {sha256Hex fo cfg role}

/-! ### Validity -/

/-- Metadata is valid when its request has an id and a prefix key and its manifest is complete. -/
theorem validateMetadata_metadataOf {st : RequestTransferState} {m : PrefixManifest}
    {plan : TransferPlan} {blocks : Option (List ℤ)} (hkey : orString st.prefixKey m.prefixKey ≠ "") :
    validateMetadata (metadataOf st m plan blocks) = (true, "") ↔
      Complete st.requestId m (plan.mode.refines = true) := by
  rw [validateMetadata_iff]
  unfold Complete
  simp only [metadataOf, Option.getD_some]
  cases hr : plan.mode.refines with
  | false => simp [hkey]
  | true =>
    cases ho : m.refinementObjectId with
    | none => simp [hkey]
    | some id => simp [hkey]

/-- After a run, all metadata that can be built is valid exactly when the planned manifests are
complete. -/
theorem valid_built_iff (hsha : ∀ text, sha256Hex text ≠ "") (ops : List (ConnectorOp α)) :
    (∀ rid md, buildRequestMetadata ((connectorMachine α sha256Hex fo cfg role).exec ops).stateManager
        rid = some md → validateMetadata md = (true, "")) ↔
      StatesAll (IfPlanned fun rid m plan => Complete rid m (plan.mode.refines = true))
        ((connectorMachine α sha256Hex fo cfg role).exec ops).stateManager := by
  have hkeyed := keyed_exec sha256Hex fo cfg role ops
  have hids := (sched_inv sha256Hex fo cfg role ops).ids
  generalize ((connectorMachine α sha256Hex fo cfg role).exec ops).stateManager = sm at hkeyed hids
  rw [statesAll_ifPlanned]
  have hvalid : ∀ rid st m plan, PlannedWith sm rid st m plan →
      (validateMetadata (metadataOf st m plan (some st.allocatedBlockIds)) = (true, "") ↔
        Complete rid m (plan.mode.refines = true)) := by
    intro rid st m plan hp
    obtain ⟨text, htext⟩ := hkeyed rid st hp.1 hp.2.1
    have hkey : orString st.prefixKey m.prefixKey ≠ "" := by
      rw [htext, orString, if_neg (hsha text)]
      exact hsha text
    rw [validateMetadata_metadataOf hkey, hids rid st hp.1]
  constructor
  · intro h rid st m plan hp
    exact (hvalid rid st m plan hp).mp (h rid _ (buildRequestMetadata_eq_some.mpr ⟨st, m, plan, hp, rfl⟩))
  · intro h rid md hmd
    obtain ⟨st, m, plan, hp, rfl⟩ := buildRequestMetadata_eq_some.mp hmd
    exact (hvalid rid st m plan hp).mpr (h rid st m plan hp)

/-- **All metadata that can be built throughout a run is valid exactly when every query plans complete
manifests only.** -/
theorem valid_metadata_iff (hsha : ∀ text, sha256Hex text ≠ "") (ops : List (ConnectorOp α)) :
    (∀ pre post, ops = pre ++ post → ∀ rid md,
        buildRequestMetadata ((connectorMachine α sha256Hex fo cfg role).exec pre).stateManager rid =
          some md → validateMetadata md = (true, "")) ↔
      EveryStep (fun pre op =>
        QueryRefining Complete ((connectorMachine α sha256Hex fo cfg role).exec pre) op) ops := by
  rw [← plannedAll_iff sha256Hex fo cfg role ops]
  exact forall₃_congr fun pre _ _ => valid_built_iff hsha pre

/-- The query of a prompt with a complete manifest. -/
theorem valid_metadata_shortPrompt :
    (buildRequestMetadata ((connectorMachine Half (fun _ => "digest") default {} "kv_both").exec
      [.getNumNewMatchedTokens shortPrompt 0 shortEnv]).stateManager "r").map validateMetadata =
        some (true, "") := by
  have hcomplete : EveryStep (fun pre op =>
      QueryRefining Complete ((connectorMachine Half (fun _ => "digest") default {} "kv_both").exec pre) op)
      [.getNumNewMatchedTokens shortPrompt 0 shortEnv] := by
    refine everyStep_singleton.mpr fun side hside _ _ m hm => ?_
    cases hm
    exact ⟨fun _ => ⟨by decide, by decide, by decide, fun _ => by decide⟩, fun _ st plan hst => by cases hst⟩
  have hbuilt : (buildRequestMetadata ((connectorMachine Half (fun _ => "digest") default {} "kv_both").exec
      [.getNumNewMatchedTokens shortPrompt 0 shortEnv]).stateManager "r").isSome = true := by
    decide +kernel
  obtain ⟨md, hmd⟩ := Option.isSome_iff_exists.mp hbuilt
  rw [hmd, Option.map_some]
  exact congrArg some ((valid_metadata_iff (fun _ => by decide) _).mpr hcomplete _ []
    (List.append_nil _).symm "r" md hmd)

/-- The service knows the manifest of `bareBody`. -/
def bareEnv : QueryEnv :=
  { answer := .response {
      hit := true, manifest := (manifestQuery (manifestPut ⟨.empty⟩ bareBody 0).1 "digest" 0).2 },
    net := { bandwidthBps := 1000000000, rttMs := 10 } }

/-- A manifest that was put without a critical object is planned, and its metadata is not valid. -/
theorem invalid_metadata_bare :
    ¬ ∀ pre post, ([.getNumNewMatchedTokens shortPrompt 0 bareEnv] : List (ConnectorOp Half)) =
        pre ++ post → ∀ rid md,
      buildRequestMetadata ((connectorMachine Half (fun _ => "digest") default {} "kv_both").exec
        pre).stateManager rid = some md → validateMetadata md = (true, "") := by
  intro h
  have hrun := h _ [] (List.append_nil _).symm "r"
  have hbuilt : (buildRequestMetadata ((connectorMachine Half (fun _ => "digest") default {}
      "kv_both").exec [.getNumNewMatchedTokens shortPrompt 0 bareEnv]).stateManager "r").map
        validateMetadata = some (false, "critical_object_id is required") := by
    decide +kernel
  obtain ⟨md, hmd, hinvalid⟩ := Option.map_eq_some_iff.mp hbuilt
  rw [hrun md hmd] at hinvalid
  cases hinvalid

end AwareKV
