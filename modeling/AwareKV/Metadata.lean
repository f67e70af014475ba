import AwareKV.Types

/-!
# AwareKV.Metadata — connector metadata and load results

Translation of `build_metadata_from_state`, `create_load_result` and `validate_metadata` of
`connector/metadata.py`.  Nothing calls the validation.
-/

namespace AwareKV

/-- The modes after which a refinement is loaded. -/
def PlanMode.refines : PlanMode → Bool
  | .criticalInt8ThenFp16 => true
  | .fullFp16 => true
  | .criticalInt8Only => false
  | .recompute => false

/-- `a or b` on lists that may be missing. -/
def orList (a : Option (List ℤ)) (b : List ℤ) : List ℤ :=
  match a with
  | some (x :: xs) => x :: xs
  | _ => b

/-- `a or b` on strings that may be missing. -/
def orString (a : Option String) (b : String) : String :=
  match a with
  | some s => if s = "" then b else s
  | none => b

/-- The metadata made from a state's manifest and plan. -/
def metadataOf (st : RequestTransferState) (m : PrefixManifest) (plan : TransferPlan)
    (allocatedBlockIds : Option (List ℤ)) : DeadlineConnectorMetadata :=
  let needRefinement := plan.mode.refines && m.refinementObjectId.isSome
  { requestId := st.requestId
    prefixKey := some (orString st.prefixKey m.prefixKey)
    planMode := plan.mode
    matchedTokens := m.matchedTokens
    matchedBlocks := m.matchedBlocks
    numLayers := m.numLayers
    criticalObjectId := m.criticalObjectId
    criticalCodec := m.criticalCodec
    criticalNbytes := m.criticalNbytes
    refinementObjectId := if needRefinement then m.refinementObjectId else none
    refinementCodec := if needRefinement then m.refinementCodec else none
    refinementNbytes := if needRefinement then m.refinementNbytes else none
    needRefinement := needRefinement
    loadDeadlineMs := plan.criticalDeadlineMs
    allocatedBlockIds := orList allocatedBlockIds st.allocatedBlockIds
    loadFromTier := plan.loadFromTier }

/-- `build_metadata_from_state`. -/
def buildMetadataFromState (st : RequestTransferState) (allocatedBlockIds : Option (List ℤ) := none) :
    Option DeadlineConnectorMetadata :=
  match st.manifest, st.plan with
  | some m, some plan => some (metadataOf st m plan allocatedBlockIds)
  | _, _ => none

/-- `create_load_result`. -/
def createLoadResult (requestId : ReqId) (success : Bool) (criticalDone refinementDone : Bool := false)
    (loadedTokens loadedBlocks criticalBytes refinementBytes criticalLoadMs refinementLoadMs : ℤ := 0)
    (errorCode errorMessage : String := "") : WorkerLoadResult :=
  { requestId := requestId, success := success, loadedTokens := loadedTokens,
    loadedBlocks := loadedBlocks, criticalLoadDone := criticalDone,
    refinementLoadDone := refinementDone, criticalBytes := criticalBytes,
    refinementBytes := refinementBytes, criticalLoadMs := criticalLoadMs,
    refinementLoadMs := refinementLoadMs, errorCode := errorCode, errorMessage := errorMessage }

/-- `validate_metadata`. -/
def validateMetadata (md : DeadlineConnectorMetadata) : Bool × String :=
  if md.requestId = "" then (false, "request_id is required")
  else if md.prefixKey.getD "" = "" then (false, "prefix_key is required")
  else if md.matchedTokens ≤ 0 then (false, "matched_tokens must be positive")
  else if md.criticalObjectId = "" then (false, "critical_object_id is required")
  else if md.needRefinement ∧ md.refinementObjectId.getD "" = "" then
    (false, "refinement_object_id required when need_refinement=True")
  else (true, "")

/-- Metadata is valid when it has what the validation asks for. -/
theorem validateMetadata_iff {md : DeadlineConnectorMetadata} :
    validateMetadata md = (true, "") ↔ md.requestId ≠ "" ∧ md.prefixKey.getD "" ≠ "" ∧
      0 < md.matchedTokens ∧ md.criticalObjectId ≠ "" ∧
      (md.needRefinement = true → md.refinementObjectId.getD "" ≠ "") := by
  unfold validateMetadata
  split_ifs with hid hkey htok hobj href
  · simp [hid]
  · simp [hkey]
  · simp [not_lt.mpr htok]
  · simp [hobj]
  · simp [href]
  · rw [not_and] at href
    exact ⟨fun _ => ⟨hid, hkey, not_le.mp htok, hobj, href⟩, fun _ => rfl⟩

/-- Metadata is made exactly when manifest and plan are there. -/
theorem buildMetadataFromState_eq_some {st : RequestTransferState} {blocks : Option (List ℤ)}
    {md : DeadlineConnectorMetadata} :
    buildMetadataFromState st blocks = some md ↔
      ∃ m plan, st.manifest = some m ∧ st.plan = some plan ∧ md = metadataOf st m plan blocks := by
  unfold buildMetadataFromState
  cases hm : st.manifest with
  | none => simp
  | some m =>
    cases hp : st.plan with
    | none => simp
    | some plan => simp [eq_comm]

end AwareKV
