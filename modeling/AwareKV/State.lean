import AwareKV.Lib.Dict
import AwareKV.Types

/-!
# AwareKV.State — the request states of the scheduler side

Translation of `connector/state.py`.  `StateManager.get` returns a reference in the source, so an
assignment to an attribute of a state is an `update` of the entry here.
-/

namespace AwareKV

/-- `StateManager`. -/
structure StateManager where
  states : Dict ReqId RequestTransferState
  deriving DecidableEq

namespace StateManager

/-- `StateManager()`. -/
def new : StateManager := ⟨.empty⟩

/-- The state that `create_or_get` makes for a new request. -/
def fresh (rid : ReqId) : RequestTransferState := { requestId := rid, status := .init }

/-- `get`. -/
def get (sm : StateManager) (rid : ReqId) : Option RequestTransferState := sm.states.get? rid

/-- Store a state. -/
def put (sm : StateManager) (rid : ReqId) (st : RequestTransferState) : StateManager :=
  ⟨sm.states.insert rid st⟩

/-- Assign to attributes of a state, if the request has one. -/
def update (sm : StateManager) (rid : ReqId) (f : RequestTransferState → RequestTransferState) :
    StateManager := ⟨sm.states.modify rid f⟩

/-- `create_or_get`. -/
def createOrGet (sm : StateManager) (rid : ReqId) : StateManager :=
  if sm.states.contains rid then sm else sm.put rid (fresh rid)

/-- `mark_manifest_hit`. -/
def markManifestHit (sm : StateManager) (rid : ReqId) (m : PrefixManifest) : StateManager :=
  sm.update rid (fun st => { st with manifest := some m, status := .hitPlanned })

/-- `mark_manifest_miss`. -/
def markManifestMiss (sm : StateManager) (rid : ReqId) (reason : String) : StateManager :=
  sm.update rid (fun st => { st with status := .miss, fallbackReason := some reason })

/-- `set_plan`. -/
def setPlan (sm : StateManager) (rid : ReqId) (plan : TransferPlan) : StateManager :=
  sm.update rid (fun st => { st with plan := some plan })

/-- `set_allocated_blocks`. -/
def setAllocatedBlocks (sm : StateManager) (rid : ReqId) (blocks : List ℤ) : StateManager :=
  sm.update rid (fun st => { st with allocatedBlockIds := blocks })

/-- `set_connector_metadata`. -/
def setConnectorMetadata (sm : StateManager) (rid : ReqId) (md : DeadlineConnectorMetadata) : StateManager :=
  sm.update rid (fun st => { st with connectorMetadata := some md })

/-- `mark_load_started`. -/
def markLoadStarted (sm : StateManager) (rid : ReqId) : StateManager :=
  sm.update rid (fun st => { st with status := .criticalLoading })

/-- `mark_load_finished`.  The attribute is not the declared `critical_done`. -/
def markLoadFinished (sm : StateManager) (rid : ReqId) (success : Bool) : StateManager :=
  sm.update rid (fun st =>
    if success then { st with criticalLoadDone := some true, status := .criticalReady }
    else { st with status := .failed })

/-- `mark_load_failed`. -/
def markLoadFailed (sm : StateManager) (rid : ReqId) (errorMessage : String) : StateManager :=
  sm.update rid (fun st => { st with status := .failed, fallbackReason := some errorMessage })

/-- `mark_save_started` writes to the log only. -/
def markSaveStarted (sm : StateManager) (_rid : ReqId) : StateManager := sm

/-- `mark_save_finished` writes to the log only. -/
def markSaveFinished (sm : StateManager) (_rid : ReqId) (_success : Bool) : StateManager := sm

/-- `mark_save_failed` writes to the log only. -/
def markSaveFailed (sm : StateManager) (_rid : ReqId) (_errorMessage : String) : StateManager := sm

/-- `mark_refine_started`. -/
def markRefineStarted (sm : StateManager) (rid : ReqId) : StateManager :=
  sm.update rid (fun st => { st with status := .refining })

/-- `mark_refine_finished`.  The attribute is not the declared `refinement_done`. -/
def markRefineFinished (sm : StateManager) (rid : ReqId) : StateManager :=
  sm.update rid (fun st => { st with refinementLoadDone := some true })

/-- `mark_refine_dropped` writes to the log only. -/
def markRefineDropped (sm : StateManager) (_rid : ReqId) (_reason : String) : StateManager := sm

/-- `mark_done`. -/
def markDone (sm : StateManager) (rid : ReqId) : StateManager :=
  sm.update rid (fun st => { st with status := .done, requestFinished := true })

/-- `mark_recompute`.  The status is `MISS`, not `RECOMPUTE`. -/
def markRecompute (sm : StateManager) (rid : ReqId) (reason : String) : StateManager :=
  sm.update rid (fun st => { st with status := .miss, fallbackReason := some reason })

/-- `update_status`. -/
def updateStatus (sm : StateManager) (rid : ReqId) (status : Status) : StateManager :=
  sm.update rid (fun st => { st with status := status })

/-- `remove`. -/
def remove (sm : StateManager) (rid : ReqId) : StateManager := ⟨sm.states.erase rid⟩

/-- `get_all_request_ids`. -/
def getAllRequestIds (sm : StateManager) : List ReqId := sm.states.keys

/-- `get_stats`. -/
def getStats (sm : StateManager) : Dict Status ℕ :=
  (sm.states.entries.map Prod.snd).foldl
    (fun stats st => stats.insert st.status ((stats.get? st.status).getD 0 + 1)) .empty

/-- `gc_finished`.  The age is not looked at. -/
def gcFinished (sm : StateManager) (_maxAgeSeconds : ℚ := 300) : StateManager :=
  let toRemove := (sm.states.entries.filter (fun e => e.2.requestFinished)).map Prod.fst
  ⟨toRemove.foldl Dict.erase sm.states⟩

/-! ### Lookups -/

@[simp] theorem get_new (rid : ReqId) : new.get rid = none := rfl

@[simp] theorem get_put (sm : StateManager) (rid q : ReqId) (st : RequestTransferState) :
    (sm.put rid st).get q = if q = rid then some st else sm.get q :=
  sm.states.get?_insert rid q st

theorem get_put_self (sm : StateManager) (rid : ReqId) (st : RequestTransferState) :
    (sm.put rid st).get rid = some st := by
  rw [get_put, if_pos rfl]

/-- What is asked of the state of a request that has just been put. -/
theorem forall_get_put {sm : StateManager} {rid : ReqId} {st : RequestTransferState}
    {Q : RequestTransferState → Prop} : (∀ u, (sm.put rid st).get rid = some u → Q u) ↔ Q st := by
  simp only [get_put_self, Option.some.injEq, forall_eq']

@[simp] theorem get_update (sm : StateManager) (rid q : ReqId)
    (f : RequestTransferState → RequestTransferState) :
    (sm.update rid f).get q = if q = rid then (sm.get rid).map f else sm.get q :=
  sm.states.get?_modify rid q f

/-- After an update a request has its changed state, and any other its old one. -/
theorem get_update_eq_some {sm : StateManager} {rid q : ReqId} {u : RequestTransferState}
    {f : RequestTransferState → RequestTransferState} :
    (sm.update rid f).get q = some u ↔
      (q = rid ∧ ∃ st, sm.get rid = some st ∧ f st = u) ∨ (q ≠ rid ∧ sm.get q = some u) := by
  rw [get_update]
  split_ifs with hq
  · simp [hq]
  · simp [hq]

/-- `gc_finished` removes exactly the states that are marked finished. -/
@[simp] theorem get_gcFinished (sm : StateManager) (age : ℚ) (rid : ReqId) :
    (sm.gcFinished age).get rid = (sm.get rid).filter (fun st => !st.requestFinished) := by
  have hmem : rid ∈ (sm.states.entries.filter (fun e => e.2.requestFinished)).map Prod.fst ↔
      ∃ st, sm.states.get? rid = some st ∧ st.requestFinished = true := by
    rw [List.mem_map]
    constructor
    · rintro ⟨⟨q, st⟩, he, rfl⟩
      obtain ⟨hin, hfin⟩ := List.mem_filter.mp he
      exact ⟨st, Dict.get?_eq_some_iff.mpr hin, hfin⟩
    · rintro ⟨st, hst, hfin⟩
      exact ⟨(rid, st), List.mem_filter.mpr ⟨Dict.get?_eq_some_iff.mp hst, hfin⟩, rfl⟩
  show (List.foldl Dict.erase sm.states _).get? rid = (sm.states.get? rid).filter _
  rw [Dict.get?_foldl_erase]
  simp only [hmem]
  cases hst : sm.states.get? rid with
  | none => simp
  | some st => cases hfin : st.requestFinished <;> simp [hfin, Option.filter]

/-- Updating a state that was just stored is storing the updated state. -/
@[simp] theorem update_put (sm : StateManager) (rid : ReqId) (st : RequestTransferState)
    (f : RequestTransferState → RequestTransferState) : (sm.put rid st).update rid f = sm.put rid (f st) :=
  congrArg mk (sm.states.modify_insert rid st f)

/-- `create_or_get` leaves the request with its old state, or a fresh one. -/
theorem createOrGet_eq (sm : StateManager) (rid : ReqId) :
    sm.createOrGet rid = sm.put rid ((sm.get rid).getD (fresh rid)) := by
  unfold createOrGet Dict.contains get put
  cases h : sm.states.get? rid with
  | none => rfl
  | some st => exact (congrArg mk (Dict.insert_of_get? h)).symm

end StateManager

end AwareKV
