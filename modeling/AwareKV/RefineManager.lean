import AwareKV.Lib.Dict
import AwareKV.Lib.Register
import AwareKV.Lib.Tensor
import AwareKV.Types

/-!
# AwareKV.RefineManager — refinements that wait for their requests

Translation of `connector/refine_manager.py`.  Every call comes with the time that it reads.  For one
request the manager is a register that `add_pending` sets, `get_pending` takes, and the other calls end:
`get?_exec`, `deliveredTo_eq`.

* `refinement_delivered`: what `get_pending` answers after any run, and that no refinement is answered twice.
-/

namespace AwareKV

variable {β : Type}

/-- An entry of `pending_refinements`. -/
structure RefinementData (β : Type) where
  refinedKv : Option (Tensor β)
  metadata : Option DeadlineConnectorMetadata := none
  timestamp : ℚ

/-- `RefineManager`. -/
structure RefineManager (β : Type) where
  pendingRefinements : Dict ReqId (RefinementData β) := .empty

namespace RefineManager

variable (rm : RefineManager β)

/-- `add_pending`. -/
def addPending (rid : ReqId) (refinedKv : Option (Tensor β)) (metadata : Option DeadlineConnectorMetadata)
    (now : ℚ) : RefineManager β :=
  ⟨rm.pendingRefinements.insert rid ⟨refinedKv, metadata, now⟩⟩

/-- `get_pending`. -/
def getPending (rid : ReqId) : RefineManager β × Option (RefinementData β) :=
  (⟨rm.pendingRefinements.erase rid⟩, rm.pendingRefinements.get? rid)

/-- `has_pending`. -/
def hasPending (rid : ReqId) : Bool := rm.pendingRefinements.contains rid

/-- `clear_pending`. -/
def clearPending (rid : ReqId) : RefineManager β :=
  if rm.pendingRefinements.contains rid then ⟨rm.pendingRefinements.erase rid⟩ else rm

/-- `clear_all`. -/
def clearAll (_rm : RefineManager β) : RefineManager β := ⟨.empty⟩

/-- `get_all_pending_requests`. -/
def getAllPendingRequests : List ReqId := rm.pendingRefinements.keys

/-- `stale_requests`. -/
def staleRequests (maxAgeSeconds now : ℚ) : List ReqId :=
  (rm.pendingRefinements.entries.filter (fun e => now - e.2.timestamp > maxAgeSeconds)).map Prod.fst

/-- `cleanup_stale`. -/
def cleanupStale (maxAgeSeconds now : ℚ) : RefineManager β :=
  ⟨(rm.staleRequests maxAgeSeconds now).foldl Dict.erase rm.pendingRefinements⟩

end RefineManager

/-! ## Runs -/

/-- The calls on a manager. -/
inductive RefineOp (β : Type)
  | addPending (rid : ReqId) (refinedKv : Option (Tensor β)) (metadata : Option DeadlineConnectorMetadata)
  | getPending (rid : ReqId)
  | hasPending (rid : ReqId)
  | clearPending (rid : ReqId)
  | clearAll
  | getAllPendingRequests
  | cleanupStale (maxAgeSeconds : ℚ)

/-- A call and the time that it reads. -/
structure RefineCall (β : Type) where
  now : ℚ
  op : RefineOp β

/-- The answers to the calls. -/
inductive RefineAnswer (β : Type)
  | done
  | data (d : Option (RefinementData β))
  | flag (b : Bool)
  | requests (rids : List ReqId)

/-- The manager as a machine. -/
def refineMachine (β : Type) : Machine (RefineManager β) (RefineCall β) (RefineAnswer β) where
  init := {}
  step rm call :=
    match call.op with
    | .addPending rid refinedKv metadata => (rm.addPending rid refinedKv metadata call.now, .done)
    | .getPending rid => ((rm.getPending rid).1, .data (rm.getPending rid).2)
    | .hasPending rid => (rm, .flag (rm.hasPending rid))
    | .clearPending rid => (rm.clearPending rid, .done)
    | .clearAll => (rm.clearAll, .done)
    | .getAllPendingRequests => (rm, .requests rm.getAllPendingRequests)
    | .cleanupStale maxAgeSeconds => (rm.cleanupStale maxAgeSeconds call.now, .done)

namespace RefineCall

/-- What the call adds for a request. -/
def adds (rid : ReqId) (call : RefineCall β) : Option (RefinementData β) :=
  match call.op with
  | .addPending q refinedKv metadata => if q = rid then some ⟨refinedKv, metadata, call.now⟩ else none
  | _ => none

/-- The call asks for the refinement of the request. -/
def gets (rid : ReqId) (call : RefineCall β) : Bool :=
  match call.op with
  | .getPending q => q = rid
  | _ => false

/-- The call removes the data `d` of the request. -/
def removes (rid : ReqId) (d : RefinementData β) (call : RefineCall β) : Bool :=
  match call.op with
  | .getPending q => q = rid
  | .clearPending q => q = rid
  | .clearAll => true
  | .cleanupStale maxAgeSeconds => call.now - d.timestamp > maxAgeSeconds
  | _ => false

end RefineCall

/-- The register of one request. -/
def refineRegister (β : Type) (rid : ReqId) : Register (RefineCall β) (RefinementData β) where
  sets := RefineCall.adds rid
  ends := RefineCall.removes rid
  takes := RefineCall.gets rid
  ends_of_takes d := by
    rintro ⟨now, op⟩ h
    cases op with
    | getPending q => exact h
    | addPending | hasPending | clearPending | clearAll | getAllPendingRequests | cleanupStale => cases h
  sets_of_takes := by
    rintro ⟨now, op⟩ h
    cases op with
    | getPending q => rfl
    | addPending | hasPending | clearPending | clearAll | getAllPendingRequests | cleanupStale => cases h

/-- What the answers of a run give to a request. -/
def deliveredTo (rid : ReqId) (trace : List (RefineCall β × RefineAnswer β)) : List (RefinementData β) :=
  trace.filterMap fun
    | (⟨_, .getPending q⟩, .data d) => if q = rid then d else none
    | _ => none

/-- What the calls of a run add for a request. -/
def addedFor (rid : ReqId) (calls : List (RefineCall β)) : List (RefinementData β) :=
  calls.filterMap (RefineCall.adds rid)

namespace RefineManager

variable {rm : RefineManager β}

/-- Cleaning up removes what is too old. -/
theorem get?_cleanupStale (rm : RefineManager β) (maxAgeSeconds now : ℚ) (rid : ReqId) :
    (rm.cleanupStale maxAgeSeconds now).pendingRefinements.get? rid =
      (rm.pendingRefinements.get? rid).filter (fun d => !decide (now - d.timestamp > maxAgeSeconds)) := by
  have hstale : rid ∈ rm.staleRequests maxAgeSeconds now ↔
      ∃ d, rm.pendingRefinements.get? rid = some d ∧ now - d.timestamp > maxAgeSeconds := by
    simp only [staleRequests, List.mem_map, List.mem_filter, Dict.get?_eq_some_iff]
    constructor
    · rintro ⟨⟨q, d⟩, ⟨hmem, hage⟩, rfl⟩
      exact ⟨d, hmem, by simpa using hage⟩
    · rintro ⟨d, hmem, hage⟩
      exact ⟨(rid, d), ⟨hmem, by simpa using hage⟩, rfl⟩
  rw [cleanupStale, Dict.get?_foldl_erase]
  cases hd : rm.pendingRefinements.get? rid with
  | none => simp
  | some d =>
    rw [hd] at hstale
    by_cases hage : now - d.timestamp > maxAgeSeconds
    · rw [if_pos (hstale.mpr ⟨d, rfl, hage⟩)]
      simp [Option.filter, hage]
    · rw [if_neg (by simpa [hstale] using hage)]
      simp [Option.filter, hage]

theorem get?_clearPending (rm : RefineManager β) (q rid : ReqId) :
    (rm.clearPending q).pendingRefinements.get? rid =
      if q = rid then none else rm.pendingRefinements.get? rid := by
  unfold clearPending
  split_ifs with hin hq hq
  · simp [hq]
  · simp [Ne.symm hq]
  · subst hq
    simpa [Dict.contains] using hin
  · rfl

/-- **One call, for one request**: it does what it does to the register. -/
theorem get?_step (rm : RefineManager β) (call : RefineCall β) (rid : ReqId) :
    ((refineMachine β).step rm call).1.pendingRefinements.get? rid =
      ((refineRegister β rid).machine.step (rm.pendingRefinements.get? rid) call).1 := by
  obtain ⟨now, op⟩ := call
  cases op with
  | addPending q refinedKv metadata =>
    show (rm.pendingRefinements.insert q _).get? rid = _
    rw [Dict.get?_insert]
    by_cases hq : q = rid
    · rw [if_pos hq.symm, Register.step_set (if_pos hq)]
    · rw [if_neg (Ne.symm hq), Register.step_kept (if_neg hq) fun _ => rfl]
  | getPending q =>
    show (rm.pendingRefinements.erase q).get? rid = _
    rw [Dict.get?_erase]
    by_cases hq : q = rid
    · rw [if_pos hq.symm, Register.step_ended rfl fun _ => decide_eq_true hq]
    · rw [if_neg (Ne.symm hq), Register.step_kept rfl fun _ => decide_eq_false hq]
  | clearPending q =>
    show (rm.clearPending q).pendingRefinements.get? rid = _
    rw [get?_clearPending]
    by_cases hq : q = rid
    · rw [if_pos hq, Register.step_ended rfl fun _ => decide_eq_true hq]
    · rw [if_neg hq, Register.step_kept rfl fun _ => decide_eq_false hq]
  | clearAll => exact (Register.step_ended rfl (fun _ => rfl) _).symm
  | cleanupStale maxAgeSeconds => exact get?_cleanupStale rm maxAgeSeconds now rid
  | hasPending q => exact (Register.step_kept rfl (fun _ => rfl) _).symm
  | getAllPendingRequests => exact (Register.step_kept rfl (fun _ => rfl) _).symm

/-- **A run, for one request.** -/
theorem get?_exec (calls : List (RefineCall β)) (rid : ReqId) :
    ((refineMachine β).exec calls).pendingRefinements.get? rid = (refineRegister β rid).machine.exec calls := by
  induction calls using List.reverseRecOn with
  | nil => rfl
  | append_singleton calls call ih => rw [Machine.exec_snoc, Machine.exec_snoc, get?_step, ih]

/-- What the request is given is what is taken from its register. -/
theorem deliveredTo_eq (calls : List (RefineCall β)) (rid : ReqId) :
    deliveredTo rid ((refineMachine β).trace calls) = (refineRegister β rid).takenBy calls := by
  induction calls using List.reverseRecOn with
  | nil => rfl
  | append_singleton calls call ih =>
    obtain ⟨now, op⟩ := call
    rw [Machine.trace_snoc, deliveredTo, List.filterMap_append, ← deliveredTo, ih, Register.takenBy_snoc]
    congr 1
    cases op with
    | getPending q =>
      have hanswer : (refineMachine β).answer calls ⟨now, .getPending q⟩ =
          .data (((refineMachine β).exec calls).pendingRefinements.get? q) := rfl
      rw [hanswer, get?_exec]
      by_cases hq : q = rid
      · subst hq
        cases hd : (refineRegister β q).machine.exec calls <;> simp [refineRegister, RefineCall.gets]
      · simp [refineRegister, RefineCall.gets, hq]
    | addPending | hasPending | clearPending | clearAll | getAllPendingRequests | cleanupStale => rfl

end RefineManager

/-- **Refinements are delivered at most once**: after any run, `get_pending` answers with the data of the
latest `add_pending` of the request if no call has removed it since, and with `None` otherwise; and what is
answered to a request over the run are some of the refinements added for it, in their order, each once. -/
theorem refinement_delivered (calls : List (RefineCall β)) (rid : ReqId) :
    (∃ answer : Option (RefinementData β),
      (∀ now, (refineMachine β).answer calls ⟨now, .getPending rid⟩ = .data answer) ∧
        ∀ d, answer = some d ↔ ∃ pre call post, calls = pre ++ call :: post ∧ call.adds rid = some d ∧
          ∀ later ∈ post, later.adds rid = none ∧ later.removes rid d = false) ∧
      (deliveredTo rid ((refineMachine β).trace calls)).Sublist (addedFor rid calls) := by
  refine ⟨⟨((refineMachine β).exec calls).pendingRefinements.get? rid, fun now => rfl, fun d => ?_⟩, ?_⟩
  · rw [RefineManager.get?_exec]
    exact Register.exec_eq_some_iff
  · rw [RefineManager.deliveredTo_eq]
    exact (List.sublist_append_left _ _).trans (Register.taken_sublist calls)

end AwareKV
