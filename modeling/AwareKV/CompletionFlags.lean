import AwareKV.Lib.Machine
import AwareKV.State

/-!
# AwareKV.CompletionFlags — what the request states say about finished loads

All calls of a `StateManager` in any order.  `mark_load_finished` and `mark_refine_finished` assign to
`critical_load_done` and `refinement_load_done`, which `RequestTransferState` does not declare; the
declared `critical_done` and `refinement_done` keep their default.

* `recorded_exec`: in every run, the undeclared attributes say what has finished.
* `completion_flags_iff`: the declared ones do exactly as long as nothing has finished.
-/

namespace AwareKV

/-! ## The calls -/

/-- The calls of a state manager. -/
inductive StateOp
  | createOrGet (rid : ReqId)
  | get (rid : ReqId)
  | put (rid : ReqId) (st : RequestTransferState)
  | markManifestHit (rid : ReqId) (m : PrefixManifest)
  | markManifestMiss (rid : ReqId) (reason : String)
  | setPlan (rid : ReqId) (plan : TransferPlan)
  | setAllocatedBlocks (rid : ReqId) (blocks : List ℤ)
  | setConnectorMetadata (rid : ReqId) (md : DeadlineConnectorMetadata)
  | markLoadStarted (rid : ReqId)
  | markLoadFinished (rid : ReqId) (success : Bool)
  | markLoadFailed (rid : ReqId) (errorMessage : String)
  | markSaveStarted (rid : ReqId)
  | markSaveFinished (rid : ReqId) (success : Bool)
  | markSaveFailed (rid : ReqId) (errorMessage : String)
  | markRefineStarted (rid : ReqId)
  | markRefineFinished (rid : ReqId)
  | markRefineDropped (rid : ReqId) (reason : String)
  | markDone (rid : ReqId)
  | markRecompute (rid : ReqId) (reason : String)
  | updateStatus (rid : ReqId) (status : Status)
  | remove (rid : ReqId)
  | gcFinished (maxAgeSeconds : ℚ)
  | getAllRequestIds
  | getStats
  deriving DecidableEq

/-- What a call returns. -/
inductive StateAnswer
  | none
  | state (st : Option RequestTransferState)
  | ids (rids : List ReqId)
  | stats (counts : Dict Status ℕ)

/-- The state manager as a machine. -/
def stateMachine : Machine StateManager StateOp StateAnswer where
  init := .new
  step sm
    | .createOrGet rid => (sm.createOrGet rid, .state ((sm.createOrGet rid).get rid))
    | .get rid => (sm, .state (sm.get rid))
    | .put rid st => (sm.put rid st, .none)
    | .markManifestHit rid m => (sm.markManifestHit rid m, .none)
    | .markManifestMiss rid reason => (sm.markManifestMiss rid reason, .none)
    | .setPlan rid plan => (sm.setPlan rid plan, .none)
    | .setAllocatedBlocks rid blocks => (sm.setAllocatedBlocks rid blocks, .none)
    | .setConnectorMetadata rid md => (sm.setConnectorMetadata rid md, .none)
    | .markLoadStarted rid => (sm.markLoadStarted rid, .none)
    | .markLoadFinished rid success => (sm.markLoadFinished rid success, .none)
    | .markLoadFailed rid errorMessage => (sm.markLoadFailed rid errorMessage, .none)
    | .markSaveStarted rid => (sm.markSaveStarted rid, .none)
    | .markSaveFinished rid success => (sm.markSaveFinished rid success, .none)
    | .markSaveFailed rid errorMessage => (sm.markSaveFailed rid errorMessage, .none)
    | .markRefineStarted rid => (sm.markRefineStarted rid, .none)
    | .markRefineFinished rid => (sm.markRefineFinished rid, .none)
    | .markRefineDropped rid reason => (sm.markRefineDropped rid reason, .none)
    | .markDone rid => (sm.markDone rid, .none)
    | .markRecompute rid reason => (sm.markRecompute rid reason, .none)
    | .updateStatus rid status => (sm.updateStatus rid status, .none)
    | .remove rid => (sm.remove rid, .none)
    | .gcFinished maxAgeSeconds => (sm.gcFinished maxAgeSeconds, .none)
    | .getAllRequestIds => (sm, .ids sm.getAllRequestIds)
    | .getStats => (sm, .stats sm.getStats)

/-- Neither `put` nor `remove` nor `gc_finished`. -/
def StateOp.lasting : StateOp → Bool
  | .put _ _ | .remove _ | .gcFinished _ => false
  | _ => true

/-! ## What a call does to a state -/

/-- The four attributes about finished loads are the same. -/
structure SameFlags (st st' : RequestTransferState) : Prop where
  criticalDone : st'.criticalDone = st.criticalDone
  refinementDone : st'.refinementDone = st.refinementDone
  criticalLoadDone : st'.criticalLoadDone = st.criticalLoadDone
  refinementLoadDone : st'.refinementLoadDone = st.refinementLoadDone

theorem SameFlags.refl (st : RequestTransferState) : SameFlags st st := ⟨rfl, rfl, rfl, rfl⟩

/-- What a call does to the state of `q`, seen from these attributes. -/
inductive Touches (q : ReqId) : StateOp → (RequestTransferState → RequestTransferState) → Prop
  | loaded : Touches q (.markLoadFinished q true)
      (fun st => { st with criticalLoadDone := some true, status := .criticalReady })
  | refined : Touches q (.markRefineFinished q) (fun st => { st with refinementLoadDone := some true })
  | other {op : StateOp} {f : RequestTransferState → RequestTransferState}
      (hl : op ≠ .markLoadFinished q true) (hr : op ≠ .markRefineFinished q)
      (hf : ∀ st, SameFlags st (f st)) : Touches q op f

namespace Touches

variable {q : ReqId} {op : StateOp} {f : RequestTransferState → RequestTransferState}

/-- No call assigns to the declared attributes. -/
theorem declared (h : Touches q op f) (st : RequestTransferState) :
    (f st).criticalDone = st.criticalDone ∧ (f st).refinementDone = st.refinementDone := by
  cases h with
  | loaded => exact ⟨rfl, rfl⟩
  | refined => exact ⟨rfl, rfl⟩
  | other _ _ hf => exact ⟨(hf st).criticalDone, (hf st).refinementDone⟩

theorem criticalLoadDone (h : Touches q op f) (st : RequestTransferState) :
    (f st).criticalLoadDone = if .markLoadFinished q true = op then some true else st.criticalLoadDone := by
  cases h with
  | loaded => rw [if_pos rfl]
  | refined => rw [if_neg (by simp)]
  | other hl _ hf => rw [if_neg hl.symm, (hf st).criticalLoadDone]

theorem refinementLoadDone (h : Touches q op f) (st : RequestTransferState) :
    (f st).refinementLoadDone = if .markRefineFinished q = op then some true else st.refinementLoadDone := by
  cases h with
  | loaded => rw [if_neg (by simp)]
  | refined => rw [if_pos rfl]
  | other _ hr hf => rw [if_neg hr.symm, (hf st).refinementLoadDone]

end Touches

/-- What a call does to the entry of `q`: it creates the state, or it touches the one that is there. -/
inductive Entry (q : ReqId) (op : StateOp) (before after : Option RequestTransferState) : Prop
  | created (hop : op = .createOrGet q) (hb : before = none)
      (ha : after = some (StateManager.fresh q))
  | touched (hold : op = .createOrGet q → before ≠ none)
      (f : RequestTransferState → RequestTransferState) (hf : Touches q op f) (ha : after = before.map f)

section Entries

variable {q : ReqId} {op : StateOp}

/-- A call that only reads, or only writes to the log. -/
theorem entry_same {entry : Option RequestTransferState} (hold : op = .createOrGet q → entry ≠ none)
    (hl : op ≠ .markLoadFinished q true) (hr : op ≠ .markRefineFinished q) : Entry q op entry entry :=
  .touched hold id (.other hl hr SameFlags.refl) (Option.map_id_apply).symm

/-- A call that updates other attributes. -/
theorem entry_update (hc : op ≠ .createOrGet q) (hl : op ≠ .markLoadFinished q true)
    (hr : op ≠ .markRefineFinished q) (sm : StateManager) (rid : ReqId)
    {f : RequestTransferState → RequestTransferState} (hf : ∀ st, SameFlags st (f st)) : Entry q op (sm.get q) ((sm.update rid f).get q) := by
  rw [StateManager.get_update]
  split_ifs with hq
  · subst hq
    exact .touched (fun h => absurd h hc) f (.other hl hr hf) rfl
  · exact entry_same (fun h => absurd h hc) hl hr

/-- A call about another request. -/
theorem entry_elsewhere {rid : ReqId} (hq : q ≠ rid) (hc : op ≠ .createOrGet q)
    (hl : op ≠ .markLoadFinished q true) (hr : op ≠ .markRefineFinished q) (sm : StateManager)
    (f : RequestTransferState → RequestTransferState) :
    Entry q op (sm.get q) ((sm.update rid f).get q) := by
  rw [StateManager.get_update, if_neg hq]
  exact entry_same (fun h => absurd h hc) hl hr

/-- **Step lemma**: what any lasting call does. -/
theorem entry_step (sm : StateManager) {op : StateOp} (hop : op.lasting = true) (q : ReqId) :
    Entry q op (sm.get q) ((stateMachine.step sm op).1.get q) := by
  cases op with
  | put rid st => cases hop
  | remove rid => cases hop
  | gcFinished maxAgeSeconds => cases hop
  | createOrGet rid =>
    show Entry q _ (sm.get q) ((sm.createOrGet rid).get q)
    rw [StateManager.createOrGet_eq, StateManager.get_put]
    split_ifs with hq
    · subst hq
      cases hst : sm.get q with
      | none => exact .created rfl rfl rfl
      | some st => exact entry_same (by simp) (by simp) (by simp)
    · exact entry_same (by simp [Ne.symm hq]) (by simp) (by simp)
  | markLoadFinished rid success =>
    show Entry q _ (sm.get q) ((sm.markLoadFinished rid success).get q)
    by_cases hq : q = rid
    · subst hq
      cases success with
      | true =>
        refine .touched (by simp) _ .loaded ?_
        simp [StateManager.markLoadFinished]
      | false => exact entry_update (by simp) (by simp) (by simp) sm q fun st => ⟨rfl, rfl, rfl, rfl⟩
    · exact entry_elsewhere hq (by simp) (by simp [Ne.symm hq]) (by simp) sm _
  | markRefineFinished rid =>
    show Entry q _ (sm.get q) ((sm.markRefineFinished rid).get q)
    by_cases hq : q = rid
    · subst hq
      refine .touched (by simp) _ .refined ?_
      simp [StateManager.markRefineFinished]
    · exact entry_elsewhere hq (by simp) (by simp) (by simp [Ne.symm hq]) sm _
  | get _ | markSaveStarted _ | markSaveFinished _ _ | markSaveFailed _ _ | markRefineDropped _ _
  | getAllRequestIds | getStats => exact entry_same (by simp) (by simp) (by simp)
  | markManifestHit rid _ | markManifestMiss rid _ | setPlan rid _ | setAllocatedBlocks rid _
  | setConnectorMetadata rid _ | markLoadStarted rid | markLoadFailed rid _ | markRefineStarted rid
  | markDone rid | markRecompute rid _ | updateStatus rid _ =>
    exact entry_update (by simp) (by simp) (by simp) sm rid fun st => ⟨rfl, rfl, rfl, rfl⟩

end Entries

/-! ## Histories -/

/-- The calls `after` are those since `create_or_get` made the state of the request. -/
def SinceCreation (rid : ReqId) (ops after : List StateOp) : Prop :=
  ∃ before, ops = before ++ .createOrGet rid :: after ∧ (stateMachine.exec before).get rid = none

/-- The call was made since the state of the request was created. -/
def AppliedSince (rid : ReqId) (call : StateOp) (ops : List StateOp) : Prop :=
  ∃ after, SinceCreation rid ops after ∧ call ∈ after

theorem appliedSince_snoc {rid : ReqId} {call op : StateOp} {ops : List StateOp} :
    AppliedSince rid call (ops ++ [op]) ↔
      AppliedSince rid call ops ∨ call = op ∧ ∃ after, SinceCreation rid ops after := by
  constructor
  · rintro ⟨after, ⟨before, hops, hnone⟩, hcall⟩
    rcases snoc_eq_append_cons.mp hops with ⟨rfl, -, -⟩ | ⟨after', rfl, hops'⟩
    · exact absurd hcall List.not_mem_nil
    · rcases List.mem_append.mp hcall with hin | hin
      · exact Or.inl ⟨after', ⟨before, hops', hnone⟩, hin⟩
      · exact Or.inr ⟨List.mem_singleton.mp hin, after', before, hops', hnone⟩
  · have hextend : ∀ {after}, SinceCreation rid ops after →
        SinceCreation rid (ops ++ [op]) (after ++ [op]) := by
      rintro after ⟨before, hops, hnone⟩
      exact ⟨before, by simp [hops], hnone⟩
    rintro (⟨after, hsince, hcall⟩ | ⟨rfl, after, hsince⟩)
    · exact ⟨after ++ [op], hextend hsince, List.mem_append_left _ hcall⟩
    · exact ⟨after ++ [call], hextend hsince, by simp⟩

theorem sinceCreation_snoc {rid : ReqId} {op : StateOp} {ops : List StateOp} :
    (∃ after, SinceCreation rid (ops ++ [op]) after) ↔
      (∃ after, SinceCreation rid ops after) ∨
        op = .createOrGet rid ∧ (stateMachine.exec ops).get rid = none := by
  constructor
  · rintro ⟨after, before, hops, hnone⟩
    rcases snoc_eq_append_cons.mp hops with ⟨-, rfl, rfl⟩ | ⟨after', -, hops'⟩
    · exact Or.inr ⟨rfl, hnone⟩
    · exact Or.inl ⟨after', before, hops', hnone⟩
  · rintro (⟨after, before, hops, hnone⟩ | ⟨rfl, hnone⟩)
    · exact ⟨after ++ [op], before, by simp [hops], hnone⟩
    · exact ⟨[], ops, rfl, hnone⟩

/-- What the history says about the entry of a request. -/
structure Recorded (rid : ReqId) (ops : List StateOp) : Prop where
  exists_iff : (stateMachine.exec ops).get rid ≠ none ↔ ∃ after, SinceCreation rid ops after
  criticalDone : ∀ st, (stateMachine.exec ops).get rid = some st → st.criticalDone = false
  refinementDone : ∀ st, (stateMachine.exec ops).get rid = some st → st.refinementDone = false
  criticalLoadDone : ∀ st, (stateMachine.exec ops).get rid = some st →
    (st.criticalLoadDone = some true ↔ AppliedSince rid (.markLoadFinished rid true) ops)
  refinementLoadDone : ∀ st, (stateMachine.exec ops).get rid = some st →
    (st.refinementLoadDone = some true ↔ AppliedSince rid (.markRefineFinished rid) ops)

/-- Where there is no state, nothing was applied to it. -/
theorem Recorded.not_applied {rid : ReqId} {ops : List StateOp} (h : Recorded rid ops)
    (hnone : (stateMachine.exec ops).get rid = none) (call : StateOp) : ¬ AppliedSince rid call ops := by
  rintro ⟨after, hsince, -⟩
  exact h.exists_iff.mpr ⟨after, hsince⟩ hnone

/-- A state that was just created has nothing applied to it. -/
theorem Recorded.create {rid : ReqId} {ops : List StateOp} (h : Recorded rid ops)
    (hb : (stateMachine.exec ops).get rid = none)
    (ha : (stateMachine.exec (ops ++ [.createOrGet rid])).get rid = some (StateManager.fresh rid)) :
    Recorded rid (ops ++ [.createOrGet rid]) := by
  have hnone : ∀ call, ¬ AppliedSince rid call (ops ++ [.createOrGet rid]) := by
    intro call happlied
    rcases appliedSince_snoc.mp happlied with hold | ⟨-, hsince⟩
    · exact h.not_applied hb call hold
    · exact h.exists_iff.mpr hsince hb
  constructor
  · rw [ha, sinceCreation_snoc]
    exact iff_of_true (by simp) (Or.inr ⟨rfl, hb⟩)
  all_goals
    intro st hst
    rw [ha] at hst
    cases hst
  · rfl
  · rfl
  · exact iff_of_false (by simp [StateManager.fresh]) (hnone _)
  · exact iff_of_false (by simp [StateManager.fresh]) (hnone _)

/-- Only the two calls about finished loads change the four attributes. -/
theorem Recorded.touch {rid : ReqId} {ops : List StateOp} (h : Recorded rid ops) {op : StateOp}
    (hold : op = .createOrGet rid → (stateMachine.exec ops).get rid ≠ none)
    {f : RequestTransferState → RequestTransferState} (hf : Touches rid op f)
    (ha : (stateMachine.exec (ops ++ [op])).get rid = ((stateMachine.exec ops).get rid).map f) :
    Recorded rid (ops ++ [op]) := by
  have hexists : (stateMachine.exec (ops ++ [op])).get rid ≠ none ↔
      ∃ after, SinceCreation rid (ops ++ [op]) after := by
    rw [ha, sinceCreation_snoc, ← h.exists_iff, ne_eq, Option.map_eq_none_iff]
    exact ⟨Or.inl, fun hor => hor.elim id fun hc => absurd hc.2 (hold hc.1)⟩
  have happlied : ∀ {st}, (stateMachine.exec ops).get rid = some st → ∀ call,
      (AppliedSince rid call (ops ++ [op]) ↔ AppliedSince rid call ops ∨ call = op) := by
    intro st hst call
    rw [appliedSince_snoc, and_iff_left (h.exists_iff.mp (by simp [hst]))]
  have hback : ∀ st', (stateMachine.exec (ops ++ [op])).get rid = some st' →
      ∃ st, (stateMachine.exec ops).get rid = some st ∧ f st = st' := by
    intro st' hst'
    rw [ha] at hst'
    exact Option.map_eq_some_iff.mp hst'
  refine ⟨hexists, fun st' hst' => ?_, fun st' hst' => ?_, fun st' hst' => ?_, fun st' hst' => ?_⟩
  all_goals obtain ⟨st, hst, rfl⟩ := hback st' hst'
  · exact (hf.declared st).1.trans (h.criticalDone st hst)
  · exact (hf.declared st).2.trans (h.refinementDone st hst)
  · rw [hf.criticalLoadDone, happlied hst, ← h.criticalLoadDone st hst]
    split_ifs with hop
    · exact iff_of_true rfl (Or.inr hop)
    · exact (or_iff_left hop).symm
  · rw [hf.refinementLoadDone, happlied hst, ← h.refinementLoadDone st hst]
    split_ifs with hop
    · exact iff_of_true rfl (Or.inr hop)
    · exact (or_iff_left hop).symm

/-- **Run lemma**: in every run without `put` and removals, the undeclared attributes record what was
applied to the request since its state was created; the declared ones stay `False`. -/
theorem recorded_exec (rid : ReqId) {ops : List StateOp} (hops : ∀ op ∈ ops, op.lasting = true) :
    Recorded rid ops := by
  induction ops using List.reverseRecOn with
  | nil =>
    refine ⟨iff_of_false (fun h => h rfl) ?_, ?_, ?_, ?_, ?_⟩
    · rintro ⟨after, before, hnil, -⟩
      simp at hnil
    all_goals
      intro st hst
      cases hst
  | append_singleton ops op ih =>
    have h := ih fun o ho => hops o (List.mem_append_left _ ho)
    have hentry := entry_step (stateMachine.exec ops) (hops op (by simp)) rid
    rw [← Machine.exec_snoc] at hentry
    cases hentry with
    | created hop hb ha =>
      subst hop
      exact h.create hb ha
    | touched hold f hf ha => exact h.touch hold hf ha

/-! ## The declared attributes -/

/-- The declared attributes say which loads have finished since the state was created; in particular a
request that `mark_load_finished` made `CRITICAL_READY` has its critical load done. -/
structure FlagsRecord (rid : ReqId) (ops : List StateOp) (st : RequestTransferState) : Prop where
  critical : st.criticalDone = true ↔ AppliedSince rid (.markLoadFinished rid true) ops
  refinement : st.refinementDone = true ↔ AppliedSince rid (.markRefineFinished rid) ops
  ready : st.status = .criticalReady → AppliedSince rid (.markLoadFinished rid true) ops →
    st.criticalDone = true

/-- **The declared attributes are right exactly as long as nothing has finished**: after every run without
`put`, `remove` and `gc_finished`, and for every request with a state, they record the completions if and
only if neither a successful `mark_load_finished` nor a `mark_refine_finished` was applied to the request
since its state was created. -/
theorem completion_flags_iff (rid : ReqId) (ops : List StateOp) (hops : ∀ op ∈ ops, op.lasting = true)
    (st : RequestTransferState) (hst : (stateMachine.exec ops).get rid = some st) :
    FlagsRecord rid ops st ↔
      ¬ AppliedSince rid (.markLoadFinished rid true) ops ∧ ¬ AppliedSince rid (.markRefineFinished rid) ops := by
  have h := recorded_exec rid hops
  have hcritical : ¬ st.criticalDone = true := by simp [h.criticalDone st hst]
  have hrefinement : ¬ st.refinementDone = true := by simp [h.refinementDone st hst]
  constructor
  · intro hflags
    exact ⟨fun happlied => hcritical (hflags.critical.mpr happlied),
      fun happlied => hrefinement (hflags.refinement.mpr happlied)⟩
  · rintro ⟨hload, hrefine⟩
    exact ⟨iff_of_false hcritical hload, iff_of_false hrefinement hrefine,
      fun _ happlied => absurd happlied hload⟩

/-- A load that has only started. -/
theorem completion_flags_started :
    FlagsRecord "r" [.createOrGet "r", .markLoadStarted "r"]
        { requestId := "r", status := .criticalLoading } ↔
      ¬ AppliedSince "r" (.markLoadFinished "r" true) [.createOrGet "r", .markLoadStarted "r"] ∧
        ¬ AppliedSince "r" (.markRefineFinished "r") [.createOrGet "r", .markLoadStarted "r"] :=
  completion_flags_iff "r" [.createOrGet "r", .markLoadStarted "r"] (by decide) _ (by decide)

/-- A finished load is not in the declared attribute. -/
theorem finished_load_not_declared :
    ¬ ∀ (ops : List StateOp) (rid : ReqId) (st : RequestTransferState), (∀ op ∈ ops, op.lasting = true) →
      (stateMachine.exec ops).get rid = some st → FlagsRecord rid ops st := by
  intro h
  have hflags := h [.createOrGet "r", .markLoadFinished "r" true] "r"
    { requestId := "r", status := .criticalReady, criticalLoadDone := some true } (by decide) (by decide)
  have hdone := hflags.critical.mpr ⟨[.markLoadFinished "r" true], ⟨[], rfl, rfl⟩, by simp⟩
  cases hdone

end AwareKV
