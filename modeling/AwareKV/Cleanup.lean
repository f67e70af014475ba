import AwareKV.Worker

/-!
# AwareKV.Cleanup — what `request_finished` leaves behind

`WorkerSide.request_finished` empties three maps and then reports about the request's save session.
The report raises unless the session was aborted (`requestFinished_ok_iff`), and then the session
stays.  Which sessions there are is read off the history: `sessionPhase` folds the calls for one
request, and agrees with the maps in every run (`phase_exec`).  Together: `cleansUp_iff`.
-/

namespace AwareKV

variable {α : Type}

/-! ### The life of a save session -/

/-- Where a request's save session is. -/
inductive SessionPhase
  | absent | collecting | aborted
  deriving DecidableEq, Repr

/-- How a call moves the session of `rid`.  A layer without dimensions cannot be sliced, which aborts
the session; a session that collects outlives the end of its request. -/
def SessionPhase.next (rid : ReqId) (p : SessionPhase) : WorkerOp α → SessionPhase
  | .saveKvLayer _ kvLayer _ q =>
    if q ≠ rid then p
    else if p = .aborted ∨ kvLayer.shape = [] then .aborted
    else .collecting
  | .requestFinished q => if q = rid ∧ p = .aborted then .absent else p
  | _ => p

/-- Where the calls leave the session of `rid`. -/
def sessionPhase (rid : ReqId) (ops : List (WorkerOp α)) : SessionPhase :=
  ops.foldl (SessionPhase.next rid) .absent

namespace WorkerSide

/-- Where the session of `rid` is. -/
def phase (w : WorkerSide α) (rid : ReqId) : SessionPhase :=
  match w.saveSessions.get? rid with
  | none => .absent
  | some session => if session.aborted then .aborted else .collecting

variable {w : WorkerSide α} {rid : ReqId}

theorem phase_eq_collecting : w.phase rid = .collecting ↔ w.HasOpenSession rid := by
  unfold phase HasOpenSession
  cases w.saveSessions.get? rid with
  | none => simp
  | some session => cases session.aborted <;> simp

theorem phase_eq_aborted :
    w.phase rid = .aborted ↔ ∃ session, w.saveSessions.get? rid = some session ∧
      session.aborted = true := by
  unfold phase
  cases w.saveSessions.get? rid with
  | none => simp
  | some session => cases session.aborted <;> simp

theorem phase_congr {w' : WorkerSide α} (h : w'.saveSessions.get? rid = w.saveSessions.get? rid) :
    w'.phase rid = w.phase rid := by
  unfold phase
  rw [h]

/-- A load has nothing to do with the save sessions. -/
theorem startLoadKv_saveSessions (cfg : DeadlineKVConfig) (fo : FloatOps) (w : WorkerSide α)
    (md : DeadlineConnectorMetadata) (env : LoadEnv) :
    (w.startLoadKv cfg fo md env).1.saveSessions = w.saveSessions := by
  have h := loadOutcome cfg fo w md env
  generalize w.startLoadKv cfg fo md env = r at h ⊢
  cases h <;> rfl

/-- **What saving a layer does to the session**: it is there afterwards, and it is aborted if it was
before or if the layer has no dimensions. -/
theorem saveKvLayer_session (cfg : DeadlineKVConfig) (w : WorkerSide α) (layerName : String)
    (kvLayer : Tensor α) (attn : Option AttnMetadata) (rid : ReqId) :
    ∃ session, (w.saveKvLayer cfg layerName kvLayer attn rid).saveSessions =
        w.saveSessions.insert rid session ∧
      (session.aborted = true ↔ w.phase rid = .aborted ∨ kvLayer.shape = []) := by
  refine ⟨_, rfl, ?_⟩
  set old := (w.saveSessions.get? rid).getD (defaultSession cfg rid) with hold
  have hphase : w.phase rid = .aborted ↔ old.aborted = true := by
    rw [hold, phase]
    cases w.saveSessions.get? rid with
    | none => simp [defaultSession]
    | some session => cases session.aborted <;> simp
  have hext := extractPrefixKvFromLayer_ok_iff kvLayer (attn.bind extractSlotMapping) old.matchedBlocks
    old.matchedTokens
  rw [hphase]
  cases hx : extractPrefixKvFromLayer kvLayer (attn.bind extractSlotMapping) old.matchedBlocks
      old.matchedTokens with
  | ok t =>
    have hshape : kvLayer.shape ≠ [] := hext.mp ⟨t, hx⟩
    simp [SaveSession.addLayer_aborted, hshape]
  | error e =>
    have hshape : kvLayer.shape = [] := by
      by_contra hne
      obtain ⟨t, ht⟩ := hext.mpr hne
      rw [ht] at hx
      cases hx
    simp [SaveSession.abort, hshape]

/-- **What cleaning up does to the sessions**: an aborted one is removed, any other one stays. -/
theorem requestFinished_saveSessions (w : WorkerSide α) (rid : ReqId) :
    (w.requestFinished rid).1.saveSessions =
      if w.phase rid = .aborted then w.saveSessions.erase rid else w.saveSessions := by
  by_cases ha : w.phase rid = .aborted
  · obtain ⟨session, hs, hab⟩ := phase_eq_aborted.mp ha
    rw [if_pos ha]
    simp only [requestFinished, hs, reportSession_eq_ok.mpr hab]
  · rw [if_neg ha]
    simp only [requestFinished]
    cases hs : w.saveSessions.get? rid with
    | none => rfl
    | some session =>
      cases hr : reportSession session with
      | ok u => exact absurd (phase_eq_aborted.mpr ⟨session, hs, reportSession_eq_ok.mp hr⟩) ha
      | error e => simp only [hr]

theorem saveKvLayer_phase (cfg : DeadlineKVConfig) (w : WorkerSide α) (layerName : String)
    (kvLayer : Tensor α) (attn : Option AttnMetadata) (q rid : ReqId) :
    (w.saveKvLayer cfg layerName kvLayer attn q).phase rid =
      (w.phase rid).next rid (.saveKvLayer layerName kvLayer attn q) := by
  obtain ⟨session, hsessions, haborted⟩ := w.saveKvLayer_session cfg layerName kvLayer attn q
  by_cases hq : q = rid
  · subst hq
    simp only [phase, hsessions, Dict.get?_insert, if_true, SessionPhase.next, ne_eq, not_true_eq_false,
      if_false, haborted]
    rfl
  · rw [SessionPhase.next, if_pos hq]
    refine phase_congr ?_
    rw [hsessions, Dict.get?_insert, if_neg (Ne.symm hq)]

theorem requestFinished_phase (w : WorkerSide α) (q rid : ReqId) :
    (w.requestFinished q).1.phase rid = (w.phase rid).next rid (.requestFinished q : WorkerOp α) := by
  have hsessions := w.requestFinished_saveSessions q
  by_cases hq : q = rid
  · subst hq
    by_cases ha : w.phase q = .aborted
    · rw [if_pos ha] at hsessions
      rw [SessionPhase.next, if_pos ⟨rfl, ha⟩]
      simp [phase, hsessions]
    · rw [if_neg ha] at hsessions
      rw [SessionPhase.next, if_neg fun h => ha h.2]
      refine phase_congr ?_
      rw [hsessions]
  · rw [SessionPhase.next, if_neg fun h => hq h.1]
    refine phase_congr ?_
    rw [hsessions]
    split_ifs
    · rw [Dict.get?_erase, if_neg (Ne.symm hq)]
    · rfl

end WorkerSide

/-- One call moves the session as the fold says. -/
theorem phase_step (cfg : DeadlineKVConfig) (fo : FloatOps) (w : WorkerSide α) (op : WorkerOp α)
    (rid : ReqId) :
    ((workerMachine α cfg fo).step w op).1.phase rid = (w.phase rid).next rid op := by
  cases op with
  | startLoadKv md env =>
    exact WorkerSide.phase_congr (by
      simp only [workerMachine, WorkerSide.startLoadKv_saveSessions])
  | waitForLayerLoad layerName => rfl
  | saveKvLayer layerName kvLayer attn q => exact w.saveKvLayer_phase cfg layerName kvLayer attn q rid
  | requestFinished q => exact w.requestFinished_phase q rid
  | refinementStarts q k => exact WorkerSide.phase_congr rfl
  | refinementEnds q k => exact WorkerSide.phase_congr rfl

/-- **In every run, a request's session is where its history puts it.** -/
theorem phase_exec (cfg : DeadlineKVConfig) (fo : FloatOps) (ops : List (WorkerOp α)) (rid : ReqId) :
    ((workerMachine α cfg fo).exec ops).phase rid = sessionPhase rid ops :=
  (workerMachine α cfg fo).observe_exec (fun w => w.phase rid) (SessionPhase.next rid)
    (fun w op => phase_step cfg fo w op rid) ops

/-! ### What is left -/

/-- `request_finished` returns, nothing is held about the request any more, and everything that is
held about the others is still there. -/
structure CleansUp (w : WorkerSide α) (rid : ReqId) : Prop where
  returns : (w.requestFinished rid).2 = .ok ()
  noLoad : (w.requestFinished rid).1.NoLoad rid
  noSession : (w.requestFinished rid).1.saveSessions.get? rid = none
  others : WorkerSide.SameOthers rid w (w.requestFinished rid).1

namespace WorkerSide

theorem cleansUp_of_no_session {w : WorkerSide α} {rid : ReqId} (h : ¬ w.HasOpenSession rid) :
    CleansUp w rid := by
  obtain ⟨hactive, hloaded, hfutures⟩ := w.requestFinished_loads rid
  have hsessions := w.requestFinished_saveSessions rid
  refine ⟨requestFinished_ok_iff.mpr h, ⟨?_, ?_, ?_⟩, ?_, ⟨?_, ?_, ?_, ?_, ?_⟩⟩
  · rw [hactive, Dict.get?_erase, if_pos rfl]
  · rw [hloaded, Dict.get?_erase, if_pos rfl]
  · rw [hfutures, Dict.get?_erase, if_pos rfl]
  · rw [hsessions]
    by_cases ha : w.phase rid = .aborted
    · rw [if_pos ha, Dict.get?_erase, if_pos rfl]
    · rw [if_neg ha]
      cases hs : w.saveSessions.get? rid with
      | none => rfl
      | some session =>
        have hopen : session.aborted = false := by
          simpa [phase, hs] using ha
        exact absurd ⟨session, hs, hopen⟩ h
  · intro q hq
    rw [hactive, Dict.get?_erase, if_neg hq]
  · intro q hq
    rw [hloaded, Dict.get?_erase, if_neg hq]
  · intro q hq
    rw [hfutures, Dict.get?_erase, if_neg hq]
  · exact fun q hq => futuresOf_cancelFuture (w.requestFinished_executor rid) hq
  · intro q hq
    rw [hsessions]
    split_ifs
    · rw [Dict.get?_erase, if_neg hq]
    · rfl

end WorkerSide

/-- **Complete cleanup, exactly when it holds**: after any calls, for any request, `request_finished`
cleans up completely iff the calls do not leave the request's save session collecting. -/
theorem cleansUp_iff (cfg : DeadlineKVConfig) (fo : FloatOps) (ops : List (WorkerOp α)) (rid : ReqId) :
    CleansUp ((workerMachine α cfg fo).exec ops) rid ↔ sessionPhase rid ops ≠ .collecting := by
  rw [← phase_exec cfg fo ops rid, Ne, WorkerSide.phase_eq_collecting]
  constructor
  · intro h
    exact WorkerSide.requestFinished_ok_iff.mp h.returns
  · exact WorkerSide.cleansUp_of_no_session

/-- After one saved layer the cleanup raises. -/
theorem cleanup_after_saved_layer :
    ¬ CleansUp ((workerMachine ℤ {} default).exec
      [.saveKvLayer "layer_0" ⟨[1], [7], rfl⟩ none "a"]) "a" := by
  intro h
  have hopen : ((workerMachine ℤ {} default).exec
      [.saveKvLayer "layer_0" ⟨[1], [7], rfl⟩ none "a"]).HasOpenSession "a" := by
    rw [← WorkerSide.phase_eq_collecting]
    decide
  exact WorkerSide.requestFinished_ok_iff.mp h.returns hopen

end AwareKV
