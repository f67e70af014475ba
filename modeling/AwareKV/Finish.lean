import AwareKV.Connector
import AwareKV.Lib.Outbox

/-!
# AwareKV.Finish — finish notifications

The connector's `finished_requests` is an outbox: `request_finished` posts the id, as its last step,
and `get_finished` takes all of them.  So nothing is lost between the two
(`delivered_append_finished`); what can be lost is the post, when the worker side's cleanup raises
before it.  `finish_notified_iff` says exactly when.
-/

namespace AwareKV

variable {α : Type} {sha256Hex : String → String} {fo : FloatOps} {cfg : DeadlineKVConfig}
  {role : String}

/-- The ids that a call of `get_finished` returns. -/
def deliveredBy : ConnectorOp α × ConnectorAnswer → List ReqId
  | (.getFinished, .finished ids) => ids
  | _ => []

/-- All lists returned by `get_finished`, concatenated. -/
def delivered (tr : List (ConnectorOp α × ConnectorAnswer)) : List ReqId := tr.flatMap deliveredBy

/-- The id for which `request_finished` is called. -/
def finishCall : ConnectorOp α → Option ReqId
  | .requestFinished rid => some rid
  | _ => none

/-- The id for which `request_finished` returns. -/
def finishReturn : ConnectorOp α × ConnectorAnswer → Option ReqId
  | (.requestFinished rid, .done) => some rid
  | _ => none

/-! ### The outbox -/

/-- What a call does to the outbox. -/
def outboxOps : ConnectorOp α × ConnectorAnswer → List (OutboxOp ReqId)
  | (.requestFinished rid, .done) => [.post rid]
  | (.getFinished, _) => [.take]
  | _ => []

/-- What a call takes out of the outbox; a post takes nothing. -/
def outboxAnswers : ConnectorOp α × ConnectorAnswer → List (List ReqId)
  | (.requestFinished _, .done) => [[]]
  | (.getFinished, .finished ids) => [ids]
  | _ => []

/-- The other calls are nothing to the outbox. -/
theorem outboxOps_other {op : ConnectorOp α} (hf : ∀ rid, op ≠ .requestFinished rid)
    (hg : op ≠ .getFinished) (answer : ConnectorAnswer) :
    outboxOps (op, answer) = [] ∧ outboxAnswers (op, answer) = [] := by
  cases op with
  | requestFinished rid => exact absurd rfl (hf rid)
  | getFinished => exact absurd rfl hg
  | _ => exact ⟨rfl, rfl⟩

/-- **Step lemma**: a call is a post, a take, or nothing to the outbox. -/
theorem outbox_step (c : Connector α) (op : ConnectorOp α) :
    ((connectorMachine α sha256Hex fo cfg role).step c op).1.finishedRequests =
        (outbox ReqId).execFrom c.finishedRequests
          (outboxOps (op, ((connectorMachine α sha256Hex fo cfg role).step c op).2)) ∧
      outboxAnswers (op, ((connectorMachine α sha256Hex fo cfg role).step c op).2) =
        ((outbox ReqId).traceFrom c.finishedRequests
          (outboxOps (op, ((connectorMachine α sha256Hex fo cfg role).step c op).2))).map Prod.snd := by
  have hstep := connectorStep sha256Hex fo cfg role c op
  generalize ((connectorMachine α sha256Hex fo cfg role).step c op).1 = c' at hstep ⊢
  generalize ((connectorMachine α sha256Hex fo cfg role).step c op).2 = answer at hstep ⊢
  cases hstep with
  | kept op answer hq hf hg =>
    obtain ⟨hops, hanswers⟩ := outboxOps_other hf hg answer
    rw [hops, hanswers]
    exact ⟨rfl, rfl⟩
  | finished rid hw => exact ⟨rfl, rfl⟩
  | finishRaised rid w e hw he => exact ⟨rfl, rfl⟩
  | taken => exact ⟨rfl, rfl⟩
  | _ => exact ⟨rfl, rfl⟩

variable (sha256Hex fo cfg role)

/-- **The connector runs the outbox.** -/
theorem connector_outbox (ops : List (ConnectorOp α)) :
    ((connectorMachine α sha256Hex fo cfg role).exec ops).finishedRequests =
        (outbox ReqId).exec (((connectorMachine α sha256Hex fo cfg role).trace ops).flatMap outboxOps) ∧
      ((connectorMachine α sha256Hex fo cfg role).trace ops).flatMap outboxAnswers =
        ((outbox ReqId).trace
          (((connectorMachine α sha256Hex fo cfg role).trace ops).flatMap outboxOps)).map Prod.snd := by
  refine Machine.simulation Connector.finishedRequests outboxOps outboxAnswers ?_
    (fun c op => (outbox_step c op).1) (fun c op => (outbox_step c op).2) ops
  rw [connectorMachine_init, Connector.start_finishedRequests]
  rfl

variable {sha256Hex fo cfg role}

/-! ### What is notified -/

/-- The outbox gives out what `get_finished` answers. -/
theorem flatten_outboxAnswers (tr : List (ConnectorOp α × ConnectorAnswer)) :
    (tr.flatMap outboxAnswers).flatten = delivered tr := by
  have hone : ∀ x : ConnectorOp α × ConnectorAnswer, (outboxAnswers x).flatten = deliveredBy x := by
    rintro ⟨op, answer⟩
    cases op with
    | requestFinished rid => cases answer <;> rfl
    | getFinished => cases answer <;> simp [outboxAnswers, deliveredBy]
    | _ => rfl
  induction tr with
  | nil => rfl
  | cons x tr ih =>
    rw [List.flatMap_cons, List.flatten_append, hone, ih, delivered, delivered, List.flatMap_cons]

/-- What was posted is what returned. -/
theorem posted_outboxOps (tr : List (ConnectorOp α × ConnectorAnswer)) :
    posted (tr.flatMap outboxOps) = tr.filterMap finishReturn := by
  have hone : ∀ x : ConnectorOp α × ConnectorAnswer, posted (outboxOps x) = (finishReturn x).toList := by
    rintro ⟨op, answer⟩
    cases op with
    | requestFinished rid => cases answer <;> rfl
    | _ => rfl
  induction tr with
  | nil => rfl
  | cons x tr ih =>
    rw [List.flatMap_cons, posted_append, ih, hone, List.filterMap_cons]
    cases finishReturn x <;> rfl

/-- **What was delivered, followed by what is waiting, are the ids whose `request_finished`
returned**, in order. -/
theorem delivered_append_finished (ops : List (ConnectorOp α)) :
    delivered ((connectorMachine α sha256Hex fo cfg role).trace ops) ++
        ((connectorMachine α sha256Hex fo cfg role).exec ops).finishedRequests =
      ((connectorMachine α sha256Hex fo cfg role).trace ops).filterMap finishReturn := by
  obtain ⟨hexec, hanswers⟩ := connector_outbox sha256Hex fo cfg role ops
  rw [hexec, ← flatten_outboxAnswers, hanswers, outbox_conserves, posted_outboxOps]

/-- A selection that keeps less is the same only if it keeps the same of every element. -/
theorem filterMap_eq_iff {β γ : Type} {f g : β → Option γ} (hfg : ∀ x b, f x = some b → g x = some b)
    (xs : List β) : xs.filterMap f = xs.filterMap g ↔ ∀ x ∈ xs, f x = g x := by
  have hle : ∀ ys : List β, (ys.filterMap f).length ≤ (ys.filterMap g).length := by
    intro ys
    induction ys with
    | nil => rfl
    | cons y ys ih =>
      rw [List.filterMap_cons, List.filterMap_cons]
      cases hf : f y with
      | some b => simpa [hfg y b hf] using ih
      | none => cases g y <;> simp <;> omega
  induction xs with
  | nil => simp
  | cons x xs ih =>
    rw [List.filterMap_cons, List.filterMap_cons, List.forall_mem_cons]
    cases hf : f x with
    | some b => simp [hfg x b hf, ih]
    | none =>
      cases hg : g x with
      | none => simp [ih]
      | some b =>
        -- one element is missing, and no other can make up for it
        refine iff_of_false (fun h => ?_) (by simp)
        have hlen := hle xs
        simp only at h
        rw [h, List.length_cons] at hlen
        omega

variable (sha256Hex fo cfg role)

/-- The calls of a trace are the inputs of the run. -/
theorem filterMap_finishCall (ops : List (ConnectorOp α)) :
    ((connectorMachine α sha256Hex fo cfg role).trace ops).filterMap (fun x => finishCall x.1) =
      ops.filterMap finishCall := by
  induction ops using List.reverseRecOn with
  | nil => rfl
  | append_singleton ops op ih =>
    rw [Machine.trace_snoc, List.filterMap_append, List.filterMap_append, ih]
    rfl

variable {sha256Hex fo cfg role}

/-- `request_finished` returns unless the worker side has a save session to report on. -/
theorem finishReturn_iff (c : Connector α) (op : ConnectorOp α) :
    finishReturn (op, ((connectorMachine α sha256Hex fo cfg role).step c op).2) = finishCall op ↔
      ∀ rid, op = .requestFinished rid → ∀ w, c.workerSide = some w → ¬ w.HasOpenSession rid := by
  have hstep := connectorStep sha256Hex fo cfg role c op
  generalize ((connectorMachine α sha256Hex fo cfg role).step c op).1 = c' at hstep
  generalize ((connectorMachine α sha256Hex fo cfg role).step c op).2 = answer at hstep ⊢
  cases hstep with
  | finished rid hw =>
    refine iff_of_true rfl fun q hq w hwork => ?_
    cases hq
    exact WorkerSide.requestFinished_ok_iff.mp (hw w hwork)
  | finishRaised rid w e hw he =>
    refine iff_of_false (by simp [finishReturn, finishCall]) fun h => ?_
    have hok := WorkerSide.requestFinished_ok_iff.mpr (h rid rfl w hw)
    rw [hok] at he
    cases he
  | kept op answer hq hf hg =>
    refine iff_of_true ?_ fun rid hrid => absurd hrid (hf rid)
    cases op with
    | requestFinished rid => exact absurd rfl (hf rid)
    | _ => rfl
  | _ => exact iff_of_true rfl (by simp)

/-- **Every finish is notified once, in order, exactly when no `request_finished` of the run meets a
save session of its request that was not aborted.** -/
theorem finish_notified_iff (ops : List (ConnectorOp α)) :
    delivered ((connectorMachine α sha256Hex fo cfg role).trace ops) ++
        ((connectorMachine α sha256Hex fo cfg role).exec ops).finishedRequests =
        ops.filterMap finishCall ↔
      EveryStep (fun pre op => ∀ rid, op = .requestFinished rid →
        ∀ w, ((connectorMachine α sha256Hex fo cfg role).exec pre).workerSide = some w →
          ¬ w.HasOpenSession rid) ops := by
  have hsub : ∀ (x : ConnectorOp α × ConnectorAnswer) rid, finishReturn x = some rid →
      finishCall x.1 = some rid := by
    rintro ⟨op, answer⟩ rid h
    cases op with
    | requestFinished q => cases answer <;> first | exact h | cases h
    | _ => cases h
  rw [delivered_append_finished, ← filterMap_finishCall sha256Hex fo cfg role, filterMap_eq_iff hsub,
    Machine.forall_mem_trace]
  exact everyStep_congr fun pre op => finishReturn_iff _ op

/-- A request saves a layer and finishes, and the finished requests are asked for. -/
def savedRun : List (ConnectorOp Half) :=
  [.saveKvLayer "layer_0" (Tensor.flat [0]) none (some "r"), .requestFinished "r", .getFinished]

/-- Its id is not notified. -/
theorem finish_lost_after_save :
    ¬ delivered ((connectorMachine Half (fun _ => "digest") default {} "kv_both").trace savedRun) ++
        ((connectorMachine Half (fun _ => "digest") default {} "kv_both").exec savedRun).finishedRequests =
      savedRun.filterMap finishCall := by
  decide +kernel

end AwareKV
