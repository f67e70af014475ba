import AwareKV.LoadGate
import AwareKV.Store

/-!
# AwareKV.TokenBound — no more tokens than the prompt has left

A fresh answer takes the manifest's word for its tokens, and a cached answer does not subtract what is
computed.

* `boundOk_iff`: one query, from any state.
* `token_bound_iff`: the answers of a run stay between 0 and what is left of the prompt exactly when
  every query of it is `BoundOk`.
-/

namespace AwareKV

open SchedulerSide

variable {α : Type} {sha256Hex : String → String} {fo : FloatOps} {cfg : DeadlineKVConfig}
  {role : String}

/-- `n` tokens are no more than what `computed` tokens leave of the prompt. -/
def WithinPrompt (request : Request) (computed n : ℤ) : Prop :=
  0 ≤ n ∧ n ≤ max 0 ((extractPromptTokens request).length - computed)

namespace SchedulerSide

/-- **When a query stays within the prompt**: it is rejected; or its cached state has no tokens, or
tokens that fit beside the computed ones; or the manifest that the planner accepts has at most as many
tokens as the prompt, or as are computed. -/
def BoundOk (side : SchedulerSide) (sm : StateManager) (request : Request) (computed : ℤ)
    (env : QueryEnv) : Prop :=
  ¬ side.Rejects request →
    match cachedState sm (extractRequestId request) with
    | some st => st.matchedTokens = 0 ∨
        (0 < st.matchedTokens ∧ st.matchedTokens + computed ≤ (extractPromptTokens request).length)
    | none => ∀ m, queryManifest env.answer = some m → side.PlannerAccepts env m →
        m.matchedTokens ≤ (extractPromptTokens request).length ∨ m.matchedTokens ≤ computed

/-- **One query.** -/
theorem boundOk_iff (sha256Hex : String → String) (side : SchedulerSide) (sm : StateManager)
    (request : Request) {computed : ℤ} (env : QueryEnv) :
    side.BoundOk sm request computed env ↔
      WithinPrompt request computed
        (plainAnswer (side.prepareRequestState sha256Hex sm request computed env).2).1 := by
  have hzero : WithinPrompt request computed 0 := ⟨le_rfl, le_max_left _ _⟩
  have hout := side.prepared sha256Hex sm request computed env
  unfold BoundOk
  generalize side.prepareRequestState sha256Hex sm request computed env = out at hout
  cases hout with
  | rejected hr => exact ⟨fun _ => hzero, fun _ hnot => absurd hr hnot⟩
  | cached st hr hc =>
    rw [forall_prop_of_true hr, hc]
    unfold WithinPrompt plainAnswer
    dsimp only
    omega
  | missed hr hc hq =>
    rw [forall_prop_of_true hr, hc]
    refine ⟨fun _ => hzero, fun _ m hm => ?_⟩
    rw [hq] at hm
    cases hm
  | raised m e hr hc hq hp =>
    rw [forall_prop_of_true hr, hc]
    refine ⟨fun _ => hzero, fun _ m' hm' ha => ?_⟩
    rw [hq] at hm'
    cases hm'
    exact absurd ha (not_accepts_of_raises hp)
  | recomputed m plan hr hc hq hp ha =>
    rw [forall_prop_of_true hr, hc]
    refine ⟨fun _ => hzero, fun _ m' hm' ha' => ?_⟩
    rw [hq] at hm'
    cases hm'
    exact absurd ha' ha
  | accepted m plan hr hc hq hp ha hcall hmode htok hblk =>
    rw [forall_prop_of_true hr, hc]
    have hbound : WithinPrompt request computed (max 0 (m.matchedTokens - computed)) ↔
        m.matchedTokens ≤ (extractPromptTokens request).length ∨ m.matchedTokens ≤ computed := by
      unfold WithinPrompt
      omega
    refine ⟨fun h => hbound.mpr (h m hq ha), fun h m' hm' _ => ?_⟩
    rw [hq] at hm'
    cases hm'
    exact hbound.mp h

end SchedulerSide

instance (request : Request) (computed n : ℤ) : Decidable (WithinPrompt request computed n) :=
  inferInstanceAs (Decidable (_ ∧ _))

/-! ### Runs -/

/-- If the call is a query with a count that is not negative, its answer stays within the prompt. -/
def AnswerBounded (M : Machine (Connector α) (ConnectorOp α) ConnectorAnswer)
    (pre : List (ConnectorOp α)) : ConnectorOp α → Prop
  | .getNumNewMatchedTokens request computed env => 0 ≤ computed → ∀ n async,
      M.answer pre (.getNumNewMatchedTokens request computed env) = .tokens (n, async) →
        WithinPrompt request computed n
  | _ => True

/-- If the call is a query with a count that is not negative, it is `BoundOk`. -/
def QueryBounded (c : Connector α) : ConnectorOp α → Prop
  | .getNumNewMatchedTokens request computed env => 0 ≤ computed → ∀ side,
      c.schedulerSide = some side → side.BoundOk c.stateManager request computed env
  | _ => True

/-- **The answers of a run stay within their prompts exactly when every query of it is bounded.** -/
theorem token_bound_iff (ops : List (ConnectorOp α)) :
    EveryStep (AnswerBounded (connectorMachine α sha256Hex fo cfg role)) ops ↔
      EveryStep (fun pre op =>
        QueryBounded ((connectorMachine α sha256Hex fo cfg role).exec pre) op) ops := by
  refine everyStep_congr fun pre op => ?_
  cases op with
  | getNumNewMatchedTokens request computed env =>
    refine forall_congr' fun _ => ?_
    unfold Machine.answer
    generalize (connectorMachine α sha256Hex fo cfg role).exec pre = c
    cases hs : c.schedulerSide with
    | none =>
      refine ⟨fun _ side hside => (by cases hside), fun _ n async hans => ?_⟩
      simp only [connectorMachine, Connector.getNumNewMatchedTokens, hs] at hans
      cases hans
      exact ⟨le_rfl, le_max_left _ _⟩
    | some side =>
      rw [answer_getNum hs]
      refine ⟨fun h side' hside' => ?_, fun h n async hans => ?_⟩
      · cases hside'
        exact (boundOk_iff sha256Hex side c.stateManager request env).mpr (h _ _ rfl)
      · have hn := (boundOk_iff sha256Hex side c.stateManager request env).mp (h side rfl)
        rw [ConnectorAnswer.tokens.inj hans] at hn
        exact hn
  | _ => exact Iff.rfl

/-- The service knows a manifest of the whole prompt `shortPrompt`, as it was put. -/
def putEnv : QueryEnv :=
  { answer := .response {
      hit := true,
      manifest := (manifestQuery (manifestPut ⟨.empty⟩
        (bareBody ++ [("critical_object_id", .str "object")]) 0).1 "digest" 0).2 },
    net := { bandwidthBps := 1000000000, rttMs := 10 } }

/-- Half of the prompt is computed: the second answer promises all of it again. -/
theorem token_bound_cached :
    ¬ EveryStep (AnswerBounded (connectorMachine Half (fun _ => "digest") default {} "kv_both"))
      [.getNumNewMatchedTokens shortPrompt 64 putEnv, .getNumNewMatchedTokens shortPrompt 64 putEnv] := by
  intro h
  have hsecond := h [.getNumNewMatchedTokens shortPrompt 64 putEnv] _ [] rfl (by decide) 128 false
    (by decide +kernel)
  revert hsecond
  decide +kernel

end AwareKV
