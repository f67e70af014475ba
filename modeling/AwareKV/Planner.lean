import AwareKV.Lib.Doubles
import AwareKV.Metadata
import Mathlib.Tactic.Linarith

/-!
# AwareKV.Planner — the bandwidth estimator and the deadline planner

Translation of `planner/estimator.py`, in exact rational arithmetic, and of `planner/deadline_planner.py`,
with the arithmetic on floats as a parameter `fl`.  `request_id` and `request_metadata` do not influence a
plan and are left out; the random plan id is an argument.

`plan_cases` says everything a call of `plan` can do, whatever the arithmetic, and `plan_exact` what it is in
exact arithmetic; the results about plans use these and do not unfold `plan` again.
-/

namespace AwareKV

/-! ## Estimator -/

/-- `BandwidthEstimator`. -/
structure BandwidthEstimator where
  alpha : ℚ := 3 / 10
  ewmaBps : ℚ := 1000000000
  ewmaRttMs : ℚ := 10
  lastUpdateMs : ℤ := 0
  deriving DecidableEq

namespace BandwidthEstimator

/-- `BandwidthEstimator.update` at time `now`. -/
def update (e : BandwidthEstimator) (nbytes : ℤ) (durationMs : ℚ) (rttMs : Option ℚ) (now : ℤ) :
    BandwidthEstimator :=
  let e := if 0 < durationMs then
    { e with ewmaBps := e.alpha * ((nbytes * 8 * 1000) / durationMs) + (1 - e.alpha) * e.ewmaBps }
    else e
  let e := match rttMs with
    | some r => if 0 < r then
        { e with ewmaRttMs := e.alpha * r + (1 - e.alpha) * e.ewmaRttMs } else e
    | none => e
  { e with lastUpdateMs := now }

/-- `BandwidthEstimator.get_estimate`. -/
def getEstimate (e : BandwidthEstimator) : NetworkEstimate :=
  { bandwidthBps := e.ewmaBps, rttMs := e.ewmaRttMs, lossRate := 0, lastUpdateMs := e.lastUpdateMs }

end BandwidthEstimator

/-! ## Planner -/

/-- `DeadlinePlanner`; its estimator is read once per plan and is passed as that reading. -/
structure DeadlinePlanner where
  ttftSloMs : ℤ
  alpha : ℚ := 4 / 5
  minPrefixTokens : ℤ := 128
  deriving DecidableEq

namespace DeadlinePlanner

/-- `_recompute_plan`. -/
def recomputePlan (planId reason : String) : TransferPlan :=
  { planId := planId, matchedTokens := 0, matchedBlocks := [], mode := .recompute,
    criticalDeadlineMs := 0, refineBudgetMs := 0, loadFromTier := .t2, allowRefineDrop := true,
    reasonCode := reason, estimatedCriticalBytes := 0, estimatedRefineBytes := 0 }

/-- The plan of the `fp16_time_ms < ttft_budget_ms` branch. -/
def fullFp16Plan (planId : String) (m : PrefixManifest) (criticalDeadlineMs : ℤ) : TransferPlan :=
  { planId := planId, matchedTokens := m.matchedTokens, matchedBlocks := m.matchedBlocks,
    mode := .fullFp16, criticalDeadlineMs := criticalDeadlineMs, refineBudgetMs := 0,
    loadFromTier := .t2, allowRefineDrop := false, reasonCode := "full_fp16_within_budget",
    estimatedCriticalBytes := m.criticalNbytes, estimatedRefineBytes := 0 }

/-- The plan when int8 fits and there is nothing to refine. -/
def int8OnlyPlan (planId : String) (m : PrefixManifest) (criticalDeadlineMs : ℤ) : TransferPlan :=
  { planId := planId, matchedTokens := m.matchedTokens, matchedBlocks := m.matchedBlocks,
    mode := .criticalInt8Only, criticalDeadlineMs := criticalDeadlineMs, refineBudgetMs := 0,
    loadFromTier := .t2, allowRefineDrop := true, reasonCode := "int8_only_no_refinement",
    estimatedCriticalBytes := m.criticalNbytes.fdiv 2, estimatedRefineBytes := 0 }

/-- The plan when int8 fits and a refinement follows. -/
def int8ThenFp16Plan (planId : String) (m : PrefixManifest) (refineBudgetMs criticalDeadlineMs : ℤ) :
    TransferPlan :=
  { planId := planId, matchedTokens := m.matchedTokens, matchedBlocks := m.matchedBlocks,
    mode := .criticalInt8ThenFp16, criticalDeadlineMs := criticalDeadlineMs,
    refineBudgetMs := refineBudgetMs, loadFromTier := .t2, allowRefineDrop := true,
    reasonCode := "fallback_to_int8_for_ttft", estimatedCriticalBytes := m.criticalNbytes.fdiv 2,
    estimatedRefineBytes := m.refinementNbytes.getD 0 }

section Arithmetic

variable (fl : DoubleOps) (p : DeadlinePlanner) (est : NetworkEstimate)

/-- `ttft_slo_ms * alpha`. -/
def ttftBudgetMs : Py ℚ := do
  let slo ← fl.ofInt p.ttftSloMs
  return fl.mul slo p.alpha

/-- The planner's time model: `rtt_ms + nbytes * 8 * 1000.0 / bandwidth_bps`. -/
def loadTimeMs (nbytes : ℤ) : Py ℚ := do
  let bits ← fl.ofInt (nbytes * 8)
  let t ← fl.div (fl.mul bits (fl.ofRat 1000)) est.bandwidthBps
  return fl.add est.rttMs t

/-- `max(100, int(ttft_slo_ms * 0.3))`. -/
def refineBudgetMs : Py ℤ := do
  let slo ← fl.ofInt p.ttftSloMs
  let ms ← fl.toInt (fl.mul slo (fl.ofRat (3 / 10)))
  return max 100 ms

/-- `DeadlinePlanner.plan`. -/
def plan (planId : String) (m : PrefixManifest) (enableRefinement : Bool) : Py TransferPlan :=
  if m.matchedTokens < p.minPrefixTokens then .ok (recomputePlan planId "prefix_too_short")
  else do
    let ttftBudgetMs ← p.ttftBudgetMs fl
    let fp16TimeMs ← loadTimeMs fl est m.criticalNbytes
    if fl.lt fp16TimeMs ttftBudgetMs then return fullFp16Plan planId m (← fl.toInt ttftBudgetMs)
    let int8TimeMs ← loadTimeMs fl est (m.criticalNbytes.fdiv 2)
    if fl.ge int8TimeMs ttftBudgetMs then return recomputePlan planId "deadline_miss_even_with_int8"
    if !enableRefinement || m.refinementNbytes.getD 0 == 0 then
      return int8OnlyPlan planId m (← fl.toInt ttftBudgetMs)
    let refineBudgetMs ← p.refineBudgetMs fl
    return int8ThenFp16Plan planId m refineBudgetMs (← fl.toInt ttftBudgetMs)

/-! ### What a plan can be -/

/-- The time for `nbytes` compared with the budget; false if one of them cannot be computed. -/
def compareTime (compare : ℚ → ℚ → Bool) (nbytes : ℤ) : Bool :=
  match p.ttftBudgetMs fl, loadTimeMs fl est nbytes with
  | .ok budget, .ok time => compare time budget
  | _, _ => false

/-- Loading `nbytes` ends before the budget, in the planner's time model: `time < ttft_budget_ms`. -/
def Fits (nbytes : ℤ) : Prop := p.compareTime fl est fl.lt nbytes = true

/-- Loading `nbytes` does not: `time >= ttft_budget_ms`. -/
def Late (nbytes : ℤ) : Prop := p.compareTime fl est fl.ge nbytes = true

instance (nbytes : ℤ) : Decidable (p.Fits fl est nbytes) := inferInstanceAs (Decidable (_ = true))

instance (nbytes : ℤ) : Decidable (p.Late fl est nbytes) := inferInstanceAs (Decidable (_ = true))

/-- The planner accepts the manifest, if it raises no exception: it is long enough, and its critical bytes
fit or half of them are not late. -/
def Accepts (m : PrefixManifest) : Prop :=
  p.minPrefixTokens ≤ m.matchedTokens ∧
    (p.Fits fl est m.criticalNbytes ∨ ¬ p.Late fl est (m.criticalNbytes.fdiv 2))

instance (m : PrefixManifest) : Decidable (p.Accepts fl est m) := inferInstanceAs (Decidable (_ ∧ _))

/-- What there is to plan a refinement with. -/
def Refines (m : PrefixManifest) (enableRefinement : Bool) : Prop :=
  p.Fits fl est m.criticalNbytes ∨ (enableRefinement = true ∧ m.refinementNbytes.getD 0 ≠ 0)

/-- `int(ttft_budget_ms)`. -/
def criticalDeadlineMs : Py ℤ := do fl.toInt (← p.ttftBudgetMs fl)

/-- Planning over a manifest that is long enough raises: the budget or a time that is compared with it cannot
be computed, or a number of milliseconds that goes into the plan. -/
def Raises (m : PrefixManifest) (enableRefinement : Bool) : Prop :=
  p.minPrefixTokens ≤ m.matchedTokens ∧
    ((p.ttftBudgetMs fl).isOk = false ∨ (loadTimeMs fl est m.criticalNbytes).isOk = false ∨
      if p.Fits fl est m.criticalNbytes then (p.criticalDeadlineMs fl).isOk = false
      else (loadTimeMs fl est (m.criticalNbytes.fdiv 2)).isOk = false ∨
        (¬ p.Late fl est (m.criticalNbytes.fdiv 2) ∧
          ((p.criticalDeadlineMs fl).isOk = false ∨
            (enableRefinement = true ∧ m.refinementNbytes.getD 0 ≠ 0 ∧ (p.refineBudgetMs fl).isOk = false))))

instance (m : PrefixManifest) (er : Bool) : Decidable (p.Raises fl est m er) :=
  inferInstanceAs (Decidable (_ ∧ (_ ∨ _ ∨ ite _ _ _)))

/-- **The outcomes of planning.**  The planner raises; or a prefix that is too short is recomputed; or the
plan carries the manifest's tokens and blocks, if the manifest is accepted; or it is a recompute plan. -/
inductive Planned (planId : String) (m : PrefixManifest) (enableRefinement : Bool) : Py TransferPlan → Prop
  | raised (e : Exc) (hr : p.Raises fl est m enableRefinement) : Planned planId m enableRefinement (.error e)
  | short (hs : m.matchedTokens < p.minPrefixTokens) :
      Planned planId m enableRefinement (.ok (recomputePlan planId "prefix_too_short"))
  | accepted (pl : TransferPlan) (hr : ¬ p.Raises fl est m enableRefinement) (ha : p.Accepts fl est m)
      (htok : pl.matchedTokens = m.matchedTokens)
      (hblk : pl.matchedBlocks = m.matchedBlocks) (hmode : pl.mode ≠ .recompute)
      (hfull : pl.mode = .fullFp16 ↔ p.Fits fl est m.criticalNbytes)
      (hrefines : pl.mode.refines = true ↔ p.Refines fl est m enableRefinement) :
      Planned planId m enableRefinement (.ok pl)
  | late (hr : ¬ p.Raises fl est m enableRefinement) (hs : p.minPrefixTokens ≤ m.matchedTokens)
      (ha : ¬ p.Accepts fl est m) :
      Planned planId m enableRefinement (.ok (recomputePlan planId "deadline_miss_even_with_int8"))

end Arithmetic

variable {fl : DoubleOps} {p : DeadlinePlanner} {est : NetworkEstimate}

theorem compareTime_ok {budget time : ℚ} {nbytes : ℤ} (hb : p.ttftBudgetMs fl = .ok budget)
    (ht : loadTimeMs fl est nbytes = .ok time) (compare : ℚ → ℚ → Bool) :
    p.compareTime fl est compare nbytes = compare time budget := by
  rw [compareTime, hb, ht]

section Raising

variable {m : PrefixManifest} {budget fp16 int8 : ℚ}

/-- Over critical bytes that fit, only the deadline can raise. -/
theorem raises_of_fits (er : Bool) (hs : p.minPrefixTokens ≤ m.matchedTokens) (hb : p.ttftBudgetMs fl = .ok budget)
    (hfp16 : loadTimeMs fl est m.criticalNbytes = .ok fp16) (hfit : p.Fits fl est m.criticalNbytes) :
    p.Raises fl est m er ↔ (fl.toInt budget).isOk = false := by
  simp [Raises, hs, hb, hfp16, hfit, criticalDeadlineMs, Py.ok_bind]

/-- Over others whose half has a time, the deadline and the refinement's budget can, unless it is late. -/
theorem raises_of_not_fits (er : Bool) (hs : p.minPrefixTokens ≤ m.matchedTokens)
    (hb : p.ttftBudgetMs fl = .ok budget) (hfp16 : loadTimeMs fl est m.criticalNbytes = .ok fp16)
    (hnot : ¬ p.Fits fl est m.criticalNbytes)
    (hint8 : loadTimeMs fl est (m.criticalNbytes.fdiv 2) = .ok int8) :
    p.Raises fl est m er ↔ ¬ p.Late fl est (m.criticalNbytes.fdiv 2) ∧ ((fl.toInt budget).isOk = false ∨
      (er = true ∧ m.refinementNbytes.getD 0 ≠ 0 ∧ (p.refineBudgetMs fl).isOk = false)) := by
  simp [Raises, hs, hb, hfp16, hnot, hint8, criticalDeadlineMs, Py.ok_bind]

end Raising

theorem plan_cases (fl : DoubleOps) (p : DeadlinePlanner) (est : NetworkEstimate) (planId : String)
    (m : PrefixManifest) (er : Bool) : p.Planned fl est planId m er (p.plan fl est planId m er) := by
  unfold plan
  by_cases hs : m.matchedTokens < p.minPrefixTokens
  · rw [if_pos hs]
    exact .short hs
  rw [if_neg hs]
  have hlong : p.minPrefixTokens ≤ m.matchedTokens := not_lt.mp hs
  cases hb : p.ttftBudgetMs fl with
  | error e => exact .raised e ⟨hlong, by simp [hb]⟩
  | ok budget =>
  cases hfp16 : loadTimeMs fl est m.criticalNbytes with
  | error e => exact .raised e ⟨hlong, by simp [hfp16]⟩
  | ok fp16 =>
  have hfits : p.Fits fl est m.criticalNbytes ↔ fl.lt fp16 budget = true := by
    rw [Fits, compareTime_ok hb hfp16]
  simp only [Py.ok_bind]
  by_cases hlt : fl.lt fp16 budget = true
  · have hfit := hfits.mpr hlt
    have hraises := raises_of_fits er hlong hb hfp16 hfit
    rw [if_pos hlt]
    cases hint : fl.toInt budget with
    | error e => exact .raised e (by simp [hraises, hint])
    | ok deadline =>
      exact .accepted _ (by simp [hraises, hint]) ⟨hlong, Or.inl hfit⟩ rfl rfl (by simp [fullFp16Plan])
        (by simp [fullFp16Plan, hfit]) (by simp [fullFp16Plan, PlanMode.refines, Refines, hfit])
  rw [if_neg hlt]
  have hnot : ¬ p.Fits fl est m.criticalNbytes := fun h => hlt (hfits.mp h)
  cases hint8 : loadTimeMs fl est (m.criticalNbytes.fdiv 2) with
  | error e => exact .raised e ⟨hlong, by simp [hnot, hint8]⟩
  | ok int8 =>
  have hraises := raises_of_not_fits er hlong hb hfp16 hnot hint8
  have hlate : p.Late fl est (m.criticalNbytes.fdiv 2) ↔ fl.ge int8 budget = true := by
    rw [Late, compareTime_ok hb hint8]
  simp only [Py.ok_bind]
  by_cases hge : fl.ge int8 budget = true
  · rw [if_pos hge]
    exact .late (fun h => (hraises.mp h).1 (hlate.mpr hge)) hlong
      fun h => h.2.elim hnot fun hearly => hearly (hlate.mpr hge)
  rw [if_neg hge]
  have hearly : ¬ p.Late fl est (m.criticalNbytes.fdiv 2) := fun h => hge (hlate.mp h)
  rw [and_iff_right hearly] at hraises
  have haccepts : p.Accepts fl est m := ⟨hlong, Or.inr hearly⟩
  by_cases hskip : (!er || m.refinementNbytes.getD 0 == 0) = true
  · have hkept : ¬ (er = true ∧ m.refinementNbytes.getD 0 ≠ 0) := by
      rintro ⟨her, hbytes⟩
      simp [her, hbytes] at hskip
    rw [if_pos hskip]
    cases hint : fl.toInt budget with
    | error e => exact .raised e (hraises.mpr (by simp [hint]))
    | ok deadline =>
      refine .accepted _ ?_ haccepts rfl rfl (by simp [int8OnlyPlan]) (by simp [int8OnlyPlan, hnot]) ?_
      · rw [hraises, hint]
        rintro (hdeadline | ⟨her, hbytes, -⟩)
        · simp at hdeadline
        · exact hkept ⟨her, hbytes⟩
      · exact iff_of_false (by simp [int8OnlyPlan, PlanMode.refines]) fun h => h.elim hnot hkept
  rw [if_neg hskip]
  have hrefined : er = true ∧ m.refinementNbytes.getD 0 ≠ 0 := by simpa using hskip
  cases hbudget : p.refineBudgetMs fl with
  | error e => exact .raised e (hraises.mpr (Or.inr ⟨hrefined.1, hrefined.2, by simp [hbudget]⟩))
  | ok refineBudget =>
  simp only [Py.ok_bind]
  cases hint : fl.toInt budget with
  | error e => exact .raised e (hraises.mpr (by simp [hint]))
  | ok deadline =>
    refine .accepted _ (by simp [hraises, hint, hbudget]) haccepts rfl rfl (by simp [int8ThenFp16Plan])
      (by simp [int8ThenFp16Plan, hnot]) ?_
    exact iff_of_true rfl (Or.inr hrefined)

/-- The plan id is in the plan and nowhere else. -/
theorem plan_planId (fl : DoubleOps) (p : DeadlinePlanner) (est : NetworkEstimate) (planId : String)
    (m : PrefixManifest) (er : Bool) :
    p.plan fl est planId m er = (p.plan fl est "" m er).map (fun pl => { pl with planId := planId }) := by
  unfold plan
  by_cases hs : m.matchedTokens < p.minPrefixTokens
  · rw [if_pos hs, if_pos hs]
    rfl
  rw [if_neg hs, if_neg hs]
  cases p.ttftBudgetMs fl with
  | error e => rfl
  | ok budget =>
  cases loadTimeMs fl est m.criticalNbytes with
  | error e => rfl
  | ok fp16 =>
  simp only [Py.ok_bind]
  by_cases hlt : fl.lt fp16 budget = true
  · rw [if_pos hlt, if_pos hlt]
    cases fl.toInt budget <;> rfl
  rw [if_neg hlt, if_neg hlt]
  cases loadTimeMs fl est (m.criticalNbytes.fdiv 2) with
  | error e => rfl
  | ok int8 =>
  simp only [Py.ok_bind]
  by_cases hge : fl.ge int8 budget = true
  · rw [if_pos hge, if_pos hge]
    rfl
  rw [if_neg hge, if_neg hge]
  by_cases hskip : (!er || m.refinementNbytes.getD 0 == 0) = true
  · rw [if_pos hskip, if_pos hskip]
    cases fl.toInt budget <;> rfl
  rw [if_neg hskip, if_neg hskip]
  cases p.refineBudgetMs fl with
  | error e => rfl
  | ok refineBudget => cases fl.toInt budget <;> rfl

/-! ### Exact arithmetic -/

/-- Loading `nbytes` ends before the budget, in exact arithmetic. -/
def FitsExactly (p : DeadlinePlanner) (est : NetworkEstimate) (nbytes : ℤ) : Prop :=
  est.rttMs + (nbytes : ℚ) * 8 * 1000 / est.bandwidthBps < p.ttftSloMs * p.alpha

instance (p : DeadlinePlanner) (est : NetworkEstimate) (nbytes : ℤ) :
    Decidable (p.FitsExactly est nbytes) := inferInstanceAs (Decidable (_ < _))

variable {planId : String} {m : PrefixManifest} {er : Bool}

theorem loadTimeMs_exact (h : est.bandwidthBps ≠ 0) (n : ℤ) :
    loadTimeMs .exact est n = .ok (est.rttMs + (n : ℚ) * 8 * 1000 / est.bandwidthBps) := by
  simp [loadTimeMs, DoubleOps.exact, trueDiv, h, pure, Except.pure, bind, Except.bind]

theorem loadTimeMs_exact_zero (h : est.bandwidthBps = 0) (n : ℤ) :
    ∃ e, loadTimeMs .exact est n = .error e := by
  simp [loadTimeMs, DoubleOps.exact, trueDiv, h, bind, Except.bind]

/-- The plan of exact arithmetic for a manifest that is long enough. -/
def exactPlan (p : DeadlinePlanner) (est : NetworkEstimate) (planId : String) (m : PrefixManifest)
    (enableRefinement : Bool) : TransferPlan :=
  if p.FitsExactly est m.criticalNbytes then fullFp16Plan planId m (intOfRat (p.ttftSloMs * p.alpha))
  else if ¬ p.FitsExactly est (m.criticalNbytes.fdiv 2) then
    recomputePlan planId "deadline_miss_even_with_int8"
  else if !enableRefinement || m.refinementNbytes.getD 0 == 0 then
    int8OnlyPlan planId m (intOfRat (p.ttftSloMs * p.alpha))
  else int8ThenFp16Plan planId m (max 100 (intOfRat (p.ttftSloMs * (3 / 10))))
    (intOfRat (p.ttftSloMs * p.alpha))

/-- **Planning in exact arithmetic**, over a network with some bandwidth. -/
theorem plan_exact (hs : p.minPrefixTokens ≤ m.matchedTokens) (hb : est.bandwidthBps ≠ 0) :
    p.plan .exact est planId m er = .ok (p.exactPlan est planId m er) := by
  have hbudget : p.ttftBudgetMs .exact = .ok (p.ttftSloMs * p.alpha) := rfl
  have hrefine : p.refineBudgetMs .exact = .ok (max 100 (intOfRat (p.ttftSloMs * (3 / 10)))) := rfl
  simp only [plan, if_neg (not_lt.mpr hs), hbudget, loadTimeMs_exact hb, hrefine, Py.ok_bind, pure, Except.pure,
    DoubleOps.exact_lt, DoubleOps.exact_ge, DoubleOps.exact_toInt, exactPlan, FitsExactly, not_lt]
  split_ifs <;> rfl

theorem exactPlan_recompute : (p.exactPlan est planId m er).mode = .recompute ↔
    ¬ p.FitsExactly est m.criticalNbytes ∧ ¬ p.FitsExactly est (m.criticalNbytes.fdiv 2) := by
  unfold exactPlan
  split_ifs with hfit hhalf hskip
  · exact iff_of_false (by simp [fullFp16Plan]) fun h => h.1 hfit
  · exact iff_of_false (by simp [int8OnlyPlan]) fun h => h.2 hhalf
  · exact iff_of_false (by simp [int8ThenFp16Plan]) fun h => h.2 hhalf
  · exact iff_of_true rfl ⟨hfit, hhalf⟩

/-- Without any bandwidth only short prefixes have a plan. -/
theorem plan_exact_zero (hs : p.minPrefixTokens ≤ m.matchedTokens) (hb : est.bandwidthBps = 0) :
    ∃ e, p.plan .exact est planId m er = .error e := by
  obtain ⟨e, he⟩ := loadTimeMs_exact_zero hb m.criticalNbytes
  exact ⟨e, by rw [plan, if_neg (not_lt.mpr hs), he]; rfl⟩

end DeadlinePlanner

end AwareKV
