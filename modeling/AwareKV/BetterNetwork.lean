import AwareKV.Estimator
import Mathlib.Data.List.Forall2
import Mathlib.Tactic.GCongr

/-!
# AwareKV.BetterNetwork — a better network does not lead to a worse plan

Two estimators are fed samples in step.  `Sample.Better` compares one sample with the other,
`BandwidthEstimator.Better` what the estimators hold, `NoSlower` two readings; every `update` keeps the
second (`Better.observe`), so a whole history does (`Better.observeAll`).

* `FitsExactly.mono`: what loads in time over the slower network loads in time over the other.
* `plan_rank`: the rank of a plan, read off the two comparisons that the planner makes.
* `better_network_plan`: histories, readings and plans put together.
-/

namespace AwareKV

/-! ## Samples -/

/-- The two samples measure the same things, the first one no less throughput and no longer round
trips. -/
structure Sample.Better (s₁ s₂ : Sample) : Prop where
  bps : Option.Rel (fun a b => a ≤ b) s₂.bps? s₁.bps?
  rtt : Option.Rel (fun a b => a ≤ b) s₁.rtt? s₂.rtt?

/-! ## Estimators -/

/-- Moving averages keep the order of what they take in. -/
theorem ewma_mono {alpha : ℚ} (h0 : 0 ≤ alpha) (h1 : alpha ≤ 1) {avg avg' : ℚ} (havg : avg ≤ avg')
    {x x' : Option ℚ} (hx : Option.Rel (fun a b => a ≤ b) x x') : ewma alpha avg x ≤ ewma alpha avg' x' := by
  have hrest : 0 ≤ 1 - alpha := sub_nonneg.mpr h1
  rcases hx with hle | -
  · show alpha * _ + (1 - alpha) * avg ≤ alpha * _ + (1 - alpha) * avg'
    gcongr
  · exact havg

namespace BandwidthEstimator

/-- The first estimator has seen the better network. -/
structure Better (e₁ e₂ : BandwidthEstimator) : Prop where
  alpha : e₁.alpha = e₂.alpha
  bps : e₂.ewmaBps ≤ e₁.ewmaBps
  rtt : e₁.ewmaRttMs ≤ e₂.ewmaRttMs

/-- A step: the better sample goes to the better estimator. -/
theorem Better.observe {e₁ e₂ : BandwidthEstimator} (he : Better e₁ e₂) (h0 : 0 ≤ e₂.alpha)
    (h1 : e₂.alpha ≤ 1) {s₁ s₂ : Sample} (hs : s₁.Better s₂) : Better (e₁.observe s₁) (e₂.observe s₂) := by
  rw [observe_eq, observe_eq]
  refine ⟨he.alpha, ?_, ?_⟩
  · show ewma e₂.alpha e₂.ewmaBps s₂.bps? ≤ ewma e₁.alpha e₁.ewmaBps s₁.bps?
    rw [he.alpha]
    exact ewma_mono h0 h1 he.bps hs.bps
  · show ewma e₁.alpha e₁.ewmaRttMs s₁.rtt? ≤ ewma e₂.alpha e₂.ewmaRttMs s₂.rtt?
    rw [he.alpha]
    exact ewma_mono h0 h1 he.rtt hs.rtt

/-- **A run**: with every sample better, the estimator is better. -/
theorem Better.observeAll {alpha : ℚ} (h0 : 0 ≤ alpha) (h1 : alpha ≤ 1) {history₁ history₂ : List Sample}
    (h : List.Forall₂ Sample.Better history₁ history₂) :
    Better (observeAll alpha history₁) (observeAll alpha history₂) := by
  -- the second estimator keeps its `alpha`, which every step needs
  have hrun : ∀ e₁ e₂ : BandwidthEstimator, Better e₁ e₂ ∧ e₂.alpha = alpha →
      Better (history₁.foldl BandwidthEstimator.observe e₁) (history₂.foldl BandwidthEstimator.observe e₂) ∧
        (history₂.foldl BandwidthEstimator.observe e₂).alpha = alpha := by
    induction h with
    | nil => exact fun e₁ e₂ he => he
    | cons hs _ ih =>
      rintro e₁ e₂ ⟨he, halpha⟩
      refine ih _ _ ⟨he.observe (halpha.symm ▸ h0) (halpha.symm ▸ h1) hs, ?_⟩
      rw [observe_eq]
      exact halpha
  exact (hrun _ _ ⟨⟨rfl, le_refl _, le_refl _⟩, rfl⟩).1

end BandwidthEstimator

/-! ## Plans -/

/-- The order of the modes: recompute, then the two int8 modes, then fp16. -/
def PlanMode.rank : PlanMode → ℕ
  | .recompute => 0
  | .criticalInt8Only => 1
  | .criticalInt8ThenFp16 => 1
  | .fullFp16 => 2

/-- The first reading has no less bandwidth and no longer round trips. -/
structure NoSlower (est₁ est₂ : NetworkEstimate) : Prop where
  positive : 0 < est₂.bandwidthBps
  bandwidth : est₂.bandwidthBps ≤ est₁.bandwidthBps
  rtt : est₁.rttMs ≤ est₂.rttMs

namespace DeadlinePlanner

variable {p : DeadlinePlanner} {est est₁ est₂ : NetworkEstimate} {m : PrefixManifest}

/-- Fewer bytes over a network that is no slower also load in time. -/
theorem FitsExactly.mono (hest : NoSlower est₁ est₂) {n₁ n₂ : ℤ} (h0 : 0 ≤ n₁) (hn : n₁ ≤ n₂)
    (h : p.FitsExactly est₂ n₂) : p.FitsExactly est₁ n₁ := by
  have hpos : (0 : ℚ) < est₂.bandwidthBps := hest.positive
  have hn' : (n₁ : ℚ) ≤ n₂ := by exact_mod_cast hn
  have hn0 : (0 : ℚ) ≤ n₂ := by exact_mod_cast h0.trans hn
  have hload : (n₁ : ℚ) * 8 * 1000 / est₁.bandwidthBps ≤ (n₂ : ℚ) * 8 * 1000 / est₂.bandwidthBps := by
    have hbytes : (n₁ : ℚ) * 8 * 1000 ≤ n₂ * 8 * 1000 := by linarith
    exact div_le_div₀ (by linarith) hbytes hpos hest.bandwidth
  have htime := add_le_add hest.rtt hload
  exact lt_of_le_of_lt htime h

/-- The rank of the plan for a manifest. -/
def planRank (p : DeadlinePlanner) (est : NetworkEstimate) (m : PrefixManifest) : ℕ :=
  if m.matchedTokens < p.minPrefixTokens then 0
  else if p.FitsExactly est m.criticalNbytes then 2
  else if p.FitsExactly est (m.criticalNbytes.fdiv 2) then 1
  else 0

/-- **The planner makes a plan of that rank**, over a network with some bandwidth. -/
theorem plan_rank (hb : est.bandwidthBps ≠ 0) (planId : String) (er : Bool) :
    ∃ pl, p.plan .exact est planId m er = .ok pl ∧ pl.mode.rank = p.planRank est m := by
  unfold planRank
  by_cases hs : m.matchedTokens < p.minPrefixTokens
  · exact ⟨recomputePlan planId "prefix_too_short", by rw [plan, if_pos hs], by rw [if_pos hs]; rfl⟩
  · rw [plan_exact (not_lt.mp hs) hb, if_neg hs]
    refine ⟨_, rfl, ?_⟩
    unfold exactPlan
    split_ifs <;> rfl

/-- Planning keeps the order of networks and sizes. -/
theorem planRank_mono (hest : NoSlower est₁ est₂) {n₁ n₂ : ℤ} (h0 : 0 ≤ n₁) (hn : n₁ ≤ n₂) :
    p.planRank est₂ { m with criticalNbytes := n₂ } ≤ p.planRank est₁ { m with criticalNbytes := n₁ } := by
  have hfull : p.FitsExactly est₂ n₂ → p.FitsExactly est₁ n₁ := FitsExactly.mono hest h0 hn
  have hhalf : p.FitsExactly est₂ (n₂.fdiv 2) → p.FitsExactly est₁ (n₁.fdiv 2) := by
    rw [Int.fdiv_eq_ediv_of_nonneg _ (by omega), Int.fdiv_eq_ediv_of_nonneg _ (by omega)]
    exact FitsExactly.mono hest (by omega) (by omega)
  unfold planRank
  dsimp only
  by_cases hs : m.matchedTokens < p.minPrefixTokens
  · rw [if_pos hs, if_pos hs]
  rw [if_neg hs, if_neg hs]
  by_cases h2 : p.FitsExactly est₂ n₂
  · rw [if_pos h2, if_pos (hfull h2)]
  rw [if_neg h2]
  by_cases h1 : p.FitsExactly est₂ (n₂.fdiv 2)
  · rw [if_pos h1, if_pos (hhalf h1)]
    split_ifs <;> omega
  · rw [if_neg h1]
    exact Nat.zero_le _

end DeadlinePlanner

open DeadlinePlanner in
/-- **Better network, no worse plan.**  The first estimator's samples and the first manifest's size
are no worse at every step; then neither is its plan. -/
theorem better_network_plan {alpha : ℚ} (h0 : 0 ≤ alpha) (h1 : alpha ≤ 1) {history₁ history₂ : List Sample}
    (h : List.Forall₂ Sample.Better history₁ history₂)
    (hpos : 0 < (BandwidthEstimator.observeAll alpha history₂).getEstimate.bandwidthBps)
    (m : PrefixManifest) {n₁ n₂ : ℤ} (hn0 : 0 ≤ n₁) (hn : n₁ ≤ n₂) (p : DeadlinePlanner)
    (enableRefinement : Bool) (planId₁ planId₂ : String) :
    ∃ pl₁ pl₂,
      p.plan .exact (BandwidthEstimator.observeAll alpha history₁).getEstimate planId₁
          { m with criticalNbytes := n₁ } enableRefinement = .ok pl₁ ∧
        p.plan .exact (BandwidthEstimator.observeAll alpha history₂).getEstimate planId₂
          { m with criticalNbytes := n₂ } enableRefinement = .ok pl₂ ∧
        pl₂.mode.rank ≤ pl₁.mode.rank := by
  have hbetter := BandwidthEstimator.Better.observeAll h0 h1 h
  have hest : NoSlower (BandwidthEstimator.observeAll alpha history₁).getEstimate
      (BandwidthEstimator.observeAll alpha history₂).getEstimate := ⟨hpos, hbetter.bps, hbetter.rtt⟩
  obtain ⟨pl₁, hpl₁, hr₁⟩ := plan_rank (p := p) (m := { m with criticalNbytes := n₁ })
    (lt_of_lt_of_le hpos hest.bandwidth).ne' planId₁ enableRefinement
  obtain ⟨pl₂, hpl₂, hr₂⟩ := plan_rank (p := p) (m := { m with criticalNbytes := n₂ }) hpos.ne' planId₂
    enableRefinement
  refine ⟨pl₁, pl₂, hpl₁, hpl₂, ?_⟩
  rw [hr₁, hr₂]
  exact planRank_mono hest hn0 hn

/-- 25 MB measured in 200 ms and in 500 ms, the second time with a longer round trip: the plan for
20 MB ranks no lower than the plan for 50 MB. -/
theorem better_network_plan_25 :
    ∃ pl₁ pl₂,
      planner400.plan .exact (BandwidthEstimator.observeAll (1 / 2) [⟨25000000, 200, some 5, 1⟩]).getEstimate "a"
          { manifest50 with criticalNbytes := 20000000 } true = .ok pl₁ ∧
        planner400.plan .exact (BandwidthEstimator.observeAll (1 / 2) [⟨25000000, 500, some 8, 2⟩]).getEstimate "b"
          { manifest50 with criticalNbytes := 50000000 } true = .ok pl₂ ∧
        pl₂.mode.rank ≤ pl₁.mode.rank :=
  better_network_plan (by norm_num) (by norm_num)
    (.cons ⟨.some (by norm_num), .some (by norm_num)⟩ .nil) (by decide +kernel) manifest50 (by decide)
    (by decide) planner400 true "a" "b"

end AwareKV
