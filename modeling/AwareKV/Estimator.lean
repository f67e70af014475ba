import AwareKV.Deadline
import AwareKV.Lib.Smoothing

/-!
# AwareKV.Estimator — what the estimator holds after any updates

Both estimates are exponentially smoothed measurements, the bandwidth those of the transfers with a
positive duration and the round trip time the positive ones: `observeAll_eq`.

* `estimates_within_observed`: they stay between the least and the greatest of what was observed.
* `plan_returns_iff`: the planner raises in one case only, after a transfer of no bytes that replaced
  the bandwidth estimate.
-/

namespace AwareKV

open Smoothing

/-! ## Samples -/

/-- The arguments of a call of `BandwidthEstimator.update`, and its time. -/
structure Sample where
  nbytes : ℤ
  durationMs : ℚ
  rttMs : Option ℚ := none
  now : ℤ := 0

namespace Sample

/-- The throughput that the sample measures, if it measures one. -/
def bps? (s : Sample) : Option ℚ :=
  if 0 < s.durationMs then some (s.nbytes * 8 * 1000 / s.durationMs) else none

/-- The round trip time that the sample measures, if it measures one. -/
def rtt? (s : Sample) : Option ℚ := s.rttMs.filter (fun r => 0 < r)

end Sample

/-- The throughputs that a history measures. -/
def throughputs (history : List Sample) : List ℚ := history.filterMap Sample.bps?

/-- The round trip times that a history measures. -/
def roundTrips (history : List Sample) : List ℚ := history.filterMap Sample.rtt?

/-- The bytes of the last transfer that took any time. -/
def lastTransferred (history : List Sample) : Option ℤ :=
  (history.filter (fun s => 0 < s.durationMs)).getLast?.map Sample.nbytes

/-! ## Estimators -/

/-- A moving average takes in a measurement, if there is one. -/
def ewma (alpha avg : ℚ) (measured : Option ℚ) : ℚ :=
  match measured with
  | some x => alpha * x + (1 - alpha) * avg
  | none => avg

theorem ewma_eq_smoothed (alpha avg : ℚ) (measured : Option ℚ) :
    ewma alpha avg measured = smoothed alpha avg measured.toList := by
  cases measured <;> rfl

namespace BandwidthEstimator

/-- `update` with a sample. -/
def observe (e : BandwidthEstimator) (s : Sample) : BandwidthEstimator :=
  e.update s.nbytes s.durationMs s.rttMs s.now

/-- **What `update` does**: both averages take in what the sample measures. -/
theorem observe_eq (e : BandwidthEstimator) (s : Sample) :
    e.observe s = { e with
      ewmaBps := ewma e.alpha e.ewmaBps s.bps?
      ewmaRttMs := ewma e.alpha e.ewmaRttMs s.rtt?
      lastUpdateMs := s.now } := by
  obtain ⟨nbytes, durationMs, rttMs, now⟩ := s
  cases rttMs with
  | none => by_cases hd : 0 < durationMs <;> simp [observe, update, Sample.bps?, Sample.rtt?, ewma, hd]
  | some r =>
    by_cases hd : 0 < durationMs <;> by_cases hr : 0 < r <;>
      simp [observe, update, Sample.bps?, Sample.rtt?, ewma, Option.filter, hd, hr]

/-- The estimator with the given `alpha` after a history of samples. -/
def observeAll (alpha : ℚ) (history : List Sample) : BandwidthEstimator :=
  history.foldl observe { alpha := alpha }

theorem observeAll_snoc (alpha : ℚ) (history : List Sample) (s : Sample) :
    observeAll alpha (history ++ [s]) = (observeAll alpha history).observe s := List.foldl_append

/-- **What a history leaves**: the smoothed measurements. -/
theorem observeAll_eq (alpha : ℚ) (history : List Sample) : observeAll alpha history =
    { alpha := alpha, ewmaBps := smoothed alpha 1000000000 (throughputs history),
      ewmaRttMs := smoothed alpha 10 (roundTrips history),
      lastUpdateMs := (history.getLast?.map Sample.now).getD 0 } := by
  induction history using List.reverseRecOn with
  | nil => rfl
  | append_singleton history s ih =>
    have hsnoc : ∀ f : Sample → Option ℚ,
        (history ++ [s]).filterMap f = history.filterMap f ++ (f s).toList := by
      intro f
      rw [List.filterMap_append]
      cases hs : f s <;> simp [hs]
    rw [observeAll_snoc, ih, observe_eq, ewma_eq_smoothed, ewma_eq_smoothed, throughputs, throughputs,
      roundTrips, roundTrips, hsnoc, hsnoc, smoothed_append, smoothed_append, List.getLast?_concat]
    rfl

end BandwidthEstimator

open BandwidthEstimator

/-! ### The range of the estimates -/

/-- **The estimates stay within what was observed**: after any updates the bandwidth estimate lies between
the least and the greatest of its initial value and the measured throughputs, and the estimate of the round
trip time between those of its initial value and its samples; an update without a sample for an estimate
leaves it as it is. -/
theorem estimates_within_observed (alpha : ℚ) (h0 : 0 ≤ alpha) (h1 : alpha ≤ 1) (history : List Sample) :
    (∃ lo hi, IsLeast {b | b ∈ 1000000000 :: throughputs history} lo ∧
        IsGreatest {b | b ∈ 1000000000 :: throughputs history} hi ∧
        lo ≤ (observeAll alpha history).ewmaBps ∧ (observeAll alpha history).ewmaBps ≤ hi) ∧
      (∃ lo hi, IsLeast {r | r ∈ 10 :: roundTrips history} lo ∧
        IsGreatest {r | r ∈ 10 :: roundTrips history} hi ∧
        lo ≤ (observeAll alpha history).ewmaRttMs ∧ (observeAll alpha history).ewmaRttMs ≤ hi) ∧
      ∀ s : Sample,
        (s.durationMs ≤ 0 →
          (observeAll alpha (history ++ [s])).ewmaBps = (observeAll alpha history).ewmaBps) ∧
        ((∀ r, s.rttMs = some r → r ≤ 0) →
          (observeAll alpha (history ++ [s])).ewmaRttMs = (observeAll alpha history).ewmaRttMs) := by
  refine ⟨?_, ?_, fun s => ⟨fun hd => ?_, fun hr => ?_⟩⟩
  · rw [observeAll_eq]
    exact smoothed_hull h0 h1 _ _
  · rw [observeAll_eq]
    exact smoothed_hull h0 h1 _ _
  · have hnone : s.bps? = none := if_neg (not_lt.mpr hd)
    rw [observeAll_snoc, observe_eq, hnone]
    rfl
  · have hnone : s.rtt? = none := by
      rw [Sample.rtt?, Option.filter_eq_none_iff]
      intro r hs
      simpa using hr r hs
    rw [observeAll_snoc, observe_eq, hnone]
    rfl

/-- A transfer with a round trip, then an update with neither. -/
theorem estimates_within_observed_two :
    (observeAll (1 / 2) ([{ nbytes := 1000, durationMs := 1, rttMs := some 4 }] ++
        [{ nbytes := 5, durationMs := 0 }])).ewmaBps =
      (observeAll (1 / 2) [{ nbytes := 1000, durationMs := 1, rttMs := some 4 }]).ewmaBps :=
  ((estimates_within_observed (1 / 2) (by norm_num) (by norm_num)
    [{ nbytes := 1000, durationMs := 1, rttMs := some 4 }]).2.2 { nbytes := 5, durationMs := 0 }).1 le_rfl

/-! ### Division by the estimate -/

/-- A throughput is zero where nothing was sent. -/
theorem getLast?_throughputs (history : List Sample) :
    (throughputs history).getLast? = some 0 ↔ lastTransferred history = some 0 := by
  have hmeasured : throughputs history = (history.filter (fun s => 0 < s.durationMs)).map
      (fun s => (s.nbytes : ℚ) * 8 * 1000 / s.durationMs) := by
    rw [throughputs]
    induction history with
    | nil => rfl
    | cons s history ih =>
      by_cases hd : 0 < s.durationMs
      · rw [List.filterMap_cons_some (show s.bps? = _ from if_pos hd), ih,
          List.filter_cons_of_pos (by simpa using hd), List.map_cons]
      · rw [List.filterMap_cons_none (show s.bps? = none from if_neg hd), ih,
          List.filter_cons_of_neg (by simpa using hd)]
  rw [hmeasured, lastTransferred, List.getLast?_map]
  cases hlast : (history.filter (fun s => 0 < s.durationMs)).getLast? with
  | none => simp
  | some s =>
    have hd : 0 < s.durationMs := by
      simpa using (List.mem_filter.mp (List.mem_of_getLast? hlast)).2
    simp [hd.ne']

theorem throughputs_nonneg {history : List Sample} (h : ∀ s ∈ history, 0 ≤ s.nbytes) :
    ∀ b ∈ throughputs history, 0 ≤ b := by
  intro b hb
  obtain ⟨s, hs, hb⟩ := List.mem_filterMap.mp hb
  unfold Sample.bps? at hb
  split_ifs at hb with hd
  obtain rfl := Option.some.inj hb
  have hn : (0 : ℚ) ≤ s.nbytes := by exact_mod_cast h s hs
  positivity

/-- A prefix that is long enough is planned exactly if there is a bandwidth to divide by. -/
theorem plan_isOk_iff (p : DeadlinePlanner) (est : NetworkEstimate) (planId : String) (m : PrefixManifest)
    (enableRefinement : Bool) :
    (∃ plan, p.plan .exact est planId m enableRefinement = .ok plan) ↔
      m.matchedTokens < p.minPrefixTokens ∨ est.bandwidthBps ≠ 0 := by
  rcases lt_or_ge m.matchedTokens p.minPrefixTokens with hshort | hlong
  · exact iff_of_true ⟨_, by rw [DeadlinePlanner.plan, if_pos hshort]⟩ (Or.inl hshort)
  by_cases hb : est.bandwidthBps = 0
  · obtain ⟨e, hp⟩ : ∃ e, p.plan .exact est planId m enableRefinement = .error e :=
      DeadlinePlanner.plan_exact_zero hlong hb
    refine iff_of_false ?_ ?_
    · rintro ⟨plan, hplan⟩
      rw [hp] at hplan
      cases hplan
    · rintro (hshort | hne)
      · omega
      · exact hne hb
  · exact iff_of_true ⟨_, DeadlinePlanner.plan_exact hlong hb⟩ (Or.inr hb)

/-- **The planner returns a plan** after any updates, and the bandwidth that it divides by is positive,
unless each throughput replaces the estimate and the last one was of a transfer of no bytes; a prefix that
is too short does not need the estimate. -/
theorem plan_returns_iff (alpha : ℚ) (h0 : 0 ≤ alpha) (h1 : alpha ≤ 1) (history : List Sample)
    (hbytes : ∀ s ∈ history, 0 ≤ s.nbytes) (p : DeadlinePlanner) (planId : String) (m : PrefixManifest)
    (enableRefinement : Bool) :
    (0 < (observeAll alpha history).getEstimate.bandwidthBps ↔
        ¬ (alpha = 1 ∧ lastTransferred history = some 0)) ∧
      ((∃ plan, p.plan .exact (observeAll alpha history).getEstimate planId m enableRefinement = .ok plan) ↔
        m.matchedTokens < p.minPrefixTokens ∨ ¬ (alpha = 1 ∧ lastTransferred history = some 0)) := by
  have hbps : (observeAll alpha history).getEstimate.bandwidthBps =
      smoothed alpha 1000000000 (throughputs history) := by
    rw [observeAll_eq]
    rfl
  have hsamples := throughputs_nonneg hbytes
  have hnonneg := smoothed_nonneg h0 h1 (by norm_num : (0 : ℚ) ≤ 1000000000) hsamples
  have hzero := smoothed_eq_zero_iff h0 h1 (by norm_num : (0 : ℚ) < 1000000000) hsamples
  rw [getLast?_throughputs, ← hbps] at hzero
  rw [← hbps] at hnonneg
  rw [← hzero]
  exact ⟨hnonneg.lt_iff_ne', plan_isOk_iff p _ planId m enableRefinement⟩

/-- Half of the estimate survives a transfer of no bytes. -/
theorem plan_returns_iff_half :
    ∃ plan, planner400.plan .exact (observeAll (1 / 2) [{ nbytes := 0, durationMs := 1 }]).getEstimate "plan"
      manifest50 true = .ok plan :=
  (plan_returns_iff (1 / 2) (by norm_num) (by norm_num) [{ nbytes := 0, durationMs := 1 }] (by simp)
    planner400 "plan" manifest50 true).2.mpr (Or.inr fun h => absurd h.1 (by norm_num))

/-- With `alpha = 1` a transfer of no bytes makes the estimate zero, and the planner divides by it. -/
theorem plan_divides_by_zero :
    planner400.plan .exact (observeAll 1 [{ nbytes := 0, durationMs := 1 }]).getEstimate "plan" manifest50 true =
      .error ⟨.zeroDivisionError, "float division by zero"⟩ := by
  decide +kernel

end AwareKV
