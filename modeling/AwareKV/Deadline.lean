import AwareKV.Metadata
import AwareKV.Planner
import AwareKV.Worker

/-!
# AwareKV.Deadline — the time of what is really fetched

The planner compares two byte counts with the deadline: all critical bytes, and half of them.  The
metadata and the worker know one critical object only.  `fetch_in_time_iff` compares the planner's
time for that object with the deadline, in exact arithmetic: a plan to load is in time unless it was made
on the half.
-/

namespace AwareKV

open DeadlinePlanner

variable {α : Type} {p : DeadlinePlanner} {est : NetworkEstimate} {planId : String} {m : PrefixManifest}
  {enableRefinement : Bool}

/-- For every plan to load, what `start_load_kv` fetches for the metadata of manifest and plan is the
manifest's critical object, and the planner's time for its bytes is below the deadline. -/
def FetchInTime (α : Type) (p : DeadlinePlanner) (est : NetworkEstimate) (planId : String) (m : PrefixManifest)
    (enableRefinement : Bool) : Prop :=
  ∀ plan, p.plan .exact est planId m enableRefinement = .ok plan → plan.mode ≠ .recompute →
    ∀ st blocks md, st.manifest = some m → st.plan = some plan →
      buildMetadataFromState st blocks = some md →
        (∀ (cfg : DeadlineKVConfig) (fo : FloatOps) (w : WorkerSide α) (env : LoadEnv),
          (w.startLoadKv cfg fo md env).1.fetches =
            w.fetches ++ [⟨.critical, m.criticalObjectId, st.requestId⟩]) ∧
          est.rttMs + (md.criticalNbytes : ℚ) * 8 * 1000 / est.bandwidthBps < p.ttftSloMs * p.alpha

/-- Metadata carries the manifest's critical object, whatever the plan. -/
theorem buildMetadata_critical {st : RequestTransferState} {blocks : Option (List ℤ)}
    {md : DeadlineConnectorMetadata} (hm : st.manifest = some m)
    (hb : buildMetadataFromState st blocks = some md) :
    md.requestId = st.requestId ∧ md.criticalObjectId = m.criticalObjectId ∧
      md.criticalNbytes = m.criticalNbytes := by
  obtain ⟨m', plan', hm', -, rfl⟩ := buildMetadataFromState_eq_some.mp hb
  rw [hm, Option.some.injEq] at hm'
  subst hm'
  exact ⟨rfl, rfl, rfl⟩

/-- A state with a manifest and a plan. -/
def stateWith (m : PrefixManifest) (plan : TransferPlan) : RequestTransferState :=
  { requestId := "", manifest := some m, plan := some plan }

/-- **What is fetched is in time exactly when the manifest is too short to load, all its critical
bytes fit, or not even half of them do.** -/
theorem fetch_in_time_iff (hb : 0 < est.bandwidthBps) :
    FetchInTime α p est planId m enableRefinement ↔
      m.matchedTokens < p.minPrefixTokens ∨ p.FitsExactly est m.criticalNbytes ∨
        ¬ p.FitsExactly est (m.criticalNbytes.fdiv 2) := by
  constructor
  · intro h
    by_contra hno
    obtain ⟨hs, hlate, hhalf⟩ : ¬ m.matchedTokens < p.minPrefixTokens ∧ ¬ p.FitsExactly est m.criticalNbytes ∧
        p.FitsExactly est (m.criticalNbytes.fdiv 2) := by
      rwa [not_or, not_or, not_not] at hno
    have hmode : (p.exactPlan est planId m enableRefinement).mode ≠ .recompute :=
      fun hrec => (exactPlan_recompute.mp hrec).2 hhalf
    exact hlate (h _ (plan_exact (not_lt.mp hs) hb.ne') hmode (stateWith m _) none _ rfl rfl rfl).2
  · intro h plan hp hmode st blocks md hst _ hmd
    obtain ⟨hid, hobject, hbytes⟩ := buildMetadata_critical hst hmd
    have hlong : p.minPrefixTokens ≤ m.matchedTokens := by
      by_contra hs
      rw [DeadlinePlanner.plan, if_pos (not_le.mp hs)] at hp
      cases hp
      exact hmode rfl
    rw [plan_exact hlong hb.ne'] at hp
    cases hp
    have hfit : p.FitsExactly est m.criticalNbytes := by
      rcases h with hs | hfit | hnot
      · exact absurd hlong (not_le.mpr hs)
      · exact hfit
      · by_contra hlate
        exact hmode (exactPlan_recompute.mpr ⟨hlate, hnot⟩)
    refine ⟨fun cfg fo w env => ?_, by rw [hbytes]; exact hfit⟩
    rw [WorkerSide.startLoadKv_fetches, hobject, hid]

/-- A planner for a deadline of 400 ms. -/
def planner400 : DeadlinePlanner := { ttftSloMs := 500 }

/-- A network of 1 Gbit/s. -/
def gigabit : NetworkEstimate := { bandwidthBps := 1000000000, rttMs := 10 }

/-- A manifest with 50 MB of critical bytes. -/
def manifest50 : PrefixManifest :=
  { prefixKey := "key", modelId := "m", tokenizerId := "m", kvLayoutVersion := "v1-block-first",
    blockSize := 16, cacheDtype := "float16", matchedTokens := 1024, matchedBlocks := [], numLayers := 32,
    createdAtMs := 0, lastAccessMs := 0, ttlS := 3600, criticalCodec := "int8_symm",
    criticalNbytes := 50000000, criticalObjectId := "object" }

/-- The criterion for 50 MB in 400 ms. -/
theorem fetch_in_time_50 :
    FetchInTime Half planner400 gigabit "plan" manifest50 true ↔
      manifest50.matchedTokens < planner400.minPrefixTokens ∨
        planner400.FitsExactly gigabit manifest50.criticalNbytes ∨
        ¬ planner400.FitsExactly gigabit (manifest50.criticalNbytes.fdiv 2) :=
  fetch_in_time_iff (by decide +kernel)

/-- 50 MB take 410 ms; their plan is made on 25 MB, which take 210 ms. -/
theorem fetch_late_50 : ¬ FetchInTime Half planner400 gigabit "plan" manifest50 true := by
  intro h
  have hlate := (h (int8OnlyPlan "plan" manifest50 400) (by decide +kernel) (by decide)
    (stateWith manifest50 (int8OnlyPlan "plan" manifest50 400)) none _ rfl rfl rfl).2
  revert hlate
  decide +kernel

end AwareKV
