import Mathlib.Algebra.BigOperators.Intervals
import Mathlib.Algebra.BigOperators.Ring.Finset
import Mathlib.Algebra.Order.BigOperators.Group.Finset
import Mathlib.Algebra.Order.Field.Rat
import Mathlib.Data.NNRat.Defs
import Mathlib.Data.Rat.Cast.Order
import Mathlib.Tactic.Linarith
import Mathlib.Tactic.Positivity
import Mathlib.Tactic.Ring

/-!
# AwareKV.Throttling — the throttle of the transport

Translation of `transport/throttling.py` in exact rational arithmetic.  The world owns the clock: some time
passes between the return of a call and the next one (`pause`), and a sleep may take longer than it was
asked to (`late`).

* `throttle_gap`: the time from one return to the next.
* `windows_rate_iff`: for which runs a rate holds in every window.
* `bit_rate_iff`: the configured rate is kept in bytes, and in bits only by chance.
-/

namespace AwareKV

/-- `Throttler`. -/
structure Throttler where
  bandwidthBps : ℚ
  lastSendTime : ℚ := 0

/-- A call of `throttle`: its argument, the time that has passed since the call before it returned, and the
time that passes beyond its sleep. -/
structure ThrottleCall where
  nbytes : ℕ
  pause : ℚ≥0
  late : ℚ≥0

namespace Throttler

/-- `throttle` at time `now`, and the time at which it returns. -/
def throttle (t : Throttler) (nbytes : ℤ) (now late : ℚ) : Throttler × ℚ :=
  if t.bandwidthBps ≤ 0 then (t, now)
  else
    let requiredTimeS := nbytes / t.bandwidthBps
    let elapsed := now - t.lastSendTime
    let now := if elapsed < requiredTimeS then
        let sleepTime := requiredTimeS - elapsed
        now + sleepTime
      else now
    let now := now + late
    ({ t with lastSendTime := now }, now)

/-- The throttle and the clock after the first calls, from a new throttle at time `start`. -/
def after (bandwidthBps start : ℚ) (calls : ℕ → ThrottleCall) : ℕ → Throttler × ℚ
  | 0 => ({ bandwidthBps := bandwidthBps }, start)
  | k + 1 =>
    let (t, clock) := after bandwidthBps start calls k
    t.throttle (calls k).nbytes (clock + (calls k).pause) (calls k).late

/-- The time at which the `k`-th call returns. -/
def returnTime (bandwidthBps start : ℚ) (calls : ℕ → ThrottleCall) (k : ℕ) : ℚ :=
  (after bandwidthBps start calls k).2

variable {bandwidthBps : ℚ} (start : ℚ) (calls : ℕ → ThrottleCall)

/-! ### One call -/

/-- A call returns when its bytes have had the time they need since the last send, and later if it is
made later or the sleep takes longer. -/
theorem throttle_eq {t : Throttler} (h : 0 < t.bandwidthBps) (nbytes : ℤ) (now late : ℚ) :
    t.throttle nbytes now late =
      ({ t with lastSendTime := max now (t.lastSendTime + nbytes / t.bandwidthBps) + late },
        max now (t.lastSendTime + nbytes / t.bandwidthBps) + late) := by
  unfold throttle
  rw [if_neg (not_le.mpr h)]
  dsimp only
  by_cases hwait : now - t.lastSendTime < nbytes / t.bandwidthBps
  · rw [if_pos hwait, max_eq_right (by linarith)]
    have hsleep : now + (nbytes / t.bandwidthBps - (now - t.lastSendTime)) =
        t.lastSendTime + nbytes / t.bandwidthBps := by ring
    rw [hsleep]
  · rw [if_neg hwait, max_eq_left (by linarith)]

/-- After the first call, the last send is the last return. -/
theorem after_succ (h : 0 < bandwidthBps) (k : ℕ) :
    (after bandwidthBps start calls (k + 1)).1 =
      { bandwidthBps := bandwidthBps, lastSendTime := returnTime bandwidthBps start calls (k + 1) } := by
  induction k with
  | zero =>
    rw [returnTime, after, after]
    dsimp only
    rw [throttle_eq h]
  | succ k ih =>
    rw [returnTime, after]
    dsimp only
    rw [ih, throttle_eq h]

/-- **The time from one return to the next**: the pause, or what the bytes take if that is more, and the
lateness of the sleep. -/
theorem throttle_gap (h : 0 < bandwidthBps) (k : ℕ) :
    returnTime bandwidthBps start calls (k + 2) - returnTime bandwidthBps start calls (k + 1) =
      max ((calls (k + 1)).pause : ℚ) ((calls (k + 1)).nbytes / bandwidthBps) + (calls (k + 1)).late := by
  have hnext : returnTime bandwidthBps start calls (k + 2) =
      ((after bandwidthBps start calls (k + 1)).1.throttle (calls (k + 1)).nbytes
        (returnTime bandwidthBps start calls (k + 1) + (calls (k + 1)).pause) (calls (k + 1)).late).2 := rfl
  rw [hnext, after_succ start calls h, throttle_eq h]
  dsimp only
  rw [max_add_add_left, Int.cast_natCast]
  ring

end Throttler

/-! ## Windows -/

/-- A bound for every window of a run is one for every step. -/
theorem windows_iff (f g : ℕ → ℚ) (first count : ℕ) :
    (∀ i j, first ≤ i → i < j → j ≤ count → ∑ k ∈ Finset.Ico i j, g k ≤ f j - f i) ↔
      ∀ k, first ≤ k → k < count → g k ≤ f (k + 1) - f k := by
  constructor
  · intro h k hk hcount
    have hone := h k (k + 1) hk (Nat.lt_succ_self k) hcount
    rwa [Nat.Ico_succ_singleton, Finset.sum_singleton] at hone
  · intro h i j hi hij hj
    rw [← Finset.sum_Ico_sub f hij.le]
    refine Finset.sum_le_sum fun k hk => ?_
    obtain ⟨hik, hkj⟩ := Finset.mem_Ico.mp hk
    exact h k (hi.trans hik) (hkj.trans_le hj)

open Throttler

/-- **Rates**: `weight` for each byte is within the bandwidth in every window of a run exactly if it is in
every call after the first. -/
theorem windows_rate_iff {bandwidthBps : ℚ} (h : 0 < bandwidthBps) (start weight : ℚ)
    (calls : ℕ → ThrottleCall) (count : ℕ) :
    (∀ i j, 1 ≤ i → i < j → j ≤ count →
        weight * ∑ k ∈ Finset.Ico i j, ((calls k).nbytes : ℚ) ≤
          bandwidthBps * (returnTime bandwidthBps start calls j - returnTime bandwidthBps start calls i)) ↔
      ∀ k, 1 ≤ k → k < count →
        weight * (calls k).nbytes ≤
          max (bandwidthBps * (calls k).pause) (calls k).nbytes + bandwidthBps * (calls k).late := by
  have hgap : ∀ k, 1 ≤ k →
      bandwidthBps * returnTime bandwidthBps start calls (k + 1) -
          bandwidthBps * returnTime bandwidthBps start calls k =
        max (bandwidthBps * (calls k).pause) (calls k).nbytes + bandwidthBps * (calls k).late := by
    intro k hk
    obtain ⟨k, rfl⟩ := Nat.exists_eq_add_of_le' hk
    rw [← mul_sub, throttle_gap start calls h, mul_add, mul_max_of_nonneg _ _ h.le,
      mul_div_cancel₀ _ h.ne']
  have hwindows := windows_iff (fun k => bandwidthBps * returnTime bandwidthBps start calls k)
    (fun k => weight * (calls k).nbytes) 1 count
  simp only [← Finset.mul_sum, ← mul_sub] at hwindows
  rw [hwindows]
  refine forall_congr' fun k => forall_congr' fun hk => ?_
  rw [mul_sub, hgap k hk]

/-- **The rate is kept in bytes**: no window carries more bytes than the bandwidth allows bits. -/
theorem byte_rate {bandwidthBps : ℚ} (h : 0 < bandwidthBps) (start : ℚ) (calls : ℕ → ThrottleCall)
    {i j : ℕ} (hi : 1 ≤ i) (hij : i < j) :
    ∑ k ∈ Finset.Ico i j, ((calls k).nbytes : ℚ) ≤
      bandwidthBps * (returnTime bandwidthBps start calls j - returnTime bandwidthBps start calls i) := by
  rw [← one_mul (∑ k ∈ Finset.Ico i j, _)]
  refine (windows_rate_iff h start 1 calls j).mpr (fun k _ _ => ?_) i j hi hij le_rfl
  rw [one_mul]
  have hlate : 0 ≤ bandwidthBps * (calls k).late := by positivity
  exact (le_max_right _ _).trans (le_add_of_nonneg_right hlate)

/-- **The rate in bits**: with `t k` the return of the `k`-th call, eight bits for each byte stay within the
bandwidth in every window exactly if every call after the first had the time for them anyway, by the
pause before it or by the lateness of the sleep. -/
theorem bit_rate_iff (bandwidthBps : ℚ) (h : 0 < bandwidthBps) (start : ℚ) (calls : ℕ → ThrottleCall)
    (count : ℕ) :
    (∀ i j, 1 ≤ i → i < j → j ≤ count →
        8 * ∑ k ∈ Finset.Ico i j, ((calls k).nbytes : ℚ) ≤
          bandwidthBps * (returnTime bandwidthBps start calls j - returnTime bandwidthBps start calls i)) ↔
      ∀ k, 1 ≤ k → k < count →
        8 * ((calls k).nbytes : ℚ) ≤
          max (bandwidthBps * (calls k).pause) (calls k).nbytes + bandwidthBps * (calls k).late :=
  windows_rate_iff h start 8 calls count

/-- 10 bytes at a time, after pauses of eight seconds. -/
def pausedCalls : ℕ → ThrottleCall := fun _ => ⟨10, 8, 0⟩

/-- At 10 bits per second the pauses are just long enough. -/
theorem bit_rate_iff_paused :
    8 * ∑ k ∈ Finset.Ico 1 3, ((pausedCalls k).nbytes : ℚ) ≤
      10 * (returnTime 10 5 pausedCalls 3 - returnTime 10 5 pausedCalls 1) :=
  (bit_rate_iff 10 (by norm_num) 5 pausedCalls 3).mpr (fun k _ _ => by norm_num [pausedCalls]) 1 3 le_rfl
    (by decide) le_rfl

/-- Two calls of 10 bytes at once, at 10 bits per second: the second one returns after one second. -/
theorem bit_rate_exceeded :
    ¬ 8 * ∑ k ∈ Finset.Ico 1 2, (((fun _ => ⟨10, 0, 0⟩ : ℕ → ThrottleCall) k).nbytes : ℚ) ≤
      10 * (returnTime 10 1000 (fun _ => ⟨10, 0, 0⟩) 2 - returnTime 10 1000 (fun _ => ⟨10, 0, 0⟩) 1) := by
  decide +kernel

end AwareKV
