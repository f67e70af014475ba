import Mathlib.Data.List.Infix
import Mathlib.Tactic.Common

/-!
# AwareKV.Lib.Loop — `while` loops over a state

`Exits cond body s n s'` is what a `while` loop means: it leaves after exactly `n` rounds, in `s'`.
`run` executes a loop with a bound on its rounds.

* `exits_run`: a measure that every round decreases bounds the rounds.
* `Exits.invariant`: what every round keeps holds at the end.
* `Exits.stopped`: the condition is false at the end.
* `Exits.longestSuffix`: a loop that takes elements off the front of a list as long as the list is not
  good leaves its longest good suffix.
-/

namespace AwareKV.Loop

variable {σ : Type*} (cond : σ → Bool) (body : σ → σ)

/-- The loop, for at most `n` rounds. -/
def run : ℕ → σ → σ
  | 0, s => s
  | n + 1, s => if cond s then run n (body s) else s

/-- The loop started in `s` leaves after `n` rounds in `s'`. -/
inductive Exits : σ → ℕ → σ → Prop
  | stop {s : σ} (h : cond s = false) : Exits s 0 s
  | round {s s' : σ} {n : ℕ} (h : cond s = true) (hrest : Exits (body s) n s') : Exits s (n + 1) s'

variable {cond body}

theorem run_of_stopped {s : σ} (h : cond s = false) (n : ℕ) : run cond body n s = s := by
  cases n with
  | zero => rfl
  | succ n => rw [run, h, if_neg Bool.false_ne_true]

/-- **Termination rule**: a loop whose rounds decrease a measure leaves. -/
theorem exits_run (measure : σ → ℕ) (hdec : ∀ s, cond s = true → measure (body s) < measure s) :
    ∀ (n : ℕ) (s : σ), measure s ≤ n → ∃ k ≤ measure s, Exits cond body s k (run cond body n s)
  | 0, s, hn => by
    have hstop : cond s = false := by
      by_contra hc
      have hlt := hdec s (by simpa using hc)
      omega
    exact ⟨0, Nat.zero_le _, .stop hstop⟩
  | n + 1, s, hn => by
    rw [run]
    by_cases hc : cond s = true
    · have hlt := hdec s hc
      obtain ⟨k, hk, hrest⟩ := exits_run measure hdec n (body s) (by omega)
      rw [if_pos hc]
      exact ⟨k + 1, by omega, .round hc hrest⟩
    · rw [if_neg hc]
      exact ⟨0, Nat.zero_le _, .stop (by simpa using hc)⟩

namespace Exits

variable {s s' : σ} {n : ℕ}

/-- **Invariant rule**. -/
theorem invariant {I : σ → Prop} (h : Exits cond body s n s')
    (hI : ∀ s, cond s = true → I s → I (body s)) (h0 : I s) : I s' := by
  induction h with
  | stop _ => exact h0
  | round hc _ ih => exact ih (hI _ hc h0)

theorem stopped (h : Exits cond body s n s') : cond s' = false := by
  induction h with
  | stop hc => exact hc
  | round _ _ ih => exact ih

end Exits

/-! ### Taking elements off the front -/

section Suffix

variable {α : Type*} {P : List α → Prop} {xs kept kept' : List α}

/-- `kept` is the longest suffix of `xs` that satisfies `P`. -/
structure LongestSuffix (P : List α → Prop) (xs kept : List α) : Prop where
  suffix : kept <:+ xs
  holds : P kept
  longest : ∀ s, s <:+ xs → P s → s <:+ kept

namespace LongestSuffix

theorem self (h : P xs) : LongestSuffix P xs xs := ⟨List.suffix_rfl, h, fun _ hs _ => hs⟩

/-- The first element is not in it when the whole list does not satisfy `P`. -/
theorem cons {x : α} (hx : ¬ P (x :: xs)) (h : LongestSuffix P xs kept) :
    LongestSuffix P (x :: xs) kept := by
  refine ⟨h.suffix.trans (List.suffix_cons x xs), h.holds, fun s hs hP => ?_⟩
  rcases List.suffix_cons_iff.mp hs with rfl | hs
  · exact absurd hP hx
  · exact h.longest s hs hP

theorem unique (h : LongestSuffix P xs kept) (h' : LongestSuffix P xs kept') : kept = kept' :=
  (h'.longest kept h.suffix h.holds).eq_of_length_le (h.longest kept' h'.suffix h'.holds).length_le

end LongestSuffix

/-- **Suffix rule**: under an invariant `I`, a loop whose rounds take one element off the list `view`, and
that goes on exactly while `P` fails there, leaves the longest suffix that satisfies `P`. -/
theorem Exits.longestSuffix {I : σ → Prop} (view : σ → List α) {s s' : σ} {n : ℕ}
    (h : Exits cond body s n s') (hI : ∀ s, cond s = true → I s → I (body s))
    (hpop : ∀ s, cond s = true → ∃ x, view s = x :: view (body s))
    (hcond : ∀ s, I s → (cond s = false ↔ P (view s))) (h0 : I s) :
    LongestSuffix P (view s) (view s') := by
  induction h with
  | stop hc => exact .self ((hcond _ h0).mp hc)
  | @round s s' n hc _ ih =>
    obtain ⟨x, hx⟩ := hpop s hc
    have hfails : ¬ P (x :: view (body s)) := fun hP => by
      rw [← hx] at hP
      rw [(hcond s h0).mpr hP] at hc
      cases hc
    rw [hx]
    exact .cons hfails (ih (hI s hc h0))

end Suffix

end AwareKV.Loop
