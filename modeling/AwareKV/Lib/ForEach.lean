import Mathlib.Data.List.Induction
import Mathlib.Tactic.Common

/-!
# AwareKV.Lib.ForEach — `for` loops whose body may raise

`forEach xs body s` runs the body for one item after the other.  A body that raises (`none`) leaves the
state alone and ends the loop, so what earlier rounds did stays; the second component says whether the
loop came to its end.

* `forEach_stuck`: a body that at most raises changes nothing.
* `forEach_overwrite`: a loop over `enumerate(xs)` that writes `val i` under the key `xs[i]` leaves under
  every key what was written last (`lastPos`).
-/

namespace AwareKV

variable {ι σ κ ρ : Type*}

/-! ## The last position of an item -/

section LastPos

variable [DecidableEq ι]

/-- The last position of `x`, if it occurs. -/
def lastPos : List ι → ι → Option ℕ
  | [], _ => none
  | y :: ys, x =>
    match lastPos ys x with
    | some i => some (i + 1)
    | none => if y = x then some 0 else none

@[simp] theorem lastPos_nil (x : ι) : lastPos [] x = none := rfl

theorem lastPos_concat (xs : List ι) (y x : ι) :
    lastPos (xs ++ [y]) x = if y = x then some xs.length else lastPos xs x := by
  induction xs with
  | nil => rfl
  | cons z zs ih =>
    rw [List.cons_append, lastPos, ih]
    by_cases hyx : y = x
    · rw [if_pos hyx, if_pos hyx, List.length_cons]
    · rw [if_neg hyx, if_neg hyx, lastPos]

/-- What the last position is. -/
theorem lastPos_eq_some {xs : List ι} {x : ι} {i : ℕ} :
    lastPos xs x = some i ↔ xs[i]? = some x ∧ ∀ j, i < j → xs[j]? ≠ some x := by
  induction xs using List.reverseRecOn with
  | nil => simp
  | append_singleton ys y ih =>
    rw [lastPos_concat]
    by_cases hyx : y = x
    · rw [if_pos hyx, Option.some.injEq]
      constructor
      · rintro rfl
        refine ⟨by simp [hyx], fun j hj hget => ?_⟩
        rw [List.getElem?_eq_none (by rw [List.length_append, List.length_singleton]; omega)] at hget
        cases hget
      · rintro ⟨hget, hlast⟩
        have hlt : i < (ys ++ [y]).length := (List.getElem?_eq_some_iff.mp hget).1
        rw [List.length_append, List.length_singleton] at hlt
        by_contra hne
        exact hlast ys.length (by omega) (by simp [hyx])
    · have hend : ∀ j : ℕ, (ys ++ [y])[j]? = some x ↔ ys[j]? = some x := by
        intro j
        rcases Nat.lt_trichotomy j ys.length with hj | rfl | hj
        · rw [List.getElem?_append_left hj]
        · simp [hyx]
        · rw [List.getElem?_eq_none (by rw [List.length_append, List.length_singleton]; omega),
            List.getElem?_eq_none (by omega)]
      rw [if_neg hyx, ih]
      simp only [hend, ne_eq]

theorem lastPos_eq_none {xs : List ι} {x : ι} : lastPos xs x = none ↔ x ∉ xs := by
  induction xs using List.reverseRecOn with
  | nil => simp
  | append_singleton ys y ih =>
    rw [lastPos_concat]
    by_cases hyx : y = x
    · simp [hyx]
    · rw [if_neg hyx, ih]
      simp [Ne.symm hyx]

theorem exists_lastPos {xs : List ι} {x : ι} (h : x ∈ xs) : ∃ i, lastPos xs x = some i := by
  rw [← Option.ne_none_iff_exists', ne_eq, lastPos_eq_none]
  exact not_not.mpr h

/-- A last position that is early is the last position early on. -/
theorem lastPos_take {xs : List ι} {x : ι} {i m : ℕ} (h : lastPos xs x = some i) (hi : i < m) :
    lastPos (xs.take m) x = some i := by
  obtain ⟨hget, hlast⟩ := lastPos_eq_some.mp h
  refine lastPos_eq_some.mpr ⟨by rw [List.getElem?_take_of_lt hi, hget], fun j hj htake => ?_⟩
  by_cases hjm : j < m
  · rw [List.getElem?_take_of_lt hjm] at htake
    exact hlast j hj htake
  · rw [List.getElem?_eq_none (by rw [List.length_take]; omega)] at htake
    cases htake

/-- An item occurs late exactly when its last position is late. -/
theorem mem_drop_iff_lastPos {xs : List ι} {x : ι} {i m : ℕ} (h : lastPos xs x = some i) :
    x ∈ xs.drop m ↔ m ≤ i := by
  obtain ⟨hget, hlast⟩ := lastPos_eq_some.mp h
  rw [List.mem_iff_getElem?]
  simp only [List.getElem?_drop]
  constructor
  · rintro ⟨j, hj⟩
    by_contra hm
    exact hlast (m + j) (by omega) hj
  · intro hm
    exact ⟨i - m, by rw [Nat.add_sub_cancel' hm]; exact hget⟩

end LastPos

/-! ## Loops -/

/-- `for x in xs: body(x)` -/
def forEach : List ι → (ι → σ → Option σ) → σ → σ × Bool
  | [], _, s => (s, true)
  | x :: xs, body, s =>
    match body x s with
    | some s' => forEach xs body s'
    | none => (s, false)

variable {body : ι → σ → Option σ} {s s' : σ}

/-- One more item, after rounds that did not raise. -/
theorem forEach_concat {xs : List ι} (h : forEach xs body s = (s', true)) (x : ι) :
    forEach (xs ++ [x]) body s =
      match body x s' with
      | some s'' => (s'', true)
      | none => (s', false) := by
  induction xs generalizing s with
  | nil =>
    cases h
    rfl
  | cons y ys ih =>
    rw [forEach] at h
    rw [List.cons_append, forEach]
    cases hy : body y s with
    | none =>
      rw [hy] at h
      cases h
    | some s₁ =>
      rw [hy] at h
      exact ih h

/-- **A body that at most raises** changes nothing; the loop ends early exactly when a round raises. -/
theorem forEach_stuck {xs : List ι} (h : ∀ x ∈ xs, body x s = some s ∨ body x s = none) :
    (forEach xs body s).1 = s ∧ ((forEach xs body s).2 = false ↔ ∃ x ∈ xs, body x s = none) := by
  induction xs with
  | nil => exact ⟨rfl, by simp [forEach]⟩
  | cons x xs ih =>
    obtain ⟨hstate, hraise⟩ := ih fun y hy => h y (List.mem_cons_of_mem x hy)
    rw [forEach]
    rcases h x List.mem_cons_self with hx | hx
    · rw [hx]
      refine ⟨hstate, hraise.trans ?_⟩
      simp [hx]
    · rw [hx]
      exact ⟨rfl, iff_of_true rfl ⟨x, List.mem_cons_self, hx⟩⟩

/-- **Overwriting**: the first `m` rounds of a loop over `enumerate(xs)` each write under one key, and
the other rounds do nothing.  Then every key holds what was written under it last. -/
theorem forEach_overwrite [DecidableEq ι] {body : ι × ℕ → σ → Option σ} (I : σ → Prop) (view : σ → κ → ρ)
    {valid : κ → Prop} (key : κ → ι) (val : ℕ → ρ) (m : ℕ) {xs : List ι}
    (hbody : ∀ x i s, xs[i]? = some x → I s → ∃ s', body (x, i) s = some s' ∧ I s' ∧
      ∀ k, valid k → view s' k = if i < m ∧ x = key k then val i else view s k)
    (hs : I s) :
    ∃ s', forEach xs.zipIdx body s = (s', true) ∧ I s' ∧
      ∀ k, valid k → view s' k = (lastPos (xs.take m) (key k)).elim (view s k) val := by
  induction xs using List.reverseRecOn with
  | nil => exact ⟨s, rfl, hs, fun k _ => by simp⟩
  | append_singleton ys y ih =>
    obtain ⟨s₁, hrun, hI, hview⟩ := ih fun x i s hx => hbody x i s (by
      rw [List.getElem?_append_left (List.getElem?_eq_some_iff.mp hx).1, hx])
    obtain ⟨s₂, hstep, hI₂, hview₂⟩ := hbody y ys.length s₁ (by simp) hI
    have hzip : (ys ++ [y]).zipIdx = ys.zipIdx ++ [(y, ys.length)] := by simp [List.zipIdx_append]
    refine ⟨s₂, ?_, hI₂, fun k hk => ?_⟩
    · rw [hzip, forEach_concat hrun, hstep]
    rw [hview₂ k hk, hview k hk]
    by_cases hm : ys.length < m
    · have htake : (ys ++ [y]).take m = ys.take m ++ [y] := by
        rw [List.take_of_length_le (by rw [List.length_append, List.length_singleton]; omega),
          List.take_of_length_le (by omega)]
      rw [htake, lastPos_concat, List.take_of_length_le (by omega)]
      by_cases hyk : y = key k
      · rw [if_pos ⟨hm, hyk⟩, if_pos hyk]
        rfl
      · rw [if_neg fun h => hyk h.2, if_neg hyk]
    · rw [if_neg fun h => hm h.1, List.take_append_of_le_length (by omega)]

end AwareKV
