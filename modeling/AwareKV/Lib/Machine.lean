import Mathlib.Data.List.Basic
import Mathlib.Data.List.Induction
import Mathlib.Tactic.Common

/-!
# AwareKV.Lib.Machine — deterministic machines that answer every input

A machine has an initial state and a total step function which also returns an answer (a call that
raises answers with its exception).  `exec` is the state after a list of inputs, `trace` the inputs
paired with their answers.

* `trace_induction`: one step lemma gives a fact about every run, stated on the history and the
  state together.
* `observe_exec`: what each input changes in a fixed way is a fold over the inputs.
* `EveryStep P`: every step of a run satisfies `P`, which sees the inputs before it.
* `guarded_induction`: the same induction for the runs all of whose steps meet a condition.
* `throughout_iff`: an invariant that a step keeps exactly under a condition.
* `persists`: what the inputs of a kind keep, a run of them keeps.
* `provenance`: what is held at the end was born in some step.
* `projection`: a part of a machine that makes the steps of another one makes its runs.
* `unwinding`: what a run has in common with the run of some of its inputs only.
* `simulation`: a machine each of whose steps is some steps of another one has the other's runs.
-/

namespace AwareKV

/-- A deterministic machine with states `σ`, inputs `ι` and answers `ο`. -/
structure Machine (σ ι ο : Type*) where
  init : σ
  step : σ → ι → σ × ο

/-- Where an input of a longer history stands: at its end, or in the history before that. -/
theorem snoc_eq_append_cons {ι : Type*} {ops pre post : List ι} {i j : ι} :
    ops ++ [i] = pre ++ j :: post ↔
      (post = [] ∧ ops = pre ∧ i = j) ∨ ∃ post', post = post' ++ [i] ∧ ops = pre ++ j :: post' := by
  constructor
  · intro h
    rcases List.eq_nil_or_concat post with rfl | ⟨post', k, rfl⟩
    · obtain ⟨rfl, hij⟩ := List.append_inj' h rfl
      cases hij
      exact Or.inl ⟨rfl, rfl, rfl⟩
    · have hlast : ops ++ [i] = (pre ++ j :: post') ++ [k] := by simpa using h
      obtain ⟨rfl, hik⟩ := List.append_inj' hlast rfl
      cases hik
      exact Or.inr ⟨post', List.concat_eq_append, rfl⟩
  · rintro (⟨rfl, rfl, rfl⟩ | ⟨post', rfl, rfl⟩)
    · rfl
    · rw [List.append_assoc, List.cons_append]

/-- Every step of the run `ops` satisfies `P`, a condition on the inputs before it and its own. -/
def EveryStep {ι : Type*} (P : List ι → ι → Prop) (ops : List ι) : Prop :=
  ∀ pre i post, ops = pre ++ i :: post → P pre i

section EveryStep

variable {ι : Type*} {P Q : List ι → ι → Prop}

@[simp] theorem everyStep_nil : EveryStep P [] := by
  intro pre i post h
  simp at h

theorem everyStep_snoc {ops : List ι} {i : ι} :
    EveryStep P (ops ++ [i]) ↔ EveryStep P ops ∧ P ops i := by
  constructor
  · intro h
    refine ⟨fun pre j post hops => h pre j (post ++ [i]) (by simp [hops]), h ops i [] rfl⟩
  · rintro ⟨h, hi⟩ pre j post hops
    rcases snoc_eq_append_cons.mp hops with ⟨-, rfl, rfl⟩ | ⟨post', -, hpre⟩
    · exact hi
    · exact h pre j post' hpre

theorem everyStep_singleton {i : ι} : EveryStep P [i] ↔ P [] i := by
  rw [← List.nil_append [i], everyStep_snoc]
  simp

theorem EveryStep.mono {ops : List ι} (h : EveryStep P ops)
    (hPQ : ∀ pre i, P pre i → Q pre i) : EveryStep Q ops :=
  fun pre i post hops => hPQ pre i (h pre i post hops)

theorem everyStep_congr {ops : List ι} (h : ∀ pre i, P pre i ↔ Q pre i) :
    EveryStep P ops ↔ EveryStep Q ops :=
  ⟨fun hP => hP.mono fun pre i => (h pre i).mp, fun hQ => hQ.mono fun pre i => (h pre i).mpr⟩

/-- The inputs that `g` keeps, each step of which satisfies `P`. -/
theorem everyStep_filterMap {κ : Type*} {g : ι → Option κ} {P : List κ → κ → Prop} {ops : List ι}
    (h : EveryStep (fun pre i => ∀ k, g i = some k → P (pre.filterMap g) k) ops) :
    EveryStep P (ops.filterMap g) := by
  induction ops using List.reverseRecOn with
  | nil => exact everyStep_nil
  | append_singleton ops i ih =>
    obtain ⟨hpre, hi⟩ := everyStep_snoc.mp h
    rw [List.filterMap_append]
    cases hg : g i with
    | none =>
      have hnone : [i].filterMap g = [] := by simp [hg]
      rw [hnone, List.append_nil]
      exact ih hpre
    | some k =>
      have hone : [i].filterMap g = [k] := by simp [hg]
      rw [hone]
      exact everyStep_snoc.mpr ⟨ih hpre, hi k hg⟩

end EveryStep

namespace Machine

variable {σ ι ο : Type*} (M : Machine σ ι ο)

/-- The state after the inputs `ops`, from `s`. -/
def execFrom (s : σ) (ops : List ι) : σ := ops.foldl (fun s i => (M.step s i).1) s

/-- The state after the inputs `ops`, from the initial state. -/
def exec (ops : List ι) : σ := M.execFrom M.init ops

/-- The answer to `i` after the inputs `pre`. -/
def answer (pre : List ι) (i : ι) : ο := (M.step (M.exec pre) i).2

/-- The inputs with their answers, from `s`. -/
def traceFrom (s : σ) : List ι → List (ι × ο)
  | [] => []
  | i :: is => (i, (M.step s i).2) :: traceFrom (M.step s i).1 is

/-- The inputs with their answers, from the initial state. -/
def trace (ops : List ι) : List (ι × ο) := M.traceFrom M.init ops

@[simp] theorem exec_nil : M.exec [] = M.init := rfl

theorem execFrom_append (s : σ) (xs ys : List ι) :
    M.execFrom s (xs ++ ys) = M.execFrom (M.execFrom s xs) ys := List.foldl_append

theorem exec_snoc (ops : List ι) (i : ι) :
    M.exec (ops ++ [i]) = (M.step (M.exec ops) i).1 := M.execFrom_append _ ops [i]

@[simp] theorem trace_nil : M.trace [] = [] := rfl

theorem traceFrom_append (xs ys : List ι) (s : σ) :
    M.traceFrom s (xs ++ ys) = M.traceFrom s xs ++ M.traceFrom (M.execFrom s xs) ys := by
  induction xs generalizing s with
  | nil => rfl
  | cons x xs ih => simp only [List.cons_append, traceFrom, ih]; rfl

theorem trace_snoc (ops : List ι) (i : ι) :
    M.trace (ops ++ [i]) = M.trace ops ++ [(i, M.answer ops i)] :=
  M.traceFrom_append ops [i] M.init

/-- What `f` notes at each step, from the state before it and its input. -/
def notesFrom {β : Type*} (f : σ → ι → List β) (s : σ) : List ι → List β
  | [] => []
  | i :: is => f s i ++ notesFrom f (M.step s i).1 is

/-- What `f` notes, from the initial state. -/
def notes {β : Type*} (f : σ → ι → List β) (ops : List ι) : List β := M.notesFrom f M.init ops

theorem notesFrom_append {β : Type*} (f : σ → ι → List β) (xs ys : List ι) (s : σ) :
    M.notesFrom f s (xs ++ ys) = M.notesFrom f s xs ++ M.notesFrom f (M.execFrom s xs) ys := by
  induction xs generalizing s with
  | nil => rfl
  | cons x xs ih =>
    simp only [List.cons_append, notesFrom, ih, List.append_assoc]
    rfl

theorem notes_snoc {β : Type*} (f : σ → ι → List β) (ops : List ι) (i : ι) :
    M.notes f (ops ++ [i]) = M.notes f ops ++ f (M.exec ops) i := by
  rw [notes, notesFrom_append]
  simp only [notesFrom, List.append_nil]
  rfl

/-- What is noted was noted at some step. -/
theorem mem_notes {β : Type*} {f : σ → ι → List β} {ops : List ι} {x : β} :
    x ∈ M.notes f ops ↔ ∃ pre i post, ops = pre ++ i :: post ∧ x ∈ f (M.exec pre) i := by
  induction ops using List.reverseRecOn with
  | nil => simp [notes, notesFrom]
  | append_singleton ops i ih =>
    rw [notes_snoc, List.mem_append, ih]
    constructor
    · rintro (⟨pre, j, post, rfl, hx⟩ | hx)
      · exact ⟨pre, j, post ++ [i], by simp, hx⟩
      · exact ⟨ops, i, [], rfl, hx⟩
    · rintro ⟨pre, j, post, hops, hx⟩
      rcases snoc_eq_append_cons.mp hops with ⟨-, rfl, rfl⟩ | ⟨post', -, rfl⟩
      · exact Or.inr hx
      · exact Or.inl ⟨pre, j, post', rfl, hx⟩

/-- **Step rule**: a fact about history and state that holds at the start and survives every step
holds of every run. -/
theorem trace_induction {I : List (ι × ο) → σ → Prop} (h0 : I [] M.init)
    (hstep : ∀ tr s i, I tr s → I (tr ++ [(i, (M.step s i).2)]) (M.step s i).1) (ops : List ι) :
    I (M.trace ops) (M.exec ops) := by
  induction ops using List.reverseRecOn with
  | nil => exact h0
  | append_singleton ops i ih =>
    rw [trace_snoc, exec_snoc]
    exact hstep _ _ i ih

/-- An invariant of the states. -/
theorem invariant {I : σ → Prop} (h0 : I M.init) (hstep : ∀ s i, I s → I (M.step s i).1)
    (ops : List ι) : I (M.exec ops) :=
  M.trace_induction (I := fun _ s => I s) h0 (fun _ s i h => hstep s i h) ops

/-- **Observation rule**: what is seen of the state is a fold over the inputs, if each step changes it
by the input alone. -/
theorem observe_exec {β : Type*} (obs : σ → β) (f : β → ι → β)
    (hstep : ∀ s i, obs (M.step s i).1 = f (obs s) i) (ops : List ι) :
    obs (M.exec ops) = ops.foldl f (obs M.init) := by
  induction ops using List.reverseRecOn with
  | nil => rfl
  | append_singleton ops i ih =>
    rw [exec_snoc, hstep, ih, List.foldl_append]
    rfl

/-- The step rule for the runs all of whose steps meet the condition `C`. -/
theorem guarded_induction {I : List (ι × ο) → σ → Prop} {C : σ → ι → Prop} (h0 : I [] M.init)
    (hstep : ∀ tr s i, I tr s → C s i → I (tr ++ [(i, (M.step s i).2)]) (M.step s i).1)
    (ops : List ι) (hC : EveryStep (fun pre i => C (M.exec pre) i) ops) :
    I (M.trace ops) (M.exec ops) := by
  induction ops using List.reverseRecOn with
  | nil => exact h0
  | append_singleton ops i ih =>
    obtain ⟨hpre, hi⟩ := everyStep_snoc.mp hC
    rw [trace_snoc, exec_snoc]
    exact hstep _ _ i (ih hpre) hi

/-- **Throughout rule**: if under the invariant `I` a step keeps `I` exactly when it meets `C`, then `I`
holds throughout a run exactly when every step meets `C`. -/
theorem throughout_iff {I : σ → Prop} {C : σ → ι → Prop} (h0 : I M.init)
    (hstep : ∀ s i, I s → (I (M.step s i).1 ↔ C s i)) (ops : List ι) :
    (∀ pre post, ops = pre ++ post → I (M.exec pre)) ↔
      EveryStep (fun pre i => C (M.exec pre) i) ops := by
  constructor
  · rintro h pre i post rfl
    have hnext := h (pre ++ [i]) post (by simp)
    rw [exec_snoc] at hnext
    exact (hstep _ i (h pre (i :: post) rfl)).mp hnext
  · rintro h pre post rfl
    refine M.guarded_induction (I := fun _ s => I s) h0 (fun _ s i hs hi => (hstep s i hs).mpr hi) pre ?_
    rintro pre' i post' rfl
    exact h pre' i (post' ++ post) (by simp)

/-- What holds of every entry of a trace, read off the steps. -/
theorem forall_mem_trace {P : ι × ο → Prop} {ops : List ι} :
    (∀ x ∈ M.trace ops, P x) ↔ EveryStep (fun pre i => P (i, M.answer pre i)) ops := by
  induction ops using List.reverseRecOn with
  | nil => simp
  | append_singleton ops i ih =>
    rw [trace_snoc, everyStep_snoc, ← ih]
    simp [or_imp, forall_and]

/-- **Projection rule**: if the part of `M` that is seen through `view` makes in each step the steps of
`N` that `f` notes, it makes a run of `N`. -/
theorem projection {τ κ π : Type*} {N : Machine τ κ π} (view : σ → τ) (f : σ → ι → List κ)
    (h0 : view M.init = N.init) (hstep : ∀ s i, view (M.step s i).1 = N.execFrom (view s) (f s i))
    (ops : List ι) : view (M.exec ops) = N.exec (M.notes f ops) := by
  induction ops using List.reverseRecOn with
  | nil => exact h0
  | append_singleton ops i ih =>
    rw [exec_snoc, hstep, ih, notes_snoc]
    exact (N.execFrom_append N.init _ _).symm

/-- **Persistence rule**: a fact that inputs of a kind keep holds on after a run of such inputs. -/
theorem persists {I : σ → Prop} {C : ι → Prop}
    (hstep : ∀ pre i, I (M.exec pre) → C i → I (M.step (M.exec pre) i).1) {pre ops : List ι}
    (h : I (M.exec pre)) (hC : ∀ i ∈ ops, C i) : I (M.exec (pre ++ ops)) := by
  induction ops using List.reverseRecOn with
  | nil => rwa [List.append_nil]
  | append_singleton ops i ih =>
    rw [← List.append_assoc, exec_snoc]
    exact hstep _ i (ih fun j hj => hC j (List.mem_append_left _ hj)) (hC i (by simp))

/-- **Provenance rule**: if what the state holds (`H`) after a step was held before it or was born in it (`B`),
then what it holds after a run was there at the start or was born in one of the steps. -/
theorem provenance {β : Type*} {H : σ → β → Prop} {B : σ → ι → β → Prop}
    (hstep : ∀ pre i x, H (M.step (M.exec pre) i).1 x → H (M.exec pre) x ∨ B (M.exec pre) i x)
    (ops : List ι) {x : β} (h : H (M.exec ops) x) :
    H M.init x ∨ ∃ pre i post, ops = pre ++ i :: post ∧ B (M.exec pre) i x := by
  induction ops using List.reverseRecOn with
  | nil => exact Or.inl h
  | append_singleton ops i ih =>
    rw [exec_snoc] at h
    rcases hstep _ i x h with hold | hborn
    · rcases ih hold with h0 | ⟨pre, j, post, rfl, hj⟩
      · exact Or.inl h0
      · exact Or.inr ⟨pre, j, post ++ [i], by simp, hj⟩
    · exact Or.inr ⟨ops, i, [], rfl, hborn⟩

section Unwinding

variable {M}

/-- **Unwinding rule**: two runs of `M`, the second one with counterparts of the first one's own
inputs only.  If own inputs keep the states related and get related answers, and other inputs keep
the states related, then this holds of whole runs. -/
theorem unwinding {own : ι → Bool} {R : σ → σ → Prop} {S : ι → ι → Prop} {Q : ο → ο → Prop}
    (hown : ∀ s t i j, own i = true → S i j → R s t →
      R (M.step s i).1 (M.step t j).1 ∧ Q (M.step s i).2 (M.step t j).2)
    (hother : ∀ s t i, own i = false → R s t → R (M.step s i).1 t) {ops ops' : List ι}
    (hops : List.Forall₂ S (ops.filter own) ops') {s t : σ} (h : R s t) :
    R (M.execFrom s ops) (M.execFrom t ops') ∧
      List.Forall₂ (fun x y => Q x.2 y.2) ((M.traceFrom s ops).filter (fun x => own x.1))
        (M.traceFrom t ops') := by
  induction ops generalizing s t ops' with
  | nil =>
    cases hops
    exact ⟨h, .nil⟩
  | cons i ops ih =>
    cases hi : own i with
    | false =>
      rw [List.filter_cons_of_neg (by simp [hi])] at hops
      have hrest := ih hops (hother s t i hi h)
      rw [traceFrom, List.filter_cons_of_neg (by simp [hi])]
      exact hrest
    | true =>
      rw [List.filter_cons_of_pos hi] at hops
      cases hops with
      | cons hij hops =>
        obtain ⟨hstep, hans⟩ := hown s t i _ hi hij h
        obtain ⟨hexec, htrace⟩ := ih hops hstep
        rw [traceFrom, List.filter_cons_of_pos (by simp [hi])]
        exact ⟨hexec, .cons hans htrace⟩

end Unwinding

section Simulation

variable {M} {τ κ π : Type*} {N : Machine τ κ π}

/-- **Simulation rule**: if a step of `M` is, under the abstraction `abs`, the steps `lab` of `N`, and
`out` reads their answers off the step of `M`, then this holds of whole runs. -/
theorem simulation (abs : σ → τ) (lab : ι × ο → List κ) (out : ι × ο → List π)
    (h0 : abs M.init = N.init)
    (hstep : ∀ s i, abs (M.step s i).1 = N.execFrom (abs s) (lab (i, (M.step s i).2)))
    (hout : ∀ s i, out (i, (M.step s i).2) =
      (N.traceFrom (abs s) (lab (i, (M.step s i).2))).map Prod.snd) (ops : List ι) :
    abs (M.exec ops) = N.exec ((M.trace ops).flatMap lab) ∧
      (M.trace ops).flatMap out = (N.trace ((M.trace ops).flatMap lab)).map Prod.snd := by
  refine M.trace_induction
    (I := fun tr s => abs s = N.exec (tr.flatMap lab) ∧
      tr.flatMap out = (N.trace (tr.flatMap lab)).map Prod.snd) ⟨h0, rfl⟩ ?_ ops
  rintro tr s i ⟨hs, htr⟩
  simp only [List.flatMap_append, List.flatMap_singleton]
  constructor
  · rw [hstep, hs]
    exact (N.execFrom_append N.init _ _).symm
  · rw [htr, hout, hs, trace, trace, traceFrom_append, List.map_append]
    rfl

end Simulation

end Machine

end AwareKV
