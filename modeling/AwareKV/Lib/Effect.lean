import Mathlib.Control.Basic

/-!
# AwareKV.Lib.Effect — computations with exceptions and a state

`Effect ε σ α`: a computation that reads and writes a state of type `σ` and either returns a value
or raises an exception.  An exception keeps the state that it was raised in.

* `Raises`: from any state the computation raises, and leaves the state as it was.
* `Raises.bind`, `raises_lift`: what comes before decides.
* `exec_tryCatch`: a handler goes on from the state that the exception was raised in.
* `Erases`: the result is that of a computation without the state.
* `logged`: a call that is entered in a log.
-/

namespace AwareKV

/-- Computations with exceptions `ε` and a state `σ`. -/
abbrev Effect (ε σ α : Type) := ExceptT ε (StateM σ) α

namespace Effect

variable {ε σ α β : Type}

/-- Result and final state. -/
def exec (x : Effect ε σ α) (s : σ) : Except ε α × σ := (ExceptT.run x).run s

/-- A computation without effects. -/
def lift (r : Except ε α) : Effect ε σ α := ExceptT.mk (pure r)

@[simp] theorem exec_pure (a : α) (s : σ) : exec (pure a : Effect ε σ α) s = (.ok a, s) := rfl

@[simp] theorem exec_lift (r : Except ε α) (s : σ) : exec (lift r : Effect ε σ α) s = (r, s) := rfl

@[simp] theorem exec_get (s : σ) : exec (get : Effect ε σ σ) s = (.ok s, s) := rfl

@[simp] theorem exec_set (s s' : σ) : exec (set s' : Effect ε σ PUnit) s = (.ok ⟨⟩, s') := rfl

theorem exec_bind (x : Effect ε σ α) (f : α → Effect ε σ β) (s : σ) :
    exec (x >>= f) s = match exec x s with
      | (.ok a, s') => exec (f a) s'
      | (.error e, s') => (.error e, s') := by
  simp only [exec, ExceptT.run_bind, StateT.run_bind]
  rcases h : (ExceptT.run x).run s with ⟨r, s'⟩
  cases r <;> rfl

theorem exec_tryCatch (x : Effect ε σ α) (handler : ε → Effect ε σ α) (s : σ) :
    exec (tryCatch x handler) s = match exec x s with
      | (.ok a, s') => (.ok a, s')
      | (.error e, s') => exec (handler e) s' := by
  simp only [exec, ExceptT.run_tryCatch, StateT.run_bind]
  rcases h : (ExceptT.run x).run s with ⟨r, s'⟩
  cases r <;> rfl

/-! ## Computations that raise -/

/-- Raises from every state, and changes none. -/
def Raises (x : Effect ε σ α) : Prop := ∀ s, ∃ e, exec x s = (.error e, s)

/-- What follows a computation that raises is not reached. -/
theorem Raises.bind {x : Effect ε σ α} (h : Raises x) (f : α → Effect ε σ β) : Raises (x >>= f) := by
  intro s
  obtain ⟨e, he⟩ := h s
  exact ⟨e, by rw [exec_bind, he]⟩

theorem raises_lift {r : Except ε α} (h : ∀ a, r ≠ .ok a) : Raises (lift r : Effect ε σ α) := by
  intro s
  cases r with
  | error e => exact ⟨e, rfl⟩
  | ok a => exact absurd rfl (h a)

/-! ## Forgetting the state -/

/-- From any state the result is `r`. -/
def Erases (x : Effect ε σ α) (r : Except ε α) : Prop := ∀ s, (exec x s).1 = r

theorem erases_lift (r : Except ε α) : Erases (lift r : Effect ε σ α) r := fun _ => rfl

theorem erases_pure (a : α) : Erases (pure a : Effect ε σ α) (.ok a) := fun _ => rfl

theorem Erases.bind {x : Effect ε σ α} {r : Except ε α} {f : α → Effect ε σ β} {g : α → Except ε β}
    (hx : Erases x r) (hf : ∀ a, Erases (f a) (g a)) : Erases (x >>= f) (r >>= g) := by
  intro s
  have hr := hx s
  rw [exec_bind]
  cases h : exec x s with
  | mk a s' =>
    rw [h] at hr
    subst hr
    cases a with
    | error e => rfl
    | ok a => exact hf a s'

/-! ## Logs -/

variable {κ ι : Type}

/-- A call that is entered in the log, whether it raises or not. -/
def logged (note : κ) (r : Except ε α) : Effect ε (List κ) α := do
  modify fun log => log ++ [note]
  lift r

@[simp] theorem exec_logged (note : κ) (r : Except ε α) (log : List κ) :
    exec (logged note r) log = (r, log ++ [note]) := rfl

/-- **A loop of logged calls** enters them in their order, up to the one that raises. -/
theorem exec_mapM_logged (note : ι → κ) (f : ι → Except ε α) (xs : List ι) (log : List κ) :
    ∃ seen, exec (xs.mapM fun x => logged (note x) (f x)) log = (xs.mapM f, log ++ seen) ∧
      seen <+: xs.map note ∧ ((∃ ys, xs.mapM f = .ok ys) → seen = xs.map note) := by
  induction xs generalizing log with
  | nil => exact ⟨[], by rw [List.append_nil]; rfl, List.prefix_rfl, fun _ => rfl⟩
  | cons x xs ih =>
    obtain ⟨seen, hrun, hprefix, hall⟩ := ih (log ++ [note x])
    rw [List.mapM_cons, List.mapM_cons, exec_bind, exec_logged]
    cases hx : f x with
    | error e => exact ⟨[note x], rfl, ⟨xs.map note, rfl⟩, fun ⟨ys, hys⟩ => by cases hys⟩
    | ok y =>
      refine ⟨note x :: seen, ?_, ?_, ?_⟩
      · dsimp only
        rw [exec_bind, hrun, List.append_assoc]
        cases xs.mapM f <;> rfl
      · rw [List.map_cons]
        exact (List.prefix_cons_inj _).mpr hprefix
      · rintro ⟨ys, hys⟩
        rw [List.map_cons, hall]
        cases hxs : xs.mapM f with
        | error e =>
          rw [hxs] at hys
          cases hys
        | ok zs => exact ⟨zs, rfl⟩

end Effect

end AwareKV
