import AwareKV.Lib.Machine

/-!
# AwareKV.Lib.Register — a value that events set, end and take

An event may set the value, it may end the value that is there, and it may take it, which ends it.

* `exec_eq_some_iff`: the value is the one that was set last, unless it was ended since.
* `taken_sublist`: the values that were taken are some of those that were set, in their order.
-/

namespace AwareKV

variable {ε ν : Type*}

/-- What events do to the value. -/
structure Register (ε ν : Type*) where
  sets : ε → Option ν
  ends : ν → ε → Bool
  takes : ε → Bool
  ends_of_takes : ∀ v e, takes e = true → ends v e = true
  sets_of_takes : ∀ e, takes e = true → sets e = none

namespace Register

variable (R : Register ε ν)

/-- The register as a machine: taking answers with the value that is there. -/
def machine : Machine (Option ν) ε (Option ν) where
  init := none
  step value e :=
    (match R.sets e with
      | some v => some v
      | none => value.filter (fun v => !R.ends v e),
    if R.takes e then value else none)

/-- The values that a run sets. -/
def setBy (events : List ε) : List ν := events.filterMap R.sets

/-- The values that a run takes. -/
def takenBy (events : List ε) : List ν := (R.machine.trace events).filterMap Prod.snd

variable {R} {events : List ε} {e : ε} {v : ν}

/-! ### One event -/

theorem step_set (h : R.sets e = some v) (value : Option ν) : (R.machine.step value e).1 = some v := by
  show (match R.sets e with | some v => some v | none => _) = some v
  rw [h]

theorem step_not_set (h : R.sets e = none) (value : Option ν) :
    (R.machine.step value e).1 = value.filter (fun v => !R.ends v e) := by
  show (match R.sets e with | some v => some v | none => _) = _
  rw [h]

/-- An event that ends every value leaves none. -/
theorem step_ended (h : R.sets e = none) (hends : ∀ v, R.ends v e = true) (value : Option ν) :
    (R.machine.step value e).1 = none := by
  rw [step_not_set h, Option.filter_eq_none_iff]
  intro v _
  simp [hends v]

/-- An event that ends no value leaves it. -/
theorem step_kept (h : R.sets e = none) (hends : ∀ v, R.ends v e = false) (value : Option ν) :
    (R.machine.step value e).1 = value := by
  rw [step_not_set h]
  cases value with
  | none => rfl
  | some v => simp [Option.filter, hends v]

/-! ### Runs -/

/-- **The value after a run.** -/
theorem exec_eq_some_iff : R.machine.exec events = some v ↔
    ∃ pre e post, events = pre ++ e :: post ∧ R.sets e = some v ∧
      ∀ x ∈ post, R.sets x = none ∧ R.ends v x = false := by
  induction events using List.reverseRecOn with
  | nil => exact ⟨fun h => (by cases h), fun ⟨pre, e, post, h, _⟩ => (by simp at h)⟩
  | append_singleton events e ih =>
    simp only [snoc_eq_append_cons]
    cases he : R.sets e with
    | some w =>
      rw [Machine.exec_snoc, step_set he]
      constructor
      · intro h
        exact ⟨events, e, [], Or.inl ⟨rfl, rfl, rfl⟩, he.trans h, by simp⟩
      · rintro ⟨pre, a, post, ⟨-, -, rfl⟩ | ⟨post', rfl, -⟩, ha, hpost⟩
        · exact he.symm.trans ha
        · rw [(hpost e (by simp)).1] at he
          cases he
    | none =>
      rw [Machine.exec_snoc, step_not_set he, Option.filter_eq_some_iff, ih]
      constructor
      · rintro ⟨⟨pre, a, post, rfl, ha, hpost⟩, hends⟩
        refine ⟨pre, a, post ++ [e], Or.inr ⟨post, rfl, rfl⟩, ha, fun x hx => ?_⟩
        rcases List.mem_append.mp hx with hx | hx
        · exact hpost x hx
        · rw [List.mem_singleton.mp hx]
          exact ⟨he, by simpa using hends⟩
      · rintro ⟨pre, a, post, ⟨-, -, rfl⟩ | ⟨post', rfl, hpre⟩, ha, hpost⟩
        · rw [ha] at he
          cases he
        · refine ⟨⟨pre, a, post', hpre, ha, fun y hy => hpost y (List.mem_append_left _ hy)⟩, ?_⟩
          simpa using (hpost e (by simp)).2

theorem takenBy_snoc : R.takenBy (events ++ [e]) =
    R.takenBy events ++ if R.takes e then (R.machine.exec events).toList else [] := by
  have hanswer : R.machine.answer events e = if R.takes e then R.machine.exec events else none := rfl
  rw [takenBy, Machine.trace_snoc, List.filterMap_append, ← takenBy, hanswer]
  split_ifs
  · cases R.machine.exec events <;> rfl
  · rfl

/-- **Each value is taken at most once**: what was taken, and then what is there, are some of the values
that were set, in their order. -/
theorem taken_sublist (events : List ε) :
    (R.takenBy events ++ (R.machine.exec events).toList).Sublist (R.setBy events) := by
  induction events using List.reverseRecOn with
  | nil => exact List.Sublist.refl _
  | append_singleton events e ih =>
    rw [takenBy_snoc, setBy, List.filterMap_append, ← setBy]
    rw [Machine.exec_snoc]
    by_cases ht : R.takes e = true
    · rw [if_pos ht, step_ended (R.sets_of_takes e ht) fun v => R.ends_of_takes v e ht, Option.toList_none,
        List.append_nil]
      exact ih.trans (List.sublist_append_left _ _)
    · rw [if_neg ht, List.append_nil]
      cases he : R.sets e with
      | some v =>
        rw [step_set he]
        have htaken := (List.sublist_append_left _ _).trans ih
        simpa [he] using htaken.append_right [v]
      | none =>
        rw [step_not_set he]
        refine (List.Sublist.append_left ?_ _).trans (ih.trans (List.sublist_append_left _ _))
        cases hv : R.machine.exec events with
        | none => exact List.Sublist.refl _
        | some v => by_cases hends : R.ends v e = true <;> simp [Option.filter, hends]

end Register

end AwareKV
