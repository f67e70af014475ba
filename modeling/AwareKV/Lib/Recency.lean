import Mathlib.Data.List.Basic
import Mathlib.Data.List.Dedup
import Mathlib.Data.List.DropRight
import Mathlib.Data.List.Infix
import Mathlib.Tactic.Common

/-!
# AwareKV.Lib.Recency — lists of keys in the order of their last use

A trace of events, each of which uses at most one key and may drop keys.  `since k tr` is what has
happened since the last use of `k`, and its length is the age of `k`.  `Tracks tr keys` says that
`keys` is a recency list of the trace: oldest first, and younger keys than a listed one are missing
only when they were dropped.

* `Tracks.use`: the key of an event goes to the end, any number of the oldest ones leave.
* `Tracks.skip`: an event without a use removes what it drops, and any number of the oldest ones.
* `Tracks.left_older`: what leaves at the front is older than what stays.

Where every event is the use of a key, the trace is a list of keys, and its `n` latest keys are kept by
`bump`, one use at a time: `bump_latest`.
-/

namespace AwareKV.Recency

variable {ε κ : Type*} [DecidableEq κ] (uses : ε → Option κ) (drops : ε → κ → Prop)

/-- What has happened since the last use of `k`, or everything. -/
def since (k : κ) (tr : List ε) : List ε :=
  (tr.reverse.takeWhile (fun e => uses e ≠ some k)).reverse

/-- The number of events since the last use of `k`. -/
def age (k : κ) (tr : List ε) : ℕ := (since uses k tr).length

/-- `k` was dropped after its last use. -/
def DroppedSince (k : κ) (tr : List ε) : Prop := ∃ e ∈ since uses k tr, drops e k

variable {uses drops}

/-! ### One more event -/

theorem since_snoc (k : κ) (tr : List ε) (e : ε) :
    since uses k (tr ++ [e]) = if uses e = some k then [] else since uses k tr ++ [e] := by
  unfold since
  rw [List.reverse_append, List.reverse_singleton, List.singleton_append, List.takeWhile_cons]
  by_cases h : uses e = some k
  · simp [h]
  · simp [h]

theorem age_used {k : κ} {e : ε} (h : uses e = some k) (tr : List ε) :
    age uses k (tr ++ [e]) = 0 := by
  rw [age, since_snoc, if_pos h, List.length_nil]

theorem age_unused {k : κ} {e : ε} (h : uses e ≠ some k) (tr : List ε) :
    age uses k (tr ++ [e]) = age uses k tr + 1 := by
  rw [age, since_snoc, if_neg h, List.length_append, List.length_singleton, age]

theorem droppedSince_unused {k : κ} {e : ε} (h : uses e ≠ some k) (tr : List ε) :
    DroppedSince uses drops k (tr ++ [e]) ↔ DroppedSince uses drops k tr ∨ drops e k := by
  unfold DroppedSince
  rw [since_snoc, if_neg h]
  simp only [List.mem_append, List.mem_singleton, or_and_right, exists_or, exists_eq_left]

/-! ### Recency lists -/

variable (uses drops)

/-- `keys` is a recency list of the trace. -/
structure Tracks (tr : List ε) (keys : List κ) : Prop where
  ordered : keys.Pairwise (fun a b => age uses b tr < age uses a tr)
  younger : ∀ a ∈ keys, ∀ b, age uses b tr < age uses a tr → ¬ DroppedSince uses drops b tr → b ∈ keys

variable {uses drops} {tr : List ε} {keys : List κ}

theorem tracks_nil (tr : List ε) : Tracks uses drops tr [] :=
  ⟨.nil, by simp⟩

/-- The end of a list that is ordered by age has all of its keys that are younger than one there. -/
theorem mem_suffix {old new : List κ} {f : κ → ℕ}
    (h : (old ++ new).Pairwise (fun a b => f b < f a)) {a b : κ} (ha : a ∈ new)
    (hb : b ∈ old ++ new) (hlt : f b < f a) : b ∈ new := by
  rcases List.mem_append.mp hb with hold | hnew
  · have hgt := (List.pairwise_append.mp h).2.2 b hold a ha
    omega
  · exact hnew

namespace Tracks

/-- **Use rule**. -/
theorem use (h : Tracks uses drops tr keys) {e : ε} {k : κ} (hu : uses e = some k) {new : List κ}
    (hs : new <:+ keys.filter (fun j => j ≠ k)) : Tracks uses drops (tr ++ [e]) (new ++ [k]) := by
  obtain ⟨old, hold⟩ := hs
  have hsub : ∀ j ∈ new, j ∈ keys ∧ j ≠ k := fun j hj => by
    have hmem : j ∈ keys.filter (fun j => j ≠ k) := hold ▸ List.mem_append_right old hj
    simpa using hmem
  have hne : ∀ j, j ≠ k → uses e ≠ some j := fun j hj he => hj (Option.some.inj (he.symm.trans hu))
  have hord : (old ++ new).Pairwise (fun a b => age uses b tr < age uses a tr) := by
    rw [hold]
    exact h.ordered.sublist List.filter_sublist
  constructor
  · rw [List.pairwise_append]
    refine ⟨?_, List.pairwise_singleton _ _, ?_⟩
    · refine (List.pairwise_append.mp hord).2.1.imp_of_mem fun {a b} ha hb hlt => ?_
      rw [age_unused (hne a (hsub a ha).2), age_unused (hne b (hsub b hb).2)]
      omega
    · intro a ha b hb
      rw [List.mem_singleton.mp hb, age_used hu, age_unused (hne a (hsub a ha).2)]
      omega
  · intro a ha b hlt hdrop
    by_cases hb : b = k
    · exact List.mem_append_right _ (by simp [hb])
    rcases List.mem_append.mp ha with ha | ha
    · rw [age_unused (hne b hb), age_unused (hne a (hsub a ha).2)] at hlt
      rw [droppedSince_unused (hne b hb)] at hdrop
      have hbk := h.younger a (hsub a ha).1 b (by omega) fun hd => hdrop (Or.inl hd)
      refine List.mem_append_left _ (mem_suffix hord ha ?_ (by omega))
      rw [hold]
      simpa using ⟨hbk, hb⟩
    · rw [List.mem_singleton.mp ha, age_used hu] at hlt
      exact absurd hlt (Nat.not_lt_zero _)

/-- **Skip rule**. -/
theorem skip (h : Tracks uses drops tr keys) {e : ε} (hu : uses e = none) (keep : κ → Bool)
    (hkeep : ∀ b, keep b = false → drops e b) {new : List κ} (hs : new <:+ keys.filter keep) :
    Tracks uses drops (tr ++ [e]) new := by
  obtain ⟨old, hold⟩ := hs
  have hsub : ∀ j ∈ new, j ∈ keys := fun j hj => by
    have hmem : j ∈ keys.filter keep := hold ▸ List.mem_append_right old hj
    exact (List.mem_filter.mp hmem).1
  have hne : ∀ j, uses e ≠ some j := fun j => by simp [hu]
  have hord : (old ++ new).Pairwise (fun a b => age uses b tr < age uses a tr) := by
    rw [hold]
    exact h.ordered.sublist List.filter_sublist
  constructor
  · refine (List.pairwise_append.mp hord).2.1.imp fun {a b} hlt => ?_
    rw [age_unused (hne a), age_unused (hne b)]
    omega
  · intro a ha b hlt hdrop
    rw [age_unused (hne a), age_unused (hne b)] at hlt
    rw [droppedSince_unused (hne b), not_or] at hdrop
    have hbk := h.younger a (hsub a ha) b (by omega) hdrop.1
    refine mem_suffix hord ha ?_ (by omega)
    rw [hold, List.mem_filter]
    exact ⟨hbk, by_contra fun hb => hdrop.2 (hkeep b (by simpa using hb))⟩

/-- What is left of a recency list is younger than what was taken off its front. -/
theorem left_older (h : Tracks uses drops tr keys) {keep : κ → Bool} {new : List κ}
    (hs : new <:+ keys.filter keep) {x y : κ} (hx : x ∈ keys.filter keep) (hgone : x ∉ new)
    (hy : y ∈ new) : age uses y tr < age uses x tr := by
  obtain ⟨old, hold⟩ := hs
  have hord : (old ++ new).Pairwise (fun a b => age uses b tr < age uses a tr) := by
    rw [hold]
    exact h.ordered.sublist List.filter_sublist
  rw [← hold] at hx
  exact (List.pairwise_append.mp hord).2.2 x ((List.mem_append.mp hx).resolve_right hgone) y hy

end Tracks

/-! ### The latest keys -/

/-- The `n` distinct keys whose last uses are the latest, in the order of these uses. -/
def latest (n : ℕ) (uses : List κ) : List κ := uses.dedup.rtake n

/-- `k` is used: it goes to the end, and the first keys leave if there are more than `n`. -/
def bump (n : ℕ) (k : κ) (keys : List κ) : List κ := (keys.filter (fun j => j ≠ k) ++ [k]).rtake n

theorem dedup_snoc (uses : List κ) (k : κ) :
    (uses ++ [k]).dedup = uses.dedup.filter (fun j => j ≠ k) ++ [k] := by
  induction uses with
  | nil => simp
  | cons a uses ih =>
    rw [List.cons_append]
    by_cases ha : a ∈ uses
    · rw [List.dedup_cons_of_mem (List.mem_append_left _ ha), List.dedup_cons_of_mem ha, ih]
    · rw [List.dedup_cons_of_notMem ha]
      by_cases hk : a = k
      · rw [List.dedup_cons_of_mem (by simp [hk]), ih]
        simp [hk]
      · rw [List.dedup_cons_of_notMem (by simp [ha, hk]), ih]
        simp [hk]

omit [DecidableEq κ] in
/-- The end of a list lies in its last part where this part is long enough. -/
theorem rtake_append {n : ℕ} {new : List κ} (h : n ≤ new.length) (old : List κ) :
    (old ++ new).rtake n = new.rtake n := by
  rw [List.rtake_eq_reverse_take_reverse, List.rtake_eq_reverse_take_reverse, List.reverse_append,
    List.take_append_of_le_length (by simpa using h)]

omit [DecidableEq κ] in
theorem rtake_of_length_le {n : ℕ} {keys : List κ} (h : keys.length ≤ n) : keys.rtake n = keys := by
  rw [List.rtake, Nat.sub_eq_zero_of_le h, List.drop_zero]

omit [DecidableEq κ] in
theorem length_rtake (n : ℕ) (keys : List κ) : (keys.rtake n).length = min n keys.length := by
  rw [List.rtake, List.length_drop]
  omega

/-- A key that is taken out of a list without repetitions is one key less. -/
theorem length_filter_ne {keys : List κ} (h : keys.Nodup) (k : κ) :
    (keys.filter (fun j => j ≠ k)).length = if k ∈ keys then keys.length - 1 else keys.length := by
  have herase : keys.filter (fun j => j ≠ k) = keys.erase k := by
    rw [h.erase_eq_filter]
    refine List.filter_congr fun j _ => ?_
    by_cases hj : j = k <;> simp [hj]
  rw [herase, List.length_erase]

/-- **What has left by then makes no difference**: a use keeps the `n` latest keys. -/
theorem bump_latest (n : ℕ) (k : κ) (uses : List κ) :
    bump n k (latest n uses) = latest n (uses ++ [k]) := by
  unfold bump latest
  rw [dedup_snoc]
  have hnodup : uses.dedup.Nodup := List.nodup_dedup uses
  generalize uses.dedup = keys at hnodup ⊢
  by_cases hshort : keys.length ≤ n
  · rw [rtake_of_length_le hshort]
  obtain ⟨old, hold⟩ : keys.rtake n <:+ keys := List.drop_suffix _ _
  have hlen : (keys.rtake n).length = n := by
    rw [length_rtake]
    omega
  have hlong : n ≤ ((keys.rtake n).filter (fun j => j ≠ k) ++ [k]).length := by
    have hsub : (keys.rtake n).Nodup := hnodup.sublist (List.drop_sublist _ _)
    rw [List.length_append, length_filter_ne hsub, List.length_singleton, hlen]
    split_ifs <;> omega
  conv_rhs => rw [← hold, List.filter_append, List.append_assoc]
  exact (rtake_append hlong _).symm

/-- A used key that is listed leaves a gap for itself. -/
theorem bump_of_mem {n : ℕ} {k : κ} {keys : List κ} (hnodup : keys.Nodup) (hlen : keys.length ≤ n)
    (hk : k ∈ keys) : bump n k keys = keys.filter (fun j => j ≠ k) ++ [k] := by
  have hpos : 0 < keys.length := List.length_pos_of_mem hk
  refine rtake_of_length_le ?_
  rw [List.length_append, length_filter_ne hnodup, if_pos hk, List.length_singleton]
  omega

/-- A used key that is not listed takes the place of the first one if there is no room. -/
theorem bump_of_notMem {n : ℕ} {k : κ} {keys : List κ} (hlen : keys.length ≤ n) (hk : k ∉ keys) :
    bump n k keys = if n < keys.length + 1 then (keys ++ [k]).tail else keys ++ [k] := by
  have hall : keys.filter (fun j => j ≠ k) = keys := by
    rw [List.filter_eq_self]
    intro j hj
    simpa using fun he : j = k => hk (he ▸ hj)
  rw [bump, hall]
  split_ifs with hfull
  · have hone : keys.length + 1 - n = 1 := by omega
    rw [List.rtake, List.length_append, List.length_singleton, hone, List.drop_one]
  · refine rtake_of_length_le ?_
    rw [List.length_append, List.length_singleton]
    omega

end AwareKV.Recency
