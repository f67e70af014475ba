import AwareKV.Lib.Dict
import AwareKV.Lib.Machine
import AwareKV.Lib.Py
import AwareKV.Lib.Recency

/-!
# AwareKV.LruPolicy — the eviction policy of the store

Translation of `store/eviction.py`.  The policy is an `OrderedDict` from keys to sizes with a bound on
its length.  A call uses a key effectively when it adds it, or touches it while it is tracked.

* `keys_used`, `keys_unused`: what a call does to the tracked keys, as a use of `Recency.bump`.
* `lru_policy_latest`: over all runs of `add` and `touch`, the tracked keys are the latest ones.
-/

namespace AwareKV

open Recency

/-- `LRUEvictionPolicy`. -/
structure LRUEvictionPolicy where
  maxItems : ℤ
  cache : Dict String ℤ

namespace LRUEvictionPolicy

/-- `LRUEvictionPolicy(max_items)`. -/
def new (maxItems : ℤ) : LRUEvictionPolicy := ⟨maxItems, .empty⟩

variable (p : LRUEvictionPolicy)

/-- `touch`. -/
def touch (key : String) : LRUEvictionPolicy :=
  if p.cache.contains key then { p with cache := p.cache.moveToEnd key } else p

/-- `add`. -/
def add (key : String) (size : ℤ) : LRUEvictionPolicy :=
  if p.cache.contains key then { p with cache := p.cache.moveToEnd key }
  else
    let cache := p.cache.insert key size
    if cache.size > p.maxItems then { p with cache := cache.popFirst } else { p with cache := cache }

/-- `remove`. -/
def remove (key : String) : LRUEvictionPolicy :=
  if p.cache.contains key then { p with cache := p.cache.erase key } else p

/-- `get_eviction_candidates`. -/
def getEvictionCandidates (targetCount : ℤ) : List String := slice p.cache.keys 0 targetCount

end LRUEvictionPolicy

/-! ## Runs -/

/-- The calls that change the policy. -/
inductive PolicyOp
  | touch (key : String)
  | add (key : String) (size : ℤ)
  | remove (key : String)
  deriving DecidableEq

/-- The policy as a machine. -/
def lruPolicyMachine (maxItems : ℤ) : Machine LRUEvictionPolicy PolicyOp Unit where
  init := .new maxItems
  step p
    | .touch key => (p.touch key, ())
    | .add key size => (p.add key size, ())
    | .remove key => (p.remove key, ())

/-- The key that a call uses effectively. -/
def effectiveAccess (p : LRUEvictionPolicy) : PolicyOp → List String
  | .touch key => if p.cache.contains key then [key] else []
  | .add key _ => [key]
  | .remove _ => []

/-- The effective uses of a run, in their order. -/
def effectiveAccesses (maxItems : ℤ) (ops : List PolicyOp) : List String :=
  (lruPolicyMachine maxItems).notes effectiveAccess ops

namespace LRUEvictionPolicy

variable {p : LRUEvictionPolicy}

theorem nodup_keys (p : LRUEvictionPolicy) : p.cache.keys.Nodup := p.cache.nodup

theorem length_keys (p : LRUEvictionPolicy) : p.cache.keys.length = p.cache.size := List.length_map ..

/-- A tracked key goes to the end. -/
theorem keys_moved {n : ℕ} (hlen : p.cache.keys.length ≤ n) {key : String}
    (hkey : p.cache.contains key = true) : (p.cache.moveToEnd key).keys = bump n key p.cache.keys := by
  have hmem : key ∈ p.cache.keys := Dict.contains_iff.mp hkey
  obtain ⟨size, hget⟩ := Dict.mem_keys_iff.mp hmem
  rw [Dict.keys_moveToEnd hget, bump_of_mem p.nodup_keys hlen hmem]

theorem keys_touch {n : ℕ} (hlen : p.cache.keys.length ≤ n) {key : String}
    (hkey : p.cache.contains key = true) : (p.touch key).cache.keys = bump n key p.cache.keys := by
  rw [touch, if_pos hkey]
  exact keys_moved hlen hkey

theorem keys_add {n : ℕ} (hmax : p.maxItems = n) (hlen : p.cache.keys.length ≤ n) (key : String)
    (size : ℤ) : (p.add key size).cache.keys = bump n key p.cache.keys := by
  unfold add
  by_cases hkey : p.cache.contains key = true
  · rw [if_pos hkey]
    exact keys_moved hlen hkey
  have hnone : key ∉ p.cache.keys := fun hmem => hkey (Dict.contains_iff.mpr hmem)
  have hkeys := Dict.keys_insert (Dict.get?_eq_none_iff.mpr hnone) size
  have hsize : (p.cache.insert key size).size = p.cache.keys.length + 1 := by
    rw [← List.length_singleton (a := key), ← List.length_append, ← hkeys]
    exact (List.length_map ..).symm
  rw [if_neg hkey, bump_of_notMem hlen hnone, ← hkeys]
  by_cases hfull : n < p.cache.keys.length + 1
  · rw [if_pos hfull, if_pos (by rw [hsize, hmax]; omega)]
    exact List.map_tail
  · rw [if_neg hfull, if_neg (by rw [hsize, hmax]; omega)]

/-- **What a call that uses a key does to the tracked keys.** -/
theorem keys_used {n : ℕ} (hmax : p.maxItems = n) (hlen : p.cache.keys.length ≤ n) {op : PolicyOp}
    {key : String} (hused : effectiveAccess p op = [key]) :
    ((lruPolicyMachine n).step p op).1.cache.keys = bump n key p.cache.keys := by
  cases op with
  | touch k =>
    rw [effectiveAccess] at hused
    split_ifs at hused with hk
    obtain rfl : k = key := List.singleton_inj.mp hused
    exact keys_touch hlen hk
  | add k size =>
    obtain rfl : k = key := List.singleton_inj.mp hused
    exact keys_add hmax hlen k size
  | remove k => cases hused

/-- **A call that uses no key leaves the tracked keys**, unless it removes one. -/
theorem keys_unused (maxItems : ℤ) {op : PolicyOp} (hused : effectiveAccess p op = []) :
    ((lruPolicyMachine maxItems).step p op).1.cache.keys =
      p.cache.keys.filter (fun j => op ≠ .remove j) := by
  cases op with
  | touch k =>
    rw [effectiveAccess] at hused
    split_ifs at hused with hk
    show (p.touch k).cache.keys = _
    rw [touch, if_neg hk]
    simp
  | add k size => cases hused
  | remove k =>
    have hothers : p.cache.keys.filter (fun j => PolicyOp.remove k ≠ .remove j) =
        p.cache.keys.filter (fun j => j ≠ k) := by
      refine List.filter_congr fun j _ => ?_
      simp [eq_comm]
    rw [hothers, ← Dict.keys_erase]
    show (p.remove k).cache.keys = _
    rw [remove]
    split_ifs with hk
    · rfl
    · rw [Dict.erase_of_get?]
      rw [Dict.get?_eq_none_iff]
      exact fun hmem => hk (Dict.contains_iff.mpr hmem)

/-- Every call uses at most one key. -/
theorem effectiveAccess_cases (p : LRUEvictionPolicy) (op : PolicyOp) :
    effectiveAccess p op = [] ∨ ∃ key, effectiveAccess p op = [key] := by
  cases op with
  | touch key =>
    rw [effectiveAccess]
    split_ifs
    · exact Or.inr ⟨key, rfl⟩
    · exact Or.inl rfl
  | add key size => exact Or.inr ⟨key, rfl⟩
  | remove key => exact Or.inl rfl

end LRUEvictionPolicy

open LRUEvictionPolicy

theorem maxItems_step (maxItems : ℤ) (p : LRUEvictionPolicy) (op : PolicyOp) :
    ((lruPolicyMachine maxItems).step p op).1.maxItems = p.maxItems := by
  cases op with
  | touch key =>
    show (p.touch key).maxItems = _
    unfold touch
    split_ifs <;> rfl
  | add key size =>
    show (p.add key size).maxItems = _
    unfold add
    dsimp only
    split_ifs <;> rfl
  | remove key =>
    show (p.remove key).maxItems = _
    unfold remove
    split_ifs <;> rfl

theorem maxItems_exec (maxItems : ℤ) (ops : List PolicyOp) :
    ((lruPolicyMachine maxItems).exec ops).maxItems = maxItems :=
  (lruPolicyMachine maxItems).invariant (I := fun p => p.maxItems = maxItems) rfl
    (fun p op hp => (maxItems_step maxItems p op).trans hp) ops

/-- **No run tracks more keys than the bound.** -/
theorem length_keys_exec (n : ℕ) (ops : List PolicyOp) :
    ((lruPolicyMachine n).exec ops).cache.keys.length ≤ n := by
  induction ops using List.reverseRecOn with
  | nil => exact Nat.zero_le n
  | append_singleton ops op ih =>
    have hmax := maxItems_exec n ops
    rw [Machine.exec_snoc]
    generalize (lruPolicyMachine n).exec ops = p at ih hmax ⊢
    rcases effectiveAccess_cases p op with hunused | ⟨key, hused⟩
    · rw [keys_unused n hunused]
      exact (List.length_filter_le _ _).trans ih
    · rw [keys_used hmax ih hused, bump, length_rtake]
      exact Nat.min_le_left _ _

/-- **The tracked keys are those of the latest effective uses**, oldest use first, over all runs of
`add` and `touch`; and the candidates for eviction are the first of them. -/
theorem lru_policy_latest (n : ℕ) (ops : List PolicyOp) (hops : ∀ key, .remove key ∉ ops) :
    ((lruPolicyMachine n).exec ops).cache.keys = latest n (effectiveAccesses n ops) ∧
      ∀ count : ℕ, ((lruPolicyMachine n).exec ops).getEvictionCandidates count =
        (latest n (effectiveAccesses n ops)).take
          (min count ((lruPolicyMachine n).exec ops).cache.size) := by
  have hkeys : ((lruPolicyMachine n).exec ops).cache.keys = latest n (effectiveAccesses n ops) := by
    induction ops using List.reverseRecOn with
    | nil => exact (List.rtake_nil n).symm
    | append_singleton ops op ih =>
      have hmax := maxItems_exec n ops
      have hlen := length_keys_exec n ops
      have ih := ih fun key hmem => hops key (List.mem_append_left _ hmem)
      rw [effectiveAccesses, Machine.exec_snoc, Machine.notes_snoc, ← effectiveAccesses]
      generalize (lruPolicyMachine n).exec ops = p at hmax hlen ih ⊢
      rcases effectiveAccess_cases p op with hunused | ⟨key, hused⟩
      · have hall : p.cache.keys.filter (fun j => op ≠ .remove j) = p.cache.keys := by
          rw [List.filter_eq_self]
          intro j _
          simpa using fun he : op = .remove j => hops j (by simp [he])
        rw [keys_unused n hunused, hall, hunused, List.append_nil]
        exact ih
      · rw [keys_used hmax hlen hused, hused, ih]
        exact bump_latest n key _
  refine ⟨hkeys, fun count => ?_⟩
  rw [getEvictionCandidates, ← Int.ofNat_zero, slice_nat, List.drop_zero, hkeys, ← length_keys, hkeys,
    ← List.take_eq_take_min]

/-- An evicted key is touched, which has no effect, and added again. -/
theorem lru_policy_latest_again :
    ((lruPolicyMachine 2).exec [.add "a" 1, .add "b" 1, .touch "a", .add "c" 1, .touch "b",
        .add "b" 1]).cache.keys = ["c", "b"] :=
  (lru_policy_latest 2 [.add "a" 1, .add "b" 1, .touch "a", .add "c" 1, .touch "b", .add "b" 1]
    (by simp)).1.trans (by decide +kernel)

end AwareKV
