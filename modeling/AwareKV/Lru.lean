import AwareKV.HostCache
import AwareKV.Lib.Recency

/-!
# AwareKV.Lru — the host cache evicts what was used least recently

A call uses a key effectively when it is a `get` that hits or a `put` that stores.  The order of the
cache's dictionary is the order of the last effective uses: `tracked_exec`.

* `host_cache_lru`: over all runs, a key that was used later than a cached one is cached too, unless
  it was deleted or rejected for its size; no eviction removes a key that was used later than one that
  it keeps.
-/

namespace AwareKV

open HostCache Recency

variable {α : Type}

/-! ### Uses -/

/-- The key that a call uses effectively. -/
def usedKey (maxBytes : ℤ) : CacheOp α × CacheAnswer α → Option String
  | (.get key, .tensor (some _)) => some key
  | (.put key tensor none, _) => if tensor.nbytes ≤ maxBytes then some key else none
  | _ => none

/-- The call deletes `b`, or is a `put` of `b` that is rejected for its size. -/
def Discards (maxBytes : ℤ) : CacheOp α × CacheAnswer α → String → Prop
  | (.delete key, _), b => key = b
  | (.put key tensor none, _), b => key = b ∧ maxBytes < tensor.nbytes
  | _, _ => False

theorem usedKey_fits {maxBytes : ℤ} (key : String) {tensor : HostTensor α}
    (h : tensor.nbytes ≤ maxBytes) (r : CacheAnswer α) :
    usedKey maxBytes (.put key tensor none, r) = some key :=
  if_pos h

theorem usedKey_tooLarge {maxBytes : ℤ} (key : String) {tensor : HostTensor α}
    (h : maxBytes < tensor.nbytes) (r : CacheAnswer α) :
    usedKey maxBytes (.put key tensor none, r) = none :=
  if_neg (not_le.mpr h)

/-- The keys of the cache are a recency list of the trace. -/
def Tracked (maxBytes : ℤ) (tr : List (CacheOp α × CacheAnswer α)) (c : HostCache α) : Prop :=
  Tracks (usedKey maxBytes) (Discards maxBytes) tr c.cache.keys

/-- A call that leaves the keys as they are, and uses none, keeps them a recency list. -/
theorem tracked_unused {maxBytes : ℤ} {tr : List (CacheOp α × CacheAnswer α)} {c d : HostCache α}
    (h : Tracked maxBytes tr c) {e : CacheOp α × CacheAnswer α} (hu : usedKey maxBytes e = none)
    (hkeys : d.cache.keys <:+ c.cache.keys) : Tracked maxBytes (tr ++ [e]) d := by
  refine h.skip hu (fun _ => true) (fun b hb => by cases hb) ?_
  simpa using hkeys

theorem tracked_get {maxBytes : ℤ} {tr : List (CacheOp α × CacheAnswer α)} {c : HostCache α}
    (h : Tracked maxBytes tr c) (key : String) :
    Tracked maxBytes (tr ++ [(.get key, .tensor (c.get key).2)]) (c.get key).1 := by
  unfold HostCache.get
  cases hk : c.cache.get? key with
  | none => exact tracked_unused h rfl List.suffix_rfl
  | some v =>
    show Tracks _ _ _ (c.cache.moveToEnd key).keys
    rw [Dict.keys_moveToEnd hk]
    exact h.use rfl List.suffix_rfl

theorem tracked_delete {maxBytes : ℤ} {tr : List (CacheOp α × CacheAnswer α)} {c : HostCache α}
    (h : Tracked maxBytes tr c) (key : String) (r : CacheAnswer α) :
    Tracked maxBytes (tr ++ [(.delete key, r)]) (c.delete key) := by
  refine h.skip rfl (fun j => j ≠ key) (fun b hb => ?_) ?_
  · have heq : b = key := by simpa using hb
    exact heq.symm
  · rw [keys_delete]

/-- The entries that are left when the loop of a `put` is over. -/
theorem keys_left (c : HostCache α) (key : String) (nbytes : ℤ) :
    ((c.delete key).evict nbytes).cache.keys <:+ c.cache.keys.filter (fun j => j ≠ key) := by
  rw [← keys_delete]
  exact keys_evict _ _

theorem tracked_put {tr : List (CacheOp α × CacheAnswer α)} {c : HostCache α}
    (h : Tracked c.maxBytes tr c) (key : String) (tensor : HostTensor α) (fault : Option Exc) :
    Tracked c.maxBytes (tr ++ [(.put key tensor fault, .done (c.put key tensor fault).2)])
      (c.put key tensor fault).1 := by
  rcases hput : c.put key tensor fault with ⟨d, r⟩
  have hcases := c.put_cases key tensor fault
  rw [hput] at hcases
  cases hcases with
  | raised e hf =>
    subst hf
    exact tracked_unused h rfl List.suffix_rfl
  | stored _ hf hfits _ _ _ hkeys =>
    subst hf
    show Tracks _ _ _ d.cache.keys
    rw [hkeys]
    exact h.use (usedKey_fits key hfits _) (keys_left c key tensor.nbytes)
  | tooLarge hf hlarge =>
    subst hf
    refine h.skip (usedKey_tooLarge key hlarge _) (fun j => j ≠ key) (fun b hb => ?_)
      (keys_left c key tensor.nbytes)
    have heq : b = key := by simpa using hb
    exact ⟨heq.symm, hlarge⟩

/-- **Every call keeps the order of the last uses.** -/
theorem tracked_exec (maxBytes : ℤ) (ops : List (CacheOp α)) :
    Tracked maxBytes ((hostCacheMachine α maxBytes).trace ops)
      ((hostCacheMachine α maxBytes).exec ops) := by
  have hboth := (hostCacheMachine α maxBytes).trace_induction
    (I := fun tr c => Tracked maxBytes tr c ∧ c.maxBytes = maxBytes)
    ⟨tracks_nil [], rfl⟩ ?_ ops
  · exact hboth.1
  rintro tr c op ⟨h, rfl⟩
  refine ⟨?_, maxBytes_step _ c op⟩
  cases op with
  | get key => exact tracked_get h key
  | put key tensor fault => exact tracked_put h key tensor fault
  | delete key => exact tracked_delete h key _
  | clear => exact tracked_unused h rfl List.nil_suffix

/-! ### Evictions -/

/-- The call `op` after the calls `pre` evicts `x`: it is a `put` under another key, and `x` is cached
before it and not after it. -/
def Evicts (maxBytes : ℤ) (pre : List (CacheOp α)) (op : CacheOp α) (x : String) : Prop :=
  (∃ key tensor fault, op = .put key tensor fault ∧ x ≠ key) ∧
    x ∈ ((hostCacheMachine α maxBytes).exec pre).cache.keys ∧
    x ∉ ((hostCacheMachine α maxBytes).exec (pre ++ [op])).cache.keys

/-- A `put` takes the entries with the oldest uses. -/
theorem put_evicts_oldest {maxBytes : ℤ} {tr : List (CacheOp α × CacheAnswer α)} {c : HostCache α}
    (h : Tracked maxBytes tr c) (hmax : c.maxBytes = maxBytes) {key x y : String}
    {tensor : HostTensor α} {fault : Option Exc} (hne : x ≠ key) (hx : x ∈ c.cache.keys)
    (hgone : x ∉ (c.put key tensor fault).1.cache.keys)
    (hy : y ∈ (c.put key tensor fault).1.cache.keys) (r : CacheAnswer α) :
    age (usedKey maxBytes) y (tr ++ [(.put key tensor fault, r)]) <
      age (usedKey maxBytes) x (tr ++ [(.put key tensor fault, r)]) := by
  subst hmax
  rcases hput : c.put key tensor fault with ⟨d, r'⟩
  have hcases := c.put_cases key tensor fault
  rw [hput] at hcases hgone hy
  have hxl : x ∈ c.cache.keys.filter (fun j => j ≠ key) := by simpa using ⟨hx, hne⟩
  cases hcases with
  | raised e hf => exact absurd hx hgone
  | stored _ hf hfits _ _ _ hkeys =>
    subst hf
    have hused := usedKey_fits key hfits r
    have hother : ∀ z, z ≠ key → usedKey c.maxBytes (.put key tensor none, r) ≠ some z := by
      intro z hz
      rw [hused]
      exact fun he => hz (Option.some.inj he).symm
    rw [hkeys, List.mem_append, not_or] at hgone
    rw [hkeys, List.mem_append, List.mem_singleton] at hy
    rcases hy with hy | rfl
    · have hlt := h.left_older (keys_left c key tensor.nbytes) hxl hgone.1 hy
      have hyk : y ≠ key := by
        have hmem := (keys_left c key tensor.nbytes).subset hy
        simpa using (List.mem_filter.mp hmem).2
      rw [age_unused (hother y hyk), age_unused (hother x hne)]
      omega
    · rw [age_used hused, age_unused (hother x hne)]
      omega
  | tooLarge hf hlarge =>
    subst hf
    have hunused := usedKey_tooLarge key hlarge r
    have hlt := h.left_older (keys_left c key tensor.nbytes) hxl hgone hy
    rw [age_unused (by simp [hunused]), age_unused (by simp [hunused])]
    omega

/-- **LRU**: after every run, a key whose last effective use is later than that of a cached key is
cached, unless it was deleted or rejected for its size since; and in every step of the run, the keys
that an eviction keeps were used later than those that it removes. -/
theorem host_cache_lru (maxBytes : ℤ) (ops : List (CacheOp α)) :
    (∀ a b, age (usedKey maxBytes) b ((hostCacheMachine α maxBytes).trace ops) <
          age (usedKey maxBytes) a ((hostCacheMachine α maxBytes).trace ops) →
        a ∈ ((hostCacheMachine α maxBytes).exec ops).cache.keys →
        b ∈ ((hostCacheMachine α maxBytes).exec ops).cache.keys ∨
          DroppedSince (usedKey maxBytes) (Discards maxBytes) b
            ((hostCacheMachine α maxBytes).trace ops)) ∧
      EveryStep (fun pre op => ∀ x y, Evicts maxBytes pre op x →
        y ∈ ((hostCacheMachine α maxBytes).exec (pre ++ [op])).cache.keys →
        age (usedKey maxBytes) y ((hostCacheMachine α maxBytes).trace (pre ++ [op])) <
          age (usedKey maxBytes) x ((hostCacheMachine α maxBytes).trace (pre ++ [op]))) ops := by
  refine ⟨fun a b hlt ha => ?_, fun pre op post _ x y => ?_⟩
  · by_cases hdrop : DroppedSince (usedKey maxBytes) (Discards maxBytes) b
        ((hostCacheMachine α maxBytes).trace ops)
    · exact Or.inr hdrop
    · exact Or.inl ((tracked_exec maxBytes ops).younger a ha b hlt hdrop)
  · rintro ⟨⟨key, tensor, fault, rfl, hne⟩, hx, hgone⟩ hy
    rw [Machine.exec_snoc] at hgone hy
    rw [Machine.trace_snoc]
    exact put_evicts_oldest (tracked_exec maxBytes pre) (maxBytes_exec maxBytes pre) hne hx hgone hy _

example : ((hostCacheMachine ℕ 16).exec [.put "a" (exampleTensor 4) none,
    .put "b" (exampleTensor 4) none, .get "a", .put "c" (exampleTensor 2) none]).cache.keys =
      ["a", "c"] := by decide +kernel

end AwareKV
