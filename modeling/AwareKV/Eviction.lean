import AwareKV.HostCache

/-!
# AwareKV.Eviction — what a `put` evicts

* `put_keeps_longest`: a `put` of a tensor that fits keeps the longest suffix of the other entries that
  leaves room for it, and puts its own entry behind.
* `oversize_put_iff`: a `put` of a tensor that does not fit empties the cache, so the other entries stay
  only where there are none.
-/

namespace AwareKV

open Loop

namespace HostCache

variable {α : Type} {c : HostCache α}

/-- The recorded sizes of entries, put together. -/
def entriesBytes (es : List (String × HostTensor α × ℤ)) : ℤ := (es.map (fun e => e.2.2)).sum

/-- A round of the loop takes the first entry. -/
theorem entries_evictOldest {nbytes : ℤ} (h : c.overFull nbytes = true) :
    ∃ e, c.cache.entries = e :: c.evictOldest.cache.entries := by
  unfold evictOldest
  cases hes : c.cache.entries with
  | nil => simp [overFull, Dict.size, hes] at h
  | cons e es => exact ⟨e, by simp [hes]⟩

/-- The loop stops exactly when the entries leave room. -/
theorem overFull_eq_false (h : Accounted c) {nbytes : ℤ} (hfits : nbytes ≤ c.maxBytes) :
    c.overFull nbytes = false ↔ entriesBytes c.cache.entries ≤ c.maxBytes - nbytes := by
  have htotal : c.currentBytes = entriesBytes c.cache.entries := h.total
  rw [overFull, decide_eq_false_iff_not, htotal]
  constructor
  · intro hstop
    by_cases hempty : c.cache.entries = []
    · rw [hempty]
      show (0 : ℤ) ≤ _
      omega
    · have hsize : 0 < c.cache.size := List.length_pos_iff.mpr hempty
      by_contra hover
      exact hstop ⟨by omega, hsize⟩
  · rintro hroom ⟨hover, -⟩
    omega

/-- **The loop keeps the longest suffix that leaves room.** -/
theorem evict_longest (h : Accounted c) (nbytes : ℤ) (hfits : nbytes ≤ c.maxBytes) :
    LongestSuffix (fun es => entriesBytes es ≤ c.maxBytes - nbytes) c.cache.entries
      (c.evict nbytes).cache.entries := by
  obtain ⟨n, -, hexits⟩ := c.evict_exits nbytes
  refine Exits.longestSuffix (I := fun d => Accounted d ∧ d.maxBytes = c.maxBytes)
    (fun d => d.cache.entries) hexits ?_ ?_ ?_ ⟨h, rfl⟩
  · rintro d - ⟨hd, hmax⟩
    exact ⟨hd.evictOldest, maxBytes_evictOldest.trans hmax⟩
  · intro d hd
    exact entries_evictOldest hd
  · rintro d ⟨hd, hmax⟩
    rw [← hmax] at hfits ⊢
    exact overFull_eq_false hd hfits

/-- **What a `put` of a tensor that fits leaves.** -/
theorem put_entries (h : Accounted c) {key : String} {tensor : HostTensor α} {fault : Option Exc}
    (hfits : tensor.nbytes ≤ c.maxBytes) (hok : (c.put key tensor fault).2 = .ok ()) :
    ∃ kept, (c.put key tensor fault).1.cache.entries = kept ++ [(key, tensor.hostCopy, tensor.nbytes)] ∧
      LongestSuffix (fun es => entriesBytes es ≤ c.maxBytes - tensor.nbytes) (c.cache.erase key).entries
        kept := by
  have hlongest := evict_longest (h.delete key) tensor.nbytes (by simpa using hfits)
  rw [entries_delete, maxBytes_delete] at hlongest
  rcases hput : c.put key tensor fault with ⟨d, r⟩
  have hcases := c.put_cases key tensor fault
  rw [hput] at hcases hok
  cases hcases with
  | raised => cases hok
  | stored _ _ _ _ _ hentries _ => exact ⟨_, hentries, hlongest⟩
  | tooLarge _ hlarge => omega

end HostCache

open HostCache in
/-- **Minimal eviction**: after every run, a `put` that returns and whose tensor fits stores the tensor's
copy as the last entry; before it stand, in their order, exactly the longest suffix of the other entries
whose sizes leave room for it. -/
theorem put_keeps_longest {α : Type} (maxBytes : ℤ) (h0 : 0 ≤ maxBytes) (ops : List (CacheOp α))
    (key : String) (tensor : HostTensor α) (fault : Option Exc) (hfits : tensor.nbytes ≤ maxBytes)
    (hok : (((hostCacheMachine α maxBytes).exec ops).put key tensor fault).2 = .ok ()) :
    (((hostCacheMachine α maxBytes).exec ops).put key tensor fault).1.cache.get? key =
        some (tensor.hostCopy, tensor.nbytes) ∧
      ∃ kept,
        (((hostCacheMachine α maxBytes).exec ops).put key tensor fault).1.cache.entries =
          kept ++ [(key, tensor.hostCopy, tensor.nbytes)] ∧
        LongestSuffix (fun es => entriesBytes es ≤ maxBytes - tensor.nbytes)
          (((hostCacheMachine α maxBytes).exec ops).cache.erase key).entries kept := by
  have hmax := maxBytes_exec maxBytes ops
  obtain ⟨kept, hentries, hlongest⟩ :=
    put_entries (accounted_exec h0 ops) (by rw [hmax]; exact hfits) hok
  rw [hmax] at hlongest
  refine ⟨?_, kept, hentries, hlongest⟩
  rw [Dict.get?_eq_some_iff, hentries]
  exact List.mem_append_right _ (List.mem_singleton_self _)

/-- The oldest key is stored again, and the entry after it has to go. -/
theorem put_keeps_longest_again :
    (((hostCacheMachine ℕ 10).exec [.put "a" (HostCache.exampleTensor 1) none,
        .put "b" (HostCache.exampleTensor 3) none]).put "a" (HostCache.exampleTensor 4) none).1.cache.get?
          "a" = some ((HostCache.exampleTensor 4).hostCopy, 8) :=
  (put_keeps_longest 10 (by decide) [.put "a" (HostCache.exampleTensor 1) none,
    .put "b" (HostCache.exampleTensor 3) none] "a" (HostCache.exampleTensor 4) none (by decide)
    (by decide +kernel)).1

/-! ### Tensors that do not fit -/

namespace HostCache

variable {α : Type} {c : HostCache α}

/-- **The loop runs before the size is looked at**: no number of entries leaves room for the tensor, so
it takes them all. -/
theorem put_flushes (h : Accounted c) {key : String} {tensor : HostTensor α}
    (hlarge : c.maxBytes < tensor.nbytes) : (c.put key tensor none).1.cache.entries = [] := by
  have hevict : Accounted ((c.delete key).evict tensor.nbytes) :=
    evict_invariant (fun _ hd => hd.evictOldest) (h.delete key) tensor.nbytes
  have hnonneg := hevict.nonneg
  rcases hput : c.put key tensor none with ⟨d, r⟩
  have hcases := c.put_cases key tensor none
  rw [hput] at hcases
  cases hcases with
  | raised _ hf => cases hf
  | stored _ _ hfits => omega
  | tooLarge =>
    rcases evict_stopped (c.delete key) tensor.nbytes with hroom | hempty
    · rw [maxBytes_evict, maxBytes_delete] at hroom
      omega
    · exact hempty

/-- A `put` of a tensor that does not fit adds nothing. -/
theorem entries_put_large (key : String) {tensor : HostTensor α} (fault : Option Exc)
    (hlarge : c.maxBytes < tensor.nbytes) :
    (c.put key tensor fault).1.cache.entries.Sublist c.cache.entries := by
  rcases hput : c.put key tensor fault with ⟨d, r⟩
  have hcases := c.put_cases key tensor fault
  rw [hput] at hcases
  cases hcases with
  | raised => exact List.Sublist.refl _
  | stored _ _ hfits => omega
  | tooLarge =>
    have hleft := ((c.delete key).entries_evict tensor.nbytes).sublist
    rw [entries_delete] at hleft
    exact hleft.trans List.filter_sublist

/-- Under a negative bound nothing is ever stored. -/
theorem entries_exec_of_neg {maxBytes : ℤ} (hneg : maxBytes < 0) (ops : List (CacheOp α)) :
    ((hostCacheMachine α maxBytes).exec ops).cache.entries = [] := by
  induction ops using List.reverseRecOn with
  | nil => rfl
  | append_singleton ops op ih =>
    have hmax := maxBytes_exec maxBytes ops
    rw [Machine.exec_snoc]
    generalize (hostCacheMachine α maxBytes).exec ops = c at ih hmax ⊢
    cases op with
    | get key =>
      have hmiss : c.cache.get? key = none := by
        show Dict.assoc c.cache.entries key = none
        rw [ih]
        rfl
      show (c.get key).1.cache.entries = []
      rw [HostCache.get, hmiss]
      exact ih
    | put key tensor fault =>
      have hlarge : c.maxBytes < tensor.nbytes := by
        have hsize := tensor.nbytes_nonneg
        omega
      have hsub := entries_put_large key fault hlarge
      rw [ih] at hsub
      exact List.sublist_nil.mp hsub
    | delete key =>
      show (c.delete key).cache.entries = []
      rw [entries_delete]
      show c.cache.entries.filter _ = []
      rw [ih, List.filter_nil]
    | clear => rfl

/-- **No reachable cache survives a tensor that does not fit.** -/
theorem put_exec_flushes {maxBytes : ℤ} (ops : List (CacheOp α)) (key : String)
    {tensor : HostTensor α} (hlarge : maxBytes < tensor.nbytes) :
    (((hostCacheMachine α maxBytes).exec ops).put key tensor none).1.cache.entries = [] := by
  by_cases h0 : 0 ≤ maxBytes
  · exact put_flushes (accounted_exec h0 ops) (by rw [maxBytes_exec]; exact hlarge)
  · have hempty := entries_exec_of_neg (not_le.mp h0) (ops ++ [.put key tensor none])
    rw [Machine.exec_snoc] at hempty
    exact hempty

end HostCache

open HostCache in
/-- **A `put` of a tensor that does not fit**: after every run, the entries under other keys stay, with
their tensors and in their order, exactly if there are none, or if the copy to the host raises. -/
theorem oversize_put_iff {α : Type} (maxBytes : ℤ) (ops : List (CacheOp α)) (key : String)
    (tensor : HostTensor α) (fault : Option Exc) (hlarge : maxBytes < tensor.nbytes) :
    (((hostCacheMachine α maxBytes).exec ops).put key tensor fault).1.cache.erase key =
        ((hostCacheMachine α maxBytes).exec ops).cache.erase key ↔
      fault ≠ none ∨ ∀ j ∈ ((hostCacheMachine α maxBytes).exec ops).cache.keys, j = key := by
  cases fault with
  | some e => exact ⟨fun _ => Or.inl (by simp), fun _ => rfl⟩
  | none =>
    have hflushed := put_exec_flushes ops key hlarge
    generalize (hostCacheMachine α maxBytes).exec ops = c at hflushed ⊢
    have hnone : ((c.put key tensor none).1.cache.erase key).entries = [] := by
      show (c.put key tensor none).1.cache.entries.filter _ = []
      rw [hflushed, List.filter_nil]
    have hothers : (c.cache.erase key).entries = [] ↔ ∀ j ∈ c.cache.keys, j = key := by
      show c.cache.entries.filter _ = [] ↔ _
      rw [List.filter_eq_nil_iff]
      simp [Dict.keys]
    constructor
    · intro hsame
      rw [hsame] at hnone
      exact Or.inr (hothers.mp hnone)
    · rintro (hf | hall)
      · exact absurd rfl hf
      · exact Dict.ext (hnone.trans (hothers.mpr hall).symm)

/-- A tensor that is too large is put under the only key. -/
theorem oversize_put_iff_alone :
    (((hostCacheMachine ℕ 10).exec [.put "a" (HostCache.exampleTensor 1) none]).put "a"
        (HostCache.exampleTensor 6) none).1.cache.erase "a" =
      ((hostCacheMachine ℕ 10).exec [.put "a" (HostCache.exampleTensor 1) none]).cache.erase "a" :=
  (oversize_put_iff 10 [.put "a" (HostCache.exampleTensor 1) none] "a" (HostCache.exampleTensor 6) none
    (by decide)).mpr (Or.inr (by decide +kernel))

/-- The entry under "a" goes, though the tensor put under "b" is not stored. -/
theorem oversize_put_disturbs :
    10 < (HostCache.exampleTensor 6).nbytes ∧
      (((hostCacheMachine ℕ 10).exec [.put "a" (HostCache.exampleTensor 1) none]).put "b"
          (HostCache.exampleTensor 6) none).1.cache.erase "b" ≠
        ((hostCacheMachine ℕ 10).exec [.put "a" (HostCache.exampleTensor 1) none]).cache.erase "b" := by
  decide +kernel

end AwareKV
