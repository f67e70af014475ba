import AwareKV.HostCache
import Mathlib.Data.List.Perm.Subperm

/-!
# AwareKV.CacheMap — the host cache and the map it stands for

`hostMap` is what the callers of the cache have in mind: a map from keys to host copies, without a
bound.  The cache makes the same calls and evicts.

* `cache_hits_map`: in every run each answer of the cache is the map's, or a miss.
* `cache_is_map`: in a run after whose every call the map's tensors fit into the bound together, the
  cache answers as the map does, and never evicts.
-/

namespace AwareKV

/-- The map. -/
def hostMap (α : Type) : Machine (Dict String (HostTensor α)) (CacheOp α) (CacheAnswer α) where
  init := .empty
  step d
    | .get key => (d, .tensor (d.get? key))
    | .put key tensor fault =>
      match fault with
      | some e => (d, .done (.error e))
      | none => (d.insert key tensor.hostCopy, .done (.ok ()))
    | .delete key => (d.erase key, .done (.ok ()))
    | .clear => (.empty, .done (.ok ()))

/-- The sizes of the map's tensors, put together. -/
def mapBytes {α : Type} (d : Dict String (HostTensor α)) : ℤ := (d.entries.map (fun e => e.2.nbytes)).sum

namespace HostCache

variable {α : Type} {maxBytes : ℤ} {c : HostCache α} {d : Dict String (HostTensor α)}

/-- What the cache holds, the map holds. -/
def Coherent (c : HostCache α) (d : Dict String (HostTensor α)) : Prop :=
  ∀ key v, c.cache.get? key = some v → d.get? key = some v.1

/-- Cache and map hold the same under a key. -/
def Agrees (c : HostCache α) (d : Dict String (HostTensor α)) (key : String) : Prop :=
  (c.cache.get? key).map Prod.fst = d.get? key

@[simp] theorem get?_get (c : HostCache α) (key j : String) :
    (c.get key).1.cache.get? j = c.cache.get? j := by
  unfold get
  split
  · exact Dict.get?_moveToEnd _ _ _
  · rfl

theorem answer_get (c : HostCache α) (key : String) :
    (c.get key).2 = (c.cache.get? key).map Prod.fst := by
  unfold get
  split
  · next h => rw [h]; rfl
  · next h => rw [h]; rfl

@[simp] theorem get?_delete (c : HostCache α) (key j : String) :
    (c.delete key).cache.get? j = if j = key then none else c.cache.get? j := by
  have hcache : (c.delete key).cache = c.cache.erase key := Dict.ext (entries_delete key)
  rw [hcache, Dict.get?_erase]

/-- An entry that the loop leaves was there before it. -/
theorem get?_of_evict {nbytes : ℤ} {key : String} {v : HostTensor α × ℤ}
    (h : (c.evict nbytes).cache.get? key = some v) : c.cache.get? key = some v := by
  rw [Dict.get?_eq_some_iff] at h ⊢
  exact (c.entries_evict nbytes).subset h

/-- An entry after a `put` is the one put, or was there before, under another key. -/
theorem get?_put {key j : String} {tensor : HostTensor α} {v : HostTensor α × ℤ}
    (h : (c.put key tensor none).1.cache.get? j = some v) :
    (j = key ∧ v.1 = tensor.hostCopy) ∨ (j ≠ key ∧ c.cache.get? j = some v) := by
  have hleft : ((c.delete key).evict tensor.nbytes).cache.get? j = some v →
      j ≠ key ∧ c.cache.get? j = some v := by
    intro hj
    have hbefore := get?_of_evict hj
    rw [get?_delete] at hbefore
    split_ifs at hbefore with hkey
    exact ⟨hkey, hbefore⟩
  rcases hput : c.put key tensor none with ⟨e, r⟩
  have hcases := c.put_cases key tensor none
  rw [hput] at hcases h
  cases hcases with
  | raised _ hf => cases hf
  | tooLarge => exact Or.inr (hleft h)
  | stored _ _ _ _ _ hentries _ =>
    rw [Dict.get?_eq_some_iff, hentries, List.mem_append, List.mem_singleton] at h
    rcases h with h | h
    · exact Or.inr (hleft (Dict.get?_eq_some_iff.mpr h))
    · cases h
      exact Or.inl ⟨rfl, rfl⟩

/-- **No call brings the cache out of the map.** -/
theorem coherent_step (h : Coherent c d) (op : CacheOp α) :
    Coherent ((hostCacheMachine α maxBytes).step c op).1 ((hostMap α).step d op).1 := by
  intro j v hj
  cases op with
  | get key =>
    refine h j v ?_
    rw [← get?_get c key j]
    exact hj
  | put key tensor fault =>
    cases fault with
    | some e => exact h j v hj
    | none =>
      show (d.insert key tensor.hostCopy).get? j = some v.1
      rw [Dict.get?_insert]
      rcases get?_put hj with ⟨hkey, hv⟩ | ⟨hkey, hbefore⟩
      · rw [if_pos hkey, hv]
      · rw [if_neg hkey]
        exact h j v hbefore
  | delete key =>
    show (d.erase key).get? j = some v.1
    replace hj : (c.delete key).cache.get? j = some v := hj
    rw [get?_delete] at hj
    split_ifs at hj with hkey
    rw [Dict.get?_erase, if_neg hkey]
    exact h j v hj
  | clear => cases hj

theorem coherent_exec (maxBytes : ℤ) (ops : List (CacheOp α)) :
    Coherent ((hostCacheMachine α maxBytes).exec ops) ((hostMap α).exec ops) := by
  induction ops using List.reverseRecOn with
  | nil =>
    intro key v hnone
    cases hnone
  | append_singleton ops op ih =>
    rw [Machine.exec_snoc, Machine.exec_snoc]
    exact coherent_step ih op

/-- A `put` answers as on the map: it raises what the copy raises. -/
theorem answer_put (c : HostCache α) (d : Dict String (HostTensor α)) (key : String)
    (tensor : HostTensor α) (fault : Option Exc) :
    .done (c.put key tensor fault).2 = ((hostMap α).step d (.put key tensor fault)).2 := by
  cases fault with
  | some e => rfl
  | none =>
    rcases hput : c.put key tensor none with ⟨e, r⟩
    have hcases := c.put_cases key tensor none
    rw [hput] at hcases
    cases hcases with
    | raised _ hf => cases hf
    | tooLarge => rfl
    | stored => rfl

end HostCache

open HostCache in
/-- **The cache is the map, but for misses**: in every run, each call is answered by the cache as by the
map without a bound, or it is a `get` that misses.  In particular a hit is the copy of the last tensor put
under the key, which no `delete` or `clear` took since. -/
theorem cache_hits_map {α : Type} (maxBytes : ℤ) (ops : List (CacheOp α)) (op : CacheOp α) :
    (hostCacheMachine α maxBytes).answer ops op = (hostMap α).answer ops op ∨
      ∃ key, op = .get key ∧ (hostCacheMachine α maxBytes).answer ops op = .tensor none := by
  have hcoherent := coherent_exec maxBytes ops
  unfold Machine.answer
  generalize (hostCacheMachine α maxBytes).exec ops = c at hcoherent
  generalize (hostMap α).exec ops = d at hcoherent
  cases op with
  | get key =>
    show CacheAnswer.tensor (c.get key).2 = .tensor (d.get? key) ∨
      ∃ j, CacheOp.get key = .get j ∧ CacheAnswer.tensor (c.get key).2 = .tensor none
    rw [answer_get]
    cases hkey : c.cache.get? key with
    | none => exact Or.inr ⟨key, rfl, rfl⟩
    | some v =>
      refine Or.inl ?_
      rw [hcoherent key v hkey]
      rfl
  | put key tensor fault => exact Or.inl (answer_put c d key tensor fault)
  | delete key => exact Or.inl rfl
  | clear => exact Or.inl rfl

/-! ### Caches with room -/

namespace HostCache

variable {α : Type} {maxBytes : ℤ} {c : HostCache α} {d : Dict String (HostTensor α)}

/-- Different keys of the map count at most as much as the map. -/
theorem le_mapBytes {es : List (String × HostTensor α)} (hkeys : (es.map Prod.fst).Nodup)
    (hes : ∀ e ∈ es, d.get? e.1 = some e.2) : (es.map (fun e => e.2.nbytes)).sum ≤ mapBytes d := by
  have hsub : es.Subperm d.entries := by
    refine List.subperm_of_subset (List.Nodup.of_map Prod.fst hkeys) fun e he => ?_
    exact Dict.get?_eq_some_iff.mp (hes e he)
  obtain ⟨fs, hperm, hfs⟩ := hsub
  calc (es.map (fun e => e.2.nbytes)).sum
      = (fs.map (fun e => e.2.nbytes)).sum := (hperm.map _).sum_eq.symm
    _ ≤ mapBytes d := by
        refine (hfs.map _).sum_le_sum fun n hn => ?_
        obtain ⟨e, -, rfl⟩ := List.mem_map.mp hn
        exact e.2.nbytes_nonneg

/-- The entries of the cache without their recorded sizes. -/
def held (c : HostCache α) : List (String × HostTensor α) := c.cache.entries.map (fun e => (e.1, e.2.1))

theorem keys_held (c : HostCache α) : c.held.map Prod.fst = c.cache.keys := by
  rw [held, List.map_map]
  rfl

theorem mem_held {e : String × HostTensor α} (h : e ∈ c.held) :
    ∃ n, c.cache.get? e.1 = some (e.2, n) := by
  obtain ⟨f, hf, rfl⟩ := List.mem_map.mp h
  exact ⟨f.2.2, Dict.get?_eq_some_iff.mpr hf⟩

/-- The counter is the size of what is held. -/
theorem Accounted.held_bytes (h : Accounted c) :
    c.currentBytes = (c.held.map (fun e => e.2.nbytes)).sum := by
  rw [h.total, recordedBytes, held, List.map_map]
  congr 1
  exact List.map_congr_left h.recorded

/-- **No eviction where the map has room**: the tensor that is put and what else the cache holds are in
the map together. -/
theorem room_of_map (h : Accounted c) (hcoherent : Coherent c d) (key : String)
    (tensor : HostTensor α) :
    (c.delete key).currentBytes + tensor.nbytes ≤ mapBytes (d.insert key tensor.hostCopy) := by
  have hkeys : (((c.delete key).held ++ [(key, tensor.hostCopy)]).map Prod.fst).Nodup := by
    rw [List.map_append, keys_held, keys_delete]
    refine List.Nodup.append (c.cache.nodup.filter _) (List.nodup_singleton _) ?_
    simp
  have hle : (((c.delete key).held ++ [(key, tensor.hostCopy)]).map (fun e => e.2.nbytes)).sum ≤
      mapBytes (d.insert key tensor.hostCopy) := by
    refine le_mapBytes hkeys fun e he => ?_
    rw [Dict.get?_insert]
    rcases List.mem_append.mp he with he | he
    · obtain ⟨n, hn⟩ := mem_held he
      rw [get?_delete] at hn
      split_ifs at hn with hkey
      rw [if_neg hkey]
      exact hcoherent e.1 (e.2, n) hn
    · rw [List.mem_singleton.mp he, if_pos rfl]
  rw [(h.delete key).held_bytes]
  simpa using hle

theorem evict_of_room {nbytes : ℤ} (h : c.currentBytes + nbytes ≤ c.maxBytes) : c.evict nbytes = c := by
  refine Loop.run_of_stopped ?_ _
  rw [overFull, decide_eq_false_iff_not]
  rintro ⟨hover, -⟩
  omega

/-- A `put` with room for its tensor keeps the other entries. -/
theorem get?_put_of_room {key : String} {tensor : HostTensor α}
    (hroom : (c.delete key).currentBytes + tensor.nbytes ≤ c.maxBytes)
    (hfits : tensor.nbytes ≤ c.maxBytes) (j : String) :
    (c.put key tensor none).1.cache.get? j =
      if j = key then some (tensor.hostCopy, tensor.nbytes) else c.cache.get? j := by
  have hput : c.put key tensor none =
      ({ (c.delete key) with
          cache := (c.delete key).cache.insert key (tensor.hostCopy, tensor.nbytes),
          currentBytes := (c.delete key).currentBytes + tensor.nbytes }, .ok ()) := by
    simp only [put, HostTensor.nbytes_hostCopy]
    rw [evict_of_room (by rw [maxBytes_delete]; exact hroom), if_pos (by rw [maxBytes_delete]; exact hfits)]
  rw [hput]
  show ((c.delete key).cache.insert key (tensor.hostCopy, tensor.nbytes)).get? j = _
  rw [Dict.get?_insert, get?_delete]
  split_ifs <;> rfl

/-- **No call loses a key while the map has room after it.** -/
theorem agrees_step (h : Accounted c) (hcoherent : Coherent c d) {op : CacheOp α}
    (hfits : mapBytes ((hostMap α).step d op).1 ≤ c.maxBytes) {j : String} (hj : Agrees c d j) :
    Agrees ((hostCacheMachine α maxBytes).step c op).1 ((hostMap α).step d op).1 j := by
  unfold Agrees at hj ⊢
  cases op with
  | get key =>
    show ((c.get key).1.cache.get? j).map Prod.fst = d.get? j
    rw [get?_get]
    exact hj
  | put key tensor fault =>
    cases fault with
    | some e => exact hj
    | none =>
      replace hfits : mapBytes (d.insert key tensor.hostCopy) ≤ c.maxBytes := hfits
      have hroom := room_of_map h hcoherent key tensor
      have hrest := (h.delete key).nonneg
      show ((c.put key tensor none).1.cache.get? j).map Prod.fst = (d.insert key tensor.hostCopy).get? j
      rw [get?_put_of_room (by omega) (by omega), Dict.get?_insert]
      split_ifs with hkey
      · rfl
      · exact hj
  | delete key =>
    show ((c.delete key).cache.get? j).map Prod.fst = (d.erase key).get? j
    rw [get?_delete, Dict.get?_erase]
    split_ifs with hkey
    · rfl
    · exact hj
  | clear => rfl

/-- **What is not lost stays**: while the map has room after every call, the cache holds under a key
what the map holds. -/
theorem agrees_while_room (h0 : 0 ≤ maxBytes) {pre mid : List (CacheOp α)} {j : String}
    (hj : Agrees ((hostCacheMachine α maxBytes).exec pre) ((hostMap α).exec pre) j)
    (hfits : ∀ m, m <+: mid → mapBytes ((hostMap α).exec (pre ++ m)) ≤ maxBytes) :
    Agrees ((hostCacheMachine α maxBytes).exec (pre ++ mid)) ((hostMap α).exec (pre ++ mid)) j := by
  induction mid using List.reverseRecOn with
  | nil =>
    rw [List.append_nil]
    exact hj
  | append_singleton mid op ih =>
    have hbefore := ih fun m hm => hfits m (hm.trans (List.prefix_append mid [op]))
    have hlast := hfits (mid ++ [op]) List.prefix_rfl
    rw [← List.append_assoc, Machine.exec_snoc] at hlast
    rw [← List.append_assoc, Machine.exec_snoc, Machine.exec_snoc]
    refine agrees_step (accounted_exec h0 _) (coherent_exec maxBytes _) ?_ hbefore
    rw [maxBytes_exec]
    exact hlast

/-- Where cache and map agree, a call is answered alike. -/
theorem answer_of_agrees (h : ∀ j, Agrees c d j) (op : CacheOp α) :
    ((hostCacheMachine α maxBytes).step c op).2 = ((hostMap α).step d op).2 := by
  cases op with
  | get key =>
    show CacheAnswer.tensor (c.get key).2 = .tensor (d.get? key)
    rw [answer_get, h key]
  | put key tensor fault => exact answer_put c d key tensor fault
  | delete key => rfl
  | clear => rfl

/-- **A `put` evicts nothing** when the map has room after it. -/
theorem evict_put_of_room (h : Accounted c) (hcoherent : Coherent c d) {key : String} {tensor : HostTensor α}
    (hfits : mapBytes (d.insert key tensor.hostCopy) ≤ c.maxBytes) :
    (c.delete key).evict tensor.hostCopy.nbytes = c.delete key := by
  refine evict_of_room ?_
  rw [maxBytes_delete, HostTensor.nbytes_hostCopy]
  exact (room_of_map h hcoherent key tensor).trans hfits

end HostCache

open HostCache in
/-- **A cache with room is the map**: in a run after whose every call the tensors of the map fit into the
bound together, every call is answered by the cache as by the map, and no `put` evicts anything. -/
theorem cache_is_map {α : Type} {maxBytes : ℤ} {ops : List (CacheOp α)}
    (hfits : ∀ pre, pre <+: ops → mapBytes ((hostMap α).exec pre) ≤ maxBytes) :
    (hostCacheMachine α maxBytes).trace ops = (hostMap α).trace ops ∧
      EveryStep (fun pre op => ∀ key tensor, op = .put key tensor none →
        let c := ((hostCacheMachine α maxBytes).exec pre).delete key
        c.evict tensor.hostCopy.nbytes = c) ops := by
  have h0 : 0 ≤ maxBytes := hfits [] List.nil_prefix
  constructor
  · induction ops using List.reverseRecOn with
    | nil => rfl
    | append_singleton ops op ih =>
      have hbefore : ∀ pre, pre <+: ops → mapBytes ((hostMap α).exec pre) ≤ maxBytes :=
        fun pre hpre => hfits pre (hpre.trans (List.prefix_append ops [op]))
      rw [Machine.trace_snoc, Machine.trace_snoc, ih hbefore]
      congr 3
      refine answer_of_agrees (fun j => ?_) op
      have hinit : Agrees ((hostCacheMachine α maxBytes).exec []) ((hostMap α).exec []) j := rfl
      exact agrees_while_room h0 hinit hbefore
  · rintro pre op post rfl key tensor rfl
    have hlast := hfits (pre ++ [.put key tensor none]) ⟨post, by simp⟩
    rw [Machine.exec_snoc] at hlast
    refine evict_put_of_room (accounted_exec h0 pre) (coherent_exec maxBytes pre) ?_
    rw [maxBytes_exec]
    exact hlast

/-- Two keys, one of which is put again and one of which is taken, under a bound of ten bytes. -/
def roomyCalls : List (CacheOp ℕ) :=
  [.put "a" (HostCache.exampleTensor 1) none, .put "b" (HostCache.exampleTensor 3) none, .get "a",
    .put "a" (HostCache.exampleTensor 2) none, .get "a", .delete "b",
    .put "a" (HostCache.exampleTensor 5) none, .get "b"]

theorem cache_is_map_roomy :
    (hostCacheMachine ℕ 10).trace roomyCalls = (hostMap ℕ).trace roomyCalls ∧
      EveryStep (fun pre op => ∀ key tensor, op = .put key tensor none →
        let c := ((hostCacheMachine ℕ 10).exec pre).delete key
        c.evict tensor.hostCopy.nbytes = c) roomyCalls :=
  cache_is_map fun pre hpre => by
    have hall : ∀ pre ∈ roomyCalls.inits, mapBytes ((hostMap ℕ).exec pre) ≤ 10 := by decide +kernel
    exact hall pre ((List.mem_inits pre roomyCalls).mpr hpre)

end AwareKV
