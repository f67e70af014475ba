import AwareKV.Lib.Dict
import AwareKV.Lib.Loop
import AwareKV.Lib.Machine
import AwareKV.Lib.Tensor
import Mathlib.Algebra.Order.BigOperators.Group.List

/-!
# AwareKV.HostCache — the host memory cache

Translation of `tier/host_cache.py`.  The cache is an `OrderedDict` from keys to tensors with their
recorded sizes, oldest use first, and a byte counter beside it.

* `evict_exits`: the eviction loop of `put` leaves, after at most one round for each entry.
* `put_cases`: what a `put` does to the entries.
* `host_cache_accounting`: over all runs the counter is the sum of the recorded sizes, these are the
  sizes of the tensors, and the counter stays between 0 and the bound.
-/

namespace AwareKV

/-! ## Tensors -/

/-- What the cache reads of a tensor: bytes of an element, device, page locking, shape and elements. -/
structure HostTensor (α : Type) where
  elementSize : ℕ
  isCuda : Bool := false
  isPinned : Bool := false
  tensor : Tensor α
  deriving DecidableEq

namespace HostTensor

variable {α : Type} (t : HostTensor α)

/-- `tensor.cpu()`. -/
def cpu : HostTensor α := { t with isCuda := false }

/-- `tensor.pin_memory()`. -/
def pinMemory : HostTensor α := { t with isPinned := true }

/-- `tensor.element_size() * tensor.numel()`. -/
def nbytes : ℤ := (t.elementSize * t.tensor.shape.prod : ℕ)

/-- The copy that `put` stores. -/
def hostCopy : HostTensor α := (if t.isCuda then t.cpu else t).pinMemory

theorem nbytes_nonneg : 0 ≤ t.nbytes := Int.natCast_nonneg _

@[simp] theorem nbytes_hostCopy : t.hostCopy.nbytes = t.nbytes := by
  unfold hostCopy
  split_ifs <;> rfl

end HostTensor

/-! ## The cache -/

/-- `HostCache`. -/
structure HostCache (α : Type) where
  maxBytes : ℤ
  currentBytes : ℤ
  cache : Dict String (HostTensor α × ℤ)
  deriving DecidableEq

namespace HostCache

variable {α : Type}

/-- `HostCache(max_bytes)`. -/
def new (α : Type) (maxBytes : ℤ) : HostCache α := ⟨maxBytes, 0, .empty⟩

variable (c : HostCache α)

/-- `get`. -/
def get (key : String) : HostCache α × Option (HostTensor α) :=
  match c.cache.get? key with
  | some (tensor, _) => ({ c with cache := c.cache.moveToEnd key }, some tensor)
  | none => (c, none)

/-- `delete`. -/
def delete (key : String) : HostCache α :=
  match c.cache.get? key with
  | some (_, nbytes) =>
    { c with currentBytes := c.currentBytes - nbytes, cache := c.cache.erase key }
  | none => c

/-- `clear`. -/
def clear : HostCache α := { c with currentBytes := 0, cache := .empty }

/-- The condition of the `while` loop of `put`. -/
def overFull (nbytes : ℤ) : Bool := c.currentBytes + nbytes > c.maxBytes ∧ c.cache.size > 0

/-- The body of the loop: `popitem(last=False)`. -/
def evictOldest : HostCache α :=
  match c.cache.entries with
  | [] => c
  | (_, _, evictNbytes) :: _ =>
    { c with currentBytes := c.currentBytes - evictNbytes, cache := c.cache.popFirst }

/-- The `while` loop of `put`. -/
def evict (nbytes : ℤ) : HostCache α :=
  Loop.run (fun c => c.overFull nbytes) evictOldest c.cache.size c

/-- `put`; `fault` is what copying to the host or `pin_memory` raises.  The block that takes out an
entry with the same key is that of `delete`. -/
def put (key : String) (tensor : HostTensor α) (fault : Option Exc) : HostCache α × Py Unit :=
  match fault with
  | some e => (c, .error e)
  | none =>
    let tensor := tensor.hostCopy
    let nbytes := tensor.nbytes
    let c := (c.delete key).evict nbytes
    if nbytes ≤ c.maxBytes then
      ({ c with cache := c.cache.insert key (tensor, nbytes), currentBytes := c.currentBytes + nbytes },
        .ok ())
    else (c, .ok ())

/-! ### The eviction loop -/

variable {c}

/-- **The loop leaves**, whatever size it makes room for. -/
theorem evict_exits (c : HostCache α) (nbytes : ℤ) :
    ∃ n ≤ c.cache.size,
      Loop.Exits (fun c => c.overFull nbytes) evictOldest c n (c.evict nbytes) := by
  refine Loop.exits_run (fun c => c.cache.size) ?_ c.cache.size c le_rfl
  intro c hc
  have hsize : c.cache.size > 0 := by
    have hboth : c.currentBytes + nbytes > c.maxBytes ∧ c.cache.size > 0 := by
      simpa only [overFull, decide_eq_true_eq] using hc
    exact hboth.2
  unfold evictOldest
  cases hes : c.cache.entries with
  | nil => simp [Dict.size, hes] at hsize
  | cons e es => simp [Dict.size, Dict.popFirst, hes]

/-- What the loop keeps, it keeps at the end. -/
theorem evict_invariant {I : HostCache α → Prop} (hI : ∀ c, I c → I c.evictOldest) (h0 : I c)
    (nbytes : ℤ) : I (c.evict nbytes) := by
  obtain ⟨n, -, hexits⟩ := c.evict_exits nbytes
  exact hexits.invariant (fun c _ hc => hI c hc) h0

/-- The loop leaves with room for the new entry, or with nothing left. -/
theorem evict_stopped (c : HostCache α) (nbytes : ℤ) :
    (c.evict nbytes).currentBytes + nbytes ≤ (c.evict nbytes).maxBytes ∨
      (c.evict nbytes).cache.entries = [] := by
  obtain ⟨n, -, hexits⟩ := c.evict_exits nbytes
  have hstop := hexits.stopped
  simp only [overFull, decide_eq_false_iff_not, not_and_or, not_lt, gt_iff_lt, Nat.le_zero] at hstop
  rcases hstop with hroom | hempty
  · exact Or.inl hroom
  · exact Or.inr (List.length_eq_zero_iff.mp hempty)

@[simp] theorem maxBytes_delete (key : String) : (c.delete key).maxBytes = c.maxBytes := by
  unfold delete
  split <;> rfl

@[simp] theorem maxBytes_evictOldest : c.evictOldest.maxBytes = c.maxBytes := by
  unfold evictOldest
  split <;> rfl

@[simp] theorem maxBytes_evict (nbytes : ℤ) : (c.evict nbytes).maxBytes = c.maxBytes :=
  evict_invariant (I := fun d => d.maxBytes = c.maxBytes)
    (fun _ hd => maxBytes_evictOldest.trans hd) rfl nbytes

/-- The loop takes entries off the front. -/
theorem entries_evict (c : HostCache α) (nbytes : ℤ) :
    (c.evict nbytes).cache.entries <:+ c.cache.entries := by
  refine evict_invariant (I := fun d => d.cache.entries <:+ c.cache.entries) ?_ List.suffix_rfl nbytes
  intro d hd
  unfold evictOldest
  split
  · exact hd
  · exact (List.tail_suffix _).trans hd

@[simp] theorem entries_delete (key : String) :
    (c.delete key).cache.entries = (c.cache.erase key).entries := by
  unfold delete
  split
  · rfl
  · next hnone => rw [Dict.erase_of_get? hnone]

theorem keys_delete (key : String) :
    (c.delete key).cache.keys = c.cache.keys.filter (fun j => j ≠ key) := by
  rw [← Dict.keys_erase]
  exact congrArg (List.map Prod.fst) (entries_delete key)

theorem keys_evict (c : HostCache α) (nbytes : ℤ) :
    (c.evict nbytes).cache.keys <:+ c.cache.keys :=
  (c.entries_evict nbytes).map Prod.fst

/-- **What a `put` does**: it raises and changes nothing; or it stores the copy after the entries
that the loop left; or the tensor is too large and the loop's entries are all there is. -/
inductive Put (c : HostCache α) (key : String) (tensor : HostTensor α) (fault : Option Exc) :
    HostCache α × Py Unit → Prop
  | raised (e : Exc) (hf : fault = some e) : Put c key tensor fault (c, .error e)
  | stored (d : HostCache α) (hf : fault = none) (hfits : tensor.nbytes ≤ c.maxBytes)
      (hmax : d.maxBytes = c.maxBytes)
      (hbytes : d.currentBytes = ((c.delete key).evict tensor.nbytes).currentBytes + tensor.nbytes)
      (hentries : d.cache.entries = ((c.delete key).evict tensor.nbytes).cache.entries ++
        [(key, tensor.hostCopy, tensor.nbytes)])
      (hkeys : d.cache.keys = ((c.delete key).evict tensor.nbytes).cache.keys ++ [key]) :
      Put c key tensor fault (d, .ok ())
  | tooLarge (hf : fault = none) (hlarge : c.maxBytes < tensor.nbytes) :
      Put c key tensor fault ((c.delete key).evict tensor.nbytes, .ok ())

theorem put_cases (c : HostCache α) (key : String) (tensor : HostTensor α) (fault : Option Exc) :
    Put c key tensor fault (c.put key tensor fault) := by
  cases fault with
  | some e => exact .raised e rfl
  | none =>
    have hput : c.put key tensor none =
        if tensor.nbytes ≤ c.maxBytes then
          ({ (c.delete key).evict tensor.nbytes with
            cache := ((c.delete key).evict tensor.nbytes).cache.insert key
              (tensor.hostCopy, tensor.nbytes),
            currentBytes := ((c.delete key).evict tensor.nbytes).currentBytes + tensor.nbytes },
            .ok ())
        else ((c.delete key).evict tensor.nbytes, .ok ()) := by
      simp only [put, HostTensor.nbytes_hostCopy, maxBytes_evict, maxBytes_delete]
    rw [hput]
    split_ifs with hfits
    · have hnew : ((c.delete key).evict tensor.nbytes).cache.get? key = none := by
        rw [Dict.get?_eq_none_iff]
        intro hmem
        have hkey := ((c.delete key).keys_evict tensor.nbytes).subset hmem
        rw [keys_delete] at hkey
        simp at hkey
      exact .stored _ rfl hfits (by simp) rfl (Dict.entries_insert hnew (tensor.hostCopy, tensor.nbytes))
        (Dict.keys_insert hnew _)
    · exact .tooLarge rfl (not_le.mp hfits)

end HostCache

/-! ## Runs -/

/-- The calls on a cache. -/
inductive CacheOp (α : Type)
  | get (key : String)
  | put (key : String) (tensor : HostTensor α) (fault : Option Exc)
  | delete (key : String)
  | clear

/-- The answers to the calls. -/
inductive CacheAnswer (α : Type)
  | tensor (t : Option (HostTensor α))
  | done (r : Py Unit)

/-- The cache as a machine. -/
def hostCacheMachine (α : Type) (maxBytes : ℤ) : Machine (HostCache α) (CacheOp α) (CacheAnswer α) where
  init := .new α maxBytes
  step c
    | .get key => ((c.get key).1, .tensor (c.get key).2)
    | .put key tensor fault => ((c.put key tensor fault).1, .done (c.put key tensor fault).2)
    | .delete key => (c.delete key, .done (.ok ()))
    | .clear => (c.clear, .done (.ok ()))

namespace HostCache

variable {α : Type} {c : HostCache α}

/-- The sum of the recorded sizes. -/
def recordedBytes (c : HostCache α) : ℤ := (c.cache.entries.map (fun e => e.2.2)).sum

/-- The invariant of the accounts. -/
structure Accounted (c : HostCache α) : Prop where
  total : c.currentBytes = c.recordedBytes
  recorded : ∀ e ∈ c.cache.entries, e.2.2 = e.2.1.nbytes
  bounded : c.currentBytes ≤ c.maxBytes

namespace Accounted

theorem size_nonneg (h : Accounted c) {e : String × HostTensor α × ℤ} (he : e ∈ c.cache.entries) :
    0 ≤ e.2.2 :=
  h.recorded e he ▸ e.2.1.nbytes_nonneg

theorem nonneg (h : Accounted c) : 0 ≤ c.currentBytes := by
  rw [h.total]
  refine List.sum_nonneg fun x hx => ?_
  obtain ⟨e, he, rfl⟩ := List.mem_map.mp hx
  exact h.size_nonneg he

/-- Hits move an entry. -/
theorem get (h : Accounted c) (key : String) : Accounted (c.get key).1 := by
  unfold HostCache.get
  cases hk : c.cache.get? key with
  | none => exact h
  | some v =>
    obtain ⟨before, after, hc, herase⟩ := Dict.entries_split hk
    have hmoved : (c.cache.moveToEnd key).entries = before ++ after ++ [(key, v)] := by
      rw [Dict.entries_moveToEnd hk, herase]
    refine ⟨?_, ?_, h.bounded⟩
    · show c.currentBytes = _
      rw [h.total, recordedBytes, recordedBytes, hmoved, hc]
      simp only [List.map_append, List.map_cons, List.map_nil, List.sum_append, List.sum_cons,
        List.sum_nil]
      omega
    · intro e he
      refine h.recorded e ?_
      rw [hc]
      simp only [hmoved, List.mem_append, List.mem_singleton] at he
      simp only [List.mem_append, List.mem_cons]
      tauto

/-- An entry leaves with its bytes. -/
theorem delete (h : Accounted c) (key : String) : Accounted (c.delete key) := by
  unfold HostCache.delete
  cases hk : c.cache.get? key with
  | none => exact h
  | some v =>
    obtain ⟨before, after, hc, herase⟩ := Dict.entries_split hk
    have hv : 0 ≤ v.2 := h.size_nonneg (e := (key, v)) (by simp [hc])
    refine ⟨?_, ?_, ?_⟩
    · show c.currentBytes - v.2 = _
      rw [h.total, recordedBytes, recordedBytes, herase, hc]
      simp only [List.map_append, List.map_cons, List.sum_append, List.sum_cons]
      omega
    · intro e he
      refine h.recorded e ?_
      rw [hc]
      rw [herase] at he
      simp only [List.mem_append, List.mem_cons] at he ⊢
      tauto
    · show c.currentBytes - v.2 ≤ c.maxBytes
      have hb := h.bounded
      omega

theorem evictOldest (h : Accounted c) : Accounted c.evictOldest := by
  unfold HostCache.evictOldest
  cases hes : c.cache.entries with
  | nil => exact h
  | cons e es =>
    have hv : 0 ≤ e.2.2 := h.size_nonneg (by simp [hes])
    refine ⟨?_, ?_, ?_⟩
    · show c.currentBytes - e.2.2 = (c.cache.popFirst.entries.map (fun e => e.2.2)).sum
      rw [h.total, recordedBytes, Dict.entries_popFirst, hes]
      simp
    · intro e' he'
      have htail : e' ∈ c.cache.popFirst.entries := he'
      rw [Dict.entries_popFirst] at htail
      exact h.recorded e' (List.mem_of_mem_tail htail)
    · show c.currentBytes - e.2.2 ≤ c.maxBytes
      have hb := h.bounded
      omega

/-- A `put` that stores adds the bytes of its tensor, and there is room for them. -/
theorem put (h : Accounted c) (key : String) (tensor : HostTensor α) (fault : Option Exc) :
    Accounted (c.put key tensor fault).1 := by
  have hevict : Accounted ((c.delete key).evict tensor.nbytes) :=
    evict_invariant (fun _ hd => hd.evictOldest) (h.delete key) tensor.nbytes
  rcases hput : c.put key tensor fault with ⟨d, r⟩
  have hcases := c.put_cases key tensor fault
  rw [hput] at hcases
  cases hcases with
  | raised => exact h
  | tooLarge => exact hevict
  | stored _ _ hfits hmax hbytes hentries _ =>
    refine ⟨?_, ?_, ?_⟩
    · show d.currentBytes = _
      rw [hbytes, hevict.total, recordedBytes, recordedBytes, hentries]
      simp
    · intro e he
      rw [hentries, List.mem_append, List.mem_singleton] at he
      rcases he with he | rfl
      · exact hevict.recorded e he
      · exact (tensor.nbytes_hostCopy).symm
    · show d.currentBytes ≤ d.maxBytes
      rw [hbytes, hmax]
      rcases evict_stopped (c.delete key) tensor.nbytes with hroom | hempty
      · simpa using hroom
      · rw [hevict.total, recordedBytes, hempty]
        simpa using hfits

end Accounted

/-- **Every call keeps the accounts.** -/
theorem accounted_step (maxBytes : ℤ) (h : Accounted c) (h0 : 0 ≤ c.maxBytes) (op : CacheOp α) :
    Accounted ((hostCacheMachine α maxBytes).step c op).1 := by
  cases op with
  | get key => exact h.get key
  | put key tensor fault => exact h.put key tensor fault
  | delete key => exact h.delete key
  | clear => exact ⟨rfl, by simp [hostCacheMachine, clear, Dict.empty], h0⟩

theorem maxBytes_step (maxBytes : ℤ) (c : HostCache α) (op : CacheOp α) :
    ((hostCacheMachine α maxBytes).step c op).1.maxBytes = c.maxBytes := by
  cases op with
  | get key =>
    show (c.get key).1.maxBytes = c.maxBytes
    unfold get
    split <;> rfl
  | put key tensor fault =>
    show (c.put key tensor fault).1.maxBytes = c.maxBytes
    rcases hput : c.put key tensor fault with ⟨d, r⟩
    have hcases := c.put_cases key tensor fault
    rw [hput] at hcases
    cases hcases with
    | raised => rfl
    | tooLarge => simp
    | stored _ _ _ hmax => exact hmax
  | delete key => exact maxBytes_delete key
  | clear => rfl

theorem maxBytes_exec (maxBytes : ℤ) (ops : List (CacheOp α)) :
    ((hostCacheMachine α maxBytes).exec ops).maxBytes = maxBytes :=
  (hostCacheMachine α maxBytes).invariant (I := fun c => c.maxBytes = maxBytes) rfl
    (fun c op hc => (maxBytes_step maxBytes c op).trans hc) ops

/-- **The accounts of every reachable cache.** -/
theorem accounted_exec {maxBytes : ℤ} (h0 : 0 ≤ maxBytes) (ops : List (CacheOp α)) :
    Accounted ((hostCacheMachine α maxBytes).exec ops) := by
  induction ops using List.reverseRecOn with
  | nil => exact ⟨rfl, by simp [hostCacheMachine, new, Dict.empty], h0⟩
  | append_singleton ops op ih =>
    rw [Machine.exec_snoc]
    exact accounted_step maxBytes ih (by rw [maxBytes_exec]; exact h0) op

/-- A tensor of `n` elements of two bytes each. -/
def exampleTensor (n : ℕ) : HostTensor ℕ := { elementSize := 2, tensor := .flat (List.range n) }

end HostCache

open HostCache in
/-- **Accounting**: after every run of calls on a cache with a bound that is not negative, the counter
is the sum of the recorded sizes, each recorded size is that of its tensor, the counter is between 0
and the bound, the keys are distinct; and whatever tensor a `put` brings next, its eviction loop
leaves after at most one round for each entry. -/
theorem host_cache_accounting {α : Type} (maxBytes : ℤ) (h0 : 0 ≤ maxBytes) (ops : List (CacheOp α)) :
    ((hostCacheMachine α maxBytes).exec ops).currentBytes =
        ((hostCacheMachine α maxBytes).exec ops).recordedBytes ∧
      (∀ key tensor nbytes, ((hostCacheMachine α maxBytes).exec ops).cache.get? key = some (tensor, nbytes) →
        nbytes = tensor.nbytes) ∧
      0 ≤ ((hostCacheMachine α maxBytes).exec ops).currentBytes ∧
      ((hostCacheMachine α maxBytes).exec ops).currentBytes ≤ maxBytes ∧
      ((hostCacheMachine α maxBytes).exec ops).cache.keys.Nodup ∧
      ∀ key (tensor : HostTensor α), ∃ n ≤ ((hostCacheMachine α maxBytes).exec ops).cache.size,
        Loop.Exits (fun c => c.overFull tensor.hostCopy.nbytes) evictOldest
          (((hostCacheMachine α maxBytes).exec ops).delete key) n
          ((((hostCacheMachine α maxBytes).exec ops).delete key).evict tensor.hostCopy.nbytes) := by
  have h : Accounted ((hostCacheMachine α maxBytes).exec ops) := accounted_exec h0 ops
  refine ⟨h.total, ?_, h.nonneg, ?_, Dict.nodup _, ?_⟩
  · intro key tensor nbytes hget
    exact h.recorded _ (Dict.get?_eq_some_iff.mp hget)
  · have hbound := h.bounded
    rwa [maxBytes_exec] at hbound
  · intro key tensor
    obtain ⟨n, hn, hexits⟩ :=
      evict_exits (((hostCacheMachine α maxBytes).exec ops).delete key) tensor.hostCopy.nbytes
    refine ⟨n, hn.trans ?_, hexits⟩
    unfold Dict.size
    rw [entries_delete]
    exact List.length_filter_le _ _

/-- A second entry pushes out the first, a third one is too large. -/
theorem host_cache_accounting_evicting :
    ((hostCacheMachine ℕ 10).exec [.put "a" (HostCache.exampleTensor 4) none,
        .put "b" (HostCache.exampleTensor 3) none, .get "b",
        .put "c" (HostCache.exampleTensor 9) none]).currentBytes ≤ 10 :=
  (host_cache_accounting 10 (by decide) _).2.2.2.1

end AwareKV
