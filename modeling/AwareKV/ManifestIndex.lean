import AwareKV.Lib.Lapse
import AwareKV.Lib.Machine
import AwareKV.Store

/-!
# AwareKV.ManifestIndex — an index of manifests that expire

`get` and `evict_expired` delete what they find expired, each at its own times.  The index is the map
of the last writes without some expired manifests (`lapsed_run`), and a `get` does not see which.

* `memory_index_get`: over all runs under a clock that does not go back, `get` answers with the last
  manifest that was put under the key and not deleted, unless it has expired.
-/

namespace AwareKV

/-! ### Runs -/

/-- The calls on an index, with the times that the clock shows during them. -/
inductive IndexOp
  | put (m : PrefixManifest) (now : ℤ)
  | get (prefixKey : String) (now : ℤ)
  | touch (prefixKey : String) (now : ℤ)
  | delete (prefixKey : String) (now : ℤ)
  | listAll (now : ℤ)
  | evictExpired (now : ℕ → ℤ)

/-- The answers to the calls. -/
inductive IndexAnswer
  | done
  | manifest (m : Option PrefixManifest)
  | success (b : Bool)
  | manifests (ms : List PrefixManifest)
  | evicted (n : ℕ)
  deriving DecidableEq

/-- The index as a machine. -/
def memoryIndex : Machine MemoryIndex IndexOp IndexAnswer where
  init := ⟨.empty⟩
  step ix
    | .put m _ => (ix.put m, .done)
    | .get prefixKey now => ((ix.get prefixKey now).1, .manifest (ix.get prefixKey now).2)
    | .touch prefixKey now => (ix.touch prefixKey now, .success (ix.touchable prefixKey))
    | .delete prefixKey _ => ((ix.delete prefixKey).1, .success (ix.delete prefixKey).2)
    | .listAll _ => (ix, .manifests ix.listAll)
    | .evictExpired now => ((ix.evictExpired now).1, .evicted (ix.evictExpired now).2)

/-- The call reads `t` off the clock. -/
def IndexOp.Reads : IndexOp → ℤ → Prop
  | .get _ now, t => t = now
  | .touch _ now, t => t = now
  | .evictExpired now, t => ∃ i, t = now i
  | _, _ => False

/-- The clock does not go back from one reading to a later one. -/
def NonDecreasing (ops : List IndexOp) : Prop :=
  ops.Pairwise (fun earlier later => ∀ s t, earlier.Reads s → later.Reads t → s ≤ t)

/-! ### The last writes -/

/-- What a call makes of the last write under `k`. -/
def lastWrite (k : String) (acc : Option PrefixManifest) : IndexOp → Option PrefixManifest
  | .put m _ => if k = m.prefixKey then some m else acc
  | .delete prefixKey _ => if k = prefixKey then none else acc
  | _ => acc

/-- The manifest that was put last under `k`, if it was not deleted since. -/
def lastManifest (ops : List IndexOp) (k : String) : Option PrefixManifest :=
  ops.foldl (lastWrite k) none

theorem lastManifest_snoc (ops : List IndexOp) (op : IndexOp) (k : String) :
    lastManifest (ops ++ [op]) k = lastWrite k (lastManifest ops k) op := List.foldl_append

/-! ### Expiry -/

/-- An expired manifest, up to its last access. -/
def Expired (m : PrefixManifest) (t : ℤ) : Prop := MemoryIndex.isExpired m t = true

theorem expired_iff {m : PrefixManifest} {t : ℤ} :
    Expired m t ↔ ¬ (m.ttlS ≤ 0 ∨ t - m.createdAtMs ≤ 1000 * m.ttlS) := by
  unfold Expired MemoryIndex.isExpired
  split_ifs with httl
  · simp [httl]
  · rw [decide_eq_true_eq]
    omega

@[simp] theorem expired_untouched {m : PrefixManifest} {t : ℤ} : Expired m.untouched t ↔ Expired m t :=
  Iff.rfl

theorem lasting_expired : Lasting Expired := by
  intro m t t' hexp ht
  rw [expired_iff] at hexp ⊢
  omega

/-- The index is the map of the last writes without some manifests that have expired at time `t`. -/
def Represents (ix : MemoryIndex) (s : String → Option PrefixManifest) (t : ℤ) : Prop :=
  Lapsed PrefixManifest.untouched Expired ix.index s t

/-- **Step lemma.** -/
theorem represents_step {ix : MemoryIndex} {s : String → Option PrefixManifest} {t : ℤ}
    (h : Represents ix s t) {op : IndexOp} (hread : ∀ r, op.Reads r → r ≤ t) :
    Represents (memoryIndex.step ix op).1 (fun k => lastWrite k (s k) op) t := by
  cases op with
  | put m now => exact Lapsed.insert h m.prefixKey m
  | get prefixKey now =>
    show Represents (ix.get prefixKey now).1 s t
    unfold MemoryIndex.get
    cases hget : ix.index.get? prefixKey with
    | none => exact h
    | some m =>
      dsimp only
      split_ifs with hexp
      · refine Lapsed.drop h [prefixKey] fun k hk v hv => ?_
        rw [List.mem_singleton.mp hk, hget] at hv
        cases hv
        exact lasting_expired m now t hexp (hread now rfl)
      · exact h
  | touch prefixKey now => exact Lapsed.modify h prefixKey fun _ => rfl
  | delete prefixKey now =>
    show Represents (ix.delete prefixKey).1 _ t
    rw [MemoryIndex.delete_fst]
    exact Lapsed.erase h prefixKey
  | listAll now => exact h
  | evictExpired now =>
    refine Lapsed.drop h (ix.expiredKeys now) fun k hk m hm => ?_
    obtain ⟨i, hexp⟩ := MemoryIndex.expired_of_mem hk hm
    exact lasting_expired m (now i) t hexp (hread (now i) ⟨i, rfl⟩)

/-- **Run lemma**: at any time from the end of the run on. -/
theorem represents_exec (ops : List IndexOp) (t : ℤ) (hread : ∀ op ∈ ops, ∀ r, op.Reads r → r ≤ t) :
    Represents (memoryIndex.exec ops) (lastManifest ops) t := by
  induction ops using List.reverseRecOn with
  | nil => exact Lapsed.empty t
  | append_singleton ops op ih =>
    have hprev := ih fun op' hop' => hread op' (List.mem_append_left _ hop')
    have hnext := represents_step hprev (hread op (by simp))
    have hlast : lastManifest (ops ++ [op]) = fun k => lastWrite k (lastManifest ops k) op :=
      funext (lastManifest_snoc ops op)
    rw [Machine.exec_snoc, hlast]
    exact hnext

/-- The manifest lives at time `t`. -/
def Alive (m : PrefixManifest) (t : ℤ) : Bool := m.ttlS ≤ 0 ∨ t - m.createdAtMs ≤ 1000 * m.ttlS

theorem alive_iff {m : PrefixManifest} {t : ℤ} : Alive m t = true ↔ ¬ Expired m t := by
  rw [expired_iff, not_not, Alive, decide_eq_true_iff]

/-- A `get` answers with what the index has under the key, if it lives. -/
theorem get_eq_filter (ix : MemoryIndex) (k : String) (t : ℤ) :
    (ix.get k t).2 = (ix.index.get? k).filter (Alive · t) := by
  have halive : ∀ m, Alive m t = !MemoryIndex.isExpired m t := by
    intro m
    rw [Bool.eq_iff_iff, alive_iff, Expired, Bool.not_eq_true', Bool.not_eq_true]
  unfold MemoryIndex.get
  cases ix.index.get? k with
  | none => rfl
  | some m =>
    rw [Option.filter_some, halive]
    dsimp only
    cases MemoryIndex.isExpired m t <;> rfl

/-- **A `get` does not see which expired manifests the index has left.** -/
theorem Represents.get {ix : MemoryIndex} {s : String → Option PrefixManifest} {t : ℤ}
    (h : Represents ix s t) (k : String) :
    (ix.get k t).2.map PrefixManifest.untouched =
      ((s k).filter (Alive · t)).map PrefixManifest.untouched := by
  rw [get_eq_filter]
  exact h.lookup (Alive · t) (fun _ => alive_iff) k

/-- A `get` at time `t` after the calls `pre` answers with the manifest that was put last under its key,
up to its last access, if it was not deleted since and is alive at `t`, and with `None` otherwise. -/
def AnswersLast (pre : List IndexOp) : IndexOp → Prop
  | .get k t => ∃ r, memoryIndex.answer pre (.get k t) = .manifest r ∧
      r.map PrefixManifest.untouched =
        ((lastManifest pre k).filter (Alive · t)).map PrefixManifest.untouched
  | _ => True

/-- **TTL**: in every run under a clock that does not go back, every `get` answers with the last
manifest unless it has expired, whatever was deleted on the way because it had. -/
theorem memory_index_get (ops : List IndexOp) (hclock : NonDecreasing ops) :
    EveryStep AnswersLast ops := by
  rintro pre op post rfl
  cases op with
  | get k t =>
    refine ⟨_, rfl, (represents_exec pre t fun op hop r hr => ?_).get k⟩
    exact (List.pairwise_append.mp hclock).2.2 op hop (.get k t) (by simp) r t hr rfl
  | _ => trivial

/-- A manifest that lives for a second. -/
def shortLived : PrefixManifest :=
  { prefixKey := "k", modelId := "m", tokenizerId := "m", kvLayoutVersion := "v1-block-first",
    blockSize := 16, cacheDtype := "float16", matchedTokens := 16, matchedBlocks := [0], numLayers := 1,
    createdAtMs := 0, lastAccessMs := 0, ttlS := 1, criticalCodec := "fp16_raw", criticalNbytes := 0,
    criticalObjectId := "object" }

/-- Asked for while it lives, evicted, and asked for again. -/
theorem memory_index_get_lapsing :
    EveryStep AnswersLast [.put shortLived 0, .get "k" 1000, .touch "k" 1000,
      .evictExpired (fun _ => 1001), .get "k" 2000] := by
  refine memory_index_get _ ?_
  simp [NonDecreasing, IndexOp.Reads]

end AwareKV
