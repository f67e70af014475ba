import Mathlib.Data.List.Basic
import Mathlib.Data.List.Nodup
import Mathlib.Tactic.Common

/-!
# AwareKV.Lib.Dict — dictionaries that remember insertion order

`Dict κ ν` is a list of entries with distinct keys, in the order in which the keys were first
inserted: storing under a present key keeps its place, a new key goes to the end, and a deleted key
that comes back goes to the end again.  Iteration runs over `entries`.

The lookup lemmas (`get?_insert`, `get?_erase`, `get?_modify`) are the simp set; `get?_eq_some_iff`
connects lookups with the entries.  `moveToEnd` and `popFirst` are the two operations of an
`OrderedDict` that a `dict` lacks.
-/

namespace AwareKV

/-- An insertion-ordered dictionary. -/
structure Dict (κ ν : Type*) where
  entries : List (κ × ν)
  nodup : (entries.map Prod.fst).Nodup

namespace Dict

variable {κ ν : Type*}

@[ext] theorem ext {d d' : Dict κ ν} (h : d.entries = d'.entries) : d = d' := by
  cases d; cases d'; cases h; rfl

instance [DecidableEq κ] [DecidableEq ν] : DecidableEq (Dict κ ν) := fun d d' =>
  decidable_of_iff (d.entries = d'.entries) ⟨ext, fun h => h ▸ rfl⟩

/-- The empty dictionary. -/
def empty : Dict κ ν := ⟨[], List.nodup_nil⟩

instance : Inhabited (Dict κ ν) := ⟨empty⟩

/-- The keys, in insertion order. -/
def keys (d : Dict κ ν) : List κ := d.entries.map Prod.fst

/-- The number of entries. -/
def size (d : Dict κ ν) : ℕ := d.entries.length

variable [DecidableEq κ]

/-- Lookup in a list of entries. -/
def assoc : List (κ × ν) → κ → Option ν
  | [], _ => none
  | (a, v) :: es, k => if a = k then some v else assoc es k

/-- Overwrite in place, or append. -/
def assign : List (κ × ν) → κ → ν → List (κ × ν)
  | [], k, v => [(k, v)]
  | (a, w) :: es, k, v => if a = k then (a, v) :: es else (a, w) :: assign es k v

/-- The value stored under `k`. -/
def get? (d : Dict κ ν) (k : κ) : Option ν := assoc d.entries k

/-- `k` is a key of `d`. -/
def contains (d : Dict κ ν) (k : κ) : Bool := (d.get? k).isSome

theorem assign_keys (es : List (κ × ν)) (k : κ) (v : ν) :
    (assign es k v).map Prod.fst =
      if k ∈ es.map Prod.fst then es.map Prod.fst else es.map Prod.fst ++ [k] := by
  induction es with
  | nil => simp [assign]
  | cons e es ih =>
    obtain ⟨a, w⟩ := e
    by_cases h : a = k
    · simp [assign, h]
    · have h' : ¬ k = a := fun hk => h hk.symm
      simp only [assign, if_neg h, List.map_cons, ih, List.mem_cons, h', false_or]
      split_ifs <;> simp

theorem assign_nodup {es : List (κ × ν)} (h : (es.map Prod.fst).Nodup) (k : κ) (v : ν) :
    ((assign es k v).map Prod.fst).Nodup := by
  rw [assign_keys]
  split_ifs with hk
  · exact h
  · rw [List.nodup_append]
    refine ⟨h, List.nodup_singleton k, ?_⟩
    rintro a ha b hb rfl
    exact hk (List.mem_singleton.mp hb ▸ ha)

/-- Store `v` under `k`. -/
def insert (d : Dict κ ν) (k : κ) (v : ν) : Dict κ ν :=
  ⟨assign d.entries k v, assign_nodup d.nodup k v⟩

/-- Delete `k` (nothing happens when it is absent). -/
def erase (d : Dict κ ν) (k : κ) : Dict κ ν :=
  ⟨d.entries.filter (fun e => e.1 ≠ k), d.nodup.sublist (List.filter_sublist.map _)⟩

/-- Update the value under `k` in place (nothing happens when it is absent). -/
def modify (d : Dict κ ν) (k : κ) (f : ν → ν) : Dict κ ν :=
  match d.get? k with
  | none => d
  | some v => d.insert k (f v)

/-! ### Lookups -/

@[simp] theorem get?_empty (k : κ) : (empty : Dict κ ν).get? k = none := rfl

theorem assoc_assign (es : List (κ × ν)) (k j : κ) (v : ν) :
    assoc (assign es k v) j = if j = k then some v else assoc es j := by
  induction es with
  | nil => simp only [assign, assoc, eq_comm]
  | cons e es ih =>
    obtain ⟨a, w⟩ := e
    by_cases h : a = k
    · subst h
      by_cases hj : j = a
      · simp [assign, assoc, hj]
      · simp [assign, assoc, hj, Ne.symm hj]
    · simp only [assign, if_neg h, assoc, ih]
      by_cases hj : a = j
      · subst hj; simp [h]
      · simp [hj]

@[simp] theorem get?_insert (d : Dict κ ν) (k j : κ) (v : ν) :
    (d.insert k v).get? j = if j = k then some v else d.get? j :=
  assoc_assign d.entries k j v

theorem assoc_filter (es : List (κ × ν)) (k j : κ) :
    assoc (es.filter (fun e => e.1 ≠ k)) j = if j = k then none else assoc es j := by
  induction es with
  | nil => simp [assoc]
  | cons e es ih =>
    obtain ⟨a, w⟩ := e
    by_cases h : a = k
    · subst h
      rw [List.filter_cons_of_neg (by simp), ih]
      by_cases hj : j = a
      · simp [hj]
      · simp [assoc, hj, Ne.symm hj]
    · rw [List.filter_cons_of_pos (by simpa using h)]
      simp only [assoc, ih]
      by_cases hj : a = j
      · subst hj; simp [h]
      · simp [hj]

@[simp] theorem get?_erase (d : Dict κ ν) (k j : κ) :
    (d.erase k).get? j = if j = k then none else d.get? j :=
  assoc_filter d.entries k j

/-- What is left after a deletion was there under another key. -/
theorem get?_erase_eq_some {d : Dict κ ν} {k j : κ} {v : ν} :
    (d.erase k).get? j = some v ↔ j ≠ k ∧ d.get? j = some v := by
  rw [get?_erase]
  split_ifs with hj
  · simp [hj]
  · simp [hj]

/-- Deleting several keys, one after the other. -/
theorem get?_foldl_erase (ks : List κ) (d : Dict κ ν) (j : κ) :
    (ks.foldl erase d).get? j = if j ∈ ks then none else d.get? j := by
  induction ks generalizing d with
  | nil => simp
  | cons k ks ih =>
    rw [List.foldl_cons, ih, get?_erase]
    by_cases hj : j = k
    · simp [hj]
    · simp [hj]

@[simp] theorem get?_modify (d : Dict κ ν) (k j : κ) (f : ν → ν) :
    (d.modify k f).get? j = if j = k then (d.get? k).map f else d.get? j := by
  unfold modify
  cases h : d.get? k with
  | none =>
    by_cases hj : j = k
    · subst hj; simp [h]
    · simp [hj]
  | some v => simp

/-! ### Stores -/

theorem assign_assign (es : List (κ × ν)) (k : κ) (v w : ν) :
    assign (assign es k v) k w = assign es k w := by
  induction es with
  | nil => simp [assign]
  | cons e es ih =>
    obtain ⟨a, u⟩ := e
    by_cases h : a = k
    · simp [assign, h]
    · simp [assign, h, ih]

theorem assign_of_assoc {es : List (κ × ν)} {k : κ} {v : ν} (h : assoc es k = some v) :
    assign es k v = es := by
  induction es with
  | nil => simp [assoc] at h
  | cons e es ih =>
    obtain ⟨a, u⟩ := e
    by_cases ha : a = k
    · rw [assoc, if_pos ha] at h
      cases h
      rw [assign, if_pos ha]
    · rw [assoc, if_neg ha] at h
      rw [assign, if_neg ha, ih h]

theorem assign_of_notMem {es : List (κ × ν)} {k : κ} (h : k ∉ es.map Prod.fst) (v : ν) :
    assign es k v = es ++ [(k, v)] := by
  induction es with
  | nil => rfl
  | cons e es ih =>
    obtain ⟨a, u⟩ := e
    rw [List.map_cons, List.mem_cons, not_or] at h
    rw [assign, if_neg (Ne.symm h.1), ih h.2]
    rfl

/-- Storing entries with distinct keys, one after the other, appends them. -/
theorem foldl_assign {es fs : List (κ × ν)} (h : ((es ++ fs).map Prod.fst).Nodup) :
    fs.foldl (fun d e => assign d e.1 e.2) es = es ++ fs := by
  induction fs generalizing es with
  | nil => simp
  | cons f fs ih =>
    have hf : f.1 ∉ es.map Prod.fst := by
      rw [List.map_append, List.nodup_append] at h
      exact fun hmem => h.2.2 f.1 hmem f.1 (by simp) rfl
    rw [List.foldl_cons, assign_of_notMem hf, ih (by simpa using h)]
    simp

/-- Storing twice under one key is storing the second value. -/
@[simp] theorem insert_insert (d : Dict κ ν) (k : κ) (v w : ν) :
    (d.insert k v).insert k w = d.insert k w :=
  ext (assign_assign d.entries k v w)

/-- Storing what is already there changes nothing. -/
theorem insert_of_get? {d : Dict κ ν} {k : κ} {v : ν} (h : d.get? k = some v) : d.insert k v = d :=
  ext (assign_of_assoc h)

/-- Updating a value that was just stored is storing the updated value. -/
@[simp] theorem modify_insert (d : Dict κ ν) (k : κ) (v : ν) (f : ν → ν) :
    (d.insert k v).modify k f = d.insert k (f v) := by
  simp [modify]

/-! ### Entries -/

theorem assoc_eq_some_iff {es : List (κ × ν)} (h : (es.map Prod.fst).Nodup) {k : κ} {v : ν} :
    assoc es k = some v ↔ (k, v) ∈ es := by
  induction es with
  | nil => simp [assoc]
  | cons e es ih =>
    obtain ⟨a, w⟩ := e
    rw [List.map_cons, List.nodup_cons] at h
    by_cases hk : a = k
    · subst hk
      have hnot : (a, v) ∉ es := fun hm => h.1 (List.mem_map.mpr ⟨_, hm, rfl⟩)
      simp [assoc, hnot, eq_comm]
    · have hk' : ¬ k = a := fun h' => hk h'.symm
      simp [assoc, hk, hk', ih h.2]

/-- Lookups find exactly the entries. -/
theorem get?_eq_some_iff {d : Dict κ ν} {k : κ} {v : ν} : d.get? k = some v ↔ (k, v) ∈ d.entries :=
  assoc_eq_some_iff d.nodup

theorem mem_keys_iff {d : Dict κ ν} {k : κ} : k ∈ d.keys ↔ ∃ v, d.get? k = some v := by
  unfold keys
  rw [List.mem_map]
  constructor
  · rintro ⟨⟨j, v⟩, hmem, rfl⟩
    exact ⟨v, get?_eq_some_iff.mpr hmem⟩
  · rintro ⟨v, hv⟩
    exact ⟨(k, v), get?_eq_some_iff.mp hv, rfl⟩

theorem get?_eq_none_iff {d : Dict κ ν} {k : κ} : d.get? k = none ↔ k ∉ d.keys := by
  rw [mem_keys_iff, not_exists, Option.eq_none_iff_forall_ne_some]

theorem contains_iff {d : Dict κ ν} {k : κ} : d.contains k = true ↔ k ∈ d.keys := by
  rw [mem_keys_iff, contains, Option.isSome_iff_exists]

theorem keys_erase (d : Dict κ ν) (k : κ) : (d.erase k).keys = d.keys.filter (fun j => j ≠ k) := by
  unfold keys erase
  rw [List.filter_map]
  rfl

/-- Deleting an absent key changes nothing. -/
theorem erase_of_get? {d : Dict κ ν} {k : κ} (h : d.get? k = none) : d.erase k = d := by
  refine ext (List.filter_eq_self.mpr fun e he => ?_)
  have hne : e.1 ≠ k := fun hek => get?_eq_none_iff.mp h (hek ▸ List.mem_map_of_mem he)
  simpa using hne

/-- A key has one entry, and erasing it leaves the others. -/
theorem entries_split {d : Dict κ ν} {k : κ} {v : ν} (h : d.get? k = some v) :
    ∃ before after, d.entries = before ++ (k, v) :: after ∧ (d.erase k).entries = before ++ after := by
  obtain ⟨before, after, hd⟩ := List.append_of_mem (get?_eq_some_iff.mp h)
  have hnodup := d.nodup
  rw [hd, List.map_append, List.map_cons, List.nodup_middle, List.nodup_cons, List.mem_append,
    not_or] at hnodup
  have hall : ∀ es : List (κ × ν), k ∉ es.map Prod.fst → es.filter (fun e => e.1 ≠ k) = es := by
    intro es hes
    rw [List.filter_eq_self]
    intro e he
    have hne : e.1 ≠ k := fun hek => hes (hek ▸ List.mem_map_of_mem he)
    simpa using hne
  refine ⟨before, after, hd, ?_⟩
  show d.entries.filter (fun e => e.1 ≠ k) = before ++ after
  rw [hd, List.filter_append, List.filter_cons_of_neg (by simp), hall before hnodup.1.1,
    hall after hnodup.1.2]

/-- A new key goes to the end. -/
theorem entries_insert {d : Dict κ ν} {k : κ} (h : d.get? k = none) (v : ν) :
    (d.insert k v).entries = d.entries ++ [(k, v)] :=
  assign_of_notMem (get?_eq_none_iff.mp h) v

theorem keys_insert {d : Dict κ ν} {k : κ} (h : d.get? k = none) (v : ν) :
    (d.insert k v).keys = d.keys ++ [k] := by
  rw [keys, entries_insert h, List.map_append]
  rfl

/-! ### Overrides -/

omit [DecidableEq κ] in
/-- The values that `g` gives, in place of those that `d` has; no key is added. -/
def override (d : Dict κ ν) (g : κ → Option ν) : Dict κ ν :=
  ⟨d.entries.map (fun e => (e.1, (g e.1).getD e.2)), by
    have hkeys : (d.entries.map (fun e => (e.1, (g e.1).getD e.2))).map Prod.fst = d.keys := by
      rw [List.map_map]
      rfl
    rw [hkeys]
    exact d.nodup⟩

omit [DecidableEq κ] in
@[simp] theorem keys_override (d : Dict κ ν) (g : κ → Option ν) : (d.override g).keys = d.keys := by
  rw [keys, override, List.map_map]
  rfl

omit [DecidableEq κ] in
theorem override_congr {d : Dict κ ν} {g g' : κ → Option ν} (h : ∀ k ∈ d.keys, g k = g' k) :
    d.override g = d.override g' := by
  refine ext (List.map_congr_left fun e he => ?_)
  rw [h e.1 (List.mem_map_of_mem he)]

omit [DecidableEq κ] in
theorem override_none (d : Dict κ ν) : d.override (fun _ => none) = d := ext (List.map_id' d.entries)

theorem get?_override (d : Dict κ ν) (g : κ → Option ν) (k : κ) :
    (d.override g).get? k = (d.get? k).map (fun v => (g k).getD v) := by
  unfold get? override
  dsimp only
  induction d.entries with
  | nil => rfl
  | cons e es ih =>
    rw [List.map_cons, assoc, assoc]
    split_ifs with hk
    · rw [hk]
      rfl
    · exact ih

/-- **Storing under a key that is there** is one more override. -/
theorem insert_override {d : Dict κ ν} {k : κ} (h : k ∈ d.keys) (g : κ → Option ν) (v : ν) :
    (d.override g).insert k v = d.override (fun j => if j = k then some v else g j) := by
  have hassign : ∀ es : List (κ × ν), (es.map Prod.fst).Nodup → k ∈ es.map Prod.fst →
      assign (es.map (fun e => (e.1, (g e.1).getD e.2))) k v =
        es.map (fun e => (e.1, ((if e.1 = k then some v else g e.1).getD e.2))) := by
    intro es
    induction es with
    | nil => exact fun _ hmem => absurd hmem List.not_mem_nil
    | cons e es ih =>
      intro hnodup hmem
      obtain ⟨hnot, hrest⟩ := List.nodup_cons.mp hnodup
      rw [List.map_cons, List.map_cons, assign]
      by_cases he : e.1 = k
      · rw [if_pos he, if_pos he]
        refine congrArg (List.cons _) (List.map_congr_left fun a ha => ?_)
        rw [if_neg]
        rintro rfl
        exact hnot (he ▸ List.mem_map_of_mem ha)
      · rw [if_neg he, if_neg he, ih hrest ((List.mem_cons.mp hmem).resolve_left (Ne.symm he))]
  exact ext (hassign d.entries d.nodup h)

/-! ### Order -/

/-- `move_to_end`. -/
def moveToEnd (d : Dict κ ν) (k : κ) : Dict κ ν :=
  match d.get? k with
  | none => d
  | some v => (d.erase k).insert k v

omit [DecidableEq κ] in
/-- `popitem(last=False)`: the dictionary without its first entry. -/
def popFirst (d : Dict κ ν) : Dict κ ν :=
  ⟨d.entries.tail, d.nodup.sublist ((List.tail_sublist d.entries).map _)⟩

omit [DecidableEq κ] in
@[simp] theorem entries_popFirst (d : Dict κ ν) : d.popFirst.entries = d.entries.tail := rfl

/-- Moving a key to the end keeps all lookups. -/
@[simp] theorem get?_moveToEnd (d : Dict κ ν) (k j : κ) : (d.moveToEnd k).get? j = d.get? j := by
  unfold moveToEnd
  cases h : d.get? k with
  | none => rfl
  | some v =>
    by_cases hj : j = k
    · simp [hj, h]
    · simp [hj]

theorem entries_moveToEnd {d : Dict κ ν} {k : κ} {v : ν} (h : d.get? k = some v) :
    (d.moveToEnd k).entries = (d.erase k).entries ++ [(k, v)] := by
  simp only [moveToEnd, h]
  exact entries_insert (by simp) v

theorem keys_moveToEnd {d : Dict κ ν} {k : κ} {v : ν} (h : d.get? k = some v) :
    (d.moveToEnd k).keys = d.keys.filter (fun j => j ≠ k) ++ [k] := by
  rw [← keys_erase, keys, entries_moveToEnd h, List.map_append]
  rfl

end Dict

end AwareKV
