import AwareKV.KeyValue

/-!
# AwareKV.Confinement — which files an object id can reach

An object id is any string that a client sends.  It is confined to a tier if, in every tree that has
the directories of the store, its path leads to a file of the tier's directory or to no file at all.

* `confined_iff`: an object id is confined if and only if it does not escape, a condition on its
  components.
* `put_elsewhere`, `delete_elsewhere`, `get_elsewhere`: requests on a confined id leave all other files
  alone and do not depend on them.
-/

namespace AwareKV

section Confinement

variable (b : LocalDiskBackend) (tier : DataTier) (s : PyStr)

/-- The backend in a larger tree. -/
def LocalDiskBackend.inTree (D : Dirs) (hD : ∀ l ∈ b.dirs.locs, l ∈ D.locs) : LocalDiskBackend where
  rootDir := b.rootDir
  dirs := D
  cwd := b.cwd
  cwd_mem := hD _ b.cwd_mem
  objects := b.objects
  objects_mem := hD _ b.objects_mem
  objects_target := Dirs.resolve_mono hD b.objects_target
  tier_mem tier := hD _ (b.tier_mem tier)

/-- The file that the path leads to, if there is one, is a direct child of the tier's directory. -/
def StaysInTier : Prop := ∀ e, b.target tier s = .entry e → e.dir = b.tierLoc tier

/-- So it is in every tree with the directories of the store. -/
def Confined : Prop := ∀ D hD, StaysInTier (b.inTree D hD) tier s

/-- Where the components of an object id are followed from. -/
def startLoc : Loc := if s.head? = some 0x2F then [] else b.tierLoc tier

/-- The id is not refused, its last component is a name, and the components before it lead to another
place than the tier's directory; and the location of that name there is neither a directory of the
store nor one that the id itself passes. -/
def Escapes : Prop :=
  ∃ bytes front name, fsencode s = some bytes ∧ 0 ∉ bytes ∧ pathComponents bytes = front ++ [name] ∧
    IsProper name ∧ lexWalk (startLoc b tier s) front ≠ b.tierLoc tier ∧
    lexWalk (startLoc b tier s) front ++ [name] ∉ b.dirs.locs ∧
    ∀ p ∈ passes (startLoc b tier s) front, ¬ lexWalk (startLoc b tier s) front ++ [name] <+: p

variable {b tier s}

theorem startLoc_mem : startLoc b tier s ∈ b.dirs.locs := by
  unfold startLoc
  split_ifs
  · exact b.dirs.root_mem
  · exact b.tierLoc_mem tier

/-- The path of an id that is not refused. -/
theorem target_eq_walk {bytes : List UInt8} (hbytes : fsencode s = some bytes) (hnul : 0 ∉ bytes) :
    b.target tier s = b.dirs.walk (startLoc b tier s) startLoc_mem (pathComponents bytes) := by
  by_cases hs : s.head? = some 0x2F
  · rw [b.target_absolute hs hbytes hnul]
    congr 1
    exact (if_pos hs).symm
  · rw [b.target_relative hs hbytes hnul]
    congr 1
    exact (if_neg hs).symm

/-- An id that escapes reaches another file in some tree. -/
theorem not_confined_of_escapes (h : Escapes b tier s) : ¬ Confined b tier s := by
  obtain ⟨bytes, front, name, hbytes, hnul, hsplit, hproper, hdir, hstore, hpasses⟩ := h
  intro hconfined
  have hD : ∀ l ∈ b.dirs.locs, l ∈ (b.dirs.extend (passes (startLoc b tier s) front)).locs :=
    fun l hl => Dirs.mem_extend.mpr (Or.inl hl)
  have hmem : ∀ p ∈ passes (startLoc b tier s) front,
      p ∈ (b.dirs.extend (passes (startLoc b tier s) front)).locs :=
    fun p hp => Dirs.mem_extend.mpr (Or.inr ⟨p, hp, List.prefix_refl p⟩)
  have hfree : lexWalk (startLoc b tier s) front ++ [name] ∉
      (b.dirs.extend (passes (startLoc b tier s) front)).locs := by
    intro hmem
    rcases Dirs.mem_extend.mp hmem with h | ⟨p, hp, hpre⟩
    · exact hstore h
    · exact hpasses p hp hpre
  refine hdir (hconfined _ hD ⟨_, name, hmem _ (lexWalk_mem_passes _ _), hfree⟩ ?_)
  rw [target_eq_walk hbytes hnul, Dirs.walk_eq_entry, hsplit, List.dropLast_concat]
  exact ⟨rfl, hmem, rfl, hproper⟩

theorem escapes_of_not_stays {D : Dirs} {hD : ∀ l ∈ b.dirs.locs, l ∈ D.locs}
    (h : ¬ StaysInTier (b.inTree D hD) tier s) : Escapes b tier s := by
  simp only [StaysInTier, not_forall] at h
  obtain ⟨e, htarget, hdir⟩ := h
  have hnot : ¬ LocalDiskBackend.Refused s := by
    intro hrefused
    rw [LocalDiskBackend.target_refused _ hrefused] at htarget
    cases htarget
  simp only [LocalDiskBackend.Refused, not_forall] at hnot
  obtain ⟨bytes, hbytes, hnul⟩ := hnot
  rw [target_eq_walk hbytes hnul, Dirs.walk_eq_entry] at htarget
  obtain ⟨hsplit, hpasses, hloc, hproper⟩ := htarget
  refine ⟨bytes, _, e.name, hbytes, hnul, hsplit, hproper, fun heq => hdir (hloc.trans heq), ?_, ?_⟩
  · intro hstore
    refine e.not_dir ?_
    rw [hloc]
    exact hD _ hstore
  · intro p hp hpre
    refine e.not_dir (Dirs.prefix_mem ?_ (hpasses p hp))
    rw [hloc]
    exact hpre

/-! ## Requests -/

variable {files files' : Files b.dirs} {faults : IoFaults} {e : b.dirs.Entry}

/-- The file that the path leads to is none of the files elsewhere. -/
theorem StaysInTier.ne (h : StaysInTier b tier s) {e' : b.dirs.Entry} (htarget : b.target tier s = .entry e')
    (he : e.dir ≠ b.tierLoc tier) : e ≠ e' := by
  rintro rfl
  exact he (h e htarget)

/-- A PUT leaves the files elsewhere alone. -/
theorem put_elsewhere (h : StaysInTier b tier s) {data : Bytes} {r : Files b.dirs × Bool}
    (hput : b.put files faults (.str s) data tier = .ok r) (he : e.dir ≠ b.tierLoc tier) :
    r.1.get? e = files.get? e := by
  rcases b.target_cases tier s with ⟨e', htarget⟩ | hother
  · have hne : e ≠ e' := h.ne htarget he
    rw [LocalDiskBackend.put_entry htarget] at hput
    obtain rfl := Except.ok.inj hput
    split_ifs
    · rfl
    · cases faults.writeFails <;> exact (Dict.get?_insert ..).trans (if_neg hne)
  · rw [LocalDiskBackend.put_other hother] at hput
    obtain rfl := Except.ok.inj hput
    rfl

/-- A DELETE leaves the files elsewhere alone. -/
theorem delete_elsewhere (h : StaysInTier b tier s) {r : Files b.dirs × Bool}
    (hdelete : b.delete files faults (.str s) tier = .ok r) (he : e.dir ≠ b.tierLoc tier) :
    r.1.get? e = files.get? e := by
  rcases b.target_cases tier s with ⟨e', htarget⟩ | hother
  · have hne : e ≠ e' := h.ne htarget he
    rw [LocalDiskBackend.delete_entry htarget] at hdelete
    obtain rfl := Except.ok.inj hdelete
    split_ifs
    · exact (Dict.get?_erase ..).trans (if_neg hne)
    · rfl
  · rw [LocalDiskBackend.delete_other hother] at hdelete
    obtain rfl := Except.ok.inj hdelete
    rfl

/-- What is read depends on the files of the tier's directory only. -/
theorem read_elsewhere (h : StaysInTier b tier s)
    (hsame : ∀ e : b.dirs.Entry, e.dir = b.tierLoc tier → files.get? e = files'.get? e) :
    b.read files tier s = b.read files' tier s := by
  rcases b.target_cases tier s with ⟨e', htarget⟩ | hother
  · rw [LocalDiskBackend.read_entry htarget, LocalDiskBackend.read_entry htarget]
    exact hsame e' (h e' htarget)
  · rw [LocalDiskBackend.read_other hother, LocalDiskBackend.read_other hother]

variable (b tier s)

/-- What requests on an object id can do to the files elsewhere: nothing. -/
structure LeavesElsewhere : Prop where
  put : ∀ (files : Files b.dirs) faults data r, b.put files faults (.str s) data tier = .ok r →
    ∀ e : b.dirs.Entry, e.dir ≠ b.tierLoc tier → r.1.get? e = files.get? e
  delete : ∀ (files : Files b.dirs) faults r, b.delete files faults (.str s) tier = .ok r →
    ∀ e : b.dirs.Entry, e.dir ≠ b.tierLoc tier → r.1.get? e = files.get? e
  read : ∀ files files' : Files b.dirs,
    (∀ e : b.dirs.Entry, e.dir = b.tierLoc tier → files.get? e = files'.get? e) →
      b.read files tier s = b.read files' tier s

/-- **An object id is confined to a tier if and only if it does not escape**, and then requests on it
leave all other files alone. -/
theorem confined_iff :
    (Confined b tier s ↔ ¬ Escapes b tier s) ∧ (¬ Escapes b tier s → LeavesElsewhere b tier s) := by
  have hconfined : ¬ Escapes b tier s → Confined b tier s :=
    fun h D hD => by_contra fun hstays => h (escapes_of_not_stays hstays)
  refine ⟨⟨fun h hescapes => not_confined_of_escapes hescapes h, hconfined⟩, fun h => ?_⟩
  have hstays : StaysInTier b tier s := hconfined h b.dirs (fun _ hl => hl)
  exact
    { put := fun _ _ _ _ hput _ he => put_elsewhere hstays hput he
      delete := fun _ _ _ hdelete _ he => delete_elsewhere hstays hdelete he
      read := fun _ _ hsame => read_elsewhere hstays hsame }

end Confinement

/-- A request on the critical tier reaches the refinement tier. -/
theorem parent_component_escapes :
    ¬ ∀ (b : LocalDiskBackend) (tier : DataTier) (s : PyStr), Confined b tier s := by
  intro h
  refine not_confined_of_escapes ?_ (h exampleBackend .critical (pyStr "../refinement/x"))
  exact ⟨(pyStr "../refinement/x").flatMap utf8Char, [[0x2E, 0x2E], DataTier.refinement.fileName], [0x78],
    by decide +kernel, by decide +kernel, by decide +kernel, by decide +kernel, by decide +kernel,
    by decide +kernel, by decide +kernel⟩

end AwareKV
