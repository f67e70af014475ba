import AwareKV.Lib.Json
import AwareKV.Lib.Posix
import AwareKV.Store

/-!
# AwareKV.DiskBackend — objects as files

Translation of `store/local_disk_backend.py`.  A `LocalDiskBackend` carries the directories of its
file system with the proof that the two tier directories are among them, which is what `__init__`
makes true; the operations change files only.  `IoFaults` says which file operations of a call raise.

* `target_relative`, `target_absolute`: what the path of an object id leads to.
* `put_entry`, `delete_entry`: what an operation changes.
-/

namespace AwareKV

/-- The directory name of a tier. -/
def DataTier.name : DataTier → String
  | .critical => "critical"
  | .refinement => "refinement"

/-- The same as bytes. -/
def DataTier.fileName (tier : DataTier) : Name := (pyStr tier.name).flatMap utf8Char

theorem fileName_inj {tier tier' : DataTier} (h : tier.fileName = tier'.fileName) : tier = tier' := by
  cases tier <;> cases tier' <;> first | rfl | exact absurd h (by decide +kernel)

/-- `os.path.join(root_dir, "objects")`. -/
def objectsPath (rootDir : PyStr) : PyStr := joinPath rootDir (pyStr "objects")

/-- `critical_dir` and `refinement_dir`. -/
def tierPath (rootDir : PyStr) (tier : DataTier) : PyStr := joinPath (objectsPath rootDir) (pyStr tier.name)

/-- `LocalDiskBackend`, after `__init__`: `objects` is the directory of the tier directories. -/
structure LocalDiskBackend where
  rootDir : PyStr
  dirs : Dirs
  cwd : Loc
  cwd_mem : cwd ∈ dirs.locs
  objects : Loc
  objects_mem : objects ∈ dirs.locs
  objects_target : dirs.resolve cwd cwd_mem (objectsPath rootDir) = .directory objects objects_mem
  tier_mem : ∀ tier : DataTier, objects ++ [tier.fileName] ∈ dirs.locs

/-- The files of a tree and their bytes. -/
abbrev Files (D : Dirs) := Dict D.Entry Bytes

/-- The file operations of a call that raise: `writeFails := some k` is a write that raises when `k`
bytes have reached the file. -/
structure IoFaults where
  openFails : Bool := false
  readFails : Bool := false
  writeFails : Option ℕ := none
  removeFails : DataTier → Bool := fun _ => false

/-- `type(j).__name__`. -/
def Json.className : Json → String
  | .null => "NoneType"
  | .bool _ => "bool"
  | .int _ => "int"
  | .float _ => "float"
  | .str _ => "str"
  | .arr _ => "list"
  | .obj _ => "dict"

namespace LocalDiskBackend

variable (b : LocalDiskBackend)

/-- `_get_path`. -/
def getPath (objectId : Json) (tier : DataTier) : Py PyStr :=
  match objectId with
  | .str s => .ok (joinPath (tierPath b.rootDir tier) s)
  | j => .error ⟨.typeError, "join() argument must be str, bytes, or os.PathLike object, not '" ++
      j.className ++ "'"⟩

/-- What the kernel makes of a path. -/
def resolve (path : PyStr) : b.dirs.Target := b.dirs.resolve b.cwd b.cwd_mem path

/-- `get`: every exception of the file system is caught. -/
def get (files : Files b.dirs) (faults : IoFaults) (objectId : Json) (tier : DataTier) :
    Py (Option Bytes) := do
  let path ← b.getPath objectId tier
  match b.resolve path with
  | .entry e => return if faults.openFails || faults.readFails then none else files.get? e
  | _ => return none

/-- `put`: opening truncates the file, and a write that raises leaves what it has written. -/
def put (files : Files b.dirs) (faults : IoFaults) (objectId : Json) (data : Bytes) (tier : DataTier) :
    Py (Files b.dirs × Bool) := do
  let path ← b.getPath objectId tier
  match b.resolve path with
  | .entry e =>
    if faults.openFails then return (files, false)
    else
      match faults.writeFails with
      | some k => return (files.insert e (data.take k), false)
      | none => return (files.insert e data, true)
  | _ => return (files, false)

/-- `delete`. -/
def delete (files : Files b.dirs) (faults : IoFaults) (objectId : Json) (tier : DataTier) :
    Py (Files b.dirs × Bool) := do
  let path ← b.getPath objectId tier
  match b.resolve path with
  | .entry e =>
    if files.contains e then
      if faults.removeFails tier then return (files, false) else return (files.erase e, true)
    else return (files, false)
  | _ => return (files, false)

/-! ## Where a path leads -/

/-- The directory of a tier. -/
def tierLoc (tier : DataTier) : Loc := b.objects ++ [tier.fileName]

theorem tierLoc_mem (tier : DataTier) : b.tierLoc tier ∈ b.dirs.locs := b.tier_mem tier

theorem tierLoc_inj {tier tier' : DataTier} (h : b.tierLoc tier = b.tierLoc tier') : tier = tier' :=
  fileName_inj (List.cons.inj (List.append_cancel_left h)).1

/-- What the path of an object id leads to. -/
def target (tier : DataTier) (s : PyStr) : b.dirs.Target := b.resolve (joinPath (tierPath b.rootDir tier) s)

/-- A path leads to the place of a file, or no file operation succeeds on it. -/
theorem target_cases (tier : DataTier) (s : PyStr) :
    (∃ e, b.target tier s = .entry e) ∨ ∀ e, b.target tier s ≠ .entry e := by
  by_cases h : ∃ e, b.target tier s = .entry e
  · exact Or.inl h
  · exact Or.inr fun e he => h ⟨e, he⟩

theorem getPath_str (s : PyStr) (tier : DataTier) :
    b.getPath (.str s) tier = .ok (joinPath (tierPath b.rootDir tier) s) := rfl

/-- A path onto which another is joined with a separator. -/
theorem joinPath_of_last {a s : PyStr} {c : CodePoint} (ha : a.getLast? = some c) (hc : c ≠ 0x2F)
    (hs : s.head? ≠ some 0x2F) : joinPath a s = a ++ 0x2F :: s := by
  have hne : ¬ (a = [] ∨ a.getLast? = some 0x2F) := by
    rintro (rfl | h)
    · cases ha
    · rw [ha] at h
      exact hc (Option.some.inj h)
  rw [joinPath, if_neg hs, if_neg hne]

theorem joinPath_last {a s : PyStr} {c : CodePoint} (hs : s.getLast? = some c) :
    (joinPath a s).getLast? = some c := by
  unfold joinPath
  split_ifs
  · exact hs
  · rw [List.getLast?_append, hs]
    rfl
  · rw [List.getLast?_append, List.getLast?_cons, hs]
    rfl

theorem tierPath_eq (rootDir : PyStr) (tier : DataTier) :
    tierPath rootDir tier = objectsPath rootDir ++ 0x2F :: pyStr tier.name :=
  joinPath_of_last (joinPath_last (show _ = some 0x73 by decide +kernel)) (by decide)
    (by cases tier <;> decide +kernel)

theorem tierPath_last (rootDir : PyStr) (tier : DataTier) :
    ∃ c, (tierPath rootDir tier).getLast? = some c ∧ c ≠ 0x2F := by
  cases tier
  · exact ⟨0x6C, joinPath_last (by decide +kernel), by decide⟩
  · exact ⟨0x74, joinPath_last (by decide +kernel), by decide⟩

theorem fileName_proper (tier : DataTier) : IsProper tier.fileName := by
  cases tier <;> decide +kernel

/-- **The path of a relative object id** is followed from the tier's directory. -/
theorem target_relative {tier : DataTier} {s : PyStr} {bytes : List UInt8} (hs : s.head? ≠ some 0x2F)
    (hbytes : fsencode s = some bytes) (hnul : 0 ∉ bytes) :
    b.target tier s = b.dirs.walk (b.tierLoc tier) (b.tierLoc_mem tier) (pathComponents bytes) := by
  obtain ⟨c, hlast, hc⟩ := tierPath_last b.rootDir tier
  have hname : fsencode (pyStr tier.name ++ 0x2F :: s) = some (tier.fileName ++ 0x2F :: bytes) := by
    have hcons : fsencode (0x2F :: s) = some (0x2F :: bytes) := by
      rw [fsencode, hbytes]
      rfl
    rw [fsencode_append, fsencode_of_surrogateFree (surrogateFree_pyStr _), hcons]
    rfl
  have hnul' : 0 ∉ tier.fileName ++ 0x2F :: bytes := by
    have hfile : 0 ∉ tier.fileName := by cases tier <;> decide +kernel
    simp [hfile, hnul]
  have hcomponents : pathComponents tier.fileName = [tier.fileName] :=
    pathComponents_of_notMem (by cases tier <;> decide +kernel)
  have hstep : lexStep b.objects tier.fileName = b.tierLoc tier :=
    lexStep_of_proper (fileName_proper tier) b.objects
  have htier : ∃ h, b.dirs.walk b.objects b.objects_mem [tier.fileName] = .directory (b.tierLoc tier) h :=
    Dirs.walk_eq_directory.mpr ⟨by simpa [passes, hstep] using ⟨b.objects_mem, b.tierLoc_mem tier⟩, by
      simp [lexWalk, hstep]⟩
  obtain ⟨_, hwalk⟩ := htier
  rw [target, resolve, joinPath_of_last hlast hc hs, tierPath_eq, List.append_assoc, List.cons_append,
    Dirs.resolve_append b.objects_target hname hnul', pathComponents_append, hcomponents,
    Dirs.walk_append hwalk]

/-- An absolute object id is its own path. -/
theorem target_absolute {tier : DataTier} {s : PyStr} {bytes : List UInt8} (hs : s.head? = some 0x2F)
    (hbytes : fsencode s = some bytes) (hnul : 0 ∉ bytes) :
    b.target tier s = b.dirs.walk [] b.dirs.root_mem (pathComponents bytes) := by
  rw [target, resolve, joinPath, if_pos hs]
  exact Dirs.resolve_absolute hs hbytes hnul

/-- A name that the system refuses. -/
def Refused (s : PyStr) : Prop := ∀ bytes, fsencode s = some bytes → 0 ∈ bytes

theorem target_refused {tier : DataTier} {s : PyStr} (h : Refused s) : b.target tier s = .unreachable := by
  apply Dirs.resolve_refused
  intro path hpath
  by_cases hs : s.head? = some 0x2F
  · rw [joinPath, if_pos hs] at hpath
    exact h path hpath
  · obtain ⟨c, hlast, hc⟩ := tierPath_last b.rootDir tier
    rw [joinPath_of_last hlast hc hs, fsencode_append] at hpath
    obtain ⟨front, -, hpath⟩ := Option.bind_eq_some_iff.mp hpath
    obtain ⟨rest, hrest, rfl⟩ := Option.map_eq_some_iff.mp hpath
    obtain ⟨bytes, hbytes, hcons⟩ := Option.bind_eq_some_iff.mp
      (show (fsencode s).bind (fun bs => some (0x2F :: bs)) = some rest from hrest)
    cases hcons
    exact List.mem_append_right _ (List.mem_cons_of_mem _ (h bytes hbytes))

/-! ## What the operations do -/

/-- What a reader of a tier gets. -/
def read (files : Files b.dirs) (tier : DataTier) (s : PyStr) : Option Bytes :=
  match b.target tier s with
  | .entry e => files.get? e
  | _ => none

section Operations

variable {b} {files : Files b.dirs} {faults : IoFaults} {tier : DataTier} {s : PyStr} {e : b.dirs.Entry}

theorem read_entry (h : b.target tier s = .entry e) (files : Files b.dirs) :
    b.read files tier s = files.get? e := by
  rw [read, h]

theorem read_other (h : ∀ e, b.target tier s ≠ .entry e) (files : Files b.dirs) :
    b.read files tier s = none := by
  unfold read
  cases htarget : b.target tier s with
  | entry e => exact absurd htarget (h e)
  | directory loc hloc => rfl
  | unreachable => rfl

/-- Without faults `get` returns what a reader gets. -/
theorem get_eq_read (files : Files b.dirs) (tier : DataTier) (s : PyStr) :
    b.get files {} (.str s) tier = .ok (b.read files tier s) := by
  unfold get read target
  rw [getPath_str, Py.ok_bind]
  cases b.resolve (joinPath (tierPath b.rootDir tier) s) <;> rfl

/-- What `get` returns is in the file. -/
theorem get_eq_some {data : Bytes} (h : b.get files faults (.str s) tier = .ok (some data)) :
    ∃ e, b.target tier s = .entry e ∧ files.get? e = some data := by
  unfold get at h
  rw [getPath_str, Py.ok_bind] at h
  change (match b.target tier s with | .entry e => _ | _ => _) = _ at h
  cases htarget : b.target tier s with
  | entry e =>
    rw [htarget] at h
    refine ⟨e, rfl, ?_⟩
    cases hfails : faults.openFails || faults.readFails with
    | false => simpa [hfails, pure, Except.pure] using h
    | true => simp [hfails, pure, Except.pure] at h
  | directory loc hloc =>
    rw [htarget] at h
    cases h
  | unreachable =>
    rw [htarget] at h
    cases h

theorem put_entry (h : b.target tier s = .entry e) (data : Bytes) :
    b.put files faults (.str s) data tier =
      .ok (if faults.openFails then (files, false)
        else match faults.writeFails with
          | some k => (files.insert e (data.take k), false)
          | none => (files.insert e data, true)) := by
  unfold put
  rw [getPath_str, Py.ok_bind]
  show (match b.target tier s with | .entry e => _ | _ => _) = _
  rw [h]
  cases faults.openFails <;> cases faults.writeFails <;> rfl

theorem put_other (h : ∀ e, b.target tier s ≠ .entry e) (data : Bytes) :
    b.put files faults (.str s) data tier = .ok (files, false) := by
  unfold put
  rw [getPath_str, Py.ok_bind]
  show (match b.target tier s with | .entry e => _ | _ => _) = _
  cases htarget : b.target tier s with
  | entry e => exact absurd htarget (h e)
  | directory loc hloc => rfl
  | unreachable => rfl

theorem delete_entry (h : b.target tier s = .entry e) :
    b.delete files faults (.str s) tier =
      .ok (if files.contains e && !faults.removeFails tier then (files.erase e, true)
        else (files, false)) := by
  unfold delete
  rw [getPath_str, Py.ok_bind]
  show (match b.target tier s with | .entry e => _ | _ => _) = _
  rw [h]
  cases hc : files.contains e <;> cases faults.removeFails tier <;> simp [hc] <;> rfl

theorem delete_other (h : ∀ e, b.target tier s ≠ .entry e) :
    b.delete files faults (.str s) tier = .ok (files, false) := by
  unfold delete
  rw [getPath_str, Py.ok_bind]
  show (match b.target tier s with | .entry e => _ | _ => _) = _
  cases htarget : b.target tier s with
  | entry e => exact absurd htarget (h e)
  | directory loc hloc => rfl
  | unreachable => rfl

end Operations

end LocalDiskBackend

end AwareKV
