import AwareKV.Lib.Dict
import AwareKV.Lib.Text
import Mathlib.Data.List.Infix

/-!
# AwareKV.Lib.Posix — paths, directories and files

A location is the list of the names that lead to it from the root.  `Dirs` are the directories of a
file system, `Dirs.Entry` is a name in one of them that is no directory: a file, or free.  The files
are a dictionary from entries to their bytes, so that no file can be where a directory is or outside
every directory.  There are no links.

`Dirs.walk` follows the components of a path: an empty one and `.` stay, `..` goes to the parent, and
every location but the last must be a directory.  `Dirs.resolve` is what the kernel makes of a path.

* `walk_append`: the components of a joined path are followed one part after the other.
* `walk_eq_directory`, `walk_eq_entry`: what a path leads to, in terms of the locations that it passes.
-/

namespace AwareKV

/-! ## Paths -/

/-- A file name. -/
abbrev Name := List UInt8

/-- A location: the names from the root. -/
abbrev Loc := List Name

/-- `os.path.join(a, b)`. -/
def joinPath (a b : PyStr) : PyStr :=
  if b.head? = some 0x2F then b
  else if a = [] ∨ a.getLast? = some 0x2F then a ++ b
  else a ++ 0x2F :: b

/-- The components of a path. -/
def pathComponents (path : List UInt8) : List Name := path.splitOn 0x2F

theorem pathComponents_append (a b : List UInt8) :
    pathComponents (a ++ 0x2F :: b) = pathComponents a ++ pathComponents b :=
  List.splitOn_append_cons_self a b

theorem pathComponents_of_notMem {a : List UInt8} (h : 0x2F ∉ a) : pathComponents a = [a] :=
  List.splitOn_eq_singleton h

/-- One component of a path. -/
def lexStep (loc : Loc) (n : Name) : Loc :=
  if n = [] ∨ n = [0x2E] then loc else if n = [0x2E, 0x2E] then loc.dropLast else loc ++ [n]

/-- A component that names an entry. -/
def IsProper (n : Name) : Prop := n ≠ [] ∧ n ≠ [0x2E] ∧ n ≠ [0x2E, 0x2E]

instance (n : Name) : Decidable (IsProper n) :=
  inferInstanceAs (Decidable (n ≠ [] ∧ n ≠ [0x2E] ∧ n ≠ [0x2E, 0x2E]))

theorem lexStep_of_proper {n : Name} (h : IsProper n) (loc : Loc) : lexStep loc n = loc ++ [n] := by
  rw [lexStep, if_neg (fun hn => hn.elim h.1 h.2.1), if_neg h.2.2]

/-- Where components lead. -/
def lexWalk (loc : Loc) (cs : List Name) : Loc := cs.foldl lexStep loc

/-- The locations that components pass, with the first and the last. -/
def passes : Loc → List Name → List Loc
  | loc, [] => [loc]
  | loc, n :: cs => loc :: passes (lexStep loc n) cs

theorem lexWalk_mem_passes (loc : Loc) (cs : List Name) : lexWalk loc cs ∈ passes loc cs := by
  induction cs generalizing loc with
  | nil => exact List.mem_singleton_self loc
  | cons n cs ih => exact List.mem_cons_of_mem loc (ih (lexStep loc n))

/-! ## Directories -/

/-- The directories of a file system. -/
structure Dirs where
  locs : List Loc
  root_mem : [] ∈ locs
  closed : ∀ loc n, loc ++ [n] ∈ locs → loc ∈ locs

namespace Dirs

/-- The directories of a file system that has only its root. -/
def root : Dirs where
  locs := [[]]
  root_mem := List.mem_singleton_self []
  closed loc n h := by simp at h

/-- More directories, with all that lead to them. -/
def extend (D : Dirs) (locs : List Loc) : Dirs where
  locs := D.locs ++ locs.flatMap List.inits
  root_mem := List.mem_append_left _ D.root_mem
  closed loc n h := by
    rcases List.mem_append.mp h with h | h
    · exact List.mem_append_left _ (D.closed loc n h)
    · obtain ⟨l, hl, hpre⟩ := List.mem_flatMap.mp h
      refine List.mem_append_right _ (List.mem_flatMap.mpr ⟨l, hl, ?_⟩)
      exact (List.mem_inits loc l).mpr ((List.prefix_append loc [n]).trans ((List.mem_inits _ l).mp hpre))

theorem mem_extend {D : Dirs} {locs : List Loc} {loc : Loc} :
    loc ∈ (D.extend locs).locs ↔ loc ∈ D.locs ∨ ∃ l ∈ locs, loc <+: l := by
  simp only [extend, List.mem_append, List.mem_flatMap, List.mem_inits]

/-- A name in a directory that is no directory. -/
@[ext] structure Entry (D : Dirs) where
  dir : Loc
  name : Name
  dir_mem : dir ∈ D.locs
  not_dir : dir ++ [name] ∉ D.locs
  deriving DecidableEq

/-- What a path leads to. -/
inductive Target (D : Dirs)
  | directory (loc : Loc) (h : loc ∈ D.locs)
  | entry (e : D.Entry)
  | unreachable

variable {D : Dirs}

theorem dropLast_mem {loc : Loc} (h : loc ∈ D.locs) : loc.dropLast ∈ D.locs := by
  rcases List.eq_nil_or_concat loc with rfl | ⟨init, n, rfl⟩
  · exact h
  · rw [List.concat_eq_append, List.dropLast_concat]
    exact D.closed init n (by rwa [List.concat_eq_append] at h)

/-- All that leads to a directory is a directory. -/
theorem prefix_mem {l p : Loc} (h : l <+: p) (hp : p ∈ D.locs) : l ∈ D.locs := by
  induction p using List.reverseRecOn with
  | nil => rwa [List.prefix_nil.mp h]
  | append_singleton p n ih =>
    rcases List.prefix_concat_iff.mp h with rfl | h
    · exact hp
    · exact ih h (D.closed p n hp)

/-- Only a proper name leads out of the directories. -/
theorem proper_of_notMem {loc : Loc} {n : Name} (h : loc ∈ D.locs) (hn : lexStep loc n ∉ D.locs) :
    IsProper n := by
  unfold lexStep at hn
  split_ifs at hn with h1 h2
  · exact absurd h hn
  · exact absurd (dropLast_mem h) hn
  · exact ⟨fun hn => h1 (Or.inl hn), fun hn => h1 (Or.inr hn), h2⟩

theorem append_notMem {loc : Loc} {n : Name} (h : loc ∈ D.locs) (hn : lexStep loc n ∉ D.locs) :
    loc ++ [n] ∉ D.locs := by
  rwa [← lexStep_of_proper (proper_of_notMem h hn) loc]

/-- Follow components from a directory. -/
def walk (D : Dirs) : (loc : Loc) → loc ∈ D.locs → List Name → D.Target
  | loc, h, [] => .directory loc h
  | loc, h, n :: cs =>
    if hn : lexStep loc n ∈ D.locs then D.walk (lexStep loc n) hn cs
    else if cs = [] then .entry ⟨loc, n, h, append_notMem h hn⟩
    else .unreachable

/-- What the kernel makes of a path, in the working directory `cwd`: a path with a NUL, and one that
cannot be encoded, are refused before. -/
def resolve (D : Dirs) (cwd : Loc) (hcwd : cwd ∈ D.locs) (path : PyStr) : D.Target :=
  match fsencode path with
  | none => .unreachable
  | some bytes =>
    if bytes = [] ∨ 0 ∈ bytes then .unreachable
    else if bytes.head? = some 0x2F then D.walk [] D.root_mem (pathComponents bytes)
    else D.walk cwd hcwd (pathComponents bytes)

/-! ## Walking -/

theorem walk_append {loc l : Loc} {h : loc ∈ D.locs} {hl : l ∈ D.locs} {cs : List Name}
    (hwalk : D.walk loc h cs = .directory l hl) (ds : List Name) :
    D.walk loc h (cs ++ ds) = D.walk l hl ds := by
  induction cs generalizing loc with
  | nil =>
    cases hwalk
    rfl
  | cons n cs ih =>
    rw [walk] at hwalk
    split_ifs at hwalk with hn
    rw [List.cons_append, walk, dif_pos hn]
    exact ih hwalk

/-- **A path leads to a directory** if all the locations that it passes are directories. -/
theorem walk_eq_directory {loc l : Loc} {h : loc ∈ D.locs} {cs : List Name} :
    (∃ hl, D.walk loc h cs = .directory l hl) ↔ (∀ p ∈ passes loc cs, p ∈ D.locs) ∧ l = lexWalk loc cs := by
  induction cs generalizing loc with
  | nil =>
    constructor
    · rintro ⟨hl, hwalk⟩
      cases hwalk
      exact ⟨by simpa [passes] using h, rfl⟩
    · rintro ⟨-, rfl⟩
      exact ⟨h, rfl⟩
  | cons n cs ih =>
    rw [passes, List.forall_mem_cons, lexWalk, List.foldl_cons, ← lexWalk]
    by_cases hn : lexStep loc n ∈ D.locs
    · rw [walk, dif_pos hn, ih]
      exact ⟨fun hp => ⟨⟨h, hp.1⟩, hp.2⟩, fun hp => ⟨hp.1.2, hp.2⟩⟩
    · rw [walk, dif_neg hn]
      constructor
      · rintro ⟨hl, hwalk⟩
        split_ifs at hwalk
      · rintro ⟨⟨-, hp⟩, -⟩
        refine absurd (hp _ ?_) hn
        cases cs <;> exact List.mem_cons_self

/-- **A path leads to an entry** if its last component names one and all the locations before are
directories. -/
theorem walk_eq_entry {loc : Loc} {h : loc ∈ D.locs} {cs : List Name} {e : D.Entry} :
    D.walk loc h cs = .entry e ↔
      cs = cs.dropLast ++ [e.name] ∧ (∀ p ∈ passes loc cs.dropLast, p ∈ D.locs) ∧
        e.dir = lexWalk loc cs.dropLast ∧ IsProper e.name := by
  constructor
  · intro hwalk
    induction cs generalizing loc with
    | nil => cases hwalk
    | cons n cs ih =>
      rw [walk] at hwalk
      split_ifs at hwalk with hn hcs
      · obtain ⟨hsplit, hpasses, hdir, hproper⟩ := ih hwalk
        have hne : cs ≠ [] := by
          rw [hsplit]
          exact List.append_ne_nil_of_right_ne_nil _ (List.cons_ne_nil _ _)
        rw [List.dropLast_cons_of_ne_nil hne]
        refine ⟨by rw [List.cons_append, ← hsplit], ?_, hdir, hproper⟩
        exact List.forall_mem_cons.mpr ⟨h, hpasses⟩
      · subst hcs
        cases hwalk
        exact ⟨rfl, by simpa [passes] using h, rfl, proper_of_notMem h hn⟩
  · rintro ⟨hsplit, hpasses, hdir, hproper⟩
    obtain ⟨hl, hwalk⟩ := walk_eq_directory.mpr ⟨hpasses, hdir⟩
    have hout : lexStep e.dir e.name ∉ D.locs := by
      rw [lexStep_of_proper hproper]
      exact e.not_dir
    rw [hsplit, walk_append hwalk, walk, dif_neg hout, if_pos rfl]

/-- In a larger tree components lead to the same directory. -/
theorem walk_mono {D' : Dirs} (hD : ∀ l ∈ D.locs, l ∈ D'.locs) {loc l : Loc} {h : loc ∈ D.locs}
    {hl : l ∈ D.locs} {cs : List Name} (hwalk : D.walk loc h cs = .directory l hl) :
    ∃ hl', D'.walk loc (hD loc h) cs = .directory l hl' := by
  obtain ⟨hpasses, hdir⟩ := walk_eq_directory.mp ⟨hl, hwalk⟩
  exact walk_eq_directory.mpr ⟨fun p hp => hD p (hpasses p hp), hdir⟩

/-! ## Resolving -/

section Resolve

variable {cwd : Loc} {hcwd : cwd ∈ D.locs}

/-- **A path that goes on from a directory.** -/
theorem resolve_append {path rest : PyStr} {bytes : List UInt8} {l : Loc} {hl : l ∈ D.locs}
    (hpath : D.resolve cwd hcwd path = .directory l hl) (hrest : fsencode rest = some bytes)
    (hnul : 0 ∉ bytes) :
    D.resolve cwd hcwd (path ++ 0x2F :: rest) = D.walk l hl (pathComponents bytes) := by
  have hcons : fsencode (0x2F :: rest) = some (0x2F :: bytes) := by
    rw [fsencode, hrest]
    rfl
  unfold resolve at hpath ⊢
  cases henc : fsencode path with
  | none =>
    rw [henc] at hpath
    cases hpath
  | some front =>
    rw [henc] at hpath
    simp only [fsencode_append, henc, hcons, Option.bind_some, Option.map_some] at hpath ⊢
    split_ifs at hpath with hbad habs
    all_goals
      rw [not_or] at hbad
      have hok : ¬ (front ++ 0x2F :: bytes = [] ∨ 0 ∈ front ++ 0x2F :: bytes) := by
        simp [hbad.2, hnul]
      have hhead : (front ++ 0x2F :: bytes).head? = front.head? := by
        rw [List.head?_append_of_ne_nil _ hbad.1]
      rw [if_neg hok, hhead]
    · rw [if_pos habs, pathComponents_append, walk_append hpath]
    · rw [if_neg habs, pathComponents_append, walk_append hpath]

/-- In a larger tree a path leads to the same directory. -/
theorem resolve_mono {D' : Dirs} (hD : ∀ l ∈ D.locs, l ∈ D'.locs) {path : PyStr} {l : Loc} {hl : l ∈ D.locs}
    (hpath : D.resolve cwd hcwd path = .directory l hl) :
    D'.resolve cwd (hD cwd hcwd) path = .directory l (hD l hl) := by
  unfold resolve at hpath ⊢
  cases henc : fsencode path with
  | none =>
    rw [henc] at hpath
    cases hpath
  | some bytes =>
    simp only [henc] at hpath ⊢
    split_ifs at hpath ⊢
    · obtain ⟨_, hwalk⟩ := walk_mono hD hpath
      exact hwalk
    · obtain ⟨_, hwalk⟩ := walk_mono hD hpath
      exact hwalk

/-- An absolute path. -/
theorem resolve_absolute {path : PyStr} {bytes : List UInt8} (habs : path.head? = some 0x2F)
    (hbytes : fsencode path = some bytes) (hnul : 0 ∉ bytes) :
    D.resolve cwd hcwd path = D.walk [] D.root_mem (pathComponents bytes) := by
  obtain ⟨rest, rfl⟩ : ∃ rest, path = 0x2F :: rest := by
    cases path with
    | nil => cases habs
    | cons c rest => exact ⟨rest, by rw [Option.some.inj habs]⟩
  obtain ⟨tail, -, hcons⟩ := Option.bind_eq_some_iff.mp
    (show (fsencode rest).bind (fun bs => some (0x2F :: bs)) = some bytes from hbytes)
  cases hcons
  rw [resolve, hbytes]
  simp only [reduceCtorEq, false_or, if_neg hnul, List.head?_cons, if_true]

theorem resolve_refused {path : PyStr} (h : ∀ bytes, fsencode path = some bytes → 0 ∈ bytes) :
    D.resolve cwd hcwd path = .unreachable := by
  unfold resolve
  cases hbytes : fsencode path with
  | none => rfl
  | some bytes => exact if_pos (Or.inr (h bytes hbytes))

end Resolve

end Dirs

end AwareKV
