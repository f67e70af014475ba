import AwareKV.KeyValue
import AwareKV.Lib.SharedFile

/-!
# AwareKV.FileRaces — the store's file operations in the threads of the data server

`put`, `get` and `delete` of `store/local_disk_backend.py`, one file operation after the other, in threads
that share the directories without a lock: `open(path, "wb")` truncates the file, `f.write` writes it piece by
piece, `f.read` reads it piece by piece.  The store whose operations happen at once puts when the file is
opened.

* `racing_puts_converge`: if PUTs of an object that overlap carry the same bytes, a file that no PUT writes to
  holds what the store at once holds.
* `quiet_get`: a GET that meets no PUT of its object returns what the store at once holds.
* `put_then_get`: a GET after a PUT that meets no other PUT of its object returns what that one stored, also after
  PUTs that tore the file.
* `racing_get_bytes`: every byte that a GET returns was given to a PUT of the object at its place, or fills a
  gap before the end of one.
-/

namespace AwareKV

/-- A file operation of a thread, under the object id for `put`, `get` and `delete`. -/
inductive DiskCall
  | put (tier : DataTier) (s : PyStr) (data : Bytes)
  | write (k : ℕ)
  | close
  | writeFails
  | get (tier : DataTier) (s : PyStr)
  | read (k : ℕ)
  | readFails
  | delete (tier : DataTier) (s : PyStr)

/-- The place of the file that the path of an object id leads to, if it leads to one. -/
def LocalDiskBackend.placeOf (b : LocalDiskBackend) (tier : DataTier) (s : PyStr) : Option b.dirs.Entry :=
  match b.target tier s with
  | .entry e => some e
  | _ => none

theorem placeOf_some {b : LocalDiskBackend} {tier : DataTier} {s : PyStr} {e : b.dirs.Entry}
    (h : b.placeOf tier s = some e) : b.target tier s = .entry e := by
  unfold LocalDiskBackend.placeOf at h
  split at h
  · next e' he =>
    cases h
    exact he
  · cases h

theorem placeOf_none {b : LocalDiskBackend} {tier : DataTier} {s : PyStr} (h : b.placeOf tier s = none)
    (e : b.dirs.Entry) : b.target tier s ≠ .entry e := by
  intro he
  rw [LocalDiskBackend.placeOf, he] at h
  cases h

namespace DiskCall

/-- The operation on the place of a file; `none` if the path leads to none. -/
def onFile (b : LocalDiskBackend) : DiskCall → Option (FileCall b.dirs.Entry)
  | put tier s data => (b.placeOf tier s).map (.openWrite · data)
  | write k => some (.write k)
  | close => some .closeWrite
  | writeFails => some .failWrite
  | get tier s => (b.placeOf tier s).map .openRead
  | read k => some (.read k)
  | readFails => some .failRead
  | delete tier s => (b.placeOf tier s).map .remove

/-- The answer where the path leads to no place of a file. -/
def refused : DiskCall → FileAnswer
  | put _ _ _ => .stored false
  | get _ _ => .fetched none
  | delete _ _ => .removed false
  | _ => .pending

end DiskCall

section Threads

variable (b : LocalDiskBackend) {κ : Type} [DecidableEq κ]

/-- The threads over the given files. -/
def diskThreads (κ : Type) [DecidableEq κ] (files : Files b.dirs) :
    Machine (Workers b.dirs.Entry κ) (κ × DiskCall) FileAnswer where
  init := (fileThreads κ files.get?).init
  step s op :=
    match op.2.onFile b with
    | some call => (fileThreads κ files.get?).step s (op.1, call)
    | none => (s, op.2.refused)

/-- A `put` or `delete` of the store. -/
inductive DiskCommit
  | put (tier : DataTier) (s : PyStr) (data : Bytes)
  | delete (tier : DataTier) (s : PyStr)

/-- The store whose operations happen at once. -/
def diskStore (files : Files b.dirs) : Machine (Files b.dirs) DiskCommit (Py Bool) where
  init := files
  step files
    | .put tier s data =>
      match b.put files {} (.str s) data tier with
      | .ok (files, ok) => (files, .ok ok)
      | .error e => (files, .error e)
    | .delete tier s =>
      match b.delete files {} (.str s) tier with
      | .ok (files, ok) => (files, .ok ok)
      | .error e => (files, .error e)

/-- What a step is for that store. -/
def DiskCall.commits {ε : Type} : Task ε → DiskCall → List DiskCommit
  | .idle, .put tier s data => [.put tier s data]
  | .idle, .delete tier s => [.delete tier s]
  | _, _ => []

/-- What a step of the threads is for that store. -/
def diskCommits (s : Workers b.dirs.Entry κ) (op : κ × DiskCall) : List DiskCommit := op.2.commits (s.tasks op.1)

/-- The step opens no file for writing that another thread writes other bytes to, and is no write that fails. -/
def DiskAgrees (s : Workers b.dirs.Entry κ) (op : κ × DiskCall) : Prop :=
  ∀ call, op.2.onFile b = some call → s.Agrees (op.1, call)

variable {b}

theorem diskThreads_step (files : Files b.dirs) {s : Workers b.dirs.Entry κ} {op : κ × DiskCall}
    {call : FileCall b.dirs.Entry} (h : op.2.onFile b = some call) :
    (diskThreads b κ files).step s op = (fileThreads κ files.get?).step s (op.1, call) := by
  simp only [diskThreads, h]

theorem diskThreads_refused (files : Files b.dirs) {s : Workers b.dirs.Entry κ} {op : κ × DiskCall}
    (h : op.2.onFile b = none) : (diskThreads b κ files).step s op = (s, op.2.refused) := by
  simp only [diskThreads, h]

/-- What a `put` at once leaves under every name. -/
theorem diskStore_put (start files : Files b.dirs) {tier : DataTier} {s : PyStr} {e : b.dirs.Entry}
    (he : b.target tier s = .entry e) (data : Bytes) :
    ((diskStore b start).step files (.put tier s data)).1.get? = Function.update files.get? e (some data) := by
  ext e' : 1
  simp [diskStore, LocalDiskBackend.put_entry he, Function.update_apply]

/-- What a `delete` at once leaves. -/
theorem diskStore_delete (start files : Files b.dirs) {tier : DataTier} {s : PyStr} {e : b.dirs.Entry}
    (he : b.target tier s = .entry e) :
    ((diskStore b start).step files (.delete tier s)).1.get? = Function.update files.get? e none := by
  ext e' : 1
  cases hfile : files.get? e with
  | none =>
    have hcontains : files.contains e = false := by rw [Dict.contains, hfile]; rfl
    by_cases hsame : e' = e
    · subst hsame
      simp [diskStore, LocalDiskBackend.delete_entry he, hcontains, hfile]
    · simp [diskStore, LocalDiskBackend.delete_entry he, hcontains, Function.update_of_ne hsame]
  | some data =>
    have hcontains : files.contains e = true := by rw [Dict.contains, hfile]; rfl
    simp [diskStore, LocalDiskBackend.delete_entry he, hcontains, Function.update_apply]

/-- A path that leads to no place of a file. -/
theorem diskStore_refused (start files : Files b.dirs) {tier : DataTier} {s : PyStr}
    (h : ∀ e, b.target tier s ≠ .entry e) (data : Bytes) :
    ((diskStore b start).step files (.put tier s data)).1 = files ∧
      ((diskStore b start).step files (.delete tier s)).1 = files := by
  simp [diskStore, LocalDiskBackend.put_other h, LocalDiskBackend.delete_other h]

/-- **The store at once** does to its files what a step is for the names. -/
theorem diskStore_step (start files : Files b.dirs) (task : Task b.dirs.Entry) (c : DiskCall) :
    ((diskStore b start).execFrom files (c.commits task)).get? =
      (nameStore files.get?).execFrom files.get? ((c.onFile b).toList.flatMap fun call => call.commits task) := by
  have hput : ∀ tier o data, (DiskCall.put tier o data).onFile b = (b.placeOf tier o).map (.openWrite · data) :=
    fun _ _ _ => rfl
  have hget : ∀ tier o, (DiskCall.get tier o).onFile b = (b.placeOf tier o).map .openRead := fun _ _ => rfl
  have hdelete : ∀ tier o, (DiskCall.delete tier o).onFile b = (b.placeOf tier o).map .remove := fun _ _ => rfl
  cases task with
  | idle =>
    cases c with
    | put tier o data =>
      rw [hput]
      cases hplace : b.placeOf tier o with
      | some e => exact diskStore_put start files (placeOf_some hplace) data
      | none => exact congrArg Dict.get? (diskStore_refused start files (placeOf_none hplace) data).1
    | delete tier o =>
      rw [hdelete]
      cases hplace : b.placeOf tier o with
      | some e => exact diskStore_delete start files (placeOf_some hplace)
      | none => exact congrArg Dict.get? (diskStore_refused start files (placeOf_none hplace) []).2
    | get tier o =>
      rw [hget]
      cases b.placeOf tier o <;> rfl
    | _ => rfl
  | _ =>
    cases c with
    | put tier o data =>
      rw [hput]
      cases b.placeOf tier o <;> rfl
    | get tier o =>
      rw [hget]
      cases b.placeOf tier o <;> rfl
    | delete tier o =>
      rw [hdelete]
      cases b.placeOf tier o <;> rfl
    | _ => rfl

/-! ## Runs -/

/-- What a step is on the files. -/
def DiskCall.fileOp (b : LocalDiskBackend) (op : κ × DiskCall) : Option (κ × FileCall b.dirs.Entry) :=
  (op.2.onFile b).map fun call => (op.1, call)

omit [DecidableEq κ] in
theorem fileOp_some {op : κ × DiskCall} {fop : κ × FileCall b.dirs.Entry} (h : DiskCall.fileOp b op = some fop) :
    op.2.onFile b = some fop.2 ∧ op.1 = fop.1 := by
  obtain ⟨call, hcall, rfl⟩ := Option.map_eq_some_iff.mp h
  exact ⟨hcall, rfl⟩

/-- Only a `put` makes a file operation that opens an object for writing. -/
theorem put_of_openWrite {c : DiskCall} {e : b.dirs.Entry} {put : Bytes} (h : c.onFile b = some (.openWrite e put)) :
    ∃ tier s, c = .put tier s put ∧ b.placeOf tier s = some e := by
  cases c with
  | put tier s data =>
    obtain ⟨e', hplace, heq⟩ := Option.map_eq_some_iff.mp h
    cases heq
    exact ⟨tier, s, rfl, hplace⟩
  | get tier s =>
    obtain ⟨e', -, heq⟩ := Option.map_eq_some_iff.mp h
    cases heq
  | delete tier s =>
    obtain ⟨e', -, heq⟩ := Option.map_eq_some_iff.mp h
    cases heq
  | _ => cases h

theorem writeFails_of_failWrite {c : DiskCall} (h : c.onFile b = some .failWrite) : c = .writeFails := by
  cases c with
  | writeFails => rfl
  | put tier s data =>
    obtain ⟨e', -, heq⟩ := Option.map_eq_some_iff.mp h
    cases heq
  | get tier s =>
    obtain ⟨e', -, heq⟩ := Option.map_eq_some_iff.mp h
    cases heq
  | delete tier s =>
    obtain ⟨e', -, heq⟩ := Option.map_eq_some_iff.mp h
    cases heq
  | _ => cases h

/-- **The threads make a run of the file operations.** -/
theorem diskThreads_exec (files : Files b.dirs) (ops : List (κ × DiskCall)) :
    (diskThreads b κ files).exec ops = (fileThreads κ files.get?).exec (ops.filterMap (DiskCall.fileOp b)) := by
  induction ops using List.reverseRecOn with
  | nil => rfl
  | append_singleton ops op ih =>
    rw [Machine.exec_snoc, ih, List.filterMap_append]
    cases hcall : op.2.onFile b with
    | none =>
      have hnone : [op].filterMap (DiskCall.fileOp b) = [] := by simp [DiskCall.fileOp, hcall]
      rw [diskThreads_refused files hcall, hnone, List.append_nil]
    | some call =>
      have hone : [op].filterMap (DiskCall.fileOp b) = [(op.1, call)] := by simp [DiskCall.fileOp, hcall]
      rw [diskThreads_step files hcall, hone, Machine.exec_snoc]

/-- Their answers are those of the file operations. -/
theorem diskThreads_answer (files : Files b.dirs) (ops : List (κ × DiskCall)) {op : κ × DiskCall}
    {call : FileCall b.dirs.Entry} (h : op.2.onFile b = some call) :
    (diskThreads b κ files).answer ops op =
      (fileThreads κ files.get?).answer (ops.filterMap (DiskCall.fileOp b)) (op.1, call) := by
  rw [Machine.answer, diskThreads_step files h, diskThreads_exec]
  rfl

/-- **The store at once holds what the names are meant to hold.** -/
theorem diskStore_exec (files : Files b.dirs) (ops : List (κ × DiskCall)) :
    ((diskStore b files).exec ((diskThreads b κ files).notes (diskCommits b) ops)).get? =
      (nameStore files.get?).exec
        ((fileThreads κ files.get?).notes Workers.commits (ops.filterMap (DiskCall.fileOp b))) := by
  induction ops using List.reverseRecOn with
  | nil => rfl
  | append_singleton ops op ih =>
    have hcalls : ∀ calls calls', (diskStore b files).exec (calls ++ calls') =
        (diskStore b files).execFrom ((diskStore b files).exec calls) calls' :=
      (diskStore b files).execFrom_append (diskStore b files).init
    have hnames : ∀ calls calls', (nameStore files.get?).exec (calls ++ calls') =
        (nameStore files.get?).execFrom ((nameStore files.get?).exec calls) calls' :=
      (nameStore files.get?).execFrom_append (nameStore files.get?).init
    rw [Machine.notes_snoc, hcalls, diskCommits, diskStore_step, List.filterMap_append, ih, diskThreads_exec]
    cases hcall : op.2.onFile b with
    | none =>
      have hnone : [op].filterMap (DiskCall.fileOp b) = [] := by simp [DiskCall.fileOp, hcall]
      rw [hnone, List.append_nil]
      rfl
    | some call =>
      have hone : [op].filterMap (DiskCall.fileOp b) = [(op.1, call)] := by simp [DiskCall.fileOp, hcall]
      rw [hone, Machine.notes_snoc, hnames, Option.toList_some, List.flatMap_singleton]
      rfl

/-- Steps that agree are file operations that agree. -/
theorem fileOps_agree (files : Files b.dirs) {ops : List (κ × DiskCall)}
    (hagrees : EveryStep (fun pre op => DiskAgrees b ((diskThreads b κ files).exec pre) op) ops) :
    EveryStep (fun pre fop => ((fileThreads κ files.get?).exec pre).Agrees fop)
      (ops.filterMap (DiskCall.fileOp b)) := by
  refine everyStep_filterMap (hagrees.mono fun pre op hop fop hfop => ?_)
  obtain ⟨hcall, hthread⟩ := fileOp_some hfop
  have hsame : (op.1, fop.2) = fop := by rw [hthread]
  rw [← diskThreads_exec, ← hsame]
  exact hop fop.2 hcall

/-- Threads that put every object with the same bytes, and do not fail to, agree. -/
theorem diskThreads_agree (files : Files b.dirs) {ops : List (κ × DiskCall)} (content : b.dirs.Entry → Bytes)
    (hputs : ∀ i tier s data, (i, .put tier s data) ∈ ops → ∀ e, b.placeOf tier s = some e → data = content e)
    (hfails : ∀ i, (i, .writeFails) ∉ ops) :
    EveryStep (fun pre op => DiskAgrees b ((diskThreads b κ files).exec pre) op) ops := by
  have hfiles : EveryStep (fun pre fop => ((fileThreads κ files.get?).exec pre).Agrees fop)
      (ops.filterMap (DiskCall.fileOp b)) := by
    refine agrees_run files.get? content (fun i e data hopen => ?_) fun i hfail => ?_
    · obtain ⟨op, hop, hsome⟩ := List.mem_filterMap.mp hopen
      obtain ⟨hcall, hthread⟩ := fileOp_some hsome
      obtain ⟨tier, s, hput, hplace⟩ := put_of_openWrite hcall
      refine hputs op.1 tier s data ?_ e hplace
      rw [← hput]
      exact hop
    · obtain ⟨op, hop, hsome⟩ := List.mem_filterMap.mp hfail
      obtain ⟨hcall, hthread⟩ := fileOp_some hsome
      refine hfails op.1 ?_
      rw [← writeFails_of_failWrite hcall]
      exact hop
  rintro pre op post rfl call hcall
  rw [diskThreads_exec]
  refine hfiles (pre.filterMap (DiskCall.fileOp b)) (op.1, call) (post.filterMap (DiskCall.fileOp b)) ?_
  have hop : DiskCall.fileOp b op = some (op.1, call) := by rw [DiskCall.fileOp, hcall]; rfl
  rw [List.filterMap_append, List.filterMap_cons_some hop]

/-- **Racing PUTs of the same bytes converge.** Whatever the order of the threads' file operations, if PUTs of
an object that overlap carry the same bytes and no write fails, then a file that no PUT writes to holds what it
would if every PUT and DELETE happened at once. -/
theorem racing_puts_converge (files : Files b.dirs) (ops : List (κ × DiskCall))
    (hagrees : EveryStep (fun pre op => DiskAgrees b ((diskThreads b κ files).exec pre) op) ops) (e : b.dirs.Entry)
    (hquiet : ∀ n, (((diskThreads b κ files).exec ops).places e).linked = some n →
      ((diskThreads b κ files).exec ops).Unwritten e n) :
    (((diskThreads b κ files).exec ops).places e).read =
      ((diskStore b files).exec ((diskThreads b κ files).notes (diskCommits b) ops)).get? e := by
  rw [diskThreads_exec] at hquiet ⊢
  rw [diskStore_exec]
  exact (coherent_run files.get? _ (fileOps_agree files hagrees)).read_eq hquiet

/-- Two threads store an object at the same time. -/
def racingPuts : List (Bool × DiskCall) :=
  [(false, .put .critical (pyStr "a") [1, 2]), (false, .write 1), (true, .put .critical (pyStr "a") [1, 2]),
    (false, .write 1), (true, .write 2), (false, .close), (true, .close)]

theorem racingPuts_agree :
    EveryStep (fun pre op => DiskAgrees exampleBackend ((diskThreads exampleBackend Bool .empty).exec pre) op)
      racingPuts := by
  refine diskThreads_agree .empty (fun _ => [1, 2]) (fun i tier s data hput e _ => ?_) fun i hfail => ?_
  · simp only [racingPuts, List.mem_cons, Prod.mk.injEq, DiskCall.put.injEq, reduceCtorEq, and_false,
      List.not_mem_nil, or_false, false_or] at hput
    rcases hput with ⟨-, -, -, rfl⟩ | ⟨-, -, -, rfl⟩
    · rfl
    · rfl
  · simp [racingPuts] at hfail

theorem racingPuts_idle (i : Bool) :
    ((diskThreads exampleBackend Bool .empty).exec racingPuts).tasks i = .idle := by
  cases i <;> decide +kernel

/-- The file is there once more when both are through. -/
theorem racing_puts_converge_two :
    (((diskThreads exampleBackend Bool .empty).exec racingPuts).places
        (entryOf exampleBackend_fresh.no_directory .critical (pyStr "a"))).read =
      ((diskStore exampleBackend .empty).exec
        ((diskThreads exampleBackend Bool .empty).notes (diskCommits exampleBackend) racingPuts)).get?
        (entryOf exampleBackend_fresh.no_directory .critical (pyStr "a")) :=
  racing_puts_converge .empty racingPuts racingPuts_agree _ fun n _ i data done hwriting => by
    rw [racingPuts_idle i] at hwriting
    cases hwriting

/-! ## Reading -/

variable {i : κ} {tier : DataTier} {s : PyStr} {e : b.dirs.Entry}

omit [DecidableEq κ] in
/-- The file operations of a thread that opens an object and then only reads. -/
theorem fileOps_get (hplace : b.placeOf tier s = some e) (pre mid : List (κ × DiskCall)) :
    (pre ++ (i, .get tier s) :: mid).filterMap (DiskCall.fileOp b) =
      pre.filterMap (DiskCall.fileOp b) ++ (i, .openRead e) :: mid.filterMap (DiskCall.fileOp b) := by
  have hopen : DiskCall.fileOp b (i, .get tier s) = some (i, .openRead e) := by
    rw [DiskCall.fileOp, DiskCall.onFile, hplace]
    rfl
  rw [List.filterMap_append, List.filterMap_cons_some hopen]

omit [DecidableEq κ] in
theorem fileOps_reads {mid : List (κ × DiskCall)} (hreads : ∀ op ∈ mid, op.1 = i → ∃ k, op.2 = .read k) :
    ∀ fop ∈ mid.filterMap (DiskCall.fileOp b), fop.1 = i → ∃ k, fop.2 = .read k := by
  intro fop hfop hi
  obtain ⟨op, hop, hsome⟩ := List.mem_filterMap.mp hfop
  obtain ⟨hcall, hthread⟩ := fileOp_some hsome
  obtain ⟨k, hk⟩ := hreads op hop (hthread.trans hi)
  rw [hk] at hcall
  exact ⟨k, (Option.some.inj hcall).symm⟩

omit [DecidableEq κ] in
/-- Prefixes of the threads' operations are prefixes of their file operations. -/
theorem fileOps_prefix {mid : List (κ × DiskCall)} {fops : List (κ × FileCall b.dirs.Entry)}
    (h : fops <+: mid.filterMap (DiskCall.fileOp b)) :
    ∃ mid', mid' <+: mid ∧ fops = mid'.filterMap (DiskCall.fileOp b) := by
  obtain ⟨mid', hmid, hfops⟩ := List.prefix_filterMap_iff.mp h
  exact ⟨mid', hmid, hfops⟩

/-- What a thread is given that opened an object and then only read. -/
theorem get_fetched (files : Files b.dirs) {pre mid : List (κ × DiskCall)} {k : ℕ} {data : Bytes}
    (hplace : b.placeOf tier s = some e) (hidle : ((diskThreads b κ files).exec pre).tasks i = .idle)
    (hreads : ∀ op ∈ mid, op.1 = i → ∃ k, op.2 = .read k)
    (hanswer : (diskThreads b κ files).answer (pre ++ (i, .get tier s) :: mid) (i, .read k) =
      .fetched (some data)) :
    ∃ n, (((diskThreads b κ files).exec pre).places e).linked = some n ∧
      ((diskThreads b κ files).exec (pre ++ (i, .get tier s) :: mid)).tasks i = .reading e n data := by
  have hread : (DiskCall.read k).onFile b = some (.read k) := rfl
  rw [diskThreads_answer files _ hread, fileOps_get hplace] at hanswer
  rw [diskThreads_exec] at hidle
  rw [diskThreads_exec, diskThreads_exec, fileOps_get hplace]
  exact fetched_from files.get? hidle (fileOps_reads hreads) hanswer

/-- **A GET that meets no PUT.** A thread that opens an object and reads to the end, while no thread writes to
the object's file from before it opens the file on, returns what the store at once holds when it opens it. -/
theorem quiet_get (files : Files b.dirs) {pre mid : List (κ × DiskCall)} {k : ℕ} {data : Bytes}
    (hagrees : EveryStep (fun pre op => DiskAgrees b ((diskThreads b κ files).exec pre) op) pre)
    (hplace : b.placeOf tier s = some e) (hidle : ((diskThreads b κ files).exec pre).tasks i = .idle)
    (hreads : ∀ op ∈ mid, op.1 = i → ∃ k, op.2 = .read k)
    (hquiet : ∀ n, (((diskThreads b κ files).exec pre).places e).linked = some n →
      ∀ mid', mid' <+: (i, .get tier s) :: mid → ((diskThreads b κ files).exec (pre ++ mid')).Unwritten e n)
    (hanswer : (diskThreads b κ files).answer (pre ++ (i, .get tier s) :: mid) (i, .read k) =
      .fetched (some data)) :
    ((diskStore b files).exec ((diskThreads b κ files).notes (diskCommits b) pre)).get? e = some data := by
  obtain ⟨n, hlinked, hreading⟩ := get_fetched files hplace hidle hreads hanswer
  have hheld := (coherent_run files.get? _ (fileOps_agree files hagrees)).read_eq (e := e) fun m hm => by
    rw [← diskThreads_exec] at hm ⊢
    have hstart := hquiet m hm [] List.nil_prefix
    rwa [List.append_nil] at hstart
  rw [← diskThreads_exec, Place.read, hlinked, Option.map_some] at hheld
  have hread : (DiskCall.read k).onFile b = some (.read k) := rfl
  rw [diskThreads_answer files _ hread, fileOps_get hplace] at hanswer
  rw [diskThreads_exec] at hidle
  rw [diskThreads_exec, fileOps_get hplace] at hreading
  rw [diskStore_exec, ← hheld, Option.some.injEq]
  refine (fetched_quiet files.get? hidle (by rw [diskThreads_exec]) ?_ hreading hanswer).symm
  intro fops hstart
  have hsplit : (i, FileCall.openRead e) :: mid.filterMap (DiskCall.fileOp b) =
      ((i, DiskCall.get tier s) :: mid).filterMap (DiskCall.fileOp b) := by
    have hall := fileOps_get (i := i) hplace [] mid
    exact hall.symm
  rw [hsplit] at hstart
  obtain ⟨mid', hmid, rfl⟩ := fileOps_prefix hstart
  rw [← List.filterMap_append, ← diskThreads_exec]
  exact hquiet n hlinked mid' hmid

/-- What is put under a place was given to a `put` of an object there. -/
theorem put_of_commit (files : Files b.dirs) {ops : List (κ × DiskCall)} {put : Bytes}
    (h : .put e put ∈ (fileThreads κ files.get?).notes Workers.commits (ops.filterMap (DiskCall.fileOp b))) :
    ∃ j tier s, (j, .put tier s put) ∈ ops ∧ b.placeOf tier s = some e := by
  obtain ⟨pre, fop, post, hops, hcommit⟩ := (Machine.mem_notes _).mp h
  have hfop : fop ∈ ops.filterMap (DiskCall.fileOp b) := by
    rw [hops]
    exact List.mem_append_right _ List.mem_cons_self
  obtain ⟨op, hop, hsome⟩ := List.mem_filterMap.mp hfop
  have hcall := (fileOp_some hsome).1
  rw [FileCall.openWrite_of_put hcommit] at hcall
  obtain ⟨tier, s, hput, hplace⟩ := put_of_openWrite hcall
  refine ⟨op.1, tier, s, ?_, hplace⟩
  rw [← hput]
  exact hop

/-- **Reading what was written.** A thread stores an object and is told so, and no other thread has the object's
file open for writing meanwhile, nor any thread from then on until a second one has opened the object and read
to the end; if the file is still the object's when the second one opens it, that one gets what the first one
stored, whatever the file held before. -/
theorem put_then_get (files : Files b.dirs) {pre mid run between reads : List (κ × DiskCall)} {j : κ} {n k : ℕ}
    {data got : Bytes} (hplace : b.placeOf tier s = some e)
    (hidle : ((diskThreads b κ files).exec pre).tasks i = .idle)
    (hwrites : ∀ op ∈ mid, op.1 = i → ∃ k, op.2 = .write k)
    (hstored : (diskThreads b κ files).answer (pre ++ (i, .put tier s data) :: mid) (i, .close) = .stored true)
    (hn : (((diskThreads b κ files).exec pre).places e).target = n)
    (halone : ∀ m, m <+: mid → ((diskThreads b κ files).exec (pre ++ (i, .put tier s data) :: m)).Alone i e n)
    (hrun : run = pre ++ (i, .put tier s data) :: mid ++ [(i, .close)])
    (hidle' : ((diskThreads b κ files).exec (run ++ between)).tasks j = .idle)
    (hlinked : (((diskThreads b κ files).exec (run ++ between)).places e).linked = some n)
    (hreads : ∀ op ∈ reads, op.1 = j → ∃ k, op.2 = .read k)
    (hquiet : ∀ m, m <+: between ++ (j, .get tier s) :: reads →
      ((diskThreads b κ files).exec (run ++ m)).Unwritten e n)
    (hanswer : (diskThreads b κ files).answer (run ++ between ++ (j, .get tier s) :: reads) (j, .read k) =
      .fetched (some got)) : got = data := by
  obtain ⟨n', hlinked', hreading⟩ := get_fetched files hplace hidle' hreads hanswer
  obtain rfl : n = n' := Option.some.inj (hlinked.symm.trans hlinked')
  have hput : (DiskCall.put tier s data).onFile b = some (.openWrite e data) := by rw [DiskCall.onFile, hplace]; rfl
  have hopened : ∀ m, (pre ++ (i, DiskCall.put tier s data) :: m).filterMap (DiskCall.fileOp b) =
      pre.filterMap (DiskCall.fileOp b) ++ (i, .openWrite e data) :: m.filterMap (DiskCall.fileOp b) := by
    intro m
    have hop : DiskCall.fileOp b (i, DiskCall.put tier s data) = some (i, .openWrite e data) := by
      rw [DiskCall.fileOp, hput]
      rfl
    rw [List.filterMap_append, List.filterMap_cons_some hop]
  have hclose : DiskCall.close.onFile b = some .closeWrite := rfl
  have hread : (DiskCall.read k).onFile b = some (.read k) := rfl
  -- when the first thread is through, its bytes are there
  have hheld : (((diskThreads b κ files).exec run).places e).contents n = data := by
    rw [diskThreads_exec] at hidle hn
    rw [diskThreads_answer files _ hclose, hopened] at hstored
    rw [diskThreads_exec, hrun, List.filterMap_append, hopened, ← hn]
    refine stored_alone files.get? hidle ?_ (fun fops hstart => ?_) hstored
    · intro fop hfop hi
      obtain ⟨op, hop, hsome⟩ := List.mem_filterMap.mp hfop
      obtain ⟨hcall, hthread⟩ := fileOp_some hsome
      obtain ⟨k, hk⟩ := hwrites op hop (hthread.trans hi)
      rw [hk] at hcall
      exact ⟨k, (Option.some.inj hcall).symm⟩
    · obtain ⟨m, hm, rfl⟩ := fileOps_prefix hstart
      rw [← hopened, ← diskThreads_exec, hn]
      exact halone m hm
  -- they stay until the second one has read them
  have hquiet : ∀ fops, fops <+: (between ++ (j, .get tier s) :: reads).filterMap (DiskCall.fileOp b) →
      ((fileThreads κ files.get?).exec (run.filterMap (DiskCall.fileOp b) ++ fops)).Unwritten e n := by
    intro fops hstart
    obtain ⟨m, hm, rfl⟩ := fileOps_prefix hstart
    rw [← List.filterMap_append, ← diskThreads_exec]
    exact hquiet m hm
  rw [diskThreads_answer files _ hread] at hanswer
  rw [diskThreads_exec] at hheld hidle' hreading
  rw [List.filterMap_append] at hquiet hidle' hreading hanswer
  rw [List.filterMap_append] at hreading hanswer
  refine fetched_quiet files.get? hidle' ?_ (fun fops hstart => ?_) hreading hanswer
  · rw [contents_run files.get? fun fops hstart => hquiet fops (hstart.trans (List.prefix_append _ _))]
    exact hheld
  · rw [List.append_assoc]
    exact hquiet _ ((List.prefix_append_right_inj _).mpr hstart)

/-- Two PUTs that overlap and fail. -/
def failedPuts : List (Bool × DiskCall) :=
  [(false, .put .critical (pyStr "a") [1, 2]), (false, .write 1), (true, .put .critical (pyStr "a") [5]),
    (false, .writeFails), (true, .writeFails)]

/-- One more. -/
def onePut : List (Bool × DiskCall) :=
  failedPuts ++ (false, .put .critical (pyStr "a") [3, 4]) :: [(false, .write 1), (false, .write 1)] ++
    [(false, .close)]

theorem put_then_get_failed :
    ∃ got, (diskThreads exampleBackend Bool .empty).answer
      (onePut ++ [] ++ (true, .get .critical (pyStr "a")) :: [(true, .read 5)]) (true, .read 5) =
      .fetched (some got) ∧ got = [3, 4] := by
  have hplace : exampleBackend.placeOf .critical (pyStr "a") =
      some (entryOf exampleBackend_fresh.no_directory .critical (pyStr "a")) := by decide +kernel
  have hanswer : (diskThreads exampleBackend Bool .empty).answer
      (onePut ++ [] ++ (true, .get .critical (pyStr "a")) :: [(true, .read 5)]) (true, .read 5) =
      .fetched (some [3, 4]) := by decide +kernel
  have hidle : ∀ m ∈ [(false, DiskCall.write 1), (false, .write 1)].inits,
      ((diskThreads exampleBackend Bool .empty).exec
        (failedPuts ++ (false, .put .critical (pyStr "a") [3, 4]) :: m)).tasks true = .idle := by decide +kernel
  have hreading : ∀ m ∈ ([] ++ (true, DiskCall.get .critical (pyStr "a")) :: [(true, .read 5)]).inits, ∀ i : Bool,
      ((diskThreads exampleBackend Bool .empty).exec (onePut ++ m)).tasks i = .idle ∨
        ∃ got ∈ [[], [3, 4]], ((diskThreads exampleBackend Bool .empty).exec (onePut ++ m)).tasks i =
          .reading (entryOf exampleBackend_fresh.no_directory .critical (pyStr "a")) 1 got := by decide +kernel
  refine ⟨[3, 4], hanswer, put_then_get (n := 1) .empty hplace (by decide +kernel) (fun op hop _ => ?_)
    (by decide +kernel) (by decide +kernel) (fun m hm j hj data done hwriting => ?_) rfl (by decide +kernel)
    (by decide +kernel) (fun op hop _ => ?_) (fun m hm i data done hwriting => ?_) hanswer⟩
  · rcases List.mem_pair.mp hop with rfl | rfl
    · exact ⟨1, rfl⟩
    · exact ⟨1, rfl⟩
  · obtain rfl : j = true := by simpa using hj
    rw [hidle m ((List.mem_inits _ _).mpr hm)] at hwriting
    cases hwriting
  · exact ⟨5, by rw [List.mem_singleton.mp hop]⟩
  · replace hwriting : ((diskThreads exampleBackend Bool .empty).exec (onePut ++ m)).tasks i = _ := hwriting
    rcases hreading m ((List.mem_inits _ _).mpr hm) i with hnone | ⟨got, -, hgot⟩
    · rw [hnone] at hwriting
      cases hwriting
    · rw [hgot] at hwriting
      cases hwriting

/-- A thread gets the object after both are through. -/
theorem quiet_get_racing :
    ((diskStore exampleBackend .empty).exec
        ((diskThreads exampleBackend Bool .empty).notes (diskCommits exampleBackend) racingPuts)).get?
        (entryOf exampleBackend_fresh.no_directory .critical (pyStr "a")) = some [1, 2] := by
  have hplace : exampleBackend.placeOf .critical (pyStr "a") =
      some (entryOf exampleBackend_fresh.no_directory .critical (pyStr "a")) := by decide +kernel
  have hanswer : (diskThreads exampleBackend Bool .empty).answer
      (racingPuts ++ (true, .get .critical (pyStr "a")) :: [(true, .read 5)]) (true, .read 5) =
      .fetched (some [1, 2]) := by decide +kernel
  refine quiet_get .empty racingPuts_agree hplace (racingPuts_idle true) (fun op hop _ => ?_) ?_ hanswer
  · exact ⟨5, by rw [List.mem_singleton.mp hop]⟩
  · intro n _ mid' hmid i data done hwriting
    have hreads : ∀ mid ∈ [(true, DiskCall.get .critical (pyStr "a")), (true, .read 5)].inits, ∀ i : Bool,
        ((diskThreads exampleBackend Bool .empty).exec (racingPuts ++ mid)).tasks i = .idle ∨
          ∃ got ∈ [[], [1, 2]], ((diskThreads exampleBackend Bool .empty).exec (racingPuts ++ mid)).tasks i =
            .reading (entryOf exampleBackend_fresh.no_directory .critical (pyStr "a")) 1 got := by
      decide +kernel
    rcases hreads mid' ((List.mem_inits _ _).mpr hmid) i with hidle | ⟨got, -, hreading⟩
    · rw [hidle] at hwriting
      cases hwriting
    · rw [hreading] at hwriting
      cases hwriting

/-- **No GET makes up bytes.** Whatever the threads do, every byte that a thread returns which opens an object
and reads to the end comes from a PUT of the object, or from its file at the start: it is at its place there, or
it is a zero that fills a gap before the end. -/
theorem racing_get_bytes (files : Files b.dirs) {pre mid : List (κ × DiskCall)} {k : ℕ} {data : Bytes}
    (hplace : b.placeOf tier s = some e) (hidle : ((diskThreads b κ files).exec pre).tasks i = .idle)
    (hreads : ∀ op ∈ mid, op.1 = i → ∃ k, op.2 = .read k)
    (hanswer : (diskThreads b κ files).answer (pre ++ (i, .get tier s) :: mid) (i, .read k) =
      .fetched (some data)) (p : ℕ) (v : UInt8) (hv : data[p]? = some v) :
    (∃ old, files.get? e = some old ∧ Supplies old p v) ∨
      ∃ j tier' s' put, (j, .put tier' s' put) ∈ pre ++ (i, .get tier s) :: mid ∧
        b.placeOf tier' s' = some e ∧ Supplies put p v := by
  obtain ⟨n, -, hreading⟩ := get_fetched files hplace hidle hreads hanswer
  rw [diskThreads_exec] at hreading
  obtain ⟨put, hput, hbyte⟩ := (sourced_run files.get? _).readers i e n data hreading p v hv
  rcases List.mem_append.mp hput with hold | hnew
  · exact Or.inl ⟨put, Option.mem_toList.mp hold, hbyte⟩
  · refine Or.inr ?_
    obtain ⟨call, hcall, hsome⟩ := List.mem_filterMap.mp hnew
    have hput : call = .put e put := by
      cases call with
      | put e' data' =>
        simp only [Option.ite_none_right_eq_some, Option.some.injEq] at hsome
        obtain ⟨rfl, rfl⟩ := hsome
        rfl
      | remove e' => cases hsome
    rw [hput] at hcall
    obtain ⟨j, tier', s', hmem, hplace'⟩ := put_of_commit files hcall
    exact ⟨j, tier', s', put, hmem, hplace', hbyte⟩

end Threads

/-- A thread opens the file of an object for writing while another one writes it. -/
def tornWrite : List (ℕ × DiskCall) :=
  [(0, .put .critical (pyStr "a") [1, 2]), (0, .write 1), (1, .put .critical (pyStr "a") [1, 2]), (0, .write 1)]

theorem racing_get_bytes_torn :
    (∃ old, (Dict.empty : Files exampleBackend.dirs).get?
        (entryOf exampleBackend_fresh.no_directory .critical (pyStr "a")) = some old ∧ Supplies old 0 0) ∨
      ∃ j tier' s' put, (j, .put tier' s' put) ∈
          tornWrite ++ (2, .get .critical (pyStr "a")) :: [(2, .read 5)] ∧
        exampleBackend.placeOf tier' s' = some (entryOf exampleBackend_fresh.no_directory .critical (pyStr "a")) ∧
        Supplies put 0 0 := by
  have hplace : exampleBackend.placeOf .critical (pyStr "a") =
      some (entryOf exampleBackend_fresh.no_directory .critical (pyStr "a")) := by decide +kernel
  -- a GET before they are through has a gap where the bytes were that the second one truncated
  have hanswer : (diskThreads exampleBackend ℕ .empty).answer
      (tornWrite ++ (2, .get .critical (pyStr "a")) :: [(2, .read 5)]) (2, .read 5) = .fetched (some [0, 2]) := by
    decide +kernel
  exact racing_get_bytes Dict.empty hplace (by decide +kernel)
    (fun op hop _ => ⟨5, by rw [List.mem_singleton.mp hop]⟩) hanswer 0 0 rfl

end AwareKV
