import AwareKV.Lib.Machine

/-!
# AwareKV.Lib.SharedFile — files that several threads have open

Names with the files behind them.  A thread opens a name for writing (which truncates its file, or makes a
new one) and writes its data piece by piece at an offset of its own, or it opens a name for reading and reads
piece by piece until the end, or it removes a name, which leaves the open files as they are.  The steps of
different threads come in any order, and pieces have any size.  Nothing is locked.

* `coherent_run`: if the writers that have a name's file open at the same time write the same data and none
  fails, a file that no one writes to holds what was put last.
* `fetched_quiet`: a reader whose file no one writes to gets all of it.
* `stored_alone`: a writer whose file no one else writes to leaves its data there.
* `sourced_run`: every byte that is read was put there at its place, or is a zero that fills a gap before the
  end of what was put.
-/

namespace AwareKV

/-! ## Writing at an offset -/

/-- The bytes after `write` at the offset `off`; a gap before it is filled with zeros. -/
def writeAt (buf : List UInt8) (off : ℕ) (chunk : List UInt8) : List UInt8 :=
  if chunk = [] then buf
  else (buf ++ List.replicate (off - buf.length) 0).take off ++ chunk ++ buf.drop (off + chunk.length)

theorem writeAt_nil (buf : List UInt8) (off : ℕ) : writeAt buf off [] = buf := if_pos rfl

theorem length_writeAt {buf chunk : List UInt8} (off : ℕ) (h : chunk ≠ []) :
    (writeAt buf off chunk).length = max buf.length (off + chunk.length) := by
  rw [writeAt, if_neg h]
  simp only [List.length_append, List.length_take, List.length_replicate, List.length_drop]
  omega

/-- **Byte by byte**: what was written, the old bytes around it, and zeros in a gap. -/
theorem getElem?_writeAt {buf chunk : List UInt8} (off : ℕ) (h : chunk ≠ []) (p : ℕ) :
    (writeAt buf off chunk)[p]? =
      if p < off then (if p < buf.length then buf[p]? else some 0)
      else if p < off + chunk.length then chunk[p - off]? else buf[p]? := by
  have hlen : ((buf ++ List.replicate (off - buf.length) 0).take off).length = off := by
    rw [List.length_take, List.length_append, List.length_replicate]
    omega
  rw [writeAt, if_neg h, List.append_assoc]
  by_cases hp : p < off
  · rw [if_pos hp, List.getElem?_append_left (by omega), List.getElem?_take_of_lt hp]
    by_cases hc : p < buf.length
    · rw [if_pos hc, List.getElem?_append_left hc]
    · rw [if_neg hc, List.getElem?_append_right (by omega), List.getElem?_replicate_of_lt (by omega)]
  · rw [if_neg hp, List.getElem?_append_right (by omega), hlen]
    by_cases hin : p < off + chunk.length
    · rw [if_pos hin, List.getElem?_append_left (by omega)]
    · rw [if_neg hin, List.getElem?_append_right (by omega), List.getElem?_drop]
      congr 1
      omega

/-- The next piece of `data` when `done` bytes of it are through: at least one byte, if there is one. -/
def nextPiece (data : List UInt8) (done k : ℕ) : List UInt8 := (data.drop done).take (max 1 k)

theorem nextPiece_length (data : List UInt8) (done k : ℕ) :
    done + (nextPiece data done k).length ≤ max done data.length := by
  rw [nextPiece, List.length_take, List.length_drop]
  omega

theorem nextPiece_eq_nil {data : List UInt8} {done k : ℕ} : nextPiece data done k = [] ↔ data.length ≤ done := by
  rw [nextPiece, List.take_eq_nil_iff, List.drop_eq_nil_iff]
  omega

theorem getElem?_nextPiece {data : List UInt8} {done k p : ℕ} (hp : done ≤ p)
    (h : p < done + (nextPiece data done k).length) : (nextPiece data done k)[p - done]? = data[p]? := by
  rw [nextPiece, List.length_take] at h
  rw [nextPiece, List.getElem?_take_of_lt (by omega), List.getElem?_drop]
  congr 1
  omega

/-- The first `w` bytes of `d` are in place, and nothing is beyond its end. -/
structure Written (buf d : List UInt8) (w : ℕ) : Prop where
  inside : w ≤ d.length
  length_le : buf.length ≤ d.length
  agrees : ∀ p < w, buf[p]? = d[p]?

/-- When all of it is in place, that is what is there. -/
theorem Written.eq {buf d : List UInt8} (h : Written buf d d.length) : buf = d := by
  ext p : 1
  by_cases hp : p < d.length
  · exact h.agrees p hp
  · rw [List.getElem?_eq_none_iff.mpr (Nat.le_trans h.length_le (Nat.le_of_not_lt hp)),
      List.getElem?_eq_none_iff.mpr (Nat.le_of_not_lt hp)]

theorem written_nil (d : List UInt8) : Written [] d 0 :=
  ⟨Nat.zero_le _, Nat.zero_le _, fun _ hp => (Nat.not_lt_zero _ hp).elim⟩

/-- **A piece of `d` at its place** takes nothing away, and adds itself if it comes next. -/
theorem Written.write {buf d : List UInt8} {w done : ℕ} (h : Written buf d w) (k : ℕ) {w' : ℕ}
    (hw' : w' = w ∨ done = w ∧ w' = w + (nextPiece d done k).length) (hdone : done ≤ d.length) :
    Written (writeAt buf done (nextPiece d done k)) d w' := by
  have hlen := nextPiece_length d done k
  have hin := h.inside
  have hle := h.length_le
  by_cases hnil : nextPiece d done k = []
  · rw [hnil, writeAt_nil]
    have hsame : w' = w := by
      rcases hw' with rfl | ⟨-, rfl⟩
      · rfl
      · rw [hnil, List.length_nil, Nat.add_zero]
    exact hsame ▸ h
  · refine ⟨by omega, by rw [length_writeAt done hnil]; omega, fun p hp => ?_⟩
    rw [getElem?_writeAt done hnil]
    by_cases hbefore : p < done
    · have hpw : p < w := by omega
      have hc : p < buf.length := by
        have hsome := h.agrees p hpw
        rw [List.getElem?_eq_getElem (by omega : p < d.length)] at hsome
        exact (List.getElem?_eq_some_iff.mp hsome).1
      rw [if_pos hbefore, if_pos hc]
      exact h.agrees p hpw
    · rw [if_neg hbefore]
      by_cases hinside : p < done + (nextPiece d done k).length
      · rw [if_pos hinside]
        exact getElem?_nextPiece (Nat.le_of_not_lt hbefore) hinside
      · rw [if_neg hinside]
        exact h.agrees p (by omega)

/-! ## Names, files and threads -/

/-- What is behind a name: the number of its file, if it has one, how many files it has had, and the bytes of
all of them. -/
structure Place where
  linked : Option ℕ
  made : ℕ
  contents : ℕ → List UInt8

namespace Place

/-- A name with a file, or without one. -/
def start (data : Option (List UInt8)) : Place := ⟨data.map fun _ => 0, 1, fun _ => data.getD []⟩

/-- The file that opening the name for writing gives. -/
def target (pl : Place) : ℕ := pl.linked.getD pl.made

/-- The name after it was opened for writing: its file is truncated, or it has a new one. -/
def opened (pl : Place) : Place :=
  ⟨some pl.target, max pl.made (pl.target + 1), Function.update pl.contents pl.target []⟩

/-- The name after a write to its file `n`. -/
def written (pl : Place) (n off : ℕ) (chunk : List UInt8) : Place :=
  { pl with contents := Function.update pl.contents n (writeAt (pl.contents n) off chunk) }

/-- The name after it was removed. -/
def removed (pl : Place) : Place := { pl with linked := none }

/-- What a reader who meets no writer gets. -/
def read (pl : Place) : Option (List UInt8) := pl.linked.map pl.contents

theorem opened_target (pl : Place) : pl.opened.contents pl.target = [] := Function.update_self _ _ _

theorem written_same (pl : Place) (n off : ℕ) (chunk : List UInt8) :
    (pl.written n off chunk).contents n = writeAt (pl.contents n) off chunk := Function.update_self _ _ _

theorem written_other (pl : Place) {n m : ℕ} (h : m ≠ n) (off : ℕ) (chunk : List UInt8) :
    (pl.written n off chunk).contents m = pl.contents m := Function.update_of_ne h _ _

end Place

/-- What a thread is about. -/
inductive Task (ε : Type*)
  | idle
  | writing (e : ε) (n : ℕ) (data : List UInt8) (done : ℕ)
  | reading (e : ε) (n : ℕ) (got : List UInt8)
  deriving DecidableEq

/-- The names and the threads. -/
structure Workers (ε κ : Type*) where
  places : ε → Place
  tasks : κ → Task ε

/-- The file operations of a thread. -/
inductive FileCall (ε : Type*)
  | openWrite (e : ε) (data : List UInt8)
  | write (k : ℕ)
  | closeWrite
  | failWrite
  | openRead (e : ε)
  | read (k : ℕ)
  | failRead
  | remove (e : ε)

/-- What a thread has at the end, or that it goes on. -/
inductive FileAnswer
  | pending
  | stored (ok : Bool)
  | fetched (data : Option (List UInt8))
  | removed (existed : Bool)
  deriving DecidableEq

/-- A call of a store that does it at once. -/
inductive StoreCall (ε : Type*)
  | put (e : ε) (data : List UInt8)
  | remove (e : ε)

/-- What an operation is for a store that does everything at once: a writer puts when it opens. -/
def FileCall.commits {ε : Type*} : Task ε → FileCall ε → List (StoreCall ε)
  | .idle, .openWrite e data => [.put e data]
  | .idle, .remove e => [.remove e]
  | _, _ => []

/-- Only opening for writing puts. -/
theorem FileCall.openWrite_of_put {ε : Type*} {task : Task ε} {call : FileCall ε} {e : ε} {data : List UInt8}
    (h : .put e data ∈ call.commits task) : call = .openWrite e data := by
  unfold commits at h
  split at h
  · cases List.mem_singleton.mp h
    rfl
  · cases List.mem_singleton.mp h
  · cases h

/-- What an operation does to the name's files and to the thread; one that does not fit the thread's task does
nothing. -/
def FileCall.run {ε : Type*} (places : ε → Place) : Task ε → FileCall ε → Option (ε × Place) × Task ε × FileAnswer
  | .idle, .openWrite e data => (some (e, (places e).opened), .writing e (places e).target data 0, .pending)
  | .writing e n data done, .write k =>
    (some (e, (places e).written n done (nextPiece data done k)),
      .writing e n data (done + (nextPiece data done k).length), .pending)
  | .writing e n data done, .closeWrite =>
    if data.length ≤ done then (none, .idle, .stored true) else (none, .writing e n data done, .pending)
  | .writing _ _ _ _, .failWrite => (none, .idle, .stored false)
  | .idle, .openRead e =>
    match (places e).linked with
    | some n => (none, .reading e n [], .pending)
    | none => (none, .idle, .fetched none)
  | .reading e n got, .read k =>
    if nextPiece ((places e).contents n) got.length k = [] then (none, .idle, .fetched (some got))
    else (none, .reading e n (got ++ nextPiece ((places e).contents n) got.length k), .pending)
  | .reading _ _ _, .failRead => (none, .idle, .fetched none)
  | .idle, .remove e => (some (e, (places e).removed), .idle, .removed (places e).linked.isSome)
  | task, _ => (none, task, .pending)

/-- The cases of a step. -/
inductive FileCall.Ran {ε : Type*} (places : ε → Place) :
    Task ε → FileCall ε → Option (ε × Place) × Task ε × FileAnswer → Prop
  | openWrite (e : ε) (data : List UInt8) :
      Ran places .idle (.openWrite e data)
        (some (e, (places e).opened), .writing e (places e).target data 0, .pending)
  | write (e : ε) (n : ℕ) (data : List UInt8) (done k : ℕ) :
      Ran places (.writing e n data done) (.write k)
        (some (e, (places e).written n done (nextPiece data done k)),
          .writing e n data (done + (nextPiece data done k).length), .pending)
  | closeWrite {e : ε} {n : ℕ} {data : List UInt8} {done : ℕ} (h : data.length ≤ done) :
      Ran places (.writing e n data done) .closeWrite (none, .idle, .stored true)
  | failWrite {e : ε} {n : ℕ} {data : List UInt8} {done : ℕ} :
      Ran places (.writing e n data done) .failWrite (none, .idle, .stored false)
  | openRead {e : ε} {n : ℕ} (h : (places e).linked = some n) :
      Ran places .idle (.openRead e) (none, .reading e n [], .pending)
  | missing {e : ε} (h : (places e).linked = none) :
      Ran places .idle (.openRead e) (none, .idle, .fetched none)
  | read {e : ε} {n : ℕ} {got : List UInt8} {k : ℕ}
      (h : nextPiece ((places e).contents n) got.length k ≠ []) :
      Ran places (.reading e n got) (.read k)
        (none, .reading e n (got ++ nextPiece ((places e).contents n) got.length k), .pending)
  | readEnd {e : ε} {n : ℕ} {got : List UInt8} {k : ℕ}
      (h : nextPiece ((places e).contents n) got.length k = []) :
      Ran places (.reading e n got) (.read k) (none, .idle, .fetched (some got))
  | failRead {e : ε} {n : ℕ} {got : List UInt8} :
      Ran places (.reading e n got) .failRead (none, .idle, .fetched none)
  | remove (e : ε) :
      Ran places .idle (.remove e)
        (some (e, (places e).removed), .idle, .removed (places e).linked.isSome)
  | skip {task : Task ε} {call : FileCall ε} (h : call.commits task = []) :
      Ran places task call (none, task, .pending)

theorem FileCall.run_ran {ε : Type*} (places : ε → Place) (task : Task ε) (call : FileCall ε) :
    Ran places task call (call.run places task) := by
  unfold run
  split
  · exact .openWrite _ _
  · exact .write _ _ _ _ _
  · split_ifs with h
    · exact .closeWrite h
    · exact .skip rfl
  · exact .failWrite
  · split
    · next h => exact .openRead h
    · next h => exact .missing h
  · split_ifs with h
    · exact .readEnd h
    · exact .read h
  · exact .failRead
  · exact .remove _
  · next hopen _ _ _ _ _ _ hremove =>
    refine .skip ?_
    unfold commits
    split
    · exact (hopen _ _ rfl rfl).elim
    · exact (hremove _ rfl rfl).elim
    · rfl

section Threads

variable {ε κ : Type*} [DecidableEq ε] [DecidableEq κ]

/-- The threads over names that hold `store` at the start. -/
def fileThreads (κ : Type*) [DecidableEq κ] (store : ε → Option (List UInt8)) :
    Machine (Workers ε κ) (κ × FileCall ε) FileAnswer where
  init := ⟨fun e => .start (store e), fun _ => .idle⟩
  step s op :=
    let r := op.2.run s.places (s.tasks op.1)
    (⟨r.1.elim s.places fun x => Function.update s.places x.1 x.2, Function.update s.tasks op.1 r.2.1⟩, r.2.2)

/-- **What a step does**, in cases. -/
theorem fileThreads_step (store : ε → Option (List UInt8)) (s : Workers ε κ) (op : κ × FileCall ε) :
    ∃ r, FileCall.Ran s.places (s.tasks op.1) op.2 r ∧
      (fileThreads κ store).step s op =
        (⟨r.1.elim s.places fun x => Function.update s.places x.1 x.2, Function.update s.tasks op.1 r.2.1⟩,
          r.2.2) :=
  ⟨_, FileCall.run_ran s.places (s.tasks op.1) op.2, rfl⟩

/-! ## The store that is meant -/

/-- The store. -/
def nameStore (store : ε → Option (List UInt8)) : Machine (ε → Option (List UInt8)) (StoreCall ε) Unit where
  init := store
  step st
    | .put e data => (Function.update st e (some data), ())
    | .remove e => (Function.update st e none, ())

/-- What a step is for the store. -/
def Workers.commits (s : Workers ε κ) (op : κ × FileCall ε) : List (StoreCall ε) := op.2.commits (s.tasks op.1)

/-- The step does not open a file for writing that another thread writes other data to, and is no write that
fails. -/
def Workers.Agrees (s : Workers ε κ) (op : κ × FileCall ε) : Prop :=
  match s.tasks op.1, op.2 with
  | .idle, .openWrite e data => ∀ j n data' done, s.tasks j = .writing e n data' done →
      (s.places e).linked = some n → data' = data
  | .writing _ _ _ _, .failWrite => False
  | _, _ => True

/-- The names hold what the store holds, but for files that are being written. -/
structure Coherent (places : ε → Place) (tasks : κ → Task ε) (store : ε → Option (List UInt8)) : Prop where
  linked : ∀ e, (places e).linked.isSome = (store e).isSome
  fresh : ∀ e n, (places e).linked = some n → n < (places e).made
  held : ∀ i e n data done, tasks i = .writing e n data done → n < (places e).made ∧ done ≤ data.length
  carried : ∀ i e n data done, tasks i = .writing e n data done → (places e).linked = some n →
    store e = some data
  /-- The writer that opened the file last has put its beginning in place, and is still there or done. -/
  standing : ∀ e n data, (places e).linked = some n → store e = some data →
    ∃ w, Written ((places e).contents n) data w ∧
      (w = data.length ∨ ∃ i, tasks i = .writing e n data w)

variable {places : ε → Place} {tasks : κ → Task ε} {store : ε → Option (List UInt8)}

omit [DecidableEq ε] in
/-- A thread that stops writing when it is done, or that does not write. -/
theorem Coherent.tasks_only (h : Coherent places tasks store) (i : κ)
    {task : Task ε} (hnew : ∀ e n data done, task ≠ .writing e n data done)
    (hold : ∀ e n data done, tasks i = .writing e n data done → data.length ≤ done) :
    Coherent places (Function.update tasks i task) store := by
  have htask : ∀ j e n data done, Function.update tasks i task j = .writing e n data done →
      tasks j = .writing e n data done := by
    intro j e n data done hj
    by_cases hi : j = i
    · subst hi
      rw [Function.update_self] at hj
      exact absurd hj (hnew e n data done)
    · rwa [Function.update_of_ne hi] at hj
  refine ⟨h.linked, h.fresh, fun j e n data done hj => h.held j e n data done (htask j e n data done hj),
    fun j e n data done hj => h.carried j e n data done (htask j e n data done hj), ?_⟩
  intro e n data hlinked hstore
  obtain ⟨w, hwritten, hw⟩ := h.standing e n data hlinked hstore
  refine ⟨w, hwritten, ?_⟩
  rcases hw with hfull | ⟨j, hj⟩
  · exact Or.inl hfull
  · by_cases hi : j = i
    · subst hi
      exact Or.inl (Nat.le_antisymm hwritten.inside (hold e n data w hj))
    · exact Or.inr ⟨j, (Function.update_of_ne hi _ _).trans hj⟩

/-- Opening for writing. -/
theorem Coherent.openWrite (h : Coherent places tasks store) {i : κ}
    (hidle : tasks i = .idle) {e : ε} {data : List UInt8}
    (hagrees : ∀ j n data' done, tasks j = .writing e n data' done → (places e).linked = some n →
      data' = data) :
    Coherent (Function.update places e (places e).opened)
      (Function.update tasks i (.writing e (places e).target data 0)) (Function.update store e (some data)) := by
  have htask : ∀ j e' n data' done,
      Function.update tasks i (.writing e (places e).target data 0) j = .writing e' n data' done →
        (j = i ∧ e' = e ∧ n = (places e).target ∧ data' = data ∧ done = 0) ∨
          (j ≠ i ∧ tasks j = .writing e' n data' done) := by
    intro j e' n data' done hj
    by_cases hi : j = i
    · subst hi
      rw [Function.update_self, Task.writing.injEq] at hj
      exact Or.inl ⟨rfl, hj.1.symm, hj.2.1.symm, hj.2.2.1.symm, hj.2.2.2.symm⟩
    · rw [Function.update_of_ne hi] at hj
      exact Or.inr ⟨hi, hj⟩
  have hmade : (places e).made ≤ (places e).opened.made := Nat.le_max_left _ _
  have htarget : (places e).target < (places e).opened.made := Nat.le_max_right _ _
  refine ⟨fun e' => ?_, fun e' n hn => ?_, fun j e' n data' done hj => ?_, fun j e' n data' done hj hn => ?_,
    fun e' n data' hn hstore => ?_⟩
  · by_cases he : e' = e
    · subst he
      simp [Place.opened]
    · simpa [Function.update_of_ne he] using h.linked e'
  · by_cases he : e' = e
    · subst he
      rw [Function.update_self] at hn ⊢
      cases hn
      exact htarget
    · rw [Function.update_of_ne he] at hn ⊢
      exact h.fresh e' n hn
  · rcases htask j e' n data' done hj with ⟨-, rfl, rfl, rfl, rfl⟩ | ⟨-, hj⟩
    · rw [Function.update_self]
      exact ⟨htarget, Nat.zero_le _⟩
    · obtain ⟨hn, hdone⟩ := h.held j e' n data' done hj
      by_cases he : e' = e
      · subst he
        rw [Function.update_self]
        exact ⟨Nat.lt_of_lt_of_le hn hmade, hdone⟩
      · rw [Function.update_of_ne he]
        exact ⟨hn, hdone⟩
  · by_cases he : e' = e
    · subst he
      rw [Function.update_self] at hn ⊢
      rcases htask j e' n data' done hj with ⟨-, -, -, rfl, -⟩ | ⟨-, hj⟩
      · rfl
      · cases hn
        -- another writer has the file open: it was not made just now
        have hlt := (h.held j e' _ data' done hj).1
        cases hlinked : (places e').linked with
        | none => rw [Place.target, hlinked] at hlt; exact (Nat.lt_irrefl _ hlt).elim
        | some m =>
          have hm : (places e').target = m := by rw [Place.target, hlinked]; rfl
          rw [hagrees j _ data' done hj (hlinked.trans (congrArg some hm.symm))]
    · rw [Function.update_of_ne he] at hn ⊢
      rcases htask j e' n data' done hj with ⟨-, he', -⟩ | ⟨-, hj⟩
      · exact absurd he' he
      · exact h.carried j e' n data' done hj hn
  · by_cases he : e' = e
    · subst he
      rw [Function.update_self] at hn hstore
      cases hn
      cases hstore
      refine ⟨0, ?_, Or.inr ⟨i, Function.update_self _ _ _⟩⟩
      rw [Function.update_self, Place.opened_target]
      exact written_nil data
    · rw [Function.update_of_ne he] at hn hstore
      obtain ⟨w, hwritten, hw⟩ := h.standing e' n data' hn hstore
      rw [Function.update_of_ne he]
      refine ⟨w, hwritten, hw.imp id ?_⟩
      rintro ⟨j, hj⟩
      have hi : j ≠ i := by
        rintro rfl
        rw [hidle] at hj
        cases hj
      exact ⟨j, (Function.update_of_ne hi _ _).trans hj⟩

/-- A piece that is written. -/
theorem Coherent.write (h : Coherent places tasks store) {i : κ} {e : ε}
    {n : ℕ} {data : List UInt8} {done : ℕ} (htask : tasks i = .writing e n data done) (k : ℕ) :
    Coherent (Function.update places e ((places e).written n done (nextPiece data done k)))
      (Function.update tasks i (.writing e n data (done + (nextPiece data done k).length))) store := by
  obtain ⟨hmade, hdone⟩ := h.held i e n data done htask
  have hlen := nextPiece_length data done k
  have hplace : ∀ e', (Function.update places e ((places e).written n done (nextPiece data done k)) e').linked =
      (places e').linked ∧
      (Function.update places e ((places e).written n done (nextPiece data done k)) e').made =
        (places e').made := by
    intro e'
    by_cases he : e' = e
    · subst he
      rw [Function.update_self]
      exact ⟨rfl, rfl⟩
    · rw [Function.update_of_ne he]
      exact ⟨rfl, rfl⟩
  have htasks : ∀ j e' m data' done', Function.update tasks i
      (.writing e n data (done + (nextPiece data done k).length)) j = .writing e' m data' done' →
        ∃ done'', tasks j = .writing e' m data' done'' ∧ done' ≤ max done'' data'.length := by
    intro j e' m data' done' hj
    by_cases hi : j = i
    · subst hi
      rw [Function.update_self] at hj
      cases hj
      exact ⟨done, htask, hlen⟩
    · rw [Function.update_of_ne hi] at hj
      exact ⟨done', hj, Nat.le_max_left _ _⟩
  refine ⟨fun e' => ?_, fun e' m hm => ?_, fun j e' m data' done' hj => ?_, fun j e' m data' done' hj hm => ?_,
    fun e' m data' hm hstore => ?_⟩
  · rw [(hplace e').1]
    exact h.linked e'
  · rw [(hplace e').1] at hm
    rw [(hplace e').2]
    exact h.fresh e' m hm
  · obtain ⟨done'', hj', hle⟩ := htasks j e' m data' done' hj
    obtain ⟨hm, hdone''⟩ := h.held j e' m data' done'' hj'
    rw [(hplace e').2]
    exact ⟨hm, by omega⟩
  · obtain ⟨done'', hj', -⟩ := htasks j e' m data' done' hj
    rw [(hplace e').1] at hm
    exact h.carried j e' m data' done'' hj' hm
  · rw [(hplace e').1] at hm
    obtain ⟨w, hwritten, hw⟩ := h.standing e' m data' hm hstore
    by_cases he : e' = e
    · subst he
      rw [Function.update_self]
      by_cases hnm : m = n
      · subst hnm
        -- the writer writes the data of the store
        obtain rfl : data = data' := Option.some.inj ((h.carried i e' m data done htask hm).symm.trans hstore)
        rw [Place.written_same]
        rcases hw with hfull | ⟨j, hj⟩
        · exact ⟨w, hwritten.write k (Or.inl rfl) hdone, Or.inl hfull⟩
        · by_cases hi : j = i
          · subst hi
            rw [htask] at hj
            cases hj
            exact ⟨_, hwritten.write k (Or.inr ⟨rfl, rfl⟩) hdone, Or.inr ⟨j, Function.update_self _ _ _⟩⟩
          · exact ⟨w, hwritten.write k (Or.inl rfl) hdone,
              Or.inr ⟨j, (Function.update_of_ne hi _ _).trans hj⟩⟩
      · rw [Place.written_other _ hnm]
        refine ⟨w, hwritten, hw.imp id ?_⟩
        rintro ⟨j, hj⟩
        have hi : j ≠ i := by
          rintro rfl
          rw [htask, Task.writing.injEq] at hj
          exact hnm hj.2.1.symm
        exact ⟨j, (Function.update_of_ne hi _ _).trans hj⟩
    · rw [Function.update_of_ne he]
      refine ⟨w, hwritten, hw.imp id ?_⟩
      rintro ⟨j, hj⟩
      have hi : j ≠ i := by
        rintro rfl
        rw [htask, Task.writing.injEq] at hj
        exact he hj.1.symm
      exact ⟨j, (Function.update_of_ne hi _ _).trans hj⟩

omit [DecidableEq κ] in
/-- Removing a name. -/
theorem Coherent.remove (h : Coherent places tasks store) (e : ε) :
    Coherent (Function.update places e (places e).removed) tasks (Function.update store e none) := by
  have hmade : ∀ e', (Function.update places e (places e).removed e').made = (places e').made := by
    intro e'
    by_cases he : e' = e
    · subst he
      rw [Function.update_self]
      rfl
    · rw [Function.update_of_ne he]
  have hlinked : ∀ e' n, (Function.update places e (places e).removed e').linked = some n →
      e' ≠ e ∧ (places e').linked = some n := by
    intro e' n hn
    by_cases he : e' = e
    · subst he
      rw [Function.update_self] at hn
      cases hn
    · rw [Function.update_of_ne he] at hn
      exact ⟨he, hn⟩
  refine ⟨fun e' => ?_, fun e' n hn => ?_, fun j e' n data done hj => ?_, fun j e' n data done hj hn => ?_,
    fun e' n data hn hstore => ?_⟩
  · by_cases he : e' = e
    · subst he
      simp [Place.removed]
    · simpa [Function.update_of_ne he] using h.linked e'
  · rw [hmade]
    exact h.fresh e' n (hlinked e' n hn).2
  · rw [hmade]
    exact h.held j e' n data done hj
  · obtain ⟨he, hn⟩ := hlinked e' n hn
    rw [Function.update_of_ne he]
    exact h.carried j e' n data done hj hn
  · obtain ⟨he, hn⟩ := hlinked e' n hn
    rw [Function.update_of_ne he] at hstore ⊢
    exact h.standing e' n data hn hstore

/-- **A step keeps the names coherent with the store.** -/
theorem coherent_step (start : ε → Option (List UInt8)) {s : Workers ε κ} (op : κ × FileCall ε)
    (h : Coherent s.places s.tasks store) (hagrees : s.Agrees op) :
    Coherent ((fileThreads κ start).step s op).1.places ((fileThreads κ start).step s op).1.tasks
      ((nameStore start).execFrom store (s.commits op)) := by
  obtain ⟨i, call⟩ := op
  obtain ⟨r, hran, hstep⟩ := fileThreads_step start s (i, call)
  obtain ⟨task, htask⟩ : ∃ task, s.tasks i = task := ⟨_, rfl⟩
  have hcommits : s.commits (i, call) = call.commits task := congrArg (fun t => call.commits t) htask
  have hidle : ∀ {task' : Task ε} {e n data done}, task = task' →
      (∀ e n data done, task' ≠ .writing e n data done) → s.tasks i = .writing e n data done →
        data.length ≤ done := by
    intro task' e n data done htask' hnot hwriting
    exact absurd (htask'.symm.trans (htask.symm.trans hwriting)) (hnot e n data done)
  rw [hstep, hcommits]
  simp only [htask] at hran
  cases hran with
  | openWrite e data =>
    refine h.openWrite htask fun j n data' done hj hn => ?_
    unfold Workers.Agrees at hagrees
    simp only [htask] at hagrees
    exact hagrees j n data' done hj hn
  | write e n data done k => exact h.write htask k
  | closeWrite hdone =>
    refine h.tasks_only i (fun _ _ _ _ => by simp) fun e n data done hwriting => ?_
    rw [htask] at hwriting
    cases hwriting
    exact hdone
  | failWrite =>
    unfold Workers.Agrees at hagrees
    simp only [htask] at hagrees
  | openRead hn => exact h.tasks_only i (fun _ _ _ _ => by simp) fun _ _ _ _ => hidle rfl (by simp)
  | missing hn => exact h.tasks_only i (fun _ _ _ _ => by simp) fun _ _ _ _ => hidle rfl (by simp)
  | read hmore => exact h.tasks_only i (fun _ _ _ _ => by simp) fun _ _ _ _ => hidle rfl (by simp)
  | readEnd hend => exact h.tasks_only i (fun _ _ _ _ => by simp) fun _ _ _ _ => hidle rfl (by simp)
  | failRead => exact h.tasks_only i (fun _ _ _ _ => by simp) fun _ _ _ _ => hidle rfl (by simp)
  | remove e =>
    have hsame : Function.update s.tasks i .idle = s.tasks := by rw [← htask, Function.update_eq_self]
    simp only [hsame]
    exact h.remove e
  | skip hnone =>
    have hsame : Function.update s.tasks i task = s.tasks := by rw [← htask, Function.update_eq_self]
    simp only [hsame, hnone]
    exact h

omit [DecidableEq ε] [DecidableEq κ] in
theorem coherent_start (store : ε → Option (List UInt8)) :
    Coherent (fun e => .start (store e)) (fun _ : κ => .idle) store where
  linked e := by simp [Place.start]
  fresh e n hn := by
    obtain ⟨-, -, rfl⟩ := Option.map_eq_some_iff.mp hn
    exact Nat.one_pos
  held i e n data done hi := by cases hi
  carried i e n data done hi := by cases hi
  standing e n data _ hstore := by
    have hcontents : (Place.start (store e)).contents n = data := by rw [hstore]; rfl
    rw [hcontents]
    exact ⟨data.length, ⟨Nat.le_refl _, Nat.le_refl _, fun _ _ => rfl⟩, Or.inl rfl⟩

/-- **In every interleaving the names stay coherent with the store**, if writers of one file agree. -/
theorem coherent_run (start : ε → Option (List UInt8)) (ops : List (κ × FileCall ε))
    (hagrees : EveryStep (fun pre op => ((fileThreads κ start).exec pre).Agrees op) ops) :
    Coherent ((fileThreads κ start).exec ops).places ((fileThreads κ start).exec ops).tasks
      ((nameStore start).exec ((fileThreads κ start).notes Workers.commits ops)) := by
  induction ops using List.reverseRecOn with
  | nil => exact coherent_start start
  | append_singleton ops op ih =>
    obtain ⟨hpre, hop⟩ := everyStep_snoc.mp hagrees
    have hstep := coherent_step start op (ih hpre) hop
    have hcalls : ∀ calls calls', (nameStore start).exec (calls ++ calls') =
        (nameStore start).execFrom ((nameStore start).exec calls) calls' :=
      (nameStore start).execFrom_append (nameStore start).init
    rw [Machine.exec_snoc, Machine.notes_snoc, hcalls]
    exact hstep

/-- What a writer writes it opened its file with. -/
theorem writing_from (start : ε → Option (List UInt8)) {ops : List (κ × FileCall ε)} {i : κ} {e : ε} {n done : ℕ}
    {data : List UInt8} (h : ((fileThreads κ start).exec ops).tasks i = .writing e n data done) :
    ∃ j, (j, .openWrite e data) ∈ ops := by
  have hborn := (fileThreads κ start).provenance (x := (e, data))
    (H := fun s (x : ε × List UInt8) => ∃ i n done, s.tasks i = .writing x.1 n x.2 done)
    (B := fun _ op x => op.2 = .openWrite x.1 x.2) ?_ ops ⟨i, n, done, h⟩
  · rcases hborn with ⟨j, m, done', hinit⟩ | ⟨pre, op, post, rfl, hop⟩
    · cases hinit
    · refine ⟨op.1, List.mem_append_right _ ?_⟩
      rw [← hop]
      exact List.mem_cons_self
  · rintro pre ⟨j, call⟩ ⟨e, data⟩ ⟨i, n, done, hi⟩
    obtain ⟨s, hs⟩ : ∃ s, (fileThreads κ start).exec pre = s := ⟨_, rfl⟩
    rw [hs] at hi ⊢
    obtain ⟨r, hran, hstep⟩ := fileThreads_step start s (j, call)
    obtain ⟨task, htask⟩ : ∃ task, s.tasks j = task := ⟨_, rfl⟩
    rw [hstep] at hi
    replace hi : Function.update s.tasks j r.2.1 i = .writing e n data done := hi
    by_cases hij : i = j
    · subst hij
      rw [Function.update_self] at hi
      simp only [htask] at hran
      cases hran with
      | openWrite => cases hi; exact Or.inr rfl
      | write => cases hi; exact Or.inl ⟨i, _, _, htask⟩
      | skip => exact Or.inl ⟨i, n, done, htask.trans hi⟩
      | _ => cases hi
    · rw [Function.update_of_ne hij] at hi
      exact Or.inl ⟨i, n, done, hi⟩

/-- Threads that write under every name the same data, and do not fail to, agree. -/
theorem agrees_run (start : ε → Option (List UInt8)) {ops : List (κ × FileCall ε)} (content : ε → List UInt8)
    (hputs : ∀ i e data, (i, .openWrite e data) ∈ ops → data = content e) (hfails : ∀ i, (i, .failWrite) ∉ ops) :
    EveryStep (fun pre op => ((fileThreads κ start).exec pre).Agrees op) ops := by
  rintro pre ⟨i, call⟩ post rfl
  show ((fileThreads κ start).exec pre).Agrees (i, call)
  unfold Workers.Agrees
  split
  · next e data _ hcall =>
    intro j n data' done hj _
    obtain ⟨j', hopened⟩ := writing_from start hj
    have hcall : call = .openWrite e data := hcall
    rw [hputs j' e data' (List.mem_append_left _ hopened),
      hputs i e data (List.mem_append_right _ (by rw [hcall]; exact List.mem_cons_self))]
  · next hcall =>
    have hcall : call = .failWrite := hcall
    exact hfails i (List.mem_append_right _ (by rw [hcall]; exact List.mem_cons_self))
  · trivial

/-! ## Files that no one writes to -/

/-- No thread has the file open for writing. -/
def Workers.Unwritten (s : Workers ε κ) (e : ε) (n : ℕ) : Prop :=
  ∀ i data done, s.tasks i ≠ .writing e n data done

omit [DecidableEq ε] [DecidableEq κ] in
/-- **What a file holds that no one writes to.** -/
theorem Coherent.read_eq (h : Coherent places tasks store) {e : ε}
    (hquiet : ∀ n, (places e).linked = some n → ∀ i data done, tasks i ≠ .writing e n data done) :
    (places e).read = store e := by
  cases hlinked : (places e).linked with
  | none =>
    have hnone : store e = none := by
      have hsame := h.linked e
      rw [hlinked] at hsame
      exact Option.isNone_iff_eq_none.mp (by rw [← Option.not_isSome, ← hsame]; rfl)
    rw [Place.read, hlinked, hnone, Option.map_none]
  | some n =>
    obtain ⟨data, hstore⟩ : ∃ data, store e = some data :=
      Option.isSome_iff_exists.mp (by rw [← h.linked e, hlinked]; rfl)
    obtain ⟨w, hwritten, hw⟩ := h.standing e n data hlinked hstore
    rcases hw with rfl | ⟨i, hi⟩
    · rw [Place.read, hlinked, hstore, Option.map_some, hwritten.eq]
    · exact absurd hi (hquiet n hlinked i data w)

/-- A step of a thread that writes to another file, before and after it, keeps the file's bytes. -/
theorem contents_step (start : ε → Option (List UInt8)) {s : Workers ε κ} (op : κ × FileCall ε) {e : ε} {n : ℕ}
    (hquiet : ∀ data done, s.tasks op.1 ≠ .writing e n data done)
    (hquiet' : ∀ data done, ((fileThreads κ start).step s op).1.tasks op.1 ≠ .writing e n data done) :
    (((fileThreads κ start).step s op).1.places e).contents n = (s.places e).contents n := by
  obtain ⟨i, call⟩ := op
  obtain ⟨r, hran, hstep⟩ := fileThreads_step start s (i, call)
  obtain ⟨task, htask⟩ : ∃ task, s.tasks i = task := ⟨_, rfl⟩
  rw [hstep] at hquiet' ⊢
  simp only [htask] at hran
  cases hran with
  | openWrite e' data =>
    show (Function.update s.places e' _ e).contents n = _
    by_cases he : e = e'
    · subst he
      have hn : n ≠ (s.places e).target := by
        rintro rfl
        exact hquiet' data 0 (Function.update_self _ _ _)
      rw [Function.update_self]
      exact Function.update_of_ne hn _ _
    · rw [Function.update_of_ne he]
  | write e' m data done k =>
    show (Function.update s.places e' _ e).contents n = _
    by_cases he : e = e'
    · subst he
      have hn : n ≠ m := by
        rintro rfl
        exact hquiet data done htask
      rw [Function.update_self]
      exact Place.written_other _ hn _ _
    · rw [Function.update_of_ne he]
  | remove e' =>
    show (Function.update s.places e' _ e).contents n = _
    by_cases he : e = e'
    · subst he
      rw [Function.update_self]
      rfl
    · rw [Function.update_of_ne he]
  | _ => rfl

/-- A file that no one writes to for a while. -/
theorem contents_run (start : ε → Option (List UInt8)) {pre mid : List (κ × FileCall ε)} {e : ε} {n : ℕ}
    (hquiet : ∀ mid', mid' <+: mid → ((fileThreads κ start).exec (pre ++ mid')).Unwritten e n) :
    (((fileThreads κ start).exec (pre ++ mid)).places e).contents n =
      (((fileThreads κ start).exec pre).places e).contents n := by
  induction mid using List.reverseRecOn with
  | nil => rw [List.append_nil]
  | append_singleton mid op ih =>
    have hbefore := hquiet mid (List.prefix_append _ _)
    have hafter := hquiet (mid ++ [op]) List.prefix_rfl
    rw [← List.append_assoc, Machine.exec_snoc] at hafter ⊢
    rw [contents_step start op (hbefore op.1) (hafter op.1)]
    exact ih fun mid' hmid => hquiet mid' (hmid.trans (List.prefix_append _ _))

/-- A reader of a file has read its beginning. -/
structure ReadsFrom (s : Workers ε κ) (i : κ) (e : ε) (n : ℕ) (d : List UInt8) : Prop where
  contents : (s.places e).contents n = d
  got : ∀ got, s.tasks i = .reading e n got → got <+: d

/-- A step while no one writes. -/
theorem ReadsFrom.step (start : ε → Option (List UInt8)) {s : Workers ε κ} {i : κ} {e : ε} {n : ℕ}
    {d : List UInt8} (h : ReadsFrom s i e n d) (op : κ × FileCall ε) (hquiet : s.Unwritten e n)
    (hquiet' : ((fileThreads κ start).step s op).1.Unwritten e n) :
    ReadsFrom ((fileThreads κ start).step s op).1 i e n d := by
  refine ⟨(contents_step start op (hquiet op.1) (hquiet' op.1)).trans h.contents, fun got hgot => ?_⟩
  obtain ⟨j, call⟩ := op
  obtain ⟨r, hran, hstep⟩ := fileThreads_step start s (j, call)
  rw [hstep] at hgot
  have hgot : Function.update s.tasks j r.2.1 i = .reading e n got := hgot
  by_cases hi : i = j
  · subst hi
    have hnew : r.2.1 = .reading e n got := (Function.update_self i r.2.1 s.tasks).symm.trans hgot
    obtain ⟨task, htask⟩ : ∃ task, s.tasks i = task := ⟨_, rfl⟩
    simp only [htask] at hran
    cases hran with
    | openRead hn =>
      cases hnew
      exact List.nil_prefix
    | @read e' n' got' k hmore =>
      cases hnew
      have hprefix : got' <+: d := h.got got' htask
      rw [h.contents, nextPiece]
      obtain ⟨rest, rfl⟩ := hprefix
      rw [List.drop_left]
      exact (List.prefix_append_right_inj _).mpr (List.take_prefix _ _)
    | skip hnone => exact h.got got (htask.trans hnew)
    | _ => cases hnew
  · rw [Function.update_of_ne hi] at hgot
    exact h.got got hgot

/-- **A reader whose file no one writes to gets all of it**: from before it opens the file until it sees the
end, in any interleaving. -/
theorem fetched_quiet (start : ε → Option (List UInt8)) {pre mid : List (κ × FileCall ε)} {i : κ} {e : ε} {n k : ℕ}
    {d data got : List UInt8} (hidle : ((fileThreads κ start).exec pre).tasks i = .idle)
    (hcontents : (((fileThreads κ start).exec pre).places e).contents n = d)
    (hquiet : ∀ mid', mid' <+: mid → ((fileThreads κ start).exec (pre ++ mid')).Unwritten e n)
    (hreading : ((fileThreads κ start).exec (pre ++ mid)).tasks i = .reading e n got)
    (hanswer : (fileThreads κ start).answer (pre ++ mid) (i, .read k) = .fetched (some data)) : data = d := by
  have hreads : ReadsFrom ((fileThreads κ start).exec (pre ++ mid)) i e n d := by
    clear hreading hanswer
    induction mid using List.reverseRecOn with
    | nil =>
      rw [List.append_nil]
      refine ⟨hcontents, fun got hgot => ?_⟩
      rw [hidle] at hgot
      cases hgot
    | append_singleton mid op ih =>
      have hbefore := ih fun mid' hmid => hquiet mid' (hmid.trans (List.prefix_append _ _))
      have hafter := hquiet (mid ++ [op]) List.prefix_rfl
      rw [← List.append_assoc, Machine.exec_snoc] at hafter ⊢
      exact hbefore.step start op (hquiet mid (List.prefix_append _ _)) hafter
  obtain ⟨s, hs⟩ : ∃ s, (fileThreads κ start).exec (pre ++ mid) = s := ⟨_, rfl⟩
  rw [hs] at hreads hreading
  have hanswer : ((fileThreads κ start).step s (i, .read k)).2 = .fetched (some data) := by
    rw [← hs]
    exact hanswer
  obtain ⟨r, hran, hstep⟩ := fileThreads_step start s (i, .read k)
  rw [hstep] at hanswer
  simp only [hreading] at hran
  cases hran with
  | read hmore => cases hanswer
  | readEnd hend =>
    cases hanswer
    obtain ⟨rest, rfl⟩ := hreads.got data hreading
    rw [hreads.contents, nextPiece_eq_nil, List.length_append] at hend
    rw [List.eq_nil_of_length_eq_zero (by omega : rest.length = 0), List.append_nil]
  | skip => cases hanswer

/-- What a reader is given is what it has read of one file. -/
theorem fetched_reading (start : ε → Option (List UInt8)) {pre : List (κ × FileCall ε)} {op : κ × FileCall ε}
    {data : List UInt8} (h : (fileThreads κ start).answer pre op = .fetched (some data)) :
    ∃ e n, ((fileThreads κ start).exec pre).tasks op.1 = .reading e n data := by
  obtain ⟨i, call⟩ := op
  obtain ⟨s, hs⟩ : ∃ s, (fileThreads κ start).exec pre = s := ⟨_, rfl⟩
  have h : ((fileThreads κ start).step s (i, call)).2 = .fetched (some data) := by
    rw [← hs]
    exact h
  rw [hs]
  obtain ⟨r, hran, hstep⟩ := fileThreads_step start s (i, call)
  rw [hstep] at h
  obtain ⟨task, htask⟩ : ∃ task, s.tasks i = task := ⟨_, rfl⟩
  simp only [htask] at hran
  cases hran with
  | @readEnd e n got k hend =>
    cases h
    exact ⟨e, n, htask⟩
  | _ => cases h

/-- A thread that does nothing but read: it reads the file, or is through with it. -/
def Workers.Reading (s : Workers ε κ) (i : κ) (e : ε) (n : ℕ) : Prop :=
  s.tasks i = .idle ∨ ∃ got, s.tasks i = .reading e n got

/-- It stays with its file. -/
theorem reading_step (start : ε → Option (List UInt8)) {s : Workers ε κ} {i : κ} {e : ε} {n : ℕ}
    (h : s.Reading i e n) {op : κ × FileCall ε} (hop : op.1 = i → ∃ k, op.2 = .read k) :
    ((fileThreads κ start).step s op).1.Reading i e n := by
  obtain ⟨j, call⟩ := op
  obtain ⟨r, hran, hstep⟩ := fileThreads_step start s (j, call)
  rw [hstep]
  show Function.update s.tasks j r.2.1 i = .idle ∨ ∃ got, Function.update s.tasks j r.2.1 i = .reading e n got
  by_cases hi : i = j
  · subst hi
    obtain ⟨k, rfl⟩ : ∃ k, call = .read k := hop rfl
    rw [Function.update_self]
    rcases h with hidle | ⟨got, hgot⟩
    · simp only [hidle] at hran
      cases hran with
      | skip hnone => exact Or.inl rfl
    · simp only [hgot] at hran
      cases hran with
      | read hmore => exact Or.inr ⟨_, rfl⟩
      | readEnd hend => exact Or.inl rfl
      | skip hnone => exact Or.inr ⟨_, rfl⟩
  · rw [Function.update_of_ne hi]
    exact h

/-- A thread without a file stays so. -/
theorem idle_step (start : ε → Option (List UInt8)) {s : Workers ε κ} {i : κ} (h : s.tasks i = .idle)
    {op : κ × FileCall ε} (hop : op.1 = i → ∃ k, op.2 = .read k) :
    ((fileThreads κ start).step s op).1.tasks i = .idle := by
  obtain ⟨j, call⟩ := op
  obtain ⟨r, hran, hstep⟩ := fileThreads_step start s (j, call)
  rw [hstep]
  show Function.update s.tasks j r.2.1 i = .idle
  by_cases hi : i = j
  · subst hi
    obtain ⟨k, rfl⟩ : ∃ k, call = .read k := hop rfl
    rw [Function.update_self]
    simp only [h] at hran
    cases hran with
    | skip hnone => rfl
  · rw [Function.update_of_ne hi]
    exact h

/-- **Whose bytes a reader is given**: a thread that opens `e` and then only reads is given what it has read of
the file that `e` had when it opened it. -/
theorem fetched_from (start : ε → Option (List UInt8)) {pre mid : List (κ × FileCall ε)} {i : κ} {e : ε} {k : ℕ}
    {data : List UInt8} (hidle : ((fileThreads κ start).exec pre).tasks i = .idle)
    (hreads : ∀ op ∈ mid, op.1 = i → ∃ k, op.2 = .read k)
    (hanswer : (fileThreads κ start).answer (pre ++ (i, .openRead e) :: mid) (i, .read k) = .fetched (some data)) :
    ∃ n, (((fileThreads κ start).exec pre).places e).linked = some n ∧
      ((fileThreads κ start).exec (pre ++ (i, .openRead e) :: mid)).tasks i = .reading e n data := by
  obtain ⟨e', n', hreading⟩ := fetched_reading start hanswer
  have hsplit : pre ++ (i, .openRead e) :: mid = (pre ++ [(i, .openRead e)]) ++ mid := by simp
  rw [hsplit] at hreading ⊢
  obtain ⟨s, hs⟩ : ∃ s, (fileThreads κ start).exec pre = s := ⟨_, rfl⟩
  rw [hs] at hidle ⊢
  have hopened : ((fileThreads κ start).exec (pre ++ [(i, .openRead e)])).tasks i =
      (FileCall.run s.places .idle (.openRead e)).2.1 := by
    rw [Machine.exec_snoc, hs]
    show Function.update s.tasks i (FileCall.run s.places (s.tasks i) (.openRead e)).2.1 i = _
    rw [Function.update_self, hidle]
  cases hlinked : (s.places e).linked with
  | none =>
    -- the name has no file: the thread is idle, and stays so
    have hgone : ((fileThreads κ start).exec (pre ++ [(i, .openRead e)])).tasks i = .idle := by
      rw [hopened]
      simp only [FileCall.run, hlinked]
    have hstill := (fileThreads κ start).persists (I := fun s => s.tasks i = .idle)
      (C := fun op => op.1 = i → ∃ k, op.2 = .read k) (fun _ _ h hop => idle_step start h hop) hgone hreads
    rw [hreading] at hstill
    cases hstill
  | some n =>
    have hbegun : ((fileThreads κ start).exec (pre ++ [(i, .openRead e)])).Reading i e n := by
      refine Or.inr ⟨[], ?_⟩
      rw [hopened]
      simp only [FileCall.run, hlinked]
    have hstill := (fileThreads κ start).persists (I := fun s => s.Reading i e n)
      (C := fun op => op.1 = i → ∃ k, op.2 = .read k) (fun _ _ h hop => reading_step start h hop) hbegun hreads
    refine ⟨n, rfl, ?_⟩
    rcases hstill with hnone | ⟨got, hgot⟩
    · rw [hreading] at hnone
      cases hnone
    · rw [hreading] at hgot
      cases hgot
      exact hreading

/-! ## A writer whose file no one else writes to -/

/-- The thread writes `data` to the file `n` of `e`, and what it has written is in place. -/
def Workers.Writes (s : Workers ε κ) (i : κ) (e : ε) (n : ℕ) (data : List UInt8) : Prop :=
  ∃ done, s.tasks i = .writing e n data done ∧ Written ((s.places e).contents n) data done

/-- No other thread has the file open for writing. -/
def Workers.Alone (s : Workers ε κ) (i : κ) (e : ε) (n : ℕ) : Prop :=
  ∀ j, j ≠ i → ∀ data done, s.tasks j ≠ .writing e n data done

/-- A step while no one else writes. -/
theorem writes_step (start : ε → Option (List UInt8)) {s : Workers ε κ} {i : κ} {e : ε} {n : ℕ} {data : List UInt8}
    (h : s.Writes i e n data) {op : κ × FileCall ε} (hop : op.1 = i → ∃ k, op.2 = .write k)
    (halone : s.Alone i e n) (halone' : ((fileThreads κ start).step s op).1.Alone i e n) :
    ((fileThreads κ start).step s op).1.Writes i e n data := by
  obtain ⟨done, htask, hwritten⟩ := h
  by_cases hi : op.1 = i
  · obtain ⟨k, hk⟩ := hop hi
    obtain ⟨j, call⟩ := op
    obtain rfl : j = i := hi
    obtain rfl : call = .write k := hk
    have hrun : FileCall.run s.places (s.tasks j) (.write k) =
        (some (e, (s.places e).written n done (nextPiece data done k)),
          .writing e n data (done + (nextPiece data done k).length), .pending) := by rw [htask]; rfl
    have hstep : ((fileThreads κ start).step s (j, .write k)).1 =
        ⟨Function.update s.places e ((s.places e).written n done (nextPiece data done k)),
          Function.update s.tasks j (.writing e n data (done + (nextPiece data done k).length))⟩ := by
      show Workers.mk _ _ = _
      rw [hrun]
      rfl
    rw [hstep]
    refine ⟨_, Function.update_self _ _ _, ?_⟩
    show Written ((Function.update s.places e _ e).contents n) _ _
    rw [Function.update_self, Place.written_same]
    exact hwritten.write k (Or.inr ⟨rfl, rfl⟩) hwritten.inside
  · refine ⟨done, ?_, ?_⟩
    · exact (Function.update_of_ne (Ne.symm hi) _ _).trans htask
    · rw [contents_step start op (halone op.1 hi) (halone' op.1 hi)]
      exact hwritten

/-- **A writer whose file no one else writes to** leaves its data there, whatever the file held: from when it
opens the file until it has closed it, in any interleaving. -/
theorem stored_alone (start : ε → Option (List UInt8)) {pre mid : List (κ × FileCall ε)} {i : κ} {e : ε}
    {data : List UInt8} (hidle : ((fileThreads κ start).exec pre).tasks i = .idle)
    (hwrites : ∀ op ∈ mid, op.1 = i → ∃ k, op.2 = .write k)
    (halone : ∀ mid', mid' <+: mid → ((fileThreads κ start).exec (pre ++ (i, .openWrite e data) :: mid')).Alone i e
      (((fileThreads κ start).exec pre).places e).target)
    (hanswer : (fileThreads κ start).answer (pre ++ (i, .openWrite e data) :: mid) (i, .closeWrite) =
      .stored true) :
    (((fileThreads κ start).exec (pre ++ (i, .openWrite e data) :: mid ++ [(i, .closeWrite)])).places e).contents
      (((fileThreads κ start).exec pre).places e).target = data := by
  obtain ⟨n, hn⟩ : ∃ n, (((fileThreads κ start).exec pre).places e).target = n := ⟨_, rfl⟩
  rw [hn] at halone ⊢
  have hheld : ((fileThreads κ start).exec (pre ++ (i, .openWrite e data) :: mid)).Writes i e n data := by
    clear hanswer
    induction mid using List.reverseRecOn with
    | nil =>
      rw [Machine.exec_snoc]
      obtain ⟨s, hs⟩ : ∃ s, (fileThreads κ start).exec pre = s := ⟨_, rfl⟩
      rw [hs] at hidle hn ⊢
      have hrun : FileCall.run s.places (s.tasks i) (.openWrite e data) =
          (some (e, (s.places e).opened), .writing e (s.places e).target data 0, .pending) := by rw [hidle]; rfl
      refine ⟨0, ?_, ?_⟩
      · show Function.update s.tasks i (FileCall.run s.places (s.tasks i) (.openWrite e data)).2.1 i = _
        rw [hrun, Function.update_self, hn]
      · have hplaces : ((fileThreads κ start).step s (i, .openWrite e data)).1.places =
            Function.update s.places e (s.places e).opened := by
          show (FileCall.run s.places (s.tasks i) (.openWrite e data)).1.elim _ _ = _
          rw [hrun]
          rfl
        rw [hplaces, Function.update_self, ← hn, Place.opened_target]
        exact written_nil data
    | append_singleton mid op ih =>
      have hbefore := ih (fun op' hop' => hwrites op' (List.mem_append_left _ hop')) fun mid' hmid =>
        halone mid' (hmid.trans (List.prefix_append _ _))
      have hafter := halone (mid ++ [op]) List.prefix_rfl
      rw [← List.cons_append, ← List.append_assoc, Machine.exec_snoc] at hafter ⊢
      exact writes_step start hbefore (hwrites op (by simp)) (halone mid (List.prefix_append _ _)) hafter
  obtain ⟨done, htask, hwritten⟩ := hheld
  rw [Machine.exec_snoc]
  obtain ⟨s, hs⟩ : ∃ s, (fileThreads κ start).exec (pre ++ (i, .openWrite e data) :: mid) = s := ⟨_, rfl⟩
  rw [hs] at htask hwritten ⊢
  have hanswer : ((fileThreads κ start).step s (i, .closeWrite)).2 = .stored true := by
    rw [← hs]
    exact hanswer
  obtain ⟨r, hran, hstep⟩ := fileThreads_step start s (i, .closeWrite)
  rw [hstep] at hanswer ⊢
  simp only [htask] at hran
  cases hran with
  | closeWrite hall =>
    have hdone : done = data.length := Nat.le_antisymm hwritten.inside hall
    rw [hdone] at hwritten
    exact hwritten.eq
  | skip => cases hanswer

/-! ## Where bytes come from -/

/-- The data has the byte `v` at the place `p`, or reaches beyond `p` and `v` is the zero of a gap before
it. -/
def Supplies (data : List UInt8) (p : ℕ) (v : UInt8) : Prop :=
  data[p]? = some v ∨ v = 0 ∧ p < data.length

/-- Every byte comes from one of `puts`. -/
def Sourced (puts : List (List UInt8)) (buf : List UInt8) : Prop :=
  ∀ (p : ℕ) (v : UInt8), buf[p]? = some v → ∃ data ∈ puts, Supplies data p v

theorem Sourced.mono {puts puts' : List (List UInt8)} {buf : List UInt8} (h : Sourced puts buf)
    (hsub : ∀ data ∈ puts, data ∈ puts') : Sourced puts' buf := by
  intro p v hv
  obtain ⟨data, hdata, hd⟩ := h p v hv
  exact ⟨data, hsub data hdata, hd⟩

theorem sourced_nil (puts : List (List UInt8)) : Sourced puts [] := by
  intro p v hv
  simp at hv

theorem sourced_self {puts : List (List UInt8)} {data : List UInt8} (h : data ∈ puts) : Sourced puts data :=
  fun _ _ hv => ⟨data, h, Or.inl hv⟩

/-- A piece that is written. -/
theorem Sourced.write {puts : List (List UInt8)} {buf data : List UInt8} (h : Sourced puts buf) (hdata : data ∈ puts)
    (done k : ℕ) : Sourced puts (writeAt buf done (nextPiece data done k)) := by
  by_cases hnil : nextPiece data done k = []
  · rw [hnil, writeAt_nil]
    exact h
  · intro p v hv
    rw [getElem?_writeAt done hnil] at hv
    split_ifs at hv with hbefore hc hinside
    · exact h p v hv
    · have hmore : ¬ data.length ≤ done := fun hend => hnil (nextPiece_eq_nil.mpr hend)
      exact ⟨data, hdata, Or.inr ⟨(Option.some.inj hv).symm, by omega⟩⟩
    · rw [getElem?_nextPiece (Nat.le_of_not_lt hbefore) hinside] at hv
      exact ⟨data, hdata, Or.inl hv⟩
    · exact h p v hv

/-- A piece that is read. -/
theorem Sourced.read {puts : List (List UInt8)} {buf got : List UInt8} (hc : Sourced puts buf) (h : Sourced puts got)
    (k : ℕ) : Sourced puts (got ++ nextPiece buf got.length k) := by
  intro p v hv
  by_cases hp : p < got.length
  · rw [List.getElem?_append_left hp] at hv
    exact h p v hv
  · have hle : got.length ≤ p := Nat.le_of_not_lt hp
    rw [List.getElem?_append_right hle] at hv
    have hlt : p < got.length + (nextPiece buf got.length k).length := by
      have hin := (List.getElem?_eq_some_iff.mp hv).1
      omega
    rw [getElem?_nextPiece hle hlt] at hv
    exact hc p v hv

/-- What was put under a name, with what it held at the start. -/
def putsOf (store : ε → Option (List UInt8)) (e : ε) (calls : List (StoreCall ε)) : List (List UInt8) :=
  (store e).toList ++ calls.filterMap fun
    | .put e' data => if e' = e then some data else none
    | .remove _ => none

theorem mem_putsOf_snoc {start : ε → Option (List UInt8)} {e : ε} {calls calls' : List (StoreCall ε)}
    {data : List UInt8} (h : data ∈ putsOf start e calls ∨ .put e data ∈ calls') :
    data ∈ putsOf start e (calls ++ calls') := by
  rw [putsOf, List.filterMap_append, ← List.append_assoc]
  rcases h with hold | hnew
  · exact List.mem_append_left _ hold
  · exact List.mem_append_right _ (List.mem_filterMap.mpr ⟨_, hnew, if_pos rfl⟩)

/-- All bytes of the files and of the readers have a source. -/
structure AllSourced (places : ε → Place) (tasks : κ → Task ε) (known : ε → List (List UInt8)) : Prop where
  files : ∀ e n, Sourced (known e) ((places e).contents n)
  writers : ∀ i e n data done, tasks i = .writing e n data done → data ∈ known e
  readers : ∀ i e n got, tasks i = .reading e n got → Sourced (known e) got

omit [DecidableEq κ] in
/-- Files whose bytes have a source after one name has changed. -/
theorem AllSourced.place {known : ε → List (List UInt8)} (h : AllSourced places tasks known) {e : ε} {pl : Place}
    (hpl : ∀ n, Sourced (known e) (pl.contents n)) : AllSourced (Function.update places e pl) tasks known := by
  refine ⟨fun e' n => ?_, h.writers, h.readers⟩
  by_cases he : e' = e
  · subst he
    rw [Function.update_self]
    exact hpl n
  · rw [Function.update_of_ne he]
    exact h.files e' n

omit [DecidableEq ε] in
/-- A thread's new task. -/
theorem AllSourced.task {known : ε → List (List UInt8)} (h : AllSourced places tasks known) (i : κ) {task : Task ε}
    (hwrites : ∀ e n data done, task = .writing e n data done → data ∈ known e)
    (hreads : ∀ e n got, task = .reading e n got → Sourced (known e) got) :
    AllSourced places (Function.update tasks i task) known := by
  refine ⟨h.files, fun j e n data done hj => ?_, fun j e n got hj => ?_⟩
  · by_cases hi : j = i
    · subst hi
      rw [Function.update_self] at hj
      exact hwrites e n data done hj
    · rw [Function.update_of_ne hi] at hj
      exact h.writers j e n data done hj
  · by_cases hi : j = i
    · subst hi
      rw [Function.update_self] at hj
      exact hreads e n got hj
    · rw [Function.update_of_ne hi] at hj
      exact h.readers j e n got hj

/-- **A step makes up no byte.** -/
theorem sourced_step (start : ε → Option (List UInt8)) {s : Workers ε κ} (op : κ × FileCall ε)
    {known : ε → List (List UInt8)} (h : AllSourced s.places s.tasks known)
    (hputs : ∀ e data, .put e data ∈ s.commits op → data ∈ known e) :
    AllSourced ((fileThreads κ start).step s op).1.places ((fileThreads κ start).step s op).1.tasks known := by
  obtain ⟨i, call⟩ := op
  obtain ⟨r, hran, hstep⟩ := fileThreads_step start s (i, call)
  obtain ⟨task, htask⟩ : ∃ task, s.tasks i = task := ⟨_, rfl⟩
  have hputs : ∀ e data, .put e data ∈ call.commits task → data ∈ known e := by
    rw [← htask]
    exact hputs
  rw [hstep]
  simp only [htask] at hran
  cases hran with
  | openWrite e data =>
    have hdata : data ∈ known e := hputs e data (List.mem_singleton.mpr rfl)
    refine AllSourced.place (h.task i (fun e' n data' done hnew => ?_) fun e' n got hnew => ?_) fun n => ?_
    · cases hnew
      exact hdata
    · cases hnew
    · by_cases hn : n = (s.places e).target
      · rw [hn, Place.opened_target]
        exact sourced_nil _
      · have hsame : (s.places e).opened.contents n = (s.places e).contents n := Function.update_of_ne hn _ _
        rw [hsame]
        exact h.files e n
  | write e n data done k =>
    have hdata : data ∈ known e := h.writers i e n data done htask
    refine AllSourced.place (h.task i (fun e' n' data' done' hnew => ?_) fun e' n' got hnew => ?_) fun m => ?_
    · cases hnew
      exact hdata
    · cases hnew
    · by_cases hm : m = n
      · rw [hm, Place.written_same]
        exact (h.files e n).write hdata done k
      · rw [Place.written_other _ hm]
        exact h.files e m
  | openRead hn =>
    refine h.task i (fun e' n' data' done' hnew => ?_) fun e' n' got hnew => ?_
    · cases hnew
    · cases hnew
      exact sourced_nil _
  | @read e n got k hmore =>
    refine h.task i (fun e' n' data' done' hnew => ?_) fun e' n' got' hnew => ?_
    · cases hnew
    · cases hnew
      exact (h.files e n).read (h.readers i e n got htask) k
  | remove e =>
    refine AllSourced.place (h.task i (fun _ _ _ _ hnew => ?_) fun _ _ _ hnew => ?_) fun n => h.files e n
    · cases hnew
    · cases hnew
  | skip hnone =>
    exact h.task i (fun e' n' data' done' hnew => h.writers i e' n' data' done' (htask.trans hnew))
      fun e' n' got hnew => h.readers i e' n' got (htask.trans hnew)
  | _ =>
    refine h.task i (fun _ _ _ _ hnew => ?_) fun _ _ _ hnew => ?_
    · cases hnew
    · cases hnew

/-- **Bytes have sources in every interleaving.** -/
theorem sourced_run (start : ε → Option (List UInt8)) (ops : List (κ × FileCall ε)) :
    AllSourced ((fileThreads κ start).exec ops).places ((fileThreads κ start).exec ops).tasks
      (fun e => putsOf start e ((fileThreads κ start).notes Workers.commits ops)) := by
  induction ops using List.reverseRecOn with
  | nil =>
    refine ⟨fun e n => ?_, fun i e n data done hi => (by cases hi), fun i e n got hi => (by cases hi)⟩
    show Sourced _ ((start e).getD [])
    cases hstart : start e with
    | none => exact sourced_nil _
    | some data => exact sourced_self (List.mem_append_left _ (by rw [hstart]; exact List.mem_singleton.mpr rfl))
  | append_singleton ops op ih =>
    rw [Machine.exec_snoc, Machine.notes_snoc]
    have hmono : ∀ e data, data ∈ putsOf start e ((fileThreads κ start).notes Workers.commits ops) →
        data ∈ putsOf start e ((fileThreads κ start).notes Workers.commits ops ++
          ((fileThreads κ start).exec ops).commits op) := fun e data hdata => mem_putsOf_snoc (Or.inl hdata)
    refine sourced_step start op ⟨fun e n => (ih.files e n).mono (hmono e), fun i e n data done hi =>
      hmono e data (ih.writers i e n data done hi), fun i e n got hi => (ih.readers i e n got hi).mono (hmono e)⟩ ?_
    exact fun e data hput => mem_putsOf_snoc (Or.inr hput)

end Threads

end AwareKV
