import AwareKV.DataService

/-!
# AwareKV.KeyValue — the data service is a two-tier map

What a GET returns after any run of PUTs, GETs and DELETEs, each of them sent as a frame, decoded,
processed on the files and answered with a frame.

* `entry_inj`: object ids that are texts and file names have files of their own.
* `read_exec`: after a run the readers of a tier find what was put last.
* `read_storeAll`: these are the objects that `DataServer.put` and `DataServer.get` keep.
* `get_after_run`: a GET returns what was put last.
-/

namespace AwareKV

/-! ## Object ids -/

/-- An object id that can be a file name. -/
structure PlainId (s : PyStr) : Prop where
  nonempty : s ≠ []
  no_slash : 0x2F ∉ s
  no_nul : 0 ∉ s
  ne_dot : s ≠ [0x2E]
  ne_dotdot : s ≠ [0x2E, 0x2E]

/-- Such an object id without surrogates. -/
structure PlainText (s : PyStr) : Prop extends PlainId s where
  surrogateFree : SurrogateFree s

theorem PlainText.fsencode {s : PyStr} (h : PlainText s) : fsencode s = some (s.flatMap utf8Char) :=
  fsencode_of_surrogateFree h.surrogateFree

/-- ASCII bytes of a file name are characters of the id. -/
theorem ascii_mem {s : PyStr} {c : CodePoint} (hc : c.val < 0x80) (h : UInt8.ofNat c.val ∈ s.flatMap utf8Char) :
    c ∈ s := by
  obtain ⟨d, hd, hmem⟩ := List.mem_flatMap.mp h
  have hbyte : (UInt8.ofNat c.val).toNat = c.val := toNat_byte (by omega)
  have hval : d.val = c.val := (utf8Char_ascii hmem (by omega)).trans hbyte
  rwa [← CodePoint.ext hval]

section Plain

variable {b : LocalDiskBackend} {s s' : PyStr} {tier tier' : DataTier}

/-- The name of a plain id is a proper component. -/
theorem PlainText.proper (h : PlainText s) : IsProper (s.flatMap utf8Char) := by
  have hne : ∀ t : PyStr, SurrogateFree t → s ≠ t → s.flatMap utf8Char ≠ t.flatMap utf8Char := by
    intro t ht hst heq
    refine hst (fsencode_inj h.surrogateFree ht ?_)
    rw [fsencode_of_surrogateFree h.surrogateFree, fsencode_of_surrogateFree ht, heq]
  exact ⟨hne [] (by decide) h.nonempty, hne [0x2E] (by decide) h.ne_dot,
    hne [0x2E, 0x2E] (by decide) h.ne_dotdot⟩

/-- The tier directories hold no directories. -/
def NoSubdirectories (b : LocalDiskBackend) : Prop := ∀ tier n, b.tierLoc tier ++ [n] ∉ b.dirs.locs

/-- The file of a plain id. -/
def entryOf (hb : NoSubdirectories b) (tier : DataTier) (s : PyStr) : b.dirs.Entry :=
  ⟨b.tierLoc tier, s.flatMap utf8Char, b.tierLoc_mem tier, hb tier _⟩

/-- **The path of a plain id is a file of its own** in the tier's directory. -/
theorem target_plain (hb : NoSubdirectories b) (h : PlainText s) (tier : DataTier) :
    b.target tier s = .entry (entryOf hb tier s) := by
  have hslash : 0x2F ∉ s.flatMap utf8Char :=
    fun hmem => h.no_slash (ascii_mem (c := 0x2F) (by decide) hmem)
  have hnul : 0 ∉ s.flatMap utf8Char := fun hmem => h.no_nul (ascii_mem (c := 0) (by decide) hmem)
  have hhead : s.head? ≠ some 0x2F := fun hs => h.no_slash (List.mem_of_mem_head? hs)
  rw [b.target_relative hhead h.fsencode hnul, pathComponents_of_notMem hslash]
  refine Dirs.walk_eq_entry.mpr ⟨rfl, ?_, rfl, h.proper⟩
  simpa [passes] using b.tierLoc_mem tier

theorem entry_inj (hb : NoSubdirectories b) (h : PlainText s) (h' : PlainText s')
    (he : entryOf hb tier s = entryOf hb tier' s') : tier = tier' ∧ s = s' := by
  refine ⟨b.tierLoc_inj (congrArg Dirs.Entry.dir he), fsencode_inj h.surrogateFree h'.surrogateFree ?_⟩
  rw [h.fsencode, h'.fsencode]
  exact congrArg some (congrArg Dirs.Entry.name he)

end Plain

/-! ## What was put last -/

/-- How a request changes what a tier holds under an object id. -/
def putStep (tier : DataTier) (objectId : PyStr) (current : Option Bytes) : DataOp → Option Bytes
  | .put objectId' data tier' _ _ => if tier' = tier ∧ objectId' = objectId then some data else current
  | .get _ _ _ => current
  | .delete objectId' _ _ _ _ _ _ => if objectId' = objectId then none else current

/-- The bytes of the last PUT under the id on the tier that no later DELETE of the id removed. -/
def lastPut (tier : DataTier) (objectId : PyStr) (ops : List DataOp) : Option Bytes :=
  ops.foldl (putStep tier objectId) none

/-- The requests that concern an object id on a tier. -/
def Concerns (tier : DataTier) (objectId : PyStr) : DataOp → Prop
  | .put objectId' _ tier' _ _ => tier' = tier ∧ objectId' = objectId
  | .get _ _ _ => False
  | .delete objectId' _ _ _ _ _ _ => objectId' = objectId

theorem putStep_of_not_concerns {tier : DataTier} {objectId : PyStr} {op : DataOp}
    (h : ¬ Concerns tier objectId op) (current : Option Bytes) : putStep tier objectId current op = current := by
  cases op with
  | put => exact if_neg h
  | get => rfl
  | delete => exact if_neg h

/-- A request whose object id satisfies `P` and whose frame fits. -/
def Sendable (rt : Runtime) (P : PyStr → Prop) (op : DataOp) : Prop :=
  P op.objectId ∧ FrameFits (op.header rt) op.payload

section Requests

variable {rt : Runtime} {b : LocalDiskBackend}

/-! ## What a request does -/

/-- A request changes what its handler changes. -/
theorem exchange_files (op : DataOp) (hfits : FrameFits (op.header rt) op.payload) (files : Files b.dirs) :
    (exchange rt b files (op.header rt) op.payload).1 =
      (DataServer.dispatch rt b {} files (received (op.header rt) op.payload) op.payload).1 := by
  rw [exchange_eq (DataOp.header_flat rt op) hfits, DataServer.processRequest_files]

/-- **What a PUT does to the files.** -/
theorem exchange_put (hb : NoSubdirectories b) {objectId : PyStr} (hid : PlainText objectId) {data : Bytes}
    {tier : DataTier} {codec requestId : PyStr}
    (hfits : FrameFits (DataClient.putHeader rt objectId data tier codec requestId) data)
    (files : Files b.dirs) :
    (exchange rt b files (DataClient.putHeader rt objectId data tier codec requestId) data).1 =
      files.insert (entryOf hb tier objectId) data := by
  have hfiles := exchange_files (.put objectId data tier codec requestId) hfits files
  have hop : (received (DataClient.putHeader rt objectId data tier codec requestId) data).op =
      .str (pyStr (putOp tier)) := joined_pyStr _
  have hobject : (received (DataClient.putHeader rt objectId data tier codec requestId) data).objectId =
      .str objectId := joined_text hid.surrogateFree
  have hchecksum : (received (DataClient.putHeader rt objectId data tier codec requestId) data).checksum =
      .str (computeChecksum rt data) := joined_pyStr _
  have hpass : DataServer.checksumPasses rt
      (received (DataClient.putHeader rt objectId data tier codec requestId) data) data = true := by
    rw [DataServer.checksumPasses, hchecksum]
    simp [Json.eqStr]
  refine hfiles.trans ?_
  simp only [DataOp.header, DataOp.payload, DataServer.dispatch_put rt b {} hop, DataServer.handlePut,
    hpass, if_true, hobject, LocalDiskBackend.put_entry (target_plain hb hid tier)]
  rfl

/-- A GET changes no file. -/
theorem exchange_get {objectId : PyStr} {tier : DataTier} {requestId : PyStr}
    (hfits : FrameFits (DataClient.getHeader objectId tier requestId) []) (files : Files b.dirs) :
    (exchange rt b files (DataClient.getHeader objectId tier requestId) []).1 = files := by
  have hfiles : (exchange rt b files ((DataOp.get objectId tier requestId).header rt) []).1 = _ :=
    exchange_files (.get objectId tier requestId) hfits files
  have hop : (received (DataClient.getHeader objectId tier requestId) []).op =
      .str (pyStr (getOp tier)) := joined_pyStr _
  refine hfiles.trans ?_
  simp only [DataOp.header, DataOp.payload, DataServer.dispatch_get rt b {} hop]

/-- What `delete` makes of the files. -/
def removeFile (files : Files b.dirs) (e : b.dirs.Entry) : Files b.dirs :=
  if files.contains e then files.erase e else files

theorem get?_removeFile (files : Files b.dirs) (e e' : b.dirs.Entry) :
    (removeFile files e).get? e' = if e' = e then none else files.get? e' := by
  unfold removeFile
  split_ifs with hc he he
  · rw [Dict.get?_erase, if_pos he]
  · rw [Dict.get?_erase, if_neg he]
  · rw [he]
    exact Option.not_isSome_iff_eq_none.mp hc
  · rfl

theorem delete_plain (hb : NoSubdirectories b) {s : PyStr} (hs : PlainText s) (files : Files b.dirs)
    (tier : DataTier) :
    ∃ ok, b.delete files {} (.str s) tier = .ok (removeFile files (entryOf hb tier s), ok) := by
  rw [LocalDiskBackend.delete_entry (target_plain hb hs tier), removeFile]
  cases files.contains (entryOf hb tier s) <;> exact ⟨_, rfl⟩

/-- **What a DELETE does to the files.** -/
theorem exchange_delete (hb : NoSubdirectories b) {objectId requestId tier codec checksum : PyStr}
    {deadlineMs : ℤ} {payload : Bytes} (hid : PlainText objectId)
    (hfits : FrameFits ((DataOp.delete objectId requestId tier codec checksum deadlineMs payload).header rt)
      payload) (files : Files b.dirs) :
    (exchange rt b files
        ((DataOp.delete objectId requestId tier codec checksum deadlineMs payload).header rt) payload).1 =
      removeFile (removeFile files (entryOf hb .critical objectId)) (entryOf hb .refinement objectId) := by
  have hfiles := exchange_files (.delete objectId requestId tier codec checksum deadlineMs payload) hfits files
  have hop : (received ((DataOp.delete objectId requestId tier codec checksum deadlineMs payload).header rt)
      payload).op = .str (pyStr "DELETE") := joined_pyStr _
  have hobject : (received ((DataOp.delete objectId requestId tier codec checksum deadlineMs payload).header rt)
      payload).objectId = .str objectId := joined_text hid.surrogateFree
  obtain ⟨ok, hcritical⟩ := delete_plain hb hid files .critical
  obtain ⟨ok', hrefinement⟩ := delete_plain hb hid (removeFile files (entryOf hb .critical objectId)) .refinement
  refine hfiles.trans ?_
  simp only [DataOp.payload, DataServer.dispatch_delete rt b {} hop, DataServer.handleDelete, hobject,
    hcritical, hrefinement]

/-! ## Runs -/

/-- **Step lemma**: a request changes what a tier holds under a plain id as `putStep` says. -/
theorem read_step (hb : NoSubdirectories b) {tier : DataTier} {s : PyStr} (hs : PlainText s) {op : DataOp}
    (hop : Sendable rt PlainText op) (files files' : Files b.dirs) :
    b.read ((dataService rt b files').step files op).1 tier s = putStep tier s (b.read files tier s) op := by
  obtain ⟨hid, hfits⟩ := hop
  have hread := LocalDiskBackend.read_entry (target_plain hb hs tier)
  cases op with
  | put objectId data tier' codec requestId =>
    have hid : PlainText objectId := hid
    show b.read (exchange rt b files _ data).1 tier s = _
    rw [DataOp.header, exchange_put hb hid hfits, hread, hread, Dict.get?_insert, putStep]
    refine if_congr ?_ rfl rfl
    constructor
    · intro he
      obtain ⟨rfl, rfl⟩ := entry_inj hb hs hid he
      exact ⟨rfl, rfl⟩
    · rintro ⟨rfl, rfl⟩
      rfl
  | get objectId tier' requestId =>
    show b.read (exchange rt b files _ []).1 tier s = _
    rw [DataOp.header, exchange_get hfits]
    rfl
  | delete objectId requestId tier' codec checksum deadlineMs payload =>
    have hid : PlainText objectId := hid
    show b.read (exchange rt b files _ payload).1 tier s = _
    rw [exchange_delete hb hid hfits, hread, hread, get?_removeFile, get?_removeFile, putStep]
    by_cases he : objectId = s
    · subst he
      rw [if_pos rfl]
      cases tier <;> simp
    · have hne : ∀ tier', entryOf hb tier s ≠ entryOf hb tier' objectId :=
        fun tier' h => he (entry_inj hb hs hid h).2.symm
      rw [if_neg (hne _), if_neg (hne _), if_neg he]

/-- The tier directories are empty at the start. -/
structure FreshStore (b : LocalDiskBackend) (files : Files b.dirs) : Prop where
  no_directory : NoSubdirectories b
  no_file : ∀ tier e, e.dir = b.tierLoc tier → files.get? e = none

/-- **After a run** the readers of a tier find what was put last. -/
theorem read_exec {files : Files b.dirs} (hfresh : FreshStore b files) {ops : List DataOp}
    (hops : ∀ op ∈ ops, Sendable rt PlainText op) (tier : DataTier) {s : PyStr} (hs : PlainText s) :
    b.read ((dataService rt b files).exec ops) tier s = lastPut tier s ops := by
  induction ops using List.reverseRecOn with
  | nil =>
    rw [LocalDiskBackend.read_entry (target_plain hfresh.no_directory hs tier)]
    exact hfresh.no_file tier _ rfl
  | append_singleton ops op ih =>
    have hpre := ih (fun o ho => hops o (List.mem_append_left _ ho))
    rw [Machine.exec_snoc, read_step hfresh.no_directory hs (hops op (by simp)), hpre, lastPut, lastPut,
      List.foldl_append]
    rfl

/-! ## The objects of a data server -/

/-- A PUT of an object. -/
structure StoredObject where
  tier : DataTier
  objectId : String
  data : Bytes
  codec : String
  requestId : String

namespace StoredObject

/-- The client's call. -/
def op (o : StoredObject) : DataOp :=
  .put (pyStr o.objectId) o.data o.tier (pyStr o.codec) (pyStr o.requestId)

/-- The objects that a data server holds after these PUTs. -/
def storeAll (objects : List StoredObject) : DataServer :=
  objects.foldl (fun server o => server.put o.tier o.objectId o.data) ⟨Dict.empty⟩

theorem lastPut_storeAll (objects : List StoredObject) (tier : DataTier) (objectId : String) :
    lastPut tier (pyStr objectId) (objects.map op) = (storeAll objects).get tier objectId := by
  induction objects using List.reverseRecOn with
  | nil => rfl
  | append_singleton objects o ih =>
    rw [lastPut] at ih
    rw [lastPut, storeAll, List.map_append, List.foldl_append, List.foldl_append, ih, ← storeAll]
    refine Eq.trans ?_ (DataServer.get_put _ _ _ _ _ _).symm
    refine if_congr ?_ rfl rfl
    rw [Prod.mk.injEq]
    constructor
    · rintro ⟨htier, hid⟩
      exact ⟨htier.symm, (pyStr_inj hid).symm⟩
    · rintro ⟨rfl, rfl⟩
      exact ⟨rfl, rfl⟩

end StoredObject

/-- **The files refine the objects of a `DataServer`**: after the same PUTs, readers of a tier find on
the disk what the server holds. -/
theorem read_storeAll {files : Files b.dirs} (hfresh : FreshStore b files) {objects : List StoredObject}
    (hsend : ∀ o ∈ objects, Sendable rt PlainText o.op) (tier : DataTier) {objectId : String}
    (hid : PlainText (pyStr objectId)) :
    b.read ((dataService rt b files).exec (objects.map StoredObject.op)) tier (pyStr objectId) =
      (StoredObject.storeAll objects).get tier objectId := by
  have hops : ∀ op ∈ objects.map StoredObject.op, Sendable rt PlainText op := by
    intro op hop
    obtain ⟨o, ho, rfl⟩ := List.mem_map.mp hop
    exact hsend o ho
  rw [read_exec hfresh hops tier hid, StoredObject.lastPut_storeAll]

/-! ## What a client gets -/

/-- **A GET after a run** returns what was put last. -/
theorem get_after_run {files : Files b.dirs} (hfresh : FreshStore b files) {ops : List DataOp}
    (hops : ∀ op ∈ ops, Sendable rt PlainText op) {objectId : PyStr} {tier : DataTier} {requestId : PyStr}
    (hget : Sendable rt PlainText (.get objectId tier requestId))
    (hreply : ∀ data, lastPut tier objectId ops = some data →
      FrameFits (DataServer.getResponse rt (received (DataClient.getHeader objectId tier requestId) []) data tier)
        data) :
    (dataService rt b files).answer ops (.get objectId tier requestId) =
      .fetched (lastPut tier objectId ops) := by
  have hid : PlainText objectId := hget.1
  have hfits : FrameFits (DataClient.getHeader objectId tier requestId) [] := hget.2
  have hflat : (DataClient.getHeader objectId tier requestId).Flat :=
    DataOp.header_flat rt (.get objectId tier requestId)
  have hobject : (received (DataClient.getHeader objectId tier requestId) []).objectId = .str objectId :=
    joined_text hid.surrogateFree
  have hdata : b.get ((dataService rt b files).exec ops) {}
      (received (DataClient.getHeader objectId tier requestId) []).objectId tier =
        .ok (lastPut tier objectId ops) := by
    rw [hobject, LocalDiskBackend.get_eq_read, read_exec hfresh hops tier hid]
  show DataAnswer.fetched (DataClient.getResult rt
    (exchange rt b _ (DataClient.getHeader objectId tier requestId) []).2) = _
  rw [exchange_eq hflat hfits,
    getResult_processRequest (received_flat hflat []) (joined_pyStr _) hdata hreply]

/-- **The data service is a two-tier map**: a GET returns what was put last, and a request that does
not concern the object id on the tier does not change what it returns. -/
theorem data_service_map {files : Files b.dirs} (hfresh : FreshStore b files) {ops : List DataOp}
    (hops : ∀ op ∈ ops, Sendable rt PlainText op) {objectId : PyStr} {tier : DataTier} {requestId : PyStr}
    (hget : Sendable rt PlainText (.get objectId tier requestId))
    (hreply : ∀ data, lastPut tier objectId ops = some data →
      FrameFits (DataServer.getResponse rt (received (DataClient.getHeader objectId tier requestId) []) data tier)
        data) :
    (dataService rt b files).answer ops (.get objectId tier requestId) =
        .fetched (lastPut tier objectId ops) ∧
      ∀ op, Sendable rt PlainText op → ¬ Concerns tier objectId op →
        (dataService rt b files).answer (ops ++ [op]) (.get objectId tier requestId) =
          (dataService rt b files).answer ops (.get objectId tier requestId) := by
  have hanswer := get_after_run hfresh hops hget hreply
  refine ⟨hanswer, fun op hop hother => ?_⟩
  have hops' : ∀ o ∈ ops ++ [op], Sendable rt PlainText o := by
    intro o ho
    rcases List.mem_append.mp ho with ho | ho
    · exact hops o ho
    · rwa [List.mem_singleton.mp ho]
  have hlast : lastPut tier objectId (ops ++ [op]) = lastPut tier objectId ops := by
    rw [lastPut, List.foldl_append]
    exact putStep_of_not_concerns hother _
  rw [get_after_run hfresh hops' hget (by rwa [hlast]), hlast, hanswer]

end Requests

theorem exampleBackend_fresh : FreshStore exampleBackend Dict.empty where
  no_directory tier n h := by
    have hlen : ∀ loc ∈ exampleBackend.dirs.locs, loc.length ≤ 3 := by decide +kernel
    have hlt := hlen _ h
    have hobjects : exampleBackend.objects.length = 2 := rfl
    rw [LocalDiskBackend.tierLoc, List.length_append, List.length_append, hobjects] at hlt
    exact absurd hlt (by simp)
  no_file tier e h := rfl

/-- Two PUTs under one object id, one on each tier. -/
def examplePuts : List DataOp :=
  [.put (pyStr "a") [0x41] .critical (pyStr "int8_symm") [], .put (pyStr "a") [0x42] .refinement [] []]

theorem examplePuts_sendable : ∀ op ∈ examplePuts, Sendable exampleRuntime PlainText op := by
  have hid : PlainText (pyStr "a") :=
    ⟨⟨by decide +kernel, by decide +kernel, by decide +kernel, by decide +kernel, by decide +kernel⟩,
      surrogateFree_pyStr _⟩
  intro op hop
  simp only [examplePuts, List.mem_cons, List.not_mem_nil, or_false] at hop
  rcases hop with rfl | rfl
  · exact ⟨hid, frameFits_textHeader (by decide +kernel) (by decide)⟩
  · exact ⟨hid, frameFits_textHeader (by decide +kernel) (by decide)⟩

/-- The critical object is not disturbed by the refinement object of the same id. -/
theorem data_service_map_two_tiers :
    (dataService exampleRuntime exampleBackend Dict.empty).answer examplePuts
          (.get (pyStr "a") .critical []) = .fetched (lastPut .critical (pyStr "a") examplePuts) ∧
      ∀ op, Sendable exampleRuntime PlainText op → ¬ Concerns .critical (pyStr "a") op →
        (dataService exampleRuntime exampleBackend Dict.empty).answer (examplePuts ++ [op])
            (.get (pyStr "a") .critical []) =
          (dataService exampleRuntime exampleBackend Dict.empty).answer examplePuts
            (.get (pyStr "a") .critical []) :=
  data_service_map exampleBackend_fresh examplePuts_sendable
    ⟨(examplePuts_sendable _ (List.mem_cons_self ..)).1, frameFits_textHeader (by decide +kernel) (by decide)⟩
    (by
      intro data hdata
      obtain rfl : [0x41] = data := Option.some.inj ((by decide +kernel : _ = _).symm.trans hdata)
      exact frameFits_textHeader (by decide +kernel) (by decide))

/-- The id of two lone surrogates has the file name of `é`. -/
theorem surrogate_ids_collide :
    ¬ ∀ (rt : Runtime) (b : LocalDiskBackend) (files : Files b.dirs), FreshStore b files →
      ∀ ops : List DataOp, (∀ op ∈ ops, Sendable rt PlainId op) →
      ∀ (objectId : PyStr) (tier : DataTier) (requestId : PyStr),
        Sendable rt PlainId (.get objectId tier requestId) →
        (∀ data, lastPut tier objectId ops = some data →
          FrameFits (DataServer.getResponse rt (received (DataClient.getHeader objectId tier requestId) []) data
            tier) data) →
        (dataService rt b files).answer ops (.get objectId tier requestId) =
          .fetched (lastPut tier objectId ops) := by
  intro h
  have hid : PlainId [0xE9] := by constructor <;> decide
  have hid' : PlainId [0xDCC3, 0xDCA9] := by constructor <;> decide
  have hops : ∀ op ∈ [DataOp.put [0xE9] [0x41] .critical [] [], .put [0xDCC3, 0xDCA9] [0x42] .critical [] []],
      Sendable exampleRuntime PlainId op := by
    intro op hop
    simp only [List.mem_cons, List.not_mem_nil, or_false] at hop
    rcases hop with rfl | rfl
    · exact ⟨hid, frameFits_textHeader (by decide +kernel) (by decide)⟩
    · exact ⟨hid', frameFits_textHeader (by decide +kernel) (by decide)⟩
  have hanswer := h exampleRuntime exampleBackend Dict.empty exampleBackend_fresh _ hops [0xE9] .critical []
    ⟨hid, frameFits_textHeader (by decide +kernel) (by decide)⟩
    (by
      intro data hdata
      obtain rfl : [0x41] = data := Option.some.inj ((by decide +kernel : _ = _).symm.trans hdata)
      exact frameFits_textHeader (by decide +kernel) (by decide))
  exact absurd hanswer (by decide +kernel)

end AwareKV
