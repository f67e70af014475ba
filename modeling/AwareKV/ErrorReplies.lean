import AwareKV.KeyValue

/-!
# AwareKV.ErrorReplies — what an ERROR reply leaves behind

A request that is answered with an ERROR frame, under every combination of file operations that raise.

* `error_reply_intact_iff`: every object reads back as before unless a write was torn, or the reply to
  a request that was carried out could not be encoded.
* `torn_write_loses_object`: a torn write.
-/

namespace AwareKV

open DataServer

/-! ## Readers -/

section Readers

variable {b : LocalDiskBackend} {files files' : Files b.dirs} {faults : IoFaults} {tier : DataTier} {s : PyStr}
  {e : b.dirs.Entry}

/-- Every object of both tiers reads back as before. -/
def SameObjects (b : LocalDiskBackend) (files files' : Files b.dirs) : Prop :=
  ∀ tier s, b.read files' tier s = b.read files tier s

theorem sameObjects_refl (files : Files b.dirs) : SameObjects b files files := fun _ _ => rfl

/-- Readers notice every write of something else. -/
theorem sameObjects_insert_iff (h : b.target tier s = .entry e) (data : Bytes) :
    SameObjects b files (files.insert e data) ↔ files.get? e = some data := by
  refine ⟨fun hsame => ?_, fun hget => ?_⟩
  · have hread := hsame tier s
    rw [LocalDiskBackend.read_entry h, LocalDiskBackend.read_entry h, Dict.get?_insert, if_pos rfl] at hread
    exact hread.symm
  · rw [Dict.insert_of_get? hget]
    exact sameObjects_refl files

/-- What `delete` makes of the files. -/
def deleteFiles (b : LocalDiskBackend) (faults : IoFaults) (tier : DataTier) (s : PyStr)
    (files : Files b.dirs) : Files b.dirs :=
  match b.target tier s with
  | .entry e => if files.contains e && !faults.removeFails tier then files.erase e else files
  | _ => files

theorem delete_eq (b : LocalDiskBackend) (faults : IoFaults) (tier : DataTier) (s : PyStr)
    (files : Files b.dirs) :
    ∃ ok, b.delete files faults (.str s) tier = .ok (deleteFiles b faults tier s files, ok) := by
  unfold deleteFiles
  rcases b.target_cases tier s with ⟨e, htarget⟩ | hother
  · rw [LocalDiskBackend.delete_entry htarget, htarget]
    simp only
    split_ifs
    · exact ⟨true, rfl⟩
    · exact ⟨false, rfl⟩
  · refine ⟨false, ?_⟩
    rw [LocalDiskBackend.delete_other hother]
    split
    · next e htarget => exact absurd htarget (hother e)
    · rfl

/-- The objects that a `delete` removes. -/
def Removes (b : LocalDiskBackend) (faults : IoFaults) (files : Files b.dirs) (tier : DataTier) (s : PyStr) :
    Prop :=
  ∃ e data, b.target tier s = .entry e ∧ files.get? e = some data ∧ faults.removeFails tier = false

theorem deleteFiles_of_not_removes (h : ¬ Removes b faults files tier s) :
    deleteFiles b faults tier s files = files := by
  unfold deleteFiles
  split
  · next e htarget =>
    refine if_neg fun hc => h ?_
    rw [Bool.and_eq_true, Bool.not_eq_true'] at hc
    obtain ⟨data, hdata⟩ := Option.isSome_iff_exists.mp hc.1
    exact ⟨e, data, htarget, hdata, hc.2⟩
  · rfl

theorem deleteFiles_removes (h : b.target tier s = .entry e) (hok : faults.removeFails tier = false) :
    (deleteFiles b faults tier s files).get? e = none := by
  unfold deleteFiles
  rw [h]
  simp only [hok, Bool.not_false, Bool.and_true]
  split_ifs with hc
  · rw [Dict.get?_erase, if_pos rfl]
  · exact Option.not_isSome_iff_eq_none.mp hc

/-- Nothing comes back by a `delete`. -/
theorem deleteFiles_none (h : files.get? e = none) : (deleteFiles b faults tier s files).get? e = none := by
  unfold deleteFiles
  split
  · split_ifs
    · rw [Dict.get?_erase, h, ite_self]
    · exact h
  · exact h

/-- **Readers notice every removal.** -/
theorem sameObjects_delete_iff :
    SameObjects b files (deleteFiles b faults .refinement s (deleteFiles b faults .critical s files)) ↔
      ∀ tier, ¬ Removes b faults files tier s := by
  constructor
  · rintro hsame tier ⟨e, data, htarget, hdata, hok⟩
    have hread := hsame tier s
    rw [LocalDiskBackend.read_entry htarget, LocalDiskBackend.read_entry htarget, hdata] at hread
    have hgone : (deleteFiles b faults .refinement s (deleteFiles b faults .critical s files)).get? e = none := by
      cases tier with
      | critical => exact deleteFiles_none (deleteFiles_removes htarget hok)
      | refinement => exact deleteFiles_removes htarget hok
    rw [hgone] at hread
    cases hread
  · intro h
    rw [deleteFiles_of_not_removes (h .critical), deleteFiles_of_not_removes (h .refinement)]
    exact sameObjects_refl files

end Readers

/-! ## Replies -/

/-- An ERROR frame. -/
def Frame.IsError (frame : Frame) : Prop := frame.header.op = .str (pyStr "ERROR")

section Replies

variable {header : FrameHeader} {frame : Frame}

theorem errorResponse_isError {errorMsg : PyStr} (h : errorResponse header errorMsg = .ok frame) :
    frame.IsError := by
  obtain ⟨payload, -, hframe⟩ := Py.bind_eq_ok.mp h
  rw [Frame.IsError, (frameOf_ok hframe).1]
  rfl

theorem response_not_error {tier codec : Json} {payloadNbytes : ℕ} {checksum : PyStr} {payload : Bytes}
    (h : frameOf (responseHeader header tier codec payloadNbytes checksum) payload = .ok frame) :
    ¬ frame.IsError := by
  rw [Frame.IsError, (frameOf_ok h).1]
  intro hop
  exact absurd (pyStr_inj (Json.str.inj hop)) (by decide)

/-- The header of an ERROR reply fits. -/
def ErrorFits (header : FrameHeader) : Prop := FrameFits (errorHeader header 0) []

theorem errorFits_of_ok {errorMsg : PyStr} (h : errorResponse header errorMsg = .ok frame) :
    ErrorFits header := by
  obtain ⟨payload, -, hframe⟩ := Py.bind_eq_ok.mp h
  obtain ⟨json, hjson, hjlt, -⟩ := frameOf_fits hframe
  exact ⟨json, hjson, hjlt, by decide⟩

/-- If one ERROR reply can be sent, so can every short one. -/
theorem errorResponse_ok_iff {msg : String} :
    (∃ frame, errorResponse header (pyStr msg) = .ok frame) ↔
      ErrorFits header ∧ ((pyStr msg).flatMap utf8Char).length < 2 ^ 32 := by
  have henc := encodeUtf8_of_surrogateFree (surrogateFree_pyStr msg)
  constructor
  · rintro ⟨frame, h⟩
    refine ⟨errorFits_of_ok h, ?_⟩
    rw [errorResponse, henc, Py.ok_bind] at h
    obtain ⟨-, -, -, hplt⟩ := frameOf_fits h
    exact hplt
  · rintro ⟨⟨json, hjson, hjlt, -⟩, hmsg⟩
    have hfits : FrameFits (errorHeader header (pyStr msg).length) ((pyStr msg).flatMap utf8Char) :=
      ⟨json, hjson, hjlt, hmsg⟩
    obtain ⟨frame, hframe⟩ := frameOf_of_fits hfits
    exact ⟨frame, by rw [errorResponse, henc, Py.ok_bind, hframe]⟩

/-- The reply to a request that was carried out cannot be encoded, but an ERROR reply with the text of
the exception can. -/
def LateError (header response : FrameHeader) : Prop :=
  ErrorFits header ∧ ∃ exc, encodeFrame response okBytes = .error exc ∧
    ((pyStr exc.msg).flatMap utf8Char).length < 2 ^ 32

theorem frameOf_error {payload : Bytes} {exc : Exc} :
    frameOf header payload = .error exc ↔ encodeFrame header payload = .error exc := by
  unfold frameOf
  split <;> simp_all

theorem lateError_iff {response : FrameHeader} : LateError header response ↔
    ∃ exc, frameOf response okBytes = .error exc ∧ ∃ frame, errorResponse header (pyStr exc.msg) = .ok frame := by
  simp only [LateError, frameOf_error, errorResponse_ok_iff]
  constructor
  · rintro ⟨hfits, exc, hexc, hmsg⟩
    exact ⟨exc, hexc, hfits, hmsg⟩
  · rintro ⟨exc, hexc, hfits, hmsg⟩
    exact ⟨hfits, exc, hexc, hmsg⟩

end Replies

/-! ## Requests -/

section Requests

variable {rt : Runtime} {b : LocalDiskBackend} {faults : IoFaults} {files files' : Files b.dirs}
  {header : FrameHeader} {payload : Bytes}

/-- If the reply is an ERROR frame, every object reads back as before. -/
def ErrorIntact (rt : Runtime) (b : LocalDiskBackend) (faults : IoFaults) (files : Files b.dirs)
    (header : FrameHeader) (payload : Bytes) : Prop :=
  ∀ frame, (processRequest rt b faults files header payload).2 = .ok frame → frame.IsError →
    SameObjects b files (processRequest rt b faults files header payload).1

/-- A PUT that passes its check and opens a file. -/
structure PutOpens (rt : Runtime) (b : LocalDiskBackend) (faults : IoFaults) (header : FrameHeader)
    (payload : Bytes) (tier : DataTier) (e : b.dirs.Entry) : Prop where
  op : header.op = .str (pyStr (putOp tier))
  checksum : checksumPasses rt header payload = true
  target : ∃ s, header.objectId = .str s ∧ b.target tier s = .entry e
  opens : faults.openFails = false

/-- A write that raises when it has changed the file, and an ERROR reply that can be sent. -/
def TornWrite (rt : Runtime) (b : LocalDiskBackend) (faults : IoFaults) (files : Files b.dirs)
    (header : FrameHeader) (payload : Bytes) : Prop :=
  ∃ tier e k, PutOpens rt b faults header payload tier e ∧ faults.writeFails = some k ∧
    files.get? e ≠ some (payload.take k) ∧ ErrorFits header

/-- A PUT or DELETE that was carried out, and whose reply becomes an ERROR. -/
def LateFailure (rt : Runtime) (b : LocalDiskBackend) (faults : IoFaults) (files : Files b.dirs)
    (header : FrameHeader) (payload : Bytes) : Prop :=
  (∃ tier e, PutOpens rt b faults header payload tier e ∧ faults.writeFails = none ∧
    files.get? e ≠ some payload ∧ LateError header (putResponse header tier)) ∨
  (header.op = .str (pyStr "DELETE") ∧ (∃ tier s, header.objectId = .str s ∧ Removes b faults files tier s) ∧
    LateError header (deleteResponse header))

theorem intact_of_files (h : (dispatch rt b faults files header payload).1 = files) :
    ErrorIntact rt b faults files header payload := by
  intro frame _ _
  rw [processRequest_files, h]
  exact sameObjects_refl files

/-- A handler that changed files and answers with an ERROR. -/
theorem intact_failed_iff {msg : String} (hmsg : ((pyStr msg).flatMap utf8Char).length < 2 ^ 32)
    (h : dispatch rt b faults files header payload = (files', errorResponse header (pyStr msg))) :
    ErrorIntact rt b faults files header payload ↔ (ErrorFits header → SameObjects b files files') := by
  have hfiles : (processRequest rt b faults files header payload).1 = files' := by
    rw [processRequest_files, h]
  rw [ErrorIntact, hfiles]
  refine ⟨fun hintact hfits => ?_, fun hsame frame hreply _ => ?_⟩
  · obtain ⟨frame, hframe⟩ := errorResponse_ok_iff.mpr ⟨hfits, hmsg⟩
    refine hintact frame ?_ (errorResponse_isError hframe)
    rw [processRequest, h, hframe]
  · apply hsame
    rw [processRequest, h] at hreply
    cases hframe : errorResponse header (pyStr msg) with
    | ok frame' => exact errorFits_of_ok hframe
    | error exc =>
      rw [hframe] at hreply
      exact errorFits_of_ok hreply

/-- A handler that changed files and answers with success. -/
theorem intact_success_iff {tier codec : Json}
    (h : dispatch rt b faults files header payload =
      (files', frameOf (responseHeader header tier codec 0 []) okBytes)) :
    ErrorIntact rt b faults files header payload ↔
      (LateError header (responseHeader header tier codec 0 []) → SameObjects b files files') := by
  have hfiles : (processRequest rt b faults files header payload).1 = files' := by
    rw [processRequest_files, h]
  rw [ErrorIntact, hfiles, lateError_iff, processRequest, h]
  cases hframe : frameOf (responseHeader header tier codec 0 []) okBytes with
  | ok frame =>
    constructor
    · rintro - ⟨exc, herror, -⟩
      cases herror
    · intro _ frame' hreply herror
      cases hreply
      exact absurd herror (response_not_error hframe)
  | error exc =>
    constructor
    · rintro hintact ⟨exc', herror, frame, hreply⟩
      cases herror
      exact hintact frame hreply (errorResponse_isError hreply)
    · intro hsame frame hreply _
      exact hsame ⟨exc, rfl, frame, hreply⟩

/-! ### PUT -/

theorem putOp_inj {tier tier' : DataTier} (h : putOp tier = putOp tier') : tier = tier' := by
  cases tier <;> cases tier' <;> first | rfl | exact absurd h (by decide)

theorem PutOpens.unique {tier tier' : DataTier} {e e' : b.dirs.Entry}
    (h : PutOpens rt b faults header payload tier e) (h' : PutOpens rt b faults header payload tier' e') :
    tier = tier' ∧ e = e' := by
  obtain rfl := putOp_inj (pyStr_inj (Json.str.inj (h.op.symm.trans h'.op)))
  obtain ⟨s, hs, htarget⟩ := h.target
  obtain ⟨s', hs', htarget'⟩ := h'.target
  obtain rfl := Json.str.inj (hs.symm.trans hs')
  exact ⟨rfl, Dirs.Target.entry.inj (htarget.symm.trans htarget')⟩

theorem PutOpens.not_delete {tier : DataTier} {e : b.dirs.Entry}
    (h : PutOpens rt b faults header payload tier e) : header.op ≠ .str (pyStr "DELETE") := by
  intro hop
  have heq := pyStr_inj (Json.str.inj (h.op.symm.trans hop))
  cases tier <;> exact absurd heq (by decide)

/-- What a PUT that opens a file does. -/
theorem dispatch_opens {tier : DataTier} {e : b.dirs.Entry} (h : PutOpens rt b faults header payload tier e) :
    dispatch rt b faults files header payload =
      match faults.writeFails with
      | some k => (files.insert e (payload.take k), errorResponse header (pyStr "Failed to store object"))
      | none => (files.insert e payload, frameOf (putResponse header tier) okBytes) := by
  obtain ⟨s, hs, htarget⟩ := h.target
  rw [dispatch_put rt b faults h.op, handlePut, if_pos h.checksum, hs, LocalDiskBackend.put_entry htarget,
    h.opens]
  cases faults.writeFails <;> rfl

/-- What a PUT that opens no file does. -/
theorem dispatch_unopened {tier : DataTier} (hop : header.op = .str (pyStr (putOp tier)))
    (h : ∀ e, ¬ PutOpens rt b faults header payload tier e) :
    (dispatch rt b faults files header payload).1 = files := by
  rw [dispatch_put rt b faults hop, handlePut]
  split_ifs with hpass
  · by_cases hs : ∃ s, header.objectId = .str s
    · obtain ⟨s, hs⟩ := hs
      rw [hs]
      rcases b.target_cases tier s with ⟨e, htarget⟩ | hother
      · have hopen : faults.openFails = true := by
          by_contra hopen
          exact h e ⟨hop, hpass, ⟨s, hs, htarget⟩, by simpa using hopen⟩
        rw [LocalDiskBackend.put_entry htarget, hopen]
        rfl
      · rw [LocalDiskBackend.put_other hother]
        rfl
    · cases hobject : header.objectId with
      | str s => exact absurd ⟨s, hobject⟩ hs
      | _ => rfl
  · rfl

/-- A write that goes through is not torn. -/
theorem not_tornWrite (hwrite : faults.writeFails = none) : ¬ TornWrite rt b faults files header payload := by
  rintro ⟨tier, e, k, -, hk, -⟩
  rw [hwrite] at hk
  cases hk

/-- A write that raises gets no success reply. -/
theorem PutOpens.not_lateFailure {tier : DataTier} {e : b.dirs.Entry} {k : ℕ}
    (h : PutOpens rt b faults header payload tier e) (hwrite : faults.writeFails = some k) :
    ¬ LateFailure rt b faults files header payload := by
  rintro (⟨tier', e', -, hnone, -⟩ | ⟨hdelete, -⟩)
  · rw [hwrite] at hnone
    cases hnone
  · exact h.not_delete hdelete

theorem intact_torn_iff {tier : DataTier} {e : b.dirs.Entry} {k : ℕ}
    (h : PutOpens rt b faults header payload tier e) (hwrite : faults.writeFails = some k) :
    ErrorIntact rt b faults files header payload ↔ ¬ TornWrite rt b faults files header payload := by
  obtain ⟨s, hs, htarget⟩ := h.target
  have hdispatch : dispatch rt b faults files header payload = _ := dispatch_opens h
  rw [hwrite] at hdispatch
  rw [intact_failed_iff (by decide +kernel) hdispatch, sameObjects_insert_iff htarget]
  constructor
  · rintro hintact ⟨tier', e', k', h', hk', hne, hfits⟩
    obtain ⟨rfl, rfl⟩ := h.unique h'
    obtain rfl : k = k' := Option.some.inj (hwrite.symm.trans hk')
    exact hne (hintact hfits)
  · intro htorn hfits
    by_contra hne
    exact htorn ⟨tier, e, k, h, hwrite, hne, hfits⟩

theorem intact_written_iff {tier : DataTier} {e : b.dirs.Entry}
    (h : PutOpens rt b faults header payload tier e) (hwrite : faults.writeFails = none) :
    ErrorIntact rt b faults files header payload ↔ ¬ LateFailure rt b faults files header payload := by
  obtain ⟨s, hs, htarget⟩ := h.target
  have hdispatch : dispatch rt b faults files header payload = _ := dispatch_opens h
  rw [hwrite] at hdispatch
  rw [intact_success_iff hdispatch, sameObjects_insert_iff htarget]
  constructor
  · rintro hintact (⟨tier', e', h', -, hne, hlate⟩ | ⟨hdelete, -⟩)
    · obtain ⟨rfl, rfl⟩ := h.unique h'
      exact hne (hintact hlate)
    · exact h.not_delete hdelete
  · intro hfailure hlate
    by_contra hne
    exact hfailure (Or.inl ⟨tier, e, h, hwrite, hne, hlate⟩)

theorem intact_opens_iff {tier : DataTier} {e : b.dirs.Entry} (h : PutOpens rt b faults header payload tier e) :
    ErrorIntact rt b faults files header payload ↔
      ¬ TornWrite rt b faults files header payload ∧ ¬ LateFailure rt b faults files header payload := by
  cases hwrite : faults.writeFails with
  | some k => rw [intact_torn_iff h hwrite, and_iff_left (h.not_lateFailure hwrite)]
  | none => rw [intact_written_iff h hwrite, and_iff_right (not_tornWrite hwrite)]

/-! ### DELETE -/

/-- What a DELETE does. -/
theorem dispatch_deletes (hop : header.op = .str (pyStr "DELETE")) {s : PyStr} (hs : header.objectId = .str s) :
    dispatch rt b faults files header payload =
      (deleteFiles b faults .refinement s (deleteFiles b faults .critical s files),
        frameOf (deleteResponse header) okBytes) := by
  obtain ⟨ok, hcritical⟩ := delete_eq b faults .critical s files
  obtain ⟨ok', hrefinement⟩ := delete_eq b faults .refinement s (deleteFiles b faults .critical s files)
  rw [dispatch_delete rt b faults hop, handleDelete, hs, hcritical]
  simp only [hrefinement]

theorem intact_delete_iff (hop : header.op = .str (pyStr "DELETE")) :
    ErrorIntact rt b faults files header payload ↔
      ¬ TornWrite rt b faults files header payload ∧ ¬ LateFailure rt b faults files header payload := by
  have hput : ∀ tier e, ¬ PutOpens rt b faults header payload tier e := fun tier e h => h.not_delete hop
  have htorn : ¬ TornWrite rt b faults files header payload := by
    rintro ⟨tier, e, k, h, -⟩
    exact hput tier e h
  by_cases hs : ∃ s, header.objectId = .str s
  · obtain ⟨s, hs⟩ := hs
    rw [intact_success_iff (dispatch_deletes hop hs), sameObjects_delete_iff]
    constructor
    · refine fun hintact => ⟨htorn, ?_⟩
      rintro (⟨tier, e, h, -⟩ | ⟨-, ⟨tier, s', hs', hremoves⟩, hlate⟩)
      · exact hput tier e h
      · obtain rfl := Json.str.inj (hs.symm.trans hs')
        exact hintact hlate tier hremoves
    · rintro ⟨-, hfailure⟩ hlate tier hremoves
      exact hfailure (Or.inr ⟨hop, ⟨tier, s, hs, hremoves⟩, hlate⟩)
  · have hfiles : (dispatch rt b faults files header payload).1 = files := by
      rw [dispatch_delete rt b faults hop, handleDelete]
      cases hobject : header.objectId with
      | str s => exact absurd ⟨s, hobject⟩ hs
      | _ => rfl
    refine iff_of_true (intact_of_files hfiles) ⟨htorn, ?_⟩
    rintro (⟨tier, e, h, -⟩ | ⟨-, ⟨tier, s, hs', -⟩, -⟩)
    · exact hput tier e h
    · exact hs ⟨s, hs'⟩

/-- **ERROR replies leave the store intact exactly when** no write was torn and no reply to a request
that was carried out became an ERROR. -/
theorem error_reply_intact_iff (rt : Runtime) (b : LocalDiskBackend) (faults : IoFaults) (files : Files b.dirs)
    (header : FrameHeader) (payload : Bytes) :
    ErrorIntact rt b faults files header payload ↔
      ¬ TornWrite rt b faults files header payload ∧ ¬ LateFailure rt b faults files header payload := by
  by_cases hopens : ∃ tier e, PutOpens rt b faults header payload tier e
  · obtain ⟨tier, e, h⟩ := hopens
    exact intact_opens_iff h
  by_cases hdelete : header.op = .str (pyStr "DELETE")
  · exact intact_delete_iff hdelete
  have hfiles : (dispatch rt b faults files header payload).1 = files := by
    by_cases hput : ∃ tier, header.op = .str (pyStr (putOp tier))
    · obtain ⟨tier, hop⟩ := hput
      exact dispatch_unopened hop fun e h => hopens ⟨tier, e, h⟩
    · exact dispatch_other rt b faults (fun tier hop => hput ⟨tier, hop⟩) hdelete files payload
  refine iff_of_true (intact_of_files hfiles) ⟨?_, ?_⟩
  · rintro ⟨tier, e, k, h, -⟩
    exact hopens ⟨tier, e, h⟩
  · rintro (⟨tier, e, h, -⟩ | ⟨hop, -⟩)
    · exact hopens ⟨tier, e, h⟩
    · exact hdelete hop

end Requests

/-- An object whose overwrite raises before the first byte is empty afterwards. -/
theorem torn_write_loses_object :
    ¬ ∀ (rt : Runtime) (b : LocalDiskBackend) (faults : IoFaults) (files : Files b.dirs) (header : FrameHeader)
      (payload : Bytes), ErrorIntact rt b faults files header payload := by
  intro h
  have hid : PlainText (pyStr "a") := (examplePuts_sendable _ (List.mem_cons_self ..)).1
  have hopens : PutOpens exampleRuntime exampleBackend { writeFails := some 0 }
      (DataClient.putHeader exampleRuntime (pyStr "a") [0x42] .critical [] []) [0x42] .critical
      (entryOf exampleBackend_fresh.no_directory .critical (pyStr "a")) :=
    { op := rfl
      checksum := by decide +kernel
      target := ⟨pyStr "a", rfl, target_plain exampleBackend_fresh.no_directory hid .critical⟩
      opens := rfl }
  have hintact := h exampleRuntime exampleBackend { writeFails := some 0 }
    (Dict.empty.insert (entryOf exampleBackend_fresh.no_directory .critical (pyStr "a")) [0x41])
    (DataClient.putHeader exampleRuntime (pyStr "a") [0x42] .critical [] []) [0x42]
  refine ((intact_opens_iff hopens).mp hintact).1 ⟨_, _, 0, hopens, rfl, ?_, frameFits_of_isOk (by decide +kernel)⟩
  rw [Dict.get?_insert, if_pos rfl]
  decide

end AwareKV
