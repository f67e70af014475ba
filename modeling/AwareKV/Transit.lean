import AwareKV.ErrorReplies

/-!
# AwareKV.Transit — payloads that are altered in flight

The payload of a PUT request or of a GET reply is replaced by bytes of the same length, and the header
of the frame stays.  Both checks are skipped for an empty checksum; every path of the client and of the
server that sends a payload fills it in.

* `serve_altered_put`: an altered PUT is answered with an ERROR and stores nothing.
* `result_altered_reply`: an altered reply gives the client nothing.
* `payload_integrity`: in every run, what is stored and what is returned was given to a PUT.
-/

namespace AwareKV

open DataServer

/-! ## Alterations -/

/-- What replaces a payload: bytes of the same length. -/
structure Alteration where
  apply : Bytes → Bytes
  length_apply : ∀ payload, (apply payload).length = payload.length

namespace Alteration

/-- Where the payload of a frame starts, by the length of its header. -/
def payloadStart (frame : Bytes) : ℕ := 14 + beNat (slice frame 6 10)

/-- The frame with its payload replaced. -/
def alter (a : Alteration) (frame : Bytes) : Bytes :=
  frame.take (payloadStart frame) ++ a.apply (frame.drop (payloadStart frame))

/-- Nothing is altered. -/
def none : Alteration := ⟨id, fun _ => rfl⟩

theorem alter_none (frame : Bytes) : none.alter frame = frame := List.take_append_drop _ _

variable (a : Alteration)

/-- **An altered frame is the frame of the header and the other payload.** -/
theorem encodeFrame_alter {header : FrameHeader} {payload frame : Bytes}
    (h : encodeFrame header payload = .ok frame) :
    encodeFrame header (a.apply payload) = .ok (a.alter frame) := by
  obtain ⟨json, hjson, hjlt, hplt, rfl⟩ := encodeFrame_eq_ok.mp h
  have hjlt' : json.length < 256 ^ 4 := hjlt
  have hlen : (framePrefix json.length payload.length ++ json).length = 14 + json.length := by
    rw [List.length_append, framePrefix_length]
  have hstart : payloadStart (framePrefix json.length payload.length ++ json ++ payload) =
      (framePrefix json.length payload.length ++ json).length := by
    rw [payloadStart, List.append_assoc, slice_headerLen, beNat_beBytes hjlt', hlen]
  refine encodeFrame_eq_ok.mpr ⟨json, hjson, hjlt, by rwa [a.length_apply], ?_⟩
  rw [alter, hstart, List.take_left, List.drop_left, a.length_apply]

/-- The altered frame. -/
def onFrame (frame : Frame) : Frame :=
  ⟨frame.header, a.apply frame.payload, a.alter frame.bytes, a.encodeFrame_alter frame.encoded⟩

/-- The bytes of a frame change when its payload does. -/
theorem apply_ne_of_alter_ne {frame : Frame} (h : a.alter frame.bytes ≠ frame.bytes) :
    a.apply frame.payload ≠ frame.payload := by
  intro hsame
  have haltered := a.encodeFrame_alter frame.encoded
  rw [hsame, frame.encoded] at haltered
  exact h (Except.ok.inj haltered).symm

end Alteration

/-! ## Exchanges -/

/-- A call of the client with the file operations that raise on the server, and what happens to the
payload that it is about: that of a PUT on its way to the server, that of a GET on its way back. -/
structure Exchange where
  op : DataOp
  faults : IoFaults
  alteration : Alteration

namespace Exchange

/-- What arrives of a request's frame. -/
def onRequest (x : Exchange) (frame : Bytes) : Bytes :=
  match x.op with
  | .put _ _ _ _ _ => x.alteration.alter frame
  | _ => frame

/-- What arrives of a reply's frame. -/
def onReply (x : Exchange) (reply : Bytes) : Bytes :=
  match x.op with
  | .get _ _ _ => x.alteration.alter reply
  | _ => reply

/-- The payload that the server reads. -/
def arrived (x : Exchange) : Bytes :=
  match x.op with
  | .put _ data _ _ _ => x.alteration.apply data
  | op => op.payload

/-- The payload of a PUT arrives altered. -/
def AltersPut (x : Exchange) : Prop :=
  match x.op with
  | .put _ data _ _ _ => x.alteration.apply data ≠ data
  | _ => False

variable (rt : Runtime) (b : LocalDiskBackend)

/-- The server's files afterwards and the reply that it sends, if it sends one. -/
def serve (files : Files b.dirs) (x : Exchange) : Files b.dirs × Option Bytes :=
  match encodeFrame (x.op.header rt) x.op.payload with
  | .error _ => (files, none)
  | .ok frame => answerFrame rt b x.faults files (x.onRequest frame)

/-- The payload of the reply to a GET arrives altered. -/
def AltersReply (files : Files b.dirs) (x : Exchange) : Prop :=
  match x.op with
  | .get _ _ _ => ∃ reply, (x.serve rt b files).2 = some reply ∧ x.alteration.alter reply ≠ reply
  | _ => False

variable {rt b}

theorem AltersPut.op {x : Exchange} (h : x.AltersPut) : ∃ objectId data tier codec requestId,
    x.op = .put objectId data tier codec requestId ∧ x.alteration.apply data ≠ data := by
  unfold AltersPut at h
  cases hop : x.op with
  | put objectId data tier codec requestId =>
    rw [hop] at h
    exact ⟨objectId, data, tier, codec, requestId, rfl, h⟩
  | get | delete =>
    rw [hop] at h
    exact h.elim

theorem AltersReply.op {files : Files b.dirs} {x : Exchange} (h : x.AltersReply rt b files) :
    ∃ objectId tier requestId reply, x.op = .get objectId tier requestId ∧
      (x.serve rt b files).2 = some reply ∧ x.alteration.alter reply ≠ reply := by
  unfold AltersReply at h
  cases hop : x.op with
  | get objectId tier requestId =>
    rw [hop] at h
    obtain ⟨reply, hreply, hne⟩ := h
    exact ⟨objectId, tier, requestId, reply, rfl, hreply, hne⟩
  | put | delete =>
    rw [hop] at h
    exact h.elim

end Exchange

section Transit

variable (rt : Runtime) (b : LocalDiskBackend)

/-- The service over a network that alters payloads. -/
def transitService (files : Files b.dirs) : Machine (Files b.dirs) Exchange DataAnswer where
  init := files
  step files x :=
    let r := x.serve rt b files
    (r.1, x.op.result rt (r.2.map x.onReply))

/-- Without alterations and faults it is the data service. -/
theorem transit_step_clean (files files' : Files b.dirs) (op : DataOp) :
    (transitService rt b files').step files ⟨op, {}, .none⟩ = (dataService rt b files').step files op := by
  have hrequest : ∀ frame, Exchange.onRequest ⟨op, {}, .none⟩ frame = frame := by
    intro frame
    cases op <;> first | rfl | exact Alteration.alter_none frame
  have hreply : ∀ reply, Exchange.onReply ⟨op, {}, .none⟩ reply = reply := by
    intro reply
    cases op <;> first | rfl | exact Alteration.alter_none reply
  have hserve : Exchange.serve rt b files ⟨op, {}, .none⟩ = exchange rt b files (op.header rt) op.payload := by
    unfold Exchange.serve exchange
    cases encodeFrame (op.header rt) op.payload with
    | ok frame => exact congrArg (answerFrame rt b {} files) (hrequest frame)
    | error e => rfl
  show (_, op.result rt (Option.map _ _)) = _
  rw [hserve, funext hreply, Option.map_id']
  rfl

variable {rt b}

/-- **The server processes what arrives.** -/
theorem serve_eq {x : Exchange} (hfits : FrameFits (x.op.header rt) x.op.payload) (files : Files b.dirs) :
    x.serve rt b files =
      ((processRequest rt b x.faults files (received (x.op.header rt) x.arrived) x.arrived).1,
        sentReply (processRequest rt b x.faults files (received (x.op.header rt) x.arrived) x.arrived).2) := by
  obtain ⟨frame, hframe⟩ := frameFits_iff.mp hfits
  have harrived : encodeFrame (x.op.header rt) x.arrived = .ok (x.onRequest frame) := by
    obtain ⟨op, faults, a⟩ := x
    cases op with
    | put objectId data tier codec requestId => exact a.encodeFrame_alter hframe
    | get objectId tier requestId => exact hframe
    | delete objectId requestId tier codec checksum deadlineMs payload => exact hframe
  have hdecode : decodeFrame rt.floatRepr (x.onRequest frame ++ []) =
      .ok (received (x.op.header rt) x.arrived, x.arrived) :=
    decodeFrame_encodeFrame (DataOp.header_flat rt x.op) harrived []
  rw [List.append_nil] at hdecode
  rw [Exchange.serve, hframe]
  simp only [answerFrame, hdecode]

/-- A request that is too long is not sent. -/
theorem serve_unsent {x : Exchange} (hfits : ¬ FrameFits (x.op.header rt) x.op.payload)
    (files : Files b.dirs) : x.serve rt b files = (files, none) := by
  unfold Exchange.serve
  cases hframe : encodeFrame (x.op.header rt) x.op.payload with
  | ok frame => exact absurd (frameFits_iff.mpr ⟨frame, hframe⟩) hfits
  | error e => rfl

/-! ## ERROR replies -/

/-- **The ERROR reply to a request that was sent can be sent**, if its header is not longer. -/
theorem errorFits_of_text {op requestId objectId tier codec checksum : PyStr} {payloadNbytes : ℤ}
    {payload : Bytes} (hop : (jsonStr (pyStr "ERROR")).length ≤ (jsonStr op).length)
    (hfits : FrameFits (textHeader op requestId objectId tier codec checksum payloadNbytes) payload)
    (payload' : Bytes) :
    ErrorFits (received (textHeader op requestId objectId tier codec checksum payloadNbytes) payload') := by
  obtain ⟨json, hjson, hjlt, -⟩ := hfits
  obtain ⟨sent, hsent, hsentlen⟩ := textHeader_json op requestId objectId tier codec checksum payloadNbytes
  obtain ⟨reply, hreply, hreplylen⟩ := textHeader_json (pyStr "ERROR") (joinPairs requestId)
    (joinPairs objectId) [] [] [] (0 : ℕ)
  obtain rfl : sent = json := Except.ok.inj (hsent.symm.trans hjson)
  rw [jsonStr_joinPairs, jsonStr_joinPairs] at hreplylen
  have hquotes : ∀ s : PyStr, (jsonStr []).length ≤ (jsonStr s).length := by
    intro s
    simp [jsonStr]
  have htier := hquotes tier
  have hcodec := hquotes codec
  have hchecksum := hquotes checksum
  exact ⟨reply, hreply, by omega, by decide⟩

theorem errorFits_of_put {objectId : PyStr} {data : Bytes} {tier : DataTier} {codec requestId : PyStr}
    (hfits : FrameFits (DataClient.putHeader rt objectId data tier codec requestId) data) (payload : Bytes) :
    ErrorFits (received (DataClient.putHeader rt objectId data tier codec requestId) payload) :=
  errorFits_of_text (by cases tier <;> decide +kernel) hfits payload

/-! ## PUT -/

/-- The digests of an interpreter are not empty and do not collide. -/
structure CollisionFree (rt : Runtime) : Prop where
  injective : rt.sha256Hex.Injective
  nonempty : ∀ data, rt.sha256Hex data ≠ ""

theorem CollisionFree.checksum_eq_iff (hrt : CollisionFree rt) {data data' : Bytes} :
    computeChecksum rt data = computeChecksum rt data' ↔ data = data' :=
  ⟨fun h => hrt.injective (pyStr_inj h), fun h => congrArg _ h⟩

/-- A checksum field that is filled in is checked. -/
theorem CollisionFree.truthy (hrt : CollisionFree rt) (data : Bytes) :
    (Json.str (computeChecksum rt data)).truthy = true := by
  have hne : computeChecksum rt data ≠ [] := fun h =>
    hrt.nonempty data (String.toList_eq_nil_iff.mp (List.map_eq_nil_iff.mp h))
  simp [Json.truthy, hne]

/-- **The check of a PUT tells altered payloads.** -/
theorem checksumPasses_iff (hrt : CollisionFree rt) {objectId : PyStr} {data payload : Bytes}
    {tier : DataTier} {codec requestId : PyStr} :
    checksumPasses rt (received (DataClient.putHeader rt objectId data tier codec requestId) payload) payload =
      true ↔ payload = data := by
  have hchecksum : (received (DataClient.putHeader rt objectId data tier codec requestId) payload).checksum =
      .str (computeChecksum rt data) := joined_pyStr _
  rw [checksumPasses, hchecksum, hrt.truthy, Bool.not_true, Bool.false_or, eqStr_iff, Json.str.injEq,
    hrt.checksum_eq_iff]
  exact eq_comm

theorem errorResponse_flat {header : FrameHeader} (hflat : header.Flat) {errorMsg : PyStr} {frame : Frame}
    (h : errorResponse header errorMsg = .ok frame) : frame.header.Flat := by
  obtain ⟨payload, -, hbytes⟩ := Py.bind_eq_ok.mp h
  rw [(frameOf_ok hbytes).1]
  exact errorHeader_flat hflat _

/-- The client reads an ERROR frame as one. -/
theorem received_isError {frame : Frame} (h : frame.IsError) :
    (received frame.header frame.payload).op.eqStr (pyStr "ERROR") = true := by
  have hjoined : (received frame.header frame.payload).op = .str (pyStr "ERROR") := by
    show frame.header.op.joined = _
    rw [h]
    exact joined_pyStr _
  rw [hjoined, eqStr_pyStr, decide_eq_true_eq]

/-- An ERROR frame tells the client that nothing was stored. -/
theorem putResult_error {frame : Frame} (hflat : frame.header.Flat) (h : frame.IsError) :
    DataClient.putResult rt (some frame.bytes) = false := by
  have hdecode : decodeFrame rt.floatRepr frame.bytes =
      .ok (received frame.header frame.payload, frame.payload) := decodeFrame_frame hflat
  simp only [DataClient.putResult, hdecode, received_isError h, Bool.not_true]

/-- **An altered PUT is answered with an ERROR and stores nothing.** -/
theorem serve_altered_put (hrt : CollisionFree rt) {x : Exchange} (hx : x.AltersPut)
    (hfits : FrameFits (x.op.header rt) x.op.payload) (files : Files b.dirs) :
    ∃ frame : Frame, x.serve rt b files = (files, some frame.bytes) ∧ frame.IsError ∧ frame.header.Flat := by
  obtain ⟨objectId, data, tier, codec, requestId, hput, hne⟩ := hx.op
  have harrived : x.arrived = x.alteration.apply data := by rw [Exchange.arrived, hput]
  have hflat := received_flat (DataOp.header_flat rt x.op) x.arrived
  rw [serve_eq hfits]
  rw [hput] at hfits hflat ⊢
  have hop : (received (DataClient.putHeader rt objectId data tier codec requestId) x.arrived).op =
      .str (pyStr (putOp tier)) := joined_pyStr _
  have hfails : ¬ checksumPasses rt (received (DataClient.putHeader rt objectId data tier codec requestId)
      x.arrived) x.arrived = true :=
    fun hpass => hne (harrived.symm.trans ((checksumPasses_iff hrt).mp hpass))
  have hsend : ∃ frame, errorResponse (received (DataClient.putHeader rt objectId data tier codec requestId)
      x.arrived) (pyStr "Checksum mismatch") = .ok frame :=
    errorResponse_ok_iff.mpr ⟨errorFits_of_put hfits x.arrived, by decide +kernel⟩
  obtain ⟨frame, hframe⟩ := hsend
  have hprocess : processRequest rt b x.faults files
      (received (DataClient.putHeader rt objectId data tier codec requestId) x.arrived) x.arrived =
        (files, .ok frame) := by
    rw [processRequest, dispatch_put rt b x.faults hop, handlePut, if_neg hfails]
    simp only [hframe]
  refine ⟨frame, ?_, errorResponse_isError hframe, errorResponse_flat hflat hframe⟩
  exact congrArg (fun r => (r.1, sentReply r.2)) hprocess

/-- What comes of an altered PUT, sent or not. -/
theorem refused_altered_put (hrt : CollisionFree rt) {x : Exchange} (hx : x.AltersPut) (files : Files b.dirs) :
    (x.serve rt b files).1 = files ∧
      x.op.result rt ((x.serve rt b files).2.map x.onReply) = .stored false := by
  have hkeep : ∀ reply, x.op.result rt (Option.map x.onReply reply) =
      .stored (DataClient.putResult rt reply) := by
    intro reply
    obtain ⟨objectId, data, tier, codec, requestId, hput, -⟩ := hx.op
    have honReply : x.onReply = id := by
      funext bytes
      rw [Exchange.onReply, hput]
      rfl
    rw [honReply, Option.map_id, hput]
    rfl
  rw [hkeep]
  by_cases hfits : FrameFits (x.op.header rt) x.op.payload
  · obtain ⟨frame, hserve, herror, hflat⟩ := serve_altered_put hrt hx hfits files
    rw [hserve]
    exact ⟨rfl, congrArg DataAnswer.stored (putResult_error hflat herror)⟩
  · rw [serve_unsent hfits]
    exact ⟨rfl, rfl⟩

/-! ## GET -/

/-- **What a client makes of a reply to a GET**, altered or not. -/
theorem getResult_getResponse (hrt : CollisionFree rt) {header : FrameHeader} (hflat : header.Flat)
    {data : Bytes} {tier : DataTier} (frame : Frame) (h : frame.header = getResponse rt header data tier) :
    DataClient.getResult rt (some frame.bytes) = if frame.payload = data then some data else none := by
  have hop : (received frame.header frame.payload).op.eqStr (pyStr "ERROR") = false := by
    have hjoined : (received frame.header frame.payload).op = .str (pyStr "RESPONSE") := by
      rw [h]
      exact joined_pyStr _
    rw [hjoined, eqStr_pyStr, decide_eq_false_iff_not]
    decide
  have hchecksum : (received frame.header frame.payload).checksum = .str (computeChecksum rt data) := by
    rw [h]
    exact joined_pyStr _
  have hframe : frame.header.Flat := by
    rw [h]
    exact getResponse_flat hflat data tier
  have hcheck : (Json.str (computeChecksum rt data)).eqStr (computeChecksum rt frame.payload) =
      decide (frame.payload = data) := by
    rw [Bool.eq_iff_iff, eqStr_iff, Json.str.injEq, hrt.checksum_eq_iff, decide_eq_true_eq]
    exact eq_comm
  have hdecode : decodeFrame rt.floatRepr frame.bytes =
      .ok (received frame.header frame.payload, frame.payload) := decodeFrame_frame hframe
  simp only [DataClient.getResult, hdecode, hop, hchecksum, hrt.truthy, hcheck,
    Bool.false_eq_true, if_false, Bool.true_and]
  by_cases hsame : frame.payload = data
  · simp [hsame]
  · simp [hsame]

/-- An ERROR frame gives the client nothing. -/
theorem getResult_isError (frame : Frame) (hflat : frame.header.Flat) (h : frame.IsError) :
    DataClient.getResult rt (some frame.bytes) = none := by
  have hdecode : decodeFrame rt.floatRepr frame.bytes =
      .ok (received frame.header frame.payload, frame.payload) := decodeFrame_frame hflat
  simp only [DataClient.getResult, hdecode, received_isError h, if_true]

/-- **The reply to a GET**: an ERROR, or the data with its checksum. -/
theorem reply_get {header : FrameHeader} (hflat : header.Flat) {tier : DataTier}
    (hop : header.op = .str (pyStr (getOp tier))) {faults : IoFaults} {files : Files b.dirs} {payload : Bytes}
    {frame : Frame} (h : (processRequest rt b faults files header payload).2 = .ok frame) :
    (frame.IsError ∧ frame.header.Flat) ∨
      ∃ data, b.get files faults header.objectId tier = .ok (some data) ∧
        frame.header = getResponse rt header data tier ∧ frame.payload = data := by
  have herror : ∀ {errorMsg : PyStr}, errorResponse header errorMsg = .ok frame →
      frame.IsError ∧ frame.header.Flat :=
    fun he => ⟨errorResponse_isError he, errorResponse_flat hflat he⟩
  rw [processRequest, dispatch_get rt b faults hop] at h
  cases hhandled : handleGet rt b faults files header tier with
  | error e =>
    simp only [hhandled] at h
    exact Or.inl (herror h)
  | ok frame' =>
    simp only [hhandled] at h
    cases h
    obtain ⟨data, hdata, hreply⟩ := Py.bind_eq_ok.mp hhandled
    cases data with
    | none => exact Or.inl (herror hreply)
    | some data => exact Or.inr ⟨data, hdata, frameOf_ok hreply⟩

/-! ## What an exchange does -/

theorem arrived_get {x : Exchange} {objectId : PyStr} {tier : DataTier} {requestId : PyStr}
    (hx : x.op = .get objectId tier requestId) : x.arrived = [] := by
  rw [Exchange.arrived, hx]
  rfl

/-- A GET request is not altered. -/
theorem serve_get {x : Exchange} {objectId : PyStr} {tier : DataTier} {requestId : PyStr}
    (hx : x.op = .get objectId tier requestId) (files : Files b.dirs) {reply : Bytes}
    (hreply : (x.serve rt b files).2 = some reply) :
    ∃ frame : Frame, reply = frame.bytes ∧
      ((frame.IsError ∧ frame.header.Flat) ∨ ∃ header data, header.Flat ∧
        b.get files x.faults (.str (joinPairs objectId)) tier = .ok (some data) ∧
        frame.header = getResponse rt header data tier ∧ frame.payload = data) := by
  by_cases hfits : FrameFits (x.op.header rt) x.op.payload
  · rw [serve_eq hfits, arrived_get hx] at hreply
    have hflat : (received (x.op.header rt) []).Flat := received_flat (DataOp.header_flat rt x.op) []
    have hop : (received (x.op.header rt) []).op = .str (pyStr (getOp tier)) := by
      rw [hx]
      exact joined_pyStr _
    cases hprocess : (processRequest rt b x.faults files (received (x.op.header rt) []) []).2 with
    | error e =>
      rw [hprocess] at hreply
      cases hreply
    | ok frame =>
      rw [hprocess] at hreply
      cases hreply
      refine ⟨frame, rfl, (reply_get hflat hop hprocess).imp_right ?_⟩
      rintro ⟨data, hdata, hframe⟩
      rw [hx] at hdata
      exact ⟨_, data, hflat, hdata, hframe⟩
  · rw [serve_unsent hfits] at hreply
    cases hreply

/-- **What a GET gives the client**: nothing, or unaltered data from the disk. -/
theorem getResult_arrived (hrt : CollisionFree rt) {x : Exchange} {objectId : PyStr} {tier : DataTier}
    {requestId : PyStr} (hx : x.op = .get objectId tier requestId) {files : Files b.dirs} {reply : Bytes}
    (hreply : (x.serve rt b files).2 = some reply) :
    DataClient.getResult rt (some (x.alteration.alter reply)) = none ∨
      x.alteration.alter reply = reply ∧ ∃ data,
        b.get files x.faults (.str (joinPairs objectId)) tier = .ok (some data) ∧
        DataClient.getResult rt (some (x.alteration.alter reply)) = some data := by
  obtain ⟨frame, rfl, ⟨herror, hflat⟩ | ⟨header, data, hflat, hdata, hheader, hpayload⟩⟩ :=
    serve_get hx files hreply
  · left
    exact getResult_isError (x.alteration.onFrame frame) hflat herror
  by_cases hsame : x.alteration.alter frame.bytes = frame.bytes
  · right
    refine ⟨hsame, data, hdata, ?_⟩
    rw [hsame, getResult_getResponse hrt hflat frame hheader, if_pos hpayload]
  · left
    have hchanged : (x.alteration.onFrame frame).payload ≠ data := by
      rw [← hpayload]
      exact x.alteration.apply_ne_of_alter_ne hsame
    have hresult := getResult_getResponse hrt hflat (x.alteration.onFrame frame) hheader
    rwa [if_neg hchanged] at hresult

theorem result_get {x : Exchange} {objectId : PyStr} {tier : DataTier} {requestId : PyStr}
    (hx : x.op = .get objectId tier requestId) (reply : Option Bytes) :
    x.op.result rt (reply.map x.onReply) =
      .fetched (DataClient.getResult rt (reply.map x.alteration.alter)) := by
  have halter : x.onReply = x.alteration.alter := by
    funext reply
    rw [Exchange.onReply, hx]
  rw [halter, hx]
  rfl

/-- **An altered reply gives the client nothing.** -/
theorem result_altered_reply (hrt : CollisionFree rt) {x : Exchange} {files : Files b.dirs}
    (hx : x.AltersReply rt b files) :
    x.op.result rt ((x.serve rt b files).2.map x.onReply) = .fetched none := by
  obtain ⟨objectId, tier, requestId, reply, hget, hreply, hne⟩ := hx.op
  rw [result_get hget, hreply, Option.map_some]
  rcases getResult_arrived hrt hget hreply with hnone | ⟨hsame, -⟩
  · rw [hnone]
  · exact absurd hsame hne

/-- **What a GET returns** is in the file that its object id denotes. -/
theorem stored_of_fetched (hrt : CollisionFree rt) {x : Exchange} {objectId : PyStr} {tier : DataTier}
    {requestId : PyStr} (hx : x.op = .get objectId tier requestId) {files : Files b.dirs} {d : Bytes}
    (h : x.op.result rt ((x.serve rt b files).2.map x.onReply) = .fetched (some d)) :
    ∃ e, b.target tier (joinPairs objectId) = .entry e ∧ files.get? e = some d := by
  rw [result_get hx, DataAnswer.fetched.injEq] at h
  cases hreply : (x.serve rt b files).2 with
  | none =>
    rw [hreply] at h
    cases h
  | some reply =>
    rw [hreply, Option.map_some] at h
    rcases getResult_arrived hrt hx hreply with hnone | ⟨-, data, hdata, hsome⟩
    · rw [hnone] at h
      cases h
    · rw [hsome] at h
      cases h
      exact LocalDiskBackend.get_eq_some hdata

/-! ## What is stored -/

/-- What a write leaves in its file: a write that raises leaves what it has written. -/
def IoFaults.written (faults : IoFaults) (data : Bytes) : Bytes :=
  match faults.writeFails with
  | some k => data.take k
  | none => data

/-- The exchange is an unaltered PUT to the file `e`, whose write leaves the bytes `d`. -/
def Exchange.Gives (b : LocalDiskBackend) (x : Exchange) (e : b.dirs.Entry) (d : Bytes) : Prop :=
  ∃ objectId data tier codec requestId, x.op = .put objectId data tier codec requestId ∧ ¬ x.AltersPut ∧
    b.target tier (joinPairs objectId) = .entry e ∧ d = x.faults.written data

/-- Deleting adds nothing. -/
theorem get?_of_deleteFiles {faults : IoFaults} {tier : DataTier} {s : PyStr} {files : Files b.dirs}
    {e : b.dirs.Entry} {d : Bytes} (h : (deleteFiles b faults tier s files).get? e = some d) :
    files.get? e = some d := by
  cases hget : files.get? e with
  | none =>
    rw [deleteFiles_none hget] at h
    cases h
  | some d' =>
    unfold deleteFiles at h
    split at h
    · split_ifs at h
      · rw [← hget, (Dict.get?_erase_eq_some.mp h).2]
      · rw [← hget, h]
    · rw [← hget, h]

/-- A PUT that opens a file writes its payload. -/
theorem dispatch_writes {faults : IoFaults} {header : FrameHeader} {payload : Bytes} {tier : DataTier}
    {e : b.dirs.Entry} (h : PutOpens rt b faults header payload tier e) (files : Files b.dirs) :
    (dispatch rt b faults files header payload).1 = files.insert e (faults.written payload) := by
  rw [dispatch_opens h, IoFaults.written]
  cases faults.writeFails <;> rfl

/-- What an unaltered PUT leaves in a file was there, or was given for it. -/
theorem held_put {x : Exchange} (hfits : FrameFits (x.op.header rt) x.op.payload) (hx : ¬ x.AltersPut)
    {objectId : PyStr} {data : Bytes} {tier : DataTier} {codec requestId : PyStr}
    (hop : x.op = .put objectId data tier codec requestId) {files : Files b.dirs} {e : b.dirs.Entry} {d : Bytes}
    (h : (x.serve rt b files).1.get? e = some d) : files.get? e = some d ∨ x.Gives b e d := by
  rw [serve_eq hfits, processRequest_files] at h
  by_cases hopens : ∃ e', PutOpens rt b x.faults (received (x.op.header rt) x.arrived) x.arrived tier e'
  · obtain ⟨e', hopens⟩ := hopens
    obtain ⟨s, hs, htarget⟩ := hopens.target
    rw [dispatch_writes hopens, Dict.get?_insert] at h
    split_ifs at h with he
    · right
      rw [hop] at hs
      have hsame : x.arrived = data := by
        unfold Exchange.AltersPut at hx
        rw [hop] at hx
        rw [Exchange.arrived, hop]
        exact not_not.mp hx
      rw [hsame] at h
      refine ⟨objectId, data, tier, codec, requestId, hop, hx, ?_, (Option.some.inj h).symm⟩
      rw [he, ← htarget, ← Json.str.inj hs]
    · exact Or.inl h
  · have hput : (received (x.op.header rt) x.arrived).op = .str (pyStr (putOp tier)) := by
      rw [hop]
      exact joined_pyStr _
    rw [dispatch_unopened hput fun e' he' => hopens ⟨e', he'⟩] at h
    exact Or.inl h

/-- A GET writes nothing. -/
theorem held_get {x : Exchange} (hfits : FrameFits (x.op.header rt) x.op.payload) {objectId requestId : PyStr}
    {tier : DataTier} (hop : x.op = .get objectId tier requestId) (files : Files b.dirs) :
    (x.serve rt b files).1 = files := by
  have hget : (received (x.op.header rt) []).op = .str (pyStr (getOp tier)) := by
    rw [hop]
    exact joined_pyStr _
  rw [serve_eq hfits, processRequest_files, arrived_get hop, dispatch_get rt b x.faults hget]

/-- What a DELETE leaves in a file was there. -/
theorem held_delete {x : Exchange} (hfits : FrameFits (x.op.header rt) x.op.payload)
    {objectId requestId tier codec checksum : PyStr} {deadlineMs : ℤ} {payload : Bytes}
    (hop : x.op = .delete objectId requestId tier codec checksum deadlineMs payload) {files : Files b.dirs}
    {e : b.dirs.Entry} {d : Bytes} (h : (x.serve rt b files).1.get? e = some d) : files.get? e = some d := by
  have hdelete : (received (x.op.header rt) x.arrived).op = .str (pyStr "DELETE") := by
    rw [hop]
    exact joined_pyStr _
  have hs : (received (x.op.header rt) x.arrived).objectId = .str (joinPairs objectId) := by
    rw [hop]
    rfl
  rw [serve_eq hfits, processRequest_files, dispatch_deletes hdelete hs] at h
  exact get?_of_deleteFiles (get?_of_deleteFiles h)

/-- **Step lemma**: what a file holds after an exchange it held before, or it was given. -/
theorem held_step (hrt : CollisionFree rt) {x : Exchange} {files : Files b.dirs} {e : b.dirs.Entry}
    {d : Bytes} (h : (x.serve rt b files).1.get? e = some d) : files.get? e = some d ∨ x.Gives b e d := by
  by_cases hfits : FrameFits (x.op.header rt) x.op.payload
  · by_cases hx : x.AltersPut
    · obtain ⟨frame, hserve, -⟩ := serve_altered_put hrt hx hfits files
      rw [hserve] at h
      exact Or.inl h
    cases hop : x.op with
    | put objectId data tier codec requestId => exact held_put hfits hx hop h
    | get objectId tier requestId =>
      rw [held_get hfits hop] at h
      exact Or.inl h
    | delete objectId requestId tier codec checksum deadlineMs payload => exact Or.inl (held_delete hfits hop h)
  · rw [serve_unsent hfits] at h
    exact Or.inl h

/-- The bytes were given to a PUT of the run for the file, or were there at the start. -/
def Given (files : Files b.dirs) (xs : List Exchange) (e : b.dirs.Entry) (d : Bytes) : Prop :=
  files.get? e = some d ∨ ∃ x ∈ xs, x.Gives b e d

/-- **Run lemma.** -/
theorem held_exec (hrt : CollisionFree rt) (files : Files b.dirs) (xs : List Exchange) {e : b.dirs.Entry}
    {d : Bytes} (h : ((transitService rt b files).exec xs).get? e = some d) : Given files xs e d := by
  induction xs using List.reverseRecOn with
  | nil => exact Or.inl h
  | append_singleton xs x ih =>
    rw [Machine.exec_snoc] at h
    rcases held_step hrt h with hbefore | hgives
    · rcases ih hbefore with hstart | ⟨y, hy, hgives⟩
      · exact Or.inl hstart
      · exact Or.inr ⟨y, List.mem_append_left _ hy, hgives⟩
    · exact Or.inr ⟨x, by simp, hgives⟩

/-! ## Runs -/

/-- Payloads are intact at an exchange `x` after the exchanges `pre`. -/
structure IntactAt (rt : Runtime) (b : LocalDiskBackend) (files : Files b.dirs) (pre : List Exchange)
    (x : Exchange) : Prop where
  /-- An altered PUT that was sent is answered with an ERROR. -/
  put_error : x.AltersPut → FrameFits (x.op.header rt) x.op.payload → ∃ frame : Frame,
    (x.serve rt b ((transitService rt b files).exec pre)).2 = some frame.bytes ∧ frame.IsError
  /-- An altered PUT stores nothing, and `put` returns `False`. -/
  put_refused : x.AltersPut →
    (transitService rt b files).exec (pre ++ [x]) = (transitService rt b files).exec pre ∧
      (transitService rt b files).answer pre x = .stored false
  /-- A `get` whose reply is altered returns `None`. -/
  get_refused : x.AltersReply rt b ((transitService rt b files).exec pre) →
    (transitService rt b files).answer pre x = .fetched none
  /-- What the server stores was given to a PUT for that file. -/
  stored : ∀ e d, ((transitService rt b files).exec (pre ++ [x])).get? e = some d → Given files (pre ++ [x]) e d
  /-- What a `get` returns was given to a PUT for the file of its object. -/
  fetched : ∀ objectId tier requestId d, x.op = .get objectId tier requestId →
    (transitService rt b files).answer pre x = .fetched (some d) →
      ∃ e, b.target tier (joinPairs objectId) = .entry e ∧ Given files pre e d

/-- **Payload integrity in transit.** -/
theorem payload_integrity (hrt : CollisionFree rt) (files : Files b.dirs) (xs : List Exchange) :
    EveryStep (IntactAt rt b files) xs := by
  rintro pre x post rfl
  have hanswer : (transitService rt b files).answer pre x =
      x.op.result rt ((x.serve rt b ((transitService rt b files).exec pre)).2.map x.onReply) := rfl
  have hexec : (transitService rt b files).exec (pre ++ [x]) =
      (x.serve rt b ((transitService rt b files).exec pre)).1 := Machine.exec_snoc _ _ _
  constructor
  · intro hx hfits
    obtain ⟨frame, hserve, herror, -⟩ :=
      serve_altered_put hrt hx hfits ((transitService rt b files).exec pre)
    exact ⟨frame, by rw [hserve], herror⟩
  · intro hx
    rw [hexec, hanswer]
    exact refused_altered_put hrt hx _
  · intro hx
    rw [hanswer]
    exact result_altered_reply hrt hx
  · intro e d hd
    exact held_exec hrt files _ hd
  · intro objectId tier requestId d hx hd
    rw [hanswer] at hd
    obtain ⟨e, htarget, hget⟩ := stored_of_fetched hrt hx hd
    exact ⟨e, htarget, held_exec hrt files pre hget⟩

end Transit

/-! ## An altered run -/

/-- A text for each byte string. -/
def byteText (data : Bytes) : String := String.ofList ('x' :: data.map (fun c => Char.ofNat c.toNat))

theorem byteText_injective : byteText.Injective := by
  intro data data' h
  have htails := (List.cons.inj (String.ofList_injective h)).2
  refine List.map_injective_iff.mpr (fun c d hcd => ?_) htails
  have hvalid : ∀ n < 256, (Char.ofNat n).toNat = n := by decide +kernel
  rw [← UInt8.toNat_inj, ← hvalid _ c.toNat_lt, ← hvalid _ d.toNat_lt, hcd]

/-- SHA-256 of the payloads of the examples, and digests of their own for all others. -/
def distinctSha256 (data : Bytes) : String :=
  if data = [0x41] ∨ data = [0x42] then exampleSha256 data else byteText data

/-- An interpreter whose digests do not collide. -/
def distinctRuntime : Runtime := ⟨fun repr => repr, fun _ => [], distinctSha256⟩

/-- The digests of the examples do not begin like the other texts. -/
theorem exampleSha256_ne_byteText {data : Bytes} (hdata : data = [0x41] ∨ data = [0x42]) (data' : Bytes) :
    exampleSha256 data ≠ byteText data' := by
  intro h
  have hhead := congrArg (fun s => s.toList.head?) h
  rw [byteText] at hhead
  simp only [String.toList_ofList, List.head?_cons] at hhead
  rcases hdata with rfl | rfl
  · exact absurd hhead (by decide +kernel)
  · exact absurd hhead (by decide +kernel)

theorem distinctRuntime_collisionFree : CollisionFree distinctRuntime where
  injective data data' h := by
    have h : distinctSha256 data = distinctSha256 data' := h
    unfold distinctSha256 at h
    split_ifs at h with hdata hdata' hdata'
    · rcases hdata with rfl | rfl <;> rcases hdata' with rfl | rfl
      · rfl
      · exact absurd h (by decide +kernel)
      · exact absurd h (by decide +kernel)
      · rfl
    · exact absurd h (exampleSha256_ne_byteText hdata data')
    · exact absurd h.symm (exampleSha256_ne_byteText hdata' data)
    · exact byteText_injective h
  nonempty data := by
    show distinctSha256 data ≠ ""
    unfold distinctSha256
    split_ifs with hdata
    · rcases hdata with rfl | rfl
      · decide +kernel
      · decide +kernel
    · intro h
      have htext := congrArg String.toList h
      simp [byteText] at htext

/-- Another letter. -/
def otherLetter : Alteration where
  apply payload := payload.map (fun c => if c = 0x41 then 0x42 else c)
  length_apply _ := List.length_map _

/-- A PUT that is altered, one that is not, and a GET whose reply is altered. -/
def alteredRun : List Exchange :=
  [⟨.put (pyStr "a") [0x41] .critical (pyStr "int8_symm") [], {}, otherLetter⟩,
    ⟨.put (pyStr "a") [0x41] .critical (pyStr "int8_symm") [], {}, .none⟩,
    ⟨.get (pyStr "a") .critical [], {}, otherLetter⟩]

theorem payload_integrity_altered :
    EveryStep (IntactAt distinctRuntime exampleBackend Dict.empty) alteredRun :=
  payload_integrity distinctRuntime_collisionFree Dict.empty alteredRun

example : ((transitService distinctRuntime exampleBackend Dict.empty).trace alteredRun).map Prod.snd =
    [.stored false, .stored true, .fetched none] := by
  decide +kernel

end AwareKV
