import AwareKV.DiskBackend
import AwareKV.Lib.Machine
import AwareKV.Protocol

/-!
# AwareKV.DataService — the data server and its client

Translation of `transport/data_server.py` (`_process_request`, the handlers, the body of the loop of
`_handle_client`) and of `transport/data_client.py`.  A reply is a `Frame`, which carries its bytes
with the proof that they are its encoding.  The client's connection is a call of the server: a
connection that is closed without a reply answers `none`.

* `processRequest_files`: the reply does not undo what a handler did to the files.
* `get_of_reply`: a client that gets the reply of a successful GET returns its payload.
-/

namespace AwareKV

/-! ## Interpreter -/

/-- What the interpreter and `hashlib` compute: `float.__repr__`, the text of a list or dictionary,
and `hashlib.sha256(data).hexdigest()`. -/
structure Runtime where
  floatRepr : PyStr → PyStr
  containerText : Json → PyStr
  sha256Hex : Bytes → String

/-- `compute_checksum`. -/
def computeChecksum (rt : Runtime) (data : Bytes) : PyStr := pyStr (rt.sha256Hex data)

/-- `bool(j)`. -/
def Json.truthy : Json → Bool
  | .null => false
  | .bool b => b
  | .int i => i ≠ 0
  | .float repr => repr ≠ pyStr "0.0" ∧ repr ≠ pyStr "-0.0"
  | .str s => s ≠ []
  | .arr items => !items.isEmpty
  | .obj fields => !fields.isEmpty

/-- `j == s` for a string `s`. -/
def Json.eqStr (j : Json) (s : PyStr) : Bool :=
  match j with
  | .str t => t = s
  | _ => false

theorem eqStr_iff {j : Json} {s : PyStr} : j.eqStr s = true ↔ j = .str s := by
  cases j <;> simp [Json.eqStr]

theorem eqStr_pyStr (s t : String) : (Json.str (pyStr s)).eqStr (pyStr t) = decide (s = t) :=
  decide_eq_decide.mpr ⟨pyStr_inj, fun h => congrArg pyStr h⟩

/-- `f"{j}"`. -/
def Json.format (rt : Runtime) : Json → Py PyStr
  | .null => .ok (pyStr "None")
  | .bool b => .ok (pyStr (if b then "True" else "False"))
  | .int i => intText i
  | .float repr => .ok repr
  | .str s => .ok s
  | .arr items => .ok (rt.containerText (.arr items))
  | .obj fields => .ok (rt.containerText (.obj fields))

/-! ## Frames -/

/-- A frame with its bytes. -/
structure Frame where
  header : FrameHeader
  payload : Bytes
  bytes : Bytes
  encoded : encodeFrame header payload = .ok bytes

/-- `encode_frame`. -/
def frameOf (header : FrameHeader) (payload : Bytes) : Py Frame :=
  match h : encodeFrame header payload with
  | .ok bytes => .ok ⟨header, payload, bytes, h⟩
  | .error e => .error e

/-- Header and payload are shorter than `2^32` bytes. -/
def FrameFits (header : FrameHeader) (payload : Bytes) : Prop :=
  ∃ json, header.headerJson = .ok json ∧ json.length < 2 ^ 32 ∧ payload.length < 2 ^ 32

theorem frameFits_iff {header : FrameHeader} {payload : Bytes} :
    FrameFits header payload ↔ ∃ bytes, encodeFrame header payload = .ok bytes := by
  constructor
  · rintro ⟨json, hjson, hjlt, hplt⟩
    exact ⟨_, encodeFrame_eq_ok.mpr ⟨json, hjson, hjlt, hplt, rfl⟩⟩
  · rintro ⟨bytes, hbytes⟩
    obtain ⟨json, hjson, hjlt, hplt, -⟩ := encodeFrame_eq_ok.mp hbytes
    exact ⟨json, hjson, hjlt, hplt⟩

theorem frameFits_of_isOk {header : FrameHeader} {payload : Bytes}
    (h : (encodeFrame header payload).isOk = true) : FrameFits header payload := by
  refine frameFits_iff.mpr ?_
  cases hbytes : encodeFrame header payload with
  | ok bytes => exact ⟨bytes, rfl⟩
  | error e =>
    rw [hbytes] at h
    cases h

/-- A header of strings fits when they are not too long. -/
theorem frameFits_textHeader {op requestId objectId tier codec checksum : PyStr} {payloadNbytes : ℤ}
    {payload : Bytes} (hheader : op.length + requestId.length + objectId.length + tier.length +
      codec.length + checksum.length < 2 ^ 28) (hpayload : payload.length < 2 ^ 32) :
    FrameFits (textHeader op requestId objectId tier codec checksum payloadNbytes) payload := by
  obtain ⟨json, hjson, hlen⟩ := textHeader_json op requestId objectId tier codec checksum payloadNbytes
  have hop := length_jsonStr_le op
  have hrequest := length_jsonStr_le requestId
  have hobject := length_jsonStr_le objectId
  have htier := length_jsonStr_le tier
  have hcodec := length_jsonStr_le codec
  have hchecksum := length_jsonStr_le checksum
  unfold headerOverhead at hlen
  exact ⟨json, hjson, by omega, hpayload⟩

theorem frameOf_ok {header : FrameHeader} {payload : Bytes} {frame : Frame}
    (h : frameOf header payload = .ok frame) : frame.header = header ∧ frame.payload = payload := by
  unfold frameOf at h
  split at h
  · cases h
    exact ⟨rfl, rfl⟩
  · cases h

theorem frameOf_fits {header : FrameHeader} {payload : Bytes} {frame : Frame}
    (h : frameOf header payload = .ok frame) : FrameFits header payload := by
  obtain ⟨rfl, rfl⟩ := frameOf_ok h
  exact frameFits_iff.mpr ⟨_, frame.encoded⟩

theorem frameOf_of_fits {header : FrameHeader} {payload : Bytes} (h : FrameFits header payload) :
    ∃ frame, frameOf header payload = .ok frame := by
  obtain ⟨bytes, hbytes⟩ := frameFits_iff.mp h
  unfold frameOf
  split
  · exact ⟨_, rfl⟩
  · next e he =>
    rw [hbytes] at he
    cases he

/-- `FRAME_OP_GET_CRITICAL` and `FRAME_OP_GET_REFINEMENT`. -/
def getOp : DataTier → String
  | .critical => "GET_CRITICAL"
  | .refinement => "GET_REFINEMENT"

/-- `FRAME_OP_PUT_CRITICAL` and `FRAME_OP_PUT_REFINEMENT`. -/
def putOp : DataTier → String
  | .critical => "PUT_CRITICAL"
  | .refinement => "PUT_REFINEMENT"

/-! ## Server -/

namespace DataServer

/-- `error_header` of `_error_response`, for a text of `n` characters. -/
def errorHeader (header : FrameHeader) (n : ℕ) : FrameHeader :=
  { op := .str (pyStr "ERROR"), requestId := header.requestId, objectId := header.objectId,
    tier := .str [], codec := .str [], payloadNbytes := n, checksum := .str [], deadlineMs := .int 0 }

/-- `_error_response`. -/
def errorResponse (header : FrameHeader) (errorMsg : PyStr) : Py Frame := do
  let payload ← encodeUtf8 errorMsg
  frameOf (errorHeader header errorMsg.length) payload

/-- `response_header` of the handlers. -/
def responseHeader (header : FrameHeader) (tier codec : Json) (payloadNbytes : ℕ) (checksum : PyStr) :
    FrameHeader :=
  { op := .str (pyStr "RESPONSE"), requestId := header.requestId, objectId := header.objectId,
    tier := tier, codec := codec, payloadNbytes := payloadNbytes, checksum := .str checksum,
    deadlineMs := .int 0 }

/-- `b"OK"`. -/
def okBytes : Bytes := [0x4F, 0x4B]

section Handlers

variable (rt : Runtime) (b : LocalDiskBackend) (faults : IoFaults)

/-- The response header of `_handle_get`. -/
def getResponse (header : FrameHeader) (data : Bytes) (tier : DataTier) : FrameHeader :=
  responseHeader header (.str (pyStr tier.name)) header.codec data.length (computeChecksum rt data)

/-- The response header of `_handle_put`. -/
def putResponse (header : FrameHeader) (tier : DataTier) : FrameHeader :=
  responseHeader header (.str (pyStr tier.name)) header.codec 0 []

/-- The response header of `_handle_delete`. -/
def deleteResponse (header : FrameHeader) : FrameHeader := responseHeader header (.str []) (.str []) 0 []

/-- `_handle_get`. -/
def handleGet (files : Files b.dirs) (header : FrameHeader) (tier : DataTier) : Py Frame := do
  let data ← b.get files faults header.objectId tier
  match data with
  | none => errorResponse header (pyStr "Object not found")
  | some data => frameOf (getResponse rt header data tier) data

/-- The check of a PUT: `header.checksum and not verify_checksum(payload, header.checksum)` is false. -/
def checksumPasses (header : FrameHeader) (payload : Bytes) : Bool :=
  !header.checksum.truthy || header.checksum.eqStr (computeChecksum rt payload)

/-- `_handle_put`. -/
def handlePut (files : Files b.dirs) (header : FrameHeader) (payload : Bytes) (tier : DataTier) :
    Files b.dirs × Py Frame :=
  if checksumPasses rt header payload then
    match b.put files faults header.objectId payload tier with
    | .error e => (files, .error e)
    | .ok (files, success) =>
      if success then (files, frameOf (putResponse header tier) okBytes)
      else (files, errorResponse header (pyStr "Failed to store object"))
  else (files, errorResponse header (pyStr "Checksum mismatch"))

/-- `_handle_delete`. -/
def handleDelete (files : Files b.dirs) (header : FrameHeader) : Files b.dirs × Py Frame :=
  match b.delete files faults header.objectId .critical with
  | .error e => (files, .error e)
  | .ok (files, _) =>
    match b.delete files faults header.objectId .refinement with
    | .error e => (files, .error e)
    | .ok (files, _) => (files, frameOf (deleteResponse header) okBytes)

/-- The `try` block of `_process_request`. -/
def dispatch (files : Files b.dirs) (header : FrameHeader) (payload : Bytes) : Files b.dirs × Py Frame :=
  if header.op.eqStr (pyStr (getOp .critical)) then (files, handleGet rt b faults files header .critical)
  else if header.op.eqStr (pyStr (getOp .refinement)) then
    (files, handleGet rt b faults files header .refinement)
  else if header.op.eqStr (pyStr (putOp .critical)) then
    handlePut rt b faults files header payload .critical
  else if header.op.eqStr (pyStr (putOp .refinement)) then
    handlePut rt b faults files header payload .refinement
  else if header.op.eqStr (pyStr "DELETE") then handleDelete b faults files header
  else
    (files, do
      let op ← header.op.format rt
      errorResponse header (pyStr "Unknown op: " ++ op))

/-- `_process_request`: an exception is answered with its text. -/
def processRequest (files : Files b.dirs) (header : FrameHeader) (payload : Bytes) :
    Files b.dirs × Py Frame :=
  match dispatch rt b faults files header payload with
  | (files, .ok frame) => (files, .ok frame)
  | (files, .error e) => (files, errorResponse header (pyStr e.msg))

/-- What goes out: an exception closes the connection. -/
def sentReply (reply : Py Frame) : Option Bytes :=
  match reply with
  | .error _ => none
  | .ok frame => some frame.bytes

/-- The body of the loop of `_handle_client`, for a frame that was received: the reply that is sent,
if the connection is not closed before. -/
def answerFrame (files : Files b.dirs) (frame : Bytes) : Files b.dirs × Option Bytes :=
  match decodeFrame rt.floatRepr frame with
  | .error _ => (files, none)
  | .ok (header, payload) =>
    let r := processRequest rt b faults files header payload
    (r.1, sentReply r.2)

theorem dispatch_get {header : FrameHeader} {tier : DataTier} (h : header.op = .str (pyStr (getOp tier)))
    (files : Files b.dirs) (payload : Bytes) :
    dispatch rt b faults files header payload = (files, handleGet rt b faults files header tier) := by
  cases tier <;> simp [dispatch, h, eqStr_pyStr, getOp]

theorem dispatch_put {header : FrameHeader} {tier : DataTier} (h : header.op = .str (pyStr (putOp tier)))
    (files : Files b.dirs) (payload : Bytes) :
    dispatch rt b faults files header payload = handlePut rt b faults files header payload tier := by
  cases tier <;> simp [dispatch, h, eqStr_pyStr, getOp, putOp]

theorem dispatch_delete {header : FrameHeader} (h : header.op = .str (pyStr "DELETE"))
    (files : Files b.dirs) (payload : Bytes) :
    dispatch rt b faults files header payload = handleDelete b faults files header := by
  simp [dispatch, h, eqStr_pyStr, getOp, putOp]

/-- Only PUT and DELETE change files. -/
theorem dispatch_other {header : FrameHeader} (hput : ∀ tier, header.op ≠ .str (pyStr (putOp tier)))
    (hdelete : header.op ≠ .str (pyStr "DELETE")) (files : Files b.dirs) (payload : Bytes) :
    (dispatch rt b faults files header payload).1 = files := by
  unfold dispatch
  split_ifs with h1 h2 h3 h4 h5
  · rfl
  · rfl
  · exact absurd (eqStr_iff.mp h3) (hput .critical)
  · exact absurd (eqStr_iff.mp h4) (hput .refinement)
  · exact absurd (eqStr_iff.mp h5) hdelete
  · rfl

/-- A reply does not undo what a handler did. -/
theorem processRequest_files (files : Files b.dirs) (header : FrameHeader) (payload : Bytes) :
    (processRequest rt b faults files header payload).1 = (dispatch rt b faults files header payload).1 := by
  unfold processRequest
  split <;> simp_all

end Handlers

end DataServer

/-! ## Client -/

namespace DataClient

section Requests

variable (rt : Runtime)

/-- `header` of `_get`. -/
def getHeader (objectId : PyStr) (tier : DataTier) (requestId : PyStr) : FrameHeader :=
  { op := .str (pyStr (getOp tier)), requestId := .str requestId, objectId := .str objectId,
    tier := .str (pyStr tier.name), codec := .str [], payloadNbytes := 0, checksum := .str [],
    deadlineMs := .int 0 }

/-- `header` of `_put`. -/
def putHeader (objectId : PyStr) (data : Bytes) (tier : DataTier) (codec requestId : PyStr) : FrameHeader :=
  { op := .str (pyStr (putOp tier)), requestId := .str requestId, objectId := .str objectId,
    tier := .str (pyStr tier.name), codec := .str codec, payloadNbytes := data.length,
    checksum := .str (computeChecksum rt data), deadlineMs := .int 0 }

/-- What `_get` returns on a reply. -/
def getResult (reply : Option Bytes) : Option Bytes :=
  match reply with
  | none => none
  | some bytes =>
    match decodeFrame rt.floatRepr bytes with
    | .error _ => none
    | .ok (header, payload) =>
      if header.op.eqStr (pyStr "ERROR") then none
      else if header.checksum.truthy && !header.checksum.eqStr (computeChecksum rt payload) then none
      else some payload

/-- `_get`, where `network` is what a sent frame is answered with; `none` if connecting, sending or
receiving fails. -/
def get (network : Bytes → Option Bytes) (objectId : PyStr) (tier : DataTier) (requestId : PyStr) :
    Option Bytes :=
  match encodeFrame (getHeader objectId tier requestId) [] with
  | .error _ => none
  | .ok frame => getResult rt (network frame)

/-- What `_put` returns on a reply. -/
def putResult (reply : Option Bytes) : Bool :=
  match reply with
  | none => false
  | some bytes =>
    match decodeFrame rt.floatRepr bytes with
    | .error _ => false
    | .ok (header, _) => !header.op.eqStr (pyStr "ERROR")

end Requests

end DataClient

/-! ## Client and server -/

/-- A call of the client, or a DELETE request. -/
inductive DataOp
  | put (objectId : PyStr) (data : Bytes) (tier : DataTier) (codec requestId : PyStr)
  | get (objectId : PyStr) (tier : DataTier) (requestId : PyStr)
  | delete (objectId requestId tier codec checksum : PyStr) (deadlineMs : ℤ) (payload : Bytes)

/-- What the caller gets. -/
inductive DataAnswer
  | stored (ok : Bool)
  | fetched (data : Option Bytes)
  | replied (reply : Option Bytes)
  deriving DecidableEq

namespace DataOp

/-- The header of the request. -/
def header (rt : Runtime) : DataOp → FrameHeader
  | put objectId data tier codec requestId => DataClient.putHeader rt objectId data tier codec requestId
  | get objectId tier requestId => DataClient.getHeader objectId tier requestId
  | delete objectId requestId tier codec checksum deadlineMs payload =>
    { op := .str (pyStr "DELETE"), requestId := .str requestId, objectId := .str objectId,
      tier := .str tier, codec := .str codec, payloadNbytes := payload.length, checksum := .str checksum,
      deadlineMs := .int deadlineMs }

/-- The payload of the request. -/
def payload : DataOp → Bytes
  | put _ data _ _ _ => data
  | get _ _ _ => []
  | delete _ _ _ _ _ _ payload => payload

/-- The object id of the request. -/
def objectId : DataOp → PyStr
  | put objectId _ _ _ _ => objectId
  | get objectId _ _ => objectId
  | delete objectId _ _ _ _ _ _ => objectId

/-- What the caller makes of the reply. -/
def result (rt : Runtime) (reply : Option Bytes) : DataOp → DataAnswer
  | put _ _ _ _ _ => .stored (DataClient.putResult rt reply)
  | get _ _ _ => .fetched (DataClient.getResult rt reply)
  | delete _ _ _ _ _ _ _ => .replied reply

theorem header_flat (rt : Runtime) (op : DataOp) : (op.header rt).Flat := by
  cases op <;> simp [FrameHeader.Flat, FrameHeader.headerDict, header, DataClient.putHeader,
    DataClient.getHeader, Json.Flat]

end DataOp

section Service

variable (rt : Runtime) (b : LocalDiskBackend)

/-- A request that is sent, and the reply that comes back. -/
def exchange (files : Files b.dirs) (header : FrameHeader) (payload : Bytes) :
    Files b.dirs × Option Bytes :=
  match encodeFrame header payload with
  | .error _ => (files, none)
  | .ok frame => DataServer.answerFrame rt b {} files frame

/-- The service as its callers see it, from the given files. -/
def dataService (files : Files b.dirs) : Machine (Files b.dirs) DataOp DataAnswer where
  init := files
  step files op :=
    let r := exchange rt b files (op.header rt) op.payload
    (r.1, op.result rt r.2)

variable {rt b}

/-- The header that the server reads of a request. -/
def received (header : FrameHeader) (payload : Bytes) : FrameHeader :=
  { header.joined with payloadNbytes := payload.length }

/-- **The server processes what the client sent.** -/
theorem exchange_eq {header : FrameHeader} {payload : Bytes} (hflat : header.Flat)
    (hfits : FrameFits header payload) (files : Files b.dirs) :
    exchange rt b files header payload =
      ((DataServer.processRequest rt b {} files (received header payload) payload).1,
        DataServer.sentReply (DataServer.processRequest rt b {} files (received header payload) payload).2) := by
  obtain ⟨frame, hframe⟩ := frameFits_iff.mp hfits
  have hdecode : decodeFrame rt.floatRepr (frame ++ []) = .ok (received header payload, payload) :=
    decodeFrame_encodeFrame hflat hframe []
  rw [List.append_nil] at hdecode
  rw [exchange, hframe]
  simp only [DataServer.answerFrame, hdecode]

/-- A frame is received as its header and payload. -/
theorem decodeFrame_frame {frame : Frame} (hflat : frame.header.Flat) :
    decodeFrame rt.floatRepr frame.bytes = .ok (received frame.header frame.payload, frame.payload) := by
  have hdecode : decodeFrame rt.floatRepr (frame.bytes ++ []) =
      .ok (received frame.header frame.payload, frame.payload) :=
    decodeFrame_encodeFrame hflat frame.encoded []
  rwa [List.append_nil] at hdecode

theorem joined_text {s : PyStr} (hs : SurrogateFree s) : (Json.str s).joined = .str s := by
  rw [Json.joined, joinPairs_of_surrogateFree hs]

theorem joined_pyStr (s : String) : (Json.str (pyStr s)).joined = .str (pyStr s) :=
  joined_text (surrogateFree_pyStr s)

theorem errorHeader_flat {header : FrameHeader} (h : header.Flat) (n : ℕ) :
    (DataServer.errorHeader header n).Flat := by
  simp only [FrameHeader.Flat, FrameHeader.headerDict, List.forall_mem_cons] at h ⊢
  exact ⟨trivial, h.2.1, h.2.2.1, trivial, trivial, trivial, trivial, by simp⟩

theorem getResponse_flat {header : FrameHeader} (h : header.Flat) (data : Bytes) (tier : DataTier) :
    (DataServer.getResponse rt header data tier).Flat := by
  simp only [FrameHeader.Flat, FrameHeader.headerDict, List.forall_mem_cons] at h ⊢
  exact ⟨trivial, h.2.1, h.2.2.1, trivial, h.2.2.2.2.1, trivial, trivial, by simp⟩

theorem received_flat {header : FrameHeader} (h : header.Flat) (payload : Bytes) :
    (received header payload).Flat := by
  have hjoined : ∀ j : Json, j.Flat → j.joined.Flat := by
    intro j hj
    cases j <;> trivial
  simp only [FrameHeader.Flat, FrameHeader.headerDict, List.forall_mem_cons] at h ⊢
  obtain ⟨h1, h2, h3, h4, h5, h6, h7, -⟩ := h
  exact ⟨hjoined _ h1, hjoined _ h2, hjoined _ h3, hjoined _ h4, hjoined _ h5, hjoined _ h6, hjoined _ h7,
    by simp⟩

/-- **An ERROR reply** gives the client nothing. -/
theorem getResult_error {header : FrameHeader} (hflat : header.Flat) {errorMsg : PyStr} {frame : Frame}
    (h : DataServer.errorResponse header errorMsg = .ok frame) :
    DataClient.getResult rt (some frame.bytes) = none := by
  obtain ⟨payload, -, hframe⟩ := Py.bind_eq_ok.mp h
  obtain ⟨hheader, -⟩ := frameOf_ok hframe
  have hop : (received frame.header frame.payload).op.eqStr (pyStr "ERROR") = true := by
    have hjoined : (received frame.header frame.payload).op = .str (pyStr "ERROR") := by
      rw [hheader]
      exact joined_pyStr _
    rw [hjoined, eqStr_pyStr, decide_eq_true_eq]
  have hdecode : decodeFrame rt.floatRepr frame.bytes = .ok (received frame.header frame.payload, frame.payload) :=
    decodeFrame_frame (by rw [hheader]; exact errorHeader_flat hflat _)
  simp only [DataClient.getResult, hdecode, hop, if_true]

/-- **The reply of a successful GET** gives the client its payload. -/
theorem getResult_response {header : FrameHeader} (hflat : header.Flat) {data : Bytes} {tier : DataTier}
    {frame : Frame} (h : frameOf (DataServer.getResponse rt header data tier) data = .ok frame) :
    DataClient.getResult rt (some frame.bytes) = some data := by
  obtain ⟨hheader, hpayload⟩ := frameOf_ok h
  have hop : (received frame.header frame.payload).op.eqStr (pyStr "ERROR") = false := by
    have hjoined : (received frame.header frame.payload).op = .str (pyStr "RESPONSE") := by
      rw [hheader]
      exact joined_pyStr _
    rw [hjoined, eqStr_pyStr, decide_eq_false_iff_not]
    decide
  have hchecksum : (received frame.header frame.payload).checksum.eqStr (computeChecksum rt data) = true := by
    have hjoined : (received frame.header frame.payload).checksum = .str (computeChecksum rt data) := by
      rw [hheader]
      exact joined_pyStr _
    rw [hjoined]
    simp [Json.eqStr]
  have hdecode : decodeFrame rt.floatRepr frame.bytes = .ok (received frame.header frame.payload, frame.payload) :=
    decodeFrame_frame (by rw [hheader]; exact getResponse_flat hflat _ _)
  rw [hpayload] at hop hchecksum hdecode
  simp only [DataClient.getResult, hdecode, hop, hchecksum, Bool.not_true, Bool.and_false,
    Bool.false_eq_true, if_false]

/-- **What a GET is answered**, if the frame of the data fits. -/
theorem getResult_processRequest {header : FrameHeader} (hflat : header.Flat) {tier : DataTier}
    (hop : header.op = .str (pyStr (getOp tier))) {files : Files b.dirs} {data : Option Bytes}
    (hdata : b.get files {} header.objectId tier = .ok data)
    (hfits : ∀ d, data = some d → FrameFits (DataServer.getResponse rt header d tier) d) (payload : Bytes) :
    DataClient.getResult rt
      (DataServer.sentReply (DataServer.processRequest rt b {} files header payload).2) = data := by
  rw [DataServer.processRequest, DataServer.dispatch_get rt b {} hop, DataServer.handleGet, hdata, Py.ok_bind]
  cases data with
  | some d =>
    obtain ⟨frame, hframe⟩ := frameOf_of_fits (hfits d rfl)
    simp only [hframe]
    exact getResult_response hflat hframe
  | none =>
    simp only
    cases hframe : DataServer.errorResponse header (pyStr "Object not found") with
    | ok frame => exact getResult_error hflat hframe
    | error e =>
      simp only
      cases hframe' : DataServer.errorResponse header (pyStr e.msg) with
      | ok frame => exact getResult_error hflat hframe'
      | error e' => rfl

end Service

/-! ## An example store -/

/-- SHA-256 of the payloads of the examples. -/
def exampleSha256 (data : Bytes) : String :=
  if data = [0x41] then "559aead08264d5795d3909718cdd05abd49572e84fe55590eef31a88a08fdffd"
  else if data = [0x42] then "df7e70e5021544f4834bbee64a9e3789febc4be81470df629cad6ddb03320a5c"
  else ""

/-- An interpreter for the examples. -/
def exampleRuntime : Runtime := ⟨fun repr => repr, fun _ => [], exampleSha256⟩

/-- The location `data/objects` of the examples. -/
def exampleObjects : Loc := [(pyStr "data").flatMap utf8Char, (pyStr "objects").flatMap utf8Char]

/-- `LocalDiskBackend("data")`, in the root directory of an empty file system. -/
def exampleBackend : LocalDiskBackend where
  rootDir := pyStr "data"
  dirs := Dirs.root.extend
    [exampleObjects ++ [DataTier.critical.fileName], exampleObjects ++ [DataTier.refinement.fileName]]
  cwd := []
  cwd_mem := Dirs.root_mem _
  objects := exampleObjects
  objects_mem := by decide +kernel
  objects_target := by exact rfl
  tier_mem tier := by cases tier <;> decide +kernel

end AwareKV
