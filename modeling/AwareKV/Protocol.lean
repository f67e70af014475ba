import AwareKV.Lib.Bytes
import AwareKV.Lib.Json
import AwareKV.Types

/-!
# AwareKV.Protocol — frames of the data service

Translation of `transport/protocol.py`.  A frame is the magic, a version, the lengths of header and
payload in network order, the header as JSON in UTF-8, and the payload.  The fields of a decoded
header have the types that the JSON has.

Texts of the exceptions of `bytes.decode` and `json.loads` are left empty.

* `decodeFrame_encodeFrame`: a frame is read back whatever follows it, with surrogate pairs joined.
* `decode_encode_frame`: a header of texts comes back as it was.
* `textHeader_json`: how long the JSON of a header is.
-/

namespace AwareKV

/-- `FRAME_MAGIC`. -/
def frameMagic : Bytes := [0x44, 0x41, 0x4B, 0x56]

/-- `FRAME_VERSION`. -/
def frameVersion : ℕ := 1

/-- `FrameHeader`. -/
structure FrameHeader where
  op : Json
  requestId : Json
  objectId : Json
  tier : Json
  codec : Json
  payloadNbytes : ℤ
  checksum : Json
  deadlineMs : Json

/-- `header_dict` of `encode_frame`. -/
def FrameHeader.headerDict (h : FrameHeader) : List (PyStr × Json) :=
  [(pyStr "op", h.op), (pyStr "request_id", h.requestId), (pyStr "object_id", h.objectId),
    (pyStr "tier", h.tier), (pyStr "codec", h.codec), (pyStr "checksum", h.checksum),
    (pyStr "deadline_ms", h.deadlineMs)]

/-- The header of a frame as bytes. -/
def FrameHeader.headerJson (h : FrameHeader) : Py Bytes := do
  let text ← dumps (.obj h.headerDict)
  encodeUtf8 text

/-- `encode_frame(header, payload)`. -/
def encodeFrame (header : FrameHeader) (payload : Bytes) : Py Bytes := do
  let headerJson ← header.headerJson
  let version ← packNet "H" 2 frameVersion
  let headerLen ← packNet "I" 4 headerJson.length
  let payloadLen ← packNet "I" 4 payload.length
  return frameMagic ++ version ++ headerLen ++ payloadLen ++ headerJson ++ payload

/-- `j[key]`. -/
def Json.subscript (key : String) : Json → Py Json
  | .obj fields =>
    match Dict.assoc fields (pyStr key) with
    | some j => .ok j
    | none => .error ⟨.keyError, "'" ++ key ++ "'"⟩
  | .arr _ => .error ⟨.typeError, "list indices must be integers or slices, not str"⟩
  | .str _ => .error ⟨.typeError, "string indices must be integers, not 'str'"⟩
  | .int _ => .error ⟨.typeError, "'int' object is not subscriptable"⟩
  | .float _ => .error ⟨.typeError, "'float' object is not subscriptable"⟩
  | .bool _ => .error ⟨.typeError, "'bool' object is not subscriptable"⟩
  | .null => .error ⟨.typeError, "'NoneType' object is not subscriptable"⟩

/-- The header that `decode_frame` builds from `header_dict`. -/
def FrameHeader.ofDict (headerDict : Json) (payloadLen : ℕ) : Py FrameHeader := do
  let op ← headerDict.subscript "op"
  let requestId ← headerDict.subscript "request_id"
  let objectId ← headerDict.subscript "object_id"
  let tier ← headerDict.subscript "tier"
  let codec ← headerDict.subscript "codec"
  let checksum ← headerDict.subscript "checksum"
  let deadlineMs ← headerDict.subscript "deadline_ms"
  return ⟨op, requestId, objectId, tier, codec, payloadLen, checksum, deadlineMs⟩

section Decode

variable (floatRepr : PyStr → PyStr)

/-- `json.loads(data.decode("utf-8"))`. -/
def loadsUtf8 (data : Bytes) : Py Json :=
  match decodeUtf8 data with
  | none => .error ⟨.unicodeDecodeError, ""⟩
  | some text =>
    match loads floatRepr text with
    | none => .error ⟨.valueError, ""⟩
    | some j => .ok j

/-- `decode_frame(data)`. -/
def decodeFrame (data : Bytes) : Py (FrameHeader × Bytes) :=
  if ¬ frameMagic <+: data then .error ⟨.valueError, "Invalid frame magic"⟩
  else do
    let version ← unpackNet 2 (slice data 4 6)
    if version ≠ frameVersion then
      .error ⟨.valueError, "Unsupported frame version: " ++ toString version⟩
    else do
      let headerLen ← unpackNet 4 (slice data 6 10)
      let payloadLen ← unpackNet 4 (slice data 10 14)
      let headerDict ← loadsUtf8 floatRepr (slice data 14 (14 + headerLen))
      let payload := slice data (14 + headerLen) (14 + headerLen + payloadLen)
      let header ← FrameHeader.ofDict headerDict payloadLen
      return (header, payload)

end Decode

/-! ## Round trip -/

/-- Fields that are strings or integers. -/
def FrameHeader.Flat (h : FrameHeader) : Prop := ∀ x ∈ h.headerDict, x.2.Flat

/-- The header with the surrogate pairs of its fields joined. -/
def FrameHeader.joined (h : FrameHeader) : FrameHeader :=
  { h with
    op := h.op.joined, requestId := h.requestId.joined, objectId := h.objectId.joined,
    tier := h.tier.joined, codec := h.codec.joined, checksum := h.checksum.joined,
    deadlineMs := h.deadlineMs.joined }

theorem joinedFields_headerDict (h : FrameHeader) : joinedFields h.headerDict = h.joined.headerDict := by
  have hkey : ∀ key : String, joinPairs (pyStr key) = pyStr key :=
    fun key => joinPairs_of_surrogateFree (surrogateFree_pyStr key)
  simp only [joinedFields, FrameHeader.headerDict, List.map_cons, List.map_nil, hkey]
  rfl

theorem headerDict_keys (h : FrameHeader) : (h.headerDict.map Prod.fst).Nodup := by
  show ([pyStr "op", pyStr "request_id", pyStr "object_id", pyStr "tier", pyStr "codec",
    pyStr "checksum", pyStr "deadline_ms"] : List PyStr).Nodup
  decide +kernel

/-- The fields of a header are read back from its dictionary. -/
theorem ofDict_headerDict (h : FrameHeader) (payloadLen : ℕ) :
    FrameHeader.ofDict (.obj h.headerDict) payloadLen = .ok { h with payloadNbytes := payloadLen } := rfl

/-- The bytes of a frame before its header. -/
def framePrefix (headerLen payloadLen : ℕ) : Bytes :=
  frameMagic ++ beBytes 2 frameVersion ++ beBytes 4 headerLen ++ beBytes 4 payloadLen

theorem framePrefix_length (headerLen payloadLen : ℕ) : (framePrefix headerLen payloadLen).length = 14 := by
  simp [framePrefix, frameMagic]

section Slices

variable (headerLen payloadLen : ℕ) (rest : Bytes)

theorem slice_version : slice (framePrefix headerLen payloadLen ++ rest) 4 6 = beBytes 2 frameVersion :=
  slice_mid (a := frameMagic) (c := beBytes 4 headerLen ++ beBytes 4 payloadLen ++ rest)
    (by simp [framePrefix]) rfl (by simp [frameMagic])

theorem slice_headerLen : slice (framePrefix headerLen payloadLen ++ rest) 6 10 = beBytes 4 headerLen :=
  slice_mid (a := frameMagic ++ beBytes 2 frameVersion) (c := beBytes 4 payloadLen ++ rest)
    (by simp [framePrefix]) (by simp [frameMagic]) (by simp [frameMagic])

theorem slice_payloadLen : slice (framePrefix headerLen payloadLen ++ rest) 10 14 = beBytes 4 payloadLen :=
  slice_mid (a := frameMagic ++ beBytes 2 frameVersion ++ beBytes 4 headerLen) (c := rest)
    (by simp [framePrefix]) (by simp [frameMagic]) (by simp [frameMagic])

end Slices

/-- What a frame consists of. -/
theorem encodeFrame_eq_ok {h : FrameHeader} {payload frame : Bytes} :
    encodeFrame h payload = .ok frame ↔
      ∃ json, h.headerJson = .ok json ∧ json.length < 2 ^ 32 ∧ payload.length < 2 ^ 32 ∧
        frame = framePrefix json.length payload.length ++ json ++ payload := by
  have hversion : packNet "H" 2 frameVersion = .ok (beBytes 2 frameVersion) := packNet_of_lt _ (by decide)
  constructor
  · intro h
    obtain ⟨json, hjson, h⟩ := Py.bind_eq_ok.mp h
    obtain ⟨version, hversion', h⟩ := Py.bind_eq_ok.mp h
    obtain ⟨headerLen, hheader, h⟩ := Py.bind_eq_ok.mp h
    obtain ⟨payloadLen, hpayload, h⟩ := Py.bind_eq_ok.mp h
    obtain ⟨-, rfl⟩ := packNet_eq_ok hversion'
    obtain ⟨hjlt, rfl⟩ := packNet_eq_ok hheader
    obtain ⟨hplt, rfl⟩ := packNet_eq_ok hpayload
    cases h
    exact ⟨json, hjson, hjlt, hplt, rfl⟩
  · rintro ⟨json, hjson, hjlt, hplt, rfl⟩
    have hheader : packNet "I" 4 json.length = .ok (beBytes 4 json.length) := packNet_of_lt _ hjlt
    have hpayload : packNet "I" 4 payload.length = .ok (beBytes 4 payload.length) := packNet_of_lt _ hplt
    rw [encodeFrame, hjson, hversion]
    show (packNet "I" 4 json.length >>= _) = _
    rw [hheader]
    show (packNet "I" 4 payload.length >>= _) = _
    rw [hpayload]
    rfl

section Decode

variable {floatRepr : PyStr → PyStr}

theorem loadsUtf8_headerJson {h : FrameHeader} (hflat : h.Flat) {json : Bytes}
    (hjson : h.headerJson = .ok json) : loadsUtf8 floatRepr json = .ok (.obj h.joined.headerDict) := by
  obtain ⟨text, htext, henc⟩ := Py.bind_eq_ok.mp hjson
  have hkeys : ((joinedFields h.headerDict).map Prod.fst).Nodup := by
    rw [joinedFields_headerDict]
    exact headerDict_keys h.joined
  rw [loadsUtf8, decodeUtf8_encode henc]
  simp only [loads_dumps hflat hkeys htext, joinedFields_headerDict]

/-- What is decoded of a fixed header, the header and whatever is there instead of the payload: the payload
length is the announced one, and the payload as much of it as there is. -/
theorem decodeFrame_parts {h : FrameHeader} (hflat : h.Flat) {json : Bytes} (hjson : h.headerJson = .ok json)
    (hjlt : json.length < 2 ^ 32) {n : ℕ} (hn : n < 2 ^ 32) (body : Bytes) :
    decodeFrame floatRepr (framePrefix json.length n ++ json ++ body) =
      .ok ({ h.joined with payloadNbytes := n }, body.take n) := by
  obtain ⟨data, hdata⟩ : ∃ data, framePrefix json.length n ++ json ++ body = data := ⟨_, rfl⟩
  have hlen := framePrefix_length json.length n
  have hmagic : frameMagic <+: data := by
    rw [← hdata]
    simp only [framePrefix, List.append_assoc]
    exact List.prefix_append _ _
  have hversion : slice data 4 6 = beBytes 2 frameVersion := by
    rw [← hdata, List.append_assoc, slice_version]
  have hheader : slice data 6 10 = beBytes 4 json.length := by
    rw [← hdata, List.append_assoc, slice_headerLen]
  have hpayloadLen : slice data 10 14 = beBytes 4 n := by
    rw [← hdata, List.append_assoc, slice_payloadLen]
  have hbody : slice data 14 (14 + json.length) = json :=
    slice_mid (a := framePrefix json.length n) (c := body) hdata.symm (by rw [hlen]; rfl)
      (by rw [hlen]; rfl)
  have hstart : (framePrefix json.length n ++ json).length = 14 + json.length := by
    rw [List.length_append, hlen]
  have hpayload : slice data (14 + json.length) (14 + json.length + n) = body.take n := by
    have hslice : slice data (14 + json.length) (14 + json.length + n) =
        (data.take (14 + json.length + n)).drop (14 + json.length) := slice_nat _ _ _
    rw [hslice, List.drop_take, Nat.add_sub_cancel_left, ← hdata, ← hstart, List.drop_left]
  have hdict : loadsUtf8 floatRepr json = .ok (.obj h.joined.headerDict) := loadsUtf8_headerJson hflat hjson
  have hheaderOf := ofDict_headerDict h.joined n
  have hunpack : ∀ n < 2 ^ 32, unpackNet 4 (beBytes 4 n) = .ok n := fun n hn => unpackNet_beBytes hn
  simp only [hdata, decodeFrame, hmagic, not_true_eq_false, if_false, hversion, hheader, hpayloadLen,
    unpackNet_beBytes (show frameVersion < 256 ^ 2 by decide), hunpack _ hjlt, hunpack _ hn, Py.ok_bind,
    ne_eq, hbody, hpayload, hdict, hheaderOf]
  rfl

/-- **A frame is read back** whatever follows it. -/
theorem decodeFrame_encodeFrame {h : FrameHeader} (hflat : h.Flat) {payload frame : Bytes}
    (hframe : encodeFrame h payload = .ok frame) (rest : Bytes) :
    decodeFrame floatRepr (frame ++ rest) =
      .ok ({ h.joined with payloadNbytes := payload.length }, payload) := by
  obtain ⟨json, hjson, hjlt, hplt, rfl⟩ := encodeFrame_eq_ok.mp hframe
  rw [List.append_assoc, decodeFrame_parts hflat hjson hjlt hplt, List.take_left]

end Decode

/-- A text. -/
def Json.IsText (j : Json) : Prop := ∃ s, j = .str s ∧ SurrogateFree s

/-- The header that the type annotations of `FrameHeader` ask for, its strings being texts. -/
structure FrameHeader.Typed (h : FrameHeader) : Prop where
  op : h.op.IsText
  requestId : h.requestId.IsText
  objectId : h.objectId.IsText
  tier : h.tier.IsText
  codec : h.codec.IsText
  checksum : h.checksum.IsText
  deadlineMs : ∃ i, h.deadlineMs = .int i

theorem Json.IsText.joined {j : Json} (h : j.IsText) : j.joined = j := by
  obtain ⟨s, rfl, hs⟩ := h
  rw [Json.joined, joinPairs_of_surrogateFree hs]

theorem Json.IsText.flat {j : Json} (h : j.IsText) : j.Flat := by
  obtain ⟨s, rfl, -⟩ := h
  trivial

namespace FrameHeader.Typed

variable {h : FrameHeader}

theorem joined (hh : h.Typed) : h.joined = h := by
  obtain ⟨i, hi⟩ := hh.deadlineMs
  have hdeadline : h.deadlineMs.joined = h.deadlineMs := by
    rw [hi]
    rfl
  rw [FrameHeader.joined, hh.op.joined, hh.requestId.joined, hh.objectId.joined, hh.tier.joined,
    hh.codec.joined, hh.checksum.joined, hdeadline]

theorem flat (hh : h.Typed) : h.Flat := by
  obtain ⟨i, hi⟩ := hh.deadlineMs
  have hdeadline : h.deadlineMs.Flat := by
    rw [hi]
    trivial
  simp only [FrameHeader.Flat, headerDict, List.forall_mem_cons]
  exact ⟨hh.op.flat, hh.requestId.flat, hh.objectId.flat, hh.tier.flat, hh.codec.flat,
    hh.checksum.flat, hdeadline, by simp⟩

end FrameHeader.Typed

/-- **Frame round trip.** -/
theorem decode_encode_frame (floatRepr : PyStr → PyStr) {h : FrameHeader} (hh : h.Typed) {json payload : Bytes}
    (hjson : h.headerJson = .ok json) (hjlt : json.length < 2 ^ 32) (hplt : payload.length < 2 ^ 32)
    (rest : Bytes) :
    ∃ frame, encodeFrame h payload = .ok frame ∧
      decodeFrame floatRepr (frame ++ rest) = .ok ({ h with payloadNbytes := payload.length }, payload) := by
  have hframe := encodeFrame_eq_ok.mpr ⟨json, hjson, hjlt, hplt, rfl⟩
  refine ⟨_, hframe, ?_⟩
  rw [decodeFrame_encodeFrame hh.flat hframe rest, hh.joined]

/-! ## The length of a header -/

/-- A header of strings. -/
def textHeader (op requestId objectId tier codec checksum : PyStr) (payloadNbytes : ℤ) : FrameHeader :=
  { op := .str op, requestId := .str requestId, objectId := .str objectId, tier := .str tier,
    codec := .str codec, payloadNbytes := payloadNbytes, checksum := .str checksum, deadlineMs := .int 0 }

/-- The length of the JSON of a header without its strings. -/
def headerOverhead : ℕ := 92

theorem textHeader_json (op requestId objectId tier codec checksum : PyStr) (payloadNbytes : ℤ) :
    ∃ json, (textHeader op requestId objectId tier codec checksum payloadNbytes).headerJson = .ok json ∧
      json.length = headerOverhead + ((jsonStr op).length + (jsonStr requestId).length +
        (jsonStr objectId).length + (jsonStr tier).length + (jsonStr codec).length +
        (jsonStr checksum).length) := by
  obtain ⟨texts, htexts⟩ : ∃ texts : List PyStr, texts = [jsonStr (pyStr "op") ++ 0x3A :: 0x20 :: jsonStr op,
      jsonStr (pyStr "request_id") ++ 0x3A :: 0x20 :: jsonStr requestId,
      jsonStr (pyStr "object_id") ++ 0x3A :: 0x20 :: jsonStr objectId,
      jsonStr (pyStr "tier") ++ 0x3A :: 0x20 :: jsonStr tier,
      jsonStr (pyStr "codec") ++ 0x3A :: 0x20 :: jsonStr codec,
      jsonStr (pyStr "checksum") ++ 0x3A :: 0x20 :: jsonStr checksum,
      jsonStr (pyStr "deadline_ms") ++ 0x3A :: 0x20 :: [0x30]] := ⟨_, rfl⟩
  have hdumps : dumps (.obj (textHeader op requestId objectId tier codec checksum payloadNbytes).headerDict) =
      .ok (0x7B :: commaSeparated texts ++ [0x7D]) := by
    rw [htexts]
    rfl
  have hflat : (textHeader op requestId objectId tier codec checksum payloadNbytes).Flat := by
    simp only [FrameHeader.Flat, FrameHeader.headerDict, textHeader, List.forall_mem_cons, Json.Flat,
      List.not_mem_nil, false_implies, implies_true, and_self]
  have hascii : Ascii (0x7B :: commaSeparated texts ++ [0x7D]) := ascii_dumps hflat hdumps
  refine ⟨_, ?_, hascii.length_utf8.trans ?_⟩
  · rw [FrameHeader.headerJson, hdumps, Py.ok_bind, encodeUtf8_of_surrogateFree hascii.surrogateFree]
  · have hkeys : (jsonStr (pyStr "op")).length = 4 ∧ (jsonStr (pyStr "request_id")).length = 12 ∧
        (jsonStr (pyStr "object_id")).length = 11 ∧ (jsonStr (pyStr "tier")).length = 6 ∧
        (jsonStr (pyStr "codec")).length = 7 ∧ (jsonStr (pyStr "checksum")).length = 10 ∧
        (jsonStr (pyStr "deadline_ms")).length = 13 := by decide +kernel
    rw [htexts]
    simp only [commaSeparated_cons, commaSeparated_singleton, List.length_append, List.length_cons,
      List.length_nil, hkeys, headerOverhead]
    omega

/-- The header of `test_frame_encoding_decoding`. -/
def testHeader : FrameHeader :=
  { op := .str (pyStr "GET_CRITICAL"), requestId := .str (pyStr "req_123"),
    objectId := .str (pyStr "obj_456"), tier := .str (pyStr "T2"), codec := .str (pyStr "int8_symm"),
    payloadNbytes := 100, checksum := .str (pyStr "abc123"), deadlineMs := .int 500 }

/-- Its JSON. -/
def testHeaderJson : Bytes :=
  match testHeader.headerJson with
  | .ok json => json
  | .error _ => []

theorem testHeader_typed : testHeader.Typed where
  op := ⟨_, rfl, surrogateFree_pyStr _⟩
  requestId := ⟨_, rfl, surrogateFree_pyStr _⟩
  objectId := ⟨_, rfl, surrogateFree_pyStr _⟩
  tier := ⟨_, rfl, surrogateFree_pyStr _⟩
  codec := ⟨_, rfl, surrogateFree_pyStr _⟩
  checksum := ⟨_, rfl, surrogateFree_pyStr _⟩
  deadlineMs := ⟨500, rfl⟩

/-- The frame of the test, with two bytes of a next frame after it. -/
theorem decode_encode_test :
    ∃ frame, encodeFrame testHeader [0x74, 0x65] = .ok frame ∧
      decodeFrame (fun s => s) (frame ++ [0x44, 0x41]) =
        .ok ({ testHeader with payloadNbytes := 2 }, [0x74, 0x65]) :=
  decode_encode_frame (fun s => s) testHeader_typed
    (show testHeader.headerJson = .ok testHeaderJson by decide +kernel) (by decide +kernel) (by decide)
    [0x44, 0x41]

end AwareKV
