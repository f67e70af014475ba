import AwareKV.Codec
import AwareKV.Config

/-!
# AwareKV.ObjectFormat — stored objects: a header and the layers' encodings

Translation of the header and object functions of `connector/saver.py` and of
`_parse_and_decode_object` of `connector/loader.py`.  Both sides construct the same class
`ObjectHeader` by keywords; a constructed object is the list of its attributes (`PyObj`), and the
construction checks the keywords as the interpreter does.

* `buildObject_ne_ok`: no object is ever built.
* `parseAndDecodeObject_header`: no header is ever returned.
-/

namespace AwareKV

/-! ## Objects of Python classes -/

/-- The attributes of an object. -/
abbrev PyObj := List (String × PyVal)

/-- `obj.name`. -/
def PyObj.attr (cls : String) (obj : PyObj) (name : String) : Py PyVal :=
  match obj.lookup name with
  | some v => .ok v
  | none => .error ⟨.attributeError, "'" ++ cls ++ "' object has no attribute '" ++ name ++ "'"⟩

/-- An attribute where an integer is needed. -/
def PyVal.toInt : PyVal → Py ℤ
  | .int i => .ok i
  | _ => .error ⟨.typeError, "an integer is required"⟩

/-- The fields of `ObjectHeader` without a default. -/
def objectHeaderRequired : List String :=
  ["format_version", "num_layers", "block_size", "cache_dtype", "codec_name", "total_bytes",
    "layer_offsets", "layer_shapes"]

/-- The fields of `ObjectHeader` with a default. -/
def objectHeaderOptional : PyObj := [("checksum", .str "")]

/-- `ObjectHeader(k₁=v₁, …)`. -/
def newObjectHeader (given : PyObj) : Py PyObj := do
  checkKeywords "ObjectHeader.__init__" objectHeaderRequired (objectHeaderOptional.map Prod.fst)
    (given.map Prod.fst)
  return given ++ objectHeaderOptional

/-- Nothing with an `object_format_version` is an `ObjectHeader`. -/
theorem newObjectHeader_names {given obj : PyObj} (h : newObjectHeader given = .ok obj) :
    "object_format_version" ∉ given.map Prod.fst := by
  obtain ⟨u, hu, -⟩ := Py.bind_eq_ok.mp h
  intro hmem
  have hfield := checkKeywords_ok hu _ hmem
  revert hfield
  decide

/-! ## The saver's objects -/

section Save

variable (cfg : DeadlineKVConfig)

/-- `config.object_format_version`. -/
def DeadlineKVConfig.getObjectFormatVersion : Py PyVal :=
  match cfg.objectFormatVersion with
  | some v => .ok v
  | none => .error ⟨.attributeError,
      "'DeadlineKVConfig' object has no attribute 'object_format_version'"⟩

/-- `_build_object_header`. -/
def buildObjectHeader (numLayers matchedTokens : ℤ) (matchedBlocks : PyVal) (blockSize : ℤ)
    (cacheDtype kvLayoutVersion : String) : Py PyObj := do
  let version ← cfg.getObjectFormatVersion
  newObjectHeader [
    ("object_format_version", version),
    ("num_layers", .int numLayers),
    ("matched_tokens", .int matchedTokens),
    ("matched_blocks", matchedBlocks),
    ("block_size", .int blockSize),
    ("cache_dtype", .str cacheDtype),
    ("kv_layout_version", .str kvLayoutVersion),
    ("checksum", .str "")]

/-- `b"DAKVOBJ\x00"`. -/
def objectMagic : Bytes := [68, 65, 75, 86, 79, 66, 74, 0]

/-- The size of a header. -/
def headerSize : ℕ := 128

/-- A field of `struct.pack("<I…")`. -/
def packField : PyVal → Py Bytes
  | .int i => packU32 i
  | _ => .error ⟨.structError, "required argument is not an integer"⟩

/-- `_serialize_header`. -/
def serializeHeader (header : PyObj) : Py Bytes := do
  let fields ← ["object_format_version", "num_layers", "matched_tokens", "matched_blocks",
    "block_size"].mapM (header.attr "ObjectHeader")
  let packed ← (fields ++ [PyVal.int 0, PyVal.int 0, PyVal.int 0]).mapM packField
  let bytes := objectMagic ++ packed.flatten
  return bytes ++ List.replicate (headerSize - bytes.length) 0

/-- `_build_object_with_header`. -/
def buildObjectWithHeader (header : PyObj) (layers : List Bytes) : Py Bytes := do
  let headerBytes ← serializeHeader header
  return headerBytes ++ layers.flatten

variable (fo : FloatOps) {α : Type} (toHalf : α → Half)

/-- The encoding loop of a tier. -/
def encodeLayers (codec : Codec) (kvTensors : List (Tensor α)) : Py (List Bytes) :=
  kvTensors.mapM fun t => do
    let blob ← codec.encode fo toHalf t
    return blob.data

/-- The object that the saver builds for a tier with the given codec. -/
def buildObject (codecName : String) (kvTensors : List (Tensor α)) (matchedTokens : ℤ)
    (matchedBlocks : PyVal) : Py Bytes := do
  let codec ← getCodec codecName
  let layers ← encodeLayers fo toHalf codec kvTensors
  let header ← buildObjectHeader cfg kvTensors.length matchedTokens matchedBlocks cfg.blockSize
    cfg.cacheDtype cfg.kvLayoutVersion
  buildObjectWithHeader header layers

variable {cfg fo toHalf}

/-- The saver cannot construct a header: it gives `ObjectHeader` a name that is no field of it. -/
theorem buildObjectHeader_ne_ok {numLayers matchedTokens : ℤ} {matchedBlocks : PyVal} {blockSize : ℤ}
    {cacheDtype kvLayoutVersion : String} {header : PyObj} :
    buildObjectHeader cfg numLayers matchedTokens matchedBlocks blockSize cacheDtype kvLayoutVersion ≠
      .ok header := by
  intro h
  obtain ⟨version, -, h⟩ := Py.bind_eq_ok.mp h
  exact newObjectHeader_names h (by simp)

/-- **The saver never builds an object.** -/
theorem buildObject_ne_ok {codecName : String} {kvTensors : List (Tensor α)} {matchedTokens : ℤ}
    {matchedBlocks : PyVal} {object : Bytes} :
    buildObject cfg fo toHalf codecName kvTensors matchedTokens matchedBlocks ≠ .ok object := by
  intro h
  obtain ⟨codec, -, h⟩ := Py.bind_eq_ok.mp h
  obtain ⟨layers, -, h⟩ := Py.bind_eq_ok.mp h
  obtain ⟨header, hheader, -⟩ := Py.bind_eq_ok.mp h
  exact buildObjectHeader_ne_ok hheader

end Save

/-! ## The loader -/

section Load

/-- `struct.unpack("<I", …)` of the four bytes at an offset. -/
def unpackU32 (bytes : Bytes) (offset : ℕ) : ℤ := leNat ((bytes.drop offset).take 4)

/-- `_try_parse_header`. -/
def tryParseHeader (headerBytes : Bytes) : Py (Option PyObj) :=
  if headerBytes.length < headerSize then .ok none
  else if headerBytes.take 8 ≠ objectMagic then .ok none
  else do
    let header ← newObjectHeader [
      ("object_format_version", .int (unpackU32 headerBytes 8)),
      ("num_layers", .int (unpackU32 headerBytes 12)),
      ("matched_tokens", .int (unpackU32 headerBytes 16)),
      ("matched_blocks", .int (unpackU32 headerBytes 20)),
      ("block_size", .int (unpackU32 headerBytes 24)),
      ("cache_dtype", .str "float16"),
      ("kv_layout_version", .int 1),
      ("checksum", .str "")]
    return some header

variable (fo : FloatOps)

/-- The decoding loop: pieces of equal length from `payloadStart` on, without a shape. -/
def decodePieces (codec : Codec) (data : Bytes) (payloadStart bytesPerLayer : ℤ) (numLayers : ℕ) :
    Py (List (Tensor Half)) :=
  (List.range numLayers).mapM fun i =>
    let layerStart := payloadStart + i * bytesPerLayer
    let dtype := match codec with
      | .int8Symm => "int8"
      | .fp16Raw => "float16"
    codec.decode fo (.make codec.name (slice data layerStart (layerStart + bytesPerLayer)) none dtype 0)

/-- `_decode_with_header`. -/
def decodeWithHeader (data : Bytes) (header : PyObj) (codec : Codec) :
    Py (Option PyObj × List (Tensor Half)) := do
  let v ← header.attr "ObjectHeader" "num_layers"
  let numLayers ← v.toInt
  if numLayers = 0 then return (some header, [])
  let bytesPerLayer ← floorDiv (data.length - headerSize) numLayers
  let layers ← decodePieces fo codec data headerSize bytesPerLayer numLayers.toNat
  return (some header, layers)

/-- `_decode_legacy_format`. -/
def decodeLegacyFormat (data : Bytes) (codec : Codec) (numLayers : ℤ) :
    Py (Option PyObj × List (Tensor Half)) :=
  if numLayers = 0 then .ok (none, [])
  else do
    let bytesPerLayer ← floorDiv data.length numLayers
    let layers ← decodePieces fo codec data 0 bytesPerLayer numLayers.toNat
    return (none, layers)

/-- The `try` block of `_parse_and_decode_object`: `none` when it falls through. -/
def parseAttempt (data : Bytes) (codec : Codec) : Py (Option (Option PyObj × List (Tensor Half))) := do
  match ← tryParseHeader (data.take headerSize) with
  | none => return none
  | some header =>
    let v ← header.attr "ObjectHeader" "object_format_version"
    let version ← v.toInt
    if 1 ≤ version then
      let result ← decodeWithHeader fo data header codec
      return some result
    else return none

/-- `_parse_and_decode_object`: whatever the `try` block raises, the legacy format is next. -/
def parseAndDecodeObject (data : Bytes) (codecName : String) (numLayers : ℤ) :
    Py (Option PyObj × List (Tensor Half)) := do
  let codec ← getCodec codecName
  if data.length < headerSize then decodeLegacyFormat fo data codec numLayers
  else match parseAttempt fo data codec with
    | .ok (some result) => .ok result
    | .ok none => decodeLegacyFormat fo data codec numLayers
    | .error _ => decodeLegacyFormat fo data codec numLayers

variable {fo}

/-- The loader cannot construct a header either. -/
theorem tryParseHeader_none {headerBytes : Bytes} {header : Option PyObj}
    (h : tryParseHeader headerBytes = .ok header) : header = none := by
  unfold tryParseHeader at h
  split_ifs at h
  · cases h; rfl
  · cases h; rfl
  · obtain ⟨obj, hobj, -⟩ := Py.bind_eq_ok.mp h
    exact absurd (by simp) (newObjectHeader_names hobj)

theorem decodeLegacyFormat_header {data : Bytes} {codec : Codec} {numLayers : ℤ}
    {result : Option PyObj × List (Tensor Half)}
    (h : decodeLegacyFormat fo data codec numLayers = .ok result) : result.1 = none := by
  unfold decodeLegacyFormat at h
  split_ifs at h
  · cases h; rfl
  · obtain ⟨bytesPerLayer, -, h⟩ := Py.bind_eq_ok.mp h
    obtain ⟨layers, -, h⟩ := Py.bind_eq_ok.mp h
    cases h
    rfl

/-- **The loader never returns a header**, whatever the data. -/
theorem parseAndDecodeObject_header {data : Bytes} {codecName : String} {numLayers : ℤ}
    {result : Option PyObj × List (Tensor Half)}
    (h : parseAndDecodeObject fo data codecName numLayers = .ok result) : result.1 = none := by
  obtain ⟨codec, -, h⟩ := Py.bind_eq_ok.mp h
  split_ifs at h
  · exact decodeLegacyFormat_header h
  · have hattempt : ∀ r, parseAttempt fo data codec ≠ .ok (some r) := by
      intro r hr
      obtain ⟨header, hheader, hr⟩ := Py.bind_eq_ok.mp hr
      rw [tryParseHeader_none hheader] at hr
      cases hr
    split at h
    · next r hr => exact absurd hr (hattempt r)
    · exact decodeLegacyFormat_header h
    · exact decodeLegacyFormat_header h

end Load

end AwareKV
