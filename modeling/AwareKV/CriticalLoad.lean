import AwareKV.Lib.Effect
import AwareKV.Loader

/-!
# AwareKV.CriticalLoad — what a critical load reads and what it reports

* `header_kept_iff`: when the loader keeps an object's header away from the codec.  The parser cannot
  construct an `ObjectHeader` and falls back to the format without one, so the first layer starts with the
  magic bytes.
* `critical_load_reports_iff`: when `start_critical_load` reports its outcome.  `fetch` raises where the
  caller expects `None`.

`parseLogged` is the loader's parser with every call of the codec entered in a log; `parseLogged_erases`
says that the log changes nothing.
-/

namespace AwareKV

/-! ## The calls of the codec -/

/-- `data[start:stop]`, handed to the codec. -/
structure Piece where
  start : ℤ
  stop : ℤ

section Logged

variable (fo : FloatOps)

/-- A round of the loops of `_decode_with_header` and `_decode_legacy_format`. -/
def decodePiece (codec : Codec) (data : Bytes) (piece : Piece) : Py (Tensor Half) :=
  let dtype := match codec with
    | .int8Symm => "int8"
    | .fp16Raw => "float16"
  codec.decode fo (.make codec.name (slice data piece.start piece.stop) none dtype 0)

/-- The slice of layer `i`. -/
def layerPiece (payloadStart bytesPerLayer : ℤ) (i : ℕ) : Piece :=
  ⟨payloadStart + i * bytesPerLayer, payloadStart + i * bytesPerLayer + bytesPerLayer⟩

theorem decodePieces_eq (codec : Codec) (data : Bytes) (payloadStart bytesPerLayer : ℤ) (numLayers : ℕ) :
    decodePieces fo codec data payloadStart bytesPerLayer numLayers =
      (List.range numLayers).mapM fun i =>
        decodePiece fo codec data (layerPiece payloadStart bytesPerLayer i) := by
  have hrange : ((List.range numLayers) >>= fun i => pure (i : ℤ)) =
      List.map (fun i : ℕ => (i : ℤ)) (List.range numLayers) := List.map_eq_flatMap.symm
  unfold decodePieces
  rw [hrange, List.mapM_map]
  rfl

/-- `decodePieces` with a log. -/
def decodePiecesLogged (codec : Codec) (data : Bytes) (payloadStart bytesPerLayer : ℤ) (numLayers : ℕ) :
    Effect Exc (List Piece) (List (Tensor Half)) :=
  (List.range numLayers).mapM fun i =>
    let piece := layerPiece payloadStart bytesPerLayer i
    Effect.logged piece (decodePiece fo codec data piece)

/-- `_decode_with_header` with a log. -/
def decodeWithHeaderLogged (data : Bytes) (header : PyObj) (codec : Codec) :
    Effect Exc (List Piece) (Option PyObj × List (Tensor Half)) := do
  let v ← Effect.lift (header.attr "ObjectHeader" "num_layers")
  let numLayers ← Effect.lift v.toInt
  if numLayers = 0 then return (some header, [])
  let bytesPerLayer ← Effect.lift (floorDiv (data.length - headerSize) numLayers)
  let layers ← decodePiecesLogged fo codec data headerSize bytesPerLayer numLayers.toNat
  return (some header, layers)

/-- `_decode_legacy_format` with a log. -/
def decodeLegacyLogged (data : Bytes) (codec : Codec) (numLayers : ℤ) :
    Effect Exc (List Piece) (Option PyObj × List (Tensor Half)) :=
  if numLayers = 0 then return (none, [])
  else do
    let bytesPerLayer ← Effect.lift (floorDiv data.length numLayers)
    let layers ← decodePiecesLogged fo codec data 0 bytesPerLayer numLayers.toNat
    return (none, layers)

/-- The `try` block of `_parse_and_decode_object` with a log. -/
def parseAttemptLogged (data : Bytes) (codec : Codec) :
    Effect Exc (List Piece) (Option (Option PyObj × List (Tensor Half))) := do
  match ← Effect.lift (tryParseHeader (data.take headerSize)) with
  | none => return none
  | some header =>
    let v ← Effect.lift (header.attr "ObjectHeader" "object_format_version")
    let version ← Effect.lift v.toInt
    if 1 ≤ version then
      let result ← decodeWithHeaderLogged fo data header codec
      return some result
    else return none

/-- `_parse_and_decode_object` with a log. -/
def parseLogged (data : Bytes) (codecName : String) (numLayers : ℤ) :
    Effect Exc (List Piece) (Option PyObj × List (Tensor Half)) := do
  let codec ← Effect.lift (getCodec codecName)
  if data.length < headerSize then decodeLegacyLogged fo data codec numLayers
  else
    match ← tryCatch (parseAttemptLogged fo data codec) (fun _ => return none) with
    | some result => return result
    | none => decodeLegacyLogged fo data codec numLayers

/-! ### The log changes nothing -/

variable {fo} {data : Bytes} {codec : Codec} {codecName : String} {numLayers : ℤ}

theorem decodePiecesLogged_erases {payloadStart bytesPerLayer : ℤ} {n : ℕ} :
    Effect.Erases (decodePiecesLogged fo codec data payloadStart bytesPerLayer n)
      (decodePieces fo codec data payloadStart bytesPerLayer n) := by
  intro log
  obtain ⟨seen, hrun, -⟩ := Effect.exec_mapM_logged (layerPiece payloadStart bytesPerLayer)
    (fun i => decodePiece fo codec data (layerPiece payloadStart bytesPerLayer i)) (List.range n) log
  rw [decodePieces_eq]
  exact congrArg Prod.fst hrun

theorem decodeWithHeaderLogged_erases {header : PyObj} :
    Effect.Erases (decodeWithHeaderLogged fo data header codec) (decodeWithHeader fo data header codec) := by
  refine (Effect.erases_lift _).bind fun v => (Effect.erases_lift _).bind fun n => ?_
  split_ifs
  · exact Effect.erases_pure _
  · exact (Effect.erases_lift _).bind fun b => decodePiecesLogged_erases.bind fun layers => Effect.erases_pure _

theorem decodeLegacyLogged_erases :
    Effect.Erases (decodeLegacyLogged fo data codec numLayers) (decodeLegacyFormat fo data codec numLayers) := by
  unfold decodeLegacyLogged decodeLegacyFormat
  split_ifs
  · exact Effect.erases_pure _
  · exact (Effect.erases_lift _).bind fun b => decodePiecesLogged_erases.bind fun layers => Effect.erases_pure _

theorem parseAttemptLogged_erases :
    Effect.Erases (parseAttemptLogged fo data codec) (parseAttempt fo data codec) := by
  refine (Effect.erases_lift _).bind fun header => ?_
  cases header with
  | none => exact Effect.erases_pure _
  | some header =>
    refine (Effect.erases_lift _).bind fun v => (Effect.erases_lift _).bind fun version => ?_
    split_ifs
    · exact decodeWithHeaderLogged_erases.bind fun result => Effect.erases_pure _
    · exact Effect.erases_pure _

/-- **The logged parser returns and raises what the parser does.** -/
theorem parseLogged_erases :
    Effect.Erases (parseLogged fo data codecName numLayers)
      (parseAndDecodeObject fo data codecName numLayers) := by
  refine (Effect.erases_lift _).bind fun codec => ?_
  split_ifs
  · exact decodeLegacyLogged_erases
  · intro log
    have hattempt : ((parseAttemptLogged fo data codec).exec log).1 = parseAttempt fo data codec :=
      parseAttemptLogged_erases log
    rw [Effect.exec_bind, Effect.exec_tryCatch]
    cases hrun : (parseAttemptLogged fo data codec).exec log with
    | mk attempt log' =>
      rw [← hattempt, hrun]
      -- after an exception, and without a header, the legacy format is next
      cases attempt with
      | error e => exact decodeLegacyLogged_erases log'
      | ok result =>
        cases result with
        | none => exact decodeLegacyLogged_erases log'
        | some result => rfl

end Logged

/-! ## Which bytes reach the codec -/

section Header

/-- No byte of the slice is one of the header. -/
def AfterHeader (data : Bytes) (piece : Piece) : Prop :=
  slice data piece.start piece.stop ≠ [] → headerSize ≤ sliceBound data.length piece.start

/-- The parser raises, or it hands to the codec only slices of `data[128:]`. -/
def HeaderKept (fo : FloatOps) (data : Bytes) (codecName : String) (numLayers : ℤ) : Prop :=
  let r := (parseLogged fo data codecName numLayers).exec []
  (∃ e, r.1 = .error e) ∨ ∀ piece ∈ r.2, AfterHeader data piece

/-- The bytes of a layer, if they are all for the layers. -/
def legacyShare (data : Bytes) (numLayers : ℤ) : ℕ := data.length / numLayers.toNat

variable {fo : FloatOps} {data : Bytes} {codec : Codec} {codecName : String} {numLayers : ℤ}

/-- **Data with the magic bytes is decoded like data without a header.** -/
theorem parseLogged_header (hsize : headerSize ≤ data.length) (hmagic : data.take 8 = objectMagic)
    (hcodec : getCodec codecName = .ok codec) (log : List Piece) :
    (parseLogged fo data codecName numLayers).exec log =
      (decodeLegacyLogged fo data codec numLayers).exec log := by
  have hraise : ∀ header, tryParseHeader (data.take headerSize) ≠ .ok header := by
    intro header h
    obtain rfl := tryParseHeader_none h
    unfold tryParseHeader at h
    rw [if_neg (by rw [List.length_take]; omega),
      if_neg (by rw [List.take_take]; exact not_not.mpr hmagic)] at h
    obtain ⟨obj, -, h⟩ := Py.bind_eq_ok.mp h
    cases h
  obtain ⟨e, hattempt⟩ : ∃ e, (parseAttemptLogged fo data codec).exec log = (.error e, log) :=
    (Effect.raises_lift hraise).bind _ log
  unfold parseLogged
  rw [Effect.exec_bind, hcodec, Effect.exec_lift]
  dsimp only
  rw [if_neg (not_lt.mpr hsize), Effect.exec_bind, Effect.exec_tryCatch, hattempt]
  rfl

/-- A layer's slice has the layer's share of the bytes. -/
theorem slice_layerPiece (data : Bytes) {i : ℕ} (hi : i < numLayers.toNat) :
    (slice data (layerPiece 0 (legacyShare data numLayers) i).start
      (layerPiece 0 (legacyShare data numLayers) i).stop).length = legacyShare data numLayers := by
  have hfit : (i + 1) * legacyShare data numLayers ≤ data.length :=
    (Nat.mul_le_mul_right _ hi).trans (Nat.mul_div_le _ _)
  have hpiece : layerPiece 0 (legacyShare data numLayers) i =
      ⟨((i * legacyShare data numLayers : ℕ) : ℤ), (((i + 1) * legacyShare data numLayers : ℕ) : ℤ)⟩ := by
    unfold layerPiece
    congr 1
    · push_cast
      ring
    · push_cast
      ring
  rw [hpiece, slice_nat, List.length_drop, List.length_take, Nat.min_eq_left hfit, Nat.succ_mul]
  omega

/-- All layers have one share, so they decode together or not at all. -/
theorem legacyPieces_isOk (fo : FloatOps) (data : Bytes) (codec : Codec) (hlayers : 0 < numLayers) :
    (∃ ts, decodePieces fo codec data 0 (legacyShare data numLayers) numLayers.toNat = .ok ts) ↔
      ∃ n, legacyShare data numLayers = codec.encodedSize n := by
  have hpiece : ∀ i < numLayers.toNat,
      ((∃ t, decodePiece fo codec data (layerPiece 0 (legacyShare data numLayers) i) = .ok t) ↔
        ∃ n, legacyShare data numLayers = codec.encodedSize n) := by
    intro i hi
    refine (decode_unshaped_isOk fo codec _ _).trans ?_
    rw [slice_layerPiece data hi]
  rw [decodePieces_eq, Py.mapM_isOk]
  constructor
  · intro h
    have h0 : 0 < numLayers.toNat := by omega
    exact (hpiece 0 h0).mp (h 0 (List.mem_range.mpr h0))
  · intro h i hi
    exact (hpiece i (List.mem_range.mp hi)).mpr h

/-- The legacy format with a log, for at least one layer. -/
theorem exec_legacy (fo : FloatOps) (data : Bytes) (codec : Codec) (hlayers : 0 < numLayers)
    (log : List Piece) :
    ∃ seen, (decodeLegacyLogged fo data codec numLayers).exec log =
        ((decodePieces fo codec data 0 (legacyShare data numLayers) numLayers.toNat).map fun ts => (none, ts),
          log ++ seen) ∧
      seen <+: (List.range numLayers.toNat).map (layerPiece 0 (legacyShare data numLayers)) ∧
      ((∃ ts, decodePieces fo codec data 0 (legacyShare data numLayers) numLayers.toNat = .ok ts) →
        seen = (List.range numLayers.toNat).map (layerPiece 0 (legacyShare data numLayers))) := by
  obtain ⟨seen, hrun, hprefix, hall⟩ := Effect.exec_mapM_logged (layerPiece 0 (legacyShare data numLayers))
    (fun i => decodePiece fo codec data (layerPiece 0 (legacyShare data numLayers) i))
    (List.range numLayers.toNat) log
  rw [← decodePieces_eq] at hrun hall
  refine ⟨seen, ?_, hprefix, hall⟩
  have hshare : floorDiv data.length numLayers = .ok (legacyShare data numLayers) := by
    obtain ⟨n, rfl⟩ := Int.eq_ofNat_of_zero_le hlayers.le
    rw [floorDiv, if_neg (by omega)]
    exact congrArg Except.ok (Int.ofNat_fdiv data.length n).symm
  have hpieces : (decodePiecesLogged fo codec data 0 (legacyShare data numLayers) numLayers.toNat).exec log =
      (decodePieces fo codec data 0 (legacyShare data numLayers) numLayers.toNat, log ++ seen) := hrun
  unfold decodeLegacyLogged
  rw [if_neg (by omega), hshare, Effect.exec_bind, Effect.exec_lift]
  dsimp only
  rw [Effect.exec_bind, hpieces]
  cases decodePieces fo codec data 0 (legacyShare data numLayers) numLayers.toNat <;> rfl

/-- Without layers the codec is not called. -/
theorem exec_legacy_none (hlayers : ¬ 0 < numLayers) (log : List Piece) :
    ((decodeLegacyLogged fo data codec numLayers).exec log).2 = log := by
  unfold decodeLegacyLogged
  split_ifs with hzero
  · rfl
  · have hrange : List.range numLayers.toNat = [] := List.range_eq_nil.mpr (by omega)
    rw [floorDiv, if_neg hzero]
    unfold decodePiecesLogged
    rw [hrange]
    rfl

/-- The slice of the first layer has bytes of the header if it has any. -/
theorem layerPieces_after_iff {data : Bytes} {numLayers : ℤ} (hlayers : 0 < numLayers) :
    (∀ piece ∈ (List.range numLayers.toNat).map (layerPiece 0 (legacyShare data numLayers)),
        AfterHeader data piece) ↔ legacyShare data numLayers = 0 := by
  constructor
  · intro hafter
    by_contra hshare
    have h0 : 0 < numLayers.toNat := by omega
    have hfirst := hafter _ (List.mem_map_of_mem (List.mem_range.mpr h0))
    have hlen := slice_layerPiece data h0
    have hstart := hfirst fun hnil => by
      rw [hnil] at hlen
      exact hshare hlen.symm
    have hzero : sliceBound data.length (layerPiece 0 (legacyShare data numLayers) 0).start = 0 := by
      simp [layerPiece, sliceBound]
    rw [hzero] at hstart
    exact absurd hstart (by decide)
  · intro hshare piece hpiece hne
    obtain ⟨i, hi, rfl⟩ := List.mem_map.mp hpiece
    have hlen := slice_layerPiece data (List.mem_range.mp hi)
    rw [hshare] at hlen hne
    exact absurd (List.eq_nil_of_length_eq_zero hlen) hne

/-- With layers, the legacy decoder raises or keeps away from the header exactly when a layer's share is empty
or has no length that decodes. -/
theorem legacy_kept_iff (fo : FloatOps) (data : Bytes) (codec : Codec) (hlayers : 0 < numLayers) :
    ((∃ e, ((decodeLegacyLogged fo data codec numLayers).exec []).1 = .error e) ∨
        ∀ piece ∈ ((decodeLegacyLogged fo data codec numLayers).exec []).2, AfterHeader data piece) ↔
      legacyShare data numLayers = 0 ∨ ∀ n, legacyShare data numLayers ≠ codec.encodedSize n := by
  obtain ⟨seen, hrun, hprefix, hall⟩ := exec_legacy fo data codec hlayers []
  have hdecodes := legacyPieces_isOk fo data codec hlayers
  rw [hrun, List.nil_append]
  cases hpieces : decodePieces fo codec data 0 (legacyShare data numLayers) numLayers.toNat with
  | error e =>
    rw [hpieces] at hdecodes
    refine iff_of_true (Or.inl ⟨e, rfl⟩) (Or.inr fun n hn => ?_)
    obtain ⟨ts, hts⟩ := hdecodes.mpr ⟨n, hn⟩
    cases hts
  | ok ts =>
    rw [hpieces] at hdecodes hall
    obtain ⟨n, hn⟩ := hdecodes.mp ⟨ts, rfl⟩
    have hno : ¬ ∀ n, legacyShare data numLayers ≠ codec.encodedSize n := fun h => h n hn
    rw [hall ⟨ts, rfl⟩, or_iff_left hno, ← layerPieces_after_iff hlayers]
    exact or_iff_right fun ⟨e, he⟩ => by cases he

/-- The codec is not known, there are no layers, or a layer's share of the bytes is empty or has no length
that decodes. -/
def LegacyHarmless (data : Bytes) (codecName : String) (numLayers : ℤ) : Prop :=
  ∀ codec, getCodec codecName = .ok codec → 0 < numLayers →
    legacyShare data numLayers = 0 ∨ ∀ n, legacyShare data numLayers ≠ codec.encodedSize n

/-- **The header is kept away from the codec** exactly where the legacy format gives nothing. -/
theorem header_kept_iff (hsize : headerSize ≤ data.length) (hmagic : data.take 8 = objectMagic) :
    HeaderKept fo data codecName numLayers ↔ LegacyHarmless data codecName numLayers := by
  unfold HeaderKept LegacyHarmless
  cases hcodec : getCodec codecName with
  | error e =>
    refine iff_of_true (Or.inl ⟨e, ?_⟩) fun codec h => by cases h
    rw [parseLogged, Effect.exec_bind, hcodec, Effect.exec_lift]
  | ok codec =>
    rw [parseLogged_header hsize hmagic hcodec]
    simp only [Except.ok.injEq, forall_eq']
    by_cases hlayers : 0 < numLayers
    · exact (legacy_kept_iff fo data codec hlayers).trans (imp_iff_right hlayers).symm
    · rw [exec_legacy_none hlayers]
      exact iff_of_true (Or.inr fun piece hpiece => absurd hpiece List.not_mem_nil) fun h => absurd h hlayers

/-- A header and one more byte, for one layer of halves. -/
theorem header_kept_odd :
    HeaderKept default (objectMagic ++ List.replicate 121 0) "fp16_raw" 1 ↔
      LegacyHarmless (objectMagic ++ List.replicate 121 0) "fp16_raw" 1 :=
  header_kept_iff (by decide +kernel) (by decide)

/-- An object of version 1 with one layer, one token, one block and the half `1.0`. -/
def headedObject : Bytes :=
  objectMagic ++ [1, 1, 1, 1, 16, 0, 0, 0].flatMap (leBytes 4) ++ List.replicate 88 0 ++ [0x00, 0x3c]

/-- Its 130 bytes are decoded as 65 halves. -/
theorem header_decoded :
    ¬ ∀ (fo : FloatOps) (data : Bytes) (codecName : String) (numLayers : ℤ), headerSize ≤ data.length →
      data.take 8 = objectMagic → HeaderKept fo data codecName numLayers := by
  intro h
  have hsize : headerSize ≤ headedObject.length := by decide +kernel
  have hmagic : headedObject.take 8 = objectMagic := by decide +kernel
  have hcodec : getCodec "fp16_raw" = .ok .fp16Raw := rfl
  have hkept := h default headedObject "fp16_raw" 1 hsize hmagic
  unfold HeaderKept at hkept
  rw [parseLogged_header hsize hmagic hcodec] at hkept
  have hshare : legacyShare headedObject 1 = 130 := by decide +kernel
  rcases (legacy_kept_iff _ _ _ (by decide)).mp hkept with hzero | hno
  · omega
  · exact hno 65 hshare

end Header

/-! ## What is reported -/

section Report

variable (rt : Runtime) (fo : FloatOps) (network : Bytes → Option Bytes) (md : DeadlineConnectorMetadata)

/-- The critical object, as far as the client gets it. -/
def criticalObject : Option Bytes :=
  if md.criticalObjectId = "" then none
  else DataClient.get rt network (pyStr md.criticalObjectId) .critical (pyStr md.requestId)

/-- The layers and the number of tokens if the critical object is fetched and decoded, else
`(False, None, 0)`. -/
def CriticalLoadReports : Prop :=
  startCriticalLoad rt fo network md =
    .ok (match (criticalObject rt network md).map (decodeCritical fo md) with
    | some (.ok (layers, tokens)) => (true, some layers, tokens)
    | _ => (false, none, 0))

/-- The request can be sent, and is answered with a frame that is no error and passes its checksum. -/
def ReplyDelivers : Prop :=
  ∃ frame reply header payload,
    encodeFrame (DataClient.getHeader (pyStr md.criticalObjectId) .critical (pyStr md.requestId)) [] =
        .ok frame ∧
      network frame = some reply ∧ decodeFrame rt.floatRepr reply = .ok (header, payload) ∧
      header.op ≠ .str (pyStr "ERROR") ∧
      (header.checksum.truthy = true → header.checksum = .str (computeChecksum rt payload))

variable {rt fo network md}

/-- The client's result is `None` for every other reply. -/
theorem get_isSome_iff :
    (∃ data,
        DataClient.get rt network (pyStr md.criticalObjectId) .critical (pyStr md.requestId) = some data) ↔
      ReplyDelivers rt network md := by
  unfold DataClient.get ReplyDelivers
  cases hframe : encodeFrame
      (DataClient.getHeader (pyStr md.criticalObjectId) .critical (pyStr md.requestId)) [] with
  | error e => simp
  | ok frame =>
    unfold DataClient.getResult
    cases hreply : network frame with
    | none => simp [hreply]
    | some reply =>
      cases hdecode : decodeFrame rt.floatRepr reply with
      | error e => simp [hreply, hdecode]
      | ok r =>
        obtain ⟨header, payload⟩ := r
        simp [hreply, hdecode, eqStr_iff]

/-- **The outcome is reported** exactly if there is nothing to fetch or the fetch succeeds; every failure
of the fetch escapes as a `RuntimeError`. -/
theorem critical_load_reports_iff :
    CriticalLoadReports rt fo network md ↔ md.criticalObjectId = "" ∨ ReplyDelivers rt network md := by
  unfold CriticalLoadReports criticalObject startCriticalLoad
  by_cases hid : md.criticalObjectId = ""
  · rw [if_pos hid, if_pos hid]
    exact iff_of_true rfl (Or.inl hid)
  rw [if_neg hid, if_neg hid, or_iff_right hid, ← get_isSome_iff]
  cases hget : DataClient.get rt network (pyStr md.criticalObjectId) .critical (pyStr md.requestId) with
  | none =>
    -- `CriticalChannel.fetch` raises, and the call is outside the `try` block
    refine iff_of_false (fun h => ?_) fun ⟨data, h⟩ => by cases h
    obtain ⟨data, hdata, -⟩ := Py.bind_eq_ok.mp h
    cases hdata
  | some data =>
    refine iff_of_true ?_ ⟨data, rfl⟩
    rw [Option.map_some, criticalFetch, Py.ok_bind]
    cases decodeCritical fo md data <;> rfl

/-- No server answers, and the exception escapes. -/
theorem critical_load_raises :
    ¬ ∀ (rt : Runtime) (fo : FloatOps) (network : Bytes → Option Bytes) (md : DeadlineConnectorMetadata),
      CriticalLoadReports rt fo network md := by
  intro h
  have hreports := h ⟨fun _ => [], fun _ => [], fun _ => ""⟩ default (fun _ => none)
    { requestId := "r", planMode := .fullFp16, criticalObjectId := "x" }
  have hget : ∀ rt objectId tier requestId,
      DataClient.get rt (fun _ => none) objectId tier requestId = none := by
    intro rt objectId tier requestId
    unfold DataClient.get
    split <;> rfl
  unfold CriticalLoadReports startCriticalLoad at hreports
  rw [if_neg (by decide), hget] at hreports
  cases hreports

end Report

end AwareKV
