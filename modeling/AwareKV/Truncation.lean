import AwareKV.Framing
import AwareKV.Lib.CutJson

/-!
# AwareKV.Truncation — frames that were cut short

`decode_frame` on a strict prefix of a frame.  Slices do not raise, but the fields of the fixed header are
unpacked from exact lengths and a cut header is no JSON; nothing compares the payload with its length.

* `decodeFrame_eq_ok`: what `decode_frame` has read when it returns.
* `truncated_rejected_iff`: a cut frame is refused exactly when the cut is before the payload.
-/

namespace AwareKV

variable {floatRepr : PyStr → PyStr}

/-! ## What is decoded -/

/-- The header length that the fixed header announces. -/
def headerLenOf (data : Bytes) : ℕ := beNat (slice data 6 10)

/-- The payload length that the fixed header announces. -/
def payloadLenOf (data : Bytes) : ℕ := beNat (slice data 10 14)

theorem unpackNet_eq_ok {k n : ℕ} {data : Bytes} (h : unpackNet k data = .ok n) :
    data.length = k ∧ n = beNat data := by
  unfold unpackNet at h
  split at h
  · next hlen => exact ⟨hlen, (Except.ok.inj h).symm⟩
  · cases h

/-- The payload length of a header is the one that it was built with. -/
theorem ofDict_payloadNbytes {dict : Json} {n : ℕ} {h : FrameHeader} (hof : FrameHeader.ofDict dict n = .ok h) :
    h.payloadNbytes = n := by
  obtain ⟨op, -, hof⟩ := Py.bind_eq_ok.mp hof
  obtain ⟨requestId, -, hof⟩ := Py.bind_eq_ok.mp hof
  obtain ⟨objectId, -, hof⟩ := Py.bind_eq_ok.mp hof
  obtain ⟨tier, -, hof⟩ := Py.bind_eq_ok.mp hof
  obtain ⟨codec, -, hof⟩ := Py.bind_eq_ok.mp hof
  obtain ⟨checksum, -, hof⟩ := Py.bind_eq_ok.mp hof
  obtain ⟨deadlineMs, -, hof⟩ := Py.bind_eq_ok.mp hof
  cases hof
  rfl

/-- **What `decode_frame` has read when it returns**: the whole fixed header, a header that is JSON, and as
much of the payload as there is. -/
theorem decodeFrame_eq_ok {data : Bytes} {h : FrameHeader} {payload : Bytes}
    (hdecode : decodeFrame floatRepr data = .ok (h, payload)) :
    14 ≤ data.length ∧
      (∃ dict, loadsUtf8 floatRepr (slice data 14 (14 + headerLenOf data)) = .ok dict) ∧
      h.payloadNbytes = payloadLenOf data ∧
      payload = (data.drop (14 + headerLenOf data)).take (payloadLenOf data) := by
  unfold decodeFrame at hdecode
  split at hdecode
  · cases hdecode
  obtain ⟨version, hversion, hdecode⟩ := Py.bind_eq_ok.mp hdecode
  split at hdecode
  · cases hdecode
  obtain ⟨headerLen, hheaderLen, hdecode⟩ := Py.bind_eq_ok.mp hdecode
  obtain ⟨payloadLen, hpayloadLen, hdecode⟩ := Py.bind_eq_ok.mp hdecode
  obtain ⟨dict, hdict, hdecode⟩ := Py.bind_eq_ok.mp hdecode
  obtain ⟨header, hheader, hdecode⟩ := Py.bind_eq_ok.mp hdecode
  cases hdecode
  obtain ⟨-, rfl⟩ := unpackNet_eq_ok hheaderLen
  obtain ⟨hlen, rfl⟩ := unpackNet_eq_ok hpayloadLen
  have hlen' : 14 ≤ data.length := by
    have hslice : slice data 10 14 = (data.take 14).drop 10 := slice_nat data 10 14
    rw [hslice, List.length_drop, List.length_take] at hlen
    omega
  have hpayload : slice data (14 + headerLenOf data) (14 + headerLenOf data + payloadLenOf data) =
      (data.take (14 + headerLenOf data + payloadLenOf data)).drop (14 + headerLenOf data) := slice_nat _ _ _
  rw [List.drop_take, Nat.add_sub_cancel_left] at hpayload
  exact ⟨hlen', ⟨dict, hdict⟩, ofDict_payloadNbytes hheader, hpayload⟩

/-- **The lengths agree exactly when** nothing of the announced payload is missing. -/
theorem payloadNbytes_iff {data : Bytes} {h : FrameHeader} {payload : Bytes}
    (hdecode : decodeFrame floatRepr data = .ok (h, payload)) :
    h.payloadNbytes = payload.length ↔ payloadLenOf data = 0 ∨ frameLen data ≤ data.length := by
  obtain ⟨-, -, hnbytes, hpayload⟩ := decodeFrame_eq_ok hdecode
  have hlen : payload.length = min (payloadLenOf data) (data.length - (14 + headerLenOf data)) := by
    rw [hpayload, List.length_take, List.length_drop]
  have htotal : frameLen data = 14 + headerLenOf data + payloadLenOf data := rfl
  rw [hnbytes, hlen, htotal]
  omega

/-! ## Cut frames -/

/-- A cut header is refused. -/
theorem loadsUtf8_cut (floatRepr : PyStr → PyStr) {h : FrameHeader} (hflat : h.Flat) {json : Bytes}
    (hjson : h.headerJson = .ok json) {k : ℕ} (hk : k < json.length) :
    ∃ e, loadsUtf8 floatRepr (json.take k) = .error e := by
  obtain ⟨text, htext, henc⟩ := Py.bind_eq_ok.mp hjson
  have hascii : Ascii text := ascii_dumps hflat htext
  rw [encodeUtf8_of_surrogateFree hascii.surrogateFree] at henc
  cases henc
  have hne : text.take k ≠ text := by
    intro heq
    have hlen := congrArg List.length heq
    rw [hascii.length_utf8] at hk
    rw [List.length_take] at hlen
    omega
  have hloads : loads floatRepr (text.take k) = none := loads_cut hflat htext (List.take_prefix k text) hne
  rw [loadsUtf8, hascii.decodeUtf8_take k]
  simp only [hloads]
  exact ⟨_, rfl⟩

section Cut

variable {h : FrameHeader} {payload frame p : Bytes}

/-- **A cut before the payload is noticed**: a field of the fixed header is short, or the header is. -/
theorem decodeFrame_cut_header (hflat : h.Flat) (hframe : encodeFrame h payload = .ok frame) (hp : p <+: frame)
    (hlt : p.length + payload.length < frame.length) : ∃ e, decodeFrame floatRepr p = .error e := by
  cases hdecode : decodeFrame floatRepr p with
  | error e => exact ⟨e, rfl⟩
  | ok r =>
    obtain ⟨json, hjson, hjlt, hplt, rfl⟩ := encodeFrame_eq_ok.mp hframe
    obtain ⟨hfixed, ⟨dict, hdict⟩, -, -⟩ := decodeFrame_eq_ok hdecode
    have hprefix := framePrefix_length json.length payload.length
    rw [List.length_append, List.length_append, hprefix] at hlt
    have htake : p = (framePrefix json.length payload.length ++ (json ++ payload)).take p.length := by
      rw [← List.append_assoc]
      exact List.prefix_iff_eq_take.mp hp
    have hheaderLen : headerLenOf p = json.length := by
      have hslice : slice p 6 10 =
          slice (framePrefix json.length payload.length ++ (json ++ payload)) 6 10 := by
        rw [htake]
        exact slice_take (a := 6) (b := 10) (by omega)
      rw [headerLenOf, hslice, slice_headerLen]
      exact beNat_beBytes hjlt
    have hheader : slice p 14 (14 + json.length) = json.take (p.length - 14) := by
      have hslice : slice p 14 (14 + json.length) = (p.take (14 + json.length)).drop 14 := slice_nat _ _ _
      have hdrop : (framePrefix json.length payload.length ++ (json ++ payload)).drop 14 = json ++ payload :=
        List.drop_left' hprefix
      have hjson' : (json ++ payload).take (p.length - 14) = json.take (p.length - 14) :=
        List.take_append_of_le_length (by omega)
      rw [hslice, List.take_of_length_le (by omega), ← hjson', ← hdrop, ← List.drop_take, ← htake]
    obtain ⟨e, he⟩ := loadsUtf8_cut floatRepr hflat hjson (show p.length - 14 < json.length by omega)
    rw [hheaderLen, hheader, he] at hdict
    cases hdict

/-- **A cut in the payload is not noticed**: the payload comes back short under its full length. -/
theorem decodeFrame_cut_payload (hflat : h.Flat) (hframe : encodeFrame h payload = .ok frame) (hp : p <+: frame)
    (hle : frame.length ≤ p.length + payload.length) :
    decodeFrame floatRepr p = .ok ({ h.joined with payloadNbytes := payload.length },
      payload.take (p.length + payload.length - frame.length)) := by
  obtain ⟨json, hjson, hjlt, hplt, rfl⟩ := encodeFrame_eq_ok.mp hframe
  obtain ⟨q, rfl, hq⟩ : ∃ q, p = framePrefix json.length payload.length ++ json ++ q ∧ q <+: payload := by
    rcases prefix_of_append hp with hcut | hrest
    · have hlen : (framePrefix json.length payload.length ++ json).length ≤ p.length := by
        rw [List.length_append] at hle
        omega
      exact ⟨[], by rw [List.append_nil, hcut.eq_of_length_le hlen], List.nil_prefix⟩
    · exact hrest
  have hqlen : q.length ≤ payload.length := hq.length_le
  have hpayload : payload.take q.length = q := (List.prefix_iff_eq_take.mp hq).symm
  have hsub : (framePrefix json.length payload.length ++ json ++ q).length + payload.length -
      (framePrefix json.length payload.length ++ json ++ payload).length = q.length := by
    simp only [List.length_append]
    omega
  rw [decodeFrame_parts hflat hjson hjlt hplt, List.take_of_length_le hqlen, hsub, hpayload]

end Cut

/-- **Truncated frames are rejected exactly when** the cut is before the payload; and the lengths that
`decode_frame` returns agree exactly when the announced payload is all there. -/
theorem truncated_rejected_iff (floatRepr : PyStr → PyStr) {h : FrameHeader} (hflat : h.Flat)
    {payload frame : Bytes} (hframe : encodeFrame h payload = .ok frame) :
    (∀ p, p <+: frame → p ≠ frame →
      ((∃ e, decodeFrame floatRepr p = .error e) ↔ p.length + payload.length < frame.length)) ∧
      ∀ data h' payload', decodeFrame floatRepr data = .ok (h', payload') →
        (h'.payloadNbytes = payload'.length ↔ payloadLenOf data = 0 ∨ frameLen data ≤ data.length) := by
  refine ⟨fun p hp _ => ⟨?_, decodeFrame_cut_header hflat hframe hp⟩,
    fun data h' payload' hdecode => payloadNbytes_iff hdecode⟩
  rintro ⟨e, he⟩
  by_contra hle
  rw [decodeFrame_cut_payload hflat hframe hp (not_lt.mp hle)] at he
  cases he

theorem decode_testFrame : decodeFrame (fun s => s) testFrame =
    .ok ({ testHeader with payloadNbytes := ([0x74, 0x65] : Bytes).length }, [0x74, 0x65]) := by
  rw [← List.append_nil testFrame, decodeFrame_encodeFrame testHeader_typed.flat encode_testFrame [],
    testHeader_typed.joined]

/-- The frame of the test cut in its header, and the whole of it. -/
theorem truncated_rejected_test :
    ((∃ e, decodeFrame (fun s => s) (testFrame.take 20) = .error e) ↔
      (testFrame.take 20).length + ([0x74, 0x65] : Bytes).length < testFrame.length) ∧
      ((([0x74, 0x65] : Bytes).length : ℤ) = ([0x74, 0x65] : Bytes).length ↔
        payloadLenOf testFrame = 0 ∨ frameLen testFrame ≤ testFrame.length) :=
  ⟨(truncated_rejected_iff (fun s => s) testHeader_typed.flat encode_testFrame).1 _ (List.take_prefix 20 _)
      (by decide +kernel),
    (truncated_rejected_iff (fun s => s) testHeader_typed.flat encode_testFrame).2 _ _ _ decode_testFrame⟩

/-- The frame of the test without its last byte is decoded, to one byte where two are announced. -/
theorem truncated_accepted :
    ¬ ∀ (h : FrameHeader) (payload frame p : Bytes), h.Flat → encodeFrame h payload = .ok frame →
      p <+: frame → p ≠ frame →
      (∃ e, decodeFrame (fun s => s) p = .error e) ∧
        ∀ h' payload', decodeFrame (fun s => s) p = .ok (h', payload') →
          h'.payloadNbytes = payload'.length := by
  intro hall
  obtain ⟨⟨e, he⟩, -⟩ := hall testHeader [0x74, 0x65] testFrame testFrame.dropLast testHeader_typed.flat
    encode_testFrame (List.dropLast_prefix testFrame) (by decide +kernel)
  rw [decodeFrame_cut_payload testHeader_typed.flat encode_testFrame (List.dropLast_prefix testFrame)
    (by decide +kernel)] at he
  cases he

end AwareKV
