import AwareKV.ObjectFormat

/-!
# AwareKV.HeaderWords — the numbers in a header

The saver packs five numbers and three reserved zeros behind the magic and fills the header up with
zeros; the loader reads eight words back from the bytes 8 to 40.  `HasNumbers header n` says that the
attributes which are packed are the integers of `n`, and `n.serialized` are the header's bytes.

* `serializeHeader_eq_ok_iff`: which headers are serialized, and as what.
* `unpackHeader_serialized`: the loader's words are the saver's.
* `tryParseHeader_serialized`: so the loader constructs its header from the saver's numbers.
* `header_words_exact`: numbers that do not fit raise, and all others come back.
-/

namespace AwareKV

/-- The numbers of a header. -/
structure HeaderNumbers where
  objectFormatVersion : ℤ
  numLayers : ℤ
  matchedTokens : ℤ
  matchedBlocks : ℤ
  blockSize : ℤ
  deriving DecidableEq

namespace HeaderNumbers

/-- The numbers in the order in which they are packed. -/
def toList (n : HeaderNumbers) : List ℤ :=
  [n.objectFormatVersion, n.numLayers, n.matchedTokens, n.matchedBlocks, n.blockSize]

/-- All numbers are unsigned 32-bit ones. -/
def Fits (n : HeaderNumbers) : Prop := ∀ v ∈ n.toList, 0 ≤ v ∧ v < 2 ^ 32

/-- What is packed: the numbers and the reserved words. -/
def words (n : HeaderNumbers) : List ℤ := n.toList ++ [0, 0, 0]

/-- The bytes of a header. -/
def serialized (n : HeaderNumbers) : Bytes :=
  objectMagic ++ (n.words.flatMap fun v => leBytes 4 v.toNat) ++ List.replicate 88 0

variable {n : HeaderNumbers}

theorem toList_injective : Function.Injective toList := by
  rintro ⟨v, l, t, b, s⟩ ⟨v', l', t', b', s'⟩ h
  simpa [toList] using h

theorem words_fit_iff : (∀ v ∈ n.words, 0 ≤ v ∧ v < 2 ^ 32) ↔ n.Fits := by
  simp [words, Fits, or_imp, forall_and]

theorem length_words (n : HeaderNumbers) : (n.words.flatMap fun v => leBytes 4 v.toNat).length = 32 :=
  length_flatMap_leBytes 4 Int.toNat n.words

@[simp] theorem length_serialized (n : HeaderNumbers) : n.serialized.length = headerSize := by
  rw [serialized, List.length_append, List.length_append, length_words, List.length_replicate]
  rfl

theorem magic_prefix (n : HeaderNumbers) : objectMagic <+: n.serialized :=
  (List.prefix_append _ _).trans (List.prefix_append _ _)

end HeaderNumbers

/-- The attributes that are packed are these integers. -/
structure HasNumbers (header : PyObj) (n : HeaderNumbers) : Prop where
  objectFormatVersion :
    header.attr "ObjectHeader" "object_format_version" = .ok (.int n.objectFormatVersion)
  numLayers : header.attr "ObjectHeader" "num_layers" = .ok (.int n.numLayers)
  matchedTokens : header.attr "ObjectHeader" "matched_tokens" = .ok (.int n.matchedTokens)
  matchedBlocks : header.attr "ObjectHeader" "matched_blocks" = .ok (.int n.matchedBlocks)
  blockSize : header.attr "ObjectHeader" "block_size" = .ok (.int n.blockSize)

/-! ## What the saver writes -/

section Saver

variable {header : PyObj} {n : HeaderNumbers} {bytes : Bytes}

/-- Integers are packed as words. -/
theorem mapM_packField_int (vs : List ℤ) : (vs.map PyVal.int).mapM packField = vs.mapM packU32 := by
  rw [List.mapM_map]
  rfl

/-- A header with integers is serialized if they fit. -/
theorem serializeHeader_of_numbers (h : HasNumbers header n) :
    serializeHeader header = .ok bytes ↔ n.Fits ∧ n.serialized = bytes := by
  have hfields : ["object_format_version", "num_layers", "matched_tokens", "matched_blocks",
      "block_size"].mapM (header.attr "ObjectHeader") = .ok (n.toList.map PyVal.int) :=
    Py.mapM_eq_ok.mpr (.cons h.objectFormatVersion (.cons h.numLayers (.cons h.matchedTokens
      (.cons h.matchedBlocks (.cons h.blockSize .nil)))))
  have hwords : n.toList.map PyVal.int ++ [PyVal.int 0, PyVal.int 0, PyVal.int 0] =
      n.words.map PyVal.int := rfl
  unfold serializeHeader
  rw [hfields, Py.ok_bind, hwords, mapM_packField_int, Py.bind_eq_ok]
  simp only [Py.mapM_eq_ok_iff fun v bs => packU32_eq_ok_iff, HeaderNumbers.words_fit_iff]
  have hbytes : ∀ packed, n.words.map (fun v => leBytes 4 v.toNat) = packed →
      objectMagic ++ packed.flatten ++
        List.replicate (headerSize - (objectMagic ++ packed.flatten).length) 0 = n.serialized := by
    rintro _ rfl
    rw [← List.flatMap_def, List.length_append, n.length_words]
    rfl
  constructor
  · rintro ⟨packed, ⟨hfits, hpacked⟩, hb⟩
    exact ⟨hfits, (hbytes packed hpacked).symm.trans (Except.ok.inj hb)⟩
  · rintro ⟨hfits, rfl⟩
    exact ⟨_, ⟨hfits, rfl⟩, congrArg Except.ok (hbytes _ rfl)⟩

/-- What is packed without an error is an integer. -/
theorem packField_isOk {v : PyVal} {bs : Bytes} (h : packField v = .ok bs) : ∃ i, v = .int i := by
  cases v with
  | int i => exact ⟨i, rfl⟩
  | none => cases h
  | str s => cases h
  | ints l => cases h

/-- A serialized header has integers. -/
theorem hasNumbers_of_serialized (h : serializeHeader header = .ok bytes) :
    ∃ n, HasNumbers header n := by
  obtain ⟨fields, hfields, h⟩ := Py.bind_eq_ok.mp h
  obtain ⟨packed, hpacked, -⟩ := Py.bind_eq_ok.mp h
  have hint : ∀ v ∈ fields, ∃ i, v = .int i := by
    intro v hv
    obtain ⟨bs, hbs⟩ := Py.mapM_isOk.mp ⟨packed, hpacked⟩ v (List.mem_append_left _ hv)
    exact packField_isOk hbs
  obtain _ | ⟨hv, _ | ⟨hl, _ | ⟨ht, _ | ⟨hb, _ | ⟨hs, _ | _⟩⟩⟩⟩⟩ := Py.mapM_eq_ok.mp hfields
  simp only [List.forall_mem_cons] at hint
  obtain ⟨⟨v, rfl⟩, ⟨l, rfl⟩, ⟨t, rfl⟩, ⟨b, rfl⟩, ⟨s, rfl⟩, -⟩ := hint
  exact ⟨⟨v, l, t, b, s⟩, hv, hl, ht, hb, hs⟩

/-- **What is serialized**: the headers with integers that fit. -/
theorem serializeHeader_eq_ok_iff :
    serializeHeader header = .ok bytes ↔ ∃ n, HasNumbers header n ∧ n.Fits ∧ n.serialized = bytes := by
  constructor
  · intro h
    obtain ⟨n, hn⟩ := hasNumbers_of_serialized h
    exact ⟨n, hn, (serializeHeader_of_numbers hn).mp h⟩
  · rintro ⟨n, hn, h⟩
    exact (serializeHeader_of_numbers hn).mpr h

/-- A serialized header fills its place. -/
theorem serializeHeader_length (h : serializeHeader header = .ok bytes) : bytes.length = headerSize := by
  obtain ⟨n, -, -, rfl⟩ := serializeHeader_eq_ok_iff.mp h
  exact n.length_serialized

/-- Attributes that can be serialized. -/
def plainHeader : PyObj :=
  [("object_format_version", .int 1), ("num_layers", .int 2), ("matched_tokens", .int 1),
    ("matched_blocks", .int 1), ("block_size", .int 16)]

theorem serializeHeader_plain : ∃ bytes, serializeHeader plainHeader = .ok bytes := ⟨_, rfl⟩

end Saver

/-! ## What the loader reads -/

section Loader

variable {n : HeaderNumbers}

/-- `struct.unpack("<IIIIIIII", header_bytes[8:40])`. -/
def unpackHeader (headerBytes : Bytes) : Py (List ℤ) := unpackU32s 8 (slice headerBytes 8 40)

/-- The words by their offsets. -/
theorem unpackHeader_eq {headerBytes : Bytes} (hlen : headerSize ≤ headerBytes.length) :
    unpackHeader headerBytes = .ok ((List.range 8).map fun i => unpackU32 headerBytes (8 + 4 * i)) := by
  have hslice : slice headerBytes 8 40 = (headerBytes.take 40).drop 8 := slice_nat headerBytes 8 40
  have hlength : ((headerBytes.take 40).drop 8).length = 4 * 8 := by
    have h128 : 128 ≤ headerBytes.length := hlen
    rw [List.length_drop, List.length_take]
    omega
  rw [unpackHeader, hslice, unpackU32s, if_pos hlength, readFields_eq, List.map_map]
  refine congrArg Except.ok (List.map_congr_left fun i hi => ?_)
  have h8 := List.mem_range.mp hi
  show ((leNat ((((headerBytes.take 40).drop 8).drop (4 * i)).take 4) : ℕ) : ℤ) = _
  rw [List.drop_drop, List.drop_take, List.take_take, Nat.min_eq_left (by omega)]
  rfl

/-- **The loader's words are the saver's.** -/
theorem unpackHeader_serialized (h : n.Fits) : unpackHeader n.serialized = .ok n.words := by
  have hslice : slice n.serialized 8 40 = n.words.flatMap fun v => leBytes 4 v.toNat := by
    refine slice_mid rfl rfl ?_
    rw [n.length_words]
    rfl
  rw [unpackHeader, hslice]
  exact unpackU32s_flatMap (HeaderNumbers.words_fit_iff.mpr h)

/-- What the loader gives `ObjectHeader`. -/
def loaderHeader (n : HeaderNumbers) : PyObj := [
  ("object_format_version", .int n.objectFormatVersion),
  ("num_layers", .int n.numLayers),
  ("matched_tokens", .int n.matchedTokens),
  ("matched_blocks", .int n.matchedBlocks),
  ("block_size", .int n.blockSize),
  ("cache_dtype", .str "float16"),
  ("kv_layout_version", .int 1),
  ("checksum", .str "")]

/-- The loader takes its numbers from the words, and ignores the reserved ones. -/
theorem tryParseHeader_words {headerBytes : Bytes} (hlen : headerSize ≤ headerBytes.length)
    (hmagic : objectMagic <+: headerBytes) {reserved : List ℤ}
    (hwords : unpackHeader headerBytes = .ok (n.toList ++ reserved)) :
    tryParseHeader headerBytes = do
      let header ← newObjectHeader (loaderHeader n)
      return some header := by
  have htake : headerBytes.take 8 = objectMagic := (List.prefix_iff_eq_take.mp hmagic).symm
  rw [unpackHeader_eq hlen, Except.ok.injEq] at hwords
  obtain ⟨v, l, t, b, s⟩ := n
  simp only [List.range_succ, List.range_zero, HeaderNumbers.toList, List.nil_append, List.cons_append,
    List.map_cons, List.cons.injEq] at hwords
  obtain ⟨rfl, rfl, rfl, rfl, rfl, -⟩ := hwords
  unfold tryParseHeader
  rw [if_neg (by omega), if_neg (not_not.mpr htake)]
  rfl

/-- **The loader constructs its header from the saver's numbers.** -/
theorem tryParseHeader_serialized (h : n.Fits) :
    tryParseHeader n.serialized = do
      let header ← newObjectHeader (loaderHeader n)
      return some header :=
  tryParseHeader_words n.length_serialized.ge n.magic_prefix (unpackHeader_serialized h)

/-- Different numbers have different bytes. -/
theorem serialized_inj {n' : HeaderNumbers} (h : n.Fits) (h' : n'.Fits)
    (he : n.serialized = n'.serialized) : n = n' := by
  have hwords : n.words = n'.words := by
    have hread := unpackHeader_serialized h
    rw [he, unpackHeader_serialized h', Except.ok.injEq] at hread
    exact hread.symm
  exact HeaderNumbers.toList_injective (List.append_cancel_right hwords)

end Loader

/-- **Header words**: a header with integers is not serialized if one of them is outside `[0, 2^32)`;
otherwise it is serialized to 128 bytes that start with the magic and from which the loader unpacks the
five numbers and three zeros; so headers with different numbers are serialized differently. -/
theorem header_words_exact {header : PyObj} {n : HeaderNumbers} (h : HasNumbers header n) :
    ((∃ v ∈ n.toList, ¬ (0 ≤ v ∧ v < 2 ^ 32)) → ∃ e, serializeHeader header = .error e) ∧
      ((∀ v ∈ n.toList, 0 ≤ v ∧ v < 2 ^ 32) → ∃ bytes, serializeHeader header = .ok bytes ∧
        bytes.length = 128 ∧ objectMagic <+: bytes ∧ unpackHeader bytes = .ok (n.toList ++ [0, 0, 0])) ∧
      ∀ header' n', HasNumbers header' n' → n ≠ n' → ∀ bytes, serializeHeader header = .ok bytes →
        serializeHeader header' ≠ .ok bytes := by
  refine ⟨?_, fun hfits => ?_, ?_⟩
  · rintro ⟨v, hv, hout⟩
    cases hs : serializeHeader header with
    | error e => exact ⟨e, rfl⟩
    | ok bytes => exact absurd (((serializeHeader_of_numbers h).mp hs).1 v hv) hout
  · exact ⟨n.serialized, (serializeHeader_of_numbers h).mpr ⟨hfits, rfl⟩, n.length_serialized,
      n.magic_prefix, unpackHeader_serialized hfits⟩
  · intro header' n' h' hne bytes hs hs'
    obtain ⟨hfits, hb⟩ := (serializeHeader_of_numbers h).mp hs
    obtain ⟨hfits', hb'⟩ := (serializeHeader_of_numbers h').mp hs'
    exact hne (serialized_inj hfits hfits' (hb.trans hb'.symm))

/-- The words of a header for two layers. -/
theorem header_words_exact_plain :
    ∃ bytes, serializeHeader plainHeader = .ok bytes ∧ bytes.length = 128 ∧ objectMagic <+: bytes ∧
      unpackHeader bytes = .ok [1, 2, 1, 1, 16, 0, 0, 0] :=
  (header_words_exact (n := ⟨1, 2, 1, 1, 16⟩) ⟨rfl, rfl, rfl, rfl, rfl⟩).2.1 (by decide)

end AwareKV
