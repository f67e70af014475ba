import AwareKV.Lib.Bytes
import AwareKV.Lib.Doubles
import AwareKV.Lib.Tensor
import AwareKV.Types

/-!
# AwareKV.Codec — the registered codecs

Translation of `codec/fp16_raw.py`, `codec/int8_symm.py`, `codec/registry.py` and
`common/tensor_io.py`.  Half precision elements are their 16-bit patterns, single precision ones
their 32-bit patterns.  `FloatOps` are the numpy and torch operations on these patterns that the
codecs call; nothing is assumed about them.  The tensors to encode have any element type `α`, with
torch's conversion `toHalf` to half precision (the identity for fp16 tensors).

* `encodedSize`: what an encoding with `n` elements occupies.
* `encode_length`, `decode_length`: an encoding has that length, and only data of that length for
  the decoded dimensions decodes.
* `fp16_raw_bijection`: half precision tensors and their encodings correspond one to one.
-/

namespace AwareKV

/-- Half precision elements. -/
abbrev Half := UInt16

/-- Arithmetic on bit patterns as numpy and torch do it. -/
structure FloatOps where
  /-- `astype(np.float32)` of a half -/
  toFloat32 : Half → UInt32
  /-- `to(torch.float16)` of a single -/
  toFloat16 : UInt32 → Half
  /-- `np.maximum` -/
  max : UInt32 → UInt32 → UInt32
  div : UInt32 → UInt32 → UInt32
  mul : UInt32 → UInt32 → UInt32
  /-- `np.round` -/
  round : UInt32 → UInt32
  /-- `astype(np.int8)` of a single, as a bit pattern -/
  toInt8 : UInt32 → UInt8
  /-- `astype(np.float32)` of an int8 -/
  ofInt8 : UInt8 → UInt32
  /-- Python's own floats -/
  doubles : DoubleOps

/-- Constant operations on the patterns, for data that no operation is applied to. -/
instance : Inhabited FloatOps :=
  ⟨⟨fun _ => 0, fun _ => 0, fun _ _ => 0, fun _ _ => 0, fun _ _ => 0, fun _ => 0, fun _ => 0, fun _ => 0, default⟩⟩

/-- `abs` of a single: the sign bit cleared. -/
def absF32 (x : UInt32) : UInt32 := x &&& 0x7fffffff

/-- The single `1.0`. -/
def oneF32 : UInt32 := 0x3f800000

/-- The single `127.0`. -/
def f32_127 : UInt32 := 0x42fe0000

/-! ## Tensors and bytes -/

/-- `tensor_to_bytes` of a half precision tensor. -/
def tensorToBytes (t : Tensor Half) : Bytes := ofWords t.data

/-- `array.reshape(shape)`, where `None` keeps the one dimension. -/
def reshapeTo {α : Type} (xs : List α) : Option (List ℤ) → Py (Tensor α)
  | none => .ok (Tensor.flat xs)
  | some shape => Tensor.reshape xs shape

/-- `bytes_to_tensor(data, shape, torch.float16)`. -/
def bytesToTensor (data : Bytes) (shape : Option (List ℤ)) : Py (Tensor Half) := do
  let ws ← toWords data
  reshapeTo ws shape

/-- `EncodedBlob(..., nbytes)` with its `__post_init__`. -/
def EncodedBlob.make (codecName : String) (data : Bytes) (shape : Option (List ℤ)) (dtype : String)
    (nbytes : ℤ) : EncodedBlob :=
  ⟨codecName, data, shape, dtype, if nbytes = 0 then data.length else nbytes⟩

/-! ## The codecs -/

/-- The registered codecs. -/
inductive Codec
  | fp16Raw | int8Symm
  deriving DecidableEq, Repr

/-- `codec.name`. -/
def Codec.name : Codec → String
  | .fp16Raw => "fp16_raw"
  | .int8Symm => "int8_symm"

/-- `get_codec`. -/
def getCodec (name : String) : Py Codec :=
  if name = "fp16_raw" then .ok .fp16Raw
  else if name = "int8_symm" then .ok .int8Symm
  else .error ⟨.valueError, "Unknown codec: " ++ name⟩

@[simp] theorem getCodec_name (c : Codec) : getCodec c.name = .ok c := by cases c <;> rfl

/-- The check that every codec makes before it decodes. -/
def Codec.checkName (c : Codec) (blob : EncodedBlob) : Py Unit :=
  if blob.codecName = c.name then .ok ()
  else .error ⟨.valueError, "Codec mismatch: expected " ++ c.name ++ ", got " ++ blob.codecName⟩

namespace FP16RawCodec

/-- `FP16RawCodec.encode`. -/
def encode {α : Type} (toHalf : α → Half) (t : Tensor α) : Py EncodedBlob :=
  let data := tensorToBytes (t.map toHalf)
  .ok (.make "fp16_raw" data (some (t.shape.map Int.ofNat)) "torch.float16" data.length)

/-- `FP16RawCodec.decode`. -/
def decode (blob : EncodedBlob) : Py (Tensor Half) := do
  Codec.checkName .fp16Raw blob
  bytesToTensor blob.data blob.shape

end FP16RawCodec

namespace Int8SymmetricCodec

variable (fo : FloatOps)

/-- `np.abs(x).max()`. -/
def absMax : List UInt32 → Py UInt32
  | [] => .error ⟨.valueError,
      "zero-size array to reduction operation maximum which has no identity"⟩
  | x :: xs => .ok (xs.foldl (fun m y => fo.max m (absF32 y)) (absF32 x))

/-- The scale: `abs_max / 127.0`, with `abs_max = 1.0` for an all-zero tensor. -/
def scaleOf (m : UInt32) : UInt32 := fo.div (if absF32 m = 0 then oneF32 else m) f32_127

/-- `Int8SymmetricCodec.encode`. -/
def encode {α : Type} (toHalf : α → Half) (t : Tensor α) : Py EncodedBlob := do
  let xs := (t.map toHalf).data.map fo.toFloat32
  let m ← absMax fo xs
  let scale := scaleOf fo m
  let quantized := xs.map (fun x => fo.toInt8 (fo.round (fo.div x scale)))
  let data := leBytes 4 scale.toNat ++ quantized
  return .make "int8_symm" data (some (t.shape.map Int.ofNat)) "int8" data.length

/-- `Int8SymmetricCodec.decode`. -/
def decode (blob : EncodedBlob) : Py (Tensor Half) := do
  Codec.checkName .int8Symm blob
  if (blob.data.take 4).length = 4 then
    let scale := UInt32.ofNat (leNat (blob.data.take 4))
    let q ← reshapeTo (blob.data.drop 4) blob.shape
    return (q.map (fun b => fo.mul (fo.ofInt8 b) scale)).map fo.toFloat16
  else throw ⟨.structError, "unpack requires a buffer of 4 bytes"⟩

end Int8SymmetricCodec

variable (fo : FloatOps)

/-- `codec.encode(tensor)`. -/
def Codec.encode {α : Type} (c : Codec) (toHalf : α → Half) (t : Tensor α) : Py EncodedBlob :=
  match c with
  | .fp16Raw => FP16RawCodec.encode toHalf t
  | .int8Symm => Int8SymmetricCodec.encode fo toHalf t

/-- `codec.decode(blob)`. -/
def Codec.decode (c : Codec) (blob : EncodedBlob) : Py (Tensor Half) :=
  match c with
  | .fp16Raw => FP16RawCodec.decode blob
  | .int8Symm => Int8SymmetricCodec.decode fo blob

/-! ## Sizes -/

/-- The bytes of an encoding of `n` elements. -/
def Codec.encodedSize : Codec → ℕ → ℕ
  | .fp16Raw, n => 2 * n
  | .int8Symm, n => n + 4

variable {fo}

theorem reshapeTo_length {α : Type} {xs : List α} {shape : Option (List ℤ)} {t : Tensor α}
    (h : reshapeTo xs shape = .ok t) : xs.length = t.shape.prod := by
  cases shape with
  | none => cases h; simp [Tensor.flat]
  | some s => exact Tensor.reshape_length h

/-- An encoding has the size of its codec for the tensor's elements. -/
theorem encode_length {α : Type} {c : Codec} {toHalf : α → Half} {t : Tensor α} {blob : EncodedBlob}
    (h : c.encode fo toHalf t = .ok blob) : blob.data.length = c.encodedSize t.shape.prod := by
  cases c with
  | fp16Raw =>
    cases h
    simp [EncodedBlob.make, tensorToBytes, Tensor.map, Codec.encodedSize, t.sized]
  | int8Symm =>
    obtain ⟨m, -, h⟩ := Py.bind_eq_ok.mp h
    cases h
    simp [EncodedBlob.make, Tensor.map, Codec.encodedSize, t.sized, Nat.add_comm]

/-- What an encoding says about itself. -/
theorem encode_blob {α : Type} {c : Codec} {toHalf : α → Half} {t : Tensor α} {blob : EncodedBlob}
    (h : c.encode fo toHalf t = .ok blob) :
    blob.codecName = c.name ∧ blob.shape = some (t.shape.map Int.ofNat) := by
  cases c with
  | fp16Raw =>
    cases h
    exact ⟨rfl, rfl⟩
  | int8Symm =>
    obtain ⟨m, -, h⟩ := Py.bind_eq_ok.mp h
    cases h
    exact ⟨rfl, rfl⟩

/-- **Only the int8 codec refuses a tensor**: one without elements. -/
theorem encode_isOk {α : Type} (fo : FloatOps) (c : Codec) (toHalf : α → Half) (t : Tensor α) :
    (∃ blob, c.encode fo toHalf t = .ok blob) ↔ (c = .int8Symm → t.shape.prod ≠ 0) := by
  cases c with
  | fp16Raw => exact iff_of_true ⟨_, rfl⟩ fun h => by cases h
  | int8Symm =>
    have hlen : ((t.map toHalf).data.map fo.toFloat32).length = t.shape.prod := by
      simp [Tensor.map, t.sized]
    constructor
    · rintro ⟨blob, h⟩ - h0
      obtain ⟨m, hm, -⟩ := Py.bind_eq_ok.mp h
      rw [h0] at hlen
      rw [List.length_eq_zero_iff.mp hlen] at hm
      cases hm
    · intro h
      have hne := h rfl
      obtain ⟨x, xs, hxs⟩ := List.exists_cons_of_length_pos (hlen.symm ▸ Nat.pos_of_ne_zero hne)
      exact ⟨_, Py.bind_eq_ok.mpr ⟨_, by rw [hxs]; rfl, rfl⟩⟩

/-- Data decodes only to dimensions that account for all of its bytes. -/
theorem decode_length {c : Codec} {blob : EncodedBlob} {t : Tensor Half}
    (h : c.decode fo blob = .ok t) : blob.data.length = c.encodedSize t.shape.prod := by
  cases c with
  | fp16Raw =>
    obtain ⟨-, -, h⟩ := Py.bind_eq_ok.mp h
    obtain ⟨ws, hws, h⟩ := Py.bind_eq_ok.mp h
    rw [toWords_length hws, reshapeTo_length h, Codec.encodedSize]
  | int8Symm =>
    obtain ⟨-, -, h⟩ := Py.bind_eq_ok.mp h
    split_ifs at h with h4
    obtain ⟨q, hq, h⟩ := Py.bind_eq_ok.mp h
    cases h
    have hlen := reshapeTo_length hq
    rw [List.length_take] at h4
    rw [List.length_drop] at hlen
    simp only [Tensor.map, Codec.encodedSize]
    omega

/-- **Without a shape**, exactly the lengths of encodings decode. -/
theorem decode_unshaped_isOk (fo : FloatOps) (c : Codec) (data : Bytes) (dtype : String) :
    (∃ t, c.decode fo (.make c.name data none dtype 0) = .ok t) ↔ ∃ n, data.length = c.encodedSize n := by
  constructor
  · rintro ⟨t, ht⟩
    exact ⟨t.shape.prod, decode_length ht⟩
  rintro ⟨n, hn⟩
  cases c with
  | fp16Raw =>
    obtain ⟨ws, hws⟩ := toWords_of_length hn
    exact ⟨Tensor.flat ws, Py.bind_eq_ok.mpr ⟨(), rfl, Py.bind_eq_ok.mpr ⟨ws, hws, rfl⟩⟩⟩
  | int8Symm =>
    have h4 : (data.take 4).length = 4 := by
      rw [Codec.encodedSize] at hn
      rw [List.length_take]
      omega
    let scaled : Tensor UInt32 :=
      (Tensor.flat (data.drop 4)).map fun b => fo.mul (fo.ofInt8 b) (UInt32.ofNat (leNat (data.take 4)))
    exact ⟨scaled.map fo.toFloat16, Py.bind_eq_ok.mpr ⟨(), rfl, (if_pos h4).trans rfl⟩⟩

/-- **With dimensions** that account for all of its bytes, data decodes to them. -/
theorem decode_shaped (fo : FloatOps) (c : Codec) {data : Bytes} {shape : List ℕ}
    (h : data.length = c.encodedSize shape.prod) (dtype : String) (nbytes : ℤ) :
    ∃ t, c.decode fo ⟨c.name, data, some (shape.map Int.ofNat), dtype, nbytes⟩ = .ok t ∧
      t.shape = shape := by
  cases c with
  | fp16Raw =>
    obtain ⟨ws, hws⟩ := toWords_of_length h
    have hlen : ws.length = shape.prod := by
      have htwice := toWords_length hws
      rw [Codec.encodedSize] at h
      omega
    refine ⟨⟨shape, ws, hlen⟩, Py.bind_eq_ok.mpr ⟨(), rfl, Py.bind_eq_ok.mpr ⟨ws, hws, ?_⟩⟩, rfl⟩
    exact Tensor.reshape_natCast hlen
  | int8Symm =>
    rw [Codec.encodedSize] at h
    have h4 : (data.take 4).length = 4 := by
      rw [List.length_take]
      omega
    have hlen : (data.drop 4).length = shape.prod := by
      rw [List.length_drop]
      omega
    let scaled : Tensor UInt32 := (⟨shape, data.drop 4, hlen⟩ : Tensor UInt8).map fun b =>
      fo.mul (fo.ofInt8 b) (UInt32.ofNat (leNat (data.take 4)))
    refine ⟨scaled.map fo.toFloat16, Py.bind_eq_ok.mpr ⟨(), rfl, (if_pos h4).trans ?_⟩, rfl⟩
    exact Py.bind_eq_ok.mpr ⟨_, Tensor.reshape_natCast hlen, rfl⟩

/-- The type and the size that are noted beside the data are not read. -/
theorem decode_congr (fo : FloatOps) (c : Codec) {blob blob' : EncodedBlob}
    (hname : blob.codecName = blob'.codecName) (hdata : blob.data = blob'.data)
    (hshape : blob.shape = blob'.shape) : c.decode fo blob = c.decode fo blob' := by
  obtain ⟨name, data, shape, dtype, nbytes⟩ := blob
  obtain ⟨name', data', shape', dtype', nbytes'⟩ := blob'
  cases hname
  cases hdata
  cases hshape
  cases c <;> rfl

/-! ## The half precision codec -/

namespace FP16RawCodec

/-- **What decodes to `t`**: its shape with the bytes of its elements. -/
theorem decode_eq_ok_iff {data : Bytes} {shape : List ℕ} {dtype : String} {nbytes : ℤ} {t : Tensor Half} :
    decode ⟨"fp16_raw", data, some (shape.map Int.ofNat), dtype, nbytes⟩ = .ok t ↔
      t.shape = shape ∧ tensorToBytes t = data := by
  have hread : decode ⟨"fp16_raw", data, some (shape.map Int.ofNat), dtype, nbytes⟩ =
      (toWords data).bind fun ws => Tensor.reshape ws (shape.map Int.ofNat) := rfl
  rw [hread]
  constructor
  · intro h
    obtain ⟨ws, hws, ht⟩ := Py.bind_eq_ok.mp h
    obtain ⟨hshape, hdata⟩ := Tensor.reshape_natCast_iff.mp ht
    refine ⟨hshape, ?_⟩
    rw [tensorToBytes, hdata]
    exact toWords_eq_ok_iff.mp hws
  · rintro ⟨hshape, hdata⟩
    exact Py.bind_eq_ok.mpr ⟨t.data, toWords_eq_ok_iff.mpr hdata,
      Tensor.reshape_natCast_iff.mpr ⟨hshape, rfl⟩⟩

/-- A half precision tensor is encoded as its bytes. -/
theorem encode_half (t : Tensor Half) :
    encode id t = .ok ⟨"fp16_raw", tensorToBytes t, some (t.shape.map Int.ofNat), "torch.float16",
      (tensorToBytes t).length⟩ := by
  have hid : t.map id = t := Tensor.ext rfl (List.map_id t.data)
  unfold encode EncodedBlob.make
  rw [hid]
  dsimp only
  rw [ite_self]

end FP16RawCodec

open FP16RawCodec in
/-- **The half precision codec is a bijection**: every tensor comes back from its encoding with its shape
and all bits; and data decodes with given dimensions exactly if it has two bytes for each element, to a
tensor of these dimensions whose encoding has the data again. -/
theorem fp16_raw_bijection :
    (∀ t : Tensor Half, ∃ blob, encode id t = .ok blob ∧ decode blob = .ok t) ∧
      ∀ (data : Bytes) (shape : List ℕ) (dtype : String) (nbytes : ℤ),
        ((∃ t, decode ⟨"fp16_raw", data, some (shape.map Int.ofNat), dtype, nbytes⟩ = .ok t) ↔
            data.length = 2 * shape.prod) ∧
          ∀ t, decode ⟨"fp16_raw", data, some (shape.map Int.ofNat), dtype, nbytes⟩ = .ok t →
            t.shape = shape ∧ ∃ blob, encode id t = .ok blob ∧ blob.data = data := by
  refine ⟨fun t => ⟨_, encode_half t, decode_eq_ok_iff.mpr ⟨rfl, rfl⟩⟩, fun data shape dtype nbytes => ?_⟩
  refine ⟨⟨?_, fun hlen => ?_⟩, fun t ht => ?_⟩
  · rintro ⟨t, ht⟩
    obtain ⟨rfl, rfl⟩ := decode_eq_ok_iff.mp ht
    rw [tensorToBytes, ofWords_length, t.sized]
  · obtain ⟨ws, hws⟩ := toWords_of_length hlen
    have hwords := toWords_length hws
    exact ⟨⟨shape, ws, by omega⟩, decode_eq_ok_iff.mpr ⟨rfl, toWords_eq_ok_iff.mp hws⟩⟩
  · obtain ⟨hshape, hdata⟩ := decode_eq_ok_iff.mp ht
    exact ⟨hshape, _, encode_half t, hdata⟩

end AwareKV
