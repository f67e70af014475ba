import AwareKV.Types

/-!
# AwareKV.Hashing — prefix keys and object ids

Translation of `compute_prefix_key` and `compute_object_id` of `common/hashing.py`.  The digest is a
parameter: `sha256Hex s` is the hexadecimal SHA-256 of the UTF-8 text `s`.  What is modelled is the
text that is hashed, `json.dumps` with sorted keys and ASCII escapes included.
-/

namespace AwareKV

/-! ### JSON text -/

/-- A lower case hexadecimal digit. -/
def hexDigit (n : ℕ) : Char := if n < 10 then Char.ofNat (48 + n) else Char.ofNat (87 + n)

/-- Backslash, `u` and four digits. -/
def unicodeEscape (n : ℕ) : List Char :=
  [Char.ofNat 92, 'u', hexDigit (n / 4096 % 16), hexDigit (n / 256 % 16), hexDigit (n / 16 % 16),
    hexDigit (n % 16)]

/-- A character of a JSON string.  Outside the basic plane it is a pair of surrogates. -/
def jsonChar (c : Char) : List Char :=
  match c.toNat with
  | 8 => [Char.ofNat 92, 'b']
  | 9 => [Char.ofNat 92, 't']
  | 10 => [Char.ofNat 92, 'n']
  | 12 => [Char.ofNat 92, 'f']
  | 13 => [Char.ofNat 92, 'r']
  | 34 => [Char.ofNat 92, Char.ofNat 34]
  | 92 => [Char.ofNat 92, Char.ofNat 92]
  | n =>
    if 32 ≤ n ∧ n ≤ 126 then [c]
    else if n < 0x10000 then unicodeEscape n
    else unicodeEscape (0xd800 + (n - 0x10000) / 1024) ++ unicodeEscape (0xdc00 + (n - 0x10000) % 1024)

/-- A JSON string. -/
def jsonString (s : String) : String :=
  String.ofList (Char.ofNat 34 :: s.toList.flatMap jsonChar ++ [Char.ofNat 34])

/-- A JSON list. -/
def jsonList (items : List String) : String := "[" ++ String.intercalate ", " items ++ "]"

/-- A JSON object with its keys in the given order. -/
def jsonObject (fields : List (String × String)) : String :=
  "\x7b" ++ String.intercalate ", " (fields.map (fun f => jsonString f.1 ++ ": " ++ f.2)) ++ "\x7d"

/-- The text of an integer is not empty. -/
theorem toString_int_ne_empty (i : ℤ) : toString i ≠ "" := by
  cases i with
  | ofNat n => exact Nat.repr_ne_empty
  | negSucc n =>
    intro h
    have hlen : ("-" ++ Nat.repr (n + 1)).length = 0 := String.length_eq_zero_iff.mpr h
    rw [String.length_append] at hlen
    exact absurd (Nat.add_eq_zero_iff.mp hlen).1 (by decide)

/-! ### Keys and ids -/

variable (sha256Hex : String → String)

/-- `compute_prefix_key`. -/
def computePrefixKey (modelId tokenizerId kvLayoutVersion cacheDtype : String) (blockSize : ℤ)
    (promptTokenIds : List ℤ) (matchedPrefixLen : ℤ) (mmHashes : List String := []) : String :=
  sha256Hex (jsonObject [
    ("block_size", toString blockSize),
    ("cache_dtype", jsonString cacheDtype),
    ("kv_layout_version", jsonString kvLayoutVersion),
    ("mm_hashes", jsonList (mmHashes.map jsonString)),
    ("model_id", jsonString modelId),
    ("prompt_tokens", jsonList ((slice promptTokenIds 0 matchedPrefixLen).map toString)),
    ("tokenizer_id", jsonString tokenizerId)])

/-- The parameters of `compute_object_id` that a call must give. -/
def computeObjectIdRequired : List String := ["prefix_key", "tier", "codec"]

/-- The parameters of `compute_object_id` with a default. -/
def computeObjectIdOptional : List String := ["object_format_version"]

/-- `compute_object_id`. -/
def computeObjectId (prefixKey tier codec : String) (objectFormatVersion : String := "v1") : String :=
  sha256Hex (prefixKey ++ ":" ++ tier ++ ":" ++ codec ++ ":" ++ objectFormatVersion)

end AwareKV
