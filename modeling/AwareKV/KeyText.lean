import AwareKV.Hashing
import AwareKV.Lib.Delimited
import AwareKV.Lib.Json

/-!
# AwareKV.KeyText — a prefix key determines the prefix

The text that `compute_prefix_key` hashes is put together from strings, integers and lists of these.
Each of them marks its own end (`Delimited`), so the text determines every part of it: a string because
it can be scanned back (`scanString_jsonStr`), an integer because a comma or a bracket follows, a list
because its closing bracket starts no item.

* `jsonString_delimited`, `toString_int_delimited`, `jsonList_delimited`: the parts.
* `samePrefix_of_text`: equal texts are texts of the same prefix.

The text of an object id has a colon after each of its first three parts: `ObjectIdArgs.eq_of_text`.
-/

namespace AwareKV

/-! ## Strings -/

theorem codePoint_hexDigit : ∀ n < 16, codePoint (hexDigit n) = hexCodePoint n := by decide +kernel

theorem unicodeEscape_eq (n : ℕ) : (unicodeEscape n).map codePoint = escapeU n := by
  have hdigit : ∀ k, codePoint (hexDigit (k % 16)) = hexCodePoint (k % 16) := fun k =>
    codePoint_hexDigit _ (Nat.mod_lt k (by decide))
  simp only [unicodeEscape, List.map_cons, List.map_nil, hdigit, escapeU]
  rfl

/-- Characters are escaped as code points are. -/
theorem jsonChar_eq (c : Char) : (jsonChar c).map codePoint = jsonCodePoint (codePoint c) := by
  have hcode : ∀ n < 0x110000, c.toNat = n → codePoint c = cp n := fun n hn h =>
    CodePoint.ext (h.trans (cp_val hn).symm)
  unfold jsonChar
  split
  case h_8 h8 h9 h10 h12 h13 h34 h92 =>
    have hshort : shortEscape (codePoint c) = none := by
      have hne : ∀ p ∈ shortEscapes, ¬ p.1 = codePoint c := by
        simp only [shortEscapes, List.forall_mem_cons, CodePoint.ext_iff]
        exact ⟨fun h => h8 h.symm, fun h => h9 h.symm, fun h => h10 h.symm, fun h => h12 h.symm,
          fun h => h13 h.symm, fun h => h34 h.symm, fun h => h92 h.symm, by simp⟩
      rw [shortEscape, List.find?_eq_none.mpr fun p hp => by simpa using hne p hp, Option.map_none]
    have hval : (codePoint c).val = c.toNat := rfl
    simp only [jsonCodePoint, hshort, utf16, hval]
    split_ifs with hprint hbmp
    · rfl
    · rw [unicodeEscape_eq, List.flatMap_singleton]
    · rw [List.map_append, unicodeEscape_eq, unicodeEscape_eq]
      simp
  all_goals
    -- one of the seven short escapes
    next h =>
    rw [hcode _ (by decide) h]
    decide +kernel

theorem jsonString_codePoints (s : String) : (jsonString s).toList.map codePoint = jsonStr (pyStr s) := by
  have hbody : (s.toList.flatMap jsonChar).map codePoint = (pyStr s).flatMap jsonCodePoint := by
    rw [List.map_flatMap, pyStr, List.flatMap_map]
    exact List.flatMap_congr fun c _ => jsonChar_eq c
  rw [jsonString, String.toList_ofList, List.cons_append, List.map_cons, List.map_append, hbody]
  rfl

/-- **A string marks its own end.** -/
theorem jsonString_delimited : Delimited (fun s => (jsonString s).toList) (fun _ => True) := by
  have hscan : ∀ (s : String) (r : List Char),
      scanString (((jsonString s).toList ++ r).map codePoint).tail = some (pyStr s, r.map codePoint) := by
    intro s r
    rw [List.map_append, jsonString_codePoints, jsonStr, List.cons_append, List.cons_append, List.tail_cons,
      List.append_assoc, List.singleton_append, scanString_jsonStr,
      joinPairs_of_surrogateFree (surrogateFree_pyStr s)]
  intro a b r s _ _ h
  have htext : (jsonString a).toList ++ r = (jsonString b).toList ++ s := h
  have hread := hscan a r
  rw [htext, hscan b s, Option.some.injEq, Prod.mk.injEq] at hread
  exact ⟨(pyStr_inj hread.1).symm, (List.map_injective_iff.mpr (fun _ _ => codePoint_inj) hread.2).symm⟩

/-! ## Integers -/

/-- The characters of an integer. -/
def isIntChar (c : Char) : Bool := c = '-' || c.isDigit

/-- What follows is no part of an integer. -/
def IntEnd (r : List Char) : Prop := ∀ c ∈ r.head?, isIntChar c = false

theorem toString_nat_chars (n : ℕ) : (toString n).toList = Nat.toDigits 10 n := Nat.toList_repr

theorem toString_int_chars (i : ℤ) :
    (toString i).toList = if i < 0 then '-' :: Nat.toDigits 10 i.natAbs else Nat.toDigits 10 i.natAbs := by
  cases i with
  | ofNat n =>
    rw [if_neg (by simp)]
    exact toString_nat_chars n
  | negSucc n =>
    rw [if_pos (Int.negSucc_lt_zero n)]
    show ("-" ++ toString (n + 1)).toList = _
    rw [String.toList_append, toString_nat_chars]
    rfl

theorem minus_not_mem_toDigits (n : ℕ) : '-' ∉ Nat.toDigits 10 n := fun h =>
  absurd (Nat.isDigit_of_mem_toDigits (by decide) (by decide) h) (by decide)

theorem isIntChar_of_mem {i : ℤ} {c : Char} (h : c ∈ (toString i).toList) : isIntChar c = true := by
  rw [toString_int_chars] at h
  have hdigit : ∀ n : ℕ, c ∈ Nat.toDigits 10 n → isIntChar c = true := by
    intro n hn
    rw [isIntChar, Nat.isDigit_of_mem_toDigits (by decide) (by decide) hn, Bool.or_true]
  split_ifs at h with hi
  · rcases List.mem_cons.mp h with rfl | h
    · rfl
    · exact hdigit _ h
  · exact hdigit _ h

theorem toString_int_injective : Function.Injective (fun i : ℤ => (toString i).toList) := by
  have hdigits : ∀ m n : ℕ, Nat.toDigits 10 m = Nat.toDigits 10 n → m = n := by
    intro m n h
    rw [← Nat.ofDigitChars_ten_toDigits (n := m), h, Nat.ofDigitChars_ten_toDigits]
  intro i j h
  simp only [toString_int_chars] at h
  split_ifs at h with hi hj hj
  · have habs := hdigits _ _ (List.cons.inj h).2
    omega
  · exact absurd (h ▸ List.mem_cons_self) (minus_not_mem_toDigits j.natAbs)
  · exact absurd (h.symm ▸ List.mem_cons_self) (minus_not_mem_toDigits i.natAbs)
  · have habs := hdigits _ _ h
    omega

/-- **An integer ends where something else starts.** -/
theorem toString_int_delimited : Delimited (fun i : ℤ => (toString i).toList) IntEnd :=
  .of_alphabet isIntChar toString_int_injective (fun _ _ hc => isIntChar_of_mem hc) (fun _ hr => hr)

/-! ## Lists -/

theorem jsonList_toList (items : List String) :
    (jsonList items).toList = '[' :: ([',', ' '].intercalate (items.map String.toList) ++ [']']) := by
  simp [jsonList, String.toList_intercalate]

/-- **A list marks its own end**, if its items can be told from what follows in a list. -/
theorem jsonList_delimited {α : Type} {enc : α → String} {stop : List Char → Prop}
    (h : Delimited (fun a => (enc a).toList) stop) (hcomma : ∀ r, stop (',' :: r))
    (hbracket : ∀ r, stop (']' :: r)) (hhead : ∀ a r s, (enc a).toList ++ r ≠ ']' :: s) :
    Delimited (fun xs : List α => (jsonList (xs.map enc)).toList) (fun _ => True) := by
  have hitems := (h.separated [' '] (by decide : ',' ≠ ']') hcomma hbracket hhead).after ['[']
  intro xs ys r s hr hs heq
  simp only [jsonList_toList, List.map_map] at heq
  exact hitems xs ys r s hr hs heq

theorem strings_delimited : Delimited (fun xs : List String => (jsonList (xs.map jsonString)).toList)
    (fun _ => True) := by
  refine jsonList_delimited jsonString_delimited (fun _ => trivial) (fun _ => trivial) ?_
  intro s r t h
  rw [jsonString, String.toList_ofList, List.cons_append, List.cons_append] at h
  exact absurd (List.cons.inj h).1 (by decide)

theorem ints_delimited : Delimited (fun xs : List ℤ => (jsonList (xs.map toString)).toList)
    (fun _ => True) := by
  refine jsonList_delimited toString_int_delimited ?_ ?_ ?_
  · rintro r c ⟨⟩
    decide
  · rintro r c ⟨⟩
    decide
  · intro i r t h
    have hne : (toString i).toList ≠ [] := by
      intro hnil
      exact toString_int_ne_empty i (String.toList_inj.mp hnil)
    obtain ⟨c, cs, hcs⟩ := List.exists_cons_of_ne_nil hne
    have hchar : isIntChar c = true := isIntChar_of_mem (hcs ▸ List.mem_cons_self)
    rw [hcs, List.cons_append] at h
    rw [(List.cons.inj h).1] at hchar
    exact absurd hchar (by decide)

/-! ## Keys -/

/-- The arguments of `compute_prefix_key`. -/
structure PrefixKeyArgs where
  modelId : String
  tokenizerId : String
  kvLayoutVersion : String
  cacheDtype : String
  blockSize : ℤ
  promptTokenIds : List ℤ
  matchedPrefixLen : ℤ
  mmHashes : Option (List String) := none

namespace PrefixKeyArgs

/-- The key of the arguments; `mm_hashes or []` makes `None` the empty list. -/
def key (sha256Hex : String → String) (a : PrefixKeyArgs) : String :=
  computePrefixKey sha256Hex a.modelId a.tokenizerId a.kvLayoutVersion a.cacheDtype a.blockSize
    a.promptTokenIds a.matchedPrefixLen (a.mmHashes.getD [])

/-- The JSON text that is hashed. -/
def text (a : PrefixKeyArgs) : String := a.key id

theorem key_eq (sha256Hex : String → String) (a : PrefixKeyArgs) : a.key sha256Hex = sha256Hex a.text := rfl

/-- `prompt_token_ids[:matched_prefix_len]`. -/
def tokens (a : PrefixKeyArgs) : List ℤ := slice a.promptTokenIds 0 a.matchedPrefixLen

/-- The two calls are about the same prefix under the same layout. -/
structure SamePrefix (a b : PrefixKeyArgs) : Prop where
  modelId : a.modelId = b.modelId
  tokenizerId : a.tokenizerId = b.tokenizerId
  kvLayoutVersion : a.kvLayoutVersion = b.kvLayoutVersion
  cacheDtype : a.cacheDtype = b.cacheDtype
  blockSize : a.blockSize = b.blockSize
  tokens : a.tokens = b.tokens
  mmHashes : a.mmHashes.getD [] = b.mmHashes.getD []

/-- A member of an object, and the text after it. -/
def memberThen (name : String) (value rest : List Char) : List Char :=
  (jsonString name).toList ++ ([':', ' '] ++ (value ++ rest))

/-- A member after another one. -/
def nextMember (name : String) (value rest : List Char) : List Char := [',', ' '] ++ memberThen name value rest

/-- The text, member by member. -/
theorem text_toList (a : PrefixKeyArgs) :
    a.text.toList = '\x7b' :: (
      memberThen "block_size" (toString a.blockSize).toList <|
      nextMember "cache_dtype" (jsonString a.cacheDtype).toList <|
      nextMember "kv_layout_version" (jsonString a.kvLayoutVersion).toList <|
      nextMember "mm_hashes" (jsonList ((a.mmHashes.getD []).map jsonString)).toList <|
      nextMember "model_id" (jsonString a.modelId).toList <|
      nextMember "prompt_tokens" (jsonList (a.tokens.map toString)).toList <|
      nextMember "tokenizer_id" (jsonString a.tokenizerId).toList ['\x7d']) := by
  simp [text, key, computePrefixKey, jsonObject, tokens, memberThen, nextMember]

/-- Equal members have equal values, and are followed by the same. -/
theorem memberThen_inj {α : Type} {enc : α → List Char} {stop : List Char → Prop} (henc : Delimited enc stop)
    {name : String} {a b : α} {r s : List Char} (hr : stop r) (hs : stop s)
    (h : memberThen name (enc a) r = memberThen name (enc b) s) : a = b ∧ r = s :=
  henc a b r s hr hs (List.append_cancel_left (List.append_cancel_left h))

theorem nextMember_inj {α : Type} {enc : α → List Char} (henc : Delimited enc (fun _ => True)) {name : String}
    {a b : α} {r s : List Char} (h : nextMember name (enc a) r = nextMember name (enc b) s) : a = b ∧ r = s :=
  memberThen_inj henc trivial trivial (List.append_cancel_left h)

theorem intEnd_nextMember (name : String) (value rest : List Char) : IntEnd (nextMember name value rest) := by
  rintro c ⟨⟩
  decide

/-- **The text determines the prefix.** -/
theorem samePrefix_of_text {a b : PrefixKeyArgs} (h : a.text = b.text) : SamePrefix a b := by
  have htext : a.text.toList = b.text.toList := congrArg String.toList h
  rw [text_toList, text_toList] at htext
  obtain ⟨hblock, htext⟩ := memberThen_inj toString_int_delimited (intEnd_nextMember _ _ _)
    (intEnd_nextMember _ _ _) (List.cons.inj htext).2
  obtain ⟨hdtype, htext⟩ := nextMember_inj jsonString_delimited htext
  obtain ⟨hlayout, htext⟩ := nextMember_inj jsonString_delimited htext
  obtain ⟨hmm, htext⟩ := nextMember_inj strings_delimited htext
  obtain ⟨hmodel, htext⟩ := nextMember_inj jsonString_delimited htext
  obtain ⟨htokens, htext⟩ := nextMember_inj ints_delimited htext
  obtain ⟨htokenizer, -⟩ := nextMember_inj jsonString_delimited htext
  exact ⟨hmodel, htokenizer, hlayout, hdtype, hblock, htokens, hmm⟩

/-- The text does not depend on anything else. -/
theorem text_of_samePrefix {a b : PrefixKeyArgs} (h : SamePrefix a b) : a.text = b.text := by
  apply String.toList_inj.mp
  rw [text_toList, text_toList, h.modelId, h.tokenizerId, h.kvLayoutVersion, h.cacheDtype, h.blockSize,
    h.tokens, h.mmHashes]

end PrefixKeyArgs

/-- **The key of a token list is not the key of a longer one**, unless digests collide. -/
theorem computePrefixKey_append_ne {sha256Hex : String → String} (hsha : sha256Hex.Injective)
    (modelId tokenizerId kvLayoutVersion cacheDtype : String) (blockSize : ℤ) (tokens : List ℤ)
    {more : List ℤ} (hmore : more ≠ []) :
    computePrefixKey sha256Hex modelId tokenizerId kvLayoutVersion cacheDtype blockSize tokens
        tokens.length ≠
      computePrefixKey sha256Hex modelId tokenizerId kvLayoutVersion cacheDtype blockSize
        (tokens ++ more) (tokens ++ more).length := by
  intro h
  have hsame := PrefixKeyArgs.samePrefix_of_text
    (a := ⟨modelId, tokenizerId, kvLayoutVersion, cacheDtype, blockSize, tokens, tokens.length, none⟩)
    (b := ⟨modelId, tokenizerId, kvLayoutVersion, cacheDtype, blockSize, tokens ++ more,
      (tokens ++ more).length, none⟩) (hsha h)
  have htokens : tokens = tokens ++ more :=
    (slice_whole (le_refl _)).symm.trans (hsame.tokens.trans (slice_whole (le_refl _)))
  exact hmore (List.self_eq_append_right.mp htokens)

/-- **Prefix keys separate prefixes**: two calls hash the same text exactly when they are about the same
prefix, and so it is with their keys if no two texts have the same digest. -/
theorem prefix_keys_separate (a b : PrefixKeyArgs) :
    (a.text = b.text ↔ a.SamePrefix b) ∧
      ∀ sha256Hex : String → String, sha256Hex.Injective →
        (a.key sha256Hex = b.key sha256Hex ↔ a.SamePrefix b) := by
  have htext : a.text = b.text ↔ a.SamePrefix b :=
    ⟨PrefixKeyArgs.samePrefix_of_text, PrefixKeyArgs.text_of_samePrefix⟩
  refine ⟨htext, fun sha256Hex hsha => ?_⟩
  rw [a.key_eq, b.key_eq, hsha.eq_iff]
  exact htext

/-- A call whose model id looks like the end of a string and more members. -/
def quotedModel : PrefixKeyArgs :=
  { modelId := "m\", \"prompt_tokens\": [1]", tokenizerId := "m", kvLayoutVersion := "v1",
    cacheDtype := "float16", blockSize := 16, promptTokenIds := [1, 2, 3], matchedPrefixLen := 2 }

/-- Its text is not the text of the model "m", and neither are the keys equal. -/
theorem prefix_keys_separate_quoted :
    quotedModel.text ≠ { quotedModel with modelId := "m" }.text ∧
      quotedModel.key id ≠ { quotedModel with modelId := "m" }.key id := by
  have h := prefix_keys_separate quotedModel { quotedModel with modelId := "m" }
  have hmodel : ¬ quotedModel.SamePrefix { quotedModel with modelId := "m" } := fun hsame =>
    absurd hsame.modelId (by decide)
  exact ⟨fun heq => hmodel (h.1.mp heq), fun heq => hmodel ((h.2 id Function.injective_id).mp heq)⟩

/-! ## Object ids -/

/-- Texts without a colon, such as digests and the names of tiers and codecs. -/
abbrev ColonFree := { s : String // ':' ∉ s.toList }

/-- A text without a colon ends where a colon follows. -/
theorem colonFree_delimited :
    Delimited (fun s : ColonFree => s.val.toList) (fun r => r.head? = some ':') := by
  refine Delimited.of_alphabet (fun c => c ≠ ':') ?_ ?_ ?_
  · intro a b h
    exact Subtype.ext (String.toList_inj.mp h)
  · intro a c hc
    simpa using fun h : c = ':' => a.property (h ▸ hc)
  · intro r hr c hc
    rw [hr] at hc
    obtain rfl := Option.mem_some.mp hc
    decide

/-- The arguments of a call of `compute_object_id`. -/
structure ObjectIdArgs where
  prefixKey : ColonFree
  tier : ColonFree
  codec : ColonFree
  objectFormatVersion : String

namespace ObjectIdArgs

/-- The text that is hashed. -/
def text (a : ObjectIdArgs) : String :=
  a.prefixKey.val ++ ":" ++ a.tier.val ++ ":" ++ a.codec.val ++ ":" ++ a.objectFormatVersion

/-- The id. -/
def objectId (sha256Hex : String → String) (a : ObjectIdArgs) : String :=
  computeObjectId sha256Hex a.prefixKey.val a.tier.val a.codec.val a.objectFormatVersion

/-- The id is the digest of the text. -/
theorem objectId_eq (sha256Hex : String → String) (a : ObjectIdArgs) :
    a.objectId sha256Hex = sha256Hex a.text := rfl

theorem text_toList (a : ObjectIdArgs) : a.text.toList =
    a.prefixKey.val.toList ++ ':' :: (a.tier.val.toList ++ ':' :: (a.codec.val.toList ++
      ':' :: a.objectFormatVersion.toList)) := by
  simp [text, String.toList_append]

/-- **The text determines its parts**, one colon after the other. -/
theorem eq_of_text {a b : ObjectIdArgs} (h : a.text = b.text) : a = b := by
  have htext : a.text.toList = b.text.toList := congrArg String.toList h
  rw [text_toList, text_toList] at htext
  obtain ⟨hkey, htext⟩ := colonFree_delimited _ _ _ _ rfl rfl htext
  obtain ⟨htier, htext⟩ := colonFree_delimited _ _ _ _ rfl rfl (List.cons.inj htext).2
  obtain ⟨hcodec, htext⟩ := colonFree_delimited _ _ _ _ rfl rfl (List.cons.inj htext).2
  have hversion := String.toList_inj.mp (List.cons.inj htext).2
  obtain ⟨_, _, _, _⟩ := a
  obtain ⟨_, _, _, _⟩ := b
  cases hkey
  cases htier
  cases hcodec
  cases hversion
  rfl

end ObjectIdArgs

/-- **Object ids separate objects**: two calls hash the same text exactly when prefix key, tier, codec and
format version all agree, and so it is with their ids if no two texts have the same digest. -/
theorem object_ids_separate (a b : ObjectIdArgs) :
    (a.text = b.text ↔ a = b) ∧
      ∀ sha256Hex : String → String, sha256Hex.Injective →
        (a.objectId sha256Hex = b.objectId sha256Hex ↔ a = b) := by
  have htext : a.text = b.text ↔ a = b := ⟨ObjectIdArgs.eq_of_text, congrArg ObjectIdArgs.text⟩
  refine ⟨htext, fun sha256Hex hsha => ?_⟩
  rw [a.objectId_eq, b.objectId_eq, hsha.eq_iff]
  exact htext

/-- The critical object of a prefix, and its refinement. -/
def criticalArgs : ObjectIdArgs :=
  { prefixKey := ⟨"3fa9", by decide⟩, tier := ⟨"critical", by decide⟩, codec := ⟨"int8_symm", by decide⟩,
    objectFormatVersion := "v1" }

/-- Its id is not the id of an object whose version looks like more parts. -/
theorem object_ids_separate_version :
    criticalArgs.objectId id ≠ { criticalArgs with objectFormatVersion := "v1:v1" }.objectId id := by
  intro h
  have heq := ((object_ids_separate criticalArgs
    { criticalArgs with objectFormatVersion := "v1:v1" }).2 id Function.injective_id).mp h
  exact absurd (congrArg ObjectIdArgs.objectFormatVersion heq) (by decide)

end AwareKV
