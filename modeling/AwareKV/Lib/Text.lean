import AwareKV.Lib.Py

/-!
# AwareKV.Lib.Text — Python strings, UTF-8 and file names

A Python string is a sequence of code points in which surrogates may stand alone.  `encodeUtf8` and
`decodeUtf8` are the strict codec, `fsencode` is the one for file names (`surrogateescape`): the
surrogates `U+DC80` to `U+DCFF` are the bytes `80` to `FF`.

* `decodeUtf8_encode`: decoding inverts encoding.
* `fsencode_inj`: strings without surrogates have different file names.
* `joinPairs`: a high and a low surrogate next to each other read as one code point.
-/

namespace AwareKV

/-! ## Strings -/

/-- A code point. -/
structure CodePoint where
  val : ℕ
  lt : val < 0x110000
  deriving DecidableEq, Repr

/-- A Python string. -/
abbrev PyStr := List CodePoint

/-- The code point with the number `n`. -/
def cp (n : ℕ) : CodePoint := ⟨n % 0x110000, Nat.mod_lt n (by decide)⟩

instance (n : ℕ) : OfNat CodePoint n := ⟨cp n⟩

@[ext] theorem CodePoint.ext {c d : CodePoint} (h : c.val = d.val) : c = d := by
  cases c; cases d; cases h; rfl

@[simp] theorem cp_val_self (c : CodePoint) : cp c.val = c :=
  CodePoint.ext (Nat.mod_eq_of_lt c.lt)

theorem cp_val {n : ℕ} (h : n < 0x110000) : (cp n).val = n := Nat.mod_eq_of_lt h

theorem char_lt (c : Char) : c.toNat < 0x110000 := by
  rcases c.valid with h | ⟨-, h⟩
  · exact h.trans (by decide)
  · exact h

/-- The code point of a character. -/
def codePoint (c : Char) : CodePoint := ⟨c.toNat, char_lt c⟩

/-- A text as a Python string. -/
def pyStr (s : String) : PyStr := s.toList.map codePoint

/-- A high surrogate. -/
def isHigh (c : CodePoint) : Bool := 0xD800 ≤ c.val && c.val ≤ 0xDBFF

/-- A low surrogate. -/
def isLow (c : CodePoint) : Bool := 0xDC00 ≤ c.val && c.val ≤ 0xDFFF

/-- A surrogate. -/
def isSurrogate (c : CodePoint) : Bool := 0xD800 ≤ c.val && c.val ≤ 0xDFFF

/-- No surrogates: the string is a text. -/
def SurrogateFree (s : PyStr) : Prop := ∀ c ∈ s, isSurrogate c = false

instance (s : PyStr) : Decidable (SurrogateFree s) :=
  inferInstanceAs (Decidable (∀ c ∈ s, isSurrogate c = false))

theorem isSurrogate_codePoint (c : Char) : isSurrogate (codePoint c) = false := by
  rw [isSurrogate, Bool.and_eq_false_iff]
  rcases c.valid with h | ⟨h, -⟩
  · exact Or.inl (decide_eq_false (not_le.mpr h))
  · exact Or.inr (decide_eq_false (not_le.mpr h))

theorem surrogateFree_pyStr (s : String) : SurrogateFree (pyStr s) := by
  intro c hc
  obtain ⟨d, -, rfl⟩ := List.mem_map.mp hc
  exact isSurrogate_codePoint d

theorem codePoint_inj {c d : Char} (h : codePoint c = codePoint d) : c = d :=
  Char.toNat_inj.mp (CodePoint.mk.inj h)

theorem pyStr_inj {s t : String} (h : pyStr s = pyStr t) : s = t :=
  String.toList_inj.mp (List.map_injective_iff.mpr (fun _ _ => codePoint_inj) h)

/-! ## Surrogate pairs -/

/-- The code point of a surrogate pair. -/
def pairCodePoint (hi lo : CodePoint) : CodePoint :=
  cp (0x10000 + (hi.val - 0xD800) * 0x400 + (lo.val - 0xDC00))

/-- Surrogates that stand as a pair, joined. -/
def joinPairs : PyStr → PyStr
  | c :: d :: s =>
    if isHigh c && isLow d then pairCodePoint c d :: joinPairs s else c :: joinPairs (d :: s)
  | s => s

theorem joinPairs_of_surrogateFree : ∀ {s : PyStr}, SurrogateFree s → joinPairs s = s
  | [], _ => rfl
  | [_], _ => rfl
  | c :: d :: s, h => by
    have hc : isHigh c = false := by
      have hsur := h c (by simp)
      simp only [isSurrogate, Bool.and_eq_false_iff, decide_eq_false_iff_not] at hsur
      simp only [isHigh, Bool.and_eq_false_iff, decide_eq_false_iff_not]
      omega
    have htail : SurrogateFree (d :: s) := fun x hx => h x (List.mem_cons_of_mem c hx)
    rw [joinPairs, hc, Bool.false_and, if_neg (by decide), joinPairs_of_surrogateFree htail]

/-! ## UTF-8 -/

/-- The bytes of a code point. -/
def utf8Char (c : CodePoint) : List UInt8 :=
  let n := c.val
  if n < 0x80 then [UInt8.ofNat n]
  else if n < 0x800 then [UInt8.ofNat (0xC0 + n / 64), UInt8.ofNat (0x80 + n % 64)]
  else if n < 0x10000 then
    [UInt8.ofNat (0xE0 + n / 4096), UInt8.ofNat (0x80 + n / 64 % 64), UInt8.ofNat (0x80 + n % 64)]
  else
    [UInt8.ofNat (0xF0 + n / 262144), UInt8.ofNat (0x80 + n / 4096 % 64),
      UInt8.ofNat (0x80 + n / 64 % 64), UInt8.ofNat (0x80 + n % 64)]

/-- The text of a `UnicodeEncodeError` for the surrogates from position `i` on. -/
def encodeErrorText (s : PyStr) (i : ℕ) : String :=
  match (s.drop i).takeWhile isSurrogate with
  | [c] => "'utf-8' codec can't encode character '\\u" ++ String.ofList (Nat.toDigits 16 c.val) ++
      "' in position " ++ toString i ++ ": surrogates not allowed"
  | run => "'utf-8' codec can't encode characters in position " ++ toString i ++ "-" ++
      toString (i + run.length - 1) ++ ": surrogates not allowed"

/-- `s.encode("utf-8")`. -/
def encodeUtf8 (s : PyStr) : Py (List UInt8) :=
  match s.findIdx? isSurrogate with
  | none => .ok (s.flatMap utf8Char)
  | some i => .error ⟨.unicodeEncodeError, encodeErrorText s i⟩

/-- An ASCII byte stands for itself only. -/
theorem utf8Char_ascii {c : CodePoint} {b : UInt8} (h : b ∈ utf8Char c) (hb : b.toNat < 0x80) :
    c.val = b.toNat := by
  have hlt := c.lt
  have hbyte : ∀ n, 0x80 ≤ n → n < 256 → b ≠ UInt8.ofNat n := by
    rintro n hn hn' rfl
    simp [Nat.mod_eq_of_lt hn'] at hb
    omega
  unfold utf8Char at h
  simp only at h
  split_ifs at h with h1 h2 h3
  · obtain rfl := List.mem_singleton.mp h
    simp
    omega
  · simp only [List.mem_cons, List.not_mem_nil, or_false] at h
    rcases h with h | h
    · exact absurd h (hbyte _ (by omega) (by omega))
    · exact absurd h (hbyte _ (by omega) (by omega))
  · simp only [List.mem_cons, List.not_mem_nil, or_false] at h
    rcases h with h | h | h
    · exact absurd h (hbyte _ (by omega) (by omega))
    · exact absurd h (hbyte _ (by omega) (by omega))
    · exact absurd h (hbyte _ (by omega) (by omega))
  · simp only [List.mem_cons, List.not_mem_nil, or_false] at h
    rcases h with h | h | h | h
    · exact absurd h (hbyte _ (by omega) (by omega))
    · exact absurd h (hbyte _ (by omega) (by omega))
    · exact absurd h (hbyte _ (by omega) (by omega))
    · exact absurd h (hbyte _ (by omega) (by omega))

/-- A continuation byte. -/
def isCont (b : UInt8) : Bool := 0x80 ≤ b.toNat && b.toNat < 0xC0

/-- Prepend the code point `n` to what follows, unless it is out of range, in a longer form than it
needs (`n < least`), or a surrogate. -/
def consCodePoint (least n : ℕ) (rest : Option PyStr) : Option PyStr :=
  if h : n < 0x110000 then
    if least ≤ n ∧ isSurrogate ⟨n, h⟩ = false then rest.map (⟨n, h⟩ :: ·) else none
  else none

/-- `data.decode("utf-8")`; `none` for a `UnicodeDecodeError`. -/
def decodeUtf8 : List UInt8 → Option PyStr
  | [] => some []
  | b :: bs =>
    if b.toNat < 0x80 then consCodePoint 0 b.toNat (decodeUtf8 bs)
    else if b.toNat < 0xE0 then
      match bs with
      | b1 :: bs =>
        if 0xC0 ≤ b.toNat ∧ isCont b1 then
          consCodePoint 0x80 (b.toNat % 32 * 64 + b1.toNat % 64) (decodeUtf8 bs)
        else none
      | _ => none
    else if b.toNat < 0xF0 then
      match bs with
      | b1 :: b2 :: bs =>
        if isCont b1 ∧ isCont b2 then
          consCodePoint 0x800 (b.toNat % 16 * 4096 + b1.toNat % 64 * 64 + b2.toNat % 64) (decodeUtf8 bs)
        else none
      | _ => none
    else
      match bs with
      | b1 :: b2 :: b3 :: bs =>
        if b.toNat < 0xF8 ∧ isCont b1 ∧ isCont b2 ∧ isCont b3 then
          consCodePoint 0x10000
            (b.toNat % 8 * 262144 + b1.toNat % 64 * 4096 + b2.toNat % 64 * 64 + b3.toNat % 64)
            (decodeUtf8 bs)
        else none
      | _ => none

theorem toNat_byte {n : ℕ} (h : n < 256) : (UInt8.ofNat n).toNat = n := by
  simp [Nat.mod_eq_of_lt h]

theorem consCodePoint_val {c : CodePoint} {least : ℕ} (hl : least ≤ c.val)
    (hc : isSurrogate c = false) (rest : Option PyStr) :
    consCodePoint least c.val rest = rest.map (c :: ·) := by
  rw [consCodePoint, dif_pos c.lt, if_pos ⟨hl, hc⟩]

section Forms

variable {b b1 b2 b3 : UInt8} {bs : List UInt8}

theorem isCont_of {n : ℕ} (hb : b.toNat = 0x80 + n) (hn : n < 64) : isCont b = true := by
  simp only [isCont, hb, Bool.and_eq_true, decide_eq_true_eq]
  omega

theorem decodeUtf8_one (h : b.toNat < 0x80) :
    decodeUtf8 (b :: bs) = consCodePoint 0 b.toNat (decodeUtf8 bs) := by
  rw [decodeUtf8.eq_def]
  exact if_pos h

theorem decodeUtf8_two (h : 0xC0 ≤ b.toNat ∧ b.toNat < 0xE0) (h1 : isCont b1 = true) :
    decodeUtf8 (b :: b1 :: bs) =
      consCodePoint 0x80 (b.toNat % 32 * 64 + b1.toNat % 64) (decodeUtf8 bs) := by
  rw [decodeUtf8, if_neg (by omega), if_pos h.2]
  exact if_pos ⟨h.1, h1⟩

theorem decodeUtf8_three (h : 0xE0 ≤ b.toNat ∧ b.toNat < 0xF0) (h1 : isCont b1 = true)
    (h2 : isCont b2 = true) :
    decodeUtf8 (b :: b1 :: b2 :: bs) =
      consCodePoint 0x800 (b.toNat % 16 * 4096 + b1.toNat % 64 * 64 + b2.toNat % 64)
        (decodeUtf8 bs) := by
  rw [decodeUtf8, if_neg (by omega), if_neg (by omega), if_pos h.2]
  exact if_pos ⟨h1, h2⟩

theorem decodeUtf8_four (h : 0xF0 ≤ b.toNat ∧ b.toNat < 0xF8) (h1 : isCont b1 = true)
    (h2 : isCont b2 = true) (h3 : isCont b3 = true) :
    decodeUtf8 (b :: b1 :: b2 :: b3 :: bs) =
      consCodePoint 0x10000
        (b.toNat % 8 * 262144 + b1.toNat % 64 * 4096 + b2.toNat % 64 * 64 + b3.toNat % 64)
        (decodeUtf8 bs) := by
  rw [decodeUtf8, if_neg (by omega), if_neg (by omega), if_neg (by omega)]
  exact if_pos ⟨h.2, h1, h2, h3⟩

end Forms

/-- Decoding reads back one code point. -/
theorem decodeUtf8_char {c : CodePoint} (hc : isSurrogate c = false) (bs : List UInt8) :
    decodeUtf8 (utf8Char c ++ bs) = (decodeUtf8 bs).map (c :: ·) := by
  have hlt := c.lt
  unfold utf8Char
  by_cases h1 : c.val < 0x80
  · have hb : (UInt8.ofNat c.val).toNat = c.val := toNat_byte (by omega)
    simp only [if_pos h1, List.cons_append, List.nil_append]
    rw [decodeUtf8_one (by omega), hb]
    exact consCodePoint_val (Nat.zero_le _) hc _
  by_cases h2 : c.val < 0x800
  · have hb : (UInt8.ofNat (0xC0 + c.val / 64)).toNat = 0xC0 + c.val / 64 := toNat_byte (by omega)
    have hb1 : (UInt8.ofNat (0x80 + c.val % 64)).toNat = 0x80 + c.val % 64 := toNat_byte (by omega)
    have hn : (0xC0 + c.val / 64) % 32 * 64 + (0x80 + c.val % 64) % 64 = c.val := by omega
    simp only [if_neg h1, if_pos h2, List.cons_append, List.nil_append]
    rw [decodeUtf8_two (by omega) (isCont_of hb1 (by omega)), hb, hb1, hn]
    exact consCodePoint_val (by omega) hc _
  by_cases h3 : c.val < 0x10000
  · have hb : (UInt8.ofNat (0xE0 + c.val / 4096)).toNat = 0xE0 + c.val / 4096 := toNat_byte (by omega)
    have hb1 : (UInt8.ofNat (0x80 + c.val / 64 % 64)).toNat = 0x80 + c.val / 64 % 64 :=
      toNat_byte (by omega)
    have hb2 : (UInt8.ofNat (0x80 + c.val % 64)).toNat = 0x80 + c.val % 64 := toNat_byte (by omega)
    have hn : (0xE0 + c.val / 4096) % 16 * 4096 + (0x80 + c.val / 64 % 64) % 64 * 64 +
        (0x80 + c.val % 64) % 64 = c.val := by omega
    simp only [if_neg h1, if_neg h2, if_pos h3, List.cons_append, List.nil_append]
    rw [decodeUtf8_three (by omega) (isCont_of hb1 (by omega)) (isCont_of hb2 (by omega)), hb, hb1,
      hb2, hn]
    exact consCodePoint_val (by omega) hc _
  · have hb : (UInt8.ofNat (0xF0 + c.val / 262144)).toNat = 0xF0 + c.val / 262144 :=
      toNat_byte (by omega)
    have hb1 : (UInt8.ofNat (0x80 + c.val / 4096 % 64)).toNat = 0x80 + c.val / 4096 % 64 :=
      toNat_byte (by omega)
    have hb2 : (UInt8.ofNat (0x80 + c.val / 64 % 64)).toNat = 0x80 + c.val / 64 % 64 :=
      toNat_byte (by omega)
    have hb3 : (UInt8.ofNat (0x80 + c.val % 64)).toNat = 0x80 + c.val % 64 := toNat_byte (by omega)
    have hn : (0xF0 + c.val / 262144) % 8 * 262144 + (0x80 + c.val / 4096 % 64) % 64 * 4096 +
        (0x80 + c.val / 64 % 64) % 64 * 64 + (0x80 + c.val % 64) % 64 = c.val := by omega
    simp only [if_neg h1, if_neg h2, if_neg h3, List.cons_append, List.nil_append]
    rw [decodeUtf8_four (by omega) (isCont_of hb1 (by omega)) (isCont_of hb2 (by omega))
      (isCont_of hb3 (by omega)), hb, hb1, hb2, hb3, hn]
    exact consCodePoint_val (by omega) hc _

theorem decodeUtf8_flatMap {s : PyStr} (hs : SurrogateFree s) :
    decodeUtf8 (s.flatMap utf8Char) = some s := by
  induction s with
  | nil => rfl
  | cons c s ih =>
    have hc : isSurrogate c = false := hs c (by simp)
    have htail : SurrogateFree s := fun x hx => hs x (List.mem_cons_of_mem c hx)
    rw [List.flatMap_cons, decodeUtf8_char hc, ih htail]
    rfl

theorem encodeUtf8_of_surrogateFree {s : PyStr} (hs : SurrogateFree s) :
    encodeUtf8 s = .ok (s.flatMap utf8Char) := by
  have hnone : s.findIdx? isSurrogate = none := List.findIdx?_eq_none_iff.mpr hs
  rw [encodeUtf8, hnone]

/-- **Decoding inverts encoding.** -/
theorem decodeUtf8_encode {s : PyStr} {bs : List UInt8} (h : encodeUtf8 s = .ok bs) :
    decodeUtf8 bs = some s := by
  unfold encodeUtf8 at h
  split at h
  · next hnone =>
    cases h
    exact decodeUtf8_flatMap (List.findIdx?_eq_none_iff.mp hnone)
  · cases h

/-! ## File names -/

/-- The bytes of a code point in a file name; `none` for a `UnicodeEncodeError`. -/
def fsChar (c : CodePoint) : Option (List UInt8) :=
  if 0xDC80 ≤ c.val ∧ c.val ≤ 0xDCFF then some [UInt8.ofNat (c.val - 0xDC00)]
  else if isSurrogate c then none
  else some (utf8Char c)

/-- `os.fsencode(s)`; `none` for a `UnicodeEncodeError`. -/
def fsencode : PyStr → Option (List UInt8)
  | [] => some []
  | c :: s => do
    let b ← fsChar c
    let bs ← fsencode s
    return b ++ bs

theorem fsencode_append (s t : PyStr) :
    fsencode (s ++ t) = (fsencode s).bind fun a => (fsencode t).map (a ++ ·) := by
  induction s with
  | nil => simp [fsencode]
  | cons c s ih =>
    rw [List.cons_append, fsencode, ih, fsencode]
    cases fsChar c with
    | none => rfl
    | some b =>
      cases fsencode s with
      | none => rfl
      | some a =>
        cases fsencode t with
        | none => rfl
        | some d => simp

theorem fsencode_of_surrogateFree {s : PyStr} (hs : SurrogateFree s) :
    fsencode s = some (s.flatMap utf8Char) := by
  induction s with
  | nil => rfl
  | cons c s ih =>
    have hc : isSurrogate c = false := hs c (by simp)
    have htail : SurrogateFree s := fun x hx => hs x (List.mem_cons_of_mem c hx)
    have hno : ¬ (0xDC80 ≤ c.val ∧ c.val ≤ 0xDCFF) := by
      simp only [isSurrogate, Bool.and_eq_false_iff, decide_eq_false_iff_not] at hc
      omega
    rw [fsencode, fsChar, if_neg hno, hc, if_neg (by decide), ih htail]
    rfl

/-- **Strings without surrogates have different file names.** -/
theorem fsencode_inj {s t : PyStr} (hs : SurrogateFree s) (ht : SurrogateFree t)
    (h : fsencode s = fsencode t) : s = t := by
  rw [fsencode_of_surrogateFree hs, fsencode_of_surrogateFree ht] at h
  have hdecode := congrArg decodeUtf8 (Option.some.inj h)
  rw [decodeUtf8_flatMap hs, decodeUtf8_flatMap ht] at hdecode
  exact Option.some.inj hdecode

end AwareKV
