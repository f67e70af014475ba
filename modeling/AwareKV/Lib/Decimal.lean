import AwareKV.Lib.Py

/-!
# AwareKV.Lib.Decimal — `int(s)` reads back what `str(n)` writes

* `parseInt_toDigits`: the decimal digits of a natural number are its literal, as long as the
  interpreter's limit on the digits allows it.
* `lastPart_append`: what follows the last separator.
-/

namespace AwareKV

/-! ## Digits -/

theorem digit?_of_isDigit {c : Char} (h : c.isDigit = true) : digit? c = some (c.toNat - '0'.toNat) := by
  have hrange : '0'.toNat ≤ c.toNat ∧ c.toNat ≤ '9'.toNat := by
    simpa [Char.isDigit, UInt32.le_iff_toNat_le] using h
  have hascii : 0x30 ≤ c.toNat ∧ c.toNat < 0x30 + 10 := ⟨hrange.1, Nat.lt_succ_of_le hrange.2⟩
  unfold digit? decimalZeros
  rw [List.find?_cons_of_pos (by simpa using hascii)]
  rfl

theorem ne_of_isDigit {c d : Char} (h : c.isDigit = true) (hd : d.isDigit = false) : c ≠ d := by
  rintro rfl
  rw [h] at hd
  cases hd

theorem moreDigits_of_isDigit {cs : List Char} (h : ∀ c ∈ cs, c.isDigit = true) :
    moreDigits cs = some (cs.map fun c => c.toNat - '0'.toNat) := by
  induction cs with
  | nil => rfl
  | cons c cs ih =>
    have hc := h c List.mem_cons_self
    have hcs := ih fun d hd => h d (List.mem_cons_of_mem c hd)
    have hne : c ≠ '_' := ne_of_isDigit hc (by decide)
    have hstep : moreDigits (c :: cs) = (do
        let d ← digit? c
        let ds ← moreDigits cs
        return d :: ds) := by
      rw [moreDigits.eq_def]
      split
      · next hnil => cases hnil
      · next hcons => exact absurd (List.cons.inj hcons).1 hne
      · next hcons =>
        cases hcons
        rfl
    rw [hstep, digit?_of_isDigit hc, hcs]
    rfl

/-- An unsigned literal of ASCII digits. -/
theorem parseNat_of_isDigit {cs : List Char} (hne : cs ≠ []) (h : ∀ c ∈ cs, c.isDigit = true) :
    parseNat cs = if cs.length ≤ maxStrDigits then some (Nat.ofDigitChars 10 cs 0) else none := by
  obtain ⟨c, cs, rfl⟩ := List.exists_cons_of_ne_nil hne
  have hc := h c List.mem_cons_self
  have hdigits : literalDigits (c :: cs) = some ((c :: cs).map fun c => c.toNat - '0'.toNat) := by
    rw [literalDigits, digit?_of_isDigit hc,
      moreDigits_of_isDigit fun d hd => h d (List.mem_cons_of_mem c hd)]
    rfl
  rw [parseNat, hdigits]
  show (if ((c :: cs).map _).length ≤ maxStrDigits then _ else none) = _
  rw [List.length_map, List.foldl_map, Nat.ofDigitChars_eq_foldl]

/-! ## Signs and white space -/

theorem not_isIntSpace_of_isDigit {c : Char} (h : c.isDigit = true) : isIntSpace c = false := by
  have hrange : '0'.toNat ≤ c.toNat ∧ c.toNat ≤ '9'.toNat := by
    simpa [Char.isDigit, UInt32.le_iff_toNat_le] using h
  have hlow : 48 ≤ c.toNat := hrange.1
  have hhigh : c.toNat ≤ 57 := hrange.2
  have hno : c.toNat ∉ [0x09, 0x0a, 0x0b, 0x0c, 0x0d, 0x20, 0x85, 0xa0, 0x1680, 0x2028, 0x2029, 0x202f,
      0x205f, 0x3000] := by
    simp only [List.mem_cons, List.not_mem_nil, or_false]
    omega
  rw [isIntSpace, decide_eq_false hno, Bool.false_or, Bool.and_eq_false_iff]
  exact Or.inl (decide_eq_false (by omega))

theorem stripSpace_of_isDigit {cs : List Char} (h : ∀ c ∈ cs, c.isDigit = true) : stripSpace cs = cs := by
  have hdrop : ∀ ds : List Char, (∀ c ∈ ds, c.isDigit = true) → ds.dropWhile isIntSpace = ds := by
    intro ds hds
    cases ds with
    | nil => rfl
    | cons c ds =>
      have hc := not_isIntSpace_of_isDigit (hds c List.mem_cons_self)
      rw [List.dropWhile_cons_of_neg (by simp [hc])]
  rw [stripSpace, hdrop cs h, hdrop _ fun c hc => h c (List.mem_reverse.mp hc), List.reverse_reverse]

/-- A literal of ASCII digits only. -/
theorem parseInt_of_isDigit {cs : List Char} (hne : cs ≠ []) (h : ∀ c ∈ cs, c.isDigit = true) :
    parseInt cs =
      if cs.length ≤ maxStrDigits then some (Nat.ofDigitChars 10 cs 0 : ℤ) else none := by
  obtain ⟨c, cs, rfl⟩ := List.exists_cons_of_ne_nil hne
  have hc := h c List.mem_cons_self
  rw [parseInt, stripSpace_of_isDigit h]
  split
  · next hsign => exact absurd (List.cons.inj hsign).1 (ne_of_isDigit hc (by decide))
  · next hsign => exact absurd (List.cons.inj hsign).1 (ne_of_isDigit hc (by decide))
  · rw [parseNat_of_isDigit hne h]
    split_ifs <;> rfl

/-- **`int(str(n))`** is `n`, unless `str(n)` has more digits than the interpreter converts. -/
theorem parseInt_toDigits (n : ℕ) :
    parseInt (Nat.toDigits 10 n) = if n < 10 ^ maxStrDigits then some (n : ℤ) else none := by
  have hlen : (Nat.toDigits 10 n).length ≤ maxStrDigits ↔ n < 10 ^ maxStrDigits :=
    Nat.length_toDigits_le_iff (by decide) (by decide)
  rw [parseInt_of_isDigit Nat.toDigits_ne_nil fun c hc => Nat.isDigit_of_mem_toDigits (by decide) (by decide) hc,
    Nat.ofDigitChars_ten_toDigits, if_congr hlen rfl rfl]

/-! ## The last part -/

theorem lastPart_append {sep : Char} {ds : List Char} (h : sep ∉ ds) (cs : List Char) :
    lastPart sep (cs ++ sep :: ds) = ds := by
  have hpass : ∀ c ∈ ds.reverse, decide (c ≠ sep) = true := by
    intro c hc
    refine decide_eq_true fun hsep => h ?_
    rw [← hsep]
    exact List.mem_reverse.mp hc
  rw [lastPart, List.reverse_append, List.reverse_cons, List.append_assoc,
    List.takeWhile_append_of_pos hpass, List.singleton_append,
    List.takeWhile_cons_of_neg (by simp), List.append_nil, List.reverse_reverse]

end AwareKV
