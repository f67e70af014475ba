import AwareKV.Lib.Json
import Mathlib.Data.List.TakeWhile

/-!
# AwareKV.Lib.CutJson — JSON texts that were cut short

What `dumps` writes for an object of strings and integers is ASCII, so its bytes can be cut anywhere and
still decode; none of its strict prefixes is JSON.

* `Ascii.decodeUtf8_take`: a cut of the bytes is a cut of the text.
* `loads_cut`: `loads` refuses every strict prefix.
-/

namespace AwareKV

/-! ## Prefixes -/

section Prefixes

variable {α : Type*} {p a b : List α}

/-- A prefix ends in the first part, or takes all of it. -/
theorem prefix_of_append (h : p <+: a ++ b) : p <+: a ∨ ∃ q, p = a ++ q ∧ q <+: b := by
  rcases List.prefix_or_prefix_of_prefix h (List.prefix_append a b) with hp | ⟨q, rfl⟩
  · exact Or.inl hp
  · exact Or.inr ⟨q, rfl, (List.prefix_append_right_inj a).mp h⟩

end Prefixes

theorem skipSpace_cut {c : CodePoint} {p t : PyStr} (hc : isJsonSpace c = false) (hp : p <+: c :: t) :
    skipSpace p = p := by
  rcases List.prefix_cons_iff.mp hp with rfl | ⟨q, rfl, -⟩
  · rfl
  · exact skipSpace_cons hc q

/-! ## Cut strings -/

theorem scanUnits_cut_escapeU {n : ℕ} {p : PyStr} (hp : p <+: escapeU n) (hne : p ≠ escapeU n) :
    scanUnits p = none := by
  simp only [escapeU, List.prefix_cons_iff, List.prefix_nil] at hp
  rcases hp with rfl | ⟨_, rfl, rfl | ⟨_, rfl, rfl | ⟨_, rfl, rfl | ⟨_, rfl, rfl | ⟨_, rfl, rfl |
    ⟨_, rfl, rfl⟩⟩⟩⟩⟩⟩
  · rfl
  · rfl
  · rfl
  · rfl
  · rfl
  · rfl
  · exact absurd rfl hne

/-- No closing quote follows the escapes. -/
theorem scanUnits_cut_escapes {ns : List ℕ} (h : ∀ n ∈ ns, n < 65536) {p : PyStr}
    (hp : p <+: ns.flatMap escapeU) : scanUnits p = none := by
  induction ns generalizing p with
  | nil =>
    rw [List.prefix_nil.mp hp]
    rfl
  | cons n ns ih =>
    have hn : n < 65536 := h n (by simp)
    have hns : ∀ m ∈ ns, m < 65536 := fun m hm => h m (List.mem_cons_of_mem n hm)
    by_cases hlast : ∃ q, p = escapeU n ++ q ∧ q <+: ns.flatMap escapeU
    · obtain ⟨q, rfl, hq⟩ := hlast
      rw [scanUnits_escapeU hn, ih hns hq]
      rfl
    · rw [List.flatMap_cons] at hp
      have hcut : p <+: escapeU n := (prefix_of_append hp).resolve_right hlast
      refine scanUnits_cut_escapeU hcut ?_
      rintro rfl
      exact hlast ⟨[], (List.append_nil _).symm, List.nil_prefix⟩

theorem scanUnits_cut_codePoint {c : CodePoint} {p : PyStr} (hp : p <+: jsonCodePoint c) :
    scanUnits p = none := by
  unfold jsonCodePoint at hp
  cases he : shortEscape c with
  | some e =>
    obtain ⟨hne, hun, -⟩ := shortEscape_spec he
    simp only [he, List.prefix_cons_iff, List.prefix_nil] at hp
    rcases hp with rfl | ⟨_, rfl, rfl | ⟨_, rfl, rfl⟩⟩
    · rfl
    · rfl
    · rw [scanUnits.eq_def]
      simp only [if_neg hne, hun]
      rfl
  | none =>
    obtain ⟨hquote, hback⟩ := shortEscape_none he
    simp only [he] at hp
    by_cases hprint : 0x20 ≤ c.val ∧ c.val ≤ 0x7E
    · rw [if_pos hprint, List.prefix_cons_iff] at hp
      rcases hp with rfl | ⟨t, rfl, ht⟩
      · rfl
      · rw [List.prefix_nil.mp ht, scanUnits.eq_def]
        simp only [if_neg hquote, if_neg hback, if_neg (not_lt.mpr hprint.1)]
        rfl
    · rw [if_neg hprint] at hp
      exact scanUnits_cut_escapes (utf16_lt c) hp

/-- **A string without its closing quote is none.** -/
theorem scanString_cut {s p : PyStr} (hp : p <+: s.flatMap jsonCodePoint) : scanString p = none := by
  have hunits : scanUnits p = none := by
    induction s generalizing p with
    | nil =>
      rw [List.prefix_nil.mp hp]
      rfl
    | cons c s ih =>
      rw [List.flatMap_cons] at hp
      rcases prefix_of_append hp with hcut | ⟨q, rfl, hq⟩
      · exact scanUnits_cut_codePoint hcut
      · rw [scanUnits_codePoint, ih hq]
        rfl
  rw [scanString, hunits]
  rfl

/-! ## Cut values -/

/-- A cut of a number's digits is read to its end. -/
theorem scanDigits_cut {n : ℕ} {p : PyStr} (hp : p <+: natText n) (hne : p ≠ []) :
    scanDigits p = some (p, []) := by
  rcases natText_cases n with h | ⟨c, t, h, hc, hdigit, ht⟩
  · rw [h, List.prefix_cons_iff] at hp
    obtain ⟨q, rfl, hq⟩ := hp.resolve_left hne
    rw [List.prefix_nil.mp hq]
    rfl
  · rw [h, List.prefix_cons_iff] at hp
    obtain ⟨q, rfl, hq⟩ := hp.resolve_left hne
    have hall : ∀ d ∈ q, isDigit d = true := fun d hd => ht d (hq.subset hd)
    rw [scanDigits, if_neg hc, hdigit, if_pos rfl, List.takeWhile_eq_self_iff.mpr hall,
      List.dropWhile_eq_nil_iff.mpr hall]

section Loads

variable {floatRepr : PyStr → PyStr} {fuel : ℕ} {text p : PyStr}

theorem scanNumber_cut {n : ℕ} (hp : p <+: natText n) {sign : PyStr} {r : Json × PyStr}
    (h : scanNumber floatRepr sign p = some r) : r.2 = [] := by
  by_cases hne : p = []
  · rw [hne] at h
    cases h
  · simp only [scanNumber, scanDigits_cut hp hne, scanFraction, scanExponent, Option.bind_eq_bind,
      Option.bind_some, and_self, if_true] at h
    split at h
    · cases h
    · cases h
      rfl

/-- The digits that a cut of a number begins with. -/
theorem natText_cut_head {n : ℕ} {c : CodePoint} {q : PyStr} (hp : c :: q <+: natText n) :
    isDigit c = true := by
  rcases natText_cases n with h | ⟨d, t, h, -, hdigit, -⟩
  · rw [h] at hp
    rw [(List.cons_prefix_cons.mp hp).1]
    decide
  · rw [h] at hp
    rw [(List.cons_prefix_cons.mp hp).1]
    exact hdigit

/-- The cut of a written integer is read to its end, if it is read at all. -/
theorem scanPlain_cut {i : ℤ} (htext : intText i = .ok text) (hp : p <+: text) (hne : p ≠ [])
    {r : Json × PyStr} (h : scanPlain floatRepr p = some r) : r.2 = [] := by
  unfold intText at htext
  split at htext
  · cases htext
  cases htext
  split at hp
  · obtain ⟨q, rfl, hq⟩ := (List.prefix_cons_iff.mp hp).resolve_left hne
    have hhead : q.head? ≠ some 0x49 := by
      cases q with
      | nil => simp
      | cons c q => exact head?_ne_of_isDigit (natText_cut_head hq) q
    rw [scanPlain_minus hhead] at h
    exact scanNumber_cut hq h
  · obtain ⟨c, q, rfl⟩ := List.exists_cons_of_ne_nil hne
    rw [scanPlain_digit (natText_cut_head hp)] at h
    exact scanNumber_cut hp h

/-- **Nothing is left after the cut of a value**, if it is read at all. -/
theorem scanValue_cut {j : Json} (hj : j.Flat) (htext : dumps j = .ok text) (hp : p <+: text)
    {r : Json × PyStr} (h : scanValue floatRepr fuel p = some r) : r.2 = [] := by
  obtain ⟨fuel, rfl⟩ : ∃ f, fuel = f + 1 := by
    cases fuel with
    | zero => cases h
    | succ f => exact ⟨f, rfl⟩
  by_cases hwhole : p = text
  · have hnil : NumberEnd [] := by
      intro c hc
      cases hc
    rw [hwhole, ← List.append_nil text, scanValue_dumps hj htext hnil] at h
    cases h
    rfl
  cases j with
  | str s =>
    cases htext
    rcases List.prefix_cons_iff.mp (hp : p <+: 0x22 :: (s.flatMap jsonCodePoint ++ [0x22])) with
      rfl | ⟨q, rfl, hq⟩
    · cases h
    · rcases List.prefix_concat_iff.mp hq with rfl | hq
      · exact absurd rfl hwhole
      · rw [scanValue, if_pos rfl, scanString_cut hq] at h
        cases h
  | int i =>
    cases p with
    | nil => cases h
    | cons c q =>
      obtain ⟨d, t, rfl, hd⟩ := intText_head (htext : intText i = .ok text)
      obtain ⟨rfl, -⟩ := List.cons_prefix_cons.mp hp
      rw [scanValue_plain hd] at h
      exact scanPlain_cut htext hp (List.cons_ne_nil c q) h
  | null | bool _ | float _ | arr _ | obj _ => exact hj.elim

/-! ## Cut objects -/

/-- A member that nothing follows. -/
theorem scanMembers_cut_member {j : Json} (hj : j.Flat) (htext : dumps j = .ok text) {k : PyStr}
    (hp : p <+: jsonStr k ++ 0x3A :: 0x20 :: text) : scanMembers floatRepr fuel p = none := by
  have happ : jsonStr k ++ 0x3A :: 0x20 :: text =
      0x22 :: (k.flatMap jsonCodePoint ++ 0x22 :: 0x3A :: 0x20 :: text) := by
    simp [jsonStr]
  rw [happ] at hp
  cases fuel with
  | zero => rw [scanMembers]
  | succ fuel =>
    have hkey : ∀ q, q <+: k.flatMap jsonCodePoint → scanMembers floatRepr (fuel + 1) (0x22 :: q) = none := by
      intro q hq
      rw [scanMembers, if_neg (by decide), scanString_cut hq]
      rfl
    rcases List.prefix_cons_iff.mp hp with rfl | ⟨q, rfl, hbody⟩
    · rw [scanMembers]
    rcases prefix_of_append hbody with hcut | ⟨q, rfl, hquote⟩
    · exact hkey q hcut
    rcases List.prefix_cons_iff.mp hquote with rfl | ⟨q, rfl, hcolon⟩
    · rw [List.append_nil]
      exact hkey _ (List.prefix_refl _)
    -- the key is complete: a colon, a value or what comes after it is missing
    rw [scanMembers, if_neg (by decide), scanString_jsonStr]
    simp only [Option.bind_eq_bind, Option.bind_some]
    rcases List.prefix_cons_iff.mp hcolon with rfl | ⟨q, rfl, hspace⟩
    · rfl
    rw [skipSpace_cons (by decide)]
    simp only [ne_eq, not_true_eq_false, if_false]
    have hvalue : skipSpace q <+: text := by
      obtain ⟨c, t, rfl, hc⟩ := dumps_head hj htext
      rcases List.prefix_cons_iff.mp hspace with rfl | ⟨q, rfl, hcut⟩
      · exact List.nil_prefix
      · rw [skipSpace_space, skipSpace_cut hc hcut]
        exact hcut
    cases hscan : scanValue floatRepr fuel (skipSpace q) with
    | none => rfl
    | some r =>
      simp only [Option.bind_some, scanValue_cut hj htext hvalue hscan]
      rfl

/-- Without fuel for a value there is no member. -/
theorem scanMembers_one (s : PyStr) : scanMembers floatRepr 1 s = none := by
  cases s with
  | nil => rw [scanMembers]
  | cons c s =>
    rw [scanMembers]
    by_cases hc : c ≠ 0x22
    · rw [if_pos hc]
    rw [if_neg hc]
    cases scanString s with
    | none => rfl
    | some r =>
      simp only [Option.bind_eq_bind, Option.bind_some]
      cases skipSpace r.2 with
      | nil => rfl
      | cons d t =>
        by_cases hd : d ≠ 0x3A
        · exact if_pos hd
        · exact (if_neg hd).trans rfl

/-- **Members without the closing brace are none.** -/
theorem scanMembers_cut {m : PyStr × Json} {ms : List (PyStr × Json)} {texts : List PyStr}
    (hflat : ∀ x ∈ m :: ms, x.2.Flat) (h : dumpsMembers (m :: ms) = .ok texts)
    (hp : p <+: commaSeparated texts) : scanMembers floatRepr fuel p = none := by
  induction ms generalizing m texts fuel p with
  | nil =>
    obtain ⟨text, htext, h⟩ := Py.bind_eq_ok.mp h
    cases h
    rw [commaSeparated_singleton] at hp
    exact scanMembers_cut_member (hflat m (by simp)) htext hp
  | cons m' ms ih =>
    obtain ⟨text, htext, h⟩ := Py.bind_eq_ok.mp h
    obtain ⟨texts', htexts, h⟩ := Py.bind_eq_ok.mp h
    cases h
    obtain ⟨u, hu⟩ := members_head htexts
    have hrest : ∀ fuel q, q <+: 0x20 :: commaSeparated texts' →
        scanMembers floatRepr fuel (skipSpace q) = none := by
      intro fuel q hq
      rcases List.prefix_cons_iff.mp hq with rfl | ⟨q, rfl, hcut⟩
      · exact ih (fun x hx => hflat x (List.mem_cons_of_mem m hx)) htexts List.nil_prefix
      · rw [skipSpace_space, skipSpace_cut (by decide) (hu ▸ hcut)]
        exact ih (fun x hx => hflat x (List.mem_cons_of_mem m hx)) htexts hcut
    have hmember : ∀ q, q <+: jsonStr m.1 ++ 0x3A :: 0x20 :: text → scanMembers floatRepr fuel q = none :=
      fun q hq => scanMembers_cut_member (hflat m (by simp)) htext hq
    obtain ⟨next, texts'', rfl⟩ : ∃ next texts'', texts' = next :: texts'' := by
      cases texts' with
      | nil => cases hu
      | cons next texts'' => exact ⟨next, texts'', rfl⟩
    rw [commaSeparated_cons] at hp
    rcases prefix_of_append hp with hp | ⟨q, rfl, hq⟩
    · exact hmember p hp
    rcases List.prefix_cons_iff.mp hq with rfl | ⟨q, rfl, hspace⟩
    · rw [List.append_nil]
      exact hmember _ (List.prefix_refl _)
    match fuel with
    | 0 => rw [scanMembers]
    | 1 => exact scanMembers_one _
    | fuel + 2 =>
      rw [scanMembers_member (hflat m (by simp)) htext (Or.inr rfl), if_neg (by decide), hrest _ q hspace]
      rfl

/-- **No strict prefix of a written object is JSON.** -/
theorem loads_cut {fields : List (PyStr × Json)} (hflat : ∀ x ∈ fields, x.2.Flat)
    (h : dumps (.obj fields) = .ok text) (hp : p <+: text) (hne : p ≠ text) : loads floatRepr p = none := by
  obtain ⟨texts, htexts, h⟩ := Py.bind_eq_ok.mp (h : (dumpsMembers fields >>= _) = _)
  cases h
  rcases List.prefix_cons_iff.mp (hp : p <+: 0x7B :: (commaSeparated texts ++ [0x7D])) with rfl | ⟨q, rfl, hq⟩
  · rfl
  have hcut : q <+: commaSeparated texts := by
    rcases List.prefix_concat_iff.mp hq with rfl | hq
    · exact absurd rfl hne
    · exact hq
  have hvalue : scanValue floatRepr ((0x7B :: q).length + 1) (0x7B :: q) = none := by
    rw [scanValue, if_neg (by decide), if_pos rfl]
    cases fields with
    | nil =>
      cases htexts
      rw [List.prefix_nil.mp hcut]
      rfl
    | cons m ms =>
      obtain ⟨u, hu⟩ := members_head htexts
      rw [skipSpace_cut (by decide) (hu ▸ hcut)]
      rcases List.prefix_cons_iff.mp (hu ▸ hcut) with rfl | ⟨t, rfl, -⟩
      · rfl
      · simp only [if_neg (by decide : ¬ (0x22 : CodePoint) = 0x7D), scanMembers_cut hflat htexts hcut]
        rfl
  rw [loads_brace, hvalue]
  rfl

end Loads

/-! ## Cut bytes -/

/-- The bytes of an ASCII text are cut where the text is. -/
theorem Ascii.decodeUtf8_take {s : PyStr} (h : Ascii s) (k : ℕ) :
    decodeUtf8 ((s.flatMap utf8Char).take k) = some (s.take k) := by
  have htake : Ascii (s.take k) := fun c hc => h c (List.mem_of_mem_take hc)
  rw [h.utf8, ← List.map_take, ← htake.utf8, decodeUtf8_flatMap htake.surrogateFree]

end AwareKV
