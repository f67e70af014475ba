import Mathlib.Data.List.Basic

/-!
# AwareKV.Lib.Delimited — encodings that mark their own end

`Delimited enc stop`: if two encoded values, each followed by something that satisfies `stop`, make the
same text, then the values are the same and so is what follows them.  A text that is put together from
such encodings determines its parts.

* `Delimited.of_alphabet`: what follows starts with a token that no encoding contains.
* `Delimited.flatMap_close`, `Delimited.separated`: lists of items up to a closing token.
-/

namespace AwareKV

variable {α τ : Type*} {enc : α → List τ} {stop : List τ → Prop}

/-- An encoding, and what satisfies `stop` after it, can be told apart. -/
def Delimited (enc : α → List τ) (stop : List τ → Prop) : Prop :=
  ∀ a b r s, stop r → stop s → enc a ++ r = enc b ++ s → a = b ∧ r = s

namespace Delimited

/-- The tokens of an encoding are of one kind, what follows starts with another kind. -/
theorem of_alphabet (p : τ → Bool) (hinj : enc.Injective) (hp : ∀ a, ∀ c ∈ enc a, p c = true)
    (hstop : ∀ r, stop r → ∀ c ∈ r.head?, p c = false) : Delimited enc stop := by
  have htake : ∀ a r, stop r → (enc a ++ r).takeWhile p = enc a := by
    intro a r hr
    rw [List.takeWhile_append_of_pos (hp a)]
    cases r with
    | nil => rw [List.takeWhile_nil, List.append_nil]
    | cons c r => rw [List.takeWhile_cons_of_neg (by simp [hstop _ hr c rfl]), List.append_nil]
  intro a b r s hr hs h
  have hab : enc a = enc b := by rw [← htake a r hr, ← htake b s hs, h]
  exact ⟨hinj hab, List.append_cancel_left (hab ▸ h)⟩

/-- A fixed text before the encoding. -/
theorem after (h : Delimited enc stop) (pre : List τ) : Delimited (fun a => pre ++ enc a) stop := by
  intro a b r s hr hs heq
  rw [List.append_assoc, List.append_assoc] at heq
  exact h a b r s hr hs (List.append_cancel_left heq)

/-- Items one after the other, up to a token that starts no item. -/
theorem flatMap_close (h : Delimited enc stop) {close : τ} (hclose : ∀ r, stop (close :: r))
    (hitem : ∀ a r, stop (enc a ++ r)) (hhead : ∀ a r s, enc a ++ r ≠ close :: s) :
    Delimited (fun xs : List α => xs.flatMap enc ++ [close]) (fun _ => True) := by
  have hnext : ∀ (xs : List α) r, stop (xs.flatMap enc ++ close :: r) := by
    intro xs r
    cases xs with
    | nil => exact hclose r
    | cons x xs =>
      rw [List.flatMap_cons, List.append_assoc]
      exact hitem x _
  intro xs ys r s _ _ heq
  simp only [List.append_assoc, List.singleton_append] at heq
  induction xs generalizing ys with
  | nil =>
    cases ys with
    | nil => exact ⟨rfl, (List.cons.inj heq).2⟩
    | cons y ys =>
      rw [List.flatMap_cons, List.append_assoc] at heq
      exact absurd heq.symm (hhead y _ _)
  | cons x xs ih =>
    cases ys with
    | nil =>
      rw [List.flatMap_cons, List.append_assoc] at heq
      exact absurd heq (hhead x _ _)
    | cons y ys =>
      rw [List.flatMap_cons, List.flatMap_cons, List.append_assoc, List.append_assoc] at heq
      obtain ⟨rfl, hrest⟩ := h x y _ _ (hnext xs r) (hnext ys s) heq
      obtain ⟨rfl, hrs⟩ := ih ys hrest
      exact ⟨rfl, hrs⟩

end Delimited

/-- Items with a separator between them. -/
theorem intercalate_map_cons (sep : List τ) (enc : α → List τ) (x : α) (xs : List α) :
    sep.intercalate ((x :: xs).map enc) = enc x ++ xs.flatMap (fun y => sep ++ enc y) := by
  induction xs generalizing x with
  | nil => simp
  | cons y ys ih =>
    rw [List.map_cons, List.map_cons, List.intercalate_cons_cons, ← List.map_cons, ih, List.flatMap_cons]
    simp only [List.append_assoc]

/-- **Items with separators**, up to a closing token that starts neither an item nor a separator. -/
theorem Delimited.separated (h : Delimited enc stop) {sep close : τ} (seps : List τ) (hne : sep ≠ close)
    (hsep : ∀ r, stop (sep :: r)) (hclose : ∀ r, stop (close :: r))
    (hhead : ∀ a r s, enc a ++ r ≠ close :: s) :
    Delimited (fun xs : List α => (sep :: seps).intercalate (xs.map enc) ++ [close]) (fun _ => True) := by
  have htail : Delimited (fun xs : List α => xs.flatMap (fun y => (sep :: seps) ++ enc y) ++ [close])
      (fun _ => True) :=
    (h.after (sep :: seps)).flatMap_close hclose (fun a r => hsep _)
      (fun a r s heq => hne (List.cons.inj heq).1)
  have hnext : ∀ (xs : List α) r, stop (xs.flatMap (fun y => (sep :: seps) ++ enc y) ++ ([close] ++ r)) := by
    intro xs r
    cases xs with
    | nil => exact hclose r
    | cons x xs => exact hsep _
  intro xs ys r s _ _ heq
  cases xs with
  | nil =>
    cases ys with
    | nil => exact ⟨rfl, (List.cons.inj heq).2⟩
    | cons y ys =>
      simp only [intercalate_map_cons, List.append_assoc] at heq
      exact absurd heq.symm (hhead y _ _)
  | cons x xs =>
    cases ys with
    | nil =>
      simp only [intercalate_map_cons, List.append_assoc] at heq
      exact absurd heq (hhead x _ _)
    | cons y ys =>
      simp only [intercalate_map_cons, List.append_assoc] at heq
      obtain ⟨rfl, hrest⟩ := h x y _ _ (hnext xs r) (hnext ys s) heq
      simp only [← List.append_assoc] at hrest
      obtain ⟨rfl, hrs⟩ := htail xs ys r s trivial trivial (by simpa only [List.append_assoc] using hrest)
      exact ⟨rfl, hrs⟩

end AwareKV
