import Mathlib.Algebra.Order.Floor.Defs
import Mathlib.Data.List.Basic
import Mathlib.Data.Rat.Floor

/-!
# AwareKV.Lib.Py — the pieces of Python that the model computes with

Exceptions (`Exc`, a kind and the text that `str(e)` gives), integer division, slices and indices of
sequences with negative positions, `int(q)` of a rational, and `int(s)` of a string: surrounding
white space, one sign, Unicode decimal digits with single underscores between them, at most
`maxStrDigits` digits.
-/

namespace AwareKV

/-! ## Exceptions -/

/-- The exception classes that the modelled code raises. -/
inductive ExcKind
  | attributeError | indexError | keyError | overflowError | runtimeError | structError | typeError
  | unicodeDecodeError | unicodeEncodeError | valueError | zeroDivisionError
  deriving DecidableEq, Repr

/-- An exception: its class and its text. -/
structure Exc where
  kind : ExcKind
  msg : String
  deriving DecidableEq, Repr

/-- The result of a call that may raise. -/
abbrev Py (α : Type*) := Except Exc α

instance {α : Type*} [DecidableEq α] : DecidableEq (Py α)
  | .ok a, .ok b => decidable_of_iff (a = b) ⟨fun h => h ▸ rfl, fun h => Except.ok.inj h⟩
  | .error a, .error b => decidable_of_iff (a = b) ⟨fun h => h ▸ rfl, fun h => Except.error.inj h⟩
  | .ok _, .error _ => isFalse (fun h => nomatch h)
  | .error _, .ok _ => isFalse (fun h => nomatch h)

theorem Py.bind_eq_ok {α β : Type} {x : Py α} {f : α → Py β} {b : β} :
    (x >>= f) = .ok b ↔ ∃ a, x = .ok a ∧ f a = .ok b := by
  cases x with
  | error e => exact ⟨fun h => (by cases h), fun ⟨a, h, _⟩ => (by cases h)⟩
  | ok a => exact ⟨fun h => ⟨a, rfl, h⟩, fun ⟨a', h, h'⟩ => by cases h; exact h'⟩

theorem Py.ok_bind {α β : Type} (a : α) (f : α → Py β) : ((.ok a : Py α) >>= f) = f a := rfl

@[simp] theorem Py.isOk_ok {α : Type} (a : α) : (.ok a : Py α).isOk = true := rfl

@[simp] theorem Py.isOk_error {α : Type} (e : Exc) : (.error e : Py α).isOk = false := rfl

/-- A loop over a list succeeds exactly when every round does. -/
theorem Py.mapM_eq_ok {α β : Type} {f : α → Py β} {xs : List α} {ys : List β} :
    xs.mapM f = .ok ys ↔ List.Forall₂ (fun x y => f x = .ok y) xs ys := by
  induction xs generalizing ys with
  | nil =>
    constructor
    · intro h
      cases h
      exact .nil
    · intro h
      cases h
      rfl
  | cons x xs ih =>
    rw [List.mapM_cons, Py.bind_eq_ok]
    constructor
    · rintro ⟨y, hy, h⟩
      obtain ⟨zs, hzs, h⟩ := Py.bind_eq_ok.mp h
      cases h
      exact .cons hy (ih.mp hzs)
    · rintro (_ | ⟨hy, hys⟩)
      exact ⟨_, hy, Py.bind_eq_ok.mpr ⟨_, ih.mpr hys, rfl⟩⟩

theorem Py.mapM_isOk {α β : Type} {f : α → Py β} {xs : List α} :
    (∃ ys, xs.mapM f = .ok ys) ↔ ∀ x ∈ xs, ∃ y, f x = .ok y := by
  induction xs with
  | nil => exact iff_of_true ⟨[], rfl⟩ fun x hx => absurd hx List.not_mem_nil
  | cons x xs ih =>
    rw [List.forall_mem_cons, ← ih]
    constructor
    · rintro ⟨ys, h⟩
      obtain _ | ⟨hy, hys⟩ := Py.mapM_eq_ok.mp h
      exact ⟨⟨_, hy⟩, _, Py.mapM_eq_ok.mpr hys⟩
    · rintro ⟨⟨y, hy⟩, ys, hys⟩
      exact ⟨y :: ys, Py.mapM_eq_ok.mpr (.cons hy (Py.mapM_eq_ok.mp hys))⟩

/-- Every collected value is that of an item. -/
theorem Py.mem_of_mapM {α β : Type} {f : α → Py β} {xs : List α} {ys : List β} (h : xs.mapM f = .ok ys) {y : β}
    (hy : y ∈ ys) : ∃ x ∈ xs, f x = .ok y := by
  have hrounds := Py.mapM_eq_ok.mp h
  clear h
  induction hrounds with
  | nil => cases hy
  | cons hxy _ ih =>
    rcases List.mem_cons.mp hy with rfl | hy
    · exact ⟨_, List.mem_cons_self, hxy⟩
    · obtain ⟨x, hx, hxy⟩ := ih hy
      exact ⟨x, List.mem_cons_of_mem _ hx, hxy⟩

/-- A loop whose rounds all succeed with a property collects values with the property. -/
theorem Py.mapM_exists {α β : Type} (xs : List α) {f : α → Py β} {P : β → Prop}
    (h : ∀ x ∈ xs, ∃ y, f x = .ok y ∧ P y) : ∃ ys, xs.mapM f = .ok ys ∧ ∀ y ∈ ys, P y := by
  induction xs with
  | nil => exact ⟨[], rfl, fun y hy => absurd hy List.not_mem_nil⟩
  | cons x xs ih =>
    obtain ⟨y, hy, hP⟩ := h x List.mem_cons_self
    obtain ⟨ys, hys, hPs⟩ := ih fun z hz => h z (List.mem_cons_of_mem x hz)
    refine ⟨y :: ys, ?_, List.forall_mem_cons.mpr ⟨hP, hPs⟩⟩
    exact Py.mapM_eq_ok.mpr (.cons hy (Py.mapM_eq_ok.mp hys))

/-- A loop whose rounds check their item and compute from it. -/
theorem Py.mapM_eq_ok_iff {α β : Type} {f : α → Py β} {P : α → Prop} {g : α → β}
    (hf : ∀ x y, f x = .ok y ↔ P x ∧ g x = y) {xs : List α} {ys : List β} :
    xs.mapM f = .ok ys ↔ (∀ x ∈ xs, P x) ∧ xs.map g = ys := by
  rw [Py.mapM_eq_ok]
  induction xs generalizing ys with
  | nil => simp [eq_comm]
  | cons x xs ih =>
    rw [List.forall₂_cons_left_iff, List.forall_mem_cons, List.map_cons]
    constructor
    · rintro ⟨y, zs, hy, hzs, rfl⟩
      obtain ⟨hx, rfl⟩ := (hf x y).mp hy
      obtain ⟨hxs, rfl⟩ := ih.mp hzs
      exact ⟨⟨hx, hxs⟩, rfl⟩
    · rintro ⟨⟨hx, hxs⟩, rfl⟩
      exact ⟨g x, xs.map g, (hf x _).mpr ⟨hx, rfl⟩, ih.mpr ⟨hxs, rfl⟩, rfl⟩

/-- Names in quotes, as the interpreter lists them. -/
def quotedNames : List String → String
  | [] => ""
  | [a] => "'" ++ a ++ "'"
  | [a, b] => "'" ++ a ++ "' and '" ++ b ++ "'"
  | [a, b, c] => "'" ++ a ++ "', '" ++ b ++ "', and '" ++ c ++ "'"
  | a :: as => "'" ++ a ++ "', " ++ quotedNames as

/-- The argument check of a call `fn(k₁=…, k₂=…)`: every name given must be a parameter, and the
parameters without a default must be given. -/
def checkKeywords (fn : String) (required optional given : List String) : Py Unit :=
  match given.find? (fun k => k ∉ required ∧ k ∉ optional) with
  | some k => .error ⟨.typeError, fn ++ "() got an unexpected keyword argument '" ++ k ++ "'"⟩
  | none =>
    match required.filter (fun k => k ∉ given) with
    | [] => .ok ()
    | [k] => .error ⟨.typeError, fn ++ "() missing 1 required positional argument: '" ++ k ++ "'"⟩
    | ks => .error ⟨.typeError, fn ++ "() missing " ++ toString ks.length ++
        " required positional arguments: " ++ quotedNames ks⟩

/-- Only calls whose names are all parameters get through. -/
theorem checkKeywords_ok {fn : String} {required optional given : List String} {u : Unit}
    (h : checkKeywords fn required optional given = .ok u) : ∀ k ∈ given, k ∈ required ∨ k ∈ optional := by
  unfold checkKeywords at h
  cases hf : given.find? (fun k => k ∉ required ∧ k ∉ optional) with
  | some k =>
    rw [hf] at h
    cases h
  | none =>
    intro k hk
    have hno := List.find?_eq_none.mp hf k hk
    simp only [decide_eq_true_eq, not_and, not_not] at hno
    by_cases hr : k ∈ required
    · exact Or.inl hr
    · exact Or.inr (hno hr)

/-- Values of attributes and JSON fields whose type is not fixed. -/
inductive PyVal
  | none
  | int (i : ℤ)
  | str (s : String)
  | ints (l : List ℤ)
  deriving DecidableEq, Repr

/-! ## Numbers -/

/-- `a // b` on integers. -/
def floorDiv (a b : ℤ) : Py ℤ :=
  if b = 0 then .error ⟨.zeroDivisionError, "integer division or modulo by zero"⟩
  else .ok (a.fdiv b)

/-- `a / b` in exact arithmetic. -/
def trueDiv (a b : ℚ) : Py ℚ :=
  if b = 0 then .error ⟨.zeroDivisionError, "float division by zero"⟩ else .ok (a / b)

/-- `int(q)`: truncation towards zero. -/
def intOfRat (q : ℚ) : ℤ := if 0 ≤ q then ⌊q⌋ else ⌈q⌉

/-! ## Sequences -/

/-- A slice bound: negative bounds count from the end, and all are clipped to `[0, n]`. -/
def sliceBound (n : ℕ) (i : ℤ) : ℕ := if i < 0 then (i + n).toNat else min i.toNat n

/-- `xs[a:b]`. -/
def slice {α : Type*} (xs : List α) (a b : ℤ) : List α :=
  (xs.take (sliceBound xs.length b)).drop (sliceBound xs.length a)

/-- `xs[i]`, where a negative index counts from the end; `none` for an `IndexError`. -/
def index? {α : Type*} (xs : List α) (i : ℤ) : Option α :=
  if 0 ≤ i then xs[i.toNat]? else if 0 ≤ i + xs.length then xs[(i + xs.length).toNat]? else none

theorem sliceBound_le (n : ℕ) (i : ℤ) : sliceBound n i ≤ n := by
  unfold sliceBound
  split_ifs <;> omega

theorem sliceBound_min (n : ℕ) (i : ℤ) : sliceBound n (min i n) = sliceBound n i := by
  unfold sliceBound
  split_ifs <;> omega

theorem slice_nat {α : Type*} (xs : List α) (a b : ℕ) : slice xs a b = (xs.take b).drop a := by
  unfold slice sliceBound
  rw [if_neg (by omega), if_neg (by omega), Int.toNat_natCast, Int.toNat_natCast,
    ← List.take_eq_take_min]
  rcases Nat.le_total a xs.length with h | h
  · rw [Nat.min_eq_left h]
  · rw [Nat.min_eq_right h, List.drop_eq_nil_of_le (List.length_take_le' _ _),
      List.drop_eq_nil_of_le ((List.length_take_le' _ _).trans h)]

/-- A slice up to the end or beyond is the whole sequence. -/
theorem slice_whole {α : Type*} {xs : List α} {stop : ℤ} (h : xs.length ≤ stop) : slice xs 0 stop = xs := by
  obtain ⟨n, rfl⟩ := Int.eq_ofNat_of_zero_le (show 0 ≤ stop by omega)
  rw [← Int.ofNat_zero, slice_nat, List.drop_zero, List.take_of_length_le (by omega)]

/-- The slice that a part of a sequence makes. -/
theorem slice_mid {α : Type*} {xs a b c : List α} {i j : ℤ} (hxs : xs = a ++ b ++ c)
    (hi : i = a.length) (hj : j = a.length + b.length) : slice xs i j = b := by
  have htake : xs.take (a.length + b.length) = a ++ b := by
    rw [hxs, ← List.length_append, List.take_left]
  rw [hi, hj, ← Nat.cast_add, slice_nat, htake, List.drop_left]

/-- The first `k` pieces of length `q` put together. -/
theorem flatMap_slice {α : Type*} (xs : List α) (q k : ℕ) :
    (List.range k).flatMap (fun i => slice xs (i * q : ℕ) (i * q + q : ℕ)) = xs.take (k * q) := by
  induction k with
  | zero => simp
  | succ k ih =>
    have htake : xs.take (k * q) = (xs.take (k * q + q)).take (k * q) := by
      rw [List.take_take, Nat.min_eq_left (Nat.le_add_right _ _)]
    rw [List.range_succ, List.flatMap_append, ih, List.flatMap_singleton, slice_nat, htake,
      List.take_append_drop, Nat.succ_mul]

/-! ## `int(s)` -/

/-- First code points of the runs of ten Unicode decimal digits. -/
def decimalZeros : List ℕ :=
  [0x30, 0x660, 0x6f0, 0x7c0, 0x966, 0x9e6, 0xa66, 0xae6, 0xb66, 0xbe6, 0xc66, 0xce6, 0xd66, 0xde6,
    0xe50, 0xed0, 0xf20, 0x1040, 0x1090, 0x17e0, 0x1810, 0x1946, 0x19d0, 0x1a80, 0x1a90, 0x1b50,
    0x1bb0, 0x1c40, 0x1c50, 0xa620, 0xa8d0, 0xa900, 0xa9d0, 0xa9f0, 0xaa50, 0xabf0, 0xff10,
    0x104a0, 0x10d30, 0x11066, 0x110f0, 0x11136, 0x111d0, 0x112f0, 0x11450, 0x114d0, 0x11650,
    0x116c0, 0x11730, 0x118e0, 0x11950, 0x11c50, 0x11d50, 0x11da0, 0x16a60, 0x16ac0, 0x16b50,
    0x1d7ce, 0x1d7d8, 0x1d7e2, 0x1d7ec, 0x1d7f6, 0x1e140, 0x1e2f0, 0x1e950, 0x1fbf0]

/-- The value of a decimal digit. -/
def digit? (c : Char) : Option ℕ :=
  (decimalZeros.find? (fun z => z ≤ c.toNat ∧ c.toNat < z + 10)).map (fun z => c.toNat - z)

/-- White space that `int` strips. -/
def isIntSpace (c : Char) : Bool :=
  c.toNat ∈ [0x09, 0x0a, 0x0b, 0x0c, 0x0d, 0x20, 0x85, 0xa0, 0x1680, 0x2028, 0x2029, 0x202f, 0x205f,
    0x3000] || (0x2000 ≤ c.toNat && c.toNat ≤ 0x200a)

/-- The interpreter's default limit on the digits of a converted string. -/
def maxStrDigits : ℕ := 4300

/-- Digits after a first digit: an underscore must stand between two digits. -/
def moreDigits : List Char → Option (List ℕ)
  | [] => some []
  | '_' :: c :: cs => do
    let d ← digit? c
    let ds ← moreDigits cs
    return d :: ds
  | c :: cs => do
    let d ← digit? c
    let ds ← moreDigits cs
    return d :: ds

/-- The digits of an unsigned literal. -/
def literalDigits : List Char → Option (List ℕ)
  | [] => none
  | c :: cs => do
    let d ← digit? c
    let ds ← moreDigits cs
    return d :: ds

/-- An unsigned literal. -/
def parseNat (cs : List Char) : Option ℕ := do
  let ds ← literalDigits cs
  if ds.length ≤ maxStrDigits then some (ds.foldl (fun n d => 10 * n + d) 0) else none

/-- `s.strip()` with the white space of `int`. -/
def stripSpace (cs : List Char) : List Char :=
  ((cs.dropWhile isIntSpace).reverse.dropWhile isIntSpace).reverse

/-- `int(s)`; `none` for a `ValueError`. -/
def parseInt (cs : List Char) : Option ℤ :=
  match stripSpace cs with
  | '-' :: ds => (parseNat ds).map (fun n => -(n : ℤ))
  | '+' :: ds => (parseNat ds).map (fun n => (n : ℤ))
  | ds => (parseNat ds).map (fun n => (n : ℤ))

/-- `s.split(sep)[-1]`: what follows the last separator. -/
def lastPart (sep : Char) (cs : List Char) : List Char :=
  (cs.reverse.takeWhile (fun c => c ≠ sep)).reverse

example : parseInt " -1_0".toList = some (-10) := by decide
example : parseInt "1__0".toList = none := by decide
example : lastPart '_' "layer_12".toList = "12".toList := by decide

end AwareKV
