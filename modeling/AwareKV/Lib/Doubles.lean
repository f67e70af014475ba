import AwareKV.Lib.Py

/-!
# AwareKV.Lib.Doubles — arithmetic on Python's floats, as a parameter

A float is the rational that it denotes; those that denote none (the infinities, NaN, the negative zero)
are some other rationals.  `DoubleOps` are the operations, about which nothing is assumed: how they round,
overflow, compare and raise is up to them.  `DoubleOps.exact` rounds nothing and raises only for a zero
divisor, and `DoubleOps.bounded` also refuses the integers that no float comes near to.
-/

namespace AwareKV

/-- The operations on floats that a program computes with. -/
structure DoubleOps where
  /-- the float of a literal -/
  ofRat : ℚ → ℚ
  /-- `float(n)` -/
  ofInt : ℤ → Py ℚ
  add : ℚ → ℚ → ℚ
  mul : ℚ → ℚ → ℚ
  div : ℚ → ℚ → Py ℚ
  /-- `x < y` -/
  lt : ℚ → ℚ → Bool
  /-- `x >= y` -/
  ge : ℚ → ℚ → Bool
  /-- `int(x)` -/
  toInt : ℚ → Py ℤ

namespace DoubleOps

/-- Exact arithmetic. -/
def exact : DoubleOps where
  ofRat q := q
  ofInt n := .ok n
  add x y := x + y
  mul x y := x * y
  div := trueDiv
  lt x y := x < y
  ge x y := y ≤ x
  toInt q := .ok (intOfRat q)

@[simp] theorem exact_lt (x y : ℚ) : exact.lt x y = true ↔ x < y := decide_eq_true_iff

@[simp] theorem exact_ge (x y : ℚ) : exact.ge x y = true ↔ y ≤ x := decide_eq_true_iff

@[simp] theorem exact_toInt (q : ℚ) : exact.toInt q = .ok (intOfRat q) := rfl

/-- Exact arithmetic on the integers for which there is a float: those nearer to `2 ^ 1024` than to any float
raise. -/
def bounded : DoubleOps :=
  { exact with
    ofInt := fun n =>
      if n.natAbs < 2 ^ 1024 - 2 ^ 970 then .ok n
      else .error ⟨.overflowError, "int too large to convert to float"⟩ }

instance : Inhabited DoubleOps := ⟨bounded⟩

end DoubleOps

end AwareKV
