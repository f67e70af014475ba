import AwareKV.Lib.Py
import Mathlib.Tactic.Ring

/-!
# AwareKV.Lib.Bytes — fixed-width integers

`leBytes k v` are the low `k` bytes of `v`, `leNat` reads bytes back; `beBytes` and `beNat` have the
most significant byte first.  `packU32` is the `I` field of `struct.pack` (values outside `[0, 2^32)`
are refused), and `unpackU32s` reads such fields in a row; `packNet` and `unpackNet` are the unsigned
fields in network order, `k` bytes wide.  `toWords` and `ofWords` are `numpy.frombuffer` and
`ndarray.tobytes` for 16-bit elements.
-/

namespace AwareKV

/-- The low `k` bytes of `v`, least significant first. -/
def leBytes : ℕ → ℕ → List UInt8
  | 0, _ => []
  | k + 1, v => UInt8.ofNat v :: leBytes k (v / 256)

/-- The number that the bytes stand for. -/
def leNat : List UInt8 → ℕ
  | [] => 0
  | b :: bs => b.toNat + 256 * leNat bs

@[simp] theorem leBytes_length (k v : ℕ) : (leBytes k v).length = k := by
  induction k generalizing v with
  | zero => rfl
  | succ k ih => simp [leBytes, ih]

theorem leNat_leBytes (k v : ℕ) : leNat (leBytes k v) = v % 256 ^ k := by
  induction k generalizing v with
  | zero => simp [leBytes, leNat, Nat.mod_one]
  | succ k ih =>
    have hb : (UInt8.ofNat v).toNat = v % 256 := by simp
    rw [leBytes, leNat, ih, hb, Nat.pow_succ, Nat.mul_comm (256 ^ k) 256, Nat.mod_mul]

/-- `struct.pack("<I", v)`; what does not fit into a C `unsigned long` either has a text of its own. -/
def packU32 (v : ℤ) : Py (List UInt8) :=
  if 0 ≤ v ∧ v < 2 ^ 32 then .ok (leBytes 4 v.toNat)
  else if 0 ≤ v ∧ v < 2 ^ 64 then .error ⟨.structError, "'I' format requires 0 <= number <= 4294967295"⟩
  else .error ⟨.structError, "argument out of range"⟩

theorem packU32_eq_ok_iff {v : ℤ} {bs : List UInt8} :
    packU32 v = .ok bs ↔ (0 ≤ v ∧ v < 2 ^ 32) ∧ leBytes 4 v.toNat = bs := by
  unfold packU32
  split_ifs with h hlong
  · rw [Except.ok.injEq, and_iff_right h]
  · exact iff_of_false (fun he => by cases he) (fun hp => h hp.1)
  · exact iff_of_false (fun he => by cases he) (fun hp => h hp.1)

/-! ## Fields in a row -/

/-- `n` fields of `k` bytes, read one after the other. -/
def readFields (k : ℕ) : ℕ → List UInt8 → List ℕ
  | 0, _ => []
  | n + 1, data => leNat (data.take k) :: readFields k n (data.drop k)

/-- Fields of one width have as many bytes in all. -/
theorem length_flatMap_leBytes {α : Type} (k : ℕ) (f : α → ℕ) (xs : List α) :
    (xs.flatMap fun x => leBytes k (f x)).length = k * xs.length := by
  induction xs with
  | nil => rfl
  | cons x xs ih =>
    rw [List.flatMap_cons, List.length_append, leBytes_length, ih, List.length_cons]
    ring

/-- **Reading the fields back** gives numbers that fit them. -/
theorem readFields_flatMap {k : ℕ} {vs : List ℕ} (h : ∀ v ∈ vs, v < 256 ^ k) :
    readFields k vs.length (vs.flatMap (leBytes k)) = vs := by
  induction vs with
  | nil => rfl
  | cons v vs ih =>
    obtain ⟨hv, hvs⟩ := List.forall_mem_cons.mp h
    have htake : (leBytes k v ++ vs.flatMap (leBytes k)).take k = leBytes k v :=
      List.take_left' (leBytes_length k v)
    have hdrop : (leBytes k v ++ vs.flatMap (leBytes k)).drop k = vs.flatMap (leBytes k) :=
      List.drop_left' (leBytes_length k v)
    rw [List.flatMap_cons, List.length_cons, readFields, htake, hdrop, ih hvs, leNat_leBytes,
      Nat.mod_eq_of_lt hv]

/-- The fields by their offsets. -/
theorem readFields_eq (k n : ℕ) (data : List UInt8) :
    readFields k n data = (List.range n).map fun i => leNat ((data.drop (k * i)).take k) := by
  induction n generalizing data with
  | zero => rfl
  | succ n ih =>
    rw [readFields, ih, List.range_succ_eq_map, List.map_cons, List.map_map, Nat.mul_zero, List.drop_zero]
    refine congrArg _ (List.map_congr_left fun i _ => ?_)
    show leNat (((data.drop k).drop (k * i)).take k) = leNat ((data.drop (k * (i + 1))).take k)
    rw [List.drop_drop, Nat.mul_succ, Nat.add_comm]

/-- `struct.unpack("<" + "I" * n, data)`. -/
def unpackU32s (n : ℕ) (data : List UInt8) : Py (List ℤ) :=
  if data.length = 4 * n then .ok ((readFields 4 n data).map Int.ofNat)
  else .error ⟨.structError, "unpack requires a buffer of " ++ toString (4 * n) ++ " bytes"⟩

/-- **Unpacking inverts packing.** -/
theorem unpackU32s_flatMap {vs : List ℤ} (h : ∀ v ∈ vs, 0 ≤ v ∧ v < 2 ^ 32) :
    unpackU32s vs.length (vs.flatMap fun v => leBytes 4 v.toNat) = .ok vs := by
  have hfields : readFields 4 vs.length (vs.flatMap fun v => leBytes 4 v.toNat) = vs.map Int.toNat := by
    have hfit : ∀ n ∈ vs.map Int.toNat, n < 256 ^ 4 := by
      intro n hn
      obtain ⟨v, hv, rfl⟩ := List.mem_map.mp hn
      have hlt := (h v hv).2
      omega
    have hread := readFields_flatMap hfit
    rwa [List.length_map, List.flatMap_map] at hread
  have hback : (vs.map Int.toNat).map Int.ofNat = vs := by
    rw [List.map_map]
    exact (List.map_congr_left fun v hv => Int.toNat_of_nonneg (h v hv).1).trans (List.map_id vs)
  rw [unpackU32s, if_pos (length_flatMap_leBytes 4 Int.toNat vs), hfields, hback]

/-! ## Network order -/

/-- The low `k` bytes of `v`, most significant first. -/
def beBytes (k v : ℕ) : List UInt8 := (leBytes k v).reverse

/-- The number that the bytes stand for, most significant first. -/
def beNat (bs : List UInt8) : ℕ := leNat bs.reverse

@[simp] theorem beBytes_length (k v : ℕ) : (beBytes k v).length = k := by
  rw [beBytes, List.length_reverse, leBytes_length]

theorem beNat_beBytes {k v : ℕ} (h : v < 256 ^ k) : beNat (beBytes k v) = v := by
  rw [beNat, beBytes, List.reverse_reverse, leNat_leBytes, Nat.mod_eq_of_lt h]

/-- `struct.pack("!" + code, n)` for a field of `k` bytes. -/
def packNet (code : String) (k n : ℕ) : Py (List UInt8) :=
  if n < 256 ^ k then .ok (beBytes k n)
  else .error ⟨.structError, "'" ++ code ++ "' format requires 0 <= number <= " ++ toString (256 ^ k - 1)⟩

/-- `struct.unpack("!" + code, data)[0]` for a field of `k` bytes. -/
def unpackNet (k : ℕ) (data : List UInt8) : Py ℕ :=
  if data.length = k then .ok (beNat data)
  else .error ⟨.structError, "unpack requires a buffer of " ++ toString k ++ " bytes"⟩

theorem packNet_of_lt {k n : ℕ} (code : String) (h : n < 256 ^ k) : packNet code k n = .ok (beBytes k n) :=
  if_pos h

theorem packNet_eq_ok {code : String} {k n : ℕ} {bs : List UInt8} (h : packNet code k n = .ok bs) :
    n < 256 ^ k ∧ bs = beBytes k n := by
  unfold packNet at h
  split at h
  · next hlt => exact ⟨hlt, (Except.ok.inj h).symm⟩
  · cases h

/-- Unpacking inverts packing. -/
theorem unpackNet_beBytes {k n : ℕ} (h : n < 256 ^ k) : unpackNet k (beBytes k n) = .ok n := by
  rw [unpackNet, if_pos (beBytes_length k n), beNat_beBytes h]

/-! ## 16-bit elements -/

/-- The bytes of 16-bit elements, in order. -/
def ofWords (ws : List UInt16) : List UInt8 := ws.flatMap (fun w => leBytes 2 w.toNat)

/-- Bytes as 16-bit elements; an odd length is refused. -/
def toWords : List UInt8 → Py (List UInt16)
  | [] => .ok []
  | [_] => .error ⟨.valueError, "buffer size must be a multiple of element size"⟩
  | a :: b :: bs => do
    let ws ← toWords bs
    return UInt16.ofNat (leNat [a, b]) :: ws

@[simp] theorem ofWords_length (ws : List UInt16) : (ofWords ws).length = 2 * ws.length := by
  induction ws with
  | nil => rfl
  | cons w ws ih =>
    rw [ofWords, List.flatMap_cons, List.length_append, leBytes_length, ← ofWords, ih,
      List.length_cons]
    ring

theorem toWords_length : ∀ {bs : List UInt8} {ws : List UInt16}, toWords bs = .ok ws →
    bs.length = 2 * ws.length
  | [], ws, h => by cases h; rfl
  | [_], _, h => by cases h
  | a :: b :: bs, ws, h => by
    obtain ⟨ws', hws', h⟩ := Py.bind_eq_ok.mp h
    cases h
    have := toWords_length hws'
    simp only [List.length_cons]
    omega

/-- Bytes in pairs can be read. -/
theorem toWords_of_length : ∀ {bs : List UInt8} {n : ℕ}, bs.length = 2 * n → ∃ ws, toWords bs = .ok ws
  | [], _, _ => ⟨[], rfl⟩
  | [_], n, h => by
    rw [List.length_singleton] at h
    omega
  | a :: b :: bs, n, h => by
    have hbs : bs.length = 2 * (n - 1) := by
      simp only [List.length_cons] at h
      omega
    obtain ⟨ws, hws⟩ := toWords_of_length hbs
    exact ⟨UInt16.ofNat (leNat [a, b]) :: ws, by rw [toWords, hws]; rfl⟩

/-- Reading back what was written gives the elements. -/
theorem toWords_ofWords (ws : List UInt16) : toWords (ofWords ws) = .ok ws := by
  induction ws with
  | nil => rfl
  | cons w ws ih =>
    have hcons : ofWords (w :: ws) = UInt8.ofNat w.toNat :: UInt8.ofNat (w.toNat / 256) :: ofWords ws :=
      rfl
    have hw : UInt16.ofNat (leNat (leBytes 2 w.toNat)) = w := by
      rw [leNat_leBytes, Nat.mod_eq_of_lt (by have := w.toNat_lt; omega)]
      exact UInt16.ofNat_toNat
    rw [hcons, toWords, ih]
    show Except.ok (UInt16.ofNat (leNat (leBytes 2 w.toNat)) :: ws) = _
    rw [hw]

/-- Two bytes are the bytes of their number. -/
theorem leBytes_leNat_pair (a b : UInt8) : leBytes 2 (UInt16.ofNat (leNat [a, b])).toNat = [a, b] := by
  have ha := a.toNat_lt
  have hb := b.toNat_lt
  have hnum : (UInt16.ofNat (leNat [a, b])).toNat = a.toNat + 256 * b.toNat := by
    rw [UInt16.toNat_ofNat']
    simp only [leNat]
    omega
  have hhigh : (a.toNat + 256 * b.toNat) / 256 = b.toNat := by omega
  rw [hnum]
  simp only [leBytes, hhigh, UInt8.ofNat_toNat]
  congr 1
  rw [← UInt8.toNat_inj, UInt8.toNat_ofNat']
  omega

/-- Writing what was read gives the bytes. -/
theorem ofWords_of_toWords : ∀ {bs : List UInt8} {ws : List UInt16}, toWords bs = .ok ws → ofWords ws = bs
  | [], ws, h => by cases h; rfl
  | [_], _, h => by cases h
  | a :: b :: bs, ws, h => by
    obtain ⟨ws', hws', h⟩ := Py.bind_eq_ok.mp h
    cases h
    have ih := ofWords_of_toWords hws'
    rw [ofWords, List.flatMap_cons, ← ofWords, ih, leBytes_leNat_pair]
    rfl

/-- **Bytes and elements correspond**: exactly the bytes of elements are read, and as these. -/
theorem toWords_eq_ok_iff {bs : List UInt8} {ws : List UInt16} : toWords bs = .ok ws ↔ ofWords ws = bs := by
  refine ⟨ofWords_of_toWords, ?_⟩
  rintro rfl
  exact toWords_ofWords ws

end AwareKV
