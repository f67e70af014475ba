import Mathlib.Data.List.Basic
import Mathlib.Order.Basic

/-!
# AwareKV.Lib.ByteStream — receiving from a stream of bytes

A `Socket` is the bytes that a peer sends until it closes the connection, and the sizes of the pieces
in which they arrive: `recv n` returns between 1 and `n` of the next bytes, any number of them, or
nothing at the end of the stream.  `recvUntil total data` receives until it has `total` bytes.

* `recvUntil_eq`: the result does not depend on the pieces, and no byte beyond `total` is taken.
* `recvUntil_calls`: there are not more calls than bytes.
-/

namespace AwareKV

/-- A connection: the bytes not yet received, and how many bytes are there when `recv` is called for
the `i`-th time. -/
structure Socket where
  unread : List UInt8
  picks : ℕ → ℕ
  calls : ℕ := 0

namespace Socket

/-- How many bytes the next `recv n` asks of the stream. -/
def pick (sock : Socket) (n : ℕ) : ℕ := min (max 1 (sock.picks sock.calls)) n

/-- `sock.recv(n)`. -/
def recv (sock : Socket) (n : ℕ) : List UInt8 × Socket :=
  (sock.unread.take (sock.pick n),
    { sock with unread := sock.unread.drop (sock.pick n), calls := sock.calls + 1 })

theorem pick_le (sock : Socket) (n : ℕ) : sock.pick n ≤ n := Nat.min_le_right _ _

theorem pick_pos (sock : Socket) {n : ℕ} (hn : 0 < n) : 0 < sock.pick n := by
  unfold pick
  omega

@[simp] theorem recv_data (sock : Socket) (n : ℕ) :
    (sock.recv n).1 = sock.unread.take (sock.pick n) := rfl

@[simp] theorem recv_unread (sock : Socket) (n : ℕ) :
    (sock.recv n).2.unread = sock.unread.drop (sock.pick n) := rfl

@[simp] theorem recv_calls (sock : Socket) (n : ℕ) : (sock.recv n).2.calls = sock.calls + 1 := rfl

@[simp] theorem recv_picks (sock : Socket) (n : ℕ) : (sock.recv n).2.picks = sock.picks := rfl

/-- Between 1 and `n` of the next bytes, or nothing at the end. -/
theorem recv_length (sock : Socket) {n : ℕ} (hn : 0 < n) :
    (sock.recv n).1.length ≤ n ∧ ((sock.recv n).1 = [] ↔ sock.unread = []) := by
  have hpos := sock.pick_pos hn
  constructor
  · rw [recv_data, List.length_take]
    exact Nat.le_trans (Nat.min_le_left _ _) (sock.pick_le n)
  · rw [recv_data, List.take_eq_nil_iff]
    exact or_iff_right (Nat.ne_of_gt hpos)

/-- Receive pieces of at most `cap` bytes until there are `total` bytes; `none` if the stream ends. -/
def recvUntil (cap total : ℕ) (data : List UInt8) (sock : Socket) : Option (List UInt8) × Socket :=
  if _h : data.length < total then
    let r := sock.recv (min cap (total - data.length))
    if _hr : r.1 = [] then (none, r.2) else recvUntil cap total (data ++ r.1) r.2
  else (some data, sock)
termination_by total - data.length
decreasing_by
  have : 0 < r.1.length := List.length_pos_iff.mpr _hr
  rw [List.length_append]
  show total - (data.length + r.1.length) < _
  omega

theorem recvUntil_picks (cap total : ℕ) (data : List UInt8) (sock : Socket) :
    (recvUntil cap total data sock).2.picks = sock.picks := by
  fun_induction recvUntil cap total data sock with
  | case1 data sock hlt r hend => rfl
  | case2 data sock hlt r hmore ih => exact ih
  | case3 data sock hge => rfl

variable {cap : ℕ} (total : ℕ)

/-- **Receiving a given number of bytes** takes exactly these, whatever the pieces. -/
theorem recvUntil_eq (hcap : 0 < cap) (data : List UInt8) (sock : Socket) :
    (recvUntil cap total data sock).1 =
        (if total - data.length ≤ sock.unread.length then
          some (data ++ sock.unread.take (total - data.length)) else none) ∧
      (recvUntil cap total data sock).2.unread = sock.unread.drop (total - data.length) := by
  fun_induction recvUntil cap total data sock with
  | case1 data sock hlt r hend =>
    have hnone : sock.unread = [] := (sock.recv_length (by omega)).2.mp hend
    rw [if_neg (by rw [hnone]; simp; omega), hnone]
    simp [r, hnone]
  | case2 data sock hlt r hmore ih =>
    have hpick : sock.pick (min cap (total - data.length)) ≤ total - data.length :=
      Nat.le_trans (sock.pick_le _) (Nat.min_le_right _ _)
    obtain ⟨k, hk⟩ : ∃ k, sock.pick (min cap (total - data.length)) = k := ⟨_, rfl⟩
    have hdata : r.1 = sock.unread.take k := by rw [← hk]; rfl
    have hrest : r.2.unread = sock.unread.drop k := by rw [← hk]; rfl
    rw [hk] at hpick
    rw [ih.1, ih.2, hdata, hrest, List.length_append, List.length_take, List.length_drop, List.append_assoc]
    by_cases hfull : k ≤ sock.unread.length
    · -- the piece is whole: what is missing is shorter by `k`
      have hmissing : total - data.length = k + (total - (data.length + min k sock.unread.length)) := by
        omega
      have htake : sock.unread.take k ++ (sock.unread.drop k).take
          (total - (data.length + min k sock.unread.length)) = sock.unread.take (total - data.length) := by
        rw [hmissing, ← List.take_add]
      have hdrop : (sock.unread.drop k).drop (total - (data.length + min k sock.unread.length)) =
          sock.unread.drop (total - data.length) := by
        rw [hmissing, ← List.drop_drop]
      rw [htake, hdrop]
      refine ⟨if_congr ?_ rfl rfl, rfl⟩
      omega
    · -- the stream ends within the piece
      have hnil : sock.unread.drop k = [] := List.drop_eq_nil_of_le (by omega)
      have hnil' : sock.unread.drop (total - data.length) = [] := List.drop_eq_nil_of_le (by omega)
      rw [if_neg (by omega), if_neg (by omega), hnil, hnil', List.drop_nil]
      exact ⟨rfl, rfl⟩
  | case3 data sock hge =>
    have hzero : total - data.length = 0 := by omega
    simp [hzero]

/-- **There are not more calls than bytes**, and one to see the end. -/
theorem recvUntil_calls (cap : ℕ) (data : List UInt8) (sock : Socket) :
    (recvUntil cap total data sock).2.calls + (recvUntil cap total data sock).2.unread.length ≤
      sock.calls + sock.unread.length + 1 := by
  fun_induction recvUntil cap total data sock with
  | case1 data sock hlt r hend =>
    simp only [r, recv_calls, recv_unread, List.length_drop]
    omega
  | case2 data sock hlt r hmore ih =>
    have hne : 0 < r.1.length := List.length_pos_iff.mpr hmore
    have hlen : r.1.length + r.2.unread.length = sock.unread.length := by
      simp only [r, recv_data, recv_unread, List.length_take, List.length_drop]
      omega
    have hcalls : r.2.calls = sock.calls + 1 := rfl
    refine Nat.le_trans ih ?_
    omega
  | case3 data sock hge => exact Nat.le_succ _

end Socket

end AwareKV
