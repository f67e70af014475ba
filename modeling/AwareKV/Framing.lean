import AwareKV.Lib.ByteStream
import AwareKV.Protocol

/-!
# AwareKV.Framing — reading frames off a connection

Translation of `_recv_frame` of `transport/data_server.py` and of `transport/data_client.py`.

* `recvFrame_sound`: what is returned is the next frame of the stream, and nothing more is consumed.
* `recvFrame_complete_iff`: a frame that is there is returned if and only if the first `recv` returns
  the whole fixed header.
-/

namespace AwareKV

/-! ## `_recv_frame` -/

/-- The lengths that a fixed header announces, with its own. -/
def totalLen (header : Bytes) : Py ℕ := do
  let headerLen ← unpackNet 4 (slice header 6 10)
  let payloadLen ← unpackNet 4 (slice header 10 14)
  return 14 + headerLen + payloadLen

/-- The body of both versions of `_recv_frame`. -/
def recvFrameBody (sock : Socket) : Py (Option Bytes) × Socket :=
  let r := sock.recv 14
  if r.1.length < 14 then (.ok none, r.2)
  else
    match totalLen r.1 with
    | .error e => (.error e, r.2)
    | .ok total =>
      let r := r.2.recvUntil 4096 total r.1
      (.ok r.1, r.2)

/-- `DataServer._recv_frame`. -/
def DataServer.recvFrame (sock : Socket) : Py (Option Bytes) × Socket := recvFrameBody sock

/-- `DataClient._recv_frame`: every exception is caught. -/
def DataClient.recvFrame (sock : Socket) : Py (Option Bytes) × Socket :=
  match recvFrameBody sock with
  | (.error _, sock) => (.ok none, sock)
  | (.ok frame, sock) => (.ok frame, sock)

/-- Receiving leaves the pieces as they are. -/
theorem recvFrameBody_picks (sock : Socket) : (recvFrameBody sock).2.picks = sock.picks := by
  unfold recvFrameBody
  dsimp only
  split
  · rfl
  · split
    · rfl
    · exact Socket.recvUntil_picks ..

/-! ## Frames of a stream -/

/-- The length of the frame that the bytes begin with, as its fixed header says. -/
def frameLen (bs : Bytes) : ℕ := 14 + beNat (slice bs 6 10) + beNat (slice bs 10 14)

/-- A complete frame. -/
def IsFrame (frame : Bytes) : Prop := 14 ≤ frame.length ∧ frameLen frame = frame.length

theorem slice_take {α : Type*} {xs : List α} {n a b : ℕ} (hb : b ≤ n) :
    slice (xs.take n) (a : ℕ) (b : ℕ) = slice xs (a : ℕ) (b : ℕ) := by
  rw [slice_nat, slice_nat, List.take_take, Nat.min_eq_left hb]

/-- Only the first 14 bytes matter. -/
theorem frameLen_take (bs : Bytes) : frameLen (bs.take 14) = frameLen bs := by
  have h6 : slice (bs.take 14) 6 10 = slice bs 6 10 := slice_take (a := 6) (b := 10) (by decide)
  have h10 : slice (bs.take 14) 10 14 = slice bs 10 14 := slice_take (a := 10) (b := 14) (by decide)
  rw [frameLen, frameLen, h6, h10]

theorem totalLen_eq {header : Bytes} (h : header.length = 14) : totalLen header = .ok (frameLen header) := by
  have hlen : ∀ a b : ℕ, a ≤ b → b ≤ 14 → (slice header a b).length = b - a := by
    intro a b hab hb
    rw [slice_nat, List.length_drop, List.length_take, h, Nat.min_eq_left hb]
  have h6 : (slice header 6 10).length = 4 := hlen 6 10 (by decide) (by decide)
  have h10 : (slice header 10 14).length = 4 := hlen 10 14 (by decide) (by decide)
  simp only [totalLen, unpackNet, h6, h10, if_true, Py.ok_bind]
  rfl

/-- The first `recv` returns all of the fixed header. -/
def HeaderWhole (sock : Socket) : Prop := (sock.recv 14).1.length = 14

theorem headerWhole_iff (sock : Socket) :
    HeaderWhole sock ↔ 14 ≤ sock.picks sock.calls ∧ 14 ≤ sock.unread.length := by
  unfold HeaderWhole
  rw [Socket.recv_data, List.length_take, Socket.pick]
  omega

theorem recvFrameBody_short {sock : Socket} (h : ¬ HeaderWhole sock) :
    recvFrameBody sock = (.ok none, (sock.recv 14).2) := by
  have hle := (sock.recv_length (by decide : 0 < 14)).1
  have hlt : (sock.recv 14).1.length < 14 := lt_of_le_of_ne hle h
  rw [recvFrameBody]
  exact if_pos hlt

theorem recvFrameBody_whole {sock : Socket} (h : HeaderWhole sock) :
    recvFrameBody sock =
      (.ok ((sock.recv 14).2.recvUntil 4096 (frameLen sock.unread) (sock.unread.take 14)).1,
        ((sock.recv 14).2.recvUntil 4096 (frameLen sock.unread) (sock.unread.take 14)).2) := by
  have hpick : sock.pick 14 = 14 := by
    have hpicks := ((headerWhole_iff sock).mp h).1
    rw [Socket.pick]
    omega
  have hdata : (sock.recv 14).1 = sock.unread.take 14 := by rw [Socket.recv_data, hpick]
  have htotal : totalLen (sock.recv 14).1 = .ok (frameLen sock.unread) := by
    rw [totalLen_eq h, hdata, frameLen_take]
  have hge : ¬ (sock.recv 14).1.length < 14 := Nat.not_lt.mpr (Nat.le_of_eq h.symm)
  simp only [recvFrameBody, if_neg hge, htotal]
  rw [hdata]

/-- **What `_recv_frame` returns and consumes** when the fixed header came whole, whatever the pieces
are in which the rest arrives. -/
theorem recvFrameBody_eq {sock : Socket} (h : HeaderWhole sock) :
    (recvFrameBody sock).1 =
        .ok (if frameLen sock.unread ≤ sock.unread.length then
          some (sock.unread.take (frameLen sock.unread)) else none) ∧
      (recvFrameBody sock).2.unread = sock.unread.drop (frameLen sock.unread) := by
  obtain ⟨hpicks, hlen⟩ := (headerWhole_iff sock).mp h
  have hpick : sock.pick 14 = 14 := by
    rw [Socket.pick]
    omega
  have hge : 14 ≤ frameLen sock.unread := by
    rw [frameLen]
    omega
  have htake : (sock.unread.take 14).length = 14 := by
    rw [List.length_take]
    omega
  obtain ⟨hres, hunread⟩ := Socket.recvUntil_eq (frameLen sock.unread) (show 0 < 4096 by decide)
    (sock.unread.take 14) (sock.recv 14).2
  obtain ⟨k, hk⟩ : ∃ k, frameLen sock.unread = 14 + k := ⟨_, (Nat.add_sub_cancel' hge).symm⟩
  rw [recvFrameBody_whole h, hres, hunread, htake, Socket.recv_unread, hpick, hk,
    Nat.add_sub_cancel_left, ← List.take_add, List.drop_drop, List.length_drop]
  refine ⟨congrArg Except.ok (if_congr ?_ rfl rfl), rfl⟩
  omega

/-- **`_recv_frame` terminates**, and the calls of `recv` are not many more than the bytes. -/
theorem recvFrameBody_calls (sock : Socket) :
    (recvFrameBody sock).2.calls ≤ sock.calls + sock.unread.length + 2 := by
  by_cases h : HeaderWhole sock
  · have hcalls := Socket.recvUntil_calls (frameLen sock.unread) 4096 (sock.unread.take 14) (sock.recv 14).2
    rw [recvFrameBody_whole h]
    simp only [Socket.recv_calls, Socket.recv_unread, List.length_drop] at hcalls ⊢
    omega
  · rw [recvFrameBody_short h, Socket.recv_calls]
    omega

/-- The client's version differs in nothing: no exception is raised. -/
theorem clientRecvFrame_eq (sock : Socket) : DataClient.recvFrame sock = DataServer.recvFrame sock := by
  have hok : ∃ r, (recvFrameBody sock).1 = .ok r := by
    by_cases h : HeaderWhole sock
    · exact ⟨_, (recvFrameBody_eq h).1⟩
    · exact ⟨none, by rw [recvFrameBody_short h]⟩
  obtain ⟨r, hr⟩ := hok
  obtain ⟨res, sock', hbody⟩ : ∃ res sock', recvFrameBody sock = (res, sock') := ⟨_, _, rfl⟩
  rw [hbody] at hr
  rw [DataClient.recvFrame, DataServer.recvFrame, hbody]
  cases hr
  rfl

/-! ## Soundness -/

/-- Successive calls that return frames. -/
inductive Receives (recv : Socket → Py (Option Bytes) × Socket) : Socket → List Bytes → Socket → Prop
  | nil (sock : Socket) : Receives recv sock [] sock
  | cons {sock next last : Socket} {b : Bytes} {bs : List Bytes} (h : recv sock = (.ok (some b), next))
      (hs : Receives recv next bs last) : Receives recv sock (b :: bs) last

/-- What is asked of reading frames. -/
structure FramingSound (recv : Socket → Py (Option Bytes) × Socket) : Prop where
  returned : ∀ (sock : Socket) (b : Bytes) (sock' : Socket), recv sock = (.ok (some b), sock') →
    frameLen sock.unread ≤ sock.unread.length ∧ b = sock.unread.take (frameLen sock.unread) ∧
      sock'.unread = sock.unread.drop (frameLen sock.unread)
  successive : ∀ (sock : Socket) (bs : List Bytes) (sock' : Socket), Receives recv sock bs sock' →
    sock.unread = bs.flatten ++ sock'.unread ∧
      ∀ (frames : List Bytes) (rest : Bytes), (∀ f ∈ frames, IsFrame f) → sock.unread = frames.flatten ++ rest →
        bs.take frames.length = frames.take bs.length
  terminates : ∀ sock : Socket, (recv sock).2.calls ≤ sock.calls + sock.unread.length + 2

/-- What `_recv_frame` returns is what the stream begins with. -/
theorem recvFrameBody_exact {sock sock' : Socket} {b : Bytes}
    (h : recvFrameBody sock = (.ok (some b), sock')) :
    frameLen sock.unread ≤ sock.unread.length ∧ b = sock.unread.take (frameLen sock.unread) ∧
      sock'.unread = sock.unread.drop (frameLen sock.unread) := by
  by_cases hwhole : HeaderWhole sock
  · obtain ⟨hres, hunread⟩ := recvFrameBody_eq hwhole
    rw [h] at hres hunread
    by_cases hlen : frameLen sock.unread ≤ sock.unread.length
    · rw [if_pos hlen] at hres
      exact ⟨hlen, Option.some.inj (Except.ok.inj hres), hunread⟩
    · rw [if_neg hlen] at hres
      cases hres
  · rw [recvFrameBody_short hwhole] at h
    cases h

/-- What is as long as the stream's fixed header says is a complete frame. -/
theorem isFrame_take {bs : Bytes} (h : frameLen bs ≤ bs.length) : IsFrame (bs.take (frameLen bs)) := by
  have hge : 14 ≤ frameLen bs := by
    rw [frameLen]
    omega
  have hlen : (bs.take (frameLen bs)).length = frameLen bs := List.length_take_of_le h
  have hsame : frameLen (bs.take (frameLen bs)) = frameLen bs := by
    rw [← frameLen_take, List.take_take, Nat.min_eq_left hge, frameLen_take]
  exact ⟨by rwa [hlen], hsame.trans hlen.symm⟩

/-- The frame that a stream begins with. -/
theorem frameLen_append {frame rest : Bytes} (h : IsFrame frame) : frameLen (frame ++ rest) = frame.length := by
  rw [← frameLen_take, List.take_append_of_le_length h.1, frameLen_take, h.2]

theorem receives_flatten {sock sock' : Socket} {bs : List Bytes} (h : Receives recvFrameBody sock bs sock') :
    sock.unread = bs.flatten ++ sock'.unread := by
  induction h with
  | nil sock => rfl
  | cons h hs ih =>
    obtain ⟨-, hb, hnext⟩ := recvFrameBody_exact h
    rw [List.flatten_cons, List.append_assoc, ← ih, hb, hnext, List.take_append_drop]

theorem receives_frames {sock sock' : Socket} {bs : List Bytes} (h : Receives recvFrameBody sock bs sock')
    {frames : List Bytes} {rest : Bytes} (hframes : ∀ f ∈ frames, IsFrame f)
    (hunread : sock.unread = frames.flatten ++ rest) : bs.take frames.length = frames.take bs.length := by
  induction h generalizing frames with
  | nil sock => rw [List.take_nil, List.length_nil, List.take_zero]
  | @cons sock next last b bs h hs ih =>
    cases frames with
    | nil => rfl
    | cons f frames =>
      obtain ⟨-, hb, hnext⟩ := recvFrameBody_exact h
      rw [List.flatten_cons, List.append_assoc] at hunread
      rw [hunread, frameLen_append (hframes f (by simp))] at hb hnext
      rw [List.take_left] at hb
      rw [List.drop_left] at hnext
      have hrest := ih (fun g hg => hframes g (List.mem_cons_of_mem f hg)) hnext
      simp only [List.length_cons, List.take_succ_cons, hrest, hb]

/-- **Framing soundness**, for the server and for the client. -/
theorem recvFrame_sound : FramingSound DataServer.recvFrame ∧ FramingSound DataClient.recvFrame := by
  have hclient : DataClient.recvFrame = DataServer.recvFrame := funext clientRecvFrame_eq
  have hsound : FramingSound DataServer.recvFrame :=
    { returned := fun _ _ _ h => recvFrameBody_exact h
      successive := fun _ _ _ h =>
        ⟨receives_flatten h, fun _ _ hframes hunread => receives_frames h hframes hunread⟩
      terminates := recvFrameBody_calls }
  rw [hclient]
  exact ⟨hsound, hsound⟩

/-! ## Completeness -/

/-- What `encode_frame` writes is a complete frame. -/
theorem isFrame_encodeFrame {h : FrameHeader} {payload frame : Bytes}
    (hframe : encodeFrame h payload = .ok frame) : IsFrame frame := by
  obtain ⟨json, -, hjlt, hplt, rfl⟩ := encodeFrame_eq_ok.mp hframe
  have hjson : beNat (beBytes 4 json.length) = json.length := beNat_beBytes hjlt
  have hpayload : beNat (beBytes 4 payload.length) = payload.length := beNat_beBytes hplt
  have hlen := framePrefix_length json.length payload.length
  constructor
  · rw [List.length_append, List.length_append, hlen]
    omega
  · rw [frameLen, List.append_assoc, slice_headerLen, slice_payloadLen, hjson, hpayload,
      List.length_append, List.length_append, hlen, Nat.add_assoc]

/-- **Framing completeness holds exactly when** the transport has all 14 bytes of the fixed header at
the first `recv`. -/
theorem recvFrame_complete_iff {sock : Socket} {frame rest : Bytes} (hframe : IsFrame frame)
    (hunread : sock.unread = frame ++ rest) :
    ((DataServer.recvFrame sock).1 = .ok (some frame) ↔ 14 ≤ sock.picks sock.calls) ∧
      ((DataClient.recvFrame sock).1 = .ok (some frame) ↔ 14 ≤ sock.picks sock.calls) := by
  have hlen : 14 ≤ sock.unread.length := by
    rw [hunread, List.length_append]
    exact hframe.1.trans (Nat.le_add_right _ _)
  have hserver : (DataServer.recvFrame sock).1 = .ok (some frame) ↔ 14 ≤ sock.picks sock.calls := by
    constructor
    · intro h
      by_contra hpicks
      have hshort : ¬ HeaderWhole sock := fun hwhole => hpicks ((headerWhole_iff sock).mp hwhole).1
      rw [DataServer.recvFrame, recvFrameBody_short hshort] at h
      cases h
    · intro hpicks
      have hframeLen : frameLen sock.unread = frame.length := by
        rw [hunread, frameLen_append hframe]
      have hfits : frame.length ≤ sock.unread.length := by
        rw [hunread, List.length_append]
        exact Nat.le_add_right _ _
      rw [DataServer.recvFrame, (recvFrameBody_eq ((headerWhole_iff sock).mpr ⟨hpicks, hlen⟩)).1,
        hframeLen, if_pos hfits, hunread, List.take_left]
  exact ⟨hserver, by rw [clientRecvFrame_eq]; exact hserver⟩

/-- The frame of `test_frame_encoding_decoding` with a shorter payload. -/
def testFrame : Bytes :=
  match encodeFrame testHeader [0x74, 0x65] with
  | .ok frame => frame
  | .error _ => []

theorem encode_testFrame : encodeFrame testHeader [0x74, 0x65] = .ok testFrame := by decide +kernel

theorem testFrame_isFrame : IsFrame testFrame := isFrame_encodeFrame encode_testFrame

/-- A stream of that frame and one more byte, in pieces of `k` bytes. -/
def testSocket (k : ℕ) : Socket := ⟨testFrame ++ [0x44], fun _ => k, 0⟩

theorem testSocket_unread (k : ℕ) : (testSocket k).unread = testFrame ++ [0x44] := rfl

theorem recvFrame_header_whole :
    ((DataServer.recvFrame (testSocket 14)).1 = .ok (some testFrame) ↔ 14 ≤ 14) ∧
      ((DataClient.recvFrame (testSocket 14)).1 = .ok (some testFrame) ↔ 14 ≤ 14) :=
  recvFrame_complete_iff testFrame_isFrame (testSocket_unread 14)

/-- A frame that arrives in pieces of seven bytes is lost. -/
theorem recvFrame_header_split :
    ¬ ∀ (sock : Socket) (frame rest : Bytes), IsFrame frame → sock.unread = frame ++ rest →
      (DataServer.recvFrame sock).1 = .ok (some frame) ∧ (DataClient.recvFrame sock).1 = .ok (some frame) := by
  intro h
  have hframe := (h (testSocket 7) testFrame [0x44] testFrame_isFrame (testSocket_unread 7)).1
  have hshort : ¬ HeaderWhole (testSocket 7) := fun hwhole =>
    absurd ((headerWhole_iff _).mp hwhole).1 (by decide)
  rw [DataServer.recvFrame, recvFrameBody_short hshort] at hframe
  cases hframe

end AwareKV
