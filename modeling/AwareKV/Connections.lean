import AwareKV.Deployment
import AwareKV.Framing

/-!
# AwareKV.Connections — the data server's connections as streams of bytes

Translation of the loop of `_handle_client` of `transport/data_server.py`: a thread for each connection,
which takes a frame off the stream, handles it and sends the reply, until something ends the connection.
The threads share the files.  A pass of a loop is atomic; passes of different threads come in any order.

* `connections_serve_frames`: the server handles whole requests, those of a connection in their order, and
  its files are what handling them leaves.
* `pieces_irrelevant`: the pieces in which the bytes arrive do not matter, if the fixed headers come whole.
* `client_requests_served`: the client's requests are all answered, however many it sends at once.
* `call_over_bytes`: a call of the client over such a connection is one exchange, or none.
-/

namespace AwareKV

open DataServer

/-! ## The loop of a connection -/

/-- A connection: what the client sends, what was sent to it, and whether the socket is closed. -/
structure Connection where
  sock : Socket
  sent : Bytes := []
  closed : Bool := false

/-- What a pass of a loop meets: the file operations that raise, and after how many bytes `sendall` raises,
if it does. -/
structure Turn where
  faults : IoFaults := {}
  sendFails : Option ℕ := none

namespace Connection

/-- The end of the loop, which closes the socket. -/
def close (sock : Socket) (c : Connection) : Connection := { c with sock := sock, closed := true }

/-- `client_socket.sendall(response_data)`; without a reply, an exception has ended the loop before. -/
def respond (sock : Socket) (turn : Turn) (reply : Option Bytes) (c : Connection) : Connection :=
  match reply, turn.sendFails with
  | none, _ => c.close sock
  | some data, none => { c with sock := sock, sent := c.sent ++ data }
  | some data, some n => { c with sock := sock, sent := c.sent ++ data.take n, closed := true }

/-- The frame that the next pass takes off the stream, if it does not end the loop. -/
def next (c : Connection) : Option Bytes :=
  if c.closed then none
  else
    match (recvFrame c.sock).1 with
    | .ok (some frame) => if frame = [] then none else some frame
    | _ => none

variable (rt : Runtime) (b : LocalDiskBackend)

/-- A pass of the loop of `_handle_client`. -/
def pass (turn : Turn) (files : Files b.dirs) (c : Connection) : Files b.dirs × Connection :=
  if c.closed then (files, c)
  else
    match recvFrame c.sock with
    | (.error _, sock) => (files, c.close sock)
    | (.ok none, sock) => (files, c.close sock)
    | (.ok (some frame), sock) =>
      if frame = [] then (files, c.close sock)
      else
        let r := answerFrame rt b turn.faults files frame
        (r.1, c.respond sock turn r.2)

/-- A closed connection stays as it is. -/
theorem pass_closed {c : Connection} (h : c.closed = true) (turn : Turn) (files : Files b.dirs) :
    pass rt b turn files c = (files, c) := if_pos h

/-- A pass that takes a frame handles it. -/
theorem pass_next {c : Connection} {frame : Bytes} (h : c.next = some frame) (turn : Turn)
    (files : Files b.dirs) :
    pass rt b turn files c =
      ((answerFrame rt b turn.faults files frame).1,
        c.respond (recvFrame c.sock).2 turn (answerFrame rt b turn.faults files frame).2) := by
  obtain ⟨res, sock, hrecv⟩ : ∃ res sock, recvFrame c.sock = (res, sock) := ⟨_, _, rfl⟩
  unfold next at h
  rw [hrecv] at h
  unfold pass
  rw [hrecv]
  split_ifs at h with hclosed
  rw [if_neg hclosed]
  match res, h with
  | .ok (some f), h =>
    have h : (if f = [] then none else some f) = some frame := h
    split_ifs at h with hf
    cases h
    exact if_neg hf

/-- A pass that takes no frame ends the loop. -/
theorem pass_end {c : Connection} (h : c.next = none) (turn : Turn) (files : Files b.dirs) :
    ∃ sock, pass rt b turn files c = (files, c.close sock) := by
  obtain ⟨res, sock, hrecv⟩ : ∃ res sock, recvFrame c.sock = (res, sock) := ⟨_, _, rfl⟩
  by_cases hclosed : c.closed = true
  · refine ⟨c.sock, ?_⟩
    rw [pass_closed rt b hclosed, close, ← hclosed]
  · unfold next at h
    rw [if_neg hclosed, hrecv] at h
    unfold pass
    rw [if_neg hclosed, hrecv]
    match res, h with
    | .error e, _ => exact ⟨sock, rfl⟩
    | .ok none, _ => exact ⟨sock, rfl⟩
    | .ok (some f), h =>
      have h : (if f = [] then none else some f) = none := h
      split_ifs at h with hf
      exact ⟨sock, if_pos hf⟩

/-- **The frame that a pass takes** is the next one of the stream. -/
theorem next_frame {c : Connection} {frame : Bytes} (h : c.next = some frame) :
    IsFrame frame ∧ c.closed = false ∧ c.sock.unread = frame ++ (recvFrame c.sock).2.unread := by
  obtain ⟨res, sock, hrecv⟩ : ∃ res sock, recvFrame c.sock = (res, sock) := ⟨_, _, rfl⟩
  unfold next at h
  rw [hrecv] at h ⊢
  split_ifs at h with hclosed
  match res, h with
  | .ok (some f), h =>
    have h : (if f = [] then none else some f) = some frame := h
    split_ifs at h with hf
    cases h
    obtain ⟨hlen, hframe, hrest⟩ := recvFrameBody_exact hrecv
    refine ⟨?_, by simpa using hclosed, ?_⟩
    · rw [hframe]
      exact isFrame_take hlen
    · rw [hframe, hrest, List.take_append_drop]

@[simp] theorem close_sent (sock : Socket) (c : Connection) : (c.close sock).sent = c.sent := rfl

@[simp] theorem close_closed (sock : Socket) (c : Connection) : (c.close sock).closed = true := rfl

@[simp] theorem respond_sock (sock : Socket) (turn : Turn) (reply : Option Bytes) (c : Connection) :
    (c.respond sock turn reply).sock = sock := by
  unfold respond
  split <;> rfl

/-- An open connection has sent its replies whole. -/
theorem respond_open {sock : Socket} {turn : Turn} {reply : Option Bytes} {c : Connection}
    (h : (c.respond sock turn reply).closed = false) :
    ∃ data, reply = some data ∧ turn.sendFails = none ∧ (c.respond sock turn reply).sent = c.sent ++ data := by
  unfold respond at h ⊢
  split at h
  · cases h
  · next data hfails => exact ⟨data, rfl, hfails, rfl⟩
  · cases h

/-- What is sent of a reply is a part from its beginning. -/
theorem respond_sent (sock : Socket) (turn : Turn) (reply : Option Bytes) (c : Connection) :
    ∃ part, (c.respond sock turn reply).sent = c.sent ++ part ∧ part <+: reply.getD [] := by
  unfold respond
  split
  · exact ⟨[], (List.append_nil _).symm, List.nil_prefix⟩
  · next data _ => exact ⟨data, rfl, List.prefix_rfl⟩
  · next data n _ => exact ⟨data.take n, rfl, List.take_prefix n data⟩

end Connection

/-! ## The threads of the server -/

/-- The state of the server: its files and its connections. -/
structure Serving (b : LocalDiskBackend) (κ : Type) where
  files : Files b.dirs
  conns : κ → Connection

/-- A frame that a thread took, with the file operations that raise while it is handled. -/
structure Taken (κ : Type) where
  conn : κ
  frame : Bytes
  faults : IoFaults

section Server

variable {κ : Type} [DecidableEq κ] (rt : Runtime) (b : LocalDiskBackend)

/-- The server with a thread for each connection, as a machine. -/
def connectionServer (files : Files b.dirs) (socks : κ → Socket) : Machine (Serving b κ) (κ × Turn) Unit where
  init := ⟨files, fun i => { sock := socks i }⟩
  step s op :=
    let r := (s.conns op.1).pass rt b op.2 s.files
    (⟨r.1, Function.update s.conns op.1 r.2⟩, ())

/-- The server that is handed whole frames. -/
def frameServer (κ : Type) (files : Files b.dirs) : Machine (Files b.dirs) (Taken κ) (Option Bytes) where
  init := files
  step files t := answerFrame rt b t.faults files t.frame

/-- The frame that is taken in a step. -/
def Serving.takes (s : Serving b κ) (op : κ × Turn) : List (Taken κ) :=
  ((s.conns op.1).next).toList.map fun frame => ⟨op.1, frame, op.2.faults⟩

/-- The frames of a connection with their replies. -/
def answeredTo (i : κ) (tr : List (Taken κ × Option Bytes)) : List (Bytes × Option Bytes) :=
  (tr.filter fun x => x.1.conn = i).map fun x => (x.1.frame, x.2)

variable {rt b}

/-- The files after a step are those after handling the frame that is taken. -/
theorem serving_files_step (files : Files b.dirs) (socks : κ → Socket) (s : Serving b κ) (op : κ × Turn) :
    ((connectionServer rt b files socks).step s op).1.files =
      (frameServer rt b κ files).execFrom s.files (s.takes b op) := by
  show ((s.conns op.1).pass rt b op.2 s.files).1 = _
  unfold Serving.takes
  cases hnext : (s.conns op.1).next with
  | none =>
    obtain ⟨sock, hpass⟩ := Connection.pass_end rt b hnext op.2 s.files
    rw [hpass]
    rfl
  | some frame =>
    rw [Connection.pass_next rt b hnext]
    rfl

/-- **The files of the server are those that handling the frames leaves.** -/
theorem serving_files (files : Files b.dirs) (socks : κ → Socket) (ops : List (κ × Turn)) :
    ((connectionServer rt b files socks).exec ops).files =
      (frameServer rt b κ files).exec
        ((connectionServer rt b files socks).notes (Serving.takes b) ops) :=
  (connectionServer rt b files socks).projection (N := frameServer rt b κ files) Serving.files (Serving.takes b)
    rfl (serving_files_step files socks) ops

/-- How a connection stands that carries `stream`, when the requests `answered` of it are handled. -/
structure Served (stream : Bytes) (answered : List (Bytes × Option Bytes)) (c : Connection) : Prop where
  /-- Whole frames are handled, -/
  frames : ∀ x ∈ answered, IsFrame x.1
  /-- those that the stream begins with, each once and in their order, -/
  taken : ∃ rest, stream = (answered.map Prod.fst).flatten ++ rest ∧
    (c.closed = false → c.sock.unread = rest)
  /-- none after one that had no reply, -/
  replied : ∀ x ∈ answered.dropLast, x.2.isSome
  /-- and the replies go out in that order, up to where the connection ends. -/
  sent : c.sent <+: (answered.filterMap Prod.snd).flatten
  /-- An open connection owes no reply. -/
  settled : c.closed = false → (∀ x ∈ answered, x.2.isSome) ∧
    c.sent = (answered.filterMap Prod.snd).flatten

/-- A connection that only ends stands as before. -/
theorem Served.close {stream : Bytes} {answered : List (Bytes × Option Bytes)} {c : Connection}
    (h : Served stream answered c) (sock : Socket) : Served stream answered (c.close sock) where
  frames := h.frames
  taken := by
    obtain ⟨rest, hstream, -⟩ := h.taken
    exact ⟨rest, hstream, fun hopen => by cases hopen⟩
  replied := h.replied
  sent := h.sent
  settled hopen := by cases hopen

/-- **A pass that takes a frame** keeps how the connection stands. -/
theorem Served.respond {stream : Bytes} {answered : List (Bytes × Option Bytes)} {c : Connection}
    (h : Served stream answered c) {frame : Bytes} (hnext : c.next = some frame) (turn : Turn)
    (reply : Option Bytes) :
    Served stream (answered ++ [(frame, reply)]) (c.respond (recvFrame c.sock).2 turn reply) := by
  obtain ⟨hframe, hopen, hunread⟩ := Connection.next_frame hnext
  obtain ⟨hall, hsent⟩ := h.settled hopen
  have hreplies : ((answered ++ [(frame, reply)]).filterMap Prod.snd).flatten =
      (answered.filterMap Prod.snd).flatten ++ reply.getD [] := by
    cases reply <;> simp
  refine ⟨?_, ?_, ?_, ?_, ?_⟩
  · intro x hx
    rcases List.mem_append.mp hx with hx | hx
    · exact h.frames x hx
    · rw [List.mem_singleton.mp hx]
      exact hframe
  · obtain ⟨rest, hstream, hrest⟩ := h.taken
    refine ⟨(recvFrame c.sock).2.unread, ?_, fun _ => ?_⟩
    · rw [hstream, ← hrest hopen, hunread, List.map_append, List.flatten_append, List.append_assoc]
      simp
    · rw [Connection.respond_sock]
  · rw [List.dropLast_concat]
    exact hall
  · obtain ⟨part, hpart, hprefix⟩ := Connection.respond_sent (recvFrame c.sock).2 turn reply c
    rw [hpart, hsent, hreplies]
    exact (List.prefix_append_right_inj _).mpr hprefix
  · intro hstill
    obtain ⟨data, rfl, -, hdata⟩ := Connection.respond_open hstill
    refine ⟨?_, ?_⟩
    · intro x hx
      rcases List.mem_append.mp hx with hx | hx
      · exact hall x hx
      · rw [List.mem_singleton.mp hx]
        rfl
    · rw [hdata, hsent, hreplies]
      rfl

/-- A connection at its start. -/
theorem Served.start (sock : Socket) : Served sock.unread [] { sock := sock } where
  frames _ hx := (List.not_mem_nil hx).elim
  taken := ⟨sock.unread, rfl, fun _ => rfl⟩
  replied _ hx := (List.not_mem_nil hx).elim
  sent := List.prefix_rfl
  settled _ := ⟨fun _ hx => (List.not_mem_nil hx).elim, rfl⟩

/-- What a step adds to the frames of connection `i` and their replies. -/
theorem answeredTo_takes (i : κ) {files : Files b.dirs} {taken : List (Taken κ)} {s : Serving b κ}
    (hfiles : s.files = (frameServer rt b κ files).exec taken) (op : κ × Turn) :
    answeredTo i ((frameServer rt b κ files).trace (taken ++ s.takes b op)) =
      answeredTo i ((frameServer rt b κ files).trace taken) ++
        if op.1 = i then
          (s.conns i).next.toList.map fun frame => (frame, (answerFrame rt b op.2.faults s.files frame).2)
        else [] := by
  unfold Serving.takes
  cases hnext : (s.conns op.1).next with
  | none =>
    split_ifs with hi
    · subst hi
      simp [hnext]
    · simp
  | some frame =>
    have hanswer : (frameServer rt b κ files).answer taken ⟨op.1, frame, op.2.faults⟩ =
        (answerFrame rt b op.2.faults s.files frame).2 := by rw [hfiles]; rfl
    have hone : (some frame).toList.map (fun frame => (⟨op.1, frame, op.2.faults⟩ : Taken κ)) =
        [⟨op.1, frame, op.2.faults⟩] := rfl
    rw [hone, Machine.trace_snoc, hanswer]
    split_ifs with hi
    · subst hi
      simp [answeredTo, hnext]
    · simp [answeredTo, hi]

/-- **Whole requests in order, in every interleaving.** The threads' files are those of the server that is
handed the frames that they take, and every connection's stream and replies stand as `Served` says. -/
theorem connections_serve_frames (files : Files b.dirs) (socks : κ → Socket) (ops : List (κ × Turn)) :
    ((connectionServer rt b files socks).exec ops).files =
        (frameServer rt b κ files).exec ((connectionServer rt b files socks).notes (Serving.takes b) ops) ∧
      ∀ i, Served (socks i).unread
        (answeredTo i ((frameServer rt b κ files).trace
          ((connectionServer rt b files socks).notes (Serving.takes b) ops)))
        (((connectionServer rt b files socks).exec ops).conns i) := by
  refine ⟨serving_files files socks ops, fun i => ?_⟩
  induction ops using List.reverseRecOn with
  | nil => exact Served.start (socks i)
  | append_singleton ops op ih =>
    have hfiles : ((connectionServer rt b files socks).exec ops).files = _ := serving_files files socks ops
    rw [Machine.exec_snoc, Machine.notes_snoc]
    obtain ⟨s, hs⟩ : ∃ s, (connectionServer rt b files socks).exec ops = s := ⟨_, rfl⟩
    obtain ⟨taken, htaken⟩ : ∃ taken, (connectionServer rt b files socks).notes (Serving.takes b) ops = taken :=
      ⟨_, rfl⟩
    rw [hs, htaken] at ih hfiles
    rw [hs, htaken]
    show Served _ _ (Function.update s.conns op.1 ((s.conns op.1).pass rt b op.2 s.files).2 i)
    rw [answeredTo_takes i hfiles]
    by_cases hi : op.1 = i
    · subst hi
      rw [Function.update_self, if_pos rfl]
      cases hnext : (s.conns op.1).next with
      | none =>
        obtain ⟨sock, hpass⟩ := Connection.pass_end rt b hnext op.2 s.files
        rw [hpass, Option.toList_none, List.map_nil, List.append_nil]
        exact ih.close sock
      | some frame =>
        rw [Connection.pass_next rt b hnext]
        exact ih.respond hnext op.2 _
    · rw [Function.update_of_ne (Ne.symm hi), if_neg hi, List.append_nil]
      exact ih

/-! ## Pieces -/

/-- A fixed header that is still to come arrives whole. -/
def Connection.HeaderArrives (c : Connection) : Prop :=
  c.closed = false → 14 ≤ c.sock.unread.length → 14 ≤ c.sock.picks c.sock.calls

/-- A connection whose pieces have at least 14 bytes always has whole fixed headers. -/
theorem arrives_exec {κ : Type} [DecidableEq κ] {rt : Runtime} {b : LocalDiskBackend} (files : Files b.dirs)
    {socks : κ → Socket} {i : κ} (hpicks : ∀ n, 14 ≤ (socks i).picks n) (ops : List (κ × Turn)) :
    (((connectionServer rt b files socks).exec ops).conns i).HeaderArrives := by
  have hsame : (((connectionServer rt b files socks).exec ops).conns i).closed = false →
      (((connectionServer rt b files socks).exec ops).conns i).sock.picks = (socks i).picks := by
    refine (connectionServer rt b files socks).invariant
      (I := fun s => (s.conns i).closed = false → (s.conns i).sock.picks = (socks i).picks) (fun _ => rfl) ?_ ops
    intro s op hs
    show (Function.update s.conns op.1 _ i).closed = false → (Function.update s.conns op.1 _ i).sock.picks = _
    by_cases hi : i = op.1
    · subst hi
      rw [Function.update_self]
      cases hnext : (s.conns op.1).next with
      | none =>
        obtain ⟨sock, hend⟩ := Connection.pass_end rt b hnext op.2 s.files
        rw [hend]
        exact fun hopen => by cases hopen
      | some frame =>
        have hopen : (s.conns op.1).closed = false := by
          by_contra hclosed
          rw [Connection.next, if_pos (eq_true_of_ne_false hclosed)] at hnext
          cases hnext
        rw [Connection.pass_next rt b hnext]
        intro _
        have hrecv : (recvFrame (s.conns op.1).sock).2.picks = (socks op.1).picks :=
          (recvFrameBody_picks _).trans (hs hopen)
        unfold Connection.respond
        split <;> exact hrecv
    · rw [Function.update_of_ne hi]
      exact hs
  intro hopen _
  rw [hsame hopen]
  exact hpicks _

/-- What the stream begins with, if that is a whole frame. -/
def firstFrame (stream : Bytes) : Option Bytes :=
  if 14 ≤ stream.length ∧ frameLen stream ≤ stream.length then some (stream.take (frameLen stream)) else none

/-- **The pieces do not decide what a pass takes**, if the fixed header comes whole. -/
theorem next_eq_firstFrame {c : Connection} (harrives : c.HeaderArrives) (hopen : c.closed = false) :
    c.next = firstFrame c.sock.unread := by
  have hopen' : ¬ c.closed = true := by rw [hopen]; decide
  unfold Connection.next firstFrame recvFrame
  rw [if_neg hopen']
  by_cases hlen : 14 ≤ c.sock.unread.length
  · rw [(recvFrameBody_eq ((headerWhole_iff c.sock).mpr ⟨harrives hopen hlen, hlen⟩)).1]
    by_cases hfull : frameLen c.sock.unread ≤ c.sock.unread.length
    · have hne : c.sock.unread.take (frameLen c.sock.unread) ≠ [] := by
        intro hnil
        have hframe := (isFrame_take hfull).1
        rw [hnil] at hframe
        exact absurd hframe (by decide)
      rw [if_pos hfull, if_pos ⟨hlen, hfull⟩]
      exact if_neg hne
    · rw [if_neg hfull, if_neg (fun h => hfull h.2)]
  · have hshort : ¬ HeaderWhole c.sock := fun h => hlen ((headerWhole_iff c.sock).mp h).2
    rw [recvFrameBody_short hshort, if_neg (fun h => hlen h.1)]

/-- Two connections that a client cannot tell apart, and whose clients still have the same to say. -/
structure SameView (c c' : Connection) : Prop where
  sent : c.sent = c'.sent
  closed : c.closed = c'.closed
  unread : c.closed = false → c.sock.unread = c'.sock.unread

/-- A pass keeps them alike. -/
theorem SameView.pass {c c' : Connection} (h : SameView c c') (harrives : c.HeaderArrives)
    (harrives' : c'.HeaderArrives) (turn : Turn) (files : Files b.dirs) :
    (c.pass rt b turn files).1 = (c'.pass rt b turn files).1 ∧
      SameView (c.pass rt b turn files).2 (c'.pass rt b turn files).2 := by
  by_cases hclosed : c.closed = true
  · rw [Connection.pass_closed rt b hclosed, Connection.pass_closed rt b (h.closed ▸ hclosed)]
    exact ⟨rfl, h⟩
  · have hopen : c.closed = false := by simpa using hclosed
    have hsame : c.next = c'.next := by
      rw [next_eq_firstFrame harrives hopen, next_eq_firstFrame harrives' (h.closed ▸ hopen), h.unread hopen]
    cases hnext : c.next with
    | none =>
      obtain ⟨sock, hpass⟩ := Connection.pass_end rt b hnext turn files
      obtain ⟨sock', hpass'⟩ := Connection.pass_end rt b (hsame ▸ hnext) turn files
      rw [hpass, hpass']
      exact ⟨rfl, h.sent, rfl, fun hopen => by cases hopen⟩
    | some frame =>
      have hnext' : c'.next = some frame := hsame ▸ hnext
      have hrest : (recvFrame c.sock).2.unread = (recvFrame c'.sock).2.unread := by
        have hboth := (Connection.next_frame hnext).2.2.symm.trans
          ((h.unread hopen).trans (Connection.next_frame hnext').2.2)
        exact List.append_cancel_left hboth
      rw [Connection.pass_next rt b hnext, Connection.pass_next rt b hnext']
      refine ⟨rfl, ?_, ?_, fun _ => by rw [Connection.respond_sock, Connection.respond_sock, hrest]⟩
      · unfold Connection.respond
        split <;> simp [h.sent]
      · unfold Connection.respond
        split <;> simp [h.closed]

/-- **The pieces do not matter.** Two servers whose clients send the same bytes, in different pieces, do the
same in every run, if at each pass a fixed header that is still to come arrives whole. -/
theorem pieces_irrelevant (files : Files b.dirs) {socks socks' : κ → Socket}
    (hsocks : ∀ i, (socks i).unread = (socks' i).unread) (ops : List (κ × Turn))
    (harrives : EveryStep
      (fun pre op => (((connectionServer rt b files socks).exec pre).conns op.1).HeaderArrives) ops)
    (harrives' : EveryStep
      (fun pre op => (((connectionServer rt b files socks').exec pre).conns op.1).HeaderArrives) ops) :
    ((connectionServer rt b files socks).exec ops).files =
        ((connectionServer rt b files socks').exec ops).files ∧
      ∀ i, SameView (((connectionServer rt b files socks).exec ops).conns i)
        (((connectionServer rt b files socks').exec ops).conns i) := by
  induction ops using List.reverseRecOn with
  | nil => exact ⟨rfl, fun i => ⟨rfl, rfl, fun _ => hsocks i⟩⟩
  | append_singleton ops op ih =>
    obtain ⟨hpre, hop⟩ := everyStep_snoc.mp harrives
    obtain ⟨hpre', hop'⟩ := everyStep_snoc.mp harrives'
    obtain ⟨hfiles, hconns⟩ := ih hpre hpre'
    rw [Machine.exec_snoc, Machine.exec_snoc]
    obtain ⟨s, hs⟩ : ∃ s, (connectionServer rt b files socks).exec ops = s := ⟨_, rfl⟩
    obtain ⟨s', hs'⟩ : ∃ s', (connectionServer rt b files socks').exec ops = s' := ⟨_, rfl⟩
    rw [hs, hs'] at hfiles hconns
    rw [hs] at hop
    rw [hs'] at hop'
    have hpass : ((s.conns op.1).pass rt b op.2 s.files).1 = ((s'.conns op.1).pass rt b op.2 s.files).1 ∧
        SameView ((s.conns op.1).pass rt b op.2 s.files).2 ((s'.conns op.1).pass rt b op.2 s.files).2 :=
      (hconns op.1).pass hop hop' op.2 s.files
    obtain ⟨hpassFiles, hview⟩ := hpass
    rw [hs, hs']
    refine ⟨?_, fun i => ?_⟩
    · show ((s.conns op.1).pass rt b op.2 s.files).1 = ((s'.conns op.1).pass rt b op.2 s'.files).1
      rw [hpassFiles, hfiles]
    · show SameView (Function.update s.conns op.1 ((s.conns op.1).pass rt b op.2 s.files).2 i)
        (Function.update s'.conns op.1 ((s'.conns op.1).pass rt b op.2 s'.files).2 i)
      by_cases hi : i = op.1
      · subst hi
        rw [Function.update_self, Function.update_self, ← hfiles]
        exact hview
      · rw [Function.update_of_ne hi, Function.update_of_ne hi]
        exact hconns i

/-- How far a connection with the requests `frames` has come after `n` passes of its loop: it waits for the
next one, or it has ended after the last one. -/
structure Progress (frames : List Bytes) (n : ℕ) (answered : List (Bytes × Option Bytes)) (c : Connection) :
    Prop where
  handled : answered.map Prod.fst = frames.take n
  replied : ∀ x ∈ answered, x.2.isSome
  sent : c.sent = (answered.filterMap Prod.snd).flatten
  waiting : n ≤ frames.length → c.closed = false ∧ c.sock.unread = (frames.drop n).flatten
  ended : frames.length < n → c.closed = true

/-- The first frame of a stream of frames. -/
theorem firstFrame_flatten {frames : List Bytes} (hframes : ∀ f ∈ frames, IsFrame f) :
    firstFrame frames.flatten = frames.head? := by
  cases frames with
  | nil => rfl
  | cons f frames =>
    have hf := hframes f (by simp)
    have hlen : frameLen (f ++ frames.flatten) = f.length := frameLen_append hf
    rw [List.flatten_cons, firstFrame, hlen, List.length_append,
      if_pos ⟨hf.1.trans (Nat.le_add_right _ _), Nat.le_add_right _ _⟩, List.take_left]
    rfl

/-- A pass goes on with the next request. -/
theorem Progress.step {frames : List Bytes} (hframes : ∀ f ∈ frames, IsFrame f)
    (hreplies : ∀ f ∈ frames, ∀ faults files, ((answerFrame rt b faults files f).2).isSome) {n : ℕ}
    {answered : List (Bytes × Option Bytes)} {c : Connection} (h : Progress frames n answered c)
    (harrives : c.HeaderArrives) {turn : Turn} (hsends : turn.sendFails = none) (files : Files b.dirs) :
    Progress frames (n + 1)
      (answered ++ c.next.toList.map fun frame => (frame, (answerFrame rt b turn.faults files frame).2))
      (c.pass rt b turn files).2 := by
  by_cases hn : frames.length < n
  · have hclosed := h.ended hn
    have hnone : c.next = none := if_pos hclosed
    rw [Connection.pass_closed rt b hclosed, hnone, Option.toList_none, List.map_nil, List.append_nil]
    refine ⟨?_, h.replied, h.sent, fun hle => by omega, fun _ => hclosed⟩
    rw [h.handled, List.take_of_length_le hn.le, List.take_of_length_le (by omega)]
  · obtain ⟨hopen, hunread⟩ := h.waiting (Nat.le_of_not_lt hn)
    have htodo : ∀ f ∈ frames.drop n, IsFrame f := fun f hf => hframes f (List.mem_of_mem_drop hf)
    have hnext : c.next = frames[n]? := by
      rw [next_eq_firstFrame harrives hopen, hunread, firstFrame_flatten htodo, List.head?_drop]
    cases hf : frames[n]? with
    | none =>
      have hlen : frames.length ≤ n := List.getElem?_eq_none_iff.mp hf
      obtain ⟨sock, hpass⟩ := Connection.pass_end rt b (hnext.trans hf) turn files
      rw [hpass, hnext, hf, Option.toList_none, List.map_nil, List.append_nil]
      refine ⟨?_, h.replied, h.sent, fun hle => by omega, fun _ => rfl⟩
      rw [h.handled, List.take_of_length_le hlen, List.take_of_length_le (by omega)]
    | some f =>
      have hlen : n < frames.length := (List.getElem?_eq_some_iff.mp hf).1
      have hdrop : frames.drop n = f :: frames.drop (n + 1) := by
        rw [List.drop_eq_getElem_cons hlen, (List.getElem?_eq_some_iff.mp hf).2]
      obtain ⟨data, hdata⟩ := Option.isSome_iff_exists.mp
        (hreplies f (List.mem_of_getElem? hf) turn.faults files)
      have hrest : (recvFrame c.sock).2.unread = (frames.drop (n + 1)).flatten := by
        have hboth := (Connection.next_frame (hnext.trans hf)).2.2.symm.trans hunread
        rw [hdrop] at hboth
        exact List.append_cancel_left hboth
      rw [Connection.pass_next rt b (hnext.trans hf), hnext, hf, hdata]
      refine ⟨?_, ?_, ?_, fun _ => ⟨?_, ?_⟩, fun hlt => by omega⟩
      · rw [List.take_add_one, hf, List.map_append, h.handled]
        rfl
      · intro x hx
        rcases List.mem_append.mp hx with hx | hx
        · exact h.replied x hx
        · rw [List.mem_singleton.mp hx, hdata]
          rfl
      · simp [Connection.respond, hsends, h.sent, hdata]
      · simp only [Connection.respond, hsends, hopen]
      · rw [Connection.respond_sock, hrest]

/-- Requests that are all replied to are handled one by one, whatever the other threads do. -/
theorem progress_run (files : Files b.dirs) (socks : κ → Socket) {i : κ} {frames : List Bytes}
    (hframes : ∀ f ∈ frames, IsFrame f)
    (hreplies : ∀ f ∈ frames, ∀ faults files, ((answerFrame rt b faults files f).2).isSome)
    (hstream : (socks i).unread = frames.flatten) (ops : List (κ × Turn))
    (harrives : EveryStep (fun pre op => op.1 = i →
      (((connectionServer rt b files socks).exec pre).conns i).HeaderArrives) ops)
    (hsends : ∀ op ∈ ops, op.1 = i → op.2.sendFails = none) :
    Progress frames (ops.countP (·.1 = i))
      (answeredTo i ((frameServer rt b κ files).trace
        ((connectionServer rt b files socks).notes (Serving.takes b) ops)))
      (((connectionServer rt b files socks).exec ops).conns i) := by
  induction ops using List.reverseRecOn with
  | nil =>
    exact ⟨rfl, fun _ hx => (List.not_mem_nil hx).elim, rfl, fun _ => ⟨rfl, hstream⟩,
      fun hlt => (Nat.not_lt_zero _ hlt).elim⟩
  | append_singleton ops op ih =>
    obtain ⟨hpre, hop⟩ := everyStep_snoc.mp harrives
    have hstep := ih hpre fun op' hop' => hsends op' (List.mem_append_left _ hop')
    have hfiles : ((connectionServer rt b files socks).exec ops).files = _ := serving_files files socks ops
    rw [Machine.exec_snoc, Machine.notes_snoc, List.countP_append]
    obtain ⟨s, hs⟩ : ∃ s, (connectionServer rt b files socks).exec ops = s := ⟨_, rfl⟩
    obtain ⟨taken, htaken⟩ : ∃ taken, (connectionServer rt b files socks).notes (Serving.takes b) ops = taken :=
      ⟨_, rfl⟩
    rw [hs, htaken] at hstep hfiles
    rw [hs] at hop
    rw [hs, htaken]
    show Progress _ _ _ (Function.update s.conns op.1 ((s.conns op.1).pass rt b op.2 s.files).2 i)
    rw [answeredTo_takes i hfiles]
    by_cases hi : op.1 = i
    · subst hi
      rw [Function.update_self, if_pos rfl]
      have hone : [op].countP (fun op' => decide (op'.1 = op.1)) = 1 := by simp
      rw [hone]
      exact hstep.step hframes hreplies (hop rfl) (hsends op (by simp) rfl) s.files
    · have hzero : [op].countP (fun op' => decide (op'.1 = i)) = 0 := by simp [hi]
      rw [Function.update_of_ne (Ne.symm hi), if_neg hi, List.append_nil, hzero]
      exact hstep

end Server

/-! ## The client's requests -/

/-- A request that `DataClient` makes. -/
def DataOp.OfClient : DataOp → Prop
  | .put _ _ _ _ _ => True
  | .get _ _ _ => True
  | .delete _ _ _ _ _ _ _ => False

section Client

variable {rt : Runtime} {b : LocalDiskBackend}

/-- The text of an exception that is sent as a reply. -/
def ShortText (msg : String) : Prop := ((pyStr msg).flatMap utf8Char).length < 2 ^ 32

/-- A payload that is too long for a frame is refused with a short text. -/
theorem frameOf_error_text {op requestId objectId tier codec checksum : PyStr} {payloadNbytes : ℤ}
    {payload : Bytes} {e : Exc}
    (h : frameOf (textHeader op requestId objectId tier codec checksum payloadNbytes) payload = .error e) :
    ShortText e.msg := by
  have hpack : ∀ (code : String) (k n : ℕ) (e : Exc), (code = "H" ∧ k = 2) ∨ (code = "I" ∧ k = 4) →
      packNet code k n = .error e → ShortText e.msg := by
    intro code k n e hcode hpack
    unfold packNet at hpack
    split_ifs at hpack
    cases hpack
    rcases hcode with ⟨rfl, rfl⟩ | ⟨rfl, rfl⟩ <;> unfold ShortText <;> decide +kernel
  rw [frameOf_error] at h
  obtain ⟨json, hjson, -⟩ := textHeader_json op requestId objectId tier codec checksum payloadNbytes
  unfold encodeFrame at h
  rw [hjson, Py.ok_bind] at h
  cases hversion : packNet "H" 2 frameVersion with
  | error e' =>
    rw [hversion] at h
    cases h
    exact hpack "H" 2 frameVersion e (by simp) hversion
  | ok version =>
    cases hheader : packNet "I" 4 json.length with
    | error e' =>
      rw [hversion, hheader] at h
      cases h
      exact hpack "I" 4 json.length e (by simp) hheader
    | ok headerLen =>
      cases hpayload : packNet "I" 4 payload.length with
      | error e' =>
        rw [hversion, hheader, hpayload] at h
        cases h
        exact hpack "I" 4 payload.length e (by simp) hpayload
      | ok payloadLen =>
        rw [hversion, hheader, hpayload] at h
        cases h

/-- A handler's exception with a short text is answered, if the header of an ERROR reply fits. -/
theorem sentReply_isSome {faults : IoFaults} {files : Files b.dirs} {header : FrameHeader} {payload : Bytes}
    (hfits : ErrorFits header)
    (h : ∀ e, (dispatch rt b faults files header payload).2 = .error e → ShortText e.msg) :
    (sentReply (processRequest rt b faults files header payload).2).isSome := by
  unfold processRequest
  split
  · rfl
  · next files' e hdispatch =>
    obtain ⟨frame, hframe⟩ := errorResponse_ok_iff.mpr ⟨hfits, h e (by rw [hdispatch])⟩
    simp [hframe, sentReply]

/-- An ERROR reply of a handler with a short text goes out. -/
theorem errorResponse_ne_error {header : FrameHeader} (hfits : ErrorFits header) {msg : String}
    (hmsg : ShortText msg) (e : Exc) : errorResponse header (pyStr msg) ≠ .error e := by
  obtain ⟨frame, hframe⟩ := errorResponse_ok_iff.mpr ⟨hfits, hmsg⟩
  rw [hframe]
  exact fun h => by cases h

/-- `put` of a string id raises nothing. -/
theorem put_str (faults : IoFaults) (files : Files b.dirs) (s : PyStr) (data : Bytes) (tier : DataTier) :
    ∃ r, b.put files faults (.str s) data tier = .ok r := by
  rcases b.target_cases tier s with ⟨e, he⟩ | hother
  · exact ⟨_, LocalDiskBackend.put_entry he data⟩
  · exact ⟨_, LocalDiskBackend.put_other hother data⟩

/-- `get` of a string id raises nothing. -/
theorem get_str (faults : IoFaults) (files : Files b.dirs) (s : PyStr) (tier : DataTier) :
    ∃ r, b.get files faults (.str s) tier = .ok r := by
  unfold LocalDiskBackend.get
  rw [LocalDiskBackend.getPath_str, Py.ok_bind]
  cases b.resolve (joinPath (tierPath b.rootDir tier) s) <;> exact ⟨_, rfl⟩

/-- A PUT of the client is answered. -/
theorem put_answered {objectId : PyStr} {data : Bytes} {tier : DataTier} {codec requestId : PyStr}
    (hfits : FrameFits (DataClient.putHeader rt objectId data tier codec requestId) data) (faults : IoFaults)
    (files : Files b.dirs) (payload : Bytes) :
    (sentReply (processRequest rt b faults files
      (received (DataClient.putHeader rt objectId data tier codec requestId) payload) payload).2).isSome := by
  have herror := errorFits_of_put hfits payload
  obtain ⟨header, hheader⟩ : ∃ header,
      received (DataClient.putHeader rt objectId data tier codec requestId) payload = header := ⟨_, rfl⟩
  have hop : header.op = .str (pyStr (putOp tier)) := by rw [← hheader]; exact joined_pyStr _
  have hid : header.objectId = .str (joinPairs objectId) := by rw [← hheader]; rfl
  have hresponse : putResponse header tier =
      textHeader (pyStr "RESPONSE") (joinPairs requestId) (joinPairs objectId) (pyStr tier.name)
        (joinPairs codec) [] (0 : ℕ) := by rw [← hheader]; rfl
  rw [hheader] at herror ⊢
  refine sentReply_isSome herror fun e he => ?_
  obtain ⟨r, hr⟩ := put_str faults files (joinPairs objectId) payload tier
  rw [dispatch_put rt b faults hop, handlePut, hid, hr] at he
  split_ifs at he
  · have he : (if r.2 = true then (r.1, frameOf (putResponse header tier) okBytes)
        else (r.1, errorResponse header (pyStr "Failed to store object"))).2 = .error e := he
    split_ifs at he
    · rw [hresponse] at he
      exact frameOf_error_text he
    · exact absurd he (errorResponse_ne_error herror (by unfold ShortText; decide +kernel) e)
  · exact absurd he (errorResponse_ne_error herror (by unfold ShortText; decide +kernel) e)

/-- A GET of the client is answered. -/
theorem get_answered {objectId : PyStr} {tier : DataTier} {requestId : PyStr}
    (hfits : FrameFits (DataClient.getHeader objectId tier requestId) []) (faults : IoFaults)
    (files : Files b.dirs) (payload : Bytes) :
    (sentReply (processRequest rt b faults files
      (received (DataClient.getHeader objectId tier requestId) payload) payload).2).isSome := by
  have herror : ErrorFits (received (DataClient.getHeader objectId tier requestId) payload) :=
    errorFits_of_text (by cases tier <;> decide +kernel) hfits payload
  obtain ⟨header, hheader⟩ : ∃ header,
      received (DataClient.getHeader objectId tier requestId) payload = header := ⟨_, rfl⟩
  have hop : header.op = .str (pyStr (getOp tier)) := by rw [← hheader]; exact joined_pyStr _
  have hid : header.objectId = .str (joinPairs objectId) := by rw [← hheader]; rfl
  have hresponse : ∀ data, getResponse rt header data tier =
      textHeader (pyStr "RESPONSE") (joinPairs requestId) (joinPairs objectId) (pyStr tier.name)
        (joinPairs []) (computeChecksum rt data) data.length := by
    intro data
    rw [← hheader]
    rfl
  rw [hheader] at herror ⊢
  refine sentReply_isSome herror fun e he => ?_
  obtain ⟨r, hr⟩ := get_str faults files (joinPairs objectId) tier
  rw [dispatch_get rt b faults hop, handleGet, hid, hr, Py.ok_bind] at he
  cases r with
  | none => exact absurd he (errorResponse_ne_error herror (by unfold ShortText; decide +kernel) e)
  | some data =>
    have he : frameOf (getResponse rt header data tier) data = .error e := he
    rw [hresponse] at he
    exact frameOf_error_text he

/-- **Every request of the client is answered**, whatever the files are and whatever fails. -/
theorem answerFrame_client {op : DataOp} (hclient : op.OfClient) {frame : Bytes}
    (hframe : encodeFrame (op.header rt) op.payload = .ok frame) (faults : IoFaults) (files : Files b.dirs) :
    ((answerFrame rt b faults files frame).2).isSome := by
  have hdecode : decodeFrame rt.floatRepr (frame ++ []) =
      .ok (received (op.header rt) op.payload, op.payload) :=
    decodeFrame_encodeFrame (DataOp.header_flat rt op) hframe []
  rw [List.append_nil] at hdecode
  have hfits : FrameFits (op.header rt) op.payload := frameFits_iff.mpr ⟨frame, hframe⟩
  simp only [answerFrame, hdecode]
  cases op with
  | put objectId data tier codec requestId => exact put_answered hfits faults files data
  | get objectId tier requestId => exact get_answered hfits faults files []
  | delete => exact hclient.elim

variable {κ : Type} [DecidableEq κ]

/-- **Requests of the client are all served.** If the fixed headers of a connection come whole and its sends
succeed, then after `n` passes of its loop, whatever the other threads do and whatever fails, its first `n`
requests are handled in order and exactly their replies were sent. -/
theorem client_requests_served (files : Files b.dirs) (socks : κ → Socket) {i : κ} {requests : List DataOp}
    {frames : List Bytes} (hclient : ∀ op ∈ requests, op.OfClient)
    (hframes : List.Forall₂ (fun op frame => encodeFrame (op.header rt) op.payload = .ok frame) requests frames)
    (hstream : (socks i).unread = frames.flatten) (ops : List (κ × Turn))
    (harrives : EveryStep (fun pre op => op.1 = i →
      (((connectionServer rt b files socks).exec pre).conns i).HeaderArrives) ops)
    (hsends : ∀ op ∈ ops, op.1 = i → op.2.sendFails = none) :
    Progress frames (ops.countP (·.1 = i))
      (answeredTo i ((frameServer rt b κ files).trace
        ((connectionServer rt b files socks).notes (Serving.takes b) ops)))
      (((connectionServer rt b files socks).exec ops).conns i) := by
  have hmem : ∀ f ∈ frames, ∃ op ∈ requests, encodeFrame (op.header rt) op.payload = .ok f := by
    intro f hf
    obtain ⟨n, hn, rfl⟩ := List.getElem_of_mem hf
    have hlen := hframes.length_eq
    exact ⟨requests[n], List.getElem_mem _, List.Forall₂.get hframes (by omega) hn⟩
  refine progress_run files socks (fun f hf => ?_) (fun f hf faults files => ?_) hstream ops harrives hsends
  · obtain ⟨op, -, hop⟩ := hmem f hf
    exact isFrame_encodeFrame hop
  · obtain ⟨op, hin, hop⟩ := hmem f hf
    exact answerFrame_client (hclient op hin) hop faults files

end Client

/-- What the clients of two connections send: one PUTs an object and asks for it, the other one asks for it. -/
def talkRequests : Bool → List DataOp
  | true => [.put (pyStr "a") [1, 2] .critical (pyStr "fp16_raw") (pyStr "r"), .get (pyStr "a") .critical (pyStr "r")]
  | false => [.get (pyStr "a") .critical (pyStr "q")]

theorem talkRequests_client (i : Bool) : ∀ op ∈ talkRequests i, op.OfClient := by
  cases i <;> simp [talkRequests, DataOp.OfClient]

/-- Their frames. -/
def talkFrames (i : Bool) : List Bytes :=
  (talkRequests i).map fun op => match encodeFrame (op.header exampleRuntime) op.payload with
    | .ok frame => frame
    | .error _ => []

theorem talkFrames_encoded :
    List.Forall₂ (fun op frame => encodeFrame (op.header exampleRuntime) op.payload = .ok frame)
      (talkRequests true) (talkFrames true) :=
  .cons (by decide +kernel) (.cons (by decide +kernel) .nil)

/-- The connections that carry them, in pieces of `k` bytes. -/
def talkSocks (k : ℕ) : Bool → Socket := fun i => ⟨(talkFrames i).flatten, fun _ => k, 0⟩

/-- The server with these connections. -/
def talkServer (k : ℕ) : Machine (Serving exampleBackend Bool) (Bool × Turn) Unit :=
  connectionServer exampleRuntime exampleBackend .empty (talkSocks k)

/-- The threads in turns: the write of the PUT fails after a byte, and one of the other thread's sends. -/
def talkOps : List (Bool × Turn) :=
  [(false, {}), (true, { faults := { writeFails := some 1 } }), (false, { sendFails := some 3 }), (true, {})]

theorem talkSocks_unread (k l : ℕ) (i : Bool) : (talkSocks k i).unread = (talkSocks l i).unread := by
  simp only [talkSocks]

theorem talkSocks_picks (k : ℕ) (i : Bool) (n : ℕ) : (talkSocks k i).picks n = k := by
  simp only [talkSocks]

theorem pieces_irrelevant_talk :
    ((talkServer 20).exec talkOps).files = ((talkServer 14).exec talkOps).files ∧
      ∀ i, SameView (((talkServer 20).exec talkOps).conns i) (((talkServer 14).exec talkOps).conns i) :=
  pieces_irrelevant .empty (talkSocks_unread 20 14) talkOps
    (fun pre _ _ _ => arrives_exec .empty (fun _ => by rw [talkSocks_picks]; decide) pre)
    (fun pre _ _ _ => arrives_exec .empty (fun _ => by rw [talkSocks_picks]) pre)

theorem client_requests_served_talk :
    Progress (talkFrames true) 2
      (answeredTo true ((frameServer exampleRuntime exampleBackend Bool .empty).trace
        ((talkServer 14).notes (Serving.takes exampleBackend) talkOps)))
      (((talkServer 14).exec talkOps).conns true) := by
  have htwo : talkOps.countP (fun op => op.1 = true) = 2 := by decide
  have hstream : (talkSocks 14 true).unread = (talkFrames true).flatten := by simp only [talkSocks]
  rw [← htwo]
  exact client_requests_served .empty (talkSocks 14) (talkRequests_client true) talkFrames_encoded hstream talkOps
    (fun pre _ _ _ _ => arrives_exec .empty (fun _ => by rw [talkSocks_picks]) pre)
    (by simp [talkOps])

/-! ## A call of the client -/

/-- The pieces in which the request and the reply of a call arrive, and after how many bytes the server's
`sendall` raises, if it does. -/
structure Wire where
  requestPicks : ℕ → ℕ
  replyPicks : ℕ → ℕ
  sendFails : Option ℕ := none

/-- The reply comes whole, and so does its fixed header. -/
def Wire.Carries (w : Wire) (reply : Bytes) : Prop :=
  14 ≤ w.replyPicks 0 ∧ ∀ n ∈ w.sendFails, reply.length ≤ n

instance (w : Wire) : DecidablePred w.Carries :=
  fun reply => inferInstanceAs (Decidable (14 ≤ w.replyPicks 0 ∧ ∀ n ∈ w.sendFails, reply.length ≤ n))

section Call

variable (rt : Runtime) (b : LocalDiskBackend)

/-- `_get` and `_put` with the connection's thread on the other side: the client sends its frame, the thread
takes it off the stream and answers, the client takes the reply off its own stream and closes. -/
def callOverBytes (faults : IoFaults) (w : Wire) (files : Files b.dirs) (op : DataOp) :
    Files b.dirs × DataAnswer :=
  match encodeFrame (op.header rt) op.payload with
  | .error _ => (files, op.result rt none)
  | .ok frame =>
    let r := Connection.pass rt b ⟨faults, w.sendFails⟩ files { sock := ⟨frame, w.requestPicks, 0⟩ }
    match (DataClient.recvFrame ⟨r.2.sent, w.replyPicks, 0⟩).1 with
    | .error _ => (r.1, op.result rt none)
    | .ok reply => (r.1, op.result rt reply)

/-- What `_recv_frame` makes of the beginning of a frame. -/
theorem recvFrameBody_cut {frame : Bytes} (h : IsFrame frame) (n : ℕ) (picks : ℕ → ℕ) :
    (recvFrameBody ⟨frame.take n, picks, 0⟩).1 =
      .ok (if 14 ≤ picks 0 ∧ frame.length ≤ n then some frame else none) := by
  have hmin : (frame.take n).length = min n frame.length := List.length_take
  by_cases hwhole : HeaderWhole ⟨frame.take n, picks, 0⟩
  · obtain ⟨hpicks, hlen⟩ : 14 ≤ picks 0 ∧ 14 ≤ (frame.take n).length := (headerWhole_iff _).mp hwhole
    have hsame : frameLen (frame.take n) = frame.length := by
      rw [← frameLen_take, List.take_take, Nat.min_eq_left (by omega), frameLen_take, h.2]
    have hres : (recvFrameBody ⟨frame.take n, picks, 0⟩).1 =
        .ok (if frameLen (frame.take n) ≤ (frame.take n).length then
          some ((frame.take n).take (frameLen (frame.take n))) else none) := (recvFrameBody_eq hwhole).1
    rw [hres, hsame, hmin]
    by_cases hn : frame.length ≤ n
    · rw [if_pos (Nat.le_min.mpr ⟨hn, Nat.le_refl _⟩), if_pos ⟨hpicks, hn⟩, List.take_of_length_le hn,
        List.take_length]
    · rw [if_neg (fun hle => hn (hle.trans (Nat.min_le_left _ _))), if_neg (fun hboth => hn hboth.2)]
  · have hcut : ¬ (14 ≤ picks 0 ∧ frame.length ≤ n) := by
      rintro ⟨hpicks, hn⟩
      have hge := h.1
      exact hwhole ((headerWhole_iff _).mpr ⟨hpicks, by show 14 ≤ (frame.take n).length; omega⟩)
    rw [recvFrameBody_short hwhole, if_neg hcut]

/-- A reply is a frame. -/
theorem answerFrame_isFrame {faults : IoFaults} {files : Files b.dirs} {frame reply : Bytes}
    (h : (answerFrame rt b faults files frame).2 = some reply) : IsFrame reply := by
  unfold answerFrame at h
  cases hdecode : decodeFrame rt.floatRepr frame with
  | error e =>
    rw [hdecode] at h
    cases h
  | ok request =>
    rw [hdecode] at h
    have h : sentReply (processRequest rt b faults files request.1 request.2).2 = some reply := h
    unfold sentReply at h
    cases hreply : (processRequest rt b faults files request.1 request.2).2 with
    | error e =>
      rw [hreply] at h
      cases h
    | ok sent =>
      rw [hreply] at h
      cases h
      exact isFrame_encodeFrame sent.encoded

/-- What the client gets of the reply that the thread sends. -/
theorem recvFrame_respond {reply : Option Bytes} (hreply : ∀ data, reply = some data → IsFrame data)
    (sock sock' : Socket) (faults : IoFaults) (w : Wire) :
    (DataClient.recvFrame ⟨(Connection.respond sock ⟨faults, w.sendFails⟩ reply { sock := sock' }).sent,
      w.replyPicks, 0⟩).1 = .ok (reply.filter w.Carries) := by
  rw [clientRecvFrame_eq]
  cases reply with
  | none =>
    have hshort : ¬ HeaderWhole ⟨[], w.replyPicks, 0⟩ := fun h => absurd ((headerWhole_iff _).mp h).2 (by simp)
    exact congrArg Prod.fst (recvFrameBody_short hshort)
  | some data =>
    have hframe := hreply data rfl
    cases hfails : w.sendFails with
    | none =>
      have hcut := recvFrameBody_cut hframe data.length w.replyPicks
      rw [List.take_length] at hcut
      refine hcut.trans (congrArg Except.ok ?_)
      simp [Wire.Carries, hfails, Option.filter]
    | some n =>
      refine (recvFrameBody_cut hframe n w.replyPicks).trans (congrArg Except.ok ?_)
      simp [Wire.Carries, hfails, Option.filter]

/-- **A call over bytes is one exchange or none.** If the request's fixed header comes whole, the server does
what it does in the exchange, and the caller gets its result, or that of no reply if the reply is cut or its
fixed header is split; otherwise the server does nothing and the caller gets no reply. -/
theorem call_over_bytes (faults : IoFaults) (w : Wire) (files : Files b.dirs) (op : DataOp) :
    callOverBytes rt b faults w files op =
      if 14 ≤ w.requestPicks 0 then
        ((Exchange.serve rt b files ⟨op, faults, .none⟩).1,
          op.result rt ((Exchange.serve rt b files ⟨op, faults, .none⟩).2.filter w.Carries))
      else (files, op.result rt none) := by
  have hrequest : ∀ frame, Exchange.onRequest ⟨op, faults, .none⟩ frame = frame := by
    intro frame
    cases op <;> first | rfl | exact Alteration.alter_none frame
  unfold callOverBytes Exchange.serve
  cases hencode : encodeFrame (op.header rt) op.payload with
  | error e => simp
  | ok frame =>
    have hframe := isFrame_encodeFrame hencode
    have hlen : 14 ≤ frame.length := hframe.1
    obtain ⟨c, hc⟩ : ∃ c : Connection, ({ sock := ⟨frame, w.requestPicks, 0⟩ } : Connection) = c := ⟨_, rfl⟩
    simp only [hc, hrequest]
    have hunread : c.sock.unread = frame := by rw [← hc]
    have hsent : c.sent = [] := by rw [← hc]
    by_cases hpicks : 14 ≤ w.requestPicks 0
    · have hnext : c.next = some frame := by
        have harrives : c.HeaderArrives := by
          rw [← hc]
          exact fun _ _ => hpicks
        have hfirst : firstFrame [frame].flatten = some frame :=
          firstFrame_flatten fun f hf => List.mem_singleton.mp hf ▸ hframe
        rw [next_eq_firstFrame harrives (by rw [← hc]), hunread]
        simpa using hfirst
      rw [if_pos hpicks, Connection.pass_next rt b hnext, ← hc]
      simp only [recvFrame_respond fun data hdata => answerFrame_isFrame rt b hdata]
    · have hshort : ¬ HeaderWhole c.sock := by
        rw [← hc]
        exact fun h => hpicks ((headerWhole_iff _).mp h).1
      have hnext : c.next = none := by
        unfold Connection.next recvFrame
        rw [recvFrameBody_short hshort, ← hc]
        rfl
      obtain ⟨sock, hpass⟩ := Connection.pass_end rt b hnext ⟨faults, w.sendFails⟩ files
      have hnothing : ¬ HeaderWhole ⟨[], w.replyPicks, 0⟩ := fun h =>
        absurd ((headerWhole_iff _).mp h).2 (by simp)
      rw [if_neg hpicks, hpass, Connection.close_sent, hsent, clientRecvFrame_eq]
      simp only [DataServer.recvFrame, recvFrameBody_short hnothing]

end Call

end AwareKV
