import Mathlib.Data.List.Forall2
import Sniff4Hound.Capture.Bytes
import Sniff4Hound.Library.Chunked

/-!
# Frames on the wire

`_send_frame`, `_recv_exact` and `_recv_frame` of `ipc.py` over the bytes of one direction of
a connection. The sender's side is the bytes it has written, the reader's side the pieces in
which they will come out of `recv` (`Chunked`); after the last piece `recv` returns nothing.
The codec, `json.dumps(.., ensure_ascii=False).encode("utf-8")` and `json.loads(..)` of the
decoded bytes, is a parameter.

`recvLoop_spec` says that the exact read depends on the bytes alone and not on the pieces;
`recv_stream` is what follows for a whole connection, cut anywhere.
-/

namespace Sniff4Hound.Ipc

/-- The bytes of a payload, and the payload some bytes stand for; `none` is an exception. -/
structure JsonCodec (J : Type) where
  dumps : J → Option Bytes
  loads : Bytes → Option J

def JsonCodec.RoundTrips {J : Type} (codec : JsonCodec J) : Prop :=
  ∀ payload data, codec.dumps payload = some data → codec.loads data = some payload

inductive FrameError
  | disconnected (text : String)
  | ipc (text : String)
  | json
  deriving DecidableEq, Repr

def MAX_FRAME_BYTES : Nat := 16 * 1024 * 1024

/-- The size of `_LEN_STRUCT`. -/
def LEN_SIZE : Nat := 4

/-- `_LEN_STRUCT.pack(n)`, format `!I`. -/
def packLen (n : Nat) : Bytes :=
  [UInt8.ofNat (n / 2 ^ 24), UInt8.ofNat (n / 2 ^ 16), UInt8.ofNat (n / 2 ^ 8), UInt8.ofNat n]

abbrev Socket := Chunked UInt8

variable {J : Type} (codec : JsonCodec J)

/-- `_send_frame`: the bytes written so far with the frame after them. -/
def send_frame (written : Bytes) (payload : J) : Except FrameError Bytes :=
  match codec.dumps payload with
  | none => .error .json
  | some data =>
    if data.length > MAX_FRAME_BYTES then .error (.ipc "IPC frame too large")
    else .ok (written ++ packLen data.length ++ data)

def send_frames (payloads : List J) : Except FrameError Bytes :=
  payloads.foldlM (send_frame codec) []

/-- The loop of `_recv_exact`. -/
def recvLoop (sock : Socket) (chunks : List Bytes) (remaining : Nat) :
    Except FrameError Bytes × Socket :=
  if 0 < remaining then
    let chunk := (sock.receive remaining).1
    if chunk = [] then
      (.error (.disconnected "IPC connection closed"), (sock.receive remaining).2)
    else
      recvLoop (sock.receive remaining).2 (chunks ++ [chunk]) (remaining - chunk.length)
  else (.ok chunks.flatten, sock)
termination_by remaining
decreasing_by
  rename_i hChunk
  have : 0 < (sock.receive remaining).1.length := List.length_pos_iff.mpr hChunk
  omega

def recv_exact (sock : Socket) (size : Nat) : Except FrameError Bytes × Socket :=
  recvLoop sock [] size

def recv_frame (sock : Socket) : Except FrameError J × Socket :=
  match recv_exact sock LEN_SIZE with
  | (.error e, sock) => (.error e, sock)
  | (.ok header, sock) =>
    if header.big > MAX_FRAME_BYTES then (.error (.ipc "IPC frame too large"), sock)
    else
      match recv_exact sock header.big with
      | (.error e, sock) => (.error e, sock)
      | (.ok data, sock) =>
        match codec.loads data with
        | none => (.error .json, sock)
        | some payload => (.ok payload, sock)

/-! ## The exact read -/

/-- The loop takes the next `remaining` bytes of the stream, or finds that it ends earlier:
in which pieces they came makes no difference. -/
theorem recvLoop_spec (sock : Socket) (chunks : List Bytes) (remaining : Nat) :
    (remaining ≤ sock.flat.length →
      (recvLoop sock chunks remaining).1 =
          .ok (chunks.flatten ++ sock.flat.take remaining) ∧
        (recvLoop sock chunks remaining).2.flat = sock.flat.drop remaining) ∧
    (sock.flat.length < remaining →
      (recvLoop sock chunks remaining).1 = .error (.disconnected "IPC connection closed")) := by
  fun_induction recvLoop sock chunks remaining with
  | case1 sock chunks remaining hMore chunk hChunk =>
    have hEnd : sock.flat = [] := (Chunked.receive_eq_nil hMore).mp hChunk
    refine ⟨?_, fun _ => rfl⟩
    intro hLe
    simp only [hEnd, List.length_nil] at hLe
    omega
  | case2 sock chunks remaining hMore chunk hChunk ih =>
    have hFlat : sock.flat = chunk ++ (sock.receive remaining).2.flat :=
      (sock.receive_flat remaining).symm
    have hLen : chunk.length ≤ remaining := sock.receive_length_le remaining
    have hTotal : sock.flat.length = chunk.length + (sock.receive remaining).2.flat.length := by
      rw [hFlat, List.length_append]
    constructor
    · intro hLe
      obtain ⟨hOk, hRest⟩ := ih.1 (by omega)
      rw [hOk, hRest, hFlat, List.take_append, List.drop_append,
        List.take_of_length_le hLen, List.drop_of_length_le hLen]
      simp
    · intro hLt
      exact ih.2 (by omega)
  | case3 sock chunks remaining hMore =>
    have hZero : remaining = 0 := by omega
    subst hZero
    simp

variable {sock : Socket}

theorem recv_exact_ok {size : Nat} (hLe : size ≤ sock.flat.length) :
    ∃ rest : Socket, recv_exact sock size = (.ok (sock.flat.take size), rest) ∧
      rest.flat = sock.flat.drop size := by
  obtain ⟨hOk, hRest⟩ := (recvLoop_spec sock [] size).1 hLe
  exact ⟨(recv_exact sock size).2, Prod.ext (by simpa [recv_exact] using hOk) rfl, hRest⟩

theorem recv_exact_short {size : Nat} (hLt : sock.flat.length < size) :
    ∃ rest : Socket,
      recv_exact sock size = (.error (.disconnected "IPC connection closed"), rest) :=
  ⟨(recv_exact sock size).2, Prod.ext ((recvLoop_spec sock [] size).2 hLt) rfl⟩

variable {rest : Bytes}

theorem recv_exact_append {data : Bytes} (hFlat : sock.flat = data ++ rest) :
    ∃ after : Socket, recv_exact sock data.length = (.ok data, after) ∧ after.flat = rest := by
  have hLe : data.length ≤ sock.flat.length := by simp [hFlat]
  obtain ⟨after, hOk, hRest⟩ := recv_exact_ok hLe
  refine ⟨after, ?_, ?_⟩
  · simpa [hFlat] using hOk
  · simpa [hFlat] using hRest

/-! ## One frame -/

theorem packLen_length (n : Nat) : (packLen n).length = LEN_SIZE := rfl

variable {n : Nat}

theorem big_packLen (hn : n < 2 ^ 32) : (packLen n).big = n := by
  simp only [packLen, Bytes.big, List.foldl_cons, List.foldl_nil, UInt8.toNat_ofNat']
  omega

theorem max_frame_lt (hn : n ≤ MAX_FRAME_BYTES) : n < 2 ^ 32 := by
  unfold MAX_FRAME_BYTES at hn
  omega

def Framed (payload : J) (frame : Bytes) : Prop :=
  ∃ data, codec.dumps payload = some data ∧ data.length ≤ MAX_FRAME_BYTES ∧
    frame = packLen data.length ++ data

variable {codec} {payload : J}

theorem send_frame_framed {data : Bytes} (written : Bytes) (hData : codec.dumps payload = some data)
    (hMax : data.length ≤ MAX_FRAME_BYTES) :
    send_frame codec written payload = .ok (written ++ (packLen data.length ++ data)) := by
  simp [send_frame, hData, Nat.not_lt.mpr hMax]

theorem recv_frame_framed (hCodec : codec.RoundTrips) {frame : Bytes}
    (hFrame : Framed codec payload frame) (hFlat : sock.flat = frame ++ rest) :
    ∃ after : Socket, recv_frame codec sock = (.ok payload, after) ∧ after.flat = rest := by
  obtain ⟨data, hData, hMax, rfl⟩ := hFrame
  rw [List.append_assoc] at hFlat
  obtain ⟨body, hHeader, hBody⟩ := recv_exact_append hFlat
  rw [packLen_length] at hHeader
  obtain ⟨after, hRead, hAfter⟩ := recv_exact_append hBody
  have hBig : (packLen data.length).big = data.length := big_packLen (max_frame_lt hMax)
  refine ⟨after, ?_, hAfter⟩
  simp [recv_frame, hHeader, hBig, Nat.not_lt.mpr hMax, hRead, hCodec _ _ hData]

theorem recv_frame_cut {frame : Bytes} (hFrame : Framed codec payload frame)
    (hPre : sock.flat <+: frame) (hCut : sock.flat.length < frame.length) :
    ∃ after : Socket,
      recv_frame codec sock = (.error (.disconnected "IPC connection closed"), after) := by
  obtain ⟨data, -, hMax, rfl⟩ := hFrame
  by_cases hHeader : sock.flat.length < LEN_SIZE
  · obtain ⟨after, hShort⟩ := recv_exact_short hHeader
    exact ⟨after, by simp [recv_frame, hShort]⟩
  · have hWhole : packLen data.length <+: sock.flat :=
      List.prefix_of_prefix_length_le (List.prefix_append _ data) hPre
        (by rw [packLen_length]; omega)
    obtain ⟨part, hPart⟩ := hWhole
    obtain ⟨body, hRead, hBody⟩ := recv_exact_append hPart.symm
    rw [packLen_length] at hRead
    have hShort : body.flat.length < data.length := by
      rw [hBody]
      rw [← hPart] at hCut
      simpa using hCut
    obtain ⟨after, hEnd⟩ := recv_exact_short hShort
    have hBig : (packLen data.length).big = data.length := big_packLen (max_frame_lt hMax)
    exact ⟨after, by simp [recv_frame, hRead, hBig, Nat.not_lt.mpr hMax, hEnd]⟩

theorem recv_frame_oversize {header : Bytes} (hFlat : sock.flat = header ++ rest)
    (hLen : header.length = LEN_SIZE) (hBig : MAX_FRAME_BYTES < header.big) :
    ∃ after : Socket,
      recv_frame codec sock = (.error (.ipc "IPC frame too large"), after) ∧ after.flat = rest := by
  obtain ⟨after, hRead, hAfter⟩ := recv_exact_append hFlat
  rw [hLen] at hRead
  exact ⟨after, by simp [recv_frame, hRead, hBig], hAfter⟩

/-! ## Whole streams -/

theorem recvLoop_rest (sock : Socket) (chunks : List Bytes) (remaining : Nat) :
    (recvLoop sock chunks remaining).2.flat <:+ sock.flat := by
  fun_induction recvLoop sock chunks remaining with
  | case1 sock chunks remaining hMore chunk hChunk =>
    exact ⟨_, sock.receive_flat remaining⟩
  | case2 sock chunks remaining hMore chunk hChunk ih =>
    exact ih.trans ⟨_, sock.receive_flat remaining⟩
  | case3 sock chunks remaining hMore => exact List.suffix_rfl

theorem recv_frame_lt (hOk : (recv_frame codec sock).1 = .ok payload) :
    (recv_frame codec sock).2.flat.length < sock.flat.length := by
  rcases Nat.lt_or_ge sock.flat.length LEN_SIZE with hLt | hGe
  · obtain ⟨after, hShort⟩ := recv_exact_short hLt
    simp [recv_frame, hShort] at hOk
  · obtain ⟨body, hRead, hBody⟩ := recv_exact_ok hGe
    have hLen : body.flat.length + LEN_SIZE = sock.flat.length := by
      rw [hBody, List.length_drop]
      omega
    have hPos : 0 < LEN_SIZE := by decide
    have hRest : (recv_exact body (Bytes.big (sock.flat.take LEN_SIZE))).2.flat.length
        ≤ body.flat.length := (recvLoop_rest body [] _).length_le
    have hSplit : (recv_frame codec sock).2 = body ∨
        (recv_frame codec sock).2 = (recv_exact body (Bytes.big (sock.flat.take LEN_SIZE))).2 := by
      unfold recv_frame
      rw [hRead]
      dsimp only
      split
      · exact Or.inl rfl
      · split
        · next hBodyRead => exact Or.inr (by rw [hBodyRead])
        · next hBodyRead => split <;> exact Or.inr (by rw [hBodyRead])
    rcases hSplit with hEq | hEq
    · rw [hEq]
      omega
    · rw [hEq]
      omega

variable (codec)

/-- `_recv_frame` until it raises: the payloads and the exception. -/
def recvAll (sock : Socket) : List J × FrameError :=
  match _ : (recv_frame codec sock).1 with
  | .error e => ([], e)
  | .ok payload =>
    let rest := recvAll (recv_frame codec sock).2
    (payload :: rest.1, rest.2)
termination_by sock.flat.length
decreasing_by exact recv_frame_lt ‹_ = Except.ok payload›

variable {codec}

theorem recvAll_ok {after : Socket} (hFrame : recv_frame codec sock = (.ok payload, after)) :
    recvAll codec sock = (payload :: (recvAll codec after).1, (recvAll codec after).2) := by
  rw [recvAll]
  split
  · next e hError => simp [hFrame] at hError
  · next got hGot =>
    have hEq : payload = got := by simpa [hFrame] using hGot
    rw [hFrame, hEq]

theorem recvAll_error {after : Socket} {e : FrameError}
    (hFrame : recv_frame codec sock = (.error e, after)) : recvAll codec sock = ([], e) := by
  rw [recvAll]
  split
  · next e' hError =>
    have hEq : e = e' := by simpa [hFrame] using hError
    rw [hEq]
  · next got hGot => simp [hFrame] at hGot

variable {payloads : List J}

theorem foldlM_send_frame
    (hMax : ∀ payload ∈ payloads, ∃ data, codec.dumps payload = some data ∧
    data.length ≤ MAX_FRAME_BYTES) :
    ∃ frames, List.Forall₂ (Framed codec) payloads frames ∧
      ∀ written, payloads.foldlM (send_frame codec) written = .ok (written ++ frames.flatten) := by
  induction payloads with
  | nil => exact ⟨[], List.Forall₂.nil, fun written => by simp [pure, Except.pure]⟩
  | cons payload payloads ih =>
    obtain ⟨frames, hFrames, hSent⟩ := ih fun p hp => hMax p (List.mem_cons_of_mem _ hp)
    obtain ⟨data, hData, hLe⟩ := hMax payload List.mem_cons_self
    refine ⟨(packLen data.length ++ data) :: frames,
      List.Forall₂.cons ⟨data, hData, hLe, rfl⟩ hFrames, ?_⟩
    intro written
    rw [List.foldlM_cons, send_frame_framed written hData hLe]
    simpa [bind, Except.bind] using hSent (written ++ (packLen data.length ++ data))

variable {frames : List Bytes}

theorem send_frames_take (hFrames : List.Forall₂ (Framed codec) payloads frames) (n : Nat) :
    send_frames codec (payloads.take n) = .ok (frames.take n).flatten := by
  have hAll : ∀ written, (payloads.take n).foldlM (send_frame codec) written
      = .ok (written ++ (frames.take n).flatten) := by
    induction hFrames generalizing n with
    | nil => simp [pure, Except.pure]
    | @cons payload frame payloads frames hFrame _ ih =>
      intro written
      cases n with
      | zero => simp [pure, Except.pure]
      | succ n =>
        obtain ⟨data, hData, hLe, rfl⟩ := hFrame
        rw [List.take_succ_cons, List.foldlM_cons, send_frame_framed written hData hLe]
        simpa [bind, Except.bind] using ih n (written ++ (packLen data.length ++ data))
  simpa [send_frames] using hAll []

/-- Any prefix of the frames of some payloads: the frames it holds whole are read, and then
the connection is found closed. -/
theorem recvAll_prefix (hCodec : codec.RoundTrips)
    (hFrames : List.Forall₂ (Framed codec) payloads frames) (hPre : sock.flat <+: frames.flatten) :
    ∃ m ≤ payloads.length, (frames.take m).flatten.length ≤ sock.flat.length ∧
      (m < payloads.length → sock.flat.length < (frames.take (m + 1)).flatten.length) ∧
      recvAll codec sock = (payloads.take m, .disconnected "IPC connection closed") := by
  induction hFrames generalizing sock with
  | nil =>
    have hEnd : sock.flat = [] := by simpa using hPre
    have hLt : sock.flat.length < LEN_SIZE := by rw [hEnd]; decide
    obtain ⟨after, hShort⟩ := recv_exact_short hLt
    have hFrame : recv_frame codec sock
        = (.error (.disconnected "IPC connection closed"), after) := by
      simp [recv_frame, hShort]
    exact ⟨0, by simp, by simp, by simp, by simpa using recvAll_error hFrame⟩
  | @cons payload frame payloads frames hFrame _ ih =>
    rw [List.flatten_cons] at hPre
    rcases Nat.lt_or_ge sock.flat.length frame.length with hLt | hGe
    · have hHead : sock.flat <+: frame :=
        List.prefix_of_prefix_length_le hPre (List.prefix_append frame _) hLt.le
      obtain ⟨after, hCut⟩ := recv_frame_cut hFrame hHead hLt
      exact ⟨0, by simp, by simp, fun _ => by simpa using hLt,
        by simpa using recvAll_error hCut⟩
    · obtain ⟨rest, hRest⟩ :=
        List.prefix_of_prefix_length_le (List.prefix_append frame _) hPre hGe
      obtain ⟨after, hOk, hAfter⟩ := recv_frame_framed hCodec hFrame hRest.symm
      have hTail : after.flat <+: frames.flatten := by
        rw [hAfter]
        rw [← hRest] at hPre
        exact (List.prefix_append_right_inj frame).mp hPre
      have hLen : sock.flat.length = frame.length + after.flat.length := by
        rw [← hRest, hAfter, List.length_append]
      obtain ⟨m, hm, hWhole, hNext, hRead⟩ := ih hTail
      refine ⟨m + 1, by simpa using hm, ?_, ?_, ?_⟩
      · rw [List.take_succ_cons, List.flatten_cons, List.length_append]
        omega
      · intro hMore
        have := hNext (by simpa using hMore)
        rw [List.take_succ_cons, List.flatten_cons, List.length_append]
        omega
      · rw [recvAll_ok hOk, hRead, List.take_succ_cons]

/-- Whole frames with anything after them: the frames are read and the rest is read as if
it had come alone. -/
theorem recvAll_append (hCodec : codec.RoundTrips)
    (hFrames : List.Forall₂ (Framed codec) payloads frames)
    (hFlat : sock.flat = frames.flatten ++ rest) :
    ∃ after : Socket, after.flat = rest ∧
      recvAll codec sock = (payloads ++ (recvAll codec after).1, (recvAll codec after).2) := by
  induction hFrames generalizing sock with
  | nil => exact ⟨sock, by simpa using hFlat, by simp⟩
  | cons hFrame _ ih =>
    rw [List.flatten_cons, List.append_assoc] at hFlat
    obtain ⟨next, hOk, hNext⟩ := recv_frame_framed hCodec hFrame hFlat
    obtain ⟨after, hAfter, hRead⟩ := ih hNext
    exact ⟨after, hAfter, by rw [recvAll_ok hOk, hRead, List.cons_append]⟩

theorem flatten_take_length_mono {α : Type} (frames : List (List α)) {m : Nat} (hLe : m ≤ n) :
    (frames.take m).flatten.length ≤ (frames.take n).flatten.length := by
  obtain ⟨rest, hRest⟩ := List.take_prefix_take_left hLe (l := frames)
  rw [← hRest, List.flatten_append, List.length_append]
  exact Nat.le_add_right _ _

/-- The payloads of a connection whose frames fit come out in order, whatever the pieces
`recv` returns; cut anywhere, the stream yields the frames it still holds whole and then
`IpcDisconnected`; and a length over the limit ends the reading with its body unread. -/
theorem recv_stream (hCodec : codec.RoundTrips) (payloads : List J)
    (hMax : ∀ payload ∈ payloads, ∃ data, codec.dumps payload = some data ∧
      data.length ≤ MAX_FRAME_BYTES) :
    ∃ stream, send_frames codec payloads = .ok stream ∧
      (∀ sock : Socket, sock.flat = stream →
        recvAll codec sock = (payloads, .disconnected "IPC connection closed")) ∧
      (∀ cut ≤ stream.length, ∀ sock : Socket, sock.flat = stream.take cut →
        ∃ m ≤ payloads.length,
          (∃ sent, send_frames codec (payloads.take m) = .ok sent ∧ sent.length ≤ cut) ∧
          (∀ n ≤ payloads.length, m < n →
            ∃ sent, send_frames codec (payloads.take n) = .ok sent ∧ cut < sent.length) ∧
          recvAll codec sock = (payloads.take m, .disconnected "IPC connection closed")) ∧
      (∀ header body : Bytes, header.length = LEN_SIZE → MAX_FRAME_BYTES < header.big →
        (∀ sock : Socket, sock.flat = header ++ body →
          ∃ after : Socket, recv_frame codec sock = (.error (.ipc "IPC frame too large"), after) ∧
            after.flat = body) ∧
        ∀ sock : Socket, sock.flat = stream ++ (header ++ body) →
          recvAll codec sock = (payloads, .ipc "IPC frame too large")) := by
  obtain ⟨frames, hFrames, hSent⟩ := foldlM_send_frame hMax
  have hLen : payloads.length = frames.length := hFrames.length_eq
  refine ⟨frames.flatten, by simpa [send_frames] using hSent [], ?_, ?_, ?_⟩
  · intro sock hFlat
    obtain ⟨m, hm, -, hNext, hRead⟩ := recvAll_prefix hCodec hFrames
      (show sock.flat <+: frames.flatten by rw [hFlat])
    have hAll : ¬ m < payloads.length := by
      intro hMore
      have hLt := hNext hMore
      have hLe := flatten_take_length_mono frames (show m + 1 ≤ frames.length by omega)
      rw [List.take_length, ← hFlat] at hLe
      omega
    rw [hRead, List.take_of_length_le (by omega)]
  · intro cut hCut sock hFlat
    have hSock : sock.flat.length = cut := by
      rw [hFlat, List.length_take]
      omega
    obtain ⟨m, hm, hWhole, hNext, hRead⟩ := recvAll_prefix hCodec hFrames
      (show sock.flat <+: frames.flatten by rw [hFlat]; exact List.take_prefix cut _)
    refine ⟨m, hm, ⟨_, send_frames_take hFrames m, by omega⟩, ?_, hRead⟩
    intro n hn hLt
    have hStep := hNext (by omega)
    have hMono := flatten_take_length_mono frames (show m + 1 ≤ n by omega)
    exact ⟨_, send_frames_take hFrames n, by omega⟩
  · intro header body hHeader hBig
    refine ⟨fun sock hFlat => recv_frame_oversize hFlat hHeader hBig, ?_⟩
    intro sock hFlat
    obtain ⟨after, hAfter, hRead⟩ := recvAll_append hCodec hFrames hFlat
    obtain ⟨unread, hFrame, -⟩ : ∃ unread : Socket,
        recv_frame codec after = (.error (.ipc "IPC frame too large"), unread) ∧ _ :=
      recv_frame_oversize hAfter hHeader hBig
    rw [hRead, recvAll_error hFrame, List.append_nil]

def flagText (flag : Bool) : Bytes :=
  Bytes.ofText (if flag then "\x7b\"ok\": true\x7d" else "\x7b\"ok\": false\x7d")

/-- The codec on the two dictionaries `{"ok": true}` and `{"ok": false}`. -/
def flagCodec : JsonCodec Bool where
  dumps flag := some (flagText flag)
  loads data := [true, false].find? fun flag => data = flagText flag

/-- Two frames that come byte by byte: whole, cut within the second, and before a length of more
than `MAX_FRAME_BYTES`. -/
theorem recv_stream_flags :
    ∃ stream, send_frames flagCodec [true, false] = .ok stream ∧
      recvAll flagCodec (.singles stream) =
        ([true, false], .disconnected "IPC connection closed") ∧
      recvAll flagCodec (.singles (stream.take 20)) =
        ([true], .disconnected "IPC connection closed") ∧
      recvAll flagCodec (.singles (stream ++ ([1, 0, 0, 1] ++ [0]))) =
        ([true, false], .ipc "IPC frame too large") := by
  have hCodec : flagCodec.RoundTrips := by
    intro flag data hData
    cases hData
    cases flag <;> decide
  obtain ⟨stream, hSent, hWhole, hCut, hOver⟩ := recv_stream hCodec [true, false] (by
    intro flag _
    exact ⟨_, rfl, by cases flag <;> decide⟩)
  refine ⟨stream, hSent, hWhole _ (Chunked.flat_singles _), ?_,
    (hOver [1, 0, 0, 1] [0] rfl (by decide)).2 _ (Chunked.flat_singles _)⟩
  have hLong : 20 ≤ stream.length := by
    cases hSent
    decide
  obtain ⟨m, hm, ⟨sent, hFits, hBound⟩, hNext, hRead⟩ :=
    hCut 20 hLong (.singles (stream.take 20)) (Chunked.flat_singles _)
  rw [hRead]
  rcases m with _ | _ | _ | m
  · obtain ⟨first, hFirst, hLate⟩ := hNext 1 (by decide) (by decide)
    cases hFirst
    exact absurd hLate (by decide)
  · rfl
  · cases hFits
    exact absurd hBound (by decide)
  · exact absurd hm (by simp)

end Sniff4Hound.Ipc
