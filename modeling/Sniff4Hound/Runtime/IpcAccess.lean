import Sniff4Hound.Runtime.IpcServer

/-!
# What a connection without the token gets

No method is called and no event is sent for a connection that did not open with a `hello`
carrying the token, and a request is answered at most once, with its own id
(`only_authenticated`).

The code keeps no record of who is authenticated: a session that has got past the handshake
knows it from where it stands. `ConnOk` says this for one connection, and `Guarded` says it
for everything a session hands out: the subscription, the dispatches and what they wrote.
-/

namespace Sniff4Hound.IpcServer

open Ipc

variable {E R : Type}

/-- The frames of a connection start with a `hello` that carries the token. -/
def Authenticated (cfg : Config) (received : List Value) : Prop :=
  ∃ hello rest, received = .dict hello :: rest ∧ hasKind hello "hello" = true ∧
    Value.get hello "token" = .str cfg.token ∧ cfg.token ≠ ""

/-- The `i`-th frame is a request. -/
def Requested (received : List Value) (i : Nat) : Prop :=
  ∃ entries, received[i]? = some (.dict entries) ∧ hasKind entries "request" = true

variable {cfg : Config} {received more : List Value}

theorem Authenticated.mono (h : Authenticated cfg received) (hMore : received <+: more) :
    Authenticated cfg more := by
  obtain ⟨hello, rest, rfl, hKind⟩ := h
  obtain ⟨tail, rfl⟩ := hMore
  exact ⟨hello, rest ++ tail, rfl, hKind⟩

variable {i : Nat}

theorem getElem?_mono (hMore : received <+: more) {message : Value}
    (hGet : received[i]? = some message) : more[i]? = some message := by
  obtain ⟨tail, rfl⟩ := hMore
  obtain ⟨hLt, -⟩ := List.getElem?_eq_some_iff.mp hGet
  rw [List.getElem?_append_left hLt, hGet]

theorem Requested.mono (h : Requested received i) (hMore : received <+: more) :
    Requested more i := by
  obtain ⟨entries, hGet, hKind⟩ := h
  exact ⟨entries, getElem?_mono hMore hGet, hKind⟩

theorem tokens_match_ok {candidate : Value} {expected : String}
    (h : tokens_match candidate expected = some true) :
    candidate = .str expected ∧ expected ≠ "" := by
  cases candidate with
  | str text =>
    unfold tokens_match at h
    dsimp only at h
    split at h
    · cases h
    · next hEmpty =>
      rw [compare_digest] at h
      split at h
      · have hEq : text = expected := by simpa using h
        exact ⟨by rw [hEq], hEmpty⟩
      · cases h
  | _ => simp [tokens_match] at h

/-! ## One connection -/

def SessionPc.admitted : SessionPc → Bool
  | .ack | .subscribe | .closePrevious _ | .loop | .recv | .inline _ | .ending => true
  | _ => false

def DispatchPc.isDone : DispatchPc R → Bool
  | .done _ => true
  | _ => false

structure ConnOk (cfg : Config) (conn : Conn R) : Prop where
  fresh : conn.pc = .unused ∨ conn.pc = .hello → conn.received = []
  admitted : conn.pc.admitted = true → Authenticated cfg conn.received
  dispatch : ∀ i, conn.dispatch i ≠ .none →
    Authenticated cfg conn.received ∧ Requested conn.received i

variable {conn : Conn R} {pc : SessionPc}

theorem ConnOk.goto (h : ConnOk cfg conn) (isOpen : Bool)
    (hOld : pc = .unused ∨ pc = .hello → conn.pc = .unused ∨ conn.pc = .hello)
    (hAdmitted : pc.admitted = true → conn.pc.admitted = true) :
    ConnOk cfg { conn with pc := pc, isOpen := isOpen } where
  fresh hPc := h.fresh (hOld hPc)
  admitted hPc := h.admitted (hAdmitted hPc)
  dispatch := h.dispatch

theorem helloPc_admitted {message : Value} (h : (helloPc cfg message).admitted = true) :
    Authenticated cfg [message] := by
  unfold helloPc at h
  split at h
  · next hello =>
    split at h
    · next hKind =>
      split at h
      · cases h
      · next hToken => exact ⟨hello, [], rfl, hKind, tokens_match_ok hToken⟩
      · cases h
    · cases h
  · cases h

theorem helloPc_moves (cfg : Config) (message : Value) :
    helloPc cfg message ≠ .unused ∧ helloPc cfg message ≠ .hello := by
  unfold helloPc
  split
  · split
    · split <;> exact ⟨SessionPc.noConfusion, SessionPc.noConfusion⟩
    · exact ⟨SessionPc.noConfusion, SessionPc.noConfusion⟩
  · exact ⟨SessionPc.noConfusion, SessionPc.noConfusion⟩

theorem ConnOk.hello (h : ConnOk cfg conn) (hPc : conn.pc = .hello) (message : Value) :
    ConnOk cfg { conn with
      received := conn.received ++ [message]
      pc := helloPc cfg message } where
  fresh hNew := by
    rcases hNew with hNew | hNew
    · exact absurd hNew (helloPc_moves cfg message).1
    · exact absurd hNew (helloPc_moves cfg message).2
  admitted hNew := by
    show Authenticated cfg (conn.received ++ [message])
    rw [h.fresh (Or.inr hPc)]
    exact helloPc_admitted hNew
  dispatch i hNew :=
    ⟨(h.dispatch i hNew).1.mono (List.prefix_append _ _),
      (h.dispatch i hNew).2.mono (List.prefix_append _ _)⟩

theorem ConnOk.heard (h : ConnOk cfg conn) (hPc : conn.pc = .recv) (message : Value)
    (hNew : pc ≠ .unused ∧ pc ≠ .hello) :
    ConnOk cfg { conn with received := conn.received ++ [message], pc := pc } where
  fresh hFresh := by
    rcases hFresh with hFresh | hFresh
    · exact absurd hFresh hNew.1
    · exact absurd hFresh hNew.2
  admitted _ := (h.admitted (by rw [hPc]; rfl)).mono (List.prefix_append _ _)
  dispatch i hDispatch :=
    ⟨(h.dispatch i hDispatch).1.mono (List.prefix_append _ _),
      (h.dispatch i hDispatch).2.mono (List.prefix_append _ _)⟩

theorem ConnOk.request (h : ConnOk cfg conn) (hPc : conn.pc = .recv)
    {entries : List (String × Value)} (hKind : hasKind entries "request" = true)
    (hNew : pc ≠ .unused ∧ pc ≠ .hello) :
    ConnOk cfg { conn with
      received := conn.received ++ [.dict entries]
      pc := pc
      dispatch := Function.update conn.dispatch conn.received.length .queued } where
  fresh := (h.heard hPc (.dict entries) hNew).fresh
  admitted := (h.heard hPc (.dict entries) hNew).admitted
  dispatch i hDispatch := by
    by_cases hi : i = conn.received.length
    · subst hi
      exact ⟨(h.admitted (by rw [hPc]; rfl)).mono (List.prefix_append _ _), entries,
        by simp, hKind⟩
    · have hOld : conn.dispatch i ≠ .none := by simpa [hi] using hDispatch
      exact (h.heard hPc (.dict entries) hNew).dispatch i hOld

theorem ConnOk.dispatched (h : ConnOk cfg conn) (hOld : conn.dispatch i ≠ .none)
    (pc : DispatchPc R) :
    ConnOk cfg { conn with dispatch := Function.update conn.dispatch i pc } where
  fresh := h.fresh
  admitted := h.admitted
  dispatch j hj := by
    by_cases hEq : j = i
    · subst hEq
      exact h.dispatch j hOld
    · exact h.dispatch j (by simpa [hEq] using hj)

/-! ## The whole server -/

def WireOk (cfg : Config) (s : State E R) (w : Wire E R) : Prop :=
  match w.source with
  | .handshake => ∃ ok, w.frame = .helloAck ok
  | .request i => Authenticated cfg (s.conns w.conn).received ∧ ∃ entries reply,
      (s.conns w.conn).received[i]? = some (.dict entries) ∧ hasKind entries "request" = true ∧
        w.frame = .response (Value.get entries "id") reply
  | .call _ => Authenticated cfg (s.conns w.conn).received ∧ ∃ payload, w.frame = .event payload

/-- The frame answers the `i`-th frame of the connection. -/
def Wire.answers (c : ConnId) (i : Nat) (w : Wire E R) : Bool :=
  decide (w.conn = c) && decide (w.source = .request i)

/-- How often the `i`-th frame of a connection has been answered. -/
def responses (s : State E R) (c : ConnId) (i : Nat) : Nat := s.wire.countP (Wire.answers c i)

structure Guarded (cfg : Config) (s : State E R) : Prop where
  conns : ∀ c, ConnOk cfg (s.conns c)
  client : ∀ c, s.client = some c → Authenticated cfg (s.conns c).received
  calls : ∀ k c, (s.calls k).pc = .sending c → Authenticated cfg (s.conns c).received
  called : ∀ c i, (c, i) ∈ s.called →
    Authenticated cfg (s.conns c).received ∧ Requested (s.conns c).received i
  wire : ∀ w ∈ s.wire, WireOk cfg s w
  once : ∀ c i, responses s c i ≤ if ((s.conns c).dispatch i).isDone then 1 else 0

theorem WireOk.mono {s s' : State E R} {w : Wire E R} (h : WireOk cfg s w)
    (hMore : (s.conns w.conn).received <+: (s'.conns w.conn).received) : WireOk cfg s' w := by
  unfold WireOk at h ⊢
  split at h
  · exact h
  · obtain ⟨hAuth, entries, reply, hGet, hRest⟩ := h
    exact ⟨hAuth.mono hMore, entries, reply, getElem?_mono hMore hGet, hRest⟩
  · exact ⟨h.1.mono hMore, h.2⟩

namespace Guarded

variable {cfg : Config} {s : State E R}

theorem init : Guarded cfg (State.init : State E R) where
  conns _ := ⟨fun _ => rfl, nofun, fun _ h => absurd rfl h⟩
  client _ := nofun
  calls _ _ := nofun
  called _ _ := nofun
  wire _ := nofun
  once _ _ := Nat.zero_le _

variable {c : ConnId}

variable (h : Guarded cfg s)

include h

theorem setConn {conn : Conn R} (hConn : ConnOk cfg conn)
    (hMore : (s.conns c).received <+: conn.received)
    (hDone : ∀ i, ((s.conns c).dispatch i).isDone = true → (conn.dispatch i).isDone = true) :
    Guarded cfg (s.setConn c conn) := by
  have hGrow : ∀ d, (s.conns d).received <+: ((s.setConn c conn).conns d).received := by
    intro d
    rcases eq_or_ne d c with rfl | hd
    · simpa [State.setConn] using hMore
    · simp [State.setConn, hd]
  constructor
  · intro d
    rcases eq_or_ne d c with rfl | hd
    · simpa [State.setConn] using hConn
    · simpa [State.setConn, hd] using h.conns d
  · exact fun d hd => (h.client d hd).mono (hGrow d)
  · exact fun k d hd => (h.calls k d hd).mono (hGrow d)
  · exact fun d i hd => ⟨(h.called d i hd).1.mono (hGrow d), (h.called d i hd).2.mono (hGrow d)⟩
  · exact fun w hw => (h.wire w hw).mono (hGrow w.conn)
  · intro d i
    refine le_trans (h.once d i) ?_
    rcases eq_or_ne d c with rfl | hd
    · simp only [State.setConn, Function.update_self]
      split <;> simp_all
    · simp [State.setConn, hd]

theorem goto (c : ConnId) (pc : SessionPc) (isOpen : Bool)
    (hOld : pc = .unused ∨ pc = .hello → (s.conns c).pc = .unused ∨ (s.conns c).pc = .hello)
    (hAdmitted : pc.admitted = true → (s.conns c).pc.admitted = true) :
    Guarded cfg (s.setConn c { s.conns c with pc := pc, isOpen := isOpen }) :=
  h.setConn ((h.conns c).goto isOpen hOld hAdmitted) List.prefix_rfl fun _ hi => hi

theorem close : ∀ c, Guarded cfg (s.close c)
  | none => h
  | some c => h.goto c _ false id id

variable {i : Nat}

theorem setDispatch (hOld : (s.conns c).dispatch i ≠ .none)
    (hOpen : ((s.conns c).dispatch i).isDone = false) (pc : DispatchPc R) :
    Guarded cfg (s.setDispatch c i pc) := by
  refine h.setConn ((h.conns c).dispatched hOld pc) List.prefix_rfl ?_
  intro j hj
  have hNe : j ≠ i := by
    rintro rfl
    rw [hOpen] at hj
    cases hj
  simpa [hNe] using hj

theorem setClient {client subscriber : Option ConnId}
    (hClient : ∀ c, client = some c → Authenticated cfg (s.conns c).received) :
    Guarded cfg { s with client := client, subscriber := subscriber } :=
  ⟨h.conns, hClient, h.calls, h.called, h.wire, h.once⟩

theorem unsubscribe (c : ConnId) : Guarded cfg (s.unsubscribe c) := by
  refine h.setClient ?_
  intro d hd
  split at hd
  · cases hd
  · exact h.client d hd

variable {k : CallId}

theorem setCall (call : Call E)
    (hCall : ∀ c, call.pc = .sending c → Authenticated cfg (s.conns c).received) :
    Guarded cfg (s.setCall k call) := by
  refine ⟨h.conns, h.client, ?_, h.called, h.wire, h.once⟩
  intro j c hj
  rcases eq_or_ne j k with rfl | hNe
  · exact hCall c (by simpa [State.setCall] using hj)
  · exact h.calls j c (by simpa [State.setCall, hNe] using hj)

theorem finish (k : CallId) : Guarded cfg (s.finish k) :=
  let h' := h.setCall (k := k) { s.calls k with pc := .returned } nofun
  ⟨h'.conns, h'.client, h'.calls, h'.called, h'.wire, h'.once⟩

theorem write {source : Source} {frame : Outgoing E R}
    (hSource : ∀ i, source ≠ .request i) (hOk : WireOk cfg s ⟨c, source, frame⟩) :
    Guarded cfg (s.write c source frame) := by
  refine ⟨h.conns, h.client, h.calls, h.called, ?_, ?_⟩
  · intro w hw
    rcases List.mem_append.mp hw with hOld | hNew
    · exact h.wire w hOld
    · rw [List.mem_singleton.mp hNew]
      exact hOk
  · intro d i
    have hSame : responses (s.write c source frame) d i = responses s d i := by
      simp [responses, State.write, Wire.answers, hSource i]
    rw [hSame]
    exact h.once d i

theorem answer (hOld : (s.conns c).dispatch i ≠ .none)
    (hOpen : ((s.conns c).dispatch i).isDone = false) (raised : Bool) (reply : Reply R) :
    Guarded cfg ((s.setDispatch c i (.done raised)).write c (.request i)
      (.response (Value.get (request s c i) "id") reply)) := by
  have h' := h.setDispatch hOld hOpen (.done raised)
  obtain ⟨hAuth, entries, hGet, hKind⟩ := (h.conns c).dispatch i hOld
  have hEntries : request s c i = entries := by simp [request, hGet, Value.entriesOf]
  refine ⟨h'.conns, h'.client, h'.calls, h'.called, ?_, ?_⟩
  · intro w hw
    rcases List.mem_append.mp hw with hPast | hNew
    · exact h'.wire w hPast
    · rw [List.mem_singleton.mp hNew, hEntries]
      have hReceived : ((s.setDispatch c i (.done raised)).conns c).received
          = (s.conns c).received := by simp [State.setDispatch, State.setConn]
      show Authenticated cfg ((s.setDispatch c i (.done raised)).conns c).received ∧ _
      rw [hReceived]
      exact ⟨hAuth, entries, reply, by simpa [State.write, hReceived] using hGet, hKind, rfl⟩
  · intro d j
    by_cases hEq : d = c ∧ j = i
    · obtain ⟨rfl, rfl⟩ := hEq
      have hNone : responses s d j = 0 := by simpa [hOpen] using h.once d j
      have hOne : responses ((s.setDispatch d j (.done raised)).write d (.request j)
          (.response (Value.get (request s d j) "id") reply)) d j = responses s d j + 1 := by
        simp [responses, State.write, State.setDispatch, State.setConn, Wire.answers]
      rw [hOne, hNone]
      simp [State.write, State.setDispatch, State.setConn, DispatchPc.isDone]
    · have hSame : responses ((s.setDispatch c i (.done raised)).write c (.request i)
          (.response (Value.get (request s c i) "id") reply)) d j
            = responses (s.setDispatch c i (.done raised)) d j := by
        simp only [responses, State.write, List.countP_append, List.countP_singleton,
          Wire.answers]
        have hFar : ¬ (c = d ∧ i = j) := fun hBoth => hEq ⟨hBoth.1.symm, hBoth.2.symm⟩
        simp [hFar]
      rw [hSame]
      exact h'.once d j

omit h

/-! ### Steps -/

variable {codec : JsonCodec (Outgoing E R)} {s' : State E R} (h : Guarded cfg s)

include h

theorem frameStep {message : Value} (hStep : IpcServer.frameStep cfg s c message = some s') :
    Guarded cfg s' := by
  unfold IpcServer.frameStep at hStep
  dsimp only at hStep
  split at hStep
  · next hPc =>
    cases hStep
    exact h.setConn ((h.conns c).hello hPc message) (List.prefix_append _ _) fun _ hi => hi
  · next hPc =>
    split at hStep
    · next entries =>
      split at hStep
      · next hKind =>
        cases hStep
        refine h.setConn ((h.conns c).request hPc hKind ?_) (List.prefix_append _ _) ?_
        · split <;> exact ⟨SessionPc.noConfusion, SessionPc.noConfusion⟩
        · -- the position of the new request has not been dispatched before
          intro i hi
          have hNe : i ≠ (s.conns c).received.length := by
            rintro rfl
            have hSome : (s.conns c).dispatch (s.conns c).received.length ≠ .none := by
              intro hNone
              rw [hNone] at hi
              cases hi
            obtain ⟨_, hGet, -⟩ := ((h.conns c).dispatch _ hSome).2
            simp at hGet
          simpa [hNe] using hi
      · cases hStep
        exact h.setConn ((h.conns c).heard hPc _ ⟨SessionPc.noConfusion, SessionPc.noConfusion⟩)
          (List.prefix_append _ _) fun _ hi => hi
    · cases hStep
      exact h.setConn ((h.conns c).heard hPc _ ⟨SessionPc.noConfusion, SessionPc.noConfusion⟩)
        (List.prefix_append _ _) fun _ hi => hi
  · cases hStep

theorem move (pc : SessionPc) (hNew : pc ≠ .unused ∧ pc ≠ .hello)
    (hAdmitted : pc.admitted = true → (s.conns c).pc.admitted = true) : Guarded cfg (s.goto c pc) :=
  h.goto c pc (s.conns c).isOpen
    (fun hPc => by
      rcases hPc with hPc | hPc
      · exact absurd hPc hNew.1
      · exact absurd hPc hNew.2)
    hAdmitted

theorem sessionStep (hStep : IpcServer.sessionStep codec s c = some s') : Guarded cfg s' := by
  have hAway : ∀ pc : SessionPc, pc.admitted = false → pc ≠ .unused → pc ≠ .hello →
      Guarded cfg (s.goto c pc) := by
    intro pc hOut h₁ h₂
    exact h.move _ ⟨h₁, h₂⟩ fun hIn => by rw [hOut] at hIn; cases hIn
  unfold IpcServer.sessionStep at hStep
  split at hStep
  case h_1 hPc =>
      split at hStep
      · cases hStep
        exact (hAway .closing rfl nofun nofun).write nofun ⟨false, rfl⟩
      · cases hStep
        exact hAway .closing rfl nofun nofun
  case h_2 hPc =>
      split at hStep
      · cases hStep
        exact (h.move .subscribe ⟨nofun, nofun⟩ fun _ => by rw [hPc]; rfl).write nofun
          ⟨true, rfl⟩
      · cases hStep
        exact hAway .closing rfl nofun nofun
  case h_3 hPc =>
      cases hStep
      have hIn : (s.conns c).pc.admitted = true := by rw [hPc]; rfl
      refine (h.move (.closePrevious s.client) ⟨nofun, nofun⟩ fun _ => hIn).setClient ?_
      intro d hd
      cases hd
      simpa [State.goto, State.setConn] using (h.conns c).admitted hIn
  case h_4 previous hPc =>
      cases hStep
      refine (h.close previous).move .loop ⟨nofun, nofun⟩ fun _ => ?_
      cases previous with
      | none => simp [State.close, hPc, SessionPc.admitted]
      | some p =>
        rcases eq_or_ne c p with rfl | hNe
        · simp [State.close, State.setConn, hPc, SessionPc.admitted]
        · simp [State.close, State.setConn, hNe, hPc, SessionPc.admitted]
  case h_5 hPc =>
      cases hStep
      refine h.move _ ?_ fun _ => by rw [hPc]; rfl
      split <;> exact ⟨nofun, nofun⟩
  case h_6 i hPc =>
      split at hStep
      · cases hStep
        refine h.move _ ?_ fun _ => by rw [hPc]; rfl
        split <;> exact ⟨nofun, nofun⟩
      · cases hStep
  case h_7 hPc =>
      cases hStep
      exact (h.unsubscribe c).move _ ⟨nofun, nofun⟩ nofun
  case h_8 hPc =>
      cases hStep
      exact h.goto c .closed false
        (fun hNew => by rcases hNew with hNew | hNew <;> cases hNew) nofun
  case h_9 => cases hStep

theorem recvRaises (hStep : IpcServer.recvRaises s c = some s') : Guarded cfg s' := by
  unfold IpcServer.recvRaises at hStep
  split at hStep
  · cases hStep
    exact h.move _ ⟨nofun, nofun⟩ nofun
  · next hPc =>
    cases hStep
    exact h.move _ ⟨nofun, nofun⟩ fun _ => by rw [hPc]; rfl
  · cases hStep

theorem dispatchStep {outcome : Reply R}
    (hStep : IpcServer.dispatchStep codec cfg s c i outcome = some s') : Guarded cfg s' := by
  unfold IpcServer.dispatchStep at hStep
  dsimp only at hStep
  split at hStep
  · next hPc =>
    have hOld : (s.conns c).dispatch i ≠ .none := by rw [hPc]; nofun
    have hOpen : ((s.conns c).dispatch i).isDone = false := by rw [hPc]; rfl
    have hNext := fun pc => h.setDispatch hOld hOpen pc
    split at hStep
    · cases hStep
      exact hNext _
    · split at hStep
      · split at hStep
        · cases hStep
          refine ⟨(hNext _).conns, (hNext _).client, (hNext _).calls, ?_, (hNext _).wire,
            (hNext _).once⟩
          intro d j hj
          rcases List.mem_append.mp hj with hPast | hNew
          · exact (hNext _).called d j hPast
          · cases List.mem_singleton.mp hNew
            simpa [State.setDispatch, State.setConn] using (h.conns c).dispatch i hOld
        · cases hStep
          exact hNext _
      · cases hStep
        exact hNext _
  · next r hPc =>
    have hOld : (s.conns c).dispatch i ≠ .none := by rw [hPc]; nofun
    have hOpen : ((s.conns c).dispatch i).isDone = false := by rw [hPc]; rfl
    split at hStep
    · cases hStep
      exact h.answer hOld hOpen false (.result r)
    · cases hStep
      exact h.setDispatch hOld hOpen _
  · next exc hPc =>
    have hOld : (s.conns c).dispatch i ≠ .none := by rw [hPc]; nofun
    have hOpen : ((s.conns c).dispatch i).isDone = false := by rw [hPc]; rfl
    split at hStep
    · cases hStep
      exact h.answer hOld hOpen false (.error exc)
    · cases hStep
      exact h.setDispatch hOld hOpen _
  · cases hStep

theorem publishStep {event : E} (hStep : IpcServer.publishStep s k event = some s') :
    Guarded cfg s' := by
  unfold IpcServer.publishStep at hStep
  split at hStep
  · split at hStep
    · cases hStep
      exact (h.setCall _ fun _ hd => by cases hd).finish k
    · next c hClient =>
      cases hStep
      refine h.setCall _ ?_
      intro d hd
      cases hd
      exact h.client c hClient
  · cases hStep

theorem publisherStep (hStep : IpcServer.publisherStep codec s k = some s') : Guarded cfg s' := by
  unfold IpcServer.publisherStep at hStep
  split at hStep
  · next c frame hPc hFrame =>
    split at hStep
    · cases hStep
      refine (h.finish k).write nofun ⟨h.calls k c hPc, ?_⟩
      obtain ⟨payload, -, rfl⟩ := Option.map_eq_some_iff.mp hFrame
      exact ⟨payload, rfl⟩
    · cases hStep
      exact h.setCall _ nofun
  · cases hStep
    exact (h.unsubscribe _).finish k
  · cases hStep

theorem stopStep (hStep : IpcServer.stopStep s = some s') : Guarded cfg s' := by
  unfold IpcServer.stopStep at hStep
  split at hStep
  · cases hStep
    exact ⟨h.conns, h.client, h.calls, h.called, h.wire, h.once⟩
  · cases hStep
    exact ⟨h.conns, nofun, h.calls, h.called, h.wire, h.once⟩
  · next client _ =>
    cases hStep
    have h' := h.close client
    exact ⟨h'.conns, h'.client, h'.calls, h'.called, h'.wire, h'.once⟩
  · cases hStep
    exact ⟨h.conns, h.client, h.calls, h.called, h.wire, h.once⟩
  · cases hStep

theorem step (a : Act E R) (hStep : IpcServer.step codec cfg s a = some s') : Guarded cfg s' := by
  cases a with
  | accept c =>
    simp only [IpcServer.step] at hStep
    split at hStep
    · next hPc =>
      cases hStep
      exact h.goto c _ true (fun _ => Or.inl hPc) nofun
    · cases hStep
  | peerCloses c =>
    simp only [IpcServer.step] at hStep
    split at hStep
    · cases hStep
    · cases hStep
      exact h.close (some c)
  | frame c message => exact h.frameStep hStep
  | recvRaises c => exact h.recvRaises hStep
  | session c => exact h.sessionStep hStep
  | dispatch c i outcome => exact h.dispatchStep hStep
  | publish k event => exact h.publishStep hStep
  | publisher k => exact h.publisherStep hStep
  | stop => exact h.stopStep hStep

end Guarded

/-- In every state of every run: a method is only called, and an event only sent or being
sent, for a connection whose first frame was a `hello` carrying the token; and a request is
answered at most once, on its own connection and with its own id. -/
theorem only_authenticated (codec : JsonCodec (Outgoing E R)) (cfg : Config)
    {acts : List (Act E R)} {s : State E R}
    (hRun : StepRun.run (step codec cfg) State.init acts = some s) :
    (∀ c i, (c, i) ∈ s.called → Authenticated cfg (s.conns c).received ∧
      Requested (s.conns c).received i) ∧
    (∀ k c, (s.calls k).pc = .sending c → Authenticated cfg (s.conns c).received) ∧
    (∀ w ∈ s.wire, ∀ payload, w.frame = .event payload →
      Authenticated cfg (s.conns w.conn).received) ∧
    (∀ w ∈ s.wire, ∀ id reply, w.frame = .response id reply →
      ∃ i entries, w.source = .request i ∧
        (s.conns w.conn).received[i]? = some (.dict entries) ∧
        hasKind entries "request" = true ∧ id = Value.get entries "id") ∧
    (∀ c i, responses s c i ≤ 1) := by
  have h : Guarded cfg s :=
    StepRun.Invariant.run (fun _ a _ hs hStep => Guarded.step hs a hStep) Guarded.init hRun
  refine ⟨h.called, h.calls, ?_, ?_, ?_⟩
  · intro w hw payload hFrame
    have hOk := h.wire w hw
    unfold WireOk at hOk
    split at hOk
    · obtain ⟨ok, hAck⟩ := hOk
      rw [hFrame] at hAck
      cases hAck
    · obtain ⟨-, entries, reply, -, -, hResponse⟩ := hOk
      rw [hFrame] at hResponse
      cases hResponse
    · exact hOk.1
  · intro w hw id reply hFrame
    have hOk := h.wire w hw
    unfold WireOk at hOk
    split at hOk
    · obtain ⟨ok, hAck⟩ := hOk
      rw [hFrame] at hAck
      cases hAck
    · next i hSource =>
      obtain ⟨-, entries, reply', hGet, hKind, hResponse⟩ := hOk
      rw [hFrame] at hResponse
      cases hResponse
      exact ⟨i, entries, hSource, hGet, hKind, rfl⟩
    · obtain ⟨-, payload, hEvent⟩ := hOk
      rw [hFrame] at hEvent
      cases hEvent
  · intro c i
    refine le_trans (h.once c i) ?_
    split <;> decide

def servedRun : List (Act Bool Unit) :=
  sampleHandshake 0 ++ [.frame 0 sampleRequest, .accept 1,
    .frame 1 (.dict [("kind", .str "hello"), ("token", .str "guess")]), .session 1,
    .dispatch 0 1 (.result ()), .dispatch 0 1 (.result ())]

theorem only_authenticated_servedRun :
    ∃ s, StepRun.run (step sampleCodec sampleConfig) State.init servedRun = some s ∧
      s.called = [(0, 1)] ∧ Authenticated sampleConfig (s.conns 0).received ∧
      responses s 0 1 = 1 ∧ responses s 0 1 ≤ 1 := by
  refine StepRun.exists_end rfl fun s hRun => ?_
  obtain ⟨hAuth, -, -, -, hOnce⟩ := only_authenticated sampleCodec sampleConfig hRun
  cases hRun
  exact ⟨rfl, (hAuth 0 1 List.mem_cons_self).1, by decide, hOnce 0 1⟩

end Sniff4Hound.IpcServer
