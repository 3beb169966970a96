import Sniff4Hound.Runtime.IpcServer

/-!
# Events that cannot be sent

`publish` takes every exception of `_send_frame` for a dead connection and forgets the
client. For an event that cannot be encoded, or not within `MAX_FRAME_BYTES`, the connection
is as alive as before: it stays open, its requests are answered, and no later event reaches
it (`event_lost_with_bad`). `events_delivered` is what holds as long as no such event is
handled while its connection is still the subscribed one.

The subscriber of a state is the connection that subscribed last; it is `Live` until either
end closes it, its session leaves the request loop or the server is being stopped.
-/

namespace Sniff4Hound.IpcServer

open Ipc

variable {E R : Type}

def SessionPc.serving : SessionPc → Bool
  | .closePrevious _ | .loop | .recv | .inline _ => true
  | _ => false

def SessionPc.late : SessionPc → Bool
  | .closePrevious _ | .loop | .recv | .inline _ | .ending | .closing | .closed => true
  | _ => false

/-- The connection is the subscriber and is being served. -/
structure Live (s : State E R) (c : ConnId) : Prop where
  subscriber : s.subscriber = some c
  isOpen : (s.conns c).isOpen = true
  serving : (s.conns c).pc.serving = true
  running : s.stopEvent = false

/-- Two frames in the order they were written: if both carry events, they are of two calls,
and the later one had not returned when the other began. -/
def InOrder (calls : CallId → Call E) (a b : Wire E R) : Prop :=
  ∀ j k, a.source = .call j → b.source = .call k → j ≠ k ∧ k ∉ (calls j).after

/-- What a connection that has been late stays: it does not open again and does not serve
again. -/
structure Conn.Later (old new : Conn R) : Prop where
  late : old.pc.late = true → new.pc.late = true
  isOpen : old.pc.late = true → new.isOpen = true → old.isOpen = true
  serving : old.pc.late = true → new.pc.serving = true → old.pc.serving = true

theorem Conn.Later.refl (conn : Conn R) : Conn.Later conn conn :=
  ⟨id, fun _ h => h, fun _ h => h⟩

theorem Conn.Later.of_early {old new : Conn R} (hOld : old.pc.late = false) :
    Conn.Later old new := by
  constructor <;> intro hLate <;> rw [hOld] at hLate <;> cases hLate

theorem Conn.Later.of_serving {old new : Conn R} (hOld : old.pc.serving = true)
    (hNew : new.pc.late = true) (hOpen : new.isOpen = old.isOpen) : Conn.Later old new :=
  ⟨fun _ => hNew, fun _ h => hOpen ▸ h, fun _ _ => hOld⟩

variable (codec : JsonCodec (Outgoing E R))

structure Delivering (s : State E R) : Prop where
  client : ∀ c, Live s c → s.client = some c
  clientLate : ∀ c, s.client = some c → (s.conns c).pc.late = true
  subscriberLate : ∀ c, s.subscriber = some c → (s.conns c).pc.late = true
  seenLate : ∀ k c, (s.calls k).seen = some c → (s.conns c).pc.late = true
  heldLate : ∀ k c, (s.calls k).pc = .sending c ∨ (s.calls k).pc = .failed c →
    (s.conns c).pc.late = true
  held : ∀ k d c, (s.calls k).pc = .sending d ∨ (s.calls k).pc = .failed d →
    (s.calls k).seen = some c → Live s c → d = c
  failed : ∀ k c frame, (s.calls k).pc = .failed c → (s.calls k).frame = some frame →
    Sendable codec frame → (s.conns c).isOpen = false
  delivered : ∀ k c event, (s.calls k).pc = .returned → (s.calls k).event = some event →
    (s.calls k).seen = some c → Live s c → Sendable codec (.event event : Outgoing E R) →
      (⟨c, .call k, .event event⟩ : Wire E R) ∈ s.wire
  sent : ∀ w ∈ s.wire, ∀ k, w.source = .call k → (s.calls k).pc = .returned ∧
    (s.calls k).frame = some w.frame ∧ Sendable codec w.frame
  order : s.wire.Pairwise (InOrder s.calls)
  after : ∀ k j, j ∈ (s.calls k).after → j ∈ s.returned
  returned : ∀ k, k ∈ s.returned → (s.calls k).pc = .returned
  stop : s.stopPc ≠ .running → s.stopEvent = true

namespace Delivering

variable {codec} {s s' : State E R}

theorem init : Delivering codec (State.init : State E R) where
  client c h := nomatch h.subscriber
  clientLate _ := nofun
  subscriberLate _ := nofun
  seenLate _ _ := nofun
  heldLate _ _ h := by rcases h with h | h <;> cases h
  held _ _ _ h := by rcases h with h | h <;> cases h
  failed _ _ _ := nofun
  delivered _ _ _ := nofun
  sent _ := nofun
  order := List.Pairwise.nil
  after _ _ := nofun
  returned _ := nofun
  stop h := absurd rfl h

variable (h : Delivering codec s)

include h

theorem frame (hCalls : s'.calls = s.calls) (hReturned : s'.returned = s.returned)
    (hWire : ∃ new, s'.wire = s.wire ++ new ∧ ∀ w ∈ new, ∀ k, w.source ≠ .call k)
    (hLater : ∀ c, Conn.Later (s.conns c) (s'.conns c))
    (hLive : ∀ c, (s.conns c).pc.late = true → Live s' c → Live s c)
    (hSubscriber : ∀ c, s'.subscriber = some c → (s'.conns c).pc.late = true)
    (hClientLate : ∀ c, s'.client = some c → (s'.conns c).pc.late = true)
    (hClient : ∀ c, Live s' c → s'.client = some c)
    (hStop : s'.stopPc ≠ .running → s'.stopEvent = true) : Delivering codec s' := by
  obtain ⟨new, hWire, hNew⟩ := hWire
  constructor
  · exact hClient
  · exact hClientLate
  · exact hSubscriber
  · intro k c hSeen
    rw [hCalls] at hSeen
    exact (hLater c).late (h.seenLate k c hSeen)
  · intro k c hHeld
    rw [hCalls] at hHeld
    exact (hLater c).late (h.heldLate k c hHeld)
  · intro k d c hHeld hSeen hNow
    rw [hCalls] at hHeld hSeen
    exact h.held k d c hHeld hSeen (hLive c (h.seenLate k c hSeen) hNow)
  · intro k c frame hFailed hFrame hSend
    rw [hCalls] at hFailed hFrame
    have hClosed := h.failed k c frame hFailed hFrame hSend
    by_contra hOpen
    rw [Bool.not_eq_false] at hOpen
    have := (hLater c).isOpen (h.heldLate k c (Or.inr hFailed)) hOpen
    rw [hClosed] at this
    cases this
  · intro k c event hDone hEvent hSeen hNow hSend
    rw [hCalls] at hDone hEvent hSeen
    rw [hWire]
    exact List.mem_append_left _
      (h.delivered k c event hDone hEvent hSeen (hLive c (h.seenLate k c hSeen) hNow) hSend)
  · intro w hw k hSource
    rw [hWire] at hw
    rw [hCalls]
    rcases List.mem_append.mp hw with hOld | hAdded
    · exact h.sent w hOld k hSource
    · exact absurd hSource (hNew w hAdded k)
  · rw [hWire, hCalls, List.pairwise_append]
    refine ⟨h.order, ?_, ?_⟩
    · refine List.pairwise_of_forall_mem_list ?_
      intro a ha b _ j _ hSource
      exact absurd hSource (hNew a ha j)
    · intro a _ b hb _ k _ hSource
      exact absurd hSource (hNew b hb k)
  · intro k j hj
    rw [hCalls] at hj
    rw [hReturned]
    exact h.after k j hj
  · intro k hk
    rw [hReturned] at hk
    rw [hCalls]
    exact h.returned k hk
  · exact hStop

theorem quiet (hCalls : s'.calls = s.calls) (hReturned : s'.returned = s.returned)
    (hWire : ∃ new, s'.wire = s.wire ++ new ∧ ∀ w ∈ new, ∀ k, w.source ≠ .call k)
    (hLater : ∀ c, Conn.Later (s.conns c) (s'.conns c))
    (hSubscriber : s'.subscriber = s.subscriber) (hClient : s'.client = s.client)
    (hEvent : s'.stopEvent = s.stopEvent) (hStop : s'.stopPc ≠ .running → s.stopPc ≠ .running) :
    Delivering codec s' := by
  have hLive : ∀ c, (s.conns c).pc.late = true → Live s' c → Live s c := fun c hLate hNow =>
    ⟨hSubscriber ▸ hNow.subscriber, (hLater c).isOpen hLate hNow.isOpen,
      (hLater c).serving hLate hNow.serving, hEvent ▸ hNow.running⟩
  refine h.frame hCalls hReturned hWire hLater hLive ?_ ?_ ?_ ?_
  · intro c hc
    exact (hLater c).late (h.subscriberLate c (hSubscriber ▸ hc))
  · intro c hc
    exact (hLater c).late (h.clientLate c (hClient ▸ hc))
  · intro c hNow
    rw [hClient]
    exact h.client c (hLive c (h.subscriberLate c (hSubscriber ▸ hNow.subscriber)) hNow)
  · intro hPc
    rw [hEvent]
    exact h.stop (hStop hPc)

/-! ### Steps that publish nothing -/

variable {c : ConnId}

theorem setConn {conn : Conn R} (hLater : Conn.Later (s.conns c) conn)
    (called : List (ConnId × Nat)) (new : List (Wire E R))
    (hNew : ∀ w ∈ new, ∀ k, w.source ≠ .call k) :
    Delivering codec { s.setConn c conn with called := called, wire := s.wire ++ new } := by
  refine h.quiet rfl rfl ⟨new, rfl, hNew⟩ ?_ rfl rfl rfl id
  intro d
  rcases eq_or_ne d c with rfl | hd
  · simpa [State.setConn] using hLater
  · simpa [State.setConn, hd] using Conn.Later.refl (s.conns d)

theorem setConn' {conn : Conn R} (hLater : Conn.Later (s.conns c) conn) :
    Delivering codec (s.setConn c conn) := by
  simpa [State.setConn] using h.setConn hLater s.called [] nofun

theorem close : ∀ c, Delivering codec (s.close c)
  | none => h
  | some _ => h.setConn' ⟨id, nofun, fun _ h => h⟩

theorem setDispatch (c : ConnId) (i : Nat) (pc : DispatchPc R) :
    Delivering codec (s.setDispatch c i pc) :=
  h.setConn' ⟨id, fun _ h => h, fun _ h => h⟩

omit h

variable {cfg : Config} (h : Delivering codec s)

include h

theorem frameStep {message : Value} (hStep : IpcServer.frameStep cfg s c message = some s') :
    Delivering codec s' := by
  unfold IpcServer.frameStep at hStep
  dsimp only at hStep
  split at hStep
  · next hPc =>
    cases hStep
    exact h.setConn' (Conn.Later.of_early (by rw [hPc]; rfl))
  · next hPc =>
    have hServing : (s.conns c).pc.serving = true := by rw [hPc]; rfl
    split at hStep
    · split at hStep
      · cases hStep
        refine h.setConn' (Conn.Later.of_serving hServing ?_ rfl)
        dsimp only
        split <;> rfl
      · cases hStep
        exact h.setConn' (Conn.Later.of_serving hServing rfl rfl)
    · cases hStep
      exact h.setConn' (Conn.Later.of_serving hServing rfl rfl)
  · cases hStep

theorem subscribe (hPc : (s.conns c).pc = .subscribe) (previous : Option ConnId) :
    Delivering codec
      { s.goto c (.closePrevious previous) with client := some c, subscriber := some c } := by
  have hNotLate : (s.conns c).pc.late = false := by rw [hPc]; rfl
  have hLater : ∀ d, Conn.Later (s.conns d) ((s.goto c (.closePrevious previous)).conns d) := by
    intro d
    rcases eq_or_ne d c with rfl | hd
    · exact Conn.Later.of_early hNotLate
    · simpa [State.goto, State.setConn, hd] using Conn.Later.refl (s.conns d)
  have hNewLate : ((s.goto c (.closePrevious previous)).conns c).pc.late = true := by
    simp [State.goto, State.setConn, SessionPc.late]
  refine h.frame rfl rfl ⟨[], (List.append_nil _).symm, nofun⟩ hLater ?_ ?_ ?_ ?_ h.stop
  · intro d hLate hNow
    cases hNow.subscriber
    rw [hNotLate] at hLate
    cases hLate
  · intro d hd
    cases hd
    exact hNewLate
  · intro d hd
    cases hd
    exact hNewLate
  · intro d hNow
    exact hNow.subscriber

theorem leave (hPc : (s.conns c).pc = .ending) :
    Delivering codec ((s.unsubscribe c).goto c .closing) := by
  have hLater : ∀ d, Conn.Later (s.conns d) (((s.unsubscribe c).goto c .closing).conns d) := by
    intro d
    rcases eq_or_ne d c with rfl | hd
    · exact ⟨fun _ => by simp [State.goto, State.setConn, SessionPc.late],
        fun _ hOpen => by simpa [State.goto, State.setConn, State.unsubscribe] using hOpen,
        fun _ hServing => by simp [State.goto, State.setConn, SessionPc.serving] at hServing⟩
    · simpa [State.goto, State.setConn, State.unsubscribe, hd] using Conn.Later.refl (s.conns d)
  have hLive : ∀ d, (s.conns d).pc.late = true →
      Live ((s.unsubscribe c).goto c .closing) d → Live s d := fun d hLate hNow =>
    ⟨hNow.subscriber, (hLater d).isOpen hLate hNow.isOpen, (hLater d).serving hLate hNow.serving,
      hNow.running⟩
  refine h.frame rfl rfl ⟨[], (List.append_nil _).symm, nofun⟩ hLater hLive ?_ ?_ ?_ h.stop
  · intro d hd
    exact (hLater d).late (h.subscriberLate d hd)
  · intro d hd
    refine (hLater d).late (h.clientLate d ?_)
    simp only [State.goto, State.setConn, State.unsubscribe] at hd
    split at hd
    · cases hd
    · exact hd
  · intro d hNow
    have hClient := h.client d (hLive d (h.subscriberLate d hNow.subscriber) hNow)
    have hNe : d ≠ c := by
      rintro rfl
      have := hNow.serving
      simp [State.goto, State.setConn, SessionPc.serving] at this
    simp [State.goto, State.setConn, State.unsubscribe, hClient, hNe]

theorem sessionStep (hStep : IpcServer.sessionStep codec s c = some s') : Delivering codec s' := by
  unfold IpcServer.sessionStep at hStep
  split at hStep
  case h_1 hPc =>
      have hEarly : (s.conns c).pc.late = false := by rw [hPc]; rfl
      split at hStep
      · cases hStep
        exact h.setConn (Conn.Later.of_early hEarly) s.called _ (by simp)
      · cases hStep
        exact h.setConn' (Conn.Later.of_early hEarly)
  case h_2 hPc =>
      have hEarly : (s.conns c).pc.late = false := by rw [hPc]; rfl
      split at hStep
      · cases hStep
        exact h.setConn (Conn.Later.of_early hEarly) s.called _ (by simp)
      · cases hStep
        exact h.setConn' (Conn.Later.of_early hEarly)
  case h_3 hPc =>
      cases hStep
      exact h.subscribe hPc s.client
  case h_4 previous hPc =>
      cases hStep
      have hStay : ((s.close previous).conns c).pc = .closePrevious previous := by
        cases previous with
        | none => exact hPc
        | some p =>
          rcases eq_or_ne c p with rfl | hNe
          · simpa [State.close, State.setConn] using hPc
          · simpa [State.close, State.setConn, hNe] using hPc
      exact (h.close previous).setConn'
        (Conn.Later.of_serving (by rw [hStay]; rfl) rfl rfl)
  case h_5 hPc =>
      cases hStep
      refine h.setConn' (Conn.Later.of_serving (by rw [hPc]; rfl) ?_ rfl)
      dsimp only
      split <;> rfl
  case h_6 i hPc =>
      split at hStep
      · cases hStep
        refine h.setConn' (Conn.Later.of_serving (by rw [hPc]; rfl) ?_ rfl)
        dsimp only
        split <;> rfl
      · cases hStep
  case h_7 hPc =>
      cases hStep
      exact h.leave hPc
  case h_8 hPc =>
      cases hStep
      exact h.setConn' ⟨fun _ => rfl, fun _ => nofun, fun _ => nofun⟩
  case h_9 => cases hStep

theorem recvRaises (hStep : IpcServer.recvRaises s c = some s') : Delivering codec s' := by
  unfold IpcServer.recvRaises at hStep
  split at hStep
  · next hPc =>
    cases hStep
    exact h.setConn' (Conn.Later.of_early (by rw [hPc]; rfl))
  · next hPc =>
    cases hStep
    exact h.setConn' (Conn.Later.of_serving (by rw [hPc]; rfl) rfl rfl)
  · cases hStep

theorem dispatchStep {i : Nat} {outcome : Reply R}
    (hStep : IpcServer.dispatchStep codec cfg s c i outcome = some s') : Delivering codec s' := by
  have hSame : ∀ pc, Conn.Later (s.conns c)
      { s.conns c with dispatch := Function.update (s.conns c).dispatch i pc } := fun _ =>
    ⟨id, fun _ h => h, fun _ h => h⟩
  unfold IpcServer.dispatchStep at hStep
  dsimp only at hStep
  split at hStep
  · split at hStep
    · cases hStep
      exact h.setDispatch c i _
    · split at hStep
      · split at hStep
        · cases hStep
          simpa [State.setDispatch, State.setConn] using
            h.setConn (hSame _) (s.called ++ [(c, i)]) [] nofun
        · cases hStep
          exact h.setDispatch c i _
      · cases hStep
        exact h.setDispatch c i _
  · split at hStep
    · cases hStep
      exact h.setConn (hSame _) s.called _ (by simp)
    · cases hStep
      exact h.setDispatch c i _
  · split at hStep
    · cases hStep
      exact h.setConn (hSame _) s.called _ (by simp)
    · cases hStep
      exact h.setDispatch c i _
  · cases hStep

theorem stopStep (hStep : IpcServer.stopStep s = some s') : Delivering codec s' := by
  have hNone : ∃ new : List (Wire E R), s.wire = s.wire ++ new ∧
      ∀ w ∈ new, ∀ k, w.source ≠ .call k := ⟨[], (List.append_nil _).symm, nofun⟩
  unfold IpcServer.stopStep at hStep
  split at hStep
  · cases hStep
    exact h.frame rfl rfl hNone (fun c => Conn.Later.refl _) (fun c _ hNow => nomatch hNow.running)
      h.subscriberLate h.clientLate (fun c hNow => nomatch hNow.running) (fun _ => rfl)
  · next hPc =>
    cases hStep
    have hEvent : s.stopEvent = true := h.stop (by rw [hPc]; nofun)
    have hDead : ∀ c, ¬ Live { s with client := none, stopPc := .close s.client } c := by
      intro c hNow
      have hRunning : s.stopEvent = false := hNow.running
      rw [hEvent] at hRunning
      cases hRunning
    exact h.frame rfl rfl hNone (fun c => Conn.Later.refl _)
      (fun c _ hNow => absurd hNow (hDead c)) h.subscriberLate nofun
      (fun c hNow => absurd hNow (hDead c)) (fun _ => hEvent)
  · next client hPc =>
    cases hStep
    refine (h.close client).quiet rfl rfl ⟨[], (List.append_nil _).symm, nofun⟩
      (fun c => Conn.Later.refl _) rfl rfl rfl fun _ => ?_
    have hPhase : (s.close client).stopPc = s.stopPc := by cases client <;> rfl
    rw [hPhase, hPc]
    nofun
  · next hPc =>
    cases hStep
    exact h.quiet rfl rfl hNone (fun c => Conn.Later.refl _) rfl rfl rfl
      (fun _ => by rw [hPc]; nofun)
  · cases hStep

omit h

/-! ### Calls of `publish` -/

variable {k : CallId} (h : Delivering codec s)

include h

theorem unsent (hPc : (s.calls k).pc ≠ .returned) {w : Wire E R}
    (hw : w ∈ s.wire) : w.source ≠ .call k := fun hSource =>
  hPc (h.sent w hw k hSource).1

theorem order_update (hPc : (s.calls k).pc ≠ .returned) (call : Call E) :
    s.wire.Pairwise (InOrder (Function.update s.calls k call)) := by
  refine h.order.imp_of_mem ?_
  intro a b ha _ hOrder j l hj hl
  have hNe : j ≠ k := by
    rintro rfl
    exact h.unsent hPc ha hj
  rw [Function.update_of_ne hNe]
  exact hOrder j l hj hl

theorem setCall (call : Call E) (hPc : (s.calls k).pc ≠ .returned)
    (hNew : call.pc ≠ .returned) (hSeenLate : ∀ c, call.seen = some c → (s.conns c).pc.late = true)
    (hHeldLate : ∀ c, call.pc = .sending c ∨ call.pc = .failed c → (s.conns c).pc.late = true)
    (hHeld : ∀ d c, call.pc = .sending d ∨ call.pc = .failed d → call.seen = some c →
      Live s c → d = c)
    (hFailed : ∀ c frame, call.pc = .failed c → call.frame = some frame → Sendable codec frame →
      (s.conns c).isOpen = false)
    (hAfter : ∀ j ∈ call.after, j ∈ s.returned) : Delivering codec (s.setCall k call) := by
  have hLive : ∀ c, Live (s.setCall k call) c → Live s c := fun c hNow =>
    ⟨hNow.subscriber, hNow.isOpen, hNow.serving, hNow.running⟩
  have hSelf : (s.setCall k call).calls k = call := by simp [State.setCall]
  have hOther : ∀ {j}, j ≠ k → (s.setCall k call).calls j = s.calls j := fun hj => by
    simp [State.setCall, hj]
  constructor
  · exact fun c hNow => h.client c (hLive c hNow)
  · exact h.clientLate
  · exact h.subscriberLate
  · intro j c hSeen
    rcases eq_or_ne j k with rfl | hj
    · rw [hSelf] at hSeen
      exact hSeenLate c hSeen
    · rw [hOther hj] at hSeen
      exact h.seenLate j c hSeen
  · intro j c hAt
    rcases eq_or_ne j k with rfl | hj
    · rw [hSelf] at hAt
      exact hHeldLate c hAt
    · rw [hOther hj] at hAt
      exact h.heldLate j c hAt
  · intro j d c hAt hSeen hNow
    rcases eq_or_ne j k with rfl | hj
    · rw [hSelf] at hAt hSeen
      exact hHeld d c hAt hSeen (hLive c hNow)
    · rw [hOther hj] at hAt hSeen
      exact h.held j d c hAt hSeen (hLive c hNow)
  · intro j c frame hAt hFrame hSend
    rcases eq_or_ne j k with rfl | hj
    · rw [hSelf] at hAt hFrame
      exact hFailed c frame hAt hFrame hSend
    · rw [hOther hj] at hAt hFrame
      exact h.failed j c frame hAt hFrame hSend
  · intro j c event hDone hEvent hSeen hNow hSend
    rcases eq_or_ne j k with rfl | hj
    · rw [hSelf] at hDone
      exact absurd hDone hNew
    · rw [hOther hj] at hDone hEvent hSeen
      exact h.delivered j c event hDone hEvent hSeen (hLive c hNow) hSend
  · intro w hw j hSource
    have hj : j ≠ k := by
      rintro rfl
      exact h.unsent hPc hw hSource
    rw [hOther hj]
    exact h.sent w hw j hSource
  · exact h.order_update hPc call
  · intro j l hl
    rcases eq_or_ne j k with rfl | hj
    · rw [hSelf] at hl
      exact hAfter l hl
    · rw [hOther hj] at hl
      exact h.after j l hl
  · intro j hj
    have hNe : j ≠ k := by
      rintro rfl
      exact hPc (h.returned _ hj)
    rw [hOther hNe]
    exact h.returned j hj
  · exact h.stop

theorem finish (k : CallId) (hPc : (s.calls k).pc ≠ .returned)
    (new : List (Wire E R)) (hOne : new.length ≤ 1)
    (hNew : ∀ w ∈ new, w.source = .call k ∧ (s.calls k).frame = some w.frame ∧
      Sendable codec w.frame)
    (hDelivered : ∀ c event, (s.calls k).event = some event → (s.calls k).seen = some c →
      Live s c → Sendable codec (.event event : Outgoing E R) →
        (⟨c, .call k, .event event⟩ : Wire E R) ∈ new) :
    Delivering codec { s.finish k with wire := s.wire ++ new } := by
  have hLive : ∀ c, Live { s.finish k with wire := s.wire ++ new } c → Live s c := fun c hNow =>
    ⟨hNow.subscriber, hNow.isOpen, hNow.serving, hNow.running⟩
  have hSelf : (s.finish k).calls k = { s.calls k with pc := .returned } := by
    simp [State.finish, State.setCall]
  have hOther : ∀ {j}, j ≠ k → (s.finish k).calls j = s.calls j := fun hj => by
    simp [State.finish, State.setCall, hj]
  constructor
  · exact fun c hNow => h.client c (hLive c hNow)
  · exact h.clientLate
  · exact h.subscriberLate
  · intro j c hSeen
    rcases eq_or_ne j k with rfl | hj
    · rw [hSelf] at hSeen
      exact h.seenLate j c hSeen
    · rw [hOther hj] at hSeen
      exact h.seenLate j c hSeen
  · intro j c hAt
    rcases eq_or_ne j k with rfl | hj
    · rw [hSelf] at hAt
      rcases hAt with hAt | hAt <;> cases hAt
    · rw [hOther hj] at hAt
      exact h.heldLate j c hAt
  · intro j d c hAt hSeen hNow
    rcases eq_or_ne j k with rfl | hj
    · rw [hSelf] at hAt
      rcases hAt with hAt | hAt <;> cases hAt
    · rw [hOther hj] at hAt hSeen
      exact h.held j d c hAt hSeen (hLive c hNow)
  · intro j c frame hAt hFrame hSend
    rcases eq_or_ne j k with rfl | hj
    · rw [hSelf] at hAt
      cases hAt
    · rw [hOther hj] at hAt hFrame
      exact h.failed j c frame hAt hFrame hSend
  · intro j c event hDone hEvent hSeen hNow hSend
    rcases eq_or_ne j k with rfl | hj
    · rw [hSelf] at hEvent hSeen
      exact List.mem_append_right _ (hDelivered c event hEvent hSeen (hLive c hNow) hSend)
    · rw [hOther hj] at hDone hEvent hSeen
      exact List.mem_append_left _ (h.delivered j c event hDone hEvent hSeen (hLive c hNow) hSend)
  · intro w hw j hSource
    rcases List.mem_append.mp hw with hOld | hAdded
    · have hj : j ≠ k := by
        rintro rfl
        exact h.unsent hPc hOld hSource
      rw [hOther hj]
      exact h.sent w hOld j hSource
    · obtain ⟨hOwn, hFrame, hSend⟩ := hNew w hAdded
      rw [hOwn] at hSource
      cases hSource
      rw [hSelf]
      exact ⟨rfl, hFrame, hSend⟩
  · -- the call that returns now comes after every frame, and none of their calls waited for it
    refine List.pairwise_append.mpr ⟨h.order_update hPc _, ?_, ?_⟩
    · match new, hOne with
      | [], _ => exact List.Pairwise.nil
      | [_], _ => exact List.pairwise_singleton _ _
    · intro a ha b hb j l hj hl
      have hOwn := (hNew b hb).1
      rw [hOwn] at hl
      cases hl
      have hNe : j ≠ k := by
        rintro rfl
        exact h.unsent hPc ha hj
      refine ⟨hNe, ?_⟩
      show k ∉ ((s.finish k).calls j).after
      rw [hOther hNe]
      exact fun hBefore => hPc (h.returned k (h.after j k hBefore))
  · intro j l hl
    refine List.mem_append_left _ ?_
    rcases eq_or_ne j k with rfl | hj
    · rw [hSelf] at hl
      exact h.after j l hl
    · rw [hOther hj] at hl
      exact h.after j l hl
  · intro j hj
    rcases eq_or_ne j k with rfl | hNe
    · rw [hSelf]
    · rw [hOther hNe]
      rcases List.mem_append.mp hj with hOld | hAdded
      · exact h.returned j hOld
      · exact absurd (List.mem_singleton.mp hAdded) hNe
  · exact h.stop

theorem unsubscribe (hDead : s.client = some c → ¬ Live s c) :
    Delivering codec (s.unsubscribe c) := by
  have hLive : ∀ d, Live (s.unsubscribe c) d → Live s d := fun d hNow =>
    ⟨hNow.subscriber, hNow.isOpen, hNow.serving, hNow.running⟩
  refine h.frame rfl rfl ⟨[], (List.append_nil _).symm, nofun⟩ (fun d => Conn.Later.refl _)
    (fun d _ hNow => hLive d hNow) h.subscriberLate ?_ ?_ h.stop
  · intro d hd
    simp only [State.unsubscribe] at hd
    split at hd
    · cases hd
    · exact h.clientLate d hd
  · intro d hNow
    have hClient := h.client d (hLive d hNow)
    have hNe : d ≠ c := by
      rintro rfl
      exact hDead hClient (hLive _ hNow)
    simp [State.unsubscribe, hClient, hNe]

theorem publishStep {event : E} (hStep : IpcServer.publishStep s k event = some s') :
    Delivering codec s' := by
  unfold IpcServer.publishStep at hStep
  split at hStep
  · next hPc =>
    have hUnused : (s.calls k).pc ≠ .returned := by rw [hPc]; nofun
    split at hStep
    · next hNone =>
      cases hStep
      have hBegun := h.setCall (k := k) ⟨.unused, some event, s.subscriber, s.returned⟩
        hUnused nofun h.subscriberLate (fun c hAt => by rcases hAt with hAt | hAt <;> cases hAt)
        (fun d c hAt => by rcases hAt with hAt | hAt <;> cases hAt)
        (fun c frame hAt => by cases hAt) fun j hj => hj
      have hDone := hBegun.finish k (by simp [State.setCall]) [] (Nat.zero_le 1) nofun
        (fun c e _ _ hNow => by
          have hClient := hBegun.client c hNow
          have hSame : s.client = some c := hClient
          rw [hNone] at hSame
          cases hSame)
      simpa [State.finish, State.setCall] using hDone
    · next d hClient =>
      cases hStep
      refine h.setCall _ hUnused nofun h.subscriberLate ?_ ?_ (fun c frame hAt => by cases hAt)
        fun j hj => hj
      · intro c hAt
        rcases hAt with hAt | hAt <;> cases hAt
        exact h.clientLate _ hClient
      · intro e c hAt _ hNow
        rcases hAt with hAt | hAt <;> cases hAt
        have hLast := h.client c hNow
        rw [hClient] at hLast
        exact Option.some.inj hLast
  · cases hStep

/-- When the `except` branch runs for a frame that could have been sent, the connection is
dead; else it must not be the subscribed one any more. -/
theorem publisherStep
    (hGuard : ∀ c frame, (s.calls k).pc = .failed c → (s.calls k).frame = some frame →
    ¬ Sendable codec frame → s.client ≠ some c)
    (hStep : IpcServer.publisherStep codec s k = some s') : Delivering codec s' := by
  unfold IpcServer.publisherStep at hStep
  split at hStep
  · next c frame hPc hFrame =>
    have hHeld : (s.calls k).pc ≠ .returned := by rw [hPc]; nofun
    split at hStep
    · next hSends =>
      cases hStep
      have hSend : Sendable codec frame := by
        simp only [sends, Bool.and_eq_true, decide_eq_true_eq] at hSends
        exact hSends.1
      refine h.finish k hHeld [⟨c, .call k, frame⟩] (Nat.le_refl 1) ?_ ?_
      · intro w hw
        rw [List.mem_singleton.mp hw]
        exact ⟨rfl, hFrame, hSend⟩
      · intro d event hEvent hSeen hNow _
        have hSame : c = d := h.held k c d (Or.inl hPc) hSeen hNow
        have hOwn : frame = .event event := by
          simp only [Call.frame, hEvent, Option.map_some, Option.some.injEq] at hFrame
          exact hFrame.symm
        rw [hSame, hOwn]
        exact List.mem_singleton_self _
    · next hSends =>
      cases hStep
      refine h.setCall _ hHeld nofun (fun d hSeen => h.seenLate k d hSeen) ?_ ?_ ?_
        (fun j hj => h.after k j hj)
      · intro d hAt
        rcases hAt with hAt | hAt <;> cases hAt
        exact h.heldLate k _ (Or.inl hPc)
      · intro d e hAt hSeen hNow
        rcases hAt with hAt | hAt <;> cases hAt
        exact h.held k _ e (Or.inl hPc) hSeen hNow
      · intro d frame' hAt hFrame' hSend
        cases hAt
        have hEq : frame = frame' := by
          have hCopy : (s.calls k).frame = some frame' := hFrame'
          rw [hFrame] at hCopy
          exact Option.some.inj hCopy
        subst hEq
        simpa [sends, hSend] using hSends
  · next c frame hPc hFrame =>
    cases hStep
    have hHeld : (s.calls k).pc ≠ .returned := by rw [hPc]; nofun
    have hDead : s.client = some c → ¬ Live s c := by
      intro hClient hNow
      by_cases hSend : Sendable codec frame
      · have hClosed := h.failed k c frame hPc hFrame hSend
        rw [hNow.isOpen] at hClosed
        cases hClosed
      · exact hGuard c frame hPc hFrame hSend hClient
    have hLost := (h.unsubscribe hDead).finish k hHeld [] (Nat.zero_le 1) nofun
      (by
        intro d event hEvent hSeen hNow hSend
        have hLive : Live s d := ⟨hNow.subscriber, hNow.isOpen, hNow.serving, hNow.running⟩
        have hSame : c = d := h.held k c d (Or.inr hPc) hSeen hLive
        subst hSame
        have hOwn : (s.calls k).frame = some (.event event : Outgoing E R) := by
          have hCopy : (s.calls k).event = some event := hEvent
          simp [Call.frame, hCopy]
        have hClosed := h.failed k c _ hPc hOwn hSend
        rw [hLive.isOpen] at hClosed
        cases hClosed)
    simpa [State.finish, State.setCall, State.unsubscribe] using hLost
  · cases hStep

end Delivering

/-! ## Whole runs -/

/-- The step does not take a frame that cannot be sent for a dead subscriber: it is not the
`except` branch of `publish` for such a frame while its connection is the client. -/
def SparesClient (s : State E R) : Act E R → Prop
  | .publisher k =>
    match (s.calls k).pc, (s.calls k).frame with
    | .failed c, some frame => Sendable codec frame ∨ s.client ≠ some c
    | _, _ => True
  | _ => True

instance (s : State E R) (a : Act E R) : Decidable (SparesClient codec s a) := by
  unfold SparesClient
  split
  · split <;> infer_instance
  · infer_instance

variable {codec} {cfg : Config} {s s' : State E R}

theorem Delivering.step (h : Delivering codec s) {a : Act E R} (hSpares : SparesClient codec s a)
    (hStep : IpcServer.step codec cfg s a = some s') : Delivering codec s' := by
  cases a with
  | accept c =>
    simp only [IpcServer.step] at hStep
    split at hStep
    · next hPc =>
      cases hStep
      exact h.setConn' (Conn.Later.of_early (by rw [hPc]; rfl))
    · cases hStep
  | peerCloses c =>
    simp only [IpcServer.step] at hStep
    split at hStep
    · cases hStep
    · cases hStep
      exact h.close (some c)
  | frame c message => exact h.frameStep hStep
  | recvRaises c => exact h.recvRaises hStep
  | session c => exact h.sessionStep hStep
  | dispatch c i outcome => exact h.dispatchStep hStep
  | publish k event => exact h.publishStep hStep
  | publisher k =>
    refine h.publisherStep ?_ hStep
    intro c frame hPc hFrame hBad
    simp only [SparesClient, hPc, hFrame] at hSpares
    exact hSpares.resolve_left hBad
  | stop => exact h.stopStep hStep

theorem publish_closes_nothing {a : Act E R} (hPublish : (∃ k e, a = .publish k e) ∨
    ∃ k, a = .publisher k) (hStep : IpcServer.step codec cfg s a = some s') :
    s'.conns = s.conns := by
  rcases hPublish with ⟨k, event, rfl⟩ | ⟨k, rfl⟩
  · simp only [IpcServer.step, publishStep] at hStep
    split at hStep
    · split at hStep <;> cases hStep <;> rfl
    · cases hStep
  · simp only [IpcServer.step, publisherStep] at hStep
    split at hStep
    · split at hStep <;> cases hStep <;> rfl
    · cases hStep
      rfl
    · cases hStep

/-- In every run in which no frame that cannot be sent is taken for a dead subscriber: an
event published after a connection had subscribed, and that can be sent, has reached it when
the call returns, as long as that connection is the last to have subscribed and is not being
torn down; events are written at most once, in the order of their calls, and one that cannot
be sent never; and no step of `publish` touches a connection. -/
theorem events_delivered (codec : JsonCodec (Outgoing E R)) (cfg : Config)
    {acts : List (Act E R)} {s : State E R}
    (hRun : StepRun.run (StepRun.guarded (SparesClient codec) (step codec cfg)) State.init acts
      = some s) :
    (∀ k c event, (s.calls k).pc = .returned → (s.calls k).event = some event →
      (s.calls k).seen = some c → Live s c → Sendable codec (.event event : Outgoing E R) →
        (⟨c, .call k, .event event⟩ : Wire E R) ∈ s.wire) ∧
    s.wire.Pairwise (InOrder s.calls) ∧
    (∀ w ∈ s.wire, ∀ k, w.source = .call k → (s.calls k).frame = some w.frame ∧
      Sendable codec w.frame) ∧
    (∀ a s', ((∃ k e, a = .publish k e) ∨ ∃ k, a = .publisher k) →
      step codec cfg s a = some s' → s'.conns = s.conns) := by
  have h : Delivering codec s := by
    refine StepRun.Invariant.run ?_ Delivering.init hRun
    intro t a u ht hStep
    obtain ⟨hSpares, hTaken⟩ := StepRun.guarded_eq_some.mp hStep
    exact ht.step hSpares hTaken
  exact ⟨h.delivered, h.order, fun w hw k hSource => (h.sent w hw k hSource).2,
    fun a s' hPublish hStep => publish_closes_nothing hPublish hStep⟩

def badEventRun : List (Act Bool Unit) :=
  sampleHandshake 0 ++ [.publish 0 false, .publisher 0, .publisher 0, .publish 1 true]

/-- The connection is open and in its loop, and the good event has not been sent to it. -/
theorem event_lost_with_bad :
    ∃ s, StepRun.run (step sampleCodec sampleConfig) State.init badEventRun = some s ∧
      Live s 0 ∧ (s.calls 1).pc = .returned ∧ (s.calls 1).event = some true ∧
      (s.calls 1).seen = some 0 ∧ Sendable sampleCodec (.event true) ∧
      ∀ w ∈ s.wire, w.source ≠ .call 1 :=
  ⟨_, rfl, ⟨rfl, rfl, rfl, rfl⟩, rfl, rfl, rfl, by decide, by decide⟩

def goodEventsRun : List (Act Bool Unit) :=
  [.publish 0 false] ++ sampleHandshake 0 ++ [.publish 1 true, .publisher 1, .publish 2 true,
    .publisher 2]

theorem events_delivered_goodEventsRun :
    ∃ s, StepRun.run (StepRun.guarded (SparesClient sampleCodec) (step sampleCodec sampleConfig))
        State.init goodEventsRun = some s ∧
      (⟨0, .call 2, .event true⟩ : Wire Bool Unit) ∈ s.wire ∧
      s.wire.Pairwise (InOrder s.calls) := by
  refine StepRun.exists_end rfl fun s hRun => ?_
  obtain ⟨hDelivered, hOrder, -⟩ := events_delivered sampleCodec sampleConfig hRun
  cases hRun
  exact ⟨hDelivered 2 0 true rfl rfl rfl ⟨rfl, rfl, rfl, rfl⟩ (by decide), hOrder⟩

end Sniff4Hound.IpcServer
