import Sniff4Hound.Realtime.ProtocolSlice
import Sniff4Hound.Realtime.RealtimeSession

/-!
# The life of a stream

`realtime_stream` registers its session before it makes the generator that has the clean-up in its
`finally` clause, and `_guarded_send_http_response` asks the generator for a chunk only behind the head
of the response. A generator that is closed or dropped before it was entered runs nothing of its body.
So the session goes with the stream exactly when the head could be sent and a body is wanted
(`stream_released_iff`): the session of a client that is gone by then stays in `_REALTIME_SESSIONS`.
-/

namespace Sniff4Hound.Realtime

/-- The keys of `WS_FEEDS`. -/
def WS_FEEDS : List String :=
  ["protocols", "ips", "ports", "banners", "tags", "targets", "dashboard", "analytics", "map",
    "domains", "paths", "ipcatalog", "soc"]

structure Subscription where
  feed : String
  params : FeedParams
  interval : Rat

structure Client where
  subscription : Option Subscription

/-- `_clients` of the hub, by the objects. -/
abbrev Clients := Dict Nat Client

def Clients.register (clients : Clients) (ws : Nat) : Clients := clients.set ws ⟨none⟩

/-- `subscribe_snapshot` and `unsubscribe_snapshot`. -/
def Clients.subscribe (clients : Clients) (ws : Nat) (subscription : Option Subscription) : Clients :=
  match clients.lookup ws with
  | none => clients
  | some _ => clients.set ws ⟨subscription⟩

def Clients.unregister (clients : Clients) (ws : Nat) : Clients := clients.erase ws

/-- What `broadcast`, `ping`, `send_to` and `close` leave, when these clients are dropped. -/
def Clients.dropped (clients : Clients) (dead : Nat → Bool) : Clients :=
  clients.filter fun entry => !dead entry.1

structure StreamRequest where
  /-- the session that is made for it, and its `id` -/
  ws : Nat
  session : String
  /-- the stripped `feed` -/
  feed_name : String
  query : String → Value
  /-- what `_normalize_refresh` answers -/
  refresh : Rat
  send_body : Bool

def StreamRequest.unknownFeed (request : StreamRequest) : Prop :=
  request.feed_name ≠ "" ∧ request.feed_name ∉ WS_FEEDS

instance (request : StreamRequest) : Decidable request.unknownFeed :=
  inferInstanceAs (Decidable (_ ∧ _))

inductive Answering
  | arrives
  /-- before `_REALTIME_SESSIONS[session.id] = session` -/
  | lists
  | registers
  | heads
  /-- The generator has yielded, and the chunk is before it is sent; `last` is the close event. -/
  | sends (greeting last : Bool)
  | subscribes
  /-- before `next_event` -/
  | reads
  /-- in the `finally` clause, before `hub.unregister` -/
  | unregisters
  /-- before `_REALTIME_SESSIONS.pop` -/
  | forgets
  | answered
deriving DecidableEq

/-- The clients of the feed, the sessions and the answer. -/
structure StreamState where
  clients : Clients
  sessions : Dict String Nat
  answering : Answering

/-- The next step of the answer. -/
inductive StreamEvent
  | arrive
  | list
  | register
  /-- `sendall` of the head goes through or raises -/
  | head (sent : Bool)
  /-- `sendall` of a chunk -/
  | chunk (sent : Bool)
  | subscribe
  /-- `next_event` answers an event or nothing, and the session is closed or not -/
  | read (item : Option Event) (closed : Bool)
  | unregister
  | forget
  | otherListed (id : String) (ws : Nat)
  | otherRegistered (ws : Nat)
  | otherForgotten (id : String)
  | command (ws : Nat) (subscription : Option Subscription)
  | drops (dead : Nat → Bool)

variable (env : SliceEnv) (request : StreamRequest)

/-- `realtime_stream`, `events` and the loop of `_guarded_send_http_response`. When a chunk cannot be
sent, the generator is closed where it stands, and that is behind a `yield` inside of `try`. -/
def StreamState.step (s : StreamState) : StreamEvent → Option StreamState
  | .arrive =>
    if s.answering = .arrives then
      some { s with answering := if request.unknownFeed then .answered else .lists }
    else none
  | .list =>
    if s.answering = .lists then
      some { s with sessions := s.sessions.set request.session request.ws, answering := .registers }
    else none
  | .register =>
    if s.answering = .registers then
      some { s with clients := s.clients.register request.ws, answering := .heads }
    else none
  | .head sent =>
    if s.answering = .heads then
      -- without a head or with no body to send, nobody asks the generator for anything
      if sent ∧ request.send_body then some { s with answering := .sends true false }
      else some { s with answering := .answered }
    else none
  | .chunk sent =>
    match s.answering with
    | .sends greeting last =>
      if sent = false ∨ last then some { s with answering := .unregisters }
      else some { s with answering := if greeting then .subscribes else .reads }
    | _ => none
  | .subscribe =>
    if s.answering = .subscribes then
      if request.feed_name = "" then some { s with answering := .reads }
      else
        match normalize_feed_params env request.query with
        | .error _ => some { s with answering := .unregisters }
        | .ok params =>
          let subscription := ⟨request.feed_name, params, request.refresh⟩
          some { s with
            clients := s.clients.subscribe request.ws (some subscription)
            answering := .reads }
    else none
  | .read item closed =>
    if s.answering = .reads then
      match item with
      | none => some { s with answering := .sends false closed }
      | some item => some { s with answering := .sends false item.isClose }
    else none
  | .unregister =>
    if s.answering = .unregisters then
      some { s with clients := s.clients.unregister request.ws, answering := .forgets }
    else none
  | .forget =>
    if s.answering = .forgets then
      some { s with sessions := s.sessions.erase request.session, answering := .answered }
    else none
  | .otherListed id ws =>
    if id = request.session then none else some { s with sessions := s.sessions.set id ws }
  | .otherRegistered ws =>
    if ws = request.ws then none else some { s with clients := s.clients.register ws }
  | .otherForgotten id =>
    if id = request.session then none else some { s with sessions := s.sessions.erase id }
  | .command ws subscription => some { s with clients := s.clients.subscribe ws subscription }
  | .drops dead => some { s with clients := s.clients.dropped dead }

/-- Neither the client nor the session of the request is in the tables. -/
def Released (s : StreamState) : Prop :=
  request.ws ∉ s.clients.keys ∧ request.session ∉ s.sessions.keys

def Entered (events : List StreamEvent) : Prop :=
  StreamEvent.head true ∈ events ∧ request.send_body = true

/-! ## The tables -/

section Tables

variable (clients : Clients) (ws other : Nat)

theorem mem_register : ws ∈ (clients.register other).keys ↔ ws ∈ clients.keys ∨ ws = other :=
  Dict.mem_keys_set clients other ws _

theorem mem_subscribe (subscription : Option Subscription) :
    ws ∈ (clients.subscribe other subscription).keys ↔ ws ∈ clients.keys := by
  rw [Clients.subscribe]
  split
  · exact Iff.rfl
  · next hOther =>
    rw [Dict.mem_keys_set, or_iff_left_of_imp]
    rintro rfl
    exact Dict.mem_keys_of_lookup hOther

theorem mem_dropped (dead : Nat → Bool) (h : ws ∈ (clients.dropped dead).keys) :
    ws ∈ clients.keys := by
  obtain ⟨entry, hEntry, rfl⟩ := List.mem_map.mp h
  exact List.mem_map_of_mem (List.mem_filter.mp hEntry).1

end Tables

/-! ## Where the session is registered -/

section Stream

variable {env request} {s s' : StreamState} {events : List StreamEvent} {event : StreamEvent}

def Standing (request : StreamRequest) (events : List StreamEvent) (s : StreamState) : Prop :=
  match s.answering with
  | .arrives => Released request s ∧ ¬Entered request events
  | .lists => Released request s ∧ ¬Entered request events ∧ ¬request.unknownFeed
  | .registers | .heads => request.session ∈ s.sessions.keys ∧ ¬Entered request events ∧
      ¬request.unknownFeed
  | .sends .. | .subscribes | .reads | .unregisters => Entered request events
  | .forgets => Entered request events ∧ request.ws ∉ s.clients.keys
  | .answered => (Released request s ∧ (request.unknownFeed ∨ Entered request events)) ∨
      (request.session ∈ s.sessions.keys ∧ ¬Entered request events ∧ ¬request.unknownFeed)

theorem entered_snoc (event : StreamEvent) (h : event ≠ .head true) :
    Entered request (events ++ [event]) ↔ Entered request events := by
  rw [Entered, Entered, List.mem_append, List.mem_singleton, or_iff_left (Ne.symm h)]

theorem Standing.quiet (h : Standing request events s) (hHead : event ≠ .head true)
    (hAt : s'.answering = s.answering)
    (hClients : request.ws ∈ s'.clients.keys → request.ws ∈ s.clients.keys)
    (hSessions : request.session ∈ s'.sessions.keys ↔ request.session ∈ s.sessions.keys) :
    Standing request (events ++ [event]) s' := by
  have hReleased : Released request s → Released request s' := fun hOut =>
    ⟨fun hIn => hOut.1 (hClients hIn), fun hIn => hOut.2 (hSessions.mp hIn)⟩
  rw [Standing, hAt]
  rw [Standing] at h
  cases hPhase : s.answering with
  | arrives =>
    rw [hPhase] at h
    exact ⟨hReleased h.1, by rw [entered_snoc _ hHead]; exact h.2⟩
  | lists =>
    rw [hPhase] at h
    exact ⟨hReleased h.1, by rw [entered_snoc _ hHead]; exact h.2.1, h.2.2⟩
  | registers | heads =>
    rw [hPhase] at h
    exact ⟨hSessions.mpr h.1, by rw [entered_snoc _ hHead]; exact h.2.1, h.2.2⟩
  | sends greeting last | subscribes | reads | unregisters =>
    rw [hPhase] at h
    exact (entered_snoc _ hHead).mpr h
  | forgets =>
    rw [hPhase] at h
    exact ⟨(entered_snoc _ hHead).mpr h.1, fun hIn => h.2 (hClients hIn)⟩
  | answered =>
    rw [hPhase] at h
    dsimp only at h ⊢
    rw [entered_snoc _ hHead]
    exact h.imp (fun hOut => ⟨hReleased hOut.1, hOut.2⟩)
      fun hLeft => ⟨hSessions.mpr hLeft.1, hLeft.2⟩

theorem standing_step (h : Standing request events s) (hStep : s.step env request event = some s') :
    Standing request (events ++ [event]) s' := by
  cases event with
  | arrive =>
    obtain ⟨hAt, hStep⟩ := Option.ite_none_right_eq_some.mp hStep
    cases hStep
    rw [Standing, hAt] at h
    obtain ⟨hOut, hBefore⟩ := h
    rw [← entered_snoc .arrive nofun] at hBefore
    by_cases hUnknown : request.unknownFeed
    · rw [Standing, if_pos hUnknown]
      exact Or.inl ⟨hOut, Or.inl hUnknown⟩
    · rw [Standing, if_neg hUnknown]
      exact ⟨hOut, hBefore, hUnknown⟩
  | list =>
    obtain ⟨hAt, hStep⟩ := Option.ite_none_right_eq_some.mp hStep
    cases hStep
    rw [Standing, hAt] at h
    obtain ⟨-, hBefore, hKnown⟩ := h
    rw [← entered_snoc .list nofun] at hBefore
    exact ⟨(Dict.mem_keys_set _ _ _ _).mpr (Or.inr rfl), hBefore, hKnown⟩
  | register =>
    obtain ⟨hAt, hStep⟩ := Option.ite_none_right_eq_some.mp hStep
    cases hStep
    rw [Standing, hAt] at h
    obtain ⟨hIn, hBefore, hKnown⟩ := h
    rw [← entered_snoc .register nofun] at hBefore
    exact ⟨hIn, hBefore, hKnown⟩
  | head sent =>
    obtain ⟨hAt, hStep⟩ := Option.ite_none_right_eq_some.mp hStep
    rw [Standing, hAt] at h
    obtain ⟨hIn, hBefore, hKnown⟩ := h
    split at hStep
    · next hSent =>
      cases hStep
      obtain ⟨rfl, hBody⟩ := hSent
      exact ⟨List.mem_append_right _ (List.mem_singleton.mpr rfl), hBody⟩
    · next hSent =>
      cases hStep
      refine Or.inr ⟨hIn, ?_, hKnown⟩
      rintro ⟨hMem, hBody⟩
      rcases List.mem_append.mp hMem with hMem | hMem
      · exact hBefore ⟨hMem, hBody⟩
      · cases List.mem_singleton.mp hMem
        exact hSent ⟨rfl, hBody⟩
  | chunk sent =>
    rw [StreamState.step] at hStep
    split at hStep
    · next greeting last hAt =>
      rw [Standing, hAt] at h
      have hEntered := (entered_snoc (.chunk sent) nofun).mpr h
      split at hStep
      · cases hStep
        exact hEntered
      · cases hStep
        cases greeting with
        | true => exact hEntered
        | false => exact hEntered
    · cases hStep
  | subscribe =>
    obtain ⟨hAt, hStep⟩ := Option.ite_none_right_eq_some.mp hStep
    rw [Standing, hAt] at h
    have hEntered := (entered_snoc .subscribe nofun).mpr h
    split at hStep
    · cases hStep
      exact hEntered
    split at hStep
    · cases hStep
      exact hEntered
    · cases hStep
      exact hEntered
  | read item closed =>
    obtain ⟨hAt, hStep⟩ := Option.ite_none_right_eq_some.mp hStep
    rw [Standing, hAt] at h
    have hEntered := (entered_snoc (.read item closed) nofun).mpr h
    cases item with
    | none =>
      cases hStep
      exact hEntered
    | some item =>
      cases hStep
      exact hEntered
  | unregister =>
    obtain ⟨hAt, hStep⟩ := Option.ite_none_right_eq_some.mp hStep
    cases hStep
    rw [Standing, hAt] at h
    refine ⟨(entered_snoc .unregister nofun).mpr h, fun hIn => ?_⟩
    exact ((Dict.mem_keys_erase _ _ _).mp hIn).2 rfl
  | forget =>
    obtain ⟨hAt, hStep⟩ := Option.ite_none_right_eq_some.mp hStep
    cases hStep
    rw [Standing, hAt] at h
    obtain ⟨hEntered, hOut⟩ := h
    rw [← entered_snoc .forget nofun] at hEntered
    refine Or.inl ⟨⟨hOut, fun hIn => ?_⟩, Or.inr hEntered⟩
    exact ((Dict.mem_keys_erase _ _ _).mp hIn).2 rfl
  | otherListed session ws =>
    obtain ⟨hOther, hStep⟩ := Option.ite_none_left_eq_some.mp hStep
    cases hStep
    refine h.quiet nofun rfl id ?_
    rw [Dict.mem_keys_set, or_iff_left (Ne.symm hOther)]
  | otherRegistered ws =>
    obtain ⟨hOther, hStep⟩ := Option.ite_none_left_eq_some.mp hStep
    cases hStep
    exact h.quiet nofun rfl (fun hIn => ((mem_register _ _ _).mp hIn).resolve_right (Ne.symm hOther))
      Iff.rfl
  | otherForgotten session =>
    obtain ⟨hOther, hStep⟩ := Option.ite_none_left_eq_some.mp hStep
    cases hStep
    refine h.quiet nofun rfl id ?_
    rw [Dict.mem_keys_erase, and_iff_left (Ne.symm hOther)]
  | command ws subscription =>
    cases hStep
    exact h.quiet nofun rfl (mem_subscribe _ _ _ _).mp Iff.rfl
  | drops dead =>
    cases hStep
    exact h.quiet nofun rfl (mem_dropped _ _ _) Iff.rfl

end Stream

/-- When the response is over, whatever the other threads do meanwhile, the session is registered
nowhere if and only if none was made or the generator was entered. -/
theorem stream_released_iff {clients : Clients} {sessions : Dict String Nat}
    (hFresh : Released request ⟨clients, sessions, .arrives⟩) {events : List StreamEvent}
    {s : StreamState}
    (hRun : StepRun.run (StreamState.step env request) ⟨clients, sessions, .arrives⟩ events = some s)
    (hAnswered : s.answering = .answered) :
    Released request s ↔ request.unknownFeed ∨ Entered request events := by
  have hStart : Standing request [] ⟨clients, sessions, .arrives⟩ :=
    ⟨hFresh, fun hEntered => nomatch hEntered.1⟩
  have hStanding : Standing request events s := StepRun.run_induction hStart
    (fun _ _ _ _ _ ih hStep => standing_step ih hStep) hRun
  rw [Standing, hAnswered] at hStanding
  rcases hStanding with ⟨hOut, hWhy⟩ | ⟨hIn, hNever, hKnown⟩
  · exact iff_of_true hOut hWhy
  · exact iff_of_false (fun hOut => hOut.2 hIn) (not_or.mpr ⟨hKnown, hNever⟩)

/-- A client that reads the greeting and goes. -/
theorem greeted_stream_released : ∃ s, StepRun.run
      (StreamState.step ⟨.ascii, 1000, fun _ => none⟩ ⟨0, "a", "", fun _ => .null, 2, true⟩)
      ⟨[], [], .arrives⟩ [.arrive, .list, .register, .head true, .chunk true, .subscribe,
        .read none false, .chunk false, .unregister, .forget] = some s ∧
    Released ⟨0, "a", "", fun _ => .null, 2, true⟩ s := by
  refine StepRun.exists_end rfl fun s hRun => ?_
  have hAnswered : s.answering = .answered := by
    cases hRun
    rfl
  refine (stream_released_iff _ _ ?_ hRun hAnswered).mpr (Or.inr ⟨?_, rfl⟩)
  · exact ⟨nofun, nofun⟩
  · simp

/-- A client that is gone before the head of the response. -/
theorem unread_stream_stays : ∃ s, StepRun.run
      (StreamState.step ⟨.ascii, 1000, fun _ => none⟩ ⟨0, "a", "", fun _ => .null, 2, true⟩)
      ⟨[], [], .arrives⟩ [.arrive, .list, .register, .head false] = some s ∧
    s.answering = .answered ∧ ¬Released ⟨0, "a", "", fun _ => .null, 2, true⟩ s := by
  refine ⟨⟨[(0, ⟨none⟩)], [("a", 0)], .answered⟩, rfl, rfl, fun hOut => hOut.1 ?_⟩
  decide

end Sniff4Hound.Realtime
