import Sniff4Hound.Mobile.StreamFanout

/-!
# Revoked streams

A session that was revoked stays revoked until it is dropped, and its streams get no more data
(`Later.quiet`). `revoke_session` puts its notice last into the queues of the session's streams and
touches no other queue. `stop` revokes all sessions before it broadcasts the notice, which
`_notify_all` then withholds from the streams of revoked sessions: no queue gets it, and the notice
is last only in a queue where it was last before (`revocation_iff`).
-/

namespace Sniff4Hound.Mobile

/-! ## One queue -/

namespace StreamQueue

def EndsRevoked (q : StreamQueue) : Prop := ∃ event, q.items.getLast? = some event ∧ event.isRevoked

def data (q : StreamQueue) : List StreamEvent := q.items.filter fun event => !event.isRevoked

theorem put_nowait_eq (q : StreamQueue) (h : q.items.length < STREAM_QUEUE_SIZE)
    (event : StreamEvent) : ∃ q', q.put_nowait event = some q' ∧ q'.items = q.items ++ [event] := by
  rw [put_nowait, dif_pos h]
  exact ⟨_, rfl, rfl⟩

theorem offer_eq (q : StreamQueue) (event : StreamEvent) :
    (q.offer event).1.items =
        q.items.drop (q.items.length + 1 - STREAM_QUEUE_SIZE) ++ [event] ∧
      (q.offer event).2 = true := by
  by_cases hRoom : q.items.length < STREAM_QUEUE_SIZE
  · obtain ⟨q', hPut, hItems⟩ := put_nowait_eq q hRoom event
    rw [offer, hPut, Nat.sub_eq_zero_of_le hRoom, List.drop_zero]
    exact ⟨hItems, rfl⟩
  · obtain ⟨items, short⟩ := q
    have hFull : items.length = STREAM_QUEUE_SIZE := Nat.le_antisymm short (Nat.not_lt.mp hRoom)
    rw [offer, put_nowait, dif_neg hRoom]
    cases items with
    | nil => exact absurd hFull (by decide)
    | cons oldest rest =>
      rw [List.length_cons] at hFull
      obtain ⟨q', hPut, hItems⟩ := put_nowait_eq ⟨rest, (Nat.le_succ _).trans short⟩
        (show rest.length < STREAM_QUEUE_SIZE by omega) event
      dsimp only [get_nowait]
      rw [hPut, List.length_cons, hFull, Nat.add_sub_cancel_left]
      exact ⟨hItems, rfl⟩

variable {event : StreamEvent}

theorem offer_endsRevoked (q : StreamQueue) (h : event.isRevoked = true) :
    (q.offer event).1.EndsRevoked :=
  ⟨event, by rw [(q.offer_eq event).1, List.getLast?_concat], h⟩

theorem offer_data_suffix (q : StreamQueue) (h : event.isRevoked = true) :
    (q.offer event).1.data <:+ q.data := by
  have hNone : [event].filter (fun event => !event.isRevoked) = [] := by
    rw [List.filter_cons_of_neg (by rw [h]; decide), List.filter_nil]
  rw [data, data, (q.offer_eq event).1, List.filter_append, hNone, List.append_nil]
  exact (List.drop_suffix _ _).filter _

theorem get_nowait_data {q q' : StreamQueue} (h : q.get_nowait = some (event, q')) :
    q'.data <:+ q.data := by
  obtain ⟨items, short⟩ := q
  cases items with
  | nil => cases h
  | cons oldest rest =>
    cases h
    exact (List.suffix_cons _ _).filter _

end StreamQueue

/-! ## Sessions -/

structure FewerSessions (old new : Dict String StreamSession) : Prop where
  keys : old.keys.Nodup → new.keys.Nodup
  lookup : old.keys.Nodup → ∀ token session, new.lookup token = some session →
    ∃ before, old.lookup token = some before ∧ session.token = before.token ∧
      (before.revoked_at ≠ 0 → session.revoked_at ≠ 0)

namespace FewerSessions

variable {old mid new : Dict String StreamSession}

theorem refl (old : Dict String StreamSession) : FewerSessions old old :=
  ⟨id, fun _ _ session h => ⟨session, h, rfl, id⟩⟩

theorem trans (h : FewerSessions old mid) (h' : FewerSessions mid new) : FewerSessions old new where
  keys hKeys := h'.keys (h.keys hKeys)
  lookup hKeys token session hNew := by
    obtain ⟨between, hMid, hToken, hRevoked⟩ := h'.lookup (h.keys hKeys) token session hNew
    obtain ⟨before, hOld, hToken', hRevoked'⟩ := h.lookup hKeys token between hMid
    exact ⟨before, hOld, hToken.trans hToken', hRevoked ∘ hRevoked'⟩

theorem set {token : String} {before session : StreamSession}
    (hBefore : old.lookup token = some before)
    (hToken : session.token = before.token)
    (hRevoked : before.revoked_at ≠ 0 → session.revoked_at ≠ 0) :
    FewerSessions old (old.set token session) where
  keys hKeys := Dict.nodup_keys_set hKeys _ _
  lookup _ other found hFound := by
    rw [Dict.lookup_set] at hFound
    split at hFound
    · next hSame =>
      cases hFound
      exact ⟨before, hSame ▸ hBefore, hToken, hRevoked⟩
    · exact ⟨found, hFound, rfl, id⟩

theorem filter (old : Dict String StreamSession) (f : String × StreamSession → Bool) :
    FewerSessions old (old.filter f) where
  keys hKeys := Dict.nodup_keys_filter hKeys f
  lookup hKeys _ session hFound :=
    ⟨session, Dict.lookup_of_lookup_filter hKeys hFound, rfl, id⟩

theorem revoke_all (old : Dict String StreamSession) {now : Rat} (hNow : now ≠ 0) :
    FewerSessions old (old.map fun (entry : String × StreamSession) =>
      (entry.1, { entry.2 with revoked_at := now })) where
  keys hKeys := by
    have hSame : Dict.keys (old.map fun (entry : String × StreamSession) =>
        (entry.1, ({ entry.2 with revoked_at := now } : StreamSession))) = old.keys := by
      rw [Dict.keys, List.map_map]
      rfl
    rwa [hSame]
  lookup _ token session hFound := by
    rw [Dict.lookup_map old (fun _ session => ({ session with revoked_at := now } : StreamSession)),
      Option.map_eq_some_iff] at hFound
    obtain ⟨before, hBefore, rfl⟩ := hFound
    exact ⟨before, hBefore, rfl, fun _ => hNow⟩

end FewerSessions

/-! ## One round of the fan-out -/

def standing (sessions : Dict String StreamSession) (token : String) : Option (String × Rat) :=
  (sessions.lookup token).map fun session => (session.token, session.revoked_at)

def Hears (rt : Runtime) (log_levels : Dict Nat Nat) (sessions : Dict String StreamSession)
    (event : StreamEvent) (token : Option String) (id : Nat) (subscriber : String) : Prop :=
  (token = none ∨ token = some subscriber) ∧ unwanted rt log_levels id event = false ∧
    ∃ name revoked_at, standing sessions subscriber = some (name, revoked_at) ∧
      (revoked_at = 0 ∨ token ≠ none)

def EventStream.sent (stream : EventStream) (event : StreamEvent) : EventStream :=
  { stream with queue := (stream.queue.offer event).1 }

section Fanout

variable (rt : Runtime) (log_levels : Dict Nat Nat) (event : StreamEvent) (token : Option String)

/-- A round leaves the sessions and the streams as they are, or the subscriber is sent the event. -/
theorem notify_one_cases (d : Delivery) (id : Nat) (subscriber : String) :
    (¬Hears rt log_levels d.sessions event token id subscriber ∧
      (notify_one rt log_levels event token d (id, subscriber)).streams = d.streams ∧
      (notify_one rt log_levels event token d (id, subscriber)).sessions = d.sessions) ∨
    (Hears rt log_levels d.sessions event token id subscriber ∧
      (notify_one rt log_levels event token d (id, subscriber)).streams =
        Function.update d.streams id ((d.streams id).sent event) ∧
      ∃ session, d.sessions.lookup subscriber = some session ∧
        (notify_one rt log_levels event token d (id, subscriber)).sessions =
          d.sessions.set subscriber { session with event_count := session.event_count + 1 }) := by
  rw [notify_one]
  dsimp only
  by_cases hToken : token ≠ none ∧ token ≠ some subscriber
  · rw [if_pos hToken]
    exact .inl ⟨fun hHears => hHears.1.elim hToken.1 hToken.2, rfl, rfl⟩
  rw [if_neg hToken]
  by_cases hLevel : unwanted rt log_levels id event = true
  · rw [if_pos hLevel]
    exact .inl ⟨fun hHears => absurd hLevel (by rw [hHears.2.1]; decide), rfl, rfl⟩
  rw [if_neg hLevel]
  cases hSession : d.sessions.lookup subscriber with
  | none =>
    refine .inl ⟨fun hHears => ?_, rfl, rfl⟩
    obtain ⟨-, -, name, revoked_at, hStanding, -⟩ := hHears
    rw [standing, hSession] at hStanding
    cases hStanding
  | some session =>
    have hStanding : standing d.sessions subscriber =
        some (session.token, session.revoked_at) := by rw [standing, hSession]; rfl
    dsimp only
    by_cases hRevoked : session.revoked_at ≠ 0 ∧ token = none
    · rw [if_pos hRevoked]
      refine .inl ⟨fun hHears => ?_, rfl, rfl⟩
      obtain ⟨-, -, name, revoked_at, hFound, hLive⟩ := hHears
      rw [hStanding] at hFound
      cases hFound
      exact hLive.elim hRevoked.1 fun hSome => hSome hRevoked.2
    · rw [if_neg hRevoked, if_pos ((d.streams id).queue.offer_eq event).2]
      refine .inr ⟨⟨?_, Bool.eq_false_iff.mpr hLevel, _, _, hStanding, ?_⟩, rfl, session, rfl,
        rfl⟩
      · exact (not_and_or.mp hToken).imp not_not.mp not_not.mp
      · exact (not_and_or.mp hRevoked).imp not_not.mp fun hSome => hSome

theorem notify_one_sessions (d : Delivery) (entry : Nat × String) :
    (∀ t, standing (notify_one rt log_levels event token d entry).sessions t =
      standing d.sessions t) ∧
    FewerSessions d.sessions (notify_one rt log_levels event token d entry).sessions := by
  obtain ⟨-, -, hSame⟩ | ⟨-, -, session, hSession, hSet⟩ :=
    notify_one_cases rt log_levels event token d entry.1 entry.2
  · rw [hSame]
    exact ⟨fun _ => rfl, .refl _⟩
  · rw [hSet]
    refine ⟨fun t => ?_, .set hSession rfl id⟩
    rw [standing, standing, Dict.lookup_set]
    split
    · next hSame =>
      rw [hSame, hSession]
      rfl
    · rfl

variable {rt log_levels event token} {id : Nat}

theorem Hears.congr {old new : Dict String StreamSession} (h : ∀ t, standing new t = standing old t)
    {subscriber : String} :
    Hears rt log_levels new event token id subscriber ↔
      Hears rt log_levels old event token id subscriber := by
  rw [Hears, Hears, h]

theorem fanout_sessions (entries : Dict Nat String) (d : Delivery) :
    (∀ t, standing (entries.foldl (notify_one rt log_levels event token) d).sessions t =
      standing d.sessions t) ∧
    FewerSessions d.sessions (entries.foldl (notify_one rt log_levels event token) d).sessions := by
  induction entries generalizing d with
  | nil => exact ⟨fun _ => rfl, .refl _⟩
  | cons entry rest ih =>
    obtain ⟨hOne, hFewer⟩ := notify_one_sessions rt log_levels event token d entry
    obtain ⟨hRest, hFewer'⟩ := ih (notify_one rt log_levels event token d entry)
    exact ⟨fun t => (hRest t).trans (hOne t), hFewer.trans hFewer'⟩

theorem fanout_other {entries : Dict Nat String} {d : Delivery}
    (h : ∀ subscriber, (id, subscriber) ∈ entries →
    ¬Hears rt log_levels d.sessions event token id subscriber) :
    (entries.foldl (notify_one rt log_levels event token) d).streams id = d.streams id := by
  induction entries generalizing d with
  | nil => rfl
  | cons entry rest ih =>
    obtain ⟨id', subscriber'⟩ := entry
    have hSame := (notify_one_sessions rt log_levels event token d (id', subscriber')).1
    rw [List.foldl_cons, ih fun subscriber hMem hHears =>
      h subscriber (List.mem_cons_of_mem _ hMem) ((Hears.congr hSame).mp hHears)]
    obtain ⟨-, hStreams, -⟩ | ⟨hHears, hStreams, -⟩ :=
      notify_one_cases rt log_levels event token d id' subscriber'
    · rw [hStreams]
    · rw [hStreams, Function.update_of_ne]
      rintro rfl
      exact h subscriber' List.mem_cons_self hHears

theorem fanout_heard {entries : Dict Nat String} (hNodup : entries.keys.Nodup) {d : Delivery}
    {subscriber : String} (hMem : (id, subscriber) ∈ entries)
    (hHears : Hears rt log_levels d.sessions event token id subscriber) :
    (entries.foldl (notify_one rt log_levels event token) d).streams id =
      (d.streams id).sent event := by
  induction entries generalizing d with
  | nil => cases hMem
  | cons entry rest ih =>
    obtain ⟨id', subscriber'⟩ := entry
    obtain ⟨hHead, hRest⟩ := List.nodup_cons.mp hNodup
    have hSame := (notify_one_sessions rt log_levels event token d (id', subscriber')).1
    have hCases := notify_one_cases rt log_levels event token d id' subscriber'
    rw [List.foldl_cons]
    rcases List.mem_cons.mp hMem with hHere | hLater
    · cases hHere
      obtain ⟨-, hStreams, -⟩ := hCases.resolve_left fun hDeaf => hDeaf.1 hHears
      rw [fanout_other fun other hOther => absurd (List.mem_map_of_mem hOther) hHead, hStreams,
        Function.update_self]
    · rw [ih hRest hLater ((Hears.congr hSame).mpr hHears)]
      obtain ⟨-, hStreams, -⟩ | ⟨-, hStreams, -⟩ := hCases
      · rw [hStreams]
      · rw [hStreams, Function.update_of_ne]
        rintro rfl
        exact hHead (List.mem_map.mpr ⟨_, hLater, rfl⟩)

end Fanout

/-! ## What the service keeps -/

namespace StreamService

variable {rt : Runtime} {s t u : StreamService}

structure Sound (s : StreamService) : Prop where
  distinct : s.subscribers.keys.Nodup
  subscribed : ∀ id token, (id, token) ∈ s.subscribers →
    id < s.opened ∧ (s.streams id).token = token
  sessionKeys : s.sessions.keys.Nodup
  named : ∀ token session, s.sessions.lookup token = some session →
    token ∈ s.issued ∧ session.token = token
  streams : ∀ id < s.opened, (s.streams id).token ∈ s.issued

def Gone (s : StreamService) (token : String) : Prop :=
  ∀ session, s.sessions.lookup token = some session → session.revoked_at ≠ 0

structure Fewer (s t : StreamService) : Prop where
  opened : t.opened = s.opened
  issued : t.issued = s.issued
  sessions : FewerSessions s.sessions t.sessions
  subscribers : t.subscribers.Sublist s.subscribers
  token : ∀ id, (t.streams id).token = (s.streams id).token
  quiet : ∀ id, s.Gone (s.streams id).token →
    (t.streams id).queue.data <:+ (s.streams id).queue.data

theorem Fewer.gone (h : Fewer s t) (hSound : s.Sound) {token : String} (hGone : s.Gone token) :
    t.Gone token := by
  intro session hFound
  obtain ⟨before, hBefore, -, hRevoked⟩ := h.sessions.lookup hSound.sessionKeys token session hFound
  exact hRevoked (hGone before hBefore)

theorem Fewer.sound (h : Fewer s t) (hSound : s.Sound) : t.Sound where
  distinct := hSound.distinct.sublist (h.subscribers.map Prod.fst)
  subscribed id token hMem := by
    rw [h.opened, h.token]
    exact hSound.subscribed id token (h.subscribers.subset hMem)
  sessionKeys := h.sessions.keys hSound.sessionKeys
  named token session hFound := by
    obtain ⟨before, hBefore, hToken, -⟩ :=
      h.sessions.lookup hSound.sessionKeys token session hFound
    rw [h.issued, hToken]
    exact hSound.named token before hBefore
  streams id hId := by
    rw [h.opened] at hId
    rw [h.issued, h.token]
    exact hSound.streams id hId

theorem Fewer.trans (hSound : s.Sound) (h : Fewer s t) (h' : Fewer t u) : Fewer s u where
  opened := h'.opened.trans h.opened
  issued := h'.issued.trans h.issued
  sessions := h.sessions.trans h'.sessions
  subscribers := h'.subscribers.trans h.subscribers
  token id := (h'.token id).trans (h.token id)
  quiet id hGone :=
    (h'.quiet id (by rw [h.token]; exact h.gone hSound hGone)).trans (h.quiet id hGone)

theorem Fewer.of_sessions (hOpened : t.opened = s.opened) (hIssued : t.issued = s.issued)
    (hSubscribers : t.subscribers = s.subscribers) (hStreams : t.streams = s.streams)
    (h : FewerSessions s.sessions t.sessions) : Fewer s t where
  opened := hOpened
  issued := hIssued
  sessions := h
  subscribers := hSubscribers ▸ .refl _
  token id := by rw [hStreams]
  quiet id _ := by rw [hStreams]

/-! ## The calls -/

variable {token : Option String}

theorem notify_all_heard (hSound : s.Sound) {event : StreamEvent} {id : Nat} {subscriber : String}
    (hMem : (id, subscriber) ∈ s.subscribers)
    (hHears : Hears rt s.log_levels s.sessions event token id subscriber) :
    (s.notify_all rt event token).streams id = (s.streams id).sent event :=
  fanout_heard hSound.distinct hMem hHears

theorem notify_all_other {event : StreamEvent} {id : Nat}
    (h : ∀ subscriber, (id, subscriber) ∈ s.subscribers →
    ¬Hears rt s.log_levels s.sessions event token id subscriber) :
    (s.notify_all rt event token).streams id = s.streams id :=
  fanout_other h

theorem notify_all_cases (rt : Runtime) (hSound : s.Sound) (event : StreamEvent)
    (token : Option String) (id : Nat) :
    (s.notify_all rt event token).streams id = s.streams id ∨
    (∃ subscriber, (id, subscriber) ∈ s.subscribers ∧
      Hears rt s.log_levels s.sessions event token id subscriber) ∧
    (s.notify_all rt event token).streams id = (s.streams id).sent event := by
  by_cases h : ∃ subscriber, (id, subscriber) ∈ s.subscribers ∧
      Hears rt s.log_levels s.sessions event token id subscriber
  · obtain ⟨subscriber, hMem, hHears⟩ := h
    exact .inr ⟨⟨subscriber, hMem, hHears⟩, notify_all_heard hSound hMem hHears⟩
  · exact .inl (notify_all_other fun subscriber hMem hHears => h ⟨subscriber, hMem, hHears⟩)

theorem fewer_notify_all (rt : Runtime) (hSound : s.Sound) (event : StreamEvent)
    (h : token = none ∨ event.isRevoked = true) :
    Fewer s (s.notify_all rt event token) where
  opened := rfl
  issued := rfl
  sessions :=
    (@fanout_sessions rt s.log_levels event token s.subscribers ⟨s.sessions, s.streams, []⟩).2
  subscribers := List.filter_sublist
  token id := by
    rcases notify_all_cases rt hSound event token id with hSame | ⟨-, hSent⟩
    · rw [hSame]
    · rw [hSent, EventStream.sent]
  quiet id hGone := by
    rcases notify_all_cases rt hSound event token id with hSame | ⟨hHeard, hSent⟩
    · rw [hSame]
    · rw [hSent]
      obtain ⟨subscriber, hMem, -, -, name, revoked_at, hStanding, hLive⟩ := hHeard
      rcases h with hNone | hNotice
      · obtain ⟨session, hSession, hPair⟩ := Option.map_eq_some_iff.mp hStanding
        have hZero : session.revoked_at = 0 := by
          rw [(Prod.mk.inj hPair).2]
          exact hLive.resolve_right fun hSome => hSome hNone
        rw [(hSound.subscribed id subscriber hMem).2] at hGone
        exact absurd hZero (hGone session hSession)
      · exact (s.streams id).queue.offer_data_suffix hNotice

theorem fewer_prune (s : StreamService) (now : Rat) : Fewer s (s.prune_sessions now) :=
  .of_sessions rfl rfl rfl rfl (.filter _ _)

theorem fewer_session (hSound : s.Sound) (token : String) (prune now : Reading) :
    Fewer s (s.session token prune now).2 := by
  have hPrune := fewer_prune s prune.seconds
  rw [session]
  cases hSession : (s.prune_sessions prune.seconds).sessions.lookup token with
  | none => exact hPrune
  | some session =>
    dsimp only
    split
    · exact hPrune
    · exact hPrune.trans hSound (.of_sessions rfl rfl rfl rfl (.set hSession rfl fun h => h))

theorem fewer_update (id : Nat) (stream : EventStream)
    (hToken : stream.token = (s.streams id).token)
    (hData : stream.queue.data <:+ (s.streams id).queue.data) :
    Fewer s { s with streams := Function.update s.streams id stream } where
  opened := rfl
  issued := rfl
  sessions := .refl _
  subscribers := .refl _
  token id' := by
    by_cases hSame : id' = id
    · subst hSame
      exact (congrArg EventStream.token (Function.update_self ..)).trans hToken
    · exact congrArg EventStream.token (Function.update_of_ne hSame ..)
  quiet id' _ := by
    by_cases hSame : id' = id
    · subst hSame
      dsimp only
      rwa [Function.update_self]
    · dsimp only
      rw [Function.update_of_ne hSame]

variable (hSound : s.Sound)

include hSound

theorem fewer_close (id : Nat) : Fewer s (s.close_stream id) := by
  refine (fewer_update id { s.streams id with place := .ended } rfl
    (List.suffix_refl _)).trans hSound ?_
  exact ⟨rfl, rfl, .refl _, List.filter_sublist, fun _ => rfl, fun _ _ => List.suffix_refl _⟩

theorem fewer_stop (rt : Runtime) (utc : String) (now prune : Reading) :
    Fewer s (s.stop rt utc now prune) := by
  have hRevoked : Fewer s (s.revoke_all now.seconds) :=
    .of_sessions rfl rfl rfl rfl (.revoke_all _ now.positive.ne')
  have hTold := hRevoked.trans hSound
    (fewer_notify_all rt (hRevoked.sound hSound) (.revoked utc) (.inl rfl))
  have hQuiet := hTold.trans hSound (u := { (s.revoke_all now.seconds).notify_all rt (.revoked utc)
    with following := false }) (.of_sessions rfl rfl rfl rfl (.refl _))
  exact hQuiet.trans hSound (fewer_prune _ _)

theorem fewer_revoke (rt : Runtime) (token utc : String) (now : Reading) :
    Fewer s (s.revoke_session rt token utc now).2 := by
  rw [revoke_session]
  cases hSession : s.sessions.lookup token with
  | none => exact .of_sessions rfl rfl rfl rfl (.refl _)
  | some session =>
    have hRevoked : Fewer s { s with
        sessions := s.sessions.set token { session with revoked_at := now.seconds } } :=
      .of_sessions rfl rfl rfl rfl (.set hSession rfl fun _ => now.positive.ne')
    exact hRevoked.trans hSound (fewer_notify_all rt (hRevoked.sound hSound) _ (.inr rfl))

theorem fewer_record (rt : Runtime) (utc : String) (payload : Broadcast) :
    Fewer s (s.record_event rt utc payload) := by
  rw [record_event]
  split
  · exact fewer_notify_all rt hSound _ (.inl rfl)
  · exact .of_sessions rfl rfl rfl rfl (.refl _)
  · exact .of_sessions rfl rfl rfl rfl (.refl _)

theorem fewer_show (rt : Runtime) (line : LogLine) : Fewer s (s.show_line rt line) := by
  have hRing : Fewer s { s with log_ring := ring s.log_ring line } :=
    .of_sessions rfl rfl rfl rfl (.refl _)
  exact hRing.trans hSound (fewer_notify_all rt (hRing.sound hSound) _ (.inl rfl))

theorem fewer_poll (rt : Runtime) (fresh : List LogLine) : Fewer s (s.poll_logs rt fresh) := by
  rw [poll_logs]
  induction fresh generalizing s with
  | nil => exact .of_sessions rfl rfl rfl rfl (.refl _)
  | cons line rest ih =>
    have hLine := fewer_show hSound rt line
    exact hLine.trans hSound (ih (hLine.sound hSound))

theorem fewer_follow (rt : Runtime) (fresh : List LogLine) : Fewer s (s.follow_logs rt fresh) := by
  rw [follow_logs]
  split
  · exact fewer_poll hSound rt fresh
  · exact .of_sessions rfl rfl rfl rfl (.refl _)

omit hSound

theorem session_streams (s : StreamService) (token : String) (prune now : Reading) :
    (s.session token prune now).2.streams = s.streams := by
  rw [session]
  split
  · rfl
  · split <;> rfl

theorem fewer_check (hSound : s.Sound) (id : Nat) (utc : String) (now prune seen : Reading) :
    Fewer s (s.check_stream id utc now prune seen).2 := by
  have hSession := fewer_session hSound (s.streams id).token prune seen
  have hStreams := session_streams s (s.streams id).token prune seen
  rw [check_stream]
  split
  · exact fewer_close hSound id
  · cases hFound : s.session (s.streams id).token prune seen with
    | mk found after =>
      rw [hFound] at hSession hStreams
      have hSame : after.streams id = s.streams id := congrFun hStreams id
      cases found with
      | none => exact hSession.trans hSound (fewer_close (hSession.sound hSound) id)
      | some session =>
        refine hSession.trans hSound (fewer_update id _ ?_ ?_)
        · show (s.streams id).token = (after.streams id).token
          rw [hSame]
        · show (s.streams id).queue.data <:+ (after.streams id).queue.data
          rw [hSame]

theorem fewer_take (s : StreamService) (id : Nat) : Fewer s (s.take_event id).2 := by
  rw [take_event]
  cases hItem : (s.streams id).queue.get_nowait with
  | none => exact fewer_update id _ rfl (List.suffix_refl _)
  | some item => exact fewer_update id _ rfl (StreamQueue.get_nowait_data hItem)

/-! ## Runs -/

structure Later (s t : StreamService) : Prop where
  opened : s.opened ≤ t.opened
  issued : ∀ token ∈ s.issued, token ∈ t.issued
  token : ∀ id < s.opened, (t.streams id).token = (s.streams id).token
  gone : ∀ token ∈ s.issued, s.Gone token → t.Gone token
  quiet : ∀ id < s.opened, s.Gone (s.streams id).token →
    (t.streams id).queue.data <:+ (s.streams id).queue.data

theorem Fewer.later (h : Fewer s t) (hSound : s.Sound) : Later s t where
  opened := h.opened.ge
  issued _ hToken := h.issued ▸ hToken
  token id _ := h.token id
  gone _ _ hGone := h.gone hSound hGone
  quiet id _ hGone := h.quiet id hGone

theorem Later.refl (s : StreamService) : Later s s where
  opened := le_refl _
  issued _ h := h
  token _ _ := rfl
  gone _ _ h := h
  quiet _ _ _ := List.suffix_refl _

theorem Later.trans (hSound : s.Sound) (h : Later s t) (h' : Later t u) : Later s u where
  opened := h.opened.trans h'.opened
  issued token hToken := h'.issued token (h.issued token hToken)
  token id hId := (h'.token id (hId.trans_le h.opened)).trans (h.token id hId)
  gone token hToken hGone := h'.gone token (h.issued token hToken) (h.gone token hToken hGone)
  quiet id hId hGone := by
    have hGone' : t.Gone (t.streams id).token := by
      rw [h.token id hId]
      exact h.gone _ (hSound.streams id hId) hGone
    exact (h'.quiet id (hId.trans_le h.opened) hGone').trans (h.quiet id hId hGone)

theorem pair_later (hSound : s.Sound) {session : StreamSession} {token : String}
    (hToken : session.token = token) (hNew : token ∉ s.issued)
    (hOpened : t.opened = s.opened) (hIssued : t.issued = token :: s.issued)
    (hSubscribers : t.subscribers = s.subscribers) (hStreams : t.streams = s.streams)
    (hSessions : t.sessions = s.sessions.set token session) : t.Sound ∧ Later s t := by
  have hIssued' : ∀ other ∈ s.issued, other ∈ t.issued := fun other hOther =>
    hIssued ▸ List.mem_cons_of_mem _ hOther
  have hLookup : ∀ other, t.sessions.lookup other =
      if other = token then some session else s.sessions.lookup other := fun other => by
    rw [hSessions, Dict.lookup_set]
  constructor
  · refine ⟨?_, ?_, ?_, ?_, ?_⟩
    · rw [hSubscribers]
      exact hSound.distinct
    · rw [hSubscribers, hOpened, hStreams]
      exact hSound.subscribed
    · rw [hSessions]
      exact Dict.nodup_keys_set hSound.sessionKeys _ _
    · intro other found hFound
      rw [hLookup] at hFound
      split at hFound
      · next hSame =>
        cases hFound
        exact ⟨by rw [hIssued, hSame]; exact List.mem_cons_self, hToken.trans hSame.symm⟩
      · obtain ⟨hOther, hName⟩ := hSound.named other found hFound
        exact ⟨hIssued' other hOther, hName⟩
    · rw [hOpened, hStreams]
      exact fun id hId => hIssued' _ (hSound.streams id hId)
  · refine ⟨hOpened.ge, hIssued', fun id _ => by rw [hStreams], ?_, fun id _ _ => by rw [hStreams]⟩
    intro other hOther hGone found hFound
    rw [hLookup, if_neg fun hSame : other = token => hNew (hSame ▸ hOther)] at hFound
    exact hGone found hFound

theorem opening_later (hSound : s.Sound) {token : String} (hToken : token ∈ s.issued)
    (started : Rat) (hOpened : t.opened = s.opened + 1) (hIssued : t.issued = s.issued)
    (hSubscribers : t.subscribers = s.subscribers.set s.opened token)
    (hStreams : t.streams = Function.update s.streams s.opened ⟨token, .empty, started, .checking⟩)
    (hSessions : t.sessions = s.sessions) : t.Sound ∧ Later s t := by
  have hOld : ∀ id < s.opened, t.streams id = s.streams id := fun id hId => by
    rw [hStreams, Function.update_of_ne hId.ne]
  have hNew : (t.streams s.opened).token = token := by rw [hStreams, Function.update_self]
  have hFresh : s.opened ∉ s.subscribers.keys := fun hMem => by
    obtain ⟨other, hOther⟩ := Dict.lookup_isSome hMem
    exact absurd (hSound.subscribed _ _ (Dict.mem_of_lookup hOther)).1 (lt_irrefl _)
  constructor
  · refine ⟨?_, ?_, ?_, ?_, ?_⟩
    · rw [hSubscribers]
      exact Dict.nodup_keys_set hSound.distinct _ _
    · intro id other hMem
      rw [hSubscribers, Dict.set_of_notMem hFresh, List.mem_append, List.mem_singleton] at hMem
      rw [hOpened]
      rcases hMem with hMem | hMem
      · obtain ⟨hId, hOther⟩ := hSound.subscribed id other hMem
        exact ⟨Nat.lt_succ_of_lt hId, by rw [hOld id hId]; exact hOther⟩
      · cases hMem
        exact ⟨Nat.lt_succ_self _, hNew⟩
    · rw [hSessions]
      exact hSound.sessionKeys
    · rw [hSessions, hIssued]
      exact hSound.named
    · intro id hId
      rw [hOpened] at hId
      rw [hIssued]
      rcases Nat.lt_succ_iff_lt_or_eq.mp hId with hBefore | rfl
      · rw [hOld id hBefore]
        exact hSound.streams id hBefore
      · rw [hNew]
        exact hToken
  · refine ⟨hOpened ▸ Nat.le_succ _, fun other hOther => hIssued ▸ hOther, ?_, ?_, ?_⟩
    · exact fun id hId => by rw [hOld id hId]
    · exact fun other _ hGone session hSession => hGone session (hSessions ▸ hSession)
    · exact fun id hId _ => by rw [hOld id hId]

theorem session_named (hSound : s.Sound) {token : String} {prune now : Reading}
    {session : StreamSession} {after : StreamService}
    (h : s.session token prune now = (some session, after)) : token ∈ s.issued := by
  rw [StreamService.session] at h
  cases hFound : (s.prune_sessions prune.seconds).sessions.lookup token with
  | none =>
    rw [hFound] at h
    cases h
  | some found =>
    exact (((fewer_prune s prune.seconds).sound hSound).named token found hFound).1

theorem open_later (hSound : s.Sound) (rt : Runtime) (token log_level utc : String)
    (history : List LogLine) (prune now started : Reading) :
    (s.open_stream rt token log_level utc history prune now started).2.Sound ∧
      Later s (s.open_stream rt token log_level utc history prune now started).2 := by
  have hSession := fewer_session hSound token prune now
  rw [open_stream]
  cases hFound : s.session token prune now with
  | mk found after =>
    rw [hFound] at hSession
    have hSound' := hSession.sound hSound
    cases found with
    | none => exact ⟨hSound', hSession.later hSound⟩
    | some session =>
      have hToken : token ∈ after.issued := by
        rw [hSession.issued]
        exact session_named hSound hFound
      dsimp only
      have hOpening {t : StreamService} (hOpened : t.opened = after.opened + 1)
          (hIssued : t.issued = after.issued)
          (hSubscribers : t.subscribers = after.subscribers.set after.opened token)
          (hStreams : t.streams = Function.update after.streams after.opened
            ⟨token, .empty, started.seconds, .checking⟩)
          (hSessions : t.sessions = after.sessions) : t.Sound ∧ Later s t := by
        obtain ⟨hSoundT, hLater⟩ := opening_later hSound' hToken started.seconds hOpened hIssued
          hSubscribers hStreams hSessions
        exact ⟨hSoundT, (hSession.later hSound).trans hSound hLater⟩
      cases normalize_log_level rt log_level with
      | none => exact hOpening rfl rfl rfl rfl rfl
      | some level =>
        dsimp only
        rw [start_log_follower]
        split
        · exact hOpening rfl rfl rfl rfl rfl
        · exact hOpening rfl rfl rfl rfl rfl

theorem step_later (rt : Runtime) (hSound : s.Sound) {call : StreamCall}
    (hStep : s.step rt call = some t) : t.Sound ∧ Later s t := by
  have hFewer (h : Fewer s t) : t.Sound ∧ Later s t := ⟨h.sound hSound, h.later hSound⟩
  cases call with
  | pair token interface address client user_agent now =>
    rw [step] at hStep
    split at hStep
    · cases hStep
    · next hNew =>
      cases hStep
      refine pair_later hSound ?_ hNew rfl rfl rfl rfl rfl
      rfl
  | revoke token utc now =>
    cases hStep
    exact hFewer (fewer_revoke hSound rt token utc now)
  | stop utc now prune =>
    cases hStep
    exact hFewer (fewer_stop hSound rt utc now prune)
  | status prune =>
    cases hStep
    exact hFewer (fewer_prune s prune.seconds)
  | session token prune now =>
    cases hStep
    exact hFewer (fewer_session hSound token prune now)
  | record utc payload =>
    cases hStep
    exact hFewer (fewer_record hSound rt utc payload)
  | follow fresh =>
    cases hStep
    exact hFewer (fewer_follow hSound rt fresh)
  | «open» token log_level utc history prune now started =>
    cases hStep
    exact open_later hSound rt token log_level utc history prune now started
  | check id utc now prune seen =>
    rw [step] at hStep
    split at hStep
    · cases hStep
      exact hFewer (fewer_check hSound id utc now prune seen)
    · cases hStep
  | take id =>
    rw [step] at hStep
    split at hStep
    · cases hStep
      exact hFewer (fewer_take s id)
    · cases hStep
  | close id =>
    rw [step] at hStep
    split at hStep
    · cases hStep
    · cases hStep
      exact hFewer (fewer_close hSound id)

theorem sound_start : Sound {} where
  distinct := List.nodup_nil
  subscribed _ _ h := nomatch h
  sessionKeys := List.nodup_nil
  named _ _ h := nomatch h
  streams _ h := absurd h (Nat.not_lt_zero _)

theorem run_later (rt : Runtime) (hSound : s.Sound) {calls : List StreamCall}
    (hRun : StepRun.run (step rt) s calls = some t) : t.Sound ∧ Later s t :=
  StepRun.run_induction (P := fun _ t => t.Sound ∧ Later s t) ⟨hSound, .refl s⟩
    (fun _ _ _ _ _ ih hStep =>
      have hLater := step_later rt ih.1 hStep
      ⟨hLater.1, ih.2.trans hSound hLater.2⟩) hRun

/-! ## The contract -/

/-- What is left of the subscribers' queues by `revoke_session`: the notice comes last into the
queues of the session, and no other queue changes. -/
def RevokeNotifies (rt : Runtime) (s : StreamService) : Prop :=
  ∀ token utc now, s.sessions.lookup token ≠ none → ∀ id subscriber,
    (id, subscriber) ∈ s.subscribers →
      if subscriber = token then
        ((s.revoke_session rt token utc now).2.streams id).queue.EndsRevoked
      else ((s.revoke_session rt token utc now).2.streams id).queue = (s.streams id).queue

/-- After `stop`, the notice comes last in the queues of all streams that were connected. -/
def StopNotifies (rt : Runtime) (s : StreamService) : Prop :=
  ∀ utc now prune id subscriber, (id, subscriber) ∈ s.subscribers →
    ((s.stop rt utc now prune).streams id).queue.EndsRevoked

/-- A stream whose token is gone gets no data in any run from here. -/
def NoDataAfter (rt : Runtime) (s : StreamService) : Prop :=
  ∀ calls t, StepRun.run (step rt) s calls = some t → ∀ id < s.opened,
    s.Gone (s.streams id).token → (t.streams id).queue.data <:+ (s.streams id).queue.data

theorem revoke_notifies (rt : Runtime) (hSound : s.Sound) : RevokeNotifies rt s := by
  intro token utc now hSession id subscriber hMem
  obtain ⟨session, hLookup⟩ := Option.ne_none_iff_exists'.mp hSession
  have hName := (hSound.named token session hLookup).2
  rw [revoke_session, hLookup]
  have hRevoked : Fewer s { s with
      sessions := s.sessions.set token { session with revoked_at := now.seconds } } :=
    .of_sessions rfl rfl rfl rfl (.set hLookup rfl fun _ => now.positive.ne')
  split
  · next hSame =>
    subst hSame
    dsimp only
    rw [notify_all_heard (hRevoked.sound hSound) hMem]
    · exact StreamQueue.offer_endsRevoked _ rfl
    · refine ⟨.inr (congrArg some hName), rfl, session.token, now.seconds, ?_, .inr nofun⟩
      rw [standing, Dict.lookup_set, if_pos rfl]
      rfl
  · next hOther =>
    dsimp only
    rw [notify_all_other]
    intro other hMem' hHears
    have hSame : other = subscriber := (hSound.subscribed id other hMem').2.symm.trans
      (hSound.subscribed id subscriber hMem).2
    rcases hHears.1 with hNone | hSome
    · cases hNone
    · rw [hName, hSame] at hSome
      exact hOther (Option.some.inj hSome).symm

theorem stop_queues (rt : Runtime) (s : StreamService) (utc : String) (now prune : Reading)
    (id : Nat) :
    (s.stop rt utc now prune).streams id = s.streams id := by
  show ((s.revoke_all now.seconds).notify_all rt (.revoked utc)).streams id = s.streams id
  rw [notify_all_other]
  · rfl
  · rintro subscriber - ⟨-, -, name, revoked_at, hStanding, hLive⟩
    obtain ⟨session, hSession, hPair⟩ := Option.map_eq_some_iff.mp hStanding
    rw [revoke_all, Dict.lookup_map s.sessions
      (fun _ session => ({ session with revoked_at := now.seconds } : StreamSession))] at hSession
    obtain ⟨before, -, rfl⟩ := Option.map_eq_some_iff.mp hSession
    obtain ⟨-, rfl⟩ := Prod.mk.inj hPair
    exact hLive.elim now.positive.ne' fun hSome => hSome rfl

def second : Reading := ⟨1, one_pos⟩

/-- In every state that is reached: revoked streams get their notice last and no data after it, just
when the notice is last in the queue of every connected stream already. Only `stop` is to blame. -/
theorem revocation_iff (rt : Runtime) {calls : List StreamCall}
    (hRun : StepRun.run (step rt) {} calls = some s) :
    (RevokeNotifies rt s ∧ StopNotifies rt s ∧ NoDataAfter rt s) ↔
      ∀ id subscriber, (id, subscriber) ∈ s.subscribers → (s.streams id).queue.EndsRevoked := by
  have hSound := (run_later rt sound_start hRun).1
  constructor
  · rintro ⟨-, hStop, -⟩ id subscriber hMem
    have hEnds := hStop "" second second id subscriber hMem
    rwa [stop_queues] at hEnds
  · intro hTold
    refine ⟨revoke_notifies rt hSound, ?_, ?_⟩
    · intro utc now prune id subscriber hMem
      rw [stop_queues]
      exact hTold id subscriber hMem
    · exact fun calls t hLater => (run_later rt hSound hLater).2.quiet

def paired : List StreamCall :=
  [.pair "t" "wlan0" "192.168.1.2" "192.168.1.7" "" second,
    .open "t" "" "" [] second second second]

/-- A phone that was told before the service stops. -/
theorem revocation_told :
    ∃ s, StepRun.run (step Runtime.ascii) {} (paired ++ [.revoke "t" "" second]) = some s ∧
      RevokeNotifies Runtime.ascii s ∧ StopNotifies Runtime.ascii s ∧
      NoDataAfter Runtime.ascii s := by
  have hState : ∃ s, StepRun.run (step Runtime.ascii) {} (paired ++ [.revoke "t" "" second])
        = some s ∧
      s.subscribers = [(0, "t")] ∧
      ((s.streams 0).queue.items.getLast?.map StreamEvent.isRevoked) = some true :=
    ⟨_, rfl, by decide +kernel, by decide +kernel⟩
  obtain ⟨s, hRun, hSubscribers, hTold⟩ := hState
  refine ⟨s, hRun, (revocation_iff Runtime.ascii hRun).mpr ?_⟩
  intro id subscriber hMem
  rw [hSubscribers, List.mem_singleton] at hMem
  cases hMem
  exact Option.map_eq_some_iff.mp hTold

/-- A phone is connected when the service stops, and its queue gets no notice. -/
theorem stop_silent :
    ∃ s, StepRun.run (step Runtime.ascii) {} paired = some s ∧ ¬StopNotifies Runtime.ascii s := by
  have hState : ∃ s, StepRun.run (step Runtime.ascii) {} paired = some s ∧
      s.subscribers = [(0, "t")] ∧ (s.streams 0).queue.items.getLast?.isNone = true :=
    ⟨_, rfl, by decide +kernel, by decide +kernel⟩
  obtain ⟨s, hRun, hSubscribers, hEmpty⟩ := hState
  refine ⟨s, hRun, fun hStop => ?_⟩
  have hEnds := hStop "" second second 0 "t" (hSubscribers ▸ List.mem_singleton_self _)
  rw [stop_queues] at hEnds
  obtain ⟨event, hLast, -⟩ := hEnds
  rw [hLast] at hEmpty
  cases hEmpty

end StreamService

end Sniff4Hound.Mobile
