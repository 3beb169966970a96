import Sniff4Hound.Library.EventLog
import Sniff4Hound.Library.StepRun

/-!
# The stream of a view

`openDataFeed` gives a view a handle on one data feed. Behind it stand channels that are opened,
lost and opened again, requests for tickets, two timers, and callbacks into the view, which may
reconfigure or close the handle while it is called. Whatever the order of these events, the handle
keeps to a law (`feed_lawful`): a channel is opened when all earlier ones are closed, the view is
told what the newest channel says, which was opened for the parameters that were asked for last,
and of a closed handle nothing is heard. And unless making a channel fails, a handle that is not
closed has a channel, or a ticket or a timer on its way to one (`feed_retries`).
-/

namespace Sniff4Hound.Realtime

/-- What a message of the stream is for the handle. -/
inductive FeedMessage
  | unread
  | authRequired
  | feedData
  | other
deriving DecidableEq

/-- What is done through a handle, or by it. -/
inductive FeedAction (P : Type)
  | configured (params : P)
  | opened (channel : Nat) (params : P)
  | closed (channel : Nat)
  | told (channel : Nat) (message : FeedMessage)
  | unavailable
  | unauthorized
  | released
deriving DecidableEq

/-- What a view does with the handle while it is called. Each call of `update` finds a token or none,
and a channel that can be made or not. -/
inductive ViewCall (P : Type)
  | done
  | close (rest : ViewCall P)
  | update (next : P) (token throws : Bool) (fallback rest : ViewCall P)

/-- The variables of `openDataFeed`. -/
structure DataFeed (P : Type) where
  socket : Option Nat := none
  closedByCaller : Bool := false
  /-- the channel whose first frame is awaited -/
  firstFrameTimer : Option Nat := none
  /-- the delay of the timer that runs -/
  reconnectTimer : Option Nat := none
  reconnectAttempts : Nat := 0
  hasGivenUp : Bool := false
  currentParams : P
  connectAttempt : Nat := 0
  /-- the channels are numbered as they are made -/
  created : Nat := 0
  /-- the channels that are not closed -/
  live : List Nat := []
  /-- the attempts whose ticket is requested -/
  tickets : List Nat := []
  log : List (FeedAction P)

def FEED_MAX_SILENT_RECONNECTS : Nat := 3

def FEED_RECONNECT_BASE_MS : Nat := 1000

def FEED_RECONNECT_MAX_MS : Nat := 15000

variable {P : Type}

namespace DataFeed

def note (s : DataFeed P) (action : FeedAction P) : DataFeed P :=
  { s with log := s.log ++ [action] }

/-- `giveUp`, with what the view does then. -/
def giveUp (s : DataFeed P) (view : DataFeed P → DataFeed P) : DataFeed P :=
  view (s.note .unavailable)

/-- The channel of the handle is closed; its own `close` event finds it replaced already. -/
def dropSocket (s : DataFeed P) : DataFeed P :=
  match s.socket with
  | none => s
  | some c =>
    let s := { s with socket := none }
    if c ∈ s.live then { s with live := s.live.erase c }.note (.closed c) else s

def openWithTicket (s : DataFeed P) (attempt : Nat) (throws : Bool)
    (view : DataFeed P → DataFeed P) : DataFeed P :=
  if s.closedByCaller ∨ attempt ≠ s.connectAttempt then s
  else if throws then { s with socket := none }.giveUp view
  else { s with
    socket := some s.created
    created := s.created + 1
    live := s.created :: s.live
    firstFrameTimer := some s.created }.note (.opened s.created s.currentParams)

/-- The first half of `connect`. -/
def configure (s : DataFeed P) (next : P) : DataFeed P :=
  ({ s with
    currentParams := next
    connectAttempt := s.connectAttempt + 1
    reconnectTimer := none }.note (.configured next)).dropSocket

def connect (s : DataFeed P) (next : P) (token throws : Bool)
    (view : DataFeed P → DataFeed P) : DataFeed P :=
  let s := s.configure next
  if s.closedByCaller then s
  else if token then { s with tickets := s.connectAttempt :: s.tickets }
  else s.openWithTicket s.connectAttempt throws view

def close (s : DataFeed P) : DataFeed P :=
  ({ s with
    closedByCaller := true
    firstFrameTimer := none
    reconnectTimer := none }.note .released).dropSocket

def scheduleReconnect (s : DataFeed P) (view : DataFeed P → DataFeed P) : DataFeed P :=
  let s := { s with reconnectAttempts := s.reconnectAttempts + 1 }
  let s := if FEED_MAX_SILENT_RECONNECTS < s.reconnectAttempts ∧ s.hasGivenUp = false then
    { s with hasGivenUp := true }.giveUp view else s
  { s with
    reconnectTimer :=
      some (min (FEED_RECONNECT_BASE_MS * s.reconnectAttempts) FEED_RECONNECT_MAX_MS) }

/-- The request for a ticket fails. -/
def ticketFailed (s : DataFeed P) (attempt : Nat) (view : DataFeed P → DataFeed P) : DataFeed P :=
  if s.closedByCaller ∨ attempt ≠ s.connectAttempt then s
  else
    let s := if s.hasGivenUp then s else { s with hasGivenUp := true }.giveUp view
    s.scheduleReconnect view

def isCurrent (s : DataFeed P) (c : Nat) : Bool := !s.closedByCaller && s.socket = some c

def onError (s : DataFeed P) (c : Nat) (view : DataFeed P → DataFeed P) : DataFeed P :=
  if s.isCurrent c then { s with firstFrameTimer := none }.giveUp view else s

def onClose (s : DataFeed P) (c : Nat) (view : DataFeed P → DataFeed P) : DataFeed P :=
  if s.isCurrent c then { s with firstFrameTimer := none }.scheduleReconnect view else s

def onMessage (s : DataFeed P) (c : Nat) (message : FeedMessage)
    (view : DataFeed P → DataFeed P) : DataFeed P :=
  if s.isCurrent c then
    match message with
    | .unread => s
    | .authRequired => { s with firstFrameTimer := none }.note .unauthorized
    | .feedData =>
      view ({ s with firstFrameTimer := none, reconnectAttempts := 0, hasGivenUp := false }.note
        (.told c .feedData))
    | .other => view (s.note (.told c .other))
  else s

end DataFeed

/-- The handle after the calls of a view. -/
def ViewCall.run : ViewCall P → DataFeed P → DataFeed P
  | .done, s => s
  | .close rest, s => rest.run s.close
  | .update next token throws fallback rest, s =>
    rest.run (s.connect next token throws fallback.run)

/-- The events, each with what the view does when it is called. -/
inductive FeedEvent (P : Type)
  | ticket (attempt : Nat) (throws : Bool) (view : ViewCall P)
  | noTicket (attempt : Nat) (view : ViewCall P)
  | error (channel : Nat) (view : ViewCall P)
  | ended (channel : Nat) (view : ViewCall P)
  | message (channel : Nat) (message : FeedMessage) (view : ViewCall P)
  | firstFrameLate (view : ViewCall P)
  | reconnect (token throws : Bool) (view : ViewCall P)
  | called (view : ViewCall P)

namespace DataFeed

def step (s : DataFeed P) : FeedEvent P → Option (DataFeed P)
  | .ticket attempt throws view =>
    if attempt ∈ s.tickets then
      some ({ s with tickets := s.tickets.erase attempt }.openWithTicket attempt throws view.run)
    else none
  | .noTicket attempt view =>
    if attempt ∈ s.tickets then
      some ({ s with tickets := s.tickets.erase attempt }.ticketFailed attempt view.run)
    else none
  | .error c view => if c < s.created then some (s.onError c view.run) else none
  | .ended c view =>
    if c ∈ s.live then
      some (({ s with live := s.live.erase c }.note (.closed c)).onClose c view.run)
    else none
  | .message c message view =>
    if c < s.created then some (s.onMessage c message view.run) else none
  | .firstFrameLate view => s.firstFrameTimer.map fun c =>
      let s := { s with firstFrameTimer := none }
      if s.isCurrent c then s.giveUp view.run else s
  | .reconnect token throws view => s.reconnectTimer.map fun _ =>
      { s with reconnectTimer := none }.connect s.currentParams token throws view.run
  | .called view => some (view.run s)

/-- A handle as it is made, before it connects. -/
def new (params : P) : DataFeed P := { currentParams := params, log := [.configured params] }

end DataFeed

/-- `openDataFeed`, where streams are supported. -/
def openDataFeed (shutdownPending : Bool) (params : P) (token throws : Bool) (view : ViewCall P) :
    DataFeed P :=
  if shutdownPending then .new params
  else (DataFeed.new params).connect params token throws view.run

/-! ## The law of the log -/

/-- The parameters that were asked for last. -/
def latest (log : List (FeedAction P)) : Option P :=
  (log.filterMap fun
    | .configured params => some params
    | _ => none).getLast?

/-- The channel that was opened last, and for what. -/
def newest (log : List (FeedAction P)) : Option (Nat × P) :=
  (log.filterMap fun
    | .opened c params => some (c, params)
    | _ => none).getLast?

/-- What must have gone before an action of the feed. -/
def FeedLaw (before : List (FeedAction P)) : FeedAction P → Prop
  | .configured _ | .closed _ | .released => True
  | .opened _ params => .released ∉ before ∧ latest before = some params ∧
      ∀ c earlier, .opened c earlier ∈ before → .closed c ∈ before
  | .told c _ => .released ∉ before ∧ ∃ params, newest before = some (c, params) ∧
      latest before = some params
  | .unavailable | .unauthorized => .released ∉ before

section Log

variable (log : List (FeedAction P)) (cs : List Nat)

theorem latest_configured (params : P) : latest (log ++ [.configured params]) = some params := by
  rw [latest, List.filterMap_append]
  exact List.getLast?_concat

theorem newest_opened (c : Nat) (params : P) :
    newest (log ++ [.opened c params]) = some (c, params) := by
  rw [newest, List.filterMap_append]
  exact List.getLast?_concat

theorem closed_rests : (cs.map .closed : List (FeedAction P)).filterMap (fun
    | .configured params => some params
    | _ => none) = [] ∧ (cs.map .closed : List (FeedAction P)).filterMap (fun
    | .opened c params => some (c, params)
    | _ => none) = [] := by
  constructor
  · rw [List.filterMap_map, List.filterMap_eq_nil_iff]
    exact fun c _ => rfl
  · rw [List.filterMap_map, List.filterMap_eq_nil_iff]
    exact fun c _ => rfl

theorem latest_closed : latest (log ++ cs.map .closed) = latest log := by
  rw [latest, List.filterMap_append, (closed_rests cs).1, List.append_nil, latest]

theorem newest_closed : newest (log ++ cs.map .closed) = newest log := by
  rw [newest, List.filterMap_append, (closed_rests cs).2, List.append_nil, newest]

variable {log}

theorem lawful_closed (h : EventLog.Lawful FeedLaw log) :
    EventLog.Lawful FeedLaw (log ++ cs.map .closed) := by
  induction cs using List.reverseRecOn with
  | nil => rwa [List.map_nil, List.append_nil]
  | append_singleton cs c ih =>
    rw [List.map_append, ← List.append_assoc]
    exact EventLog.lawful_snoc.mpr ⟨ih, trivial⟩

end Log

/-! ## What the handle keeps -/

/-- Where the log, the socket and the tickets stand. -/
structure FeedBook (log : List (FeedAction P)) (closedByCaller : Bool) (params : P)
    (socket : Option Nat) (live : List Nat) (attempt : Nat) (tickets : List Nat) : Prop where
  lawful : EventLog.Lawful FeedLaw log
  released : .released ∈ log ↔ closedByCaller = true
  asks : latest log = some params
  speaks : ∀ c, socket = some c → newest log = some (c, params)
  owned : ∀ c ∈ live, socket = some c
  nodup : live.Nodup
  closed : ∀ c earlier, .opened c earlier ∈ log → c ∈ live ∨ .closed c ∈ log
  waiting : attempt ∈ tickets → socket = none
  distinct : tickets.Nodup
  asked : ∀ earlier ∈ tickets, earlier ≤ attempt

namespace FeedBook

variable {log : List (FeedAction P)} {closedByCaller : Bool} {params : P} {socket : Option Nat}
  {live tickets : List Nat} {attempt : Nat}

/-- The view, or the application, is told something. -/
theorem tell {action : FeedAction P}
    (h : FeedBook log closedByCaller params socket live attempt tickets)
    (hLaw : FeedLaw log action)
    (hPlain : action = .unavailable ∨ action = .unauthorized ∨ ∃ c m, action = .told c m) :
    FeedBook (log ++ [action]) closedByCaller params socket live attempt tickets := by
  have hLatest : latest (log ++ [action]) = latest log := by
    rcases hPlain with rfl | rfl | ⟨c, m, rfl⟩ <;> simp [latest]
  have hNewest : newest (log ++ [action]) = newest log := by
    rcases hPlain with rfl | rfl | ⟨c, m, rfl⟩ <;> simp [newest]
  refine { h with
    lawful := EventLog.lawful_snoc.mpr ⟨h.lawful, hLaw⟩
    released := ?_
    asks := hLatest.trans h.asks
    speaks := fun c hSocket => hNewest.trans (h.speaks c hSocket)
    closed := fun c earlier hOpened => ?_ }
  · rw [← h.released]
    rcases hPlain with rfl | rfl | ⟨c, m, rfl⟩ <;> simp
  · have hOld : .opened c earlier ∈ log := by
      rcases hPlain with rfl | rfl | ⟨c, m, rfl⟩ <;> simpa using hOpened
    exact (h.closed c earlier hOld).imp_right (List.mem_append_left _)

/-- A channel that ends by itself. -/
theorem ended (h : FeedBook log closedByCaller params socket live attempt tickets) (c : Nat) :
    FeedBook (log ++ [.closed c]) closedByCaller params socket (live.erase c) attempt tickets := by
  refine { h with
    lawful := EventLog.lawful_snoc.mpr ⟨h.lawful, trivial⟩
    released := ?_
    asks := (latest_closed log [c]).trans h.asks
    speaks := fun d hSocket => (newest_closed log [c]).trans (h.speaks d hSocket)
    owned := fun d hd => h.owned d (List.mem_of_mem_erase hd)
    nodup := h.nodup.erase c
    closed := fun d earlier hOpened => ?_ }
  · rw [← h.released]
    simp
  · have hOld : .opened d earlier ∈ log := by simpa using hOpened
    by_cases hSame : d = c
    · exact Or.inr (List.mem_append_right _ (List.mem_singleton.mpr (congrArg _ hSame)))
    · refine (h.closed d earlier hOld).imp (fun hLive => ?_) (List.mem_append_left _)
      exact (List.mem_erase_of_ne hSame).mpr hLive

/-- What was live is closed behind the action. -/
theorem closed_behind (h : FeedBook log closedByCaller params socket live attempt tickets)
    {action : FeedAction P} (hOpened : ∀ c earlier, action ≠ .opened c earlier) :
    ∀ c earlier, .opened c earlier ∈ (log ++ [action]) ++ live.map .closed →
      c ∈ ([] : List Nat) ∨ .closed c ∈ (log ++ [action]) ++ live.map .closed := by
  intro c earlier hMem
  rw [List.mem_append, List.mem_append, List.mem_singleton, List.mem_map] at hMem
  rcases hMem with (hOld | hNew) | ⟨d, -, hOther⟩
  · refine Or.inr ?_
    rcases h.closed c earlier hOld with hLive | hClosed
    · exact List.mem_append_right _ (List.mem_map_of_mem hLive)
    · exact List.mem_append_left _ (List.mem_append_left _ hClosed)
  · exact absurd hNew.symm (hOpened c earlier)
  · cases hOther

theorem configured (h : FeedBook log closedByCaller params socket live attempt tickets)
    (next : P) :
    FeedBook ((log ++ [.configured next]) ++ live.map .closed) closedByCaller next none []
      (attempt + 1) tickets where
  lawful := lawful_closed _ (EventLog.lawful_snoc.mpr ⟨h.lawful, trivial⟩)
  released := by
    rw [← h.released]
    simp
  asks := (latest_closed _ _).trans (latest_configured _ _)
  speaks _ hSome := by cases hSome
  owned _ hLive := by cases hLive
  nodup := List.nodup_nil
  closed := h.closed_behind fun _ _ hSame => by cases hSame
  waiting _ := rfl
  distinct := h.distinct
  asked earlier hMem := Nat.le_succ_of_le (h.asked earlier hMem)

theorem freed (h : FeedBook log closedByCaller params socket live attempt tickets) :
    FeedBook ((log ++ [.released]) ++ live.map .closed) true params none [] attempt tickets where
  lawful := lawful_closed _ (EventLog.lawful_snoc.mpr ⟨h.lawful, trivial⟩)
  released := by simp
  asks := by
    rw [latest_closed, ← h.asks]
    simp [latest]
  speaks _ hSome := by cases hSome
  owned _ hLive := by cases hLive
  nodup := List.nodup_nil
  closed := h.closed_behind fun _ _ hSame => by cases hSame
  waiting _ := rfl
  distinct := h.distinct
  asked := h.asked

theorem opened (h : FeedBook log false params none live attempt tickets)
    (hAsked : attempt ∉ tickets) (c : Nat) :
    FeedBook (log ++ [.opened c params]) false params (some c) (c :: live) attempt tickets := by
  have hLive : live = [] := by
    refine List.eq_nil_iff_forall_not_mem.mpr fun d hd => ?_
    cases h.owned d hd
  subst hLive
  have hOpen : .released ∉ log := fun hMem => by cases h.released.mp hMem
  refine
    { lawful := EventLog.lawful_snoc.mpr ⟨h.lawful, hOpen, h.asks, fun d earlier hMem =>
        (h.closed d earlier hMem).resolve_left List.not_mem_nil⟩
      released := by rw [← h.released]; simp
      asks := by rw [← h.asks]; simp [latest]
      speaks := fun d hd => ?_
      owned := fun d hd => by rw [List.mem_singleton.mp hd]
      nodup := List.nodup_cons.mpr ⟨List.not_mem_nil, List.nodup_nil⟩
      closed := fun d earlier hMem => ?_
      waiting := fun hMem => absurd hMem hAsked
      distinct := h.distinct
      asked := h.asked }
  · rw [← Option.some.inj hd]
    exact newest_opened _ _ _
  · rcases List.mem_append.mp hMem with hOld | hNew
    · refine Or.inr (List.mem_append_left _ ?_)
      exact (h.closed d earlier hOld).resolve_left List.not_mem_nil
    · cases List.mem_singleton.mp hNew
      exact Or.inl List.mem_cons_self

end FeedBook

namespace DataFeed

def Sound (s : DataFeed P) : Prop :=
  FeedBook s.log s.closedByCaller s.currentParams s.socket s.live s.connectAttempt s.tickets

variable {s t : DataFeed P} {view : DataFeed P → DataFeed P} {c attempt : Nat} {throws : Bool}

theorem dropSocket_eq (hOwned : ∀ c ∈ s.live, s.socket = some c) (hNodup : s.live.Nodup) :
    s.dropSocket = { s with
      socket := none
      live := []
      log := s.log ++ s.live.map .closed } := by
  obtain ⟨socket, closed, first, timer, attempts, given, params, attempt, created, live, tickets,
    log⟩ := s
  cases live with
  | nil => cases socket <;> simp [dropSocket]
  | cons c rest =>
    obtain rfl : socket = some c := hOwned c List.mem_cons_self
    have hRest : rest = [] := by
      refine List.eq_nil_iff_forall_not_mem.mpr fun e he => ?_
      obtain rfl := Option.some.inj (hOwned e (List.mem_cons_of_mem _ he))
      exact (List.nodup_cons.mp hNodup).1 he
    subst hRest
    simp [dropSocket, note]

variable (h : s.Sound)

include h

theorem Sound.configure (next : P) : (s.configure next).Sound ∧ (s.configure next).socket = none ∧
      (s.configure next).connectAttempt ∉ (s.configure next).tickets ∧
      (s.configure next).hasGivenUp = s.hasGivenUp := by
  have hDrop : s.configure next = { s with
      currentParams := next
      connectAttempt := s.connectAttempt + 1
      reconnectTimer := none
      socket := none
      live := []
      log := (s.log ++ [.configured next]) ++ s.live.map .closed } := dropSocket_eq h.owned h.nodup
  rw [hDrop]
  exact ⟨FeedBook.configured h next, rfl, fun hMem => absurd (h.asked _ hMem) (by simp), rfl⟩

theorem Sound.close : s.close.Sound ∧ s.close.hasGivenUp = s.hasGivenUp := by
  have hDrop : s.close = { s with
      closedByCaller := true
      firstFrameTimer := none
      reconnectTimer := none
      socket := none
      live := []
      log := (s.log ++ [.released]) ++ s.live.map .closed } := dropSocket_eq h.owned h.nodup
  rw [hDrop]
  exact ⟨FeedBook.freed h, rfl⟩

theorem Sound.unreleased (hOpen : s.closedByCaller = false) : .released ∉ s.log := by
  intro hMem
  rw [h.released.mp hMem] at hOpen
  cases hOpen

/-- The view keeps what it is handed sound, and remembers that it was told. -/
def Keeps (view : DataFeed P → DataFeed P) : Prop :=
  ∀ s, s.Sound → (view s).Sound ∧ (view s).hasGivenUp = s.hasGivenUp

theorem Sound.giveUp (hOpen : s.closedByCaller = false) (hView : Keeps view) :
    (s.giveUp view).Sound ∧ (s.giveUp view).hasGivenUp = s.hasGivenUp :=
  hView _ (FeedBook.tell h (h.unreleased hOpen) (Or.inl rfl))

theorem Sound.openWithTicket (hView : Keeps view)
    (hFree : attempt = s.connectAttempt → s.socket = none ∧ s.connectAttempt ∉ s.tickets) :
    (s.openWithTicket attempt throws view).Sound ∧
      (s.openWithTicket attempt throws view).hasGivenUp = s.hasGivenUp := by
  rw [DataFeed.openWithTicket]
  split
  · exact ⟨h, rfl⟩
  rename_i hGoes
  obtain ⟨hOpen, hAttempt⟩ := not_or.mp hGoes
  rw [Bool.not_eq_true] at hOpen
  obtain ⟨hSocket, hAsked⟩ := hFree (not_not.mp hAttempt)
  have hNone : FeedBook s.log false s.currentParams none s.live s.connectAttempt s.tickets := by
    rw [← hOpen, ← hSocket]
    exact h
  split
  · exact Sound.giveUp (hOpen.symm ▸ hNone) hOpen hView
  · have hOpened := hNone.opened hAsked s.created
    rw [← hOpen] at hOpened
    exact ⟨hOpened, rfl⟩

theorem Sound.connect (next : P) (token : Bool) (hView : Keeps view) :
    (s.connect next token throws view).Sound ∧
      (s.connect next token throws view).hasGivenUp = s.hasGivenUp := by
  obtain ⟨hSound, hSocket, hAsked, hGiven⟩ := h.configure next
  rw [DataFeed.connect, ← hGiven]
  split
  · exact ⟨hSound, rfl⟩
  split
  · refine ⟨?_, rfl⟩
    exact { hSound with
      waiting := fun _ => hSocket
      distinct := List.nodup_cons.mpr ⟨hAsked, hSound.distinct⟩
      asked := List.forall_mem_cons.mpr ⟨le_rfl, hSound.asked⟩ }
  · exact hSound.openWithTicket hView fun _ => ⟨hSocket, hAsked⟩

omit h in
theorem viewCall_keeps (calls : ViewCall P) : Keeps calls.run := by
  induction calls with
  | done => exact fun s h => ⟨h, rfl⟩
  | close rest ih =>
    intro s h
    obtain ⟨hSound, hGiven⟩ := h.close
    exact ⟨(ih _ hSound).1, (ih _ hSound).2.trans hGiven⟩
  | update next token throws fallback rest ihFallback ih =>
    intro s h
    obtain ⟨hSound, hGiven⟩ := h.connect next token ihFallback
    exact ⟨(ih _ hSound).1, (ih _ hSound).2.trans hGiven⟩

theorem Sound.scheduleReconnect
    (hOpen : s.hasGivenUp = false → s.closedByCaller = false) (hView : Keeps view) :
    (s.scheduleReconnect view).Sound := by
  have hCounted : Sound { s with reconnectAttempts := s.reconnectAttempts + 1 } := h
  have hGiven : Sound { s with
    reconnectAttempts := s.reconnectAttempts + 1
    hasGivenUp := true } := h
  rw [DataFeed.scheduleReconnect]
  split
  · rename_i hFirst
    exact (hGiven.giveUp (hOpen hFirst.2) hView).1
  · exact hCounted

omit h in
theorem isCurrent_iff : s.isCurrent c = true ↔ s.closedByCaller = false ∧ s.socket = some c := by
  simp [isCurrent]

/-- A ticket is answered. -/
theorem Sound.answered (hMem : attempt ∈ s.tickets) : Sound { s with tickets := s.tickets.erase attempt } ∧
      (attempt = s.connectAttempt → s.socket = none ∧ s.connectAttempt ∉ s.tickets.erase attempt) := by
  constructor
  · exact { h with
      waiting := fun hWaits => h.waiting (List.mem_of_mem_erase hWaits)
      distinct := h.distinct.erase attempt
      asked := fun earlier hEarlier => h.asked earlier (List.mem_of_mem_erase hEarlier) }
  · rintro rfl
    exact ⟨h.waiting hMem, fun hAgain => (h.distinct.mem_erase_iff.mp hAgain).1 rfl⟩

theorem Sound.ticketFailed (hView : Keeps view) : (s.ticketFailed attempt view).Sound := by
  rw [DataFeed.ticketFailed]
  split
  · exact h
  rename_i hGoes
  have hOpen := Bool.not_eq_true _ ▸ (not_or.mp hGoes).1
  dsimp only
  split
  · exact h.scheduleReconnect (fun _ => hOpen) hView
  · have hFirst : Sound { s with hasGivenUp := true } := h
    obtain ⟨hSound, hGiven⟩ := hFirst.giveUp hOpen hView
    refine hSound.scheduleReconnect (fun hNot => ?_) hView
    rw [hGiven] at hNot
    cases hNot

/-- The view is told what a current channel brings. -/
theorem Sound.told (hCurrent : s.isCurrent c = true) (m : FeedMessage) :
    FeedBook (s.log ++ [.told c m]) s.closedByCaller s.currentParams s.socket s.live
      s.connectAttempt s.tickets := by
  obtain ⟨hOpen, hSocket⟩ := isCurrent_iff.mp hCurrent
  exact FeedBook.tell h ⟨h.unreleased hOpen, _, h.speaks c hSocket, h.asks⟩
    (Or.inr (Or.inr ⟨c, m, rfl⟩))

omit h

theorem step_sound (e : FeedEvent P) (hStep : s.step e = some t) (h : s.Sound) : t.Sound := by
  cases e with
  | ticket attempt throws view =>
    obtain ⟨hMem, hNext⟩ := Option.ite_none_right_eq_some.mp hStep
    obtain ⟨hSound, hFree⟩ := h.answered hMem
    rw [← Option.some.inj hNext]
    exact (hSound.openWithTicket (viewCall_keeps view) hFree).1
  | noTicket attempt view =>
    obtain ⟨hMem, hNext⟩ := Option.ite_none_right_eq_some.mp hStep
    rw [← Option.some.inj hNext]
    exact (h.answered hMem).1.ticketFailed (viewCall_keeps view)
  | error c view =>
    obtain ⟨-, hNext⟩ := Option.ite_none_right_eq_some.mp hStep
    rw [← Option.some.inj hNext, onError]
    split
    · rename_i hCurrent
      have hStill : Sound { s with firstFrameTimer := none } := h
      exact (hStill.giveUp (isCurrent_iff.mp hCurrent).1 (viewCall_keeps view)).1
    · exact h
  | ended c view =>
    obtain ⟨-, hNext⟩ := Option.ite_none_right_eq_some.mp hStep
    have hEnded : Sound ({ s with live := s.live.erase c }.note (.closed c)) := FeedBook.ended h c
    rw [← Option.some.inj hNext, onClose]
    split
    · rename_i hCurrent
      exact Sound.scheduleReconnect hEnded (fun _ => (isCurrent_iff.mp hCurrent).1)
        (viewCall_keeps view)
    · exact hEnded
  | message c message view =>
    obtain ⟨-, hNext⟩ := Option.ite_none_right_eq_some.mp hStep
    rw [← Option.some.inj hNext]
    unfold onMessage
    split
    · rename_i hCurrent
      cases message with
      | unread => exact h
      | authRequired =>
        exact FeedBook.tell h (h.unreleased (isCurrent_iff.mp hCurrent).1) (Or.inr (Or.inl rfl))
      | feedData =>
        have hTold : Sound ({ s with
          firstFrameTimer := none
          reconnectAttempts := 0
          hasGivenUp := false }.note (.told c .feedData)) := h.told hCurrent .feedData
        exact (viewCall_keeps view _ hTold).1
      | other =>
        have hTold : Sound (s.note (.told c .other)) := h.told hCurrent .other
        exact (viewCall_keeps view _ hTold).1
    · exact h
  | firstFrameLate view =>
    obtain ⟨c, -, hNext⟩ := Option.map_eq_some_iff.mp hStep
    have hStill : Sound { s with firstFrameTimer := none } := h
    rw [← hNext]
    dsimp only
    split
    · rename_i hCurrent
      exact (hStill.giveUp (isCurrent_iff.mp hCurrent).1 (viewCall_keeps view)).1
    · exact h
  | reconnect token throws view =>
    obtain ⟨-, -, hNext⟩ := Option.map_eq_some_iff.mp hStep
    have hStill : Sound { s with reconnectTimer := none } := h
    rw [← hNext]
    exact (hStill.connect _ _ (viewCall_keeps view)).1
  | called view =>
    rw [← Option.some.inj hStep]
    exact (viewCall_keeps view s h).1

theorem new_sound (params : P) : (new params).Sound where
  lawful := EventLog.lawful_snoc.mpr ⟨EventLog.lawful_nil, trivial⟩
  released := by simp [new]
  asks := rfl
  speaks _ hSome := by cases hSome
  owned _ hLive := by cases hLive
  nodup := List.nodup_nil
  closed _ _ hMem := by simp [new] at hMem
  waiting _ := rfl
  distinct := List.nodup_nil
  asked _ hMem := by cases hMem

end DataFeed

open DataFeed

theorem openDataFeed_sound (shutdownPending : Bool) (params : P) (token throws : Bool)
    (view : ViewCall P) : (openDataFeed shutdownPending params token throws view).Sound := by
  rw [openDataFeed]
  split
  · exact new_sound params
  · exact ((new_sound params).connect params token (viewCall_keeps view)).1

/-- In whatever order channels open, speak and end, tickets and timers come, and the view
reconfigures or closes the handle, also while it is called: the handle keeps to the law, and at most
one channel is live, that of the handle. -/
theorem feed_lawful {shutdownPending token throws : Bool} {params : P} {view : ViewCall P}
    {events : List (FeedEvent P)} {s : DataFeed P}
    (hRun : StepRun.run DataFeed.step (openDataFeed shutdownPending params token throws view) events =
      some s) :
    EventLog.Lawful FeedLaw s.log ∧ s.live.Nodup ∧ ∀ c ∈ s.live, s.socket = some c := by
  have hInvariant : StepRun.Invariant (DataFeed.step (P := P)) DataFeed.Sound := fun _ e _ h hStep =>
    step_sound e hStep h
  have hSound := hInvariant.run (openDataFeed_sound shutdownPending params token throws view) hRun
  exact ⟨hSound.lawful, hSound.nodup, hSound.owned⟩

/-- A stream that is lost, a view that closes the handle when it is told, and the retry that comes
all the same. -/
theorem feed_lawful_closedInFallback : ∃ s, StepRun.run DataFeed.step
      (openDataFeed false () false false .done)
      [.ended 0 .done, .reconnect true false .done, .noTicket 2 (.close .done),
        .reconnect false false .done] = some s ∧
    EventLog.Lawful FeedLaw s.log ∧ s.live.Nodup ∧ ∀ c ∈ s.live, s.socket = some c := by
  exact StepRun.exists_end (by decide) fun s hRun => feed_lawful hRun

/-! ## A handle that is not given up -/

namespace DataFeed

/-- The handle is closed, or it has a live channel, or a timer or a ticket will bring one. -/
def Retrying (s : DataFeed P) : Prop :=
  s.closedByCaller = true ∨ (∃ c ∈ s.live, s.socket = some c) ∨
    (∃ delay ≤ FEED_RECONNECT_MAX_MS, s.reconnectTimer = some delay) ∨ s.connectAttempt ∈ s.tickets

end DataFeed

/-- All channels that the view asks for can be made. -/
def ViewCall.Makes : ViewCall P → Prop
  | .done => True
  | .close rest => rest.Makes
  | .update _ _ throws _ rest => throws = false ∧ rest.Makes

def FeedEvent.Makes : FeedEvent P → Prop
  | .ticket _ throws view | .reconnect _ throws view => throws = false ∧ view.Makes
  | .noTicket _ view | .error _ view | .ended _ view | .message _ _ view | .firstFrameLate view
  | .called view => view.Makes

namespace DataFeed

variable {s t : DataFeed P} {attempt : Nat}

theorem openWithTicket_retrying (h : s.Retrying ∨ attempt = s.connectAttempt)
    (view : DataFeed P → DataFeed P) : (s.openWithTicket attempt false view).Retrying := by
  rw [openWithTicket]
  split
  · rename_i hStays
    rcases hStays with hClosed | hOther
    · exact Or.inl hClosed
    · exact h.resolve_right hOther
  · exact Or.inr (Or.inl ⟨s.created, List.mem_cons_self, rfl⟩)

theorem connect_retrying (s : DataFeed P) (next : P) (token : Bool)
    (view : DataFeed P → DataFeed P) : (s.connect next token false view).Retrying := by
  rw [connect]
  split
  · rename_i hClosed
    exact Or.inl hClosed
  split
  · exact Or.inr (Or.inr (Or.inr List.mem_cons_self))
  · exact openWithTicket_retrying (Or.inr rfl) view

theorem close_retrying (s : DataFeed P) : s.close.Retrying := by
  refine Or.inl ?_
  rw [close, dropSocket]
  split
  · rfl
  · dsimp only
    split <;> rfl

theorem scheduleReconnect_retrying (s : DataFeed P) (view : DataFeed P → DataFeed P) :
    (s.scheduleReconnect view).Retrying :=
  Or.inr (Or.inr (Or.inl ⟨_, Nat.min_le_right _ _, rfl⟩))

theorem viewCall_retrying {calls : ViewCall P} (hMakes : calls.Makes) :
    ∀ s : DataFeed P, s.Retrying → (calls.run s).Retrying := by
  induction calls with
  | done => exact fun _ h => h
  | close rest ih => exact fun s _ => ih hMakes _ s.close_retrying
  | update next token throws fallback rest _ ih =>
    intro s _
    obtain ⟨rfl, hRest⟩ := hMakes
    exact ih hRest _ (s.connect_retrying next token fallback.run)

theorem step_retrying {e : FeedEvent P} (hMakes : e.Makes) (h : s.Retrying)
    (hStep : s.step e = some t) : t.Retrying := by
  cases e with
  | ticket attempt throws view =>
    obtain ⟨hMem, hNext⟩ := Option.ite_none_right_eq_some.mp hStep
    obtain ⟨rfl, -⟩ := hMakes
    rw [← Option.some.inj hNext]
    refine openWithTicket_retrying ?_ _
    by_cases hOwn : attempt = s.connectAttempt
    · exact Or.inr hOwn
    · exact Or.inl (h.imp_right (Or.imp_right (Or.imp_right fun hAsked =>
        (List.mem_erase_of_ne (Ne.symm hOwn)).mpr hAsked)))
  | noTicket attempt view =>
    obtain ⟨hMem, hNext⟩ := Option.ite_none_right_eq_some.mp hStep
    rw [← Option.some.inj hNext, ticketFailed]
    split
    · rename_i hStays
      rcases hStays with hClosed | hOther
      · exact Or.inl hClosed
      · exact h.imp_right (Or.imp_right (Or.imp_right fun hAsked =>
          (List.mem_erase_of_ne (Ne.symm hOther)).mpr hAsked))
    · exact scheduleReconnect_retrying _ _
  | error c view =>
    obtain ⟨-, hNext⟩ := Option.ite_none_right_eq_some.mp hStep
    rw [← Option.some.inj hNext, onError]
    split
    · exact viewCall_retrying hMakes _ h
    · exact h
  | ended c view =>
    obtain ⟨-, hNext⟩ := Option.ite_none_right_eq_some.mp hStep
    rw [← Option.some.inj hNext, onClose]
    split
    · exact scheduleReconnect_retrying _ _
    · rename_i hOther
      rcases h with hClosed | ⟨d, hLive, hSocket⟩ | hLater
      · exact Or.inl hClosed
      · by_cases hSame : d = c
        · refine Or.inl (by_contra fun hOpen => hOther (isCurrent_iff.mpr ⟨?_, hSame ▸ hSocket⟩))
          exact Bool.eq_false_iff.mpr hOpen
        · exact Or.inr (Or.inl ⟨d, (List.mem_erase_of_ne hSame).mpr hLive, hSocket⟩)
      · exact Or.inr (Or.inr hLater)
  | message c message view =>
    obtain ⟨-, hNext⟩ := Option.ite_none_right_eq_some.mp hStep
    rw [← Option.some.inj hNext]
    unfold onMessage
    split
    · cases message with
      | unread => exact h
      | authRequired => exact h
      | feedData => exact viewCall_retrying hMakes _ h
      | other => exact viewCall_retrying hMakes _ h
    · exact h
  | firstFrameLate view =>
    obtain ⟨c, -, hNext⟩ := Option.map_eq_some_iff.mp hStep
    rw [← hNext]
    dsimp only
    split
    · exact viewCall_retrying hMakes _ h
    · exact h
  | reconnect token throws view =>
    obtain ⟨-, -, hNext⟩ := Option.map_eq_some_iff.mp hStep
    obtain ⟨rfl, -⟩ := hMakes
    rw [← hNext]
    exact connect_retrying _ _ _ _
  | called view =>
    rw [← Option.some.inj hStep]
    exact viewCall_retrying hMakes s h

end DataFeed

/-- As long as channels can be made, an open handle has one, or is on its way to one: no event, and
nothing that the view does, leaves it waiting for nothing. -/
theorem feed_retries {token : Bool} {params : P} {view : ViewCall P} {events : List (FeedEvent P)}
    {s : DataFeed P}
    (hRun : StepRun.run DataFeed.step (openDataFeed false params token false view) events =
      some s) (hMakes : ∀ e ∈ events, e.Makes) : s.Retrying :=
  StepRun.run_keeps (fun _ _ _ hMakes h hStep => step_retrying hMakes h hStep)
    (connect_retrying (new params) params token view.run) hMakes hRun

/-- The handle waits for the ticket of a second channel. -/
theorem feed_retries_waiting : ∃ s, StepRun.run DataFeed.step
      (openDataFeed false () false false .done) [.ended 0 .done, .reconnect true false .done] =
    some s ∧ s.live = [] ∧ s.Retrying := by
  refine StepRun.exists_end (by decide) fun s hRun => ?_
  have hRetrying := feed_retries hRun (by simp [FeedEvent.Makes, ViewCall.Makes])
  cases hRun
  exact ⟨rfl, hRetrying⟩

end Sniff4Hound.Realtime
