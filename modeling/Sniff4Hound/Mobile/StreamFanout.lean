import Sniff4Hound.Mobile.PairingService
import Sniff4Hound.Mobile.PublicEvent

/-!
# Event streams of paired phones

The other half of `MobileStreamService`: the sessions of paired phones, the event streams they hold
open, and `_notify_all`, which puts an event into the queues of the streams. A stream is numbered by
the object of its queue; the service forgets a stream that is dead, while the stream itself still
holds its queue.
-/

namespace Sniff4Hound.Mobile

def STREAM_QUEUE_SIZE : Nat := 200

def MAX_STREAM_EVENT_SECONDS : Rat := 24 * 60 * 60

def LOG_FEED_LEVELS : List String := ["DEBUG", "INFO", "WARNING", "ERROR"]

def LOG_RANK : Dict String Nat :=
  [("DEBUG", 10), ("INFO", 20), ("WARNING", 30), ("ERROR", 40), ("CRITICAL", 50)]

def LOG_BACKLOG : Nat := 40

def LOG_RING_SIZE : Nat := 1500

def log_rank (rt : Runtime) (level : String) : Nat := (LOG_RANK.lookup (rt.upper level)).getD 0

def normalize_log_level (rt : Runtime) (value : String) : Option String :=
  let name := rt.upper (strip value)
  if name ∈ LOG_FEED_LEVELS then some name else none

/-! ## Events and queues -/

/-- A record of the log as `_public_log` shows it. -/
structure LogLine where
  generated_at : String
  level : String
  source : String
  logger : String
  message : String

inductive StreamEvent
  | revoked (generated_at : String)
  | shown (event : PublicEvent)
  | log (line : LogLine)

def StreamEvent.isRevoked : StreamEvent → Bool
  | revoked _ => true
  | _ => false

/-- `queue.Queue(maxsize=STREAM_QUEUE_SIZE)` -/
structure StreamQueue where
  items : List StreamEvent
  short : items.length ≤ STREAM_QUEUE_SIZE

namespace StreamQueue

def empty : StreamQueue := ⟨[], Nat.zero_le _⟩

/-- `put_nowait`; nothing for `queue.Full`. -/
def put_nowait (q : StreamQueue) (event : StreamEvent) : Option StreamQueue :=
  if h : q.items.length < STREAM_QUEUE_SIZE then
    some ⟨q.items ++ [event], by rw [List.length_append]; exact h⟩
  else none

/-- `get_nowait`; nothing for `queue.Empty`. -/
def get_nowait (q : StreamQueue) : Option (StreamEvent × StreamQueue) :=
  match q with
  | ⟨[], _⟩ => none
  | ⟨event :: rest, short⟩ => some (event, ⟨rest, (Nat.le_succ _).trans short⟩)

/-- What `_notify_all` does with one queue, and whether the event counts as sent. A full queue loses
its oldest item. -/
def offer (q : StreamQueue) (event : StreamEvent) : StreamQueue × Bool :=
  match q.put_nowait event with
  | some q => (q, true)
  | none =>
    match q.get_nowait with
    | none => (q, false)
    | some (_, q) =>
      match q.put_nowait event with
      | some q => (q, true)
      | none => (q, false)

end StreamQueue

/-! ## The service -/

structure StreamSession extends MobileSession where
  event_count : Nat := 0

/-- Where a running `event_stream` stands: before its session is looked up, before `q.get`, or at
its end. -/
inductive StreamPlace
  | checking
  | waiting
  | ended
deriving DecidableEq

/-- The local variables of an `event_stream`. -/
structure EventStream where
  token : String
  queue : StreamQueue
  started : Rat
  place : StreamPlace

inductive StreamFrame
  | hello
  | event (event : StreamEvent)
  | keepalive

structure Reading where
  seconds : Rat
  positive : 0 < seconds

/-- `opened` and `issued` are not in the code: how many streams there were, and the tokens of all
sessions so far. -/
structure StreamService where
  sessions : Dict String StreamSession := []
  subscribers : Dict Nat String := []
  log_levels : Dict Nat Nat := []
  log_ring : List LogLine := []
  following : Bool := false
  streams : Nat → EventStream := fun _ => ⟨"", .empty, 0, .ended⟩
  opened : Nat := 0
  issued : List String := []

/-- What changes within the loop of `_notify_all`. -/
structure Delivery where
  sessions : Dict String StreamSession
  streams : Nat → EventStream
  dead : List Nat

def unwanted (rt : Runtime) (log_levels : Dict Nat Nat) (subscriber_id : Nat) :
    StreamEvent → Bool
  | .log line =>
    match log_levels.lookup subscriber_id with
    | none => true
    | some wanted => log_rank rt line.level < wanted
  | _ => false

/-- One round of the loop of `_notify_all`. -/
def notify_one (rt : Runtime) (log_levels : Dict Nat Nat) (event : StreamEvent)
    (token : Option String) (d : Delivery) (entry : Nat × String) : Delivery :=
  let (subscriber_id, subscriber_token) := entry
  if token ≠ none ∧ token ≠ some subscriber_token then d
  else if unwanted rt log_levels subscriber_id event then d
  else
    match d.sessions.lookup subscriber_token with
    | none => { d with dead := d.dead ++ [subscriber_id] }
    | some session =>
      if session.revoked_at ≠ 0 ∧ token = none then { d with dead := d.dead ++ [subscriber_id] }
      else
        let stream := d.streams subscriber_id
        let (queue, sent) := stream.queue.offer event
        { d with
          streams := Function.update d.streams subscriber_id { stream with queue := queue }
          sessions :=
            if sent then
              d.sessions.set subscriber_token
                { session with event_count := session.event_count + 1 }
            else d.sessions }

namespace StreamService

def notify_all (rt : Runtime) (s : StreamService) (event : StreamEvent)
    (token : Option String := none) : StreamService :=
  let d := s.subscribers.foldl (notify_one rt s.log_levels event token)
    { sessions := s.sessions, streams := s.streams, dead := [] }
  { s with
    sessions := d.sessions
    streams := d.streams
    subscribers := s.subscribers.filter fun (entry : Nat × String) => entry.1 ∉ d.dead }

/-- `_prune_sessions_locked` -/
def prune_sessions (s : StreamService) (now : Rat) : StreamService :=
  { s with sessions := s.sessions.filter fun (entry : String × StreamSession) =>
    ¬entry.2.Expired now }

def session (s : StreamService) (token : String) (prune now : Reading) :
    Option StreamSession × StreamService :=
  let s := s.prune_sessions prune.seconds
  match s.sessions.lookup token with
  | none => (none, s)
  | some session =>
    if session.revoked_at ≠ 0 then (none, s)
    else
      let session := { session with last_seen := now.seconds }
      (some session, { s with sessions := s.sessions.set token session })

/-- The loop of `stop` over the sessions. -/
def revoke_all (s : StreamService) (now : Rat) : StreamService :=
  { s with sessions := s.sessions.map fun (entry : String × StreamSession) =>
    (entry.1, { entry.2 with revoked_at := now }) }

/-- `stop`, of which the listeners and the pairings are left out; it ends with `status`. -/
def stop (rt : Runtime) (s : StreamService) (utc : String) (now prune : Reading) : StreamService :=
  let s := (s.revoke_all now.seconds).notify_all rt (.revoked utc)
  { s with following := false }.prune_sessions prune.seconds

def revoke_session (rt : Runtime) (s : StreamService) (token utc : String) (now : Reading) :
    Bool × StreamService :=
  match s.sessions.lookup token with
  | none => (false, s)
  | some session =>
    let s := { s with
      sessions := s.sessions.set token { session with revoked_at := now.seconds } }
    (true, s.notify_all rt (.revoked utc) (some session.token))

/-- `record_event`; an error of `_public_event` leaves the service as it is. -/
def record_event (rt : Runtime) (s : StreamService) (utc : String) (payload : Broadcast) :
    StreamService :=
  match public_event rt utc payload with
  | .ok (some event) => s.notify_all rt (.shown event)
  | .ok none => s
  | .error _ => s

/-- `deque(maxlen=LOG_RING_SIZE)` after an append. -/
def ring (lines : List LogLine) (line : LogLine) : List LogLine :=
  (lines ++ [line]).drop (lines.length + 1 - LOG_RING_SIZE)

/-- One line of the loop of `_poll_logs_locked`. -/
def show_line (rt : Runtime) (s : StreamService) (line : LogLine) : StreamService :=
  { s with log_ring := ring s.log_ring line }.notify_all rt (.log line)

/-- The end of `_poll_logs_locked`, given the lines that it read in their order. -/
def poll_logs (rt : Runtime) (s : StreamService) (fresh : List LogLine) : StreamService :=
  fresh.foldl (show_line rt) s

/-- A turn of `_follow_logs`. -/
def follow_logs (rt : Runtime) (s : StreamService) (fresh : List LogLine) : StreamService :=
  if s.following ∧ s.log_levels ≠ [] then s.poll_logs rt fresh else { s with following := false }

/-- `_start_log_follower_locked`, given the history that the files hold. -/
def start_log_follower (s : StreamService) (history : List LogLine) : StreamService :=
  if s.following then s
  else { s with
    following := true
    log_ring := history.drop (history.length - LOG_RING_SIZE) }

/-- `_log_backlog_locked` -/
def log_backlog (rt : Runtime) (s : StreamService) (floor : Nat) : List LogLine :=
  let matching := s.log_ring.filter fun line => floor ≤ log_rank rt line.level
  matching.drop (matching.length - LOG_BACKLOG)

/-- `event_stream` up to its loop. -/
def open_stream (rt : Runtime) (s : StreamService) (token log_level utc : String)
    (history : List LogLine) (prune now started : Reading) : List StreamFrame × StreamService :=
  match s.session token prune now with
  | (none, s) => ([.event (.revoked utc)], s)
  | (some _, s) =>
    let subscriber_id := s.opened
    let s := { s with
      opened := s.opened + 1
      streams := Function.update s.streams subscriber_id
        ⟨token, .empty, started.seconds, .checking⟩
      subscribers := s.subscribers.set subscriber_id token }
    match normalize_log_level rt log_level with
    | none => ([.hello], s)
    | some level =>
      let s := { s with log_levels := s.log_levels.set subscriber_id (log_rank rt level) }
      let s := s.start_log_follower history
      (.hello :: (s.log_backlog rt (log_rank rt level)).map fun line => .event (.log line), s)

/-- The `finally` of `event_stream`. -/
def close_stream (s : StreamService) (id : Nat) : StreamService :=
  let log_levels := s.log_levels.erase id
  { s with
    streams := Function.update s.streams id { s.streams id with place := .ended }
    subscribers := s.subscribers.erase id
    log_levels := log_levels
    following := if log_levels = [] then false else s.following }

/-- The loop of `event_stream` up to `q.get`. -/
def check_stream (s : StreamService) (id : Nat) (utc : String) (now prune seen : Reading) :
    List StreamFrame × StreamService :=
  let stream := s.streams id
  if MAX_STREAM_EVENT_SECONDS ≤ now.seconds - stream.started then ([], s.close_stream id)
  else
    match s.session stream.token prune seen with
    | (none, s) => ([.event (.revoked utc)], s.close_stream id)
    | (some _, s) =>
      ([], { s with
        streams := Function.update s.streams id { stream with place := .waiting } })

/-- `q.get`, and what is sent for it; without an item its time runs out. -/
def take_event (s : StreamService) (id : Nat) : List StreamFrame × StreamService :=
  let stream := s.streams id
  match stream.queue.get_nowait with
  | none =>
    ([.keepalive], { s with
      streams := Function.update s.streams id { stream with place := .checking } })
  | some (event, queue) =>
    ([.event event], { s with
      streams := Function.update s.streams id
        { stream with queue := queue, place := .checking } })

end StreamService

/-! ## Runs -/

/-- A call of the mobile stream. -/
inductive StreamCall
  | pair (token interface address client user_agent : String) (now : Reading)
  | revoke (token utc : String) (now : Reading)
  | stop (utc : String) (now prune : Reading)
  | status (prune : Reading)
  | session (token : String) (prune now : Reading)
  | record (utc : String) (payload : Broadcast)
  | follow (fresh : List LogLine)
  | «open» (token log_level utc : String) (history : List LogLine) (prune now started : Reading)
  | check (id : Nat) (utc : String) (now prune seen : Reading)
  | take (id : Nat)
  | close (id : Nat)

/-- One call. The token of a new session is a fresh random text, and a stream goes on from where it
stands until it has ended. -/
def StreamService.step (rt : Runtime) (s : StreamService) (call : StreamCall) :
    Option StreamService :=
  match call with
  | .pair token interface address client user_agent now =>
    if token ∈ s.issued then none
    else
      some { s with
        issued := token :: s.issued
        sessions := s.sessions.set token
          { token := token
            interface := interface
            address := address
            client := client
            user_agent := slice user_agent 180
            created_at := now.seconds
            last_seen := now.seconds } }
  | .revoke token utc now => some (s.revoke_session rt token utc now).2
  | .stop utc now prune => some (s.stop rt utc now prune)
  | .status prune => some (s.prune_sessions prune.seconds)
  | .session token prune now => some (s.session token prune now).2
  | .record utc payload => some (s.record_event rt utc payload)
  | .follow fresh => some (s.follow_logs rt fresh)
  | .open token log_level utc history prune now started =>
    some (s.open_stream rt token log_level utc history prune now started).2
  | .check id utc now prune seen =>
    if (s.streams id).place = .checking then some (s.check_stream id utc now prune seen).2
    else none
  | .take id => if (s.streams id).place = .waiting then some (s.take_event id).2 else none
  | .close id => if (s.streams id).place = .ended then none else some (s.close_stream id)

end Sniff4Hound.Mobile
