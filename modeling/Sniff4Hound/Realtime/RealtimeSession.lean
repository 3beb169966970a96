import Sniff4Hound.Library.StepRun

/-!
# One realtime client

`RealtimeSession` of `app.py` and the loop of `realtime_stream.events` that reads it. Any number of
threads call `send_text`, `send_ping` and `close`; a call takes one step for each read or write of
the session that another thread may see, and waits while another call holds the lock. The loop takes
its steps without the lock. `history` holds all events that were ever put into the queue, each with
the call that put it there, `delivered` the events that the loop has yielded, and `closer` the code
and the reason of the close that came first.
-/

namespace Sniff4Hound.Realtime

def REALTIME_QUEUE_LIMIT : Nat := 1000

def WS_SLOW_CONSUMER_CLOSE_CODE : Int := 1013

inductive Event
  | data (text : String)
  | ping
  | close (code : Int) (reason : String)
deriving DecidableEq

def Event.isClose : Event → Bool
  | .close .. => true
  | _ => false

/-- How a call ends: the event is in the queue, an exception says that the session is closed or
too slow, or `close` returns. -/
inductive Result
  | accepted (item : Event)
  | refused
  | closed
deriving DecidableEq

inductive Job
  | put (item : Event)
  | close (code : Int) (reason : String)
deriving DecidableEq

/-- A `_close_locked` that found the session open, and how the call around it ends. -/
structure Closing where
  code : Int
  reason : String
  result : Result
deriving DecidableEq

inductive Pc
  | absent
  /-- `send_text`, before it reads `closed` without the lock -/
  | send (text : String)
  | waits (job : Job)
  /-- with the lock, before it reads `closed` -/
  | holds (job : Job)
  | sizes (item : Event)
  | puts (item : Event)
  /-- before it writes `closed` -/
  | marks (closing : Closing)
  /-- before it writes `close_code` -/
  | codes (closing : Closing)
  | queues (closing : Closing)
  | leaves (result : Result)
  | done (result : Result)
deriving DecidableEq

inductive Consumer
  | waiting
  | timedOut
  | ended
  | gone
deriving DecidableEq

/-- `RealtimeSession` with its callers and its consumer. -/
structure Session where
  closed : Bool
  close_code : Int
  lock : Option Nat
  queue : List Event
  calls : Nat → Pc
  consumer : Consumer
  history : List (Nat × Event)
  delivered : List Event
  closer : Option (Int × String)

/-- `__init__`. -/
def Session.new : Session where
  closed := false
  close_code := 1000
  lock := none
  queue := []
  calls := fun _ => .absent
  consumer := .waiting
  history := []
  delivered := []
  closer := none

/-- `int(code or 1000)`. -/
def closeCode (code : Int) : Int := if code = 0 then 1000 else code

namespace Session

def goto (s : Session) (t : Nat) (pc : Pc) : Session :=
  { s with calls := Function.update s.calls t pc }

/-- `put_nowait`, by the call `t`. -/
def put (s : Session) (t : Nat) (item : Event) : Session :=
  { s with queue := s.queue ++ [item], history := s.history ++ [(t, item)] }

/-- The next step of the call `t`. -/
def callStep (s : Session) (t : Nat) : Option Session :=
  match s.calls t with
  | .absent => none
  | .send text => some (s.goto t (if s.closed then .done .refused else .waits (.put (.data text))))
  | .waits job =>
    if s.lock = none then some ({ s with lock := some t }.goto t (.holds job)) else none
  | .holds (.put item) => some (s.goto t (if s.closed then .leaves .refused else .sizes item))
  | .holds (.close code reason) =>
    some (s.goto t (if s.closed then .leaves .closed else .marks ⟨code, reason, .closed⟩))
  | .sizes item =>
    some (s.goto t (if REALTIME_QUEUE_LIMIT ≤ s.queue.length then
      .marks ⟨WS_SLOW_CONSUMER_CLOSE_CODE, "slow consumer", .refused⟩ else .puts item))
  | .puts item => some ((s.put t item).goto t (.leaves (.accepted item)))
  | .marks closing =>
    some ({ s with
      closed := true
      closer := s.closer.or (some (closeCode closing.code, closing.reason)) }.goto t
      (.codes closing))
  | .codes closing =>
    some ({ s with close_code := closeCode closing.code }.goto t (.queues closing))
  | .queues closing =>
    some ((s.put t (.close s.close_code closing.reason)).goto t (.leaves closing.result))
  | .leaves result => some ({ s with lock := none }.goto t (.done result))
  | .done _ => none

/-- `next_event` returns an event, and the loop yields it; a close event ends the loop. -/
def takeStep (s : Session) : Option Session :=
  match s.consumer, s.queue with
  | .waiting, item :: rest =>
    some { s with
      queue := rest
      delivered := s.delivered ++ [item]
      consumer := if item.isClose then .ended else .waiting }
  | _, _ => none

/-- `next_event` returns `None`. -/
def timeoutStep (s : Session) : Option Session :=
  if s.consumer = .waiting ∧ s.queue = [] then some { s with consumer := .timedOut } else none

def lookStep (s : Session) : Option Session :=
  if s.consumer = .timedOut then
    some { s with consumer := if s.closed then .ended else .waiting }
  else none

end Session

/-- A new call, or a step of a call or of the consumer. -/
inductive Label
  | send_text (t : Nat) (text : String)
  | send_ping (t : Nat)
  | close (t : Nat) (code : Int) (reason : String)
  | call (t : Nat)
  | take
  | timeout
  | look
  | abandon
deriving DecidableEq

def Session.spawn (s : Session) (t : Nat) (pc : Pc) : Option Session :=
  if s.calls t = .absent then some (s.goto t pc) else none

def Session.step (s : Session) : Label → Option Session
  | .send_text t text => s.spawn t (.send text)
  | .send_ping t => s.spawn t (.waits (.put .ping))
  | .close t code reason => s.spawn t (.waits (.close code reason))
  | .call t => s.callStep t
  | .take => s.takeStep
  | .timeout => s.timeoutStep
  | .look => s.lookStep
  | .abandon => if s.consumer = .ended then none else some { s with consumer := .gone }

end Sniff4Hound.Realtime
