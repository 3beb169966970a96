import Sniff4Hound.Honeypot.ListenerPolicy
import Sniff4Hound.Library.StepRun

/-!
# Runs of the honeypot's listeners

`start`, `_start_listeners`, `stop`, `set_listener_enabled`, `create_listener`, `_spawn_listener` and
`_stop_listener_thread` of `honeypot.py`, with the life of a listener's thread in `_listen`. Each step is
what one thread does between two accesses to what they share: a lock is taken, the store is called, an
event is set. The calls, the start threads and the listener threads take their steps in any order. A
join ends with its timeout at the latest, and the start thread's wait for a bound socket after a second,
so that both may go on at any time.
-/

namespace Sniff4Hound.Honeypot

/-- The id of a listener, `proto/port`. -/
structure ListenerId where
  proto : Proto
  port : Nat
deriving DecidableEq

def ListenerId.text (id : ListenerId) : String :=
  join "" [match id.proto with
    | .tcp => "tcp"
    | .udp => "udp", "/", toString id.port]

structure ListenerRow where
  source : Source
  enabled : Bool
deriving DecidableEq

inductive ListenerPhase
  | made
  | serving
  | closing
  | ended
deriving DecidableEq

/-- A thread of `_listen` and its stop event. -/
structure Listener where
  id : ListenerId
  stop_event : Bool
  phase : ListenerPhase
  /-- whether a socket could be bound, once it has been tried -/
  bound : Option Bool
  startedBy : Option Nat
deriving DecidableEq

/-- Where a call of `_spawn_listener` is. -/
inductive Spawn
  | check
  | prepare
  /-- the event and the thread are made, and not registered -/
  | register
deriving DecidableEq

inductive Task
  /-- `start`, behind its first lock -/
  | starting
  /-- `start`, behind its second lock -/
  | started (run : Nat)
  /-- `_start_listeners`, before the TLS context -/
  | startTls (run : Nat)
  | startList (run : Nat)
  | startNext (run : Nat) (rows : List (ListenerId × ListenerRow))
  | startSpawn (run : Nat) (spawn : Spawn) (id : ListenerId) (source : Source)
      (rows : List (ListenerId × ListenerRow))
  | startWait (run : Nat)
  /-- before the last lock; `anyBound` is `bound` -/
  | startEnds (run : Nat) (anyBound : Bool)
  /-- `stop`, behind its first line -/
  | stopState
  | stopJoin
  | stopSignal (events : List Nat)
  /-- `set_listener_enabled` or `create_listener`, behind the store -/
  | toggled (id : ListenerId) (source : Source) (enabled : Bool)
  | spawning (spawn : Spawn) (id : ListenerId) (source : Source)
  /-- before `_stop_listener_thread` -/
  | removing (id : ListenerId)
  /-- `_stop_listener_thread`, behind its lock -/
  | signalling (events : List Nat)
  | ended
deriving DecidableEq

inductive EngineStatus
  | stopped
  | starting
  | ready
  | degraded
  | failed
  | stopping
deriving DecidableEq

/-- The listeners' rows, threads and tasks. -/
structure Listeners where
  /-- `_stop_event` -/
  stop : Bool
  /-- `running` and `status` of the state -/
  running : Bool
  status : EngineStatus
  /-- the names in `errors` of the state; the messages are for display only -/
  errors : List String
  /-- the table `honeypot_listeners` -/
  rows : Dict ListenerId ListenerRow
  /-- `_listener_stop_events` and `_listener_threads`, which are changed together under the lock -/
  roster : Dict ListenerId Nat
  threads : List Listener
  /-- `_listener_bound` -/
  bound : List ListenerId
  /-- `_tls_context` is there -/
  tls : Bool
  tasks : List Task
  /-- how often `start` has cleared `_stop_event` -/
  runs : Nat
deriving DecidableEq

def Listeners.initial (rows : Dict ListenerId ListenerRow) : Listeners where
  stop := false
  running := false
  status := .stopped
  errors := []
  rows := rows
  roster := []
  threads := []
  bound := []
  tls := false
  tasks := []
  runs := 0

/-- A step of a task or of a thread. -/
inductive ListenerEvent
  | startCalled
  | stopCalled
  | setEnabled (id : ListenerId) (enabled : Bool)
  | create (id : ListenerId)
  /-- the next step of a task; `ok` says that the session or the TLS context is made -/
  | task (k : Nat) (ok : Bool)
  /-- the sockets of a thread: the hosts where they could not be bound, and whether one could be -/
  | binds (t : Nat) (failures : List String) (bound : Bool)
  | looks (t : Nat)
  | closes (t : Nat)
  | crashes (t : Nat)

/-- The order of `list_honeypot_listeners`. -/
def listedBefore (a b : ListenerId × ListenerRow) : Bool :=
  match a.1.proto, b.1.proto with
  | .tcp, .udp => true
  | .udp, .tcp => false
  | _, _ => decide (a.1.port ≤ b.1.port)

namespace Listeners

def setTask (s : Listeners) (k : Nat) (task : Task) : Listeners :=
  { s with tasks := s.tasks.set k task }

def addTask (s : Listeners) (task : Task) : Listeners := { s with tasks := s.tasks ++ [task] }

def setError (s : Listeners) (name : String) : Listeners :=
  { s with errors := s.errors.insert name }

def setThread (s : Listeners) (t : Nat) (thread : Listener) : Listeners :=
  { s with threads := s.threads.set t thread }

def discard (s : Listeners) (id : ListenerId) : Listeners :=
  { s with bound := s.bound.filter (· ≠ id) }

/-- The registered thread of a listener `is_alive`. -/
def alive (s : Listeners) (id : ListenerId) : Bool :=
  match (s.roster.lookup id).bind fun t => s.threads[t]? with
  | none => false
  | some thread => decide (thread.phase ≠ .ended)

/-- The next step of `_spawn_listener`; there is no further one where it returns. -/
def spawn (s : Listeners) (startedBy : Option Nat) (id : ListenerId) (source : Source) :
    Spawn → Listeners × Option Spawn
  | .check => if s.alive id then (s, none) else (s, some .prepare)
  | .prepare =>
    if listener_port_allowed id.proto id.port source = false then (s.setError id.text, none)
    else if id.proto = .tcp ∧ id.port ∈ TLS_TCP_PORTS ∧ s.tls = false then
      (s.setError id.text, none)
    else (s, some .register)
  | .register =>
    ({ s with
      roster := s.roster.set id s.threads.length
      threads := s.threads ++ [⟨id, false, .made, none, startedBy⟩] }, none)

/-- `stop_event.set()`. -/
def signal (s : Listeners) (t : Nat) : Listeners :=
  match s.threads[t]? with
  | none => s
  | some thread => s.setThread t { thread with stop_event := true }

/-- The last lines of `_start_listeners`. -/
def startEnds (s : Listeners) (anyBound : Bool) : Listeners :=
  if s.stop then s
  else if anyBound then { s with status := if s.errors = [] then .ready else .degraded }
  else
    { s.setError "listeners" with
      stop := true
      running := false
      status := .failed }

def taskStep (s : Listeners) (k : Nat) (ok : Bool) : Task → Option Listeners
  | .starting =>
    some { s.setTask k (.started (s.runs + 1)) with
      stop := false
      running := true
      status := .starting
      errors := []
      runs := s.runs + 1 }
  | .started run => some (s.setTask k (if ok then .startTls run else .ended))
  | .startTls run =>
    let s := s.setTask k (.startList run)
    some (if ok then { s with tls := true } else { s.setError "tls" with tls := false })
  | .startList run => some (s.setTask k (.startNext run (s.rows.mergeSort listedBefore)))
  | .startNext run [] => some (s.setTask k (.startWait run))
  | .startNext run ((id, row) :: rows) =>
    some (s.setTask k (if s.stop then .startWait run
      else if row.enabled then .startSpawn run .check id row.source rows
      else .startNext run rows))
  | .startSpawn run spawn id source rows =>
    match s.spawn (some run) id source spawn with
    | (s, none) => some (s.setTask k (.startNext run rows))
    | (s, some spawn) => some (s.setTask k (.startSpawn run spawn id source rows))
  | .startWait run => some (s.setTask k (.startEnds run (!s.bound.isEmpty)))
  | .startEnds _ anyBound => some ((s.setTask k .ended).startEnds anyBound)
  | .stopState =>
    some { s.setTask k .stopJoin with
      status := if s.running then .stopping else .stopped
      running := false }
  | .stopJoin =>
    some { s.setTask k (.stopSignal (s.roster.map Prod.snd)) with
      roster := []
      bound := [] }
  | .stopSignal [] => some { s.setTask k .ended with status := .stopped }
  | .stopSignal (t :: events) => some ((s.setTask k (.stopSignal events)).signal t)
  | .toggled id source enabled =>
    some (s.setTask k (if s.running then
        if enabled then .spawning .check id source else .removing id
      else .ended))
  | .spawning spawn id source =>
    match s.spawn none id source spawn with
    | (s, none) => some (s.setTask k .ended)
    | (s, some spawn) => some (s.setTask k (.spawning spawn id source))
  | .removing id =>
    some { s.setTask k (.signalling (s.roster.lookup id).toList) with roster := s.roster.erase id }
  | .signalling [] => some (s.setTask k .ended)
  | .signalling (t :: events) => some ((s.setTask k (.signalling events)).signal t)
  | .ended => none

def stopping (s : Listeners) (thread : Listener) : Bool := thread.stop_event || s.stop

/-- `bind` for each host. -/
def bindSockets (s : Listeners) (t : Nat) (failures : List String) (bound : Bool) (thread : Listener) :
    Listeners :=
  let s := failures.foldl (fun s host => s.setError (join "" [thread.id.text, "@", host])) s
  if bound then
    { s.setThread t { thread with phase := .serving, bound := some true } with
      bound := s.bound.insert thread.id }
  else (s.setThread t { thread with phase := .ended, bound := some false }).discard thread.id

def threadStep (s : Listeners) (t : Nat) (thread : Listener) : ListenerEvent → Option Listeners
  | .binds _ failures bound =>
    if thread.phase = .made then some (s.bindSockets t failures bound thread) else none
  | .looks _ =>
    if thread.phase = .serving then
      some (if s.stopping thread then s.setThread t { thread with phase := .closing } else s)
    else none
  | .closes _ =>
    if thread.phase = .closing then
      some ((s.setThread t { thread with phase := .ended }).discard thread.id)
    else none
  | .crashes _ =>
    if thread.phase = .serving then
      some ((s.setThread t { thread with phase := .ended }).discard thread.id)
    else none
  | _ => none

def step (s : Listeners) : ListenerEvent → Option Listeners
  | .startCalled => some (if s.running then s else s.addTask .starting)
  | .stopCalled => some { s.addTask .stopState with stop := true }
  | .setEnabled id enabled =>
    match s.rows.lookup id with
    | none => none
    | some row =>
      if enabled ∧ listener_port_allowed id.proto id.port row.source = false then none
      else
        some { s.addTask (.toggled id row.source enabled) with
          rows := s.rows.set id { row with enabled := enabled } }
  | .create id =>
    if listener_port_allowed id.proto id.port .custom = false ∨ (s.rows.lookup id).isSome then none
    else
      some { s.addTask (.toggled id .custom true) with
        rows := s.rows.set id ⟨.custom, true⟩ }
  | .task k ok => (s.tasks[k]?).bind (s.taskStep k ok)
  | .binds t failures bound =>
    (s.threads[t]?).bind fun thread => s.threadStep t thread (.binds t failures bound)
  | .looks t => (s.threads[t]?).bind fun thread => s.threadStep t thread (.looks t)
  | .closes t => (s.threads[t]?).bind fun thread => s.threadStep t thread (.closes t)
  | .crashes t => (s.threads[t]?).bind fun thread => s.threadStep t thread (.crashes t)

end Listeners

end Sniff4Hound.Honeypot
