import Sniff4Hound.Library.StepRun

/-!
# The event writer of the honeypot

`_event_writer` of `honeypot.py`, with `_emit_packet`, `_ensure_event_db`, `_close_event_db` and what
`start`, `_start_listeners` and `stop` do with the stop flag, the writer's thread and the database of
events. Each step is what one thread does between two accesses to what they share; the threads take
their steps in any order. A join ends with its timeout at the latest, so that `stop` may go on at any
time. `_touch_packet` and `_broadcast_packet` follow the registration and raise nothing.
-/

namespace Sniff4Hound.Honeypot

def DB_BATCH_SIZE : Nat := 100

variable {ε : Type*}

/-- An entry of `_event_queue`: the packet with its `listener_meta`. The number counts the entries
from the first, and `running` says that the stop flag was not set when it was put. -/
structure Emission (ε : Type*) where
  number : Nat
  packet : ε
  running : Bool
deriving DecidableEq

structure WriterEnv (ε : Type*) where
  insertRaises : Emission ε → Bool
  registerRaises : Emission ε → Bool

def WriterEnv.fails (env : WriterEnv ε) (e : Emission ε) : Bool :=
  env.insertRaises e || env.registerRaises e

inductive Phase (ε : Type*)
  | started
  | connecting
  | head
  | stopSeen
  /-- in `get` -/
  | waiting
  | filling (batch : List (Emission ε))
  | saving (rest : List (Emission ε))
  | left
  | ended

def Phase.inLoop : Phase ε → Bool
  | .left => false
  | .ended => false
  | _ => true

def Phase.alive : Phase ε → Bool
  | .ended => false
  | _ => true

def Phase.held : Phase ε → List (Emission ε)
  | .filling batch => batch
  | .saving rest => rest
  | _ => []

/-- A thread of `_event_writer`; `conn` is its variable of that name. -/
structure Writer (ε : Type*) where
  conn : Option Nat
  phase : Phase ε

/-- The events, their writers and what became of them. -/
structure Engine (ε : Type*) where
  /-- `_stop_event` -/
  stop : Bool
  /-- `_event_queue` -/
  queue : List (Emission ε)
  /-- `_event_db` -/
  eventDb : Option Nat
  connections : Nat
  closed : List Nat
  writers : List (Writer ε)
  /-- `_writer_thread` -/
  current : Option Nat
  /-- calls of `start` that have cleared the flag and not looked for the writer -/
  starts : Nat
  /-- calls of `stop` that have set the flag and not forgotten the writer -/
  stops : Nat
  /-- calls of `stop` that have yet to close the database -/
  closes : Nat
  emitted : List (Emission ε)
  /-- the events given to `register_packet`, when it returns -/
  registered : List (Emission ε)
  discarded : List (Emission ε)

def Engine.initial : Engine ε where
  stop := false
  queue := []
  eventDb := none
  connections := 0
  closed := []
  writers := []
  current := none
  starts := 0
  stops := 0
  closes := 0
  emitted := []
  registered := []
  discarded := []

/-- A step of the engine or of a writer. -/
inductive WriterEvent (ε : Type*)
  | emit (packet : ε)
  /-- `start`: the flag is cleared -/
  | startClears
  /-- `start`: `_session_id` raises -/
  | startRaises
  /-- `start`: the writer's thread, if there is none that is alive -/
  | startWriter
  /-- `_start_listeners`: no listener could bind -/
  | bindFails
  /-- `stop`: the flag is set -/
  | stopSets
  /-- `stop`, behind the joins: the writer is forgotten -/
  | stopForgets
  /-- `stop`: `_close_event_db` -/
  | stopCloses
  /-- the next step of a writer; `connects` says that the database can be opened -/
  | writer (w : Nat) (connects : Bool)

namespace Engine

def setWriter (s : Engine ε) (w : Nat) (writer : Writer ε) : Engine ε :=
  { s with writers := s.writers.set w writer }

/-- `_emit_packet`. -/
def emit (s : Engine ε) (packet : ε) : Engine ε :=
  let e : Emission ε := ⟨s.emitted.length, packet, !s.stop⟩
  { s with queue := s.queue ++ [e], emitted := s.emitted ++ [e] }

/-- `is_alive` of `_writer_thread`, when there is one. -/
def writerAlive (s : Engine ε) : Bool :=
  match s.current.bind fun w => s.writers[w]? with
  | none => false
  | some writer => writer.phase.alive

/-- `start`: a writer is made unless the one that is known is alive. -/
def startWriter (s : Engine ε) : Engine ε :=
  if s.writerAlive then { s with starts := s.starts - 1 }
  else
    { s with
      starts := s.starts - 1
      writers := s.writers ++ [⟨none, .started⟩]
      current := some s.writers.length }

def closeEventDb (s : Engine ε) : Engine ε :=
  match s.eventDb with
  | none => s
  | some conn => { s with eventDb := none, closed := s.closed ++ [conn] }

def raises (env : WriterEnv ε) (s : Engine ε) (conn : Option Nat) (e : Emission ε) : Bool :=
  (match conn with
    | none => false
    | some conn => decide (conn ∈ s.closed) || env.insertRaises e) || env.registerRaises e

/-- The next step of the writer `w`. -/
def writerStep (env : WriterEnv ε) (s : Engine ε) (w : Nat) (connects : Bool)
    (writer : Writer ε) : Option (Engine ε) :=
  match writer.phase with
  | .started =>
    match s.eventDb with
    | some conn => some (s.setWriter w ⟨some conn, .head⟩)
    | none => some (s.setWriter w ⟨none, .connecting⟩)
  | .connecting =>
    if connects then
      some { s.setWriter w ⟨some s.connections, .head⟩ with
        eventDb := some s.connections
        connections := s.connections + 1 }
    else some (s.setWriter w ⟨none, .head⟩)
  | .head =>
    some (s.setWriter w { writer with phase := if s.stop then .stopSeen else .waiting })
  | .stopSeen =>
    some (s.setWriter w { writer with phase := if s.queue.isEmpty then .left else .waiting })
  | .waiting =>
    match s.queue with
    | [] => some (s.setWriter w { writer with phase := .head })
    | e :: queue =>
      some { s.setWriter w { writer with phase := .filling [e] } with queue := queue }
  | .filling batch =>
    if batch.length < DB_BATCH_SIZE then
      match s.queue with
      | [] => some (s.setWriter w { writer with phase := .saving batch })
      | e :: queue =>
        some { s.setWriter w { writer with phase := .filling (batch ++ [e]) } with
          queue := queue }
    else some (s.setWriter w { writer with phase := .saving batch })
  | .saving [] => some (s.setWriter w { writer with phase := .head })
  | .saving (e :: rest) =>
    if s.raises env writer.conn e then
      some { s.setWriter w { writer with phase := .head } with
        discarded := s.discarded ++ e :: rest }
    else
      some { s.setWriter w { writer with phase := .saving rest } with
        registered := s.registered ++ [e] }
  | .left => some (s.setWriter w { writer with phase := .ended })
  | .ended => none

def step (env : WriterEnv ε) (s : Engine ε) : WriterEvent ε → Option (Engine ε)
  | .emit packet => some (s.emit packet)
  | .startClears => some { s with stop := false, starts := s.starts + 1 }
  | .startRaises => if s.starts = 0 then none else some { s with starts := s.starts - 1 }
  | .startWriter => if s.starts = 0 then none else some s.startWriter
  | .bindFails => some { s with stop := true }
  | .stopSets => some { s with stop := true, stops := s.stops + 1 }
  | .stopForgets =>
    if s.stops = 0 then none
    else some { s with stops := s.stops - 1, closes := s.closes + 1, current := none }
  | .stopCloses =>
    if s.closes = 0 then none else some { s.closeEventDb with closes := s.closes - 1 }
  | .writer w connects => (s.writers[w]?).bind (s.writerStep env w connects)

end Engine

end Sniff4Hound.Honeypot
