import Sniff4Hound.Library.StepRun

/-!
# The client of the capture service

`IpcClient` of `ipc.py` as a step function: calling threads, the reader of each connection,
`connect` and `close` move in any order, and a label says what came from outside (a frame
was sent or the send failed, a response arrived, `recv` failed, a wait timed out, a
handshake ended).

* A section under `_connect_lock` that others cannot see into is one step that needs the
  lock free. `_drop_connection` and the handshake hold it over several steps.
* The dictionary `_pending` is only touched under `_pending_lock`: one step each time.
* `_PendingCall.deliver` and `fail` write the message and then set the event, without any
  lock: two steps.

Request ids come from `uuid4` and are numbered here; a socket is named by the generation it
was installed with. The service answers a request it received, on the connection it came
on, as often and as late as it likes. Frames of kind `event` change nothing here and are
left out.
-/

namespace Sniff4Hound.Ipc

abbrev ThreadId := Nat

abbrev RequestId := Nat

abbrev Generation := Nat

/-- The fields of a response `call` looks at; an absent text is empty. -/
structure Message (R : Type) where
  id : Option RequestId
  ok : Bool
  result : Option R
  error : String
  errorType : String
  deriving DecidableEq, Repr

inductive CallError
  | disconnected (text : String)
  | auth (text : String)
  | ipc (text : String)
  | remote (text remoteType : String)
  | assertion
  deriving DecidableEq, Repr

/-- How `call` ends. -/
inductive Outcome (R : Type)
  | returned (r : Option R)
  | raised (e : CallError)
  deriving DecidableEq, Repr

/-- The last lines of `call`: what a message means to the caller. -/
def Message.outcome {R : Type} (m : Message R) : Outcome R :=
  if m.ok then .returned m.result
  else
    let error := if m.error = "" then "IPC call failed" else m.error
    if m.errorType = "" then .raised (.ipc error) else .raised (.remote error m.errorType)

/-- The message `_PendingCall.fail` records. -/
def failure {R : Type} (error : String) : Message R := ⟨none, false, none, error, ""⟩

def timeoutOutcome {R : Type} : Outcome R := .raised (.ipc "IPC call timed out")

structure PendingCall (R : Type) where
  event : Bool
  message : Option (Message R)
  generation : Option Generation
  deriving DecidableEq, Repr

/-- The loop variable of `call`. -/
inductive Attempt
  | first
  | second
  deriving DecidableEq, Repr

/-- The position of a thread inside `_drop_connection`. -/
inductive DropPc
  | acquire
  | doom
  | fail
  | set (rid : RequestId) (c : ThreadId)
  | release
  | close
  deriving DecidableEq, Repr

/-- One call of `_drop_connection`; `items` are the calls still to be failed. -/
structure DropFrame where
  sock : Option Generation
  error : String
  generation : Option Generation
  items : List (RequestId × ThreadId)
  pc : DropPc
  deriving DecidableEq, Repr

/-- The position of a thread outside `_drop_connection`. -/
inductive Main (R : Type)
  | unused
  -- `connect`
  | connect
  | connecting (attempt : Option Attempt)
  -- `call`
  | ensure (attempt : Attempt)
  | checkConnected (attempt : Attempt)
  | checkStop (attempt : Attempt)
  | checkAuth (attempt : Attempt)
  | checkClock (attempt : Attempt)
  | checkFailure (attempt : Attempt) (sinceFailure : Int)
  | reconnect (attempt : Attempt)
  | register (attempt : Attempt)
  | send (attempt : Attempt) (rid : RequestId) (sock : Generation)
  | unregister (attempt : Attempt) (rid : RequestId) (sock : Generation) (error : String)
  | dropSent (attempt : Attempt) (error : String)
  | wait (rid : RequestId)
  | readMessage (rid : RequestId)
  | leave (rid : RequestId) (o : Outcome R)
  -- `_read_loop`
  | readLoop (sock : Generation)
  | receive (sock : Generation)
  | resolve (sock : Generation) (m : Message R)
  | deliver (sock : Generation) (rid : RequestId) (c : ThreadId) (m : Message R)
  | deliverSet (sock : Generation) (rid : RequestId) (c : ThreadId) (m : Message R)
  | readDrop
  -- `close`
  | close
  | closeRead
  | closeDrop
  | finished
  deriving DecidableEq, Repr

structure Thread (R : Type) where
  main : Main R
  drop : Option DropFrame
  deriving DecidableEq, Repr

def Thread.at {R : Type} (m : Main R) : Thread R := ⟨m, none⟩

/-- Who wrote a message: the reader of a connection that got a response, or the retirement
of a connection (`none`: of all). -/
inductive Origin
  | response (sock : Generation)
  | retired (generation : Option Generation)
  deriving DecidableEq, Repr

/-- What the log of a run holds. -/
inductive Event (R : Type)
  | registered (c : ThreadId) (rid : RequestId) (generation : Generation)
  | sent (c : ThreadId) (rid : RequestId) (sock : Generation)
  | sendFailed (c : ThreadId) (rid : RequestId)
  | received (sock : Generation) (m : Message R)
  | taken (t : ThreadId) (rid : RequestId) (c : ThreadId)
  | recorded (c : ThreadId) (rid : RequestId) (m : Message R) (origin : Origin)
  | delivered (c : ThreadId) (rid : RequestId) (m : Message R)
  | timedOut (c : ThreadId)
  | finished (c : ThreadId) (o : Outcome R)
  deriving DecidableEq, Repr

/-- `RECONNECT_COOLDOWN_SECONDS` in the unit of the clock, and the text that prints it. -/
structure Config where
  cooldown : Int
  cooldownText : Int → String

/-- The client with its calls and threads. -/
structure State (R : Type) where
  calls : ThreadId → PendingCall R
  pending : List (RequestId × ThreadId)
  nextRid : RequestId
  sock : Option Generation
  connected : Bool
  generation : Generation
  lock : Option ThreadId
  stop : Bool
  authFailed : Bool
  lastFailure : Int
  monotonic : Int
  closed : List Generation
  threads : ThreadId → Thread R
  nextThread : ThreadId
  log : List (Event R)

namespace State

variable {R : Type}

def setThread (s : State R) (t : ThreadId) (th : Thread R) : State R :=
  { s with threads := Function.update s.threads t th }

/-- The thread goes on at `m`, outside `_drop_connection`. -/
def goto (s : State R) (t : ThreadId) (m : Main R) : State R := s.setThread t (.at m)

def setCall (s : State R) (c : ThreadId) (p : PendingCall R) : State R :=
  { s with calls := Function.update s.calls c p }

def emit (s : State R) (e : Event R) : State R := { s with log := s.log ++ [e] }

def finish (s : State R) (t : ThreadId) (o : Outcome R) : State R :=
  (s.goto t .finished).emit (.finished t o)

/-- `self._pending.pop(rid, None)` -/
def pop (s : State R) (rid : RequestId) : State R :=
  { s with pending := s.pending.filter fun x => x.1 ≠ rid }

/-- A new thread that starts at `m`. -/
def spawn (s : State R) (m : Main R) : State R :=
  { s.goto s.nextThread m with nextThread := s.nextThread + 1 }

end State

variable {R : Type}

/-- The `_drop_connection` call of the reader and of a failed send. -/
def connectionLost (sock : Generation) (generation : Option Generation) : DropFrame :=
  ⟨some sock, "IPC connection lost", generation, [], .acquire⟩

/-- The entries `_fail_all_pending` removes. -/
def doomed (s : State R) (generation : Option Generation) : List (RequestId × ThreadId) :=
  match generation with
  | none => s.pending
  | some g => s.pending.filter fun x => (s.calls x.2).generation = some g

/-- Where the caller of `_drop_connection` goes on. -/
def afterDrop (s : State R) (t : ThreadId) : Main R → State R
  | .dropSent .first _ => s.goto t (.ensure .second)
  | .dropSent .second error => s.finish t (.raised (.disconnected error))
  | _ => s.goto t .finished

/-- One step inside `_drop_connection`. -/
def dropStep (s : State R) (t : ThreadId) (m : Main R) (f : DropFrame) : Option (State R) :=
  match f.pc with
  | .acquire =>
    if s.lock = none then
      let s := { s with lock := some t }
      let s := if f.sock = none ∨ s.sock = f.sock then { s with sock := none, connected := false }
        else s
      some (s.setThread t ⟨m, some { f with pc := .doom }⟩)
    else none
  | .doom =>
    let items := doomed s f.generation
    some ({ s with
      pending := s.pending.filter fun x => x ∉ items
      log := s.log ++ items.map fun x : RequestId × ThreadId => Event.taken t x.1 x.2 }.setThread t
        ⟨m, some { f with items := items, pc := .fail }⟩)
  | .fail =>
    match f.items with
    | [] => some (s.setThread t ⟨m, some { f with pc := .release }⟩)
    | (rid, c) :: rest =>
      some (((s.setCall c { s.calls c with message := some (failure f.error) }).setThread t
        ⟨m, some { f with items := rest, pc := .set rid c }⟩).emit
          (.recorded c rid (failure f.error) (.retired f.generation)))
  | .set rid c =>
    some (((s.setCall c { s.calls c with event := true }).setThread t
      ⟨m, some { f with pc := .fail }⟩).emit (.delivered c rid (failure f.error)))
  | .release =>
    some ({ s with lock := none }.setThread t ⟨m, some { f with pc := .close }⟩)
  | .close =>
    some (afterDrop { s with closed := s.closed ++ f.sock.toList } t m)

/-- Both branches of `_check_reconnect` that depend on the last failure. -/
def coolingDown (cfg : Config) (s : State R) (sinceFailure : Int) : Prop :=
  s.lastFailure ≠ 0 ∧ sinceFailure < cfg.cooldown

instance (cfg : Config) (s : State R) (sinceFailure : Int) :
    Decidable (coolingDown cfg s sinceFailure) :=
  inferInstanceAs (Decidable (_ ∧ _))

def clientClosed : CallError := .disconnected "IPC client closed"

def tokenRejected : CallError := .auth "Capture service rejected the IPC token"

def unreachable (cfg : Config) (sinceFailure : Int) : CallError :=
  .disconnected (cfg.cooldownText sinceFailure)

def notConnected : CallError := .disconnected "Not connected to the capture service"

/-- One step outside `_drop_connection`. -/
def mainStep (cfg : Config) (s : State R) (t : ThreadId) : Main R → Option (State R)
  | .connect =>
    if s.lock = none then
      if s.connected ∨ s.authFailed then some (s.goto t .finished)
      else some ({ s with lock := some t }.goto t (.connecting none))
    else none
  -- `_ensure_connected`, with `_check_reconnect` before the lock is taken
  | .ensure a => some (s.goto t (if s.connected then .register a else .checkConnected a))
  | .checkConnected a => some (s.goto t (if s.connected then .reconnect a else .checkStop a))
  | .checkStop a =>
    some (if s.stop then s.finish t (.raised clientClosed) else s.goto t (.checkAuth a))
  | .checkAuth a =>
    some (if s.authFailed then s.finish t (.raised tokenRejected) else s.goto t (.checkClock a))
  | .checkClock a => some (s.goto t (.checkFailure a (s.monotonic - s.lastFailure)))
  | .checkFailure a since =>
    some (if coolingDown cfg s since then s.finish t (.raised (unreachable cfg since))
      else s.goto t (.reconnect a))
  -- and once more under the lock
  | .reconnect a =>
    if s.lock = none then
      let since := s.monotonic - s.lastFailure
      some (if s.connected then s.goto t (.register a)
        else if s.stop then s.finish t (.raised clientClosed)
        else if s.authFailed then s.finish t (.raised tokenRejected)
        else if coolingDown cfg s since then s.finish t (.raised (unreachable cfg since))
        else { s with lock := some t }.goto t (.connecting (some a)))
    else none
  | .register a =>
    if s.lock = none then
      match s.sock, s.connected with
      | some sock, true =>
        some ({ (s.setCall t { s.calls t with generation := some s.generation }) with
            pending := s.pending ++ [(s.nextRid, t)]
            nextRid := s.nextRid + 1 }.goto t (.send a s.nextRid sock)
          |>.emit (.registered t s.nextRid s.generation))
      | _, _ =>
        some (match a with
          | .first => s.goto t (.ensure .second)
          | .second => s.finish t (.raised notConnected))
    else none
  | .unregister a rid sock error =>
    some ((s.pop rid).setThread t
      ⟨.dropSent a error, some (connectionLost sock (s.calls t).generation)⟩)
  | .wait rid => if (s.calls t).event then some (s.goto t (.readMessage rid)) else none
  | .readMessage rid =>
    some (s.goto t (.leave rid
      (match (s.calls t).message with
        | some m => m.outcome
        | none => .raised .assertion)))
  | .leave rid o =>
    some ({ s with pending := s.pending.filter fun x => x ≠ (rid, t) }.finish t o)
  -- `_read_loop` and `_resolve`
  | .readLoop sock =>
    some (if s.stop then s.setThread t ⟨.readDrop, some (connectionLost sock (some sock))⟩
      else s.goto t (.receive sock))
  | .resolve sock m =>
    match s.pending.find? fun x => m.id = some x.1 with
    | none => some (s.goto t (.readLoop sock))
    | some (rid, c) => some (((s.pop rid).goto t (.deliver sock rid c m)).emit (.taken t rid c))
  | .deliver sock rid c m =>
    some (((s.setCall c { s.calls c with message := some m }).goto t
      (.deliverSet sock rid c m)).emit (.recorded c rid m (.response sock)))
  | .deliverSet sock rid c m =>
    some (((s.setCall c { s.calls c with event := true }).goto t (.readLoop sock)).emit
      (.delivered c rid m))
  -- `close`
  | .close => some ({ s with stop := true }.goto t .closeRead)
  | .closeRead =>
    some (s.setThread t ⟨.closeDrop, some ⟨s.sock, "IPC client closed", none, [], .acquire⟩⟩)
  -- these wait for a label of their own, or for the `_drop_connection` they called
  | .unused | .connecting _ | .send .. | .dropSent .. | .receive _ | .readDrop | .closeDrop
  | .finished => none

def connectOk (s : State R) (t : ThreadId) : Option (State R) :=
  match s.threads t with
  | ⟨.connecting a, none⟩ =>
    let g := s.generation + 1
    let s := { s.spawn (.readLoop g) with
      sock := some g, generation := g, connected := true, lock := none, lastFailure := 0 }
    some (match a with
      | some a => s.goto t (.register a)
      | none => s.goto t .finished)
  | _ => none

/-- `connect` raises, to the call that reconnects or to whoever called it at startup. -/
def connectEnds (s : State R) (t : ThreadId) (e : CallError) : Option Attempt → State R
  | some _ => s.finish t (.raised e)
  | none => s.goto t .finished

/-- The loop of `connect` ended without a connection. -/
def connectFails (s : State R) (t : ThreadId) (lastError : String) : Option (State R) :=
  match s.threads t with
  | ⟨.connecting a, none⟩ =>
    some (connectEnds { s with lock := none, lastFailure := s.monotonic } t
      (.ipc ("Could not connect to the capture service: " ++ lastError)) a)
  | _ => none

def connectRejected (s : State R) (t : ThreadId) (error : String) : Option (State R) :=
  match s.threads t with
  | ⟨.connecting a, none⟩ =>
    some (connectEnds { s with lock := none, authFailed := true } t (.auth error) a)
  | _ => none

/-- `_send_frame` returned. -/
def sendOk (s : State R) (t : ThreadId) : Option (State R) :=
  match s.threads t with
  | ⟨.send _ rid sock, none⟩ =>
    if sock ∈ s.closed then none else some ((s.goto t (.wait rid)).emit (.sent t rid sock))
  | _ => none

/-- `_send_frame` raised: the service has no complete frame. -/
def sendFails (s : State R) (t : ThreadId) (error : String) : Option (State R) :=
  match s.threads t with
  | ⟨.send a rid sock, none⟩ =>
    some ((s.goto t (.unregister a rid sock error)).emit (.sendFailed t rid))
  | _ => none

/-- The service can have sent `m` on the connection. -/
def answers (log : List (Event R)) (sock : Generation) (m : Message R) : Bool :=
  match m.id with
  | none => true
  | some rid => log.any fun
      | .sent _ rid' sock' => rid' == rid && sock' == sock
      | _ => false

def receive (s : State R) (t : ThreadId) (m : Message R) : Option (State R) :=
  match s.threads t with
  | ⟨.receive sock, none⟩ =>
    if sock ∉ s.closed ∧ answers s.log sock m then
      some ((s.goto t (.resolve sock m)).emit (.received sock m))
    else none
  | _ => none

/-- `recv` ends without a frame. -/
def readFails (s : State R) (t : ThreadId) : Option (State R) :=
  match s.threads t with
  | ⟨.receive sock, none⟩ =>
    some (s.setThread t ⟨.readDrop, some (connectionLost sock (some sock))⟩)
  | _ => none

/-- `_event.wait` returns without the event. -/
def waitTimesOut (s : State R) (t : ThreadId) : Option (State R) :=
  match s.threads t with
  | ⟨.wait rid, none⟩ =>
    if (s.calls t).event then none
    else some ((s.goto t (.leave rid timeoutOutcome)).emit (.timedOut t))
  | _ => none

/-- A step of a thread, or what reaches the client. -/
inductive Label (R : Type)
  | tick (n : Nat)
  | connect
  | call
  | close
  | run (t : ThreadId)
  | connectOk (t : ThreadId)
  | connectFails (t : ThreadId) (lastError : String)
  | connectRejected (t : ThreadId) (error : String)
  | sendOk (t : ThreadId)
  | sendFails (t : ThreadId) (error : String)
  | receive (t : ThreadId) (m : Message R)
  | readFails (t : ThreadId)
  | waitTimesOut (t : ThreadId)
  deriving DecidableEq, Repr

def threadStep (cfg : Config) (s : State R) (t : ThreadId) : Option (State R) :=
  let th := s.threads t
  match th.drop with
  | some f => dropStep s t th.main f
  | none => mainStep cfg s t th.main

def step (cfg : Config) (s : State R) : Label R → Option (State R)
  | .tick n => some { s with monotonic := s.monotonic + n }
  | .connect => some (s.spawn .connect)
  | .call => some (s.spawn (.ensure .first))
  | .close => some (s.spawn .close)
  | .run t => threadStep cfg s t
  | .connectOk t => connectOk s t
  | .connectFails t lastError => connectFails s t lastError
  | .connectRejected t error => connectRejected s t error
  | .sendOk t => sendOk s t
  | .sendFails t error => sendFails s t error
  | .receive t m => receive s t m
  | .readFails t => readFails s t
  | .waitTimesOut t => waitTimesOut s t

/-- `IpcClient.__init__`. Each call finds the object `_PendingCall()` makes under its own
number. -/
def initial (R : Type) (monotonic : Int) : State R where
  calls := fun _ => ⟨false, none, none⟩
  pending := []
  nextRid := 0
  sock := none
  connected := false
  generation := 0
  lock := none
  stop := false
  authFailed := false
  lastFailure := 0
  monotonic := monotonic
  closed := []
  threads := fun _ => .at .unused
  nextThread := 0
  log := []

def run (cfg : Config) (monotonic : Int) (ls : List (Label R)) : Option (State R) :=
  StepRun.run (step cfg) (initial R monotonic) ls

/-- The failed send of a first attempt finds its own entry in `_pending`: no retirement has
taken it. -/
def Uncontested (s : State R) : Label R → Prop
  | .run t =>
    match s.threads t with
    | ⟨.unregister .first rid _ _, none⟩ => (rid, t) ∈ s.pending
    | _ => True
  | _ => True

instance (s : State R) (l : Label R) : Decidable (Uncontested s l) := by
  unfold Uncontested
  split
  · split <;> infer_instance
  · infer_instance

end Sniff4Hound.Ipc
