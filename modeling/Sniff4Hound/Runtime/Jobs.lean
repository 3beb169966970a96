import Sniff4Hound.Library.StepRun

/-!
# The job queue

`jobs.py` as a step function on a shared state. A label names the thread that moves and,
where the code waits for something outside it, what happened there: a handler returned,
a wait timed out, a store write failed. Each step makes one access to an attribute that
other threads read without the lock, so every interleaving of the code's reads and writes
is a sequence of labels.

* `settleStep` is `_settle` with everything inside `with job.lock` taken apart, because
  `Job.snapshot` reads the attributes without that lock; `snapStep` is `snapshot`.
* `mainStep` holds the callers of both: `submit`, the worker loop, the watchdog,
  `shutdown` and `get`. A section under `JobQueue._lock` is one step: nothing reads what
  it writes without taking that lock, `_stopping` apart, which it writes once.

The list `log` is not in the code. It keeps what left the queue, in order: settlements,
answers of `submit`, snapshots handed out and rows written.
-/

namespace Sniff4Hound.Jobs

abbrev JobId := Nat

abbrev ThreadId := Nat

inductive Status
  | queued
  | running
  | done
  | error
  deriving DecidableEq, Repr

/-- What `_settle` keeps of an exception: `type(error).__name__` and `str(error)`. -/
structure PyError where
  type : String
  text : String
  deriving DecidableEq, Repr

/-- `str(error) or type(error).__name__` -/
def PyError.message (e : PyError) : String := if e.text = "" then e.type else e.text

/-- What a handler call ended with. `none` is Python's `None`. -/
inductive Outcome (R : Type)
  | result (r : Option R)
  | failure (e : PyError)
  deriving DecidableEq, Repr

structure Job (R : Type) where
  kind : String
  status : Status
  result : Option R
  error : String
  errorType : String
  exception : Option PyError
  createdAt : Nat
  finishedAt : Option Nat
  done : Bool
  persisted : Bool
  lock : Option ThreadId
  startedMono : Nat
  abandoned : Bool
  deriving DecidableEq, Repr

/-- `Job.__init__` -/
def Job.new {R : Type} (kind : String) (createdAt : Nat) : Job R where
  kind := kind
  status := .queued
  result := none
  error := ""
  errorType := ""
  exception := none
  createdAt := createdAt
  finishedAt := none
  done := false
  persisted := false
  lock := none
  startedMono := 0
  abandoned := false

structure Snapshot (R : Type) where
  id : JobId
  kind : String
  status : Status
  result : Option R
  error : String
  errorType : String
  createdAt : Nat
  finishedAt : Option Nat
  deriving DecidableEq, Repr

/-- The attribute reads of `Job.snapshot`, in the order the dict literal makes them. -/
def snapReads (R : Type) : List (Job R → Snapshot R → Snapshot R) :=
  [fun job sn => { sn with status := job.status },
   fun job sn => { sn with result := job.result },
   fun job sn => { sn with error := job.error },
   fun job sn => { sn with errorType := job.errorType },
   fun job sn => { sn with createdAt := job.createdAt },
   fun job sn => { sn with finishedAt := job.finishedAt }]

/-- The attribute writes of `_settle` between the check of `done` and `done.set()`, in
order. -/
def settleWrites {R : Type} (now : Nat) : Outcome R → List (Job R → Job R)
  | .result r =>
    [fun job => { job with finishedAt := some now },
     fun job => { job with result := r },
     fun job => { job with status := .done }]
  | .failure e =>
    [fun job => { job with finishedAt := some now },
     fun job => { job with exception := some e },
     fun job => { job with error := e.message },
     fun job => { job with errorType := e.type },
     fun job => { job with status := .error }]

/-- The position of a thread inside `_settle`. -/
inductive SettlePc
  | acquire
  | check
  | abandon
  | write (n : Nat)
  | readPersisted
  | setDone (needsWrite : Bool)
  | release (settled needsWrite : Bool)
  | persist
  | upsert
  | broadcast
  deriving DecidableEq, Repr

/-- One call of `_settle`. -/
structure SettleFrame (R : Type) where
  job : JobId
  outcome : Outcome R
  timedOut : Bool
  pc : SettlePc
  deriving DecidableEq, Repr

/-- One call of `snapshot`: the first `next` reads are made. -/
structure SnapFrame (R : Type) where
  job : JobId
  got : Snapshot R
  next : Nat
  deriving DecidableEq, Repr

/-- How `submit` ends. -/
inductive Answer (R : Type)
  | result (r : Option R)
  | raised (e : PyError)
  | deferred
  deriving DecidableEq, Repr

/-- The position of a thread outside `_settle` and `snapshot`. -/
inductive Main (R : Type)
  | unused
  -- `submit`
  | submitWait (j : JobId) (persist : Bool)
  | readSettle (j : JobId)
  | readDiscard (j : JobId)
  | readForget (j : JobId)
  | answerForget (j : JobId)
  | answerException (j : JobId)
  | answerResult (j : JobId)
  | deferAcquire (j : JobId)
  | deferCheck (j : JobId)
  | deferForget (j : JobId)
  | deferException (j : JobId)
  | deferResult (j : JobId)
  | deferAnswer (j : JobId) (a : Answer R)
  | deferClaim (j : JobId)
  | deferRelease (j : JobId)
  | deferPersist (j : JobId)
  | deferUpsert (j : JobId)
  -- `_work_loop`
  | workLoop
  | workGet
  | workSentinel
  | workStopping (j : JobId)
  | workStopSettle (j : JobId)
  | workAcquire (j : JobId)
  | workCheck (j : JobId)
  | workSkip (j : JobId)
  | workSkipRelease (j : JobId)
  | workStart (j : JobId)
  | workClock (j : JobId)
  | workRegister (j : JobId)
  | workRelease (j : JobId)
  | workHandler (j : JobId)
  | workSettle (j : JobId)
  | workTaskDone (j : JobId)
  | workUnregister (j : JobId)
  | workRetire (j : JobId)
  | workExit
  -- `_watch_loop`
  | watchWait
  | watchScan (now : Nat)
  | watchNext (overdue : List JobId)
  | watchSettle (overdue : List JobId)
  -- `shutdown`
  | stopBegin
  | stopDrain (workers : Nat)
  | stopSettle (workers : Nat)
  | stopTaskDone (workers : Nat)
  | stopSentinels (workers : Nat)
  | stopJoin
  | stopRest
  -- `get`
  | getLookup (j : JobId)
  | getSnapshot (j : JobId)
  | finished
  deriving DecidableEq, Repr

structure Thread (R : Type) where
  main : Main R
  settle : Option (SettleFrame R)
  snap : Option (SnapFrame R)
  deriving DecidableEq, Repr

def Thread.at {R : Type} (m : Main R) : Thread R := ⟨m, none, none⟩

/-- What the log of a run holds. -/
inductive Event (R : Type)
  | settled (j : JobId) (o : Outcome R) (timedOut : Bool)
  | handlerReturned (j : JobId) (o : Outcome R)
  | answered (j : JobId) (a : Answer R)
  | refused
  | snapshot (j : JobId) (sn : Snapshot R)
  | upserted (j : JobId) (sn : Snapshot R)
  | row (j : JobId) (sn : Option (Snapshot R))
  | broadcast (j : JobId) (status : Status)
  deriving DecidableEq, Repr

/-- The constructor arguments of `JobQueue`, with the two texts that print `_timeout`. -/
structure Config where
  hasStore : Bool
  hasBroadcast : Bool
  workerLimit : Nat
  timeout : Nat
  readTimeoutText : String
  jobTimeoutText : String

def readTimeout (cfg : Config) : PyError := ⟨"TimeoutError", cfg.readTimeoutText⟩

def jobTimeout (cfg : Config) : PyError := ⟨"TimeoutError", cfg.jobTimeoutText⟩

def shutDown : PyError := ⟨"RuntimeError", "job queue is shut down"⟩

/-- The manager with its jobs and threads. -/
structure State (R : Type) where
  jobs : JobId → Job R
  nextJob : Nat
  registry : List JobId
  queue : List (Option JobId)
  unfinished : Int
  running : List JobId
  workers : List ThreadId
  surplus : Int
  stopping : Bool
  rows : JobId → Option (Snapshot R)
  threads : ThreadId → Thread R
  nextThread : Nat
  monotonic : Nat
  utc : Nat
  log : List (Event R)

namespace State

variable {R : Type}

def setThread (s : State R) (t : ThreadId) (th : Thread R) : State R :=
  { s with threads := Function.update s.threads t th }

def setJob (s : State R) (j : JobId) (job : Job R) : State R :=
  { s with jobs := Function.update s.jobs j job }

def emit (s : State R) (e : Event R) : State R := { s with log := s.log ++ [e] }

/-- The thread goes on at `m`, outside `_settle` and `snapshot`. -/
def goto (s : State R) (t : ThreadId) (m : Main R) : State R := s.setThread t (.at m)

def pop (s : State R) (j : JobId) : State R := { s with registry := s.registry.erase j }

def taskDone (s : State R) : State R := { s with unfinished := s.unfinished - 1 }

end State

def startWorker {R : Type} (s : State R) : State R :=
  { s.goto s.nextThread .workLoop with
    nextThread := s.nextThread + 1
    workers := s.workers ++ [s.nextThread] }

/-- `_PendingJobs.discard`: the first queue item of the job is removed, if there is one. -/
def discard {R : Type} (s : State R) (j : JobId) : State R :=
  if some j ∈ s.queue then
    { s with queue := s.queue.erase (some j), unfinished := s.unfinished - 1 }
  else s

/-- Where the caller of `_settle` goes on. -/
def Main.afterSettle {R : Type} : Main R → Main R
  | .readSettle j => .readDiscard j
  | .workStopSettle j => .workAcquire j
  | .workSettle j => .workTaskDone j
  | .watchSettle overdue => .watchNext overdue
  | .stopSettle workers => .stopTaskDone workers
  | m => m

/-- A call of `_settle`, with the caller waiting at `m`. -/
def callSettle {R : Type} (s : State R) (t : ThreadId) (m : Main R) (j : JobId)
    (o : Outcome R) (timedOut : Bool) : State R :=
  s.setThread t ⟨m, some ⟨j, o, timedOut, .acquire⟩, none⟩

/-- A call of `snapshot`; `id`, `kind` and the attributes still to be read are filled in
with what never changes and with blanks. -/
def startSnap {R : Type} (j : JobId) (job : Job R) : SnapFrame R :=
  ⟨j, ⟨j, job.kind, .queued, none, "", "", 0, none⟩, 0⟩

/-- One step inside `_settle`, `f.pc` saying which. -/
def settleStep {R : Type} (cfg : Config) (s : State R) (t : ThreadId) (m : Main R)
    (f : SettleFrame R) : Option (State R) :=
  let job := s.jobs f.job
  let at_ (s : State R) (pc : SettlePc) : State R :=
    s.setThread t ⟨m, some { f with pc := pc }, none⟩
  match f.pc with
  | .acquire =>
    if job.lock = none then some (at_ (s.setJob f.job { job with lock := some t }) .check)
    else none
  | .check => some (at_ s (if job.done then .release false false else .abandon))
  | .abandon =>
    if f.timedOut ∧ job.startedMono ≠ 0 ∧ s.stopping = false ∧ s.surplus < cfg.workerLimit then
      some (at_ (startWorker
        { s.setJob f.job { job with abandoned := true } with surplus := s.surplus + 1 })
        (.write 0))
    else some (at_ s (.write 0))
  | .write n =>
    match (settleWrites s.utc f.outcome)[n]? with
    | some w => some (at_ (s.setJob f.job (w job)) (.write (n + 1)))
    | none => some (at_ s .readPersisted)
  | .readPersisted => some (at_ s (.setDone job.persisted))
  | .setDone needsWrite =>
    some (at_ ((s.setJob f.job { job with done := true }).emit
      (.settled f.job f.outcome f.timedOut)) (.release true needsWrite))
  | .release _ needsWrite =>
    let s' := s.setJob f.job { job with lock := none }
    if needsWrite then some (at_ s' .persist) else some (s'.goto t m.afterSettle)
  -- `_finish`: `_persist`, then the broadcast
  | .persist =>
    if cfg.hasStore then
      some (s.setThread t ⟨m, some { f with pc := .upsert }, some (startSnap f.job job)⟩)
    else some (at_ s .broadcast)
  | .upsert => none
  | .broadcast =>
    let s' := s.goto t m.afterSettle
    some (if cfg.hasBroadcast then s'.emit (.broadcast f.job job.status) else s')

/-- One step inside `snapshot`: the next read, or, when all are made, the use the caller
makes of the dict. -/
def snapStep {R : Type} (s : State R) (t : ThreadId) (m : Main R)
    (settle : Option (SettleFrame R)) (f : SnapFrame R) : Option (State R) :=
  match (snapReads R)[f.next]? with
  | some read =>
    some (s.setThread t ⟨m, settle, some ⟨f.job, read (s.jobs f.job) f.got, f.next + 1⟩⟩)
  | none =>
    let stored := { s with rows := Function.update s.rows f.job (some f.got) }
    match settle, m with
    | some g, _ =>
      some ((stored.setThread t ⟨m, some { g with pc := .broadcast }, none⟩).emit
        (.upserted f.job f.got))
    | none, .deferUpsert j =>
      some (((stored.goto t .finished).emit (.upserted f.job f.got)).emit
        (.answered j .deferred))
    | none, _ => some ((s.goto t .finished).emit (.snapshot f.job f.got))

/-- The `except` of `_persist`: `upsert_job` raised and the caller goes on. -/
def upsertFails {R : Type} (s : State R) (t : ThreadId) : Option (State R) :=
  let th := s.threads t
  match th.snap with
  | none => none
  | some f =>
    if f.next < (snapReads R).length then none
    else
      match th.settle, th.main with
      | some g, m => some (s.setThread t ⟨m, some { g with pc := .broadcast }, none⟩)
      | none, .deferUpsert j => some ((s.goto t .finished).emit (.answered j .deferred))
      | none, _ => none

/-- The jobs `_abandon_overdue` finds, `now` being its clock reading. -/
def overdue {R : Type} (cfg : Config) (s : State R) (now : Nat) : List JobId :=
  s.running.filter fun j =>
    let job := s.jobs j
    job.status = .running ∧ job.done = false ∧ job.startedMono ≠ 0 ∧
      (now : Int) - job.startedMono > cfg.timeout

/-- One step outside `_settle` and `snapshot`. -/
def mainStep {R : Type} (cfg : Config) (s : State R) (t : ThreadId) :
    Main R → Option (State R)
  -- `submit`: waiting, then the three ways to answer
  | .submitWait j _ => if (s.jobs j).done then some (s.goto t (.answerForget j)) else none
  | .readDiscard j => some ((discard s j).goto t (.readForget j))
  | .readForget j =>
    some (((s.pop j).goto t .finished).emit (.answered j (.raised (readTimeout cfg))))
  | .answerForget j => some ((s.pop j).goto t (.answerException j))
  | .answerException j =>
    match (s.jobs j).exception with
    | some e => some ((s.goto t .finished).emit (.answered j (.raised e)))
    | none => some (s.goto t (.answerResult j))
  | .answerResult j =>
    some ((s.goto t .finished).emit (.answered j (.result (s.jobs j).result)))
  | .deferAcquire j =>
    if (s.jobs j).lock = none then
      some ((s.setJob j { s.jobs j with lock := some t }).goto t (.deferCheck j))
    else none
  | .deferCheck j =>
    some (s.goto t (if (s.jobs j).done then .deferForget j else .deferClaim j))
  | .deferForget j => some ((s.pop j).goto t (.deferException j))
  | .deferException j =>
    match (s.jobs j).exception with
    | some e => some (s.goto t (.deferAnswer j (.raised e)))
    | none => some (s.goto t (.deferResult j))
  | .deferResult j => some (s.goto t (.deferAnswer j (.result (s.jobs j).result)))
  | .deferAnswer j a =>
    some (((s.setJob j { s.jobs j with lock := none }).goto t .finished).emit (.answered j a))
  | .deferClaim j =>
    some ((s.setJob j { s.jobs j with persisted := true }).goto t (.deferRelease j))
  | .deferRelease j =>
    some ((s.setJob j { s.jobs j with lock := none }).goto t (.deferPersist j))
  | .deferPersist j =>
    if cfg.hasStore then
      some (s.setThread t ⟨.deferUpsert j, none, some (startSnap j (s.jobs j))⟩)
    else some ((s.goto t .finished).emit (.answered j .deferred))
  -- `_work_loop`
  | .workLoop => some (s.goto t (if s.stopping then .workExit else .workGet))
  | .workGet =>
    match s.queue with
    | [] => none
    | none :: rest => some ({ s with queue := rest }.goto t .workSentinel)
    | some j :: rest => some ({ s with queue := rest }.goto t (.workStopping j))
  | .workSentinel => some (s.taskDone.goto t .workExit)
  | .workStopping j =>
    if s.stopping then some (callSettle s t (.workStopSettle j) j (.failure shutDown) false)
    else some (s.goto t (.workAcquire j))
  | .workAcquire j =>
    if (s.jobs j).lock = none then
      some ((s.setJob j { s.jobs j with lock := some t }).goto t (.workCheck j))
    else none
  | .workCheck j => some (s.goto t (if (s.jobs j).done then .workSkip j else .workStart j))
  | .workSkip j => some (s.taskDone.goto t (.workSkipRelease j))
  | .workSkipRelease j => some ((s.setJob j { s.jobs j with lock := none }).goto t .workLoop)
  | .workStart j =>
    some ((s.setJob j { s.jobs j with status := .running }).goto t (.workClock j))
  | .workClock j =>
    some ((s.setJob j { s.jobs j with startedMono := s.monotonic }).goto t (.workRegister j))
  | .workRegister j =>
    some ({ s with running := if j ∈ s.running then s.running else s.running ++ [j] }.goto t
      (.workRelease j))
  | .workRelease j =>
    some ((s.setJob j { s.jobs j with lock := none }).goto t (.workHandler j))
  | .workTaskDone j => some (s.taskDone.goto t (.workUnregister j))
  | .workUnregister j =>
    some ({ s with
      running := s.running.erase j
      surplus := if (s.jobs j).abandoned then s.surplus - 1 else s.surplus }.goto t
        (.workRetire j))
  | .workRetire j => some (s.goto t (if (s.jobs j).abandoned then .workExit else .workLoop))
  | .workExit => some ({ s with workers := s.workers.erase t }.goto t .finished)
  -- `_watch_loop` and `_abandon_overdue`
  | .watchWait => some (s.goto t (if s.stopping then .finished else .watchScan s.monotonic))
  | .watchScan now => some (s.goto t (.watchNext (overdue cfg s now)))
  | .watchNext [] => some (s.goto t .watchWait)
  | .watchNext (j :: rest) =>
    some (callSettle s t (.watchSettle rest) j (.failure (jobTimeout cfg)) true)
  -- `shutdown`
  | .stopBegin => some ({ s with stopping := true }.goto t (.stopDrain s.workers.length))
  | .stopDrain n =>
    match s.queue with
    | [] => some (s.goto t (.stopSentinels n))
    | none :: rest => some ({ s with queue := rest }.goto t (.stopTaskDone n))
    | some j :: rest =>
      some (callSettle { s with queue := rest } t (.stopSettle n) j
        (.failure shutDown) false)
  | .stopTaskDone n => some (s.taskDone.goto t (.stopDrain n))
  | .stopSentinels 0 => some (s.goto t .stopJoin)
  | .stopSentinels (n + 1) =>
    some ({ s with queue := s.queue ++ [none], unfinished := s.unfinished + 1 }.goto t
      (.stopSentinels n))
  | .stopJoin => some (s.goto t .stopRest)
  | .stopRest =>
    match s.queue with
    | [] => some (s.goto t .finished)
    | _ :: rest => some ({ s with queue := rest }.taskDone.goto t .stopRest)
  -- `get`
  | .getLookup j =>
    if j ∈ s.registry then some (s.goto t (.getSnapshot j))
    else some ((s.goto t .finished).emit (.row j (if cfg.hasStore then s.rows j else none)))
  | .getSnapshot j =>
    some (s.setThread t ⟨.getSnapshot j, none, some (startSnap j (s.jobs j))⟩)
  -- these wait for a label of their own, or for the `_settle` or `snapshot` they called
  | .unused | .readSettle _ | .deferUpsert _ | .workStopSettle _ | .workHandler _
  | .workSettle _ | .watchSettle _ | .stopSettle _ | .finished => none

/-- A wait of `submit` ends without the event: the job timeout of a read, the inline
window of any other call. -/
def waitTimesOut {R : Type} (cfg : Config) (s : State R) (t : ThreadId) : Option (State R) :=
  match s.threads t with
  | ⟨.submitWait j persist, none, none⟩ =>
    if (s.jobs j).done then none
    else if persist then some (s.goto t (.deferAcquire j))
    else some (callSettle s t (.readSettle j) j (.failure (readTimeout cfg)) true)
  | _ => none

def handlerReturns {R : Type} (s : State R) (t : ThreadId) (o : Outcome R) :
    Option (State R) :=
  match s.threads t with
  | ⟨.workHandler j, none, none⟩ =>
    some ((callSettle s t (.workSettle j) j o false).emit (.handlerReturned j o))
  | _ => none

/-- `submit` up to its first wait: the job enters the registry and the queue, or the queue
is shut down. -/
def submit {R : Type} (s : State R) (kind : String) (persist : Bool) : State R :=
  let t := s.nextThread
  let j := s.nextJob
  let s := { s with nextThread := t + 1 }
  if s.stopping then (s.goto t .finished).emit .refused
  else
    { (s.setJob j (.new kind s.utc)).goto t (.submitWait j persist) with
      nextJob := j + 1
      registry := s.registry ++ [j]
      queue := s.queue ++ [some j]
      unfinished := s.unfinished + 1 }

/-- The registry part of `reap`. The job table is left to the store. -/
def reap {R : Type} (s : State R) (cutoff : Nat) : State R :=
  { s with registry :=
      s.registry.filter fun j => !((s.jobs j).done && decide ((s.jobs j).createdAt < cutoff)) }

/-- A step of a thread, or what reaches the manager. -/
inductive Label (R : Type)
  | tick (monotonic utc : Nat)
  | submit (kind : String) (persist : Bool)
  | get (j : JobId)
  | shutdown
  | reap (cutoff : Nat)
  | run (t : ThreadId)
  | waitTimesOut (t : ThreadId)
  | handlerReturns (t : ThreadId) (o : Outcome R)
  | upsertFails (t : ThreadId)
  deriving DecidableEq, Repr

/-- A new thread that starts at `m`. -/
def State.spawn {R : Type} (s : State R) (m : Main R) : State R :=
  { s.goto s.nextThread m with nextThread := s.nextThread + 1 }

def threadStep {R : Type} (cfg : Config) (s : State R) (t : ThreadId) : Option (State R) :=
  let th := s.threads t
  match th.snap, th.settle with
  | some f, settle => snapStep s t th.main settle f
  | none, some f => settleStep cfg s t th.main f
  | none, none => mainStep cfg s t th.main

def step {R : Type} (cfg : Config) (s : State R) : Label R → Option (State R)
  | .tick m u => some { s with monotonic := s.monotonic + m, utc := s.utc + u }
  | .submit kind persist => some (submit s kind persist)
  | .get j => some (s.spawn (.getLookup j))
  | .shutdown => some (s.spawn .stopBegin)
  | .reap cutoff => some (reap s cutoff)
  | .run t => threadStep cfg s t
  | .waitTimesOut t => waitTimesOut cfg s t
  | .handlerReturns t o => handlerReturns s t o
  | .upsertFails t => upsertFails s t

/-- `JobQueue.__init__`: the configured workers and the watchdog are started. The clock
readings are those of the start. -/
def initial (R : Type) (cfg : Config) (monotonic utc : Nat) : State R where
  jobs := fun _ => .new "" 0
  nextJob := 0
  registry := []
  queue := []
  unfinished := 0
  running := []
  workers := List.range cfg.workerLimit
  surplus := 0
  stopping := false
  rows := fun _ => none
  threads := fun t =>
    if t < cfg.workerLimit then .at .workLoop
    else if t = cfg.workerLimit then .at .watchWait else .at .unused
  nextThread := cfg.workerLimit + 1
  monotonic := monotonic
  utc := utc
  log := []

def run {R : Type} (cfg : Config) (monotonic utc : Nat) (ls : List (Label R)) :
    Option (State R) :=
  StepRun.run (step cfg) (initial R cfg monotonic utc) ls

end Sniff4Hound.Jobs
