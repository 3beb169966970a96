import Sniff4Hound.Honeypot.ListenerRuns

/-!
# Listeners that are served, and only they

A call of `_spawn_listener` looks for a living thread and registers its own under two locks, the start
thread works on the rows that it has listed, and a later `start` clears the stop event that the threads
of the run before rely on. So two threads may serve one listener, a listener may be served that is
switched off (`switched_off_served`), and a start thread may end a newer run. Where none of these crosses
another (`careful`), the threads that are not told to stop are the registered ones, one for each
listener, and once all calls are done they are those of the enabled listeners whose sockets could be
bound (`listeners_orderly`).
-/

namespace Sniff4Hound.Honeypot

/-! ## What a task has yet to do -/

namespace Task

def events : Task → List Nat
  | .stopSignal events => events
  | .signalling events => events
  | _ => []

def run? : Task → Option Nat
  | .started run => some run
  | .startTls run => some run
  | .startList run => some run
  | .startNext run _ => some run
  | .startSpawn run _ _ _ _ => some run
  | .startWait run => some run
  | .startEnds run _ => some run
  | _ => none

/-- A call of `stop` at work. -/
def isStop : Task → Bool
  | .stopState => true
  | .stopJoin => true
  | .stopSignal _ => true
  | _ => false

def makes : Task → Bool
  | .spawning _ _ _ => true
  | task => task.run?.isSome

def listed (id : ListenerId) (rows : List (ListenerId × ListenerRow)) : Bool :=
  rows.any fun row => decide (row.1 = id) && row.2.enabled

def covers (id : ListenerId) : Task → Bool
  | .started _ => true
  | .startTls _ => true
  | .startList _ => true
  | .startNext _ rows => listed id rows
  | .startSpawn _ _ id' _ rows => decide (id' = id) || listed id rows
  | .toggled id' _ true => decide (id' = id)
  | .spawning _ id' _ => decide (id' = id)
  | _ => false

def removes (id : ListenerId) : Task → Bool
  | .toggled id' _ false => decide (id' = id)
  | .removing id' => decide (id' = id)
  | _ => false

def carried : Task → List (ListenerId × Source)
  | .startNext _ rows => rows.map fun row => (row.1, row.2.source)
  | .startSpawn _ _ id source rows => (id, source) :: rows.map fun row => (row.1, row.2.source)
  | .toggled id source _ => [(id, source)]
  | .spawning _ id source => [(id, source)]
  | _ => []

def ready : Task → Option (ListenerId × Source)
  | .startSpawn _ .register id source _ => some (id, source)
  | .spawning .register id source => some (id, source)
  | _ => none

end Task

namespace Listeners

def held (s : Listeners) (t : Nat) : Bool := s.tasks.any fun task => decide (t ∈ task.events)

def covered (s : Listeners) (id : ListenerId) : Bool := s.tasks.any fun task => task.covers id

def removed (s : Listeners) (id : ListenerId) : Bool := s.tasks.any fun task => task.removes id

def enabled (s : Listeners) (id : ListenerId) : Bool :=
  match s.rows.lookup id with
  | none => false
  | some row => row.enabled

def signalled (s : Listeners) (t : Nat) (thread : Listener) : Bool := thread.stop_event || s.held t

structure Unsignalled (s : Listeners) (t : Nat) (thread : Listener) : Prop where
  found : s.threads[t]? = some thread
  alive : thread.phase ≠ .ended
  own : s.signalled t thread = false
  engine : s.stop = false

def Wanted (s : Listeners) (id : ListenerId) : Prop :=
  ∃ row, s.rows.lookup id = some row ∧ row.enabled = true ∧
    listener_port_allowed id.proto id.port row.source = true

def TlsReady (s : Listeners) (id : ListenerId) : Prop :=
  id.proto = .tcp → id.port ∈ TLS_TCP_PORTS → s.tls = true

def Quiet (s : Listeners) : Prop := ∀ task ∈ s.tasks, task = .ended

/-- The unsignalled threads are those of the wanted listeners, but for those that could not be bound. -/
structure Settled (s : Listeners) : Prop where
  served : ∀ t thread, s.Unsignalled t thread → s.Wanted thread.id
  present : ∀ id, s.Wanted id → s.TlsReady id → ∃ t thread, s.roster.lookup id = some t ∧
    s.threads[t]? = some thread ∧ thread.id = id ∧
      (thread.bound = some false ∨ s.Unsignalled t thread)

/-- At most one thread serves a listener, and the threads of a settled engine are those wanted. -/
structure Orderly (s : Listeners) : Prop where
  single : ∀ t t' thread thread', s.Unsignalled t thread → s.Unsignalled t' thread' →
    thread.id = thread'.id → t = t'
  registered : ∀ t thread, s.Unsignalled t thread → s.roster.lookup thread.id = some t
  settled : s.Quiet → s.running = true → s.Settled
  current : ∀ t thread run, s.Unsignalled t thread → thread.startedBy = some run → run = s.runs
  /-- no earlier start is at work, which could end the newer run -/
  starters : ∀ task ∈ s.tasks, ∀ run, task.run? = some run → run = s.runs

/-! ## Steps that do not cross -/

def allSignalled (s : Listeners) : Bool :=
  (List.range s.threads.length).all fun t =>
    match s.threads[t]? with
    | none => true
    | some thread => decide (thread.phase = .ended) || s.signalled t thread

/-- A thread may be registered: there is no other that lives, and nobody has switched the listener off
who is not about to stop it. -/
def free (s : Listeners) (id : ListenerId) : Bool :=
  s.stop || (!s.alive id && (s.enabled id || s.removed id))

/-- The steps that cross no other: the stop event is cleared when no other start and no stop is at work
and the threads of earlier runs have been told to stop or have ended, a thread is registered where it is
free, and a listener is stopped where it is switched off. The store returns, and no handler ends a
thread that serves. -/
def careful (s : Listeners) : ListenerEvent → Bool
  | .task k ok =>
    match s.tasks[k]? with
    | some .starting =>
      (s.tasks.all fun task => task.run?.isNone && !task.isStop) && s.allSignalled
    | some (.started _) => ok
    | some (.startSpawn _ .register id _ _) => s.free id
    | some (.spawning .register id _) => s.free id
    | some (.removing id) => s.stop || !s.enabled id || s.covered id
    | _ => true
  | .crashes t =>
    match s.threads[t]? with
    | none => true
    | some thread => s.stop || s.signalled t thread
  | _ => true

/-! ## The invariant -/

def Tried (thread : Listener) : Prop :=
  thread.phase = .made ∨ thread.phase = .serving ∨ thread.bound = some false

def Attempted (s : Listeners) (id : ListenerId) : Prop :=
  ∃ t thread, s.roster.lookup id = some t ∧ s.threads[t]? = some thread ∧ Tried thread

structure Sound (s : Listeners) : Prop where
  rows : s.rows.keys.Nodup
  roster : s.roster.keys.Nodup
  registered : ∀ t thread, s.Unsignalled t thread → s.roster.lookup thread.id = some t ∧
    ∀ run, thread.startedBy = some run → run = s.runs
  sound : ∀ id t, s.roster.lookup id = some t → ∃ thread, s.threads[t]? = some thread ∧
    thread.id = id ∧ s.signalled t thread = false ∧ ∃ row, s.rows.lookup id = some row ∧
      listener_port_allowed id.proto id.port row.source = true
  /-- a registered thread that lives belongs to an enabled listener, or is about to be stopped -/
  wanted : s.stop = false → ∀ id t thread, s.roster.lookup id = some t →
    s.threads[t]? = some thread → thread.phase ≠ .ended →
      s.enabled id = true ∨ s.removed id = true
  attempted : s.stop = false → s.running = true → ∀ id, s.Wanted id → s.TlsReady id →
    s.Attempted id ∨ s.covered id = true
  closing : ∀ t thread, s.threads[t]? = some thread → thread.phase = .closing →
    s.stop = true ∨ s.signalled t thread = true
  rested : s.stop = false → s.running = false → s.roster = [] ∧
    ∀ task ∈ s.tasks, task.makes = false
  halted : s.stop = true → s.running = true → Task.stopState ∈ s.tasks
  stops : ∀ task ∈ s.tasks, task.isStop = true → s.stop = true
  starters : ∀ task ∈ s.tasks, ∀ run, task.run? = some run → run = s.runs
  carried : ∀ task ∈ s.tasks, ∀ id source, (id, source) ∈ task.carried →
    ∃ row, s.rows.lookup id = some row ∧ row.source = source
  ready : ∀ task ∈ s.tasks, ∀ id source, task.ready = some (id, source) →
    (id, source) ∈ task.carried ∧ listener_port_allowed id.proto id.port source = true
  events : ∀ task ∈ s.tasks, ∀ t ∈ task.events, t < s.threads.length

theorem initial_sound {rows : Dict ListenerId ListenerRow} (hRows : rows.keys.Nodup) :
    Sound (.initial rows) where
  rows := hRows
  roster := List.nodup_nil
  registered _ _ h := by cases h.found
  sound _ _ h := by cases h
  wanted _ _ _ _ h := by cases h
  attempted _ h := by cases h
  closing _ _ h := by cases h
  rested _ _ := ⟨rfl, nofun⟩
  halted h := by cases h
  stops _ h := by cases h
  starters _ h := by cases h
  carried _ h := by cases h
  ready _ h := by cases h
  events _ h := by cases h

variable {s : Listeners}

theorem Sound.show (h : s.Sound) (status : EngineStatus) (errors : List String)
    (bound : List ListenerId) :
    Sound { s with status := status, errors := errors, bound := bound } :=
  ⟨h.rows, h.roster, fun t thread h' => h.registered t thread ⟨h'.found, h'.alive, h'.own, h'.engine⟩,
    h.sound, h.wanted, h.attempted, h.closing, h.rested, h.halted, h.stops, h.starters, h.carried,
    h.ready, h.events⟩

/-! ## Tasks -/

section Tasks

variable {s : Listeners} {k : Nat} {task task' : Task} {p : Task → Bool}

variable (hTask : s.tasks[k]? = some task)

include hTask

theorem any_set_of (h : p task' = true) : (s.setTask k task').tasks.any p = true := by
  obtain ⟨hk, -⟩ := List.getElem?_eq_some_iff.mp hTask
  exact List.any_eq_true.mpr ⟨task', List.mem_set hk task', h⟩

theorem any_set_keep (h : s.tasks.any p = true)
    (hOther : p task = true → p task' = true) : (s.setTask k task').tasks.any p = true := by
  obtain ⟨other, hMem, hp⟩ := List.any_eq_true.mp h
  obtain ⟨i, hi⟩ := List.mem_iff_getElem?.mp hMem
  by_cases hEq : k = i
  · rw [hEq, hi] at hTask
    cases hTask
    exact any_set_of (hEq ▸ hi) (hOther hp)
  · have hKept : (s.setTask k task').tasks[i]? = some other := by
      rw [setTask, List.getElem?_set_ne hEq]
      exact hi
    exact List.any_eq_true.mpr ⟨other, List.mem_of_getElem? hKept, hp⟩

omit hTask in
theorem any_of_set (h : (s.setTask k task').tasks.any p = true) :
    p task' = true ∨ s.tasks.any p = true := by
  obtain ⟨other, hMem, hp⟩ := List.any_eq_true.mp h
  rcases List.mem_or_eq_of_mem_set hMem with hOld | rfl
  · exact .inr (List.any_eq_true.mpr ⟨other, hOld, hp⟩)
  · exact .inl hp

omit hTask in
theorem forall_set {P : Task → Prop} (h : ∀ other ∈ s.tasks, P other) (hTask : P task') :
    ∀ other ∈ (s.setTask k task').tasks, P other := by
  intro other hMem
  rcases List.mem_or_eq_of_mem_set hMem with hOld | rfl
  · exact h other hOld
  · exact hTask

theorem held_set_of {t : Nat} (h : t ∈ task'.events ↔ t ∈ task.events) :
    (s.setTask k task').held t = s.held t := by
  rw [Bool.eq_iff_iff]
  constructor
  · intro hHeld
    rcases any_of_set hHeld with hNew | hOld
    · exact List.any_eq_true.mpr ⟨task, List.mem_of_getElem? hTask,
        decide_eq_true (h.mp (of_decide_eq_true hNew))⟩
    · exact hOld
  · intro hHeld
    exact any_set_keep hTask hHeld fun hMem => decide_eq_true (h.mpr (of_decide_eq_true hMem))

theorem held_set (h : task'.events = task.events) (t : Nat) :
    (s.setTask k task').held t = s.held t := held_set_of hTask (by rw [h])

theorem mem_set_of_ne {other : Task} (hMem : other ∈ s.tasks)
    (hNe : task ≠ other) : other ∈ (s.setTask k task').tasks := by
  obtain ⟨i, hi⟩ := List.mem_iff_getElem?.mp hMem
  have hIndex : k ≠ i := by
    rintro rfl
    rw [hTask] at hi
    exact hNe (Option.some.inj hi)
  have hKept : (s.setTask k task').tasks[i]? = some other := by
    rw [setTask, List.getElem?_set_ne hIndex]
    exact hi
  exact List.mem_of_getElem? hKept

omit hTask

/-- What the next state of a task keeps, when a step changes nothing else. -/
structure Move (s : Listeners) (task task' : Task) : Prop where
  events : task'.events = task.events
  run : ∀ run, task'.run? = some run → task.run? = some run
  stop : task'.isStop = true → task.isStop = true
  state : task ≠ .stopState
  makes : s.stop = false → s.running = false → task.makes = false → task'.makes = false
  carried : ∀ id source, (id, source) ∈ task'.carried →
    ∃ row, s.rows.lookup id = some row ∧ row.source = source
  ready : ∀ id source, task'.ready = some (id, source) →
    (id, source) ∈ task'.carried ∧ listener_port_allowed id.proto id.port source = true
  covers : s.stop = false → s.running = true → ∀ id, s.Wanted id → s.TlsReady id →
    task.covers id = true → task'.covers id = true ∨ s.Attempted id
  removes : s.stop = false → ∀ id, task.removes id = true → task'.removes id = true ∨
    ∀ t thread, s.roster.lookup id = some t → s.threads[t]? = some thread → thread.phase ≠ .ended →
      s.enabled id = true

theorem Sound.move (h : s.Sound) (hTask : s.tasks[k]? = some task) (m : s.Move task task') :
    Sound (s.setTask k task') := by
  have hMem := List.mem_of_getElem? hTask
  have hHeld := held_set hTask m.events
  have hSignalled : ∀ t thread, (s.setTask k task').signalled t thread = s.signalled t thread := by
    intro t thread
    rw [signalled, hHeld, signalled]
  refine
    { rows := h.rows
      roster := h.roster
      registered := fun t thread h' => h.registered t thread
        ⟨h'.found, h'.alive, (hSignalled t thread).symm.trans h'.own, h'.engine⟩
      sound := fun id t hFound => ?_
      wanted := fun hStop id t thread hFound hThread hAlive => ?_
      attempted := fun hStop hRunning id hWanted hTls => ?_
      closing := fun t thread hThread hPhase => ?_
      rested := fun hStop hRunning => ?_
      halted := fun hStop hRunning => ?_
      stops := forall_set h.stops fun hIs => h.stops task hMem (m.stop hIs)
      starters := forall_set h.starters fun run hRun => h.starters task hMem run (m.run run hRun)
      carried := forall_set h.carried m.carried
      ready := forall_set h.ready m.ready
      events := forall_set h.events (m.events ▸ h.events task hMem) }
  · obtain ⟨thread, hThread, hId, hOwn, hRow⟩ := h.sound id t hFound
    exact ⟨thread, hThread, hId, (hSignalled t thread).trans hOwn, hRow⟩
  · rcases h.wanted hStop id t thread hFound hThread hAlive with hEnabled | hRemoved
    · exact .inl hEnabled
    · by_cases hTaskRemoves : task.removes id = true
      · rcases m.removes hStop id hTaskRemoves with hStill | hEnabled
        · exact .inr (any_set_of hTask hStill)
        · exact .inl (hEnabled t thread hFound hThread hAlive)
      · exact .inr (any_set_keep hTask hRemoved fun hp => absurd hp hTaskRemoves)
  · rcases h.attempted hStop hRunning id hWanted hTls with hAttempted | hCovered
    · exact .inl hAttempted
    · by_cases hTaskCovers : task.covers id = true
      · rcases m.covers hStop hRunning id hWanted hTls hTaskCovers with hStill | hAttempted
        · exact .inr (any_set_of hTask hStill)
        · exact .inl hAttempted
      · exact .inr (any_set_keep hTask hCovered fun hp => absurd hp hTaskCovers)
  · rw [hSignalled]
    exact h.closing t thread hThread hPhase
  · obtain ⟨hRoster, hMakes⟩ := h.rested hStop hRunning
    exact ⟨hRoster, forall_set hMakes (m.makes hStop hRunning (hMakes task hMem))⟩
  · exact mem_set_of_ne hTask (h.halted hStop hRunning) m.state

end Tasks

/-! ## Threads -/

section Threads

variable {s : Listeners} {t : Nat} {thread thread' : Listener}

theorem getElem?_setThread (hThread : s.threads[t]? = some thread) (i : Nat) :
    (s.setThread t thread').threads[i]? = if i = t then some thread' else s.threads[i]? := by
  rw [setThread]
  by_cases hEq : i = t
  · rw [if_pos hEq, hEq, List.getElem?_set_self (List.getElem?_eq_some_iff.mp hThread).1]
  · rw [if_neg hEq, List.getElem?_set_ne (Ne.symm hEq)]

structure Goes (s : Listeners) (t : Nat) (thread thread' : Listener) : Prop where
  id : thread'.id = thread.id
  own : thread'.stop_event = thread.stop_event
  startedBy : thread'.startedBy = thread.startedBy
  alive : thread'.phase ≠ .ended → thread.phase ≠ .ended
  closing : thread'.phase = .closing → s.stop = true ∨ s.signalled t thread = true
  tried : s.stop = false → s.signalled t thread = false → Tried thread → Tried thread'

theorem Sound.setThread (h : s.Sound) (hThread : s.threads[t]? = some thread)
    (g : s.Goes t thread thread') : Sound (s.setThread t thread') := by
  have hGet : ∀ i other, (s.setThread t thread').threads[i]? = some other →
      i = t ∧ other = thread' ∨ i ≠ t ∧ s.threads[i]? = some other := by
    intro i other hOther
    rw [getElem?_setThread hThread] at hOther
    by_cases hEq : i = t
    · rw [if_pos hEq] at hOther
      exact .inl ⟨hEq, (Option.some.inj hOther).symm⟩
    · rw [if_neg hEq] at hOther
      exact .inr ⟨hEq, hOther⟩
  have hSignalled : (s.setThread t thread').signalled t thread' = s.signalled t thread := by
    rw [signalled, g.own]
    rfl
  refine
    { rows := h.rows
      roster := h.roster
      registered := fun i other h' => ?_
      sound := fun id i hFound => ?_
      wanted := fun hStop id i other hFound hOther hAlive => ?_
      attempted := fun hStop hRunning id hWanted hTls => ?_
      closing := fun i other hOther hPhase => ?_
      rested := h.rested
      halted := h.halted
      stops := h.stops
      starters := h.starters
      carried := h.carried
      ready := h.ready
      events := fun task hTask i hEvent => ?_ }
  · rcases hGet i other h'.found with ⟨rfl, rfl⟩ | ⟨-, hOther⟩
    · rw [g.id, g.startedBy]
      exact h.registered i thread
        ⟨hThread, g.alive h'.alive, hSignalled.symm.trans h'.own, h'.engine⟩
    · exact h.registered i other ⟨hOther, h'.alive, h'.own, h'.engine⟩
  · obtain ⟨other, hOther, hId, hOwn, hRow⟩ := h.sound id i hFound
    by_cases hEq : i = t
    · rw [hEq, hThread] at hOther
      cases hOther
      refine ⟨thread', ?_, g.id.trans hId, ?_, hRow⟩
      · rw [getElem?_setThread hThread, if_pos hEq]
      · rw [hEq] at hOwn ⊢
        exact hSignalled.trans hOwn
    · exact ⟨other, by rw [getElem?_setThread hThread, if_neg hEq, hOther], hId, hOwn, hRow⟩
  · rcases hGet i other hOther with ⟨rfl, rfl⟩ | ⟨-, hOld⟩
    · exact h.wanted hStop id i thread hFound hThread (g.alive hAlive)
    · exact h.wanted hStop id i other hFound hOld hAlive
  · rcases h.attempted hStop hRunning id hWanted hTls with ⟨i, other, hFound, hOther, hTried⟩ | hCovered
    · left
      by_cases hEq : i = t
      · obtain ⟨thread'', hThread'', -, hOwn, -⟩ := h.sound id i hFound
        rw [hEq, hThread] at hOther hThread''
        cases hOther
        cases hThread''
        refine ⟨i, thread', hFound, ?_, g.tried hStop (hEq ▸ hOwn) hTried⟩
        rw [getElem?_setThread hThread, if_pos hEq]
      · exact ⟨i, other, hFound, by rw [getElem?_setThread hThread, if_neg hEq, hOther], hTried⟩
    · exact .inr hCovered
  · rcases hGet i other hOther with ⟨rfl, rfl⟩ | ⟨-, hOld⟩
    · rw [hSignalled]
      exact g.closing hPhase
    · exact h.closing i other hOld hPhase
  · exact (h.events task hTask i hEvent).trans_eq List.length_set.symm

theorem foldl_setError (name : String → String) (hosts : List String) (s : Listeners) :
    hosts.foldl (fun s host => s.setError (name host)) s =
      { s with errors := hosts.foldl (fun errors host => errors.insert (name host)) s.errors } := by
  induction hosts generalizing s with
  | nil => rfl
  | cons host hosts ih => exact ih (s.setError (name host))

theorem bindSockets_sound (h : s.Sound) (hThread : s.threads[t]? = some thread)
    (hMade : thread.phase = .made) (failures : List String) (bound : Bool) :
    Sound (s.bindSockets t failures bound thread) := by
  have hAlive : thread.phase ≠ .ended := by
    rw [hMade]
    nofun
  rw [bindSockets, foldl_setError]
  cases bound with
  | true =>
    have g : s.Goes t thread { thread with phase := .serving, bound := some true } :=
      ⟨rfl, rfl, rfl, fun _ => hAlive, nofun, fun _ _ _ => .inr (.inl rfl)⟩
    exact (h.setThread hThread g).show _ _ _
  | false =>
    have g : s.Goes t thread { thread with phase := .ended, bound := some false } :=
      ⟨rfl, rfl, rfl, fun _ => hAlive, nofun, fun _ _ _ => .inr (.inr rfl)⟩
    exact (h.setThread hThread g).show _ _ _

theorem ends_sound (h : s.Sound) (hThread : s.threads[t]? = some thread)
    (hAlive : thread.phase ≠ .ended) (hTold : s.stop = true ∨ s.signalled t thread = true) :
    Sound ((s.setThread t { thread with phase := .ended }).discard thread.id) := by
  have g : s.Goes t thread { thread with phase := .ended } := by
    refine ⟨rfl, rfl, rfl, fun _ => hAlive, nofun, fun hStop hOwn _ => ?_⟩
    rcases hTold with hTold | hTold
    · rw [hStop] at hTold
      cases hTold
    · rw [hOwn] at hTold
      cases hTold
  exact (h.setThread hThread g).show _ _ _

variable {s' : Listeners}

theorem binds_sound {failures : List String} {bound : Bool} (h : s.Sound)
    (hStep : s.step (.binds t failures bound) = some s') : s'.Sound := by
  obtain ⟨thread, hThread, hStep⟩ := Option.bind_eq_some_iff.mp hStep
  obtain ⟨hMade, hStep⟩ := Option.ite_none_right_eq_some.mp hStep
  cases hStep
  exact bindSockets_sound h hThread hMade failures bound

theorem looks_sound (h : s.Sound) (hStep : s.step (.looks t) = some s') : s'.Sound := by
  obtain ⟨thread, hThread, hStep⟩ := Option.bind_eq_some_iff.mp hStep
  obtain ⟨hServing, hStep⟩ := Option.ite_none_right_eq_some.mp hStep
  cases hStep
  by_cases hStopping : s.stopping thread = true
  · rw [if_pos hStopping]
    have hTold : s.stop = true ∨ s.signalled t thread = true := by
      rcases Bool.or_eq_true_iff.mp hStopping with hOwn | hStop
      · exact .inr (Bool.or_eq_true_iff.mpr (.inl hOwn))
      · exact .inl hStop
    refine h.setThread hThread ⟨rfl, rfl, rfl, fun _ => ?_, fun _ => hTold, fun hStop hOwn _ => ?_⟩
    · rw [hServing]
      nofun
    · rcases hTold with hTold | hTold
      · rw [hStop] at hTold
        cases hTold
      · rw [hOwn] at hTold
        cases hTold
  · rw [if_neg hStopping]
    exact h

theorem closes_sound (h : s.Sound) (hStep : s.step (.closes t) = some s') : s'.Sound := by
  obtain ⟨thread, hThread, hStep⟩ := Option.bind_eq_some_iff.mp hStep
  obtain ⟨hClosing, hStep⟩ := Option.ite_none_right_eq_some.mp hStep
  cases hStep
  exact ends_sound h hThread (by rw [hClosing]; nofun) (h.closing t thread hThread hClosing)

theorem crashes_sound (h : s.Sound) (hCareful : s.careful (.crashes t) = true)
    (hStep : s.step (.crashes t) = some s') : s'.Sound := by
  obtain ⟨thread, hThread, hStep⟩ := Option.bind_eq_some_iff.mp hStep
  obtain ⟨hServing, hStep⟩ := Option.ite_none_right_eq_some.mp hStep
  cases hStep
  rw [careful, hThread] at hCareful
  exact ends_sound h hThread (by rw [hServing]; nofun) (Bool.or_eq_true_iff.mp hCareful)

end Threads

/-! ## Calls -/

section Calls

variable {s : Listeners} {p : Task → Bool} {task : Task}

theorem any_add : (s.addTask task).tasks.any p = (s.tasks.any p || p task) := by
  rw [addTask, List.any_append, List.any_cons, List.any_nil, Bool.or_false]

theorem forall_add {P : Task → Prop} (h : ∀ other ∈ s.tasks, P other) (hTask : P task) :
    ∀ other ∈ (s.addTask task).tasks, P other := by
  intro other hMem
  rcases List.mem_append.mp hMem with hOld | hNew
  · exact h other hOld
  · rw [List.mem_singleton.mp hNew]
    exact hTask

theorem held_add (h : task.events = []) (t : Nat) : (s.addTask task).held t = s.held t := by
  rw [held, any_add, h, decide_eq_false List.not_mem_nil, Bool.or_false, held]

theorem signalled_add (h : task.events = []) (t : Nat) (thread : Listener) :
    (s.addTask task).signalled t thread = s.signalled t thread := by
  rw [signalled, held_add h, signalled]

theorem startCalled_sound (h : s.Sound) : Sound (s.addTask .starting) := by
  have hSignalled := @signalled_add s .starting rfl
  refine
    { rows := h.rows
      roster := h.roster
      registered := fun t thread h' => h.registered t thread
        ⟨h'.found, h'.alive, (hSignalled t thread).symm.trans h'.own, h'.engine⟩
      sound := fun id t hFound => ?_
      wanted := fun hStop id t thread hFound hThread hAlive => ?_
      attempted := fun hStop hRunning id hWanted hTls => ?_
      closing := fun t thread hThread hPhase => ?_
      rested := fun hStop hRunning => ?_
      halted := fun hStop hRunning => List.mem_append_left _ (h.halted hStop hRunning)
      stops := forall_add h.stops nofun
      starters := forall_add h.starters nofun
      carried := forall_add h.carried nofun
      ready := forall_add h.ready nofun
      events := forall_add h.events nofun }
  · obtain ⟨thread, hThread, hId, hOwn, hRow⟩ := h.sound id t hFound
    exact ⟨thread, hThread, hId, (hSignalled t thread).trans hOwn, hRow⟩
  · rw [removed, any_add]
    exact (h.wanted hStop id t thread hFound hThread hAlive).imp_right fun hRemoved =>
      Bool.or_eq_true_iff.mpr (.inl hRemoved)
  · rw [covered, any_add]
    exact (h.attempted hStop hRunning id hWanted hTls).imp_right fun hCovered =>
      Bool.or_eq_true_iff.mpr (.inl hCovered)
  · rw [hSignalled]
    exact h.closing t thread hThread hPhase
  · exact ⟨(h.rested hStop hRunning).1, forall_add (h.rested hStop hRunning).2 rfl⟩

theorem stopCalled_sound (h : s.Sound) : Sound { s.addTask .stopState with stop := true } := by
  refine
    { rows := h.rows
      roster := h.roster
      registered := fun t thread h' => by cases h'.engine
      sound := fun id t hFound => ?_
      wanted := nofun
      attempted := nofun
      closing := fun _ _ _ _ => .inl rfl
      rested := nofun
      halted := fun _ _ => List.mem_append_right _ List.mem_cons_self
      stops := fun _ _ _ => rfl
      starters := forall_add h.starters nofun
      carried := forall_add h.carried nofun
      ready := forall_add h.ready nofun
      events := forall_add h.events nofun }
  obtain ⟨thread, hThread, hId, hOwn, hRow⟩ := h.sound id t hFound
  exact ⟨thread, hThread, hId, (signalled_add rfl t thread).trans hOwn, hRow⟩

theorem toggled_sound (h : s.Sound) {id : ListenerId} {row : ListenerRow}
    (hSource : ∀ old, s.rows.lookup id = some old → old.source = row.source) :
    Sound { s.addTask (.toggled id row.source row.enabled) with rows := s.rows.set id row } := by
  have hSignalled := @signalled_add s (.toggled id row.source row.enabled) rfl
  have hLookup := Dict.lookup_set s.rows id
  -- every row that was there is there, with its source
  have hKept : ∀ other old, s.rows.lookup other = some old →
      ∃ row', (s.rows.set id row).lookup other = some row' ∧ row'.source = old.source := by
    intro other old hOld
    rw [hLookup]
    by_cases hEq : other = id
    · rw [if_pos hEq]
      exact ⟨row, rfl, (hSource old (hEq ▸ hOld)).symm⟩
    · rw [if_neg hEq]
      exact ⟨old, hOld, rfl⟩
  refine
    { rows := Dict.nodup_keys_set h.rows id row
      roster := h.roster
      registered := fun t thread h' => h.registered t thread
        ⟨h'.found, h'.alive, (hSignalled t thread).symm.trans h'.own, h'.engine⟩
      sound := fun other t hFound => ?_
      wanted := fun hStop other t thread hFound hThread hAlive => ?_
      attempted := fun hStop hRunning other hWanted hTls => ?_
      closing := fun t thread hThread hPhase => ?_
      rested := fun hStop hRunning =>
        ⟨(h.rested hStop hRunning).1, forall_add (h.rested hStop hRunning).2 ?_⟩
      halted := fun hStop hRunning => List.mem_append_left _ (h.halted hStop hRunning)
      stops := forall_add h.stops nofun
      starters := forall_add h.starters nofun
      carried := forall_add ?_ ?_
      ready := forall_add h.ready nofun
      events := forall_add h.events nofun }
  · obtain ⟨thread, hThread, hId, hOwn, old, hOld, hAllowed⟩ := h.sound other t hFound
    obtain ⟨row', hRow', hSame⟩ := hKept other old hOld
    exact ⟨thread, hThread, hId, (hSignalled t thread).trans hOwn, row', hRow', hSame ▸ hAllowed⟩
  · by_cases hEq : other = id
    · rw [enabled, hLookup, if_pos hEq, removed, any_add, hEq]
      cases hEnabled : row.enabled with
      | true => exact .inl hEnabled
      | false => exact .inr (Bool.or_eq_true_iff.mpr (.inr (decide_eq_true rfl)))
    · rw [enabled, hLookup, if_neg hEq, removed, any_add]
      exact (h.wanted hStop other t thread hFound hThread hAlive).imp_right fun hRemoved =>
        Bool.or_eq_true_iff.mpr (.inl hRemoved)
  · obtain ⟨row', hRow', hEnabled, hAllowed⟩ := hWanted
    rw [hLookup] at hRow'
    rw [covered, any_add]
    by_cases hEq : other = id
    · rw [if_pos hEq] at hRow'
      cases hRow'
      rw [hEnabled, hEq]
      exact .inr (Bool.or_eq_true_iff.mpr (.inr (decide_eq_true rfl)))
    · rw [if_neg hEq] at hRow'
      exact (h.attempted hStop hRunning other ⟨row', hRow', hEnabled, hAllowed⟩ hTls).imp_right
        fun hCovered => Bool.or_eq_true_iff.mpr (.inl hCovered)
  · exact (h.closing t thread hThread hPhase).imp_right (hSignalled t thread).trans
  · rfl
  · intro task hTask other source hMem
    obtain ⟨old, hOld, rfl⟩ := h.carried task hTask other source hMem
    exact hKept other old hOld
  · intro other source hMem
    cases List.mem_singleton.mp hMem
    exact ⟨row, by rw [hLookup, if_pos rfl], rfl⟩

end Calls

/-! ## Spawning -/

section Spawning

variable {s : Listeners} {id : ListenerId} {source : Source}

theorem alive_of {t : Nat} {thread : Listener} (hFound : s.roster.lookup id = some t)
    (hThread : s.threads[t]? = some thread) (hAlive : thread.phase ≠ .ended) :
    s.alive id = true := by
  rw [alive, hFound, Option.bind_some, hThread]
  exact decide_eq_true hAlive

theorem Sound.attempted_of_alive (h : s.Sound) (hStop : s.stop = false) (hAlive : s.alive id = true) :
    s.Attempted id := by
  rw [alive] at hAlive
  cases hFound : s.roster.lookup id with
  | none =>
    rw [hFound] at hAlive
    cases hAlive
  | some t =>
    obtain ⟨thread, hThread, -, hOwn, -⟩ := h.sound id t hFound
    rw [hFound, Option.bind_some, hThread] at hAlive
    have hEnded : thread.phase ≠ .ended := of_decide_eq_true hAlive
    refine ⟨t, thread, hFound, hThread, ?_⟩
    cases hPhase : thread.phase with
    | made => exact .inl hPhase
    | serving => exact .inr (.inl hPhase)
    | closing =>
      rcases h.closing t thread hThread hPhase with hTold | hTold
      · rw [hStop] at hTold
        cases hTold
      · rw [hOwn] at hTold
        cases hTold
    | ended => exact absurd hPhase hEnded

theorem getElem?_snoc {threads : List Listener} {thread other : Listener} {t : Nat}
    (h : (threads ++ [thread])[t]? = some other) :
    t = threads.length ∧ other = thread ∨ threads[t]? = some other := by
  rcases Nat.lt_trichotomy t threads.length with hLt | hEq | hGt
  · rw [List.getElem?_append_left hLt] at h
    exact .inr h
  · rw [hEq, List.getElem?_concat_length] at h
    exact .inl ⟨hEq, (Option.some.inj h).symm⟩
  · rw [List.getElem?_eq_none] at h
    · cases h
    · rw [List.length_append, List.length_singleton]
      exact hGt

theorem register_sound (h : s.Sound) {task : Task} (hTask : task ∈ s.tasks)
    (hReady : task.ready = some (id, source)) (hFree : s.free id = true) {startedBy : Option Nat}
    (hRun : ∀ run, startedBy = some run → run = s.runs) (hMakes : task.makes = true) :
    Sound (s.spawn startedBy id source .register).1 ∧
      (s.spawn startedBy id source .register).1.Attempted id := by
  obtain ⟨hCarried, hAllowed⟩ := h.ready task hTask id source hReady
  obtain ⟨row, hRow, hSource⟩ := h.carried task hTask id source hCarried
  have hLookup := fun other => Dict.lookup_set s.roster id other s.threads.length
  have hOld : ∀ t thread, s.threads[t]? = some thread →
      (s.threads ++ [⟨id, false, .made, none, startedBy⟩])[t]? = some thread := fun t thread hThread =>
    by rw [List.getElem?_append_left (List.getElem?_eq_some_iff.mp hThread).1, hThread]
  have hNew : (s.threads ++ [(⟨id, false, .made, none, startedBy⟩ : Listener)])[s.threads.length]? =
      some ⟨id, false, .made, none, startedBy⟩ := List.getElem?_concat_length
  have hHeld : s.held s.threads.length = false := by
    rw [held, List.any_eq_false]
    intro other hOther hMem
    exact Nat.lt_irrefl _ (h.events other hOther _ (of_decide_eq_true hMem))
  have hAttempted : (s.spawn startedBy id source .register).1.Attempted id :=
    ⟨s.threads.length, _, by rw [spawn, hLookup, if_pos rfl], hNew, .inl rfl⟩
  refine ⟨?_, hAttempted⟩
  refine
    { rows := h.rows
      roster := Dict.nodup_keys_set h.roster id _
      registered := fun t thread h' => ?_
      sound := fun other t hFound => ?_
      wanted := fun hStop other t thread hFound hThread hAlive => ?_
      attempted := fun hStop hRunning other hWanted hTls => ?_
      closing := fun t thread hThread hPhase => ?_
      rested := fun hStop hRunning => ?_
      halted := h.halted
      stops := h.stops
      starters := h.starters
      carried := h.carried
      ready := h.ready
      events := fun other hOther t hEvent => ?_ }
  · rcases getElem?_snoc h'.found with ⟨rfl, rfl⟩ | hThread
    · exact ⟨by rw [spawn, hLookup, if_pos rfl], hRun⟩
    · obtain ⟨hFound, hBy⟩ := h.registered t thread ⟨hThread, h'.alive, h'.own, h'.engine⟩
      refine ⟨?_, hBy⟩
      rw [spawn, hLookup, if_neg, hFound]
      rintro rfl
      have hEngine : s.stop = false := h'.engine
      rw [free, hEngine, alive_of hFound hThread h'.alive] at hFree
      cases hFree
  · rw [spawn, hLookup] at hFound
    by_cases hEq : other = id
    · rw [if_pos hEq] at hFound
      cases hFound
      exact ⟨_, hNew, hEq.symm, hHeld, row, hEq ▸ hRow, by rw [hSource, hEq, hAllowed]⟩
    · rw [if_neg hEq] at hFound
      obtain ⟨thread, hThread, hRest⟩ := h.sound other t hFound
      exact ⟨thread, hOld t thread hThread, hRest⟩
  · rw [spawn, hLookup] at hFound
    by_cases hEq : other = id
    · have hEngine : s.stop = false := hStop
      rw [free, hEngine, Bool.false_or, Bool.and_eq_true] at hFree
      rw [hEq]
      exact Bool.or_eq_true_iff.mp hFree.2
    · rw [if_neg hEq] at hFound
      obtain ⟨thread', hThread', -⟩ := h.sound other t hFound
      rw [spawn, hOld t thread' hThread'] at hThread
      cases hThread
      exact h.wanted hStop other t thread hFound hThread' hAlive
  · by_cases hEq : other = id
    · exact .inl (hEq ▸ hAttempted)
    · rcases h.attempted hStop hRunning other hWanted hTls with
        ⟨t, thread, hFound, hThread, hTried⟩ | hCovered
      · exact .inl ⟨t, thread, by rw [spawn, hLookup, if_neg hEq, hFound], hOld t thread hThread, hTried⟩
      · exact .inr hCovered
  · rcases getElem?_snoc hThread with ⟨rfl, rfl⟩ | hThread
    · cases hPhase
    · exact h.closing t thread hThread hPhase
  · have hIdle := (h.rested hStop hRunning).2 task hTask
    rw [hMakes] at hIdle
    cases hIdle
  · have hLt := h.events other hOther t hEvent
    rw [spawn, List.length_append]
    exact Nat.lt_add_right _ hLt

/-- A task at work on `_spawn_listener`, and what it is when that returns. -/
structure Spawns (s : Listeners) (startedBy : Option Nat) (id : ListenerId) (source : Source)
    (again : Spawn → Task) (done : Task) : Prop where
  events : ∀ spawn, (again spawn).events = []
  run : ∀ spawn run, (again spawn).run? = some run ↔ startedBy = some run
  stop : ∀ spawn, (again spawn).isStop = false
  makes : ∀ spawn, (again spawn).makes = true
  carried : ∀ spawn, (id, source) ∈ (again spawn).carried
  same : ∀ spawn spawn', (again spawn).carried = (again spawn').carried
  ready : ∀ spawn, (again spawn).ready = if spawn = .register then some (id, source) else none
  covers : ∀ spawn other, (again spawn).covers other = (decide (id = other) || done.covers other)
  removes : ∀ spawn other, (again spawn).removes other = false
  doneEvents : done.events = []
  doneRun : ∀ run, done.run? = some run → startedBy = some run
  doneStop : done.isStop = false
  doneCarried : ∀ spawn, ∀ p ∈ done.carried, p ∈ (again spawn).carried
  doneReady : done.ready = none

variable {startedBy : Option Nat} {again : Spawn → Task} {done : Task} {k : Nat} {spawn : Spawn}

theorem Spawns.again_move (w : s.Spawns startedBy id source again done) (h : s.Sound)
    {spawn' : Spawn} (hTask : s.tasks[k]? = some (again spawn))
    (hAllowed : spawn' = .register → listener_port_allowed id.proto id.port source = true) :
    Sound (s.setTask k (again spawn')) := by
  refine h.move hTask
    { events := (w.events spawn').trans (w.events spawn).symm
      run := fun run hRun => (w.run spawn run).mpr ((w.run spawn' run).mp hRun)
      stop := fun hIs => by rw [w.stop] at hIs; cases hIs
      state := fun hEq => by have hIs := w.stop spawn; rw [hEq] at hIs; cases hIs
      makes := fun _ _ hMakes => by rw [w.makes] at hMakes; cases hMakes
      carried := fun other source' hMem => h.carried _ (List.mem_of_getElem? hTask) other source'
        (w.same spawn spawn' ▸ hMem)
      ready := fun other source' hReady => ?_
      covers := fun _ _ other _ _ hCovers => .inl (by rw [w.covers] at hCovers ⊢; exact hCovers)
      removes := fun _ other hRemoves => by rw [w.removes] at hRemoves; cases hRemoves }
  rw [w.ready] at hReady
  obtain ⟨hRegister, hEq⟩ := Option.ite_none_right_eq_some.mp hReady
  cases hEq
  exact ⟨w.carried spawn', hAllowed hRegister⟩

theorem Spawns.done_move (w : s.Spawns startedBy id source again done) (h : s.Sound)
    (hTask : s.tasks[k]? = some (again spawn))
    (hTried : s.stop = false → s.Wanted id → s.TlsReady id → s.Attempted id) :
    Sound (s.setTask k done) := by
  refine h.move hTask
    { events := w.doneEvents.trans (w.events spawn).symm
      run := fun run hRun => (w.run spawn run).mpr (w.doneRun run hRun)
      stop := fun hIs => by rw [w.doneStop] at hIs; cases hIs
      state := fun hEq => by have hIs := w.stop spawn; rw [hEq] at hIs; cases hIs
      makes := fun _ _ hMakes => by rw [w.makes] at hMakes; cases hMakes
      carried := fun other source' hMem => h.carried _ (List.mem_of_getElem? hTask) other source'
        (w.doneCarried spawn _ hMem)
      ready := fun other source' hReady => by rw [w.doneReady] at hReady; cases hReady
      covers := fun hStop _ other hWanted hTls hCovers => ?_
      removes := fun _ other hRemoves => by rw [w.removes] at hRemoves; cases hRemoves }
  rw [w.covers, Bool.or_eq_true] at hCovers
  rcases hCovers with hEq | hDone
  · have hEq : id = other := of_decide_eq_true hEq
    cases hEq
    exact .inr (hTried hStop hWanted hTls)
  · exact .inl hDone

theorem Spawns.show (w : s.Spawns startedBy id source again done) (s' : Listeners) :
    s'.Spawns startedBy id source again done := ⟨w.events, w.run, w.stop, w.makes, w.carried, w.same,
  w.ready, w.covers, w.removes, w.doneEvents, w.doneRun, w.doneStop, w.doneCarried, w.doneReady⟩

theorem spawn_sound (w : s.Spawns startedBy id source again done) (h : s.Sound)
    (hTask : s.tasks[k]? = some (again spawn)) (hFree : spawn = .register → s.free id = true) :
    match s.spawn startedBy id source spawn with
    | (s', none) => Sound (s'.setTask k done)
    | (s', some spawn') => Sound (s'.setTask k (again spawn')) := by
  have hMem := List.mem_of_getElem? hTask
  cases spawn with
  | check =>
    rw [Listeners.spawn]
    cases hAlive : s.alive id with
    | true => exact w.done_move h hTask fun hStop _ _ => h.attempted_of_alive hStop hAlive
    | false => exact w.again_move h hTask nofun
  | prepare =>
    obtain ⟨row, hRow, hSource⟩ := h.carried _ hMem id source (w.carried _)
    rw [Listeners.spawn]
    cases hAllowed : listener_port_allowed id.proto id.port source with
    | false =>
      refine (w.done_move h hTask fun _ hWanted _ => ?_).show _ _ _
      obtain ⟨row', hRow', -, hAllowed'⟩ := hWanted
      rw [hRow] at hRow'
      cases hRow'
      rw [hSource, hAllowed] at hAllowed'
      cases hAllowed'
    | true =>
      rw [if_neg nofun]
      by_cases hTls : id.proto = .tcp ∧ id.port ∈ TLS_TCP_PORTS ∧ s.tls = false
      · rw [if_pos hTls]
        refine (w.done_move h hTask fun _ _ hReady => ?_).show _ _ _
        have hThere := hReady hTls.1 hTls.2.1
        rw [hTls.2.2] at hThere
        cases hThere
      · rw [if_neg hTls]
        exact w.again_move h hTask fun _ => hAllowed
  | register =>
    have hReady : (again .register).ready = some (id, source) := by rw [w.ready, if_pos rfl]
    have hRun : ∀ run, startedBy = some run → run = s.runs := fun run hBy =>
      h.starters _ hMem run ((w.run _ run).mpr hBy)
    obtain ⟨hSound, hAttempted⟩ := register_sound h hMem hReady (hFree rfl) hRun (w.makes _)
    exact (w.show _).done_move hSound hTask fun _ _ _ => hAttempted

end Spawning

/-! ## Starting -/

section Starting

variable {s : Listeners} {k run : Nat}

theorem allSignalled_of (h : s.allSignalled = true) {t : Nat} {thread : Listener}
    (hThread : s.threads[t]? = some thread) :
    thread.phase = .ended ∨ s.signalled t thread = true := by
  have hLt := (List.getElem?_eq_some_iff.mp hThread).1
  have hAt := List.all_eq_true.mp h t (List.mem_range.mpr hLt)
  rw [hThread] at hAt
  exact (Bool.or_eq_true_iff.mp hAt).imp_left of_decide_eq_true

theorem clears_sound (h : s.Sound) (hTask : s.tasks[k]? = some .starting)
    (hTasks : ∀ task ∈ s.tasks, task.run? = none ∧ task.isStop = false)
    (hThreads : s.allSignalled = true) :
    Sound { s.setTask k (.started (s.runs + 1)) with
      stop := false
      running := true
      runs := s.runs + 1 } := by
  have hSignalled : ∀ t thread,
      (s.setTask k (.started (s.runs + 1))).signalled t thread = s.signalled t thread := by
    intro t thread
    have hHeld : (s.setTask k (.started (s.runs + 1))).held t = s.held t :=
      held_set hTask (by rfl) t
    rw [signalled, hHeld, signalled]
  have hCovers : ∀ id, (s.setTask k (.started (s.runs + 1))).covered id = true := fun id =>
    any_set_of hTask rfl
  refine
    { rows := h.rows
      roster := h.roster
      registered := fun t thread h' => ?_
      sound := fun id t hFound => ?_
      wanted := fun _ id t thread hFound hThread hAlive => ?_
      attempted := fun _ _ id _ _ => .inr (hCovers id)
      closing := fun t thread hThread hPhase => ?_
      rested := nofun
      halted := nofun
      stops := forall_set ?_ nofun
      starters := forall_set ?_ fun run hRun => (Option.some.inj hRun).symm
      carried := forall_set h.carried nofun
      ready := forall_set h.ready nofun
      events := forall_set h.events nofun }
  · rcases allSignalled_of hThreads h'.found with hEnded | hTold
    · exact absurd hEnded h'.alive
    · have hOwn := (hSignalled t thread).symm.trans h'.own
      rw [hTold] at hOwn
      cases hOwn
  · obtain ⟨thread, hThread, hId, hOwn, hRow⟩ := h.sound id t hFound
    exact ⟨thread, hThread, hId, (hSignalled t thread).trans hOwn, hRow⟩
  · obtain ⟨thread', hThread', -, hOwn, -⟩ := h.sound id t hFound
    cases hThread'.symm.trans hThread
    rcases allSignalled_of hThreads hThread with hEnded | hTold
    · exact absurd hEnded hAlive
    · rw [hOwn] at hTold
      cases hTold
  · rcases allSignalled_of hThreads hThread with hEnded | hTold
    · rw [hPhase] at hEnded
      cases hEnded
    · exact .inr ((hSignalled t thread).trans hTold)
  · intro task hMem hIs
    rw [(hTasks task hMem).2] at hIs
    cases hIs
  · intro task hMem run hRun
    rw [(hTasks task hMem).1] at hRun
    cases hRun

theorem tls_sound (h : s.Sound) (hTask : s.tasks[k]? = some (.startTls run)) (tls : Bool) :
    Sound { s with tls := tls } :=
  { rows := h.rows
    roster := h.roster
    registered := fun t thread h' =>
      h.registered t thread ⟨h'.found, h'.alive, h'.own, h'.engine⟩
    sound := h.sound
    wanted := h.wanted
    attempted := fun _ _ _ _ _ =>
      .inr (List.any_eq_true.mpr ⟨_, List.mem_of_getElem? hTask, rfl⟩)
    closing := h.closing
    rested := h.rested
    halted := h.halted
    stops := h.stops
    starters := h.starters
    carried := h.carried
    ready := h.ready
    events := h.events }

theorem start_move (h : s.Sound) {task task' : Task} (hTask : s.tasks[k]? = some task)
    (hRun : task.run? = some run) (hRun' : ∀ run', task'.run? = some run' → run' = run)
    (hEvents : task.events = [] ∧ task'.events = []) (hStop' : task'.isStop = false)
    (hRemoves : ∀ id, task.removes id = false)
    (hCarried : ∀ id source, (id, source) ∈ task'.carried →
      ∃ row, s.rows.lookup id = some row ∧ row.source = source)
    (hReady : task'.ready = none)
    (hCovers : s.stop = false → ∀ id, s.Wanted id → task.covers id = true → task'.covers id = true) :
    Sound (s.setTask k task') := by
  refine h.move hTask
    { events := hEvents.2.trans hEvents.1.symm
      run := fun run' hRun'' => by rw [hRun' run' hRun'', hRun]
      stop := fun hIs => by rw [hStop'] at hIs; cases hIs
      state := fun hEq => by rw [hEq] at hRun; cases hRun
      makes := fun _ _ hMakes => ?_
      carried := hCarried
      ready := fun _ _ hReady' => by rw [hReady] at hReady'; cases hReady'
      covers := fun hStop _ id hWanted _ hCovered => .inl (hCovers hStop id hWanted hCovered)
      removes := fun _ id hRemoved => by rw [hRemoves] at hRemoved; cases hRemoved }
  have hNot : task.makes = true := by
    cases task <;> first | rfl | cases hRun
  rw [hNot] at hMakes
  cases hMakes

theorem listed_iff {id : ListenerId} {rows : List (ListenerId × ListenerRow)} :
    Task.listed id rows = true ↔ ∃ row, (id, row) ∈ rows ∧ row.enabled = true := by
  rw [Task.listed, List.any_eq_true]
  constructor
  · rintro ⟨⟨id', row⟩, hMem, hBoth⟩
    obtain ⟨hEq, hEnabled⟩ := Bool.and_eq_true_iff.mp hBoth
    cases of_decide_eq_true hEq
    exact ⟨row, hMem, hEnabled⟩
  · rintro ⟨row, hMem, hEnabled⟩
    exact ⟨(id, row), hMem, Bool.and_eq_true_iff.mpr ⟨decide_eq_true rfl, hEnabled⟩⟩

theorem list_sound (h : s.Sound) (hTask : s.tasks[k]? = some (.startList run)) :
    Sound (s.setTask k (.startNext run (s.rows.mergeSort listedBefore))) := by
  refine start_move h hTask rfl (fun run' hRun => (Option.some.inj hRun).symm) ⟨rfl, rfl⟩ rfl
    (fun _ => rfl) ?_ rfl ?_
  · intro id source hMem
    obtain ⟨⟨id', row⟩, hRow, hEq⟩ := List.mem_map.mp hMem
    cases hEq
    exact ⟨row, Dict.lookup_of_mem h.rows (List.mem_mergeSort.mp hRow), rfl⟩
  · rintro - id ⟨row, hRow, hEnabled, -⟩ -
    exact listed_iff.mpr ⟨row, List.mem_mergeSort.mpr (Dict.mem_of_lookup hRow), hEnabled⟩

theorem next_sound (h : s.Sound) {id : ListenerId} {row : ListenerRow}
    {rows : List (ListenerId × ListenerRow)}
    (hTask : s.tasks[k]? = some (.startNext run ((id, row) :: rows))) :
    Sound (s.setTask k (if s.stop then .startWait run
      else if row.enabled then .startSpawn run .check id row.source rows
      else .startNext run rows)) := by
  have hCarried := h.carried _ (List.mem_of_getElem? hTask)
  cases hStop : s.stop with
  | true =>
    refine start_move h hTask rfl (fun run' hRun => (Option.some.inj hRun).symm) ⟨rfl, rfl⟩ rfl
      (fun _ => rfl) nofun rfl fun hRunning => ?_
    rw [hStop] at hRunning
    cases hRunning
  | false =>
    cases hEnabled : row.enabled with
    | true =>
      refine start_move h hTask rfl (fun run' hRun => (Option.some.inj hRun).symm) ⟨rfl, rfl⟩ rfl
        (fun _ => rfl) hCarried rfl fun _ other _ hCovers => ?_
      obtain ⟨row', hMem, hEnabled'⟩ := listed_iff.mp hCovers
      rcases List.mem_cons.mp hMem with hEq | hRest
      · cases hEq
        exact Bool.or_eq_true_iff.mpr (.inl (decide_eq_true rfl))
      · exact Bool.or_eq_true_iff.mpr (.inr (listed_iff.mpr ⟨row', hRest, hEnabled'⟩))
    | false =>
      refine start_move h hTask rfl (fun run' hRun => (Option.some.inj hRun).symm) ⟨rfl, rfl⟩ rfl
        (fun _ => rfl) (fun id' source hMem => hCarried id' source (List.mem_cons_of_mem _ hMem))
        rfl fun _ other _ hCovers => ?_
      obtain ⟨row', hMem, hEnabled'⟩ := listed_iff.mp hCovers
      rcases List.mem_cons.mp hMem with hEq | hRest
      · cases hEq
        rw [hEnabled] at hEnabled'
        cases hEnabled'
      · exact listed_iff.mpr ⟨row', hRest, hEnabled'⟩

theorem fails_sound (h : s.Sound) : Sound { s with stop := true, running := false } :=
  { rows := h.rows
    roster := h.roster
    registered := fun _ _ h' => by cases h'.engine
    sound := h.sound
    wanted := nofun
    attempted := nofun
    closing := fun _ _ _ _ => .inl rfl
    rested := nofun
    halted := nofun
    stops := fun _ _ _ => rfl
    starters := h.starters
    carried := h.carried
    ready := h.ready
    events := h.events }

theorem startEnds_sound (h : s.Sound) (anyBound : Bool) : Sound (s.startEnds anyBound) := by
  rw [startEnds]
  split
  · exact h
  split
  · exact h.show _ _ _
  · exact (fails_sound h).show _ _ _

end Starting

/-! ## Stopping -/

section Stopping

variable {s : Listeners} {k : Nat}

theorem stopState_sound (h : s.Sound) (hTask : s.tasks[k]? = some .stopState) :
    Sound { s.setTask k .stopJoin with running := false } := by
  have hStop := h.stops _ (List.mem_of_getElem? hTask) rfl
  have hSignalled : ∀ t thread, (s.setTask k .stopJoin).signalled t thread = s.signalled t thread := by
    intro t thread
    have hHeld : (s.setTask k .stopJoin).held t = s.held t :=
      held_set hTask (by rfl) t
    rw [signalled, hHeld, signalled]
  have hNever : ∀ {P : Prop}, s.stop = false → P := by
    intro P hRunning
    rw [hStop] at hRunning
    cases hRunning
  refine
    { rows := h.rows
      roster := h.roster
      registered := fun _ _ h' => hNever h'.engine
      sound := fun id t hFound => ?_
      wanted := fun hRunning => hNever hRunning
      attempted := fun hRunning => hNever hRunning
      closing := fun _ _ _ _ => .inl hStop
      rested := fun hRunning => hNever hRunning
      halted := nofun
      stops := fun _ _ _ => hStop
      starters := forall_set h.starters nofun
      carried := forall_set h.carried nofun
      ready := forall_set h.ready nofun
      events := forall_set h.events nofun }
  obtain ⟨thread, hThread, hId, hOwn, hRow⟩ := h.sound id t hFound
  exact ⟨thread, hThread, hId, (hSignalled t thread).trans hOwn, hRow⟩

theorem drain_sound (h : s.Sound) (hTask : s.tasks[k]? = some .stopJoin) :
    Sound { s.setTask k (.stopSignal (s.roster.map Prod.snd)) with roster := [] } := by
  have hMem := List.mem_of_getElem? hTask
  have hStop := h.stops _ hMem rfl
  have hNever : ∀ {P : Prop}, s.stop = false → P := by
    intro P hRunning
    rw [hStop] at hRunning
    cases hRunning
  refine
    { rows := h.rows
      roster := List.nodup_nil
      registered := fun _ _ h' => hNever h'.engine
      sound := nofun
      wanted := fun hRunning => hNever hRunning
      attempted := fun hRunning => hNever hRunning
      closing := fun _ _ _ _ => .inl hStop
      rested := fun hRunning => hNever hRunning
      halted := fun _ hRunning => mem_set_of_ne hTask (h.halted hStop hRunning) nofun
      stops := fun _ _ _ => hStop
      starters := forall_set h.starters nofun
      carried := forall_set h.carried nofun
      ready := forall_set h.ready nofun
      events := forall_set h.events ?_ }
  intro t hEvent
  obtain ⟨⟨id, t'⟩, hEntry, rfl⟩ := List.mem_map.mp hEvent
  obtain ⟨thread, hThread, -⟩ := h.sound id t' (Dict.lookup_of_mem h.roster hEntry)
  exact (List.getElem?_eq_some_iff.mp hThread).1

theorem signal_sound (h : s.Sound) {task task' : Task} (hTask : s.tasks[k]? = some task) {t : Nat}
    {events : List Nat} (hEvents : task.events = t :: events) (hEvents' : task'.events = events)
    (hState : task ≠ .stopState) (hStop : task'.isStop = true → task.isStop = true)
    (hMakes : task'.makes = false) (hRun : task'.run? = none) (hCarried : task'.carried = [])
    (hReady : task'.ready = none) (hNone : ∀ id, task.covers id = false ∧ task.removes id = false) :
    Sound ((s.setTask k task').signal t) := by
  have hMem := List.mem_of_getElem? hTask
  have hEvent : t ∈ task.events := hEvents ▸ List.mem_cons_self
  obtain ⟨thread, hThread⟩ : ∃ thread, s.threads[t]? = some thread :=
    ⟨_, List.getElem?_eq_getElem (h.events task hMem t hEvent)⟩
  have hHeldNow : s.held t = true := List.any_eq_true.mpr ⟨task, hMem, decide_eq_true hEvent⟩
  have hThread' : (s.setTask k task').threads[t]? = some thread := hThread
  have hHeld : ∀ i, i ≠ t → (s.setTask k task').held i = s.held i := fun i hNe =>
    held_set_of hTask (by rw [hEvents, hEvents', List.mem_cons, or_iff_right hNe])
  -- what is registered is not held, and so another thread
  have hOther : ∀ id i, s.roster.lookup id = some i → i ≠ t := by
    rintro id i hFound rfl
    obtain ⟨thread', -, -, hOwn, -⟩ := h.sound id i hFound
    rw [signalled, hHeldNow, Bool.or_true] at hOwn
    cases hOwn
  have hGet := fun i => @getElem?_setThread (s.setTask k task') t thread
    { thread with stop_event := true } hThread' i
  rw [signal, hThread']
  dsimp only
  refine
    { rows := h.rows
      roster := h.roster
      registered := fun i other h' => ?_
      sound := fun id i hFound => ?_
      wanted := fun hRunning id i other hFound hOld hAlive => ?_
      attempted := fun hStop' hRunning id hWanted hTls => ?_
      closing := fun i other hOld hPhase => ?_
      rested := fun hStop' hRunning => ⟨(h.rested hStop' hRunning).1,
        forall_set (h.rested hStop' hRunning).2 hMakes⟩
      halted := fun hStop' hRunning => mem_set_of_ne hTask (h.halted hStop' hRunning) hState
      stops := forall_set h.stops fun hIs => h.stops task hMem (hStop hIs)
      starters := forall_set h.starters fun run hRun' => by rw [hRun] at hRun'; cases hRun'
      carried := forall_set h.carried fun id source hIn => by rw [hCarried] at hIn; cases hIn
      ready := forall_set h.ready fun id source hIs => by rw [hReady] at hIs; cases hIs
      events := forall_set ?_ ?_ }
  · have hFound := h'.found
    rw [hGet] at hFound
    by_cases hEq : i = t
    · rw [if_pos hEq] at hFound
      cases hFound
      cases h'.own
    · rw [if_neg hEq] at hFound
      have hOwn : (other.stop_event || (s.setTask k task').held i) = false := h'.own
      rw [hHeld i hEq] at hOwn
      exact h.registered i other ⟨hFound, h'.alive, hOwn, h'.engine⟩
  · obtain ⟨other, hOld, hId, hOwn, hRow⟩ := h.sound id i hFound
    have hNe := hOther id i hFound
    refine ⟨other, by rw [hGet, if_neg hNe]; exact hOld, hId, ?_, hRow⟩
    change (other.stop_event || (s.setTask k task').held i) = false
    rw [hHeld i hNe]
    exact hOwn
  · rw [hGet, if_neg (hOther id i hFound)] at hOld
    refine (h.wanted hRunning id i other hFound hOld hAlive).imp_right fun hRemoved => ?_
    refine any_set_keep hTask hRemoved fun hp => ?_
    rw [(hNone id).2] at hp
    cases hp
  · rcases h.attempted hStop' hRunning id hWanted hTls with ⟨i, other, hFound, hOld, hTried⟩ | hCovered
    · exact .inl ⟨i, other, hFound, by rw [hGet, if_neg (hOther id i hFound)]; exact hOld, hTried⟩
    · refine .inr (any_set_keep hTask hCovered fun hp => ?_)
      rw [(hNone id).1] at hp
      cases hp
  · rw [hGet] at hOld
    by_cases hEq : i = t
    · rw [if_pos hEq] at hOld
      cases hOld
      exact .inr rfl
    · rw [if_neg hEq] at hOld
      refine (h.closing i other hOld hPhase).imp_right fun hTold => ?_
      change (other.stop_event || (s.setTask k task').held i) = true
      rw [hHeld i hEq]
      exact hTold
  · intro other hOld i hIn
    exact (h.events other hOld i hIn).trans_eq List.length_set.symm
  · intro i hIn
    have hLt := h.events task hMem i (hEvents ▸ List.mem_cons_of_mem t (hEvents' ▸ hIn))
    exact hLt.trans_eq List.length_set.symm

theorem remove_sound (h : s.Sound) {id : ListenerId} (hTask : s.tasks[k]? = some (.removing id))
    (hOff : s.stop = true ∨ s.enabled id = false ∨ s.covered id = true) :
    Sound { s.setTask k (.signalling (s.roster.lookup id).toList) with roster := s.roster.erase id } := by
  have hMem := List.mem_of_getElem? hTask
  have hErase := Dict.lookup_erase s.roster id
  have hHeld : ∀ i, s.roster.lookup id ≠ some i →
      (s.setTask k (.signalling (s.roster.lookup id).toList)).held i = s.held i := by
    intro i hNe
    refine held_set_of hTask ?_
    rw [Task.events, Option.mem_toList]
    exact iff_of_false hNe List.not_mem_nil
  have hMono : ∀ i, s.held i = true →
      (s.setTask k (.signalling (s.roster.lookup id).toList)).held i = true := fun i hOld =>
    any_set_keep hTask hOld fun hIn => absurd (of_decide_eq_true hIn) List.not_mem_nil
  refine
    { rows := h.rows
      roster := Dict.nodup_keys_erase h.roster id
      registered := fun i other h' => ?_
      sound := fun other i hFound => ?_
      wanted := fun hRunning other i thread hFound hThread hAlive => ?_
      attempted := fun hStop hRunning other hWanted hTls => ?_
      closing := fun i other hOld hPhase => ?_
      rested := fun hStop hRunning => ?_
      halted := fun hStop hRunning => mem_set_of_ne hTask (h.halted hStop hRunning) nofun
      stops := forall_set h.stops nofun
      starters := forall_set h.starters nofun
      carried := forall_set h.carried nofun
      ready := forall_set h.ready nofun
      events := forall_set h.events ?_ }
  · have hOwn : (other.stop_event ||
        (s.setTask k (.signalling (s.roster.lookup id).toList)).held i) = false := h'.own
    have hNe : s.roster.lookup id ≠ some i := by
      intro hEq
      have hNow : (s.setTask k (.signalling (s.roster.lookup id).toList)).held i = true :=
        any_set_of hTask (decide_eq_true (Option.mem_toList.mpr hEq))
      rw [hNow, Bool.or_true] at hOwn
      cases hOwn
    rw [hHeld i hNe] at hOwn
    obtain ⟨hFound, hBy⟩ := h.registered i other ⟨h'.found, h'.alive, hOwn, h'.engine⟩
    refine ⟨?_, hBy⟩
    rw [hErase, if_neg, hFound]
    rintro rfl
    exact hNe hFound
  · rw [hErase] at hFound
    obtain ⟨hNe, hFound⟩ := Option.ite_none_left_eq_some.mp hFound
    obtain ⟨thread, hThread, hId, hOwn, hRow⟩ := h.sound other i hFound
    have hLookup : s.roster.lookup id ≠ some i := by
      intro hEq
      obtain ⟨thread', hThread', hId', -⟩ := h.sound id i hEq
      cases hThread.symm.trans hThread'
      exact hNe (hId.symm.trans hId')
    refine ⟨thread, hThread, hId, ?_, hRow⟩
    change (thread.stop_event ||
      (s.setTask k (.signalling (s.roster.lookup id).toList)).held i) = false
    rw [hHeld i hLookup]
    exact hOwn
  · rw [hErase] at hFound
    obtain ⟨hNe, hFound⟩ := Option.ite_none_left_eq_some.mp hFound
    refine (h.wanted hRunning other i thread hFound hThread hAlive).imp_right fun hRemoved => ?_
    exact any_set_keep hTask hRemoved fun hp => absurd (of_decide_eq_true hp).symm hNe
  · have hKeeps : s.covered other = true →
        (s.setTask k (.signalling (s.roster.lookup id).toList)).covered other = true := fun hOld =>
      any_set_keep hTask hOld fun hp => by cases hp
    by_cases hEq : other = id
    · rcases hOff with hStopped | hDisabled | hCovered
      · cases hStopped.symm.trans hStop
      · obtain ⟨row, hRow, hEnabled, -⟩ := hWanted
        have hLookup : s.rows.lookup id = some row := hEq ▸ hRow
        rw [enabled, hLookup] at hDisabled
        cases hEnabled.symm.trans hDisabled
      · exact .inr (hKeeps (hEq ▸ hCovered))
    · rcases h.attempted hStop hRunning other hWanted hTls with
        ⟨i, thread, hFound, hThread, hTried⟩ | hCovered
      · exact .inl ⟨i, thread, by rw [hErase, if_neg hEq, hFound], hThread, hTried⟩
      · exact .inr (hKeeps hCovered)
  · refine (h.closing i other hOld hPhase).imp_right fun hTold => ?_
    rcases Bool.or_eq_true_iff.mp hTold with hOwn | hIn
    · exact Bool.or_eq_true_iff.mpr (.inl hOwn)
    · exact Bool.or_eq_true_iff.mpr (.inr (hMono i hIn))
  · obtain ⟨hRoster, hMakes⟩ := h.rested hStop hRunning
    exact ⟨by rw [hRoster]; rfl, forall_set hMakes rfl⟩
  · intro i hIn
    obtain ⟨thread, hThread, -⟩ := h.sound id i (Option.mem_toList.mp hIn)
    exact (List.getElem?_eq_some_iff.mp hThread).1

end Stopping

/-! ## Runs -/

section Runs

variable {s s' : Listeners} {k : Nat}

theorem startSpawn_spawns (run : Nat) (id : ListenerId) (source : Source)
    (rows : List (ListenerId × ListenerRow)) :
    s.Spawns (some run) id source (fun spawn => .startSpawn run spawn id source rows)
      (.startNext run rows) where
  events _ := rfl
  run _ _ := Iff.rfl
  stop _ := rfl
  makes _ := rfl
  carried _ := List.mem_cons_self
  same _ _ := rfl
  ready spawn := by cases spawn <;> rfl
  covers _ _ := rfl
  removes _ _ := rfl
  doneEvents := rfl
  doneRun _ h := h
  doneStop := rfl
  doneCarried _ _ h := List.mem_cons_of_mem _ h
  doneReady := rfl

theorem spawning_spawns (id : ListenerId) (source : Source) :
    s.Spawns none id source (fun spawn => .spawning spawn id source) .ended where
  events _ := rfl
  run _ _ := Iff.rfl
  stop _ := rfl
  makes _ := rfl
  carried _ := List.mem_singleton_self _
  same _ _ := rfl
  ready spawn := by cases spawn <;> rfl
  covers _ _ := (Bool.or_false _).symm
  removes _ _ := rfl
  doneEvents := rfl
  doneRun _ h := h
  doneStop := rfl
  doneCarried _ _ := nofun
  doneReady := rfl

theorem end_sound (h : s.Sound) {task : Task} (hTask : s.tasks[k]? = some task)
    (hEvents : task.events = []) (hState : task ≠ .stopState)
    (hCovers : s.running = true → ∀ id, task.covers id = false)
    (hRemoves : s.stop = false → ∀ id, task.removes id = true → s.roster = []) :
    Sound (s.setTask k .ended) := by
  refine h.move hTask
    { events := hEvents.symm
      run := nofun
      stop := nofun
      state := hState
      makes := fun _ _ _ => rfl
      carried := nofun
      ready := nofun
      covers := fun _ hRunning id _ _ hCovered => ?_
      removes := fun hStop id hRemoved => .inr fun t thread hFound => ?_ }
  · rw [hCovers hRunning id] at hCovered
    cases hCovered
  · rw [hRemoves hStop id hRemoved] at hFound
    cases hFound

theorem toggle_sound (h : s.Sound) {id : ListenerId} {source : Source} {enabled : Bool}
    (hTask : s.tasks[k]? = some (.toggled id source enabled)) :
    Sound (s.setTask k (if s.running then
        if enabled then .spawning .check id source else .removing id
      else .ended)) := by
  have hCarried := h.carried _ (List.mem_of_getElem? hTask)
  cases hRunning : s.running with
  | true =>
    cases enabled with
    | true =>
      exact h.move hTask
        { events := rfl
          run := nofun
          stop := nofun
          state := nofun
          makes := fun _ hNot _ => by rw [hRunning] at hNot; cases hNot
          carried := hCarried
          ready := nofun
          covers := fun _ _ _ _ _ hCovers => .inl hCovers
          removes := nofun }
    | false =>
      exact h.move hTask
        { events := rfl
          run := nofun
          stop := nofun
          state := nofun
          makes := fun _ _ _ => rfl
          carried := nofun
          ready := nofun
          covers := nofun
          removes := fun _ _ hRemoves => .inl hRemoves }
  | false =>
    refine end_sound h hTask rfl nofun (fun hNot => ?_) fun hStop _ _ => (h.rested hStop hRunning).1
    rw [hRunning] at hNot
    cases hNot

theorem task_sound (h : s.Sound) {ok : Bool} (hCareful : s.careful (.task k ok) = true)
    (hStep : s.step (.task k ok) = some s') : s'.Sound := by
  obtain ⟨task, hTask, hStep⟩ := Option.bind_eq_some_iff.mp hStep
  rw [careful, hTask] at hCareful
  cases task with
  | starting =>
    cases hStep
    obtain ⟨hTasks, hThreads⟩ := Bool.and_eq_true_iff.mp hCareful
    refine (clears_sound h hTask (fun task hMem => ?_) hThreads).show _ _ _
    obtain ⟨hRun, hStop⟩ := Bool.and_eq_true_iff.mp (List.all_eq_true.mp hTasks task hMem)
    exact ⟨Option.isNone_iff_eq_none.mp hRun, (Bool.not_eq_true' _).mp hStop⟩
  | started run =>
    cases hStep
    have hOk : ok = true := hCareful
    rw [hOk]
    exact start_move h hTask rfl (fun run' hRun => (Option.some.inj hRun).symm) ⟨rfl, rfl⟩ rfl
      (fun _ => rfl) nofun rfl fun _ _ _ _ => rfl
  | startTls run =>
    have hMoved : ∀ tls, Sound { s.setTask k (.startList run) with tls := tls } := fun tls =>
      start_move (tls_sound h hTask tls) hTask rfl (fun run' hRun => (Option.some.inj hRun).symm)
        ⟨rfl, rfl⟩ rfl (fun _ => rfl) nofun rfl fun _ _ _ _ => rfl
    cases hStep
    cases ok with
    | true => exact hMoved true
    | false => exact (hMoved false).show _ _ _
  | startList run =>
    cases hStep
    exact list_sound h hTask
  | startNext run rows =>
    cases rows with
    | nil =>
      cases hStep
      exact start_move h hTask rfl (fun run' hRun => (Option.some.inj hRun).symm) ⟨rfl, rfl⟩ rfl
        (fun _ => rfl) nofun rfl nofun
    | cons entry rows =>
      cases hStep
      exact next_sound h hTask
  | startSpawn run spawn id source rows =>
    have hSpawn := spawn_sound (startSpawn_spawns run id source rows) h hTask fun hRegister => by
      rw [hRegister] at hCareful
      exact hCareful
    rw [taskStep] at hStep
    generalize s.spawn (some run) id source spawn = result at hSpawn hStep
    rcases result with ⟨after, _ | spawn'⟩
    all_goals
      cases hStep
      exact hSpawn
  | startWait run =>
    cases hStep
    exact start_move h hTask rfl (fun run' hRun => (Option.some.inj hRun).symm) ⟨rfl, rfl⟩ rfl
      (fun _ => rfl) nofun rfl nofun
  | startEnds run anyBound =>
    cases hStep
    exact startEnds_sound (end_sound h hTask rfl nofun (fun _ _ => rfl) nofun) anyBound
  | stopState =>
    cases hStep
    exact (stopState_sound h hTask).show _ _ _
  | stopJoin =>
    cases hStep
    exact (drain_sound h hTask).show _ _ _
  | stopSignal events =>
    cases events with
    | nil =>
      cases hStep
      exact (end_sound h hTask rfl nofun (fun _ _ => rfl) nofun).show _ _ _
    | cons t events =>
      cases hStep
      exact signal_sound h hTask rfl rfl nofun (fun _ => rfl) rfl rfl rfl rfl fun _ => ⟨rfl, rfl⟩
  | toggled id source enabled =>
    cases hStep
    exact toggle_sound h hTask
  | spawning spawn id source =>
    have hSpawn := spawn_sound (spawning_spawns id source) h hTask fun hRegister => by
      rw [hRegister] at hCareful
      exact hCareful
    rw [taskStep] at hStep
    generalize s.spawn none id source spawn = result at hSpawn hStep
    rcases result with ⟨after, _ | spawn'⟩
    all_goals
      cases hStep
      exact hSpawn
  | removing id =>
    cases hStep
    refine remove_sound h hTask ?_
    rcases Bool.or_eq_true_iff.mp hCareful with hBoth | hCovered
    · rcases Bool.or_eq_true_iff.mp hBoth with hStop | hOff
      · exact .inl hStop
      · exact .inr (.inl ((Bool.not_eq_true' _).mp hOff))
    · exact .inr (.inr hCovered)
  | signalling events =>
    cases events with
    | nil =>
      cases hStep
      exact end_sound h hTask rfl nofun (fun _ _ => rfl) nofun
    | cons t events =>
      cases hStep
      exact signal_sound h hTask rfl rfl nofun nofun rfl rfl rfl rfl fun _ => ⟨rfl, rfl⟩
  | ended => cases hStep

theorem step_sound (h : s.Sound) {event : ListenerEvent} (hCareful : s.careful event = true)
    (hStep : s.step event = some s') : s'.Sound := by
  cases event with
  | startCalled =>
    cases hStep
    split
    · exact h
    · exact startCalled_sound h
  | stopCalled =>
    cases hStep
    exact stopCalled_sound h
  | setEnabled id enabled =>
    rw [step] at hStep
    cases hRow : s.rows.lookup id with
    | none =>
      rw [hRow] at hStep
      cases hStep
    | some row =>
      rw [hRow] at hStep
      obtain ⟨-, hStep⟩ := Option.ite_none_left_eq_some.mp hStep
      cases hStep
      refine @toggled_sound s h id { row with enabled := enabled } fun old hOld => ?_
      cases hRow.symm.trans hOld
      rfl
  | create id =>
    obtain ⟨hNew, hStep⟩ := Option.ite_none_left_eq_some.mp hStep
    cases hStep
    refine @toggled_sound s h id ⟨.custom, true⟩ fun old hOld => ?_
    exact absurd (.inr (by rw [hOld]; rfl)) hNew
  | task k ok => exact task_sound h hCareful hStep
  | binds t failures bound => exact binds_sound h hStep
  | looks t => exact looks_sound h hStep
  | closes t => exact closes_sound h hStep
  | crashes t => exact crashes_sound h hCareful hStep

end Runs

/-! ## What the invariant says -/

theorem Quiet.any_eq_false {p : Task → Bool} (h : s.Quiet) (hEnded : p .ended = false) :
    s.tasks.any p = false := by
  refine List.any_eq_false.mpr fun task hTask hp => ?_
  rw [h task hTask, hEnded] at hp
  cases hp

theorem Sound.served (h : s.Sound) (hQuiet : s.Quiet) {t : Nat} {thread : Listener}
    (hServes : s.Unsignalled t thread) : s.Wanted thread.id := by
  obtain ⟨hFound, -⟩ := h.registered t thread hServes
  obtain ⟨-, -, -, -, row, hRow, hAllowed⟩ := h.sound thread.id t hFound
  have hRemoved : s.removed thread.id = false := hQuiet.any_eq_false rfl
  refine ⟨row, hRow, ?_, hAllowed⟩
  rcases h.wanted hServes.engine thread.id t thread hFound hServes.found hServes.alive with
    hEnabled | hLeft
  · rw [enabled, hRow] at hEnabled
    exact hEnabled
  · cases hRemoved.symm.trans hLeft

theorem Sound.present (h : s.Sound) (hQuiet : s.Quiet) (hStop : s.stop = false)
    (hRunning : s.running = true) {id : ListenerId} (hWanted : s.Wanted id) (hTls : s.TlsReady id) :
    ∃ t thread, s.roster.lookup id = some t ∧ s.threads[t]? = some thread ∧ thread.id = id ∧
      (thread.bound = some false ∨ s.Unsignalled t thread) := by
  have hCovered : s.covered id = false := hQuiet.any_eq_false rfl
  rcases h.attempted hStop hRunning id hWanted hTls with ⟨t, thread, hFound, hThread, hTried⟩ | hLeft
  · obtain ⟨thread', hThread', hId, hOwn, -⟩ := h.sound id t hFound
    cases hThread.symm.trans hThread'
    refine ⟨t, thread, hFound, hThread, hId, ?_⟩
    rcases hTried with hMade | hServing | hUnbound
    · exact .inr ⟨hThread, by rw [hMade]; nofun, hOwn, hStop⟩
    · exact .inr ⟨hThread, by rw [hServing]; nofun, hOwn, hStop⟩
    · exact .inl hUnbound
  · cases hCovered.symm.trans hLeft

theorem Sound.orderly (h : s.Sound) : s.Orderly where
  single t t' thread thread' hServes hServes' hId := by
    have hFound := (h.registered t thread hServes).1
    rw [hId, (h.registered t' thread' hServes').1] at hFound
    exact (Option.some.inj hFound).symm
  registered t thread hServes := (h.registered t thread hServes).1
  settled hQuiet hRunning := by
    have hStop : s.stop = false := by
      rw [Bool.eq_false_iff]
      intro hStop
      cases hQuiet _ (h.halted hStop hRunning)
    exact ⟨fun _ _ => h.served hQuiet, fun _ => h.present hQuiet hStop hRunning⟩
  current t thread run hServes := (h.registered t thread hServes).2 run
  starters := h.starters

def carefulStep : Listeners → ListenerEvent → Option Listeners :=
  StepRun.guarded (fun s event => s.careful event = true) step

theorem sound_invariant : StepRun.Invariant carefulStep Sound := by
  intro s event s' h hStep
  obtain ⟨hCareful, hStep⟩ := StepRun.guarded_eq_some.mp hStep
  exact step_sound h hCareful hStep

end Listeners

/-- The ids are the primary key of the table. -/
theorem listeners_orderly {rows : Dict ListenerId ListenerRow} (hRows : rows.keys.Nodup)
    {events : List ListenerEvent} {s : Listeners}
    (hRun : StepRun.run Listeners.carefulStep (.initial rows) events = some s) : s.Orderly :=
  (Listeners.sound_invariant.run (Listeners.initial_sound hRows) hRun).orderly

/-! ## Runs with one listener -/

namespace Listeners

def gameId : ListenerId := ⟨.udp, 27015⟩

def gameRows (enabled : Bool) : Dict ListenerId ListenerRow := [(gameId, ⟨.custom, enabled⟩)]

theorem gameRows_nodup (enabled : Bool) : (gameRows enabled).keys.Nodup :=
  List.nodup_cons.mpr ⟨List.not_mem_nil, List.nodup_nil⟩

def aboutToList : Listeners :=
  { initial (gameRows true) with
    running := true
    status := .starting
    tls := true
    tasks := [.startList 1]
    runs := 1 }

def gameServed (enabled : Bool) (tasks : List Task) : Listeners :=
  { initial (gameRows enabled) with
    running := true
    status := .ready
    roster := [(gameId, 0)]
    threads := [⟨gameId, false, .serving, some true, some 1⟩]
    bound := [gameId]
    tls := true
    tasks := tasks
    runs := 1 }

theorem aboutToList_step :
    aboutToList.step (.task 0 true) =
      some (aboutToList.setTask 0 (.startNext 1 (gameRows true))) := by
  change some (aboutToList.setTask 0 (.startNext 1 ((gameRows true).mergeSort listedBefore))) = _
  have hOne : (gameRows true).mergeSort listedBefore = gameRows true := List.mergeSort_singleton _
  rw [hOne]

end Listeners

open Listeners in
theorem listeners_orderly_start :
    ∃ events, StepRun.run carefulStep (initial (gameRows true)) events =
        some (gameServed true [.ended]) ∧ (gameServed true [.ended]).Orderly := by
  have hBefore : StepRun.run carefulStep (initial (gameRows true))
      [.startCalled, .task 0 true, .task 0 true, .task 0 true] = some aboutToList := rfl
  have hList : carefulStep aboutToList (.task 0 true) = _ :=
    StepRun.guarded_eq_some.mpr ⟨rfl, aboutToList_step⟩
  have hAfter : StepRun.run carefulStep (aboutToList.setTask 0 (.startNext 1 (gameRows true)))
      [.task 0 true, .task 0 true, .task 0 true, .task 0 true, .binds 0 [] true, .task 0 true,
        .task 0 true, .task 0 true] = some (gameServed true [.ended]) := rfl
  have hListed := StepRun.run_snoc_eq_some.mpr ⟨_, hBefore, hList⟩
  have hRun := StepRun.run_append_eq_some.mpr ⟨_, hListed, hAfter⟩
  exact ⟨_, hRun, listeners_orderly (gameRows_nodup true) hRun⟩

open Listeners in
/-- The listener is switched off between the list of the rows and its turn. When all calls are done it
is served. -/
theorem switched_off_served :
    ∃ rows : Dict ListenerId ListenerRow, rows.keys.Nodup ∧
      ∃ events s, StepRun.run Listeners.step (initial rows) events = some s ∧ ¬s.Orderly := by
  have hBefore : StepRun.run Listeners.step (initial (gameRows true))
      [.startCalled, .task 0 true, .task 0 true, .task 0 true] = some aboutToList := rfl
  have hAfter : StepRun.run Listeners.step (aboutToList.setTask 0 (.startNext 1 (gameRows true)))
      [.task 0 true, .setEnabled gameId false, .task 1 true, .task 1 true, .task 1 true, .task 0 true,
        .task 0 true, .task 0 true, .binds 0 [] true, .task 0 true, .task 0 true, .task 0 true] =
      some (gameServed false [.ended, .ended]) := rfl
  have hListed := StepRun.run_snoc_eq_some.mpr ⟨_, hBefore, aboutToList_step⟩
  have hRun := StepRun.run_append_eq_some.mpr ⟨_, hListed, hAfter⟩
  refine ⟨_, gameRows_nodup true, _, _, hRun, fun hOrderly => ?_⟩
  have hQuiet : (gameServed false [.ended, .ended]).Quiet := fun _ hTask =>
    List.eq_of_mem_replicate (n := 2) hTask
  obtain ⟨row, hRow, hEnabled, -⟩ := (hOrderly.settled hQuiet rfl).served 0 _ ⟨rfl, nofun, rfl, rfl⟩
  cases hRow
  cases hEnabled

end Sniff4Hound.Honeypot
