import Sniff4Hound.Runtime.JobSettlement

/-!
# The proof outline of the job queue

The assertion of each thread at each of its positions, what its steps guarantee to the
others, and the invariant of the shared state. `outline_stable` is the rely half: no
assertion is disturbed by another thread. That every step keeps the outline is
`JobSteps.lean`.
-/

namespace Sniff4Hound.Jobs

open RelyGuarantee

variable {R : Type}

/-! ## Assertions -/

/-- What a step of thread `t` may do to a job. -/
structure GuarJob (t : ThreadId) (job job' : Job R) : Prop where
  foreign : ∀ u, u ≠ t → job.lock = some u → job' = job
  done : job.done = true → job'.done = true
  frozen : job.status.Final → SameOutcome job job'
  result : job.result ≠ none → job'.result = job.result

theorem GuarJob.refl (t : ThreadId) (job : Job R) : GuarJob t job job :=
  ⟨fun _ _ _ => rfl, id, fun _ => .refl job, fun _ => rfl⟩

variable {t : ThreadId} {job job' : Job R}

theorem SettledAs.guar {o : Outcome R} (h : SettledAs o job) (hGuar : GuarJob t job job') :
    SettledAs o job' :=
  ⟨h.1.congr (hGuar.frozen h.1.final), hGuar.done h.2⟩

def LookOk (t : ThreadId) (job : Job R) : Prop := job.lock = some t ∧ Idle job

def OpenOk (t : ThreadId) (job : Job R) : Prop :=
  job.lock = some t ∧ Fresh job ∧ job.done = false

theorem OpenOk.look (h : OpenOk t job) : LookOk t job :=
  ⟨h.1, Or.inl h.2⟩

/-- The outcome an answer of `submit` gives away. -/
def Answer.Of : Answer R → Job R → Prop
  | .result r, job => SettledAs (.result r) job
  | .raised e, job => SettledAs (.failure e) job
  | .deferred, _ => False

def Main.Ok (t : ThreadId) (jobs : JobId → Job R) : Main R → Prop
  | .answerForget j | .answerException j => ∃ o, SettledAs o (jobs j)
  | .answerResult j => ∃ r, SettledAs (.result r) (jobs j)
  | .deferCheck j | .deferRelease j | .workCheck j | .workSkip j | .workSkipRelease j
  | .workRelease j => LookOk t (jobs j)
  | .deferForget j | .deferException j => LookOk t (jobs j) ∧ ∃ o, SettledAs o (jobs j)
  | .deferResult j => LookOk t (jobs j) ∧ ∃ r, SettledAs (.result r) (jobs j)
  | .deferAnswer j a => LookOk t (jobs j) ∧ a.Of (jobs j)
  | .deferClaim j | .workStart j | .workClock j | .workRegister j => OpenOk t (jobs j)
  | _ => True

/-- The positions `_settle` is called from. -/
def Main.CallsSettle : Main R → Prop
  | .readSettle _ | .workStopSettle _ | .workSettle _ | .watchSettle _ | .stopSettle _ => True
  | _ => False

def SettlePc.Ok (t : ThreadId) (o : Outcome R) (job : Job R) : SettlePc → Prop
  | .check | .release _ _ => LookOk t job
  | .abandon => OpenOk t job
  | .write n => job.lock = some t ∧ job.done = false ∧ PartlyWritten o n job
  | .readPersisted | .setDone _ => job.lock = some t ∧ job.done = false ∧ Written o job
  | _ => True

def SettleFrame.Ok (t : ThreadId) (jobs : JobId → Job R) (f : SettleFrame R) : Prop :=
  (f.timedOut = true → f.outcome.status = .error) ∧ f.pc.Ok t f.outcome (jobs f.job)

/-- A snapshot of which the first `n` reads are made: a final status was read from a job
whose outcome was complete, and a result is never replaced. -/
structure SnapOk (n : Nat) (sn : Snapshot R) (job : Job R) : Prop where
  status : sn.status.Final → job.status = sn.status
  resultOf : sn.result ≠ none → job.result = sn.result
  result : sn.status.Final → 2 ≤ n → sn.result = job.result
  error : sn.status.Final → 3 ≤ n → sn.error = job.error
  errorType : sn.status.Final → 4 ≤ n → sn.errorType = job.errorType
  finishedAt : sn.status.Final → 6 ≤ n → sn.finishedAt = job.finishedAt

def SnapFrame.Ok (jobs : JobId → Job R) (f : SnapFrame R) : Prop :=
  SnapOk f.next f.got (jobs f.job)

structure Thread.Ok (t : ThreadId) (jobs : JobId → Job R) (th : Thread R) : Prop where
  main : th.main.Ok t jobs
  settle : ∀ f, th.settle = some f → th.main.CallsSettle ∧ f.Ok t jobs
  snap : ∀ f, th.snap = some f → f.Ok jobs

def Event.Ok (cfg : Config) (jobs : JobId → Job R) : Event R → Prop
  | .settled j o timedOut => SettledAs o (jobs j) ∧ (timedOut = true → o.status = .error)
  | .answered j (.result r) => SettledAs (.result r) (jobs j)
  | .answered j (.raised e) => SettledAs (.failure e) (jobs j) ∨ e = readTimeout cfg
  | .snapshot j sn | .upserted j sn | .row j (some sn) => SnapOk 6 sn (jobs j)
  | _ => True

/-! ## The jobs a state names -/

def Main.names : Main R → List JobId
  | .submitWait j _ | .readSettle j | .readDiscard j | .readForget j | .answerForget j
  | .answerException j | .answerResult j | .deferAcquire j | .deferCheck j | .deferForget j
  | .deferException j | .deferResult j | .deferAnswer j _ | .deferClaim j | .deferRelease j
  | .deferPersist j | .deferUpsert j | .workStopping j | .workStopSettle j | .workAcquire j
  | .workCheck j | .workSkip j | .workSkipRelease j | .workStart j | .workClock j
  | .workRegister j | .workRelease j | .workHandler j | .workSettle j | .workTaskDone j
  | .workUnregister j | .workRetire j | .getSnapshot j => [j]
  | .watchNext js | .watchSettle js => js
  | _ => []

structure Thread.Known (n : Nat) (th : Thread R) : Prop where
  main : ∀ j ∈ th.main.names, j < n
  settle : ∀ f, th.settle = some f → f.job < n
  snap : ∀ f, th.snap = some f → f.job < n

structure KnownState (s : State R) : Prop where
  registry : ∀ j ∈ s.registry, j < s.nextJob
  queue : ∀ j, some j ∈ s.queue → j < s.nextJob
  running : ∀ j ∈ s.running, j < s.nextJob

/-! ## The outline -/

def isSettled (j : JobId) : Event R → Bool
  | .settled k _ _ => k == j
  | _ => false

/-- How often the log says that `j` was settled. -/
def settledCount (j : JobId) (log : List (Event R)) : Nat := log.countP (isSettled j)

structure Shared (cfg : Config) (s : State R) : Prop where
  known : KnownState s
  blank : ∀ j, s.nextJob ≤ j → s.jobs j = .new "" 0
  idle : ∀ j, (s.jobs j).lock = none → Idle (s.jobs j)
  complete : ∀ j, Complete (s.jobs j)
  rows : ∀ j sn, s.rows j = some sn → SnapOk 6 sn (s.jobs j)
  log : ∀ e ∈ s.log, e.Ok cfg s.jobs
  count : ∀ j, settledCount j s.log = if (s.jobs j).done then 1 else 0

structure Guar (t : ThreadId) (s s' : State R) : Prop where
  jobs : ∀ j, GuarJob t (s.jobs j) (s'.jobs j)
  next : s.nextJob ≤ s'.nextJob

def outline (R : Type) (cfg : Config) : Outline (State R) ThreadId (Thread R) where
  loc s t := s.threads t
  shared := Shared cfg
  ok s t th := th.Known s.nextJob ∧ th.Ok t s.jobs
  guar := Guar

/-! ## Stability -/

variable {u : ThreadId}

theorem LookOk.stable (hNe : u ≠ t) (hGuar : GuarJob t job job') (h : LookOk u job) :
    LookOk u job' := by
  rw [hGuar.foreign u hNe h.1]
  exact h

theorem OpenOk.stable (hNe : u ≠ t) (hGuar : GuarJob t job job') (h : OpenOk u job) :
    OpenOk u job' := by
  rw [hGuar.foreign u hNe h.1]
  exact h

theorem SnapOk.guar {n : Nat} {sn : Snapshot R} (hGuar : GuarJob t job job') (h : SnapOk n sn job) :
    SnapOk n sn job' := by
  have hSame : sn.status.Final → SameOutcome job job' := fun hf =>
    hGuar.frozen (h.status hf ▸ hf)
  refine ⟨fun hf => (hSame hf).status.trans (h.status hf), fun hr => ?_,
    fun hf hn => (h.result hf hn).trans (hSame hf).result.symm,
    fun hf hn => (h.error hf hn).trans (hSame hf).error.symm,
    fun hf hn => (h.errorType hf hn).trans (hSame hf).errorType.symm,
    fun hf hn => (h.finishedAt hf hn).trans (hSame hf).finishedAt.symm⟩
  have hJob := h.resultOf hr
  exact (hGuar.result (hJob ▸ hr)).trans hJob

theorem Answer.Of.guar {a : Answer R} (hGuar : GuarJob t job job') (h : a.Of job) : a.Of job' := by
  cases a with
  | result r => exact SettledAs.guar h hGuar
  | raised e => exact SettledAs.guar h hGuar
  | deferred => exact h

variable {jobs jobs' : JobId → Job R}

theorem Main.Ok.stable {m : Main R} (hNe : u ≠ t) (hGuar : ∀ j, GuarJob t (jobs j) (jobs' j))
    (h : m.Ok u jobs) : m.Ok u jobs' := by
  cases m with
  | answerForget j | answerException j =>
    obtain ⟨o, ho⟩ := h
    exact ⟨o, ho.guar (hGuar j)⟩
  | answerResult j =>
    obtain ⟨r, hr⟩ := h
    exact ⟨r, hr.guar (hGuar j)⟩
  | deferCheck j | deferRelease j | workCheck j | workSkip j | workSkipRelease j
  | workRelease j => exact LookOk.stable hNe (hGuar j) h
  | deferForget j | deferException j =>
    obtain ⟨hLook, o, ho⟩ := h
    exact ⟨hLook.stable hNe (hGuar j), o, ho.guar (hGuar j)⟩
  | deferResult j =>
    obtain ⟨hLook, r, hr⟩ := h
    exact ⟨hLook.stable hNe (hGuar j), r, hr.guar (hGuar j)⟩
  | deferAnswer j a => exact ⟨h.1.stable hNe (hGuar j), h.2.guar (hGuar j)⟩
  | deferClaim j | workStart j | workClock j | workRegister j =>
    exact OpenOk.stable hNe (hGuar j) h
  | _ => trivial

theorem SettlePc.Ok.stable {o : Outcome R} {pc : SettlePc} (hNe : u ≠ t)
    (hGuar : GuarJob t job job') (h : pc.Ok u o job) : pc.Ok u o job' := by
  cases pc with
  | check | abandon | write n | readPersisted | setDone _ | release _ _ =>
    rw [hGuar.foreign u hNe h.1]
    exact h
  | acquire | persist | upsert | broadcast => trivial

theorem SettleFrame.Ok.stable {f : SettleFrame R} (hNe : u ≠ t)
    (hGuar : ∀ j, GuarJob t (jobs j) (jobs' j)) (h : f.Ok u jobs) : f.Ok u jobs' :=
  ⟨h.1, h.2.stable hNe (hGuar f.job)⟩

theorem Thread.Ok.stable {th : Thread R} (hNe : u ≠ t) (hGuar : ∀ j, GuarJob t (jobs j) (jobs' j))
    (h : th.Ok u jobs) : th.Ok u jobs' :=
  ⟨h.main.stable hNe hGuar, fun f hf => ⟨(h.settle f hf).1, (h.settle f hf).2.stable hNe hGuar⟩,
    fun f hf => SnapOk.guar (hGuar f.job) (h.snap f hf)⟩

theorem Thread.Known.mono {n n' : Nat} {th : Thread R} (hLe : n ≤ n') (h : th.Known n) :
    th.Known n' :=
  ⟨fun j hj => Nat.lt_of_lt_of_le (h.main j hj) hLe,
    fun f hf => Nat.lt_of_lt_of_le (h.settle f hf) hLe,
    fun f hf => Nat.lt_of_lt_of_le (h.snap f hf) hLe⟩

theorem outline_stable (cfg : Config) : (outline R cfg).Stable :=
  fun _ _ _ _ _ hNe hGuar h => ⟨h.1.mono hGuar.next, h.2.stable hNe hGuar.jobs⟩

theorem Event.Ok.guar {cfg : Config} {e : Event R} (hGuar : ∀ j, GuarJob t (jobs j) (jobs' j))
    (h : e.Ok cfg jobs) : e.Ok cfg jobs' := by
  cases e with
  | settled j o b => exact ⟨h.1.guar (hGuar j), h.2⟩
  | answered j a =>
    cases a with
    | result r => exact SettledAs.guar h (hGuar j)
    | raised e => exact h.imp (fun h => h.guar (hGuar j)) id
    | deferred => trivial
  | snapshot j sn | upserted j sn => exact SnapOk.guar (hGuar j) h
  | row j sn =>
    cases sn with
    | none => trivial
    | some sn => exact SnapOk.guar (hGuar j) h
  | handlerReturned | refused | broadcast => trivial

end Sniff4Hound.Jobs
