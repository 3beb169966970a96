import Sniff4Hound.Runtime.JobSteps

/-!
# What the job queue promises

Four kinds of threads race to settle a job: the worker that ran it, the watchdog, the
reader that gave up waiting and `shutdown`. Over every run, and between any two states of
it, one of them wins (`settledCount_le_one`), what it wrote stays (`done_frozen`), a result
that comes after a timeout reaches nobody (`failure_not_delivers`), and a dict whose
`status` says that the job is over carries the rest of the outcome (`taken_final`).

* `jobs_settle_once`: the four together, for every run.
-/

namespace Sniff4Hound.Jobs

variable {R : Type} {cfg : Config} {monotonic utc : Nat} {ls ms : List (Label R)}
  {s s' : State R} {j : JobId}

/-! ## Two states of one run -/

theorem step_guar {l : Label R} (hs : (outline R cfg).Holds s) (hStep : step cfg s l = some s') :
    ∃ t, GuarJob t (s.jobs j) (s'.jobs j) := by
  exact ⟨_, (step_moves hs hStep).guar.jobs j⟩

theorem later_run (hRun : run cfg monotonic utc ls = some s)
    (hLater : StepRun.run (step cfg) s ms = some s') :
    run cfg monotonic utc (ls ++ ms) = some s' :=
  StepRun.run_append_eq_some.mpr ⟨s, hRun, hLater⟩

theorem later_job {P : Job R → Prop}
    (hP : ∀ t job job', GuarJob t job job' → P job → P job')
    (hs : (outline R cfg).Holds s) (hLater : StepRun.run (step cfg) s ms = some s')
    (h : P (s.jobs j)) : P (s'.jobs j) := by
  have hInv : StepRun.Invariant (step cfg) fun s => (outline R cfg).Holds s ∧ P (s.jobs j) := by
    refine (outline_invariant cfg).strengthen fun s l s' hs hJob hStep => ?_
    obtain ⟨t, hGuar⟩ := step_guar hs hStep
    exact hP t _ _ hGuar hJob
  exact (hInv.run ⟨hs, h⟩ hLater).2

/-! ## The four promises -/

variable (hs : (outline R cfg).Holds s)

include hs

theorem settledCount_le_one (j : JobId) : settledCount j s.log ≤ 1 := by
  rw [hs.1.count j]
  split <;> omega

theorem done_frozen
    (hLater : StepRun.run (step cfg) s ms = some s') (hDone : (s.jobs j).done = true) :
    (s'.jobs j).done = true ∧ SameOutcome (s.jobs j) (s'.jobs j) := by
  refine later_job (P := fun job => job.done = true ∧ SameOutcome (s.jobs j) job) ?_ hs hLater
    ⟨hDone, .refl _⟩
  rintro t job job' hGuar ⟨hSet, hSame⟩
  have hFinal : job.status.Final := by
    rw [hSame.status]
    exact (hs.1.complete j).final hDone
  exact ⟨hGuar.done hSet, hSame.trans (hGuar.frozen hFinal)⟩

def TimedOut (j : JobId) (log : List (Event R)) : Prop := ∃ o, Event.settled j o true ∈ log

def Event.Delivers (j : JobId) : Event R → Prop
  | .answered k (.result _) => k = j
  | .snapshot k sn | .upserted k sn | .row k (some sn) =>
    k = j ∧ (sn.status = .done ∨ sn.result ≠ none)
  | _ => False

omit hs in
theorem SnapOk.of_failure {e : PyError} {sn : Snapshot R} {job : Job R} (h : SnapOk 6 sn job)
    (hJob : SettledAs (.failure e) job) : ¬ (sn.status = .done ∨ sn.result ≠ none) := by
  rintro (hDone | hResult)
  · have hStatus : job.status = sn.status := h.status (by rw [hDone]; trivial)
    rw [hJob.1.status, hDone] at hStatus
    cases hStatus
  · exact hResult ((h.resultOf hResult).symm.trans hJob.1.result)

theorem timedOut_settledAs (hTimedOut : TimedOut j s.log) :
    ∃ e, SettledAs (.failure e) (s.jobs j) := by
  obtain ⟨o, ho⟩ := hTimedOut
  obtain ⟨hSet, hStatus⟩ := hs.1.log _ ho
  cases o with
  | result r => cases hStatus rfl
  | failure e => exact ⟨e, hSet⟩

theorem failure_not_delivers {e : PyError} (hJob : SettledAs (.failure e) (s.jobs j)) :
    ∀ ev ∈ s.log, ¬ ev.Delivers j := by
  intro ev hMem hDelivers
  have hOk := hs.1.log ev hMem
  cases ev with
  | answered k a =>
    cases a with
    | result r =>
      obtain rfl : k = j := hDelivers
      have hSame := Written.unique hJob.1 (And.left hOk)
      cases hSame
    | raised e => exact hDelivers
    | deferred => exact hDelivers
  | snapshot k sn | upserted k sn =>
    obtain ⟨rfl, hGiven⟩ := hDelivers
    exact SnapOk.of_failure hOk hJob hGiven
  | row k sn =>
    cases sn with
    | none => exact hDelivers
    | some sn =>
      obtain ⟨rfl, hGiven⟩ := hDelivers
      exact SnapOk.of_failure hOk hJob hGiven
  | settled | handlerReturned | refused | broadcast => exact hDelivers

/-- A dict `snapshot` returned: a thread still holds it with all reads made, or it left the
queue. -/
def Taken (s : State R) (j : JobId) (sn : Snapshot R) : Prop :=
  (∃ t f, (s.threads t).snap = some f ∧ f.job = j ∧ f.got = sn ∧
    f.next = (snapReads R).length) ∨
  Event.snapshot j sn ∈ s.log ∨ Event.upserted j sn ∈ s.log ∨ Event.row j (some sn) ∈ s.log

/-- The snapshot says of the job what the job says. -/
structure Snapshot.Shows (sn : Snapshot R) (job : Job R) : Prop where
  status : sn.status = job.status
  result : sn.result = job.result
  error : sn.error = job.error
  errorType : sn.errorType = job.errorType
  finishedAt : sn.finishedAt = job.finishedAt

theorem taken_snapOk {sn : Snapshot R} (hTaken : Taken s j sn) : SnapOk 6 sn (s.jobs j) := by
  rcases hTaken with ⟨t, f, hSnap, rfl, rfl, hNext⟩ | hMem | hMem | hMem
  · have hFrame : SnapOk f.next f.got (s.jobs f.job) := (hs.2 t).2.snap f hSnap
    rw [hNext] at hFrame
    exact hFrame
  · exact hs.1.log _ hMem
  · exact hs.1.log _ hMem
  · exact hs.1.log _ hMem

theorem taken_final
    (hLater : StepRun.run (step cfg) s ms = some s') {sn : Snapshot R} (hTaken : Taken s j sn)
    (hFinal : sn.status.Final) : sn.Shows (s'.jobs j) ∧ ∃ o, Written o (s'.jobs j) := by
  have hs' : (outline R cfg).Holds s' := (outline_invariant cfg).run hs hLater
  have h : SnapOk 6 sn (s'.jobs j) :=
    later_job (P := SnapOk 6 sn) (fun _ _ _ hGuar h => h.guar hGuar) hs hLater
      (taken_snapOk hs hTaken)
  have hStatus := h.status hFinal
  refine ⟨⟨hStatus.symm, h.result hFinal (by omega), h.error hFinal (by omega),
    h.errorType hFinal (by omega), h.finishedAt hFinal (by omega)⟩, ?_⟩
  exact (hs'.1.complete j).written (by rw [hStatus]; exact hFinal)

omit hs

/-- At every state of a run, and for everything that may still follow: a job is settled at
most once, what it was settled with stays, a job that was given up delivers no result, and
the dicts that say it is over show its final outcome. -/
theorem jobs_settle_once (hRun : run cfg monotonic utc ls = some s)
    (hLater : StepRun.run (step cfg) s ms = some s') (j : JobId) :
    settledCount j s.log ≤ 1 ∧
    ((s.jobs j).done = true → (s'.jobs j).done = true ∧ SameOutcome (s.jobs j) (s'.jobs j)) ∧
    (TimedOut j s.log → ∀ ev ∈ s'.log, ¬ ev.Delivers j) ∧
    (∀ sn, Taken s j sn → sn.status.Final →
      sn.Shows (s'.jobs j) ∧ ∃ o, Written o (s'.jobs j)) := by
  have hs := outline_run hRun
  refine ⟨settledCount_le_one hs j, done_frozen hs hLater, fun hTimedOut => ?_,
    fun sn => taken_final hs hLater⟩
  obtain ⟨e, hJob⟩ := timedOut_settledAs hs hTimedOut
  exact failure_not_delivers (outline_run (later_run hRun hLater))
    (later_job (fun _ _ _ hGuar h => h.guar hGuar) hs hLater hJob)

/-- A read gives up after its wait, and its thread settles the job with `TimeoutError`
while the handler is still running. -/
def lateResult : List (Label Nat) :=
  [.submit "monitors.list" false] ++ List.replicate 9 (.run 0) ++ [.waitTimesOut 2] ++
    List.replicate 12 (.run 2)

/-- What follows: the handler returns 7, its worker finds the job settled, a `get` takes a
snapshot, and the reader is answered. -/
def afterLateResult : List (Label Nat) :=
  [.handlerReturns 0 (.result (some 7))] ++ List.replicate 4 (.run 0) ++ [.get 0] ++
    List.replicate 9 (.run 4) ++ List.replicate 2 (.run 2)

def oneWorker : Config := ⟨true, true, 1, 30, "read request exceeded 30s", "job exceeded 30s"⟩

theorem jobs_settle_once_late_result : ∃ s s' : State Nat,
    run oneWorker 1 1 lateResult = some s ∧
    StepRun.run (step oneWorker) s afterLateResult = some s' ∧
    TimedOut 0 s.log ∧ Event.handlerReturned 0 (.result (some 7)) ∈ s'.log ∧
    settledCount 0 s.log ≤ 1 ∧ SameOutcome (s.jobs 0) (s'.jobs 0) ∧
    (∀ ev ∈ s'.log, ¬ ev.Delivers 0) ∧
    ∀ sn, Taken s 0 sn → sn.status.Final → sn.Shows (s'.jobs 0) := by
  have hAll : (run oneWorker 1 1 (lateResult ++ afterLateResult)).map
      (fun s => decide (Event.handlerReturned 0 (.result (some 7)) ∈ s.log)) = some true := by
    decide
  have hFirst : (run oneWorker 1 1 lateResult).map (fun s => (s.log, (s.jobs 0).done)) =
      some ([.settled 0 (.failure (readTimeout oneWorker)) true], true) := by decide
  obtain ⟨s', hRun', hReturned⟩ := Option.map_eq_some_iff.mp hAll
  obtain ⟨s, hRun, hLater⟩ := StepRun.run_append_eq_some.mp hRun'
  have hRun₀ : run oneWorker 1 1 lateResult = some s := hRun
  rw [hRun₀, Option.map_some, Option.some.injEq, Prod.mk.injEq] at hFirst
  obtain ⟨hLog, hDone⟩ := hFirst
  have hTimedOut : TimedOut 0 s.log := ⟨_, hLog ▸ List.mem_singleton.mpr rfl⟩
  obtain ⟨hOnce, hFrozen, hLate, hTaken⟩ := jobs_settle_once hRun hLater 0
  exact ⟨s, s', hRun, hLater, hTimedOut, of_decide_eq_true hReturned, hOnce, (hFrozen hDone).2,
    hLate hTimedOut, fun sn h hFinal => (hTaken sn h hFinal).1⟩

end Sniff4Hound.Jobs
