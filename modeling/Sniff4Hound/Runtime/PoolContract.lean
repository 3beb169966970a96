import Sniff4Hound.Runtime.JobContract
import Sniff4Hound.Runtime.JobPool

/-!
# What the worker pool promises

A worker that was given up is counted from the section of `_settle` that replaces it to the
section of `_work_loop` that takes its job out of `_running`; its handler returns somewhere in
between, and the thread ends a little later. With these two gaps said, the counter, the
abandoned jobs and the live threads agree in every state of every run (`pool_balanced`).

* `pool_refined`: up to the shutdown the queue makes moves of the abstract pool only.
-/

namespace Sniff4Hound.Jobs

open WorkerPool

variable {R : Type} {cfg : Config} {s s' : State R} {t : ThreadId}

/-- The job in `_running` that the thread is the worker of. -/
def State.holds (s : State R) (t : ThreadId) : Option JobId := (s.threads t).main.role.holds

/-- The thread is the worker of an abandoned job in `_running`. -/
def State.held (s : State R) (t : ThreadId) : Bool := s.pool.held t

/-- The thread has taken its abandoned job out of `_running`, or is past its loop. -/
def State.leaves (s : State R) (t : ThreadId) : Bool := s.pool.leaves t

theorem thread_at (hs : (custody R cfg).Holds s) (hCalls : ¬ (s.threads t).main.CallsSettle)
    (hReads : ∀ j, (s.threads t).main ≠ .deferUpsert j ∧ (s.threads t).main ≠ .getSnapshot j) :
    s.threads t = .at (s.threads t).main := by
  have hOk : (s.threads t).Ok t s.jobs := (hs.2 t).1.2
  have hCustody : (s.threads t).Custody s.stopping s.jobs := (hs.2 t).2
  rcases hTh : s.threads t with ⟨m, settle, snap⟩
  rw [hTh] at hOk hCustody hCalls hReads
  cases settle with
  | some f => exact absurd (hOk.settle f rfl).1 hCalls
  | none =>
    cases snap with
    | none => rfl
    | some g =>
      obtain ⟨j, hMain | hMain⟩ := hCustody.reading g rfl rfl
      · exact absurd hMain (hReads j).1
      · exact absurd hMain (hReads j).2

theorem step_run_at {m : Main R} (hTh : s.threads t = .at m) :
    step cfg s (.run t) = mainStep cfg s t m := by
  simp only [step, threadStep, hTh, Thread.at]

theorem exit_goes (hs : (custody R cfg).Holds s) (hWorker : s.workers.Nodup)
    (hMain : (s.threads t).main = .workExit) :
    ∃ s', step cfg s (.run t) = some s' ∧ t ∉ s'.workers := by
  have hTh := thread_at hs (by rw [hMain]; exact id) fun j => by rw [hMain]; exact ⟨nofun, nofun⟩
  rw [hMain] at hTh
  refine ⟨_, step_run_at hTh, fun hMem => ?_⟩
  exact (hWorker.mem_erase_iff.mp hMem).1 rfl

theorem leaves_goes (hs : (custody R cfg).Holds s) (hSound : s.pool.Sound cfg.workerLimit)
    (hStop : s.stopping = false) (hLeaves : s.leaves t = true) :
    ∃ n s', n ≤ 2 ∧ StepRun.run (step cfg) s (List.replicate n (.run t)) = some s' ∧
      t ∉ s'.workers := by
  change (s.threads t).main.role.leaves _ = true at hLeaves
  cases hMain : (s.threads t).main <;> rw [hMain] at hLeaves <;> try cases hLeaves
  case workSentinel =>
    have hCustody : (s.threads t).main.Custody s.stopping s.jobs := (hs.2 t).2.main
    rw [hMain] at hCustody
    cases hStop.symm.trans hCustody
  case workExit =>
    obtain ⟨s', hStep, hGone⟩ := exit_goes hs hSound.placed.nodup hMain
    refine ⟨1, s', by omega, ?_, hGone⟩
    rw [List.replicate_one, StepRun.run_cons, hStep]
    rfl
  case workRetire j =>
    have hTh := thread_at hs (by rw [hMain]; exact id) fun j => by rw [hMain]; exact ⟨nofun, nofun⟩
    rw [hMain] at hTh
    have hAbandoned : (s.jobs j).abandoned = true := hLeaves
    have hStep : step cfg s (.run t) = some (s.goto t .workExit) := by
      rw [step_run_at hTh, mainStep, if_pos hAbandoned]
    have hs' := (custody_invariant cfg) _ _ _ hs hStep
    have hMain' : ((s.goto t .workExit).threads t).main = .workExit := by
      change (Function.update s.threads t _ t).main = _
      rw [Function.update_self]
      rfl
    obtain ⟨s', hStep', hGone⟩ := exit_goes hs' hSound.placed.nodup hMain'
    refine ⟨2, s', Nat.le_refl 2, ?_, hGone⟩
    rw [List.replicate_succ, StepRun.run_cons, hStep, Option.bind_some, List.replicate_one,
      StepRun.run_cons, hStep']
    rfl

/-- In every state of a run that is not shut down: the counter is between 0 and the size of the
pool and counts the abandoned jobs in `_running`, where an abandoned job is at least until its
handler has returned; each job there has one worker; the live threads are the size of the pool,
the counter, and the workers that are leaving, so that the pool has all its workers for other
jobs; a worker starts to leave when it takes an abandoned job out of `_running`, then takes no
other job and goes, and no other worker does. -/
theorem pool_balanced {monotonic utc : Nat} {ls : List (Label R)}
    (hRun : run cfg monotonic utc ls = some s) (hStop : s.stopping = false) :
    (0 ≤ s.surplus ∧ s.surplus ≤ cfg.workerLimit) ∧
    s.surplus = s.running.countP (fun j => (s.jobs j).abandoned) ∧
    (∀ j, (s.jobs j).abandoned = true → j ∈ s.running ∨ Returned j s.log) ∧
    (∀ j ∈ s.running, ∃ t ∈ s.workers, s.holds t = some j ∧ ∀ u, s.holds u = some j → u = t) ∧
    (s.workers.length : Int) = cfg.workerLimit + s.surplus + s.workers.countP s.leaves ∧
    s.workers.countP (fun t => !s.held t && !s.leaves t) = cfg.workerLimit ∧
    (∀ t, s.leaves t = true → ∃ n s', n ≤ 2 ∧
      StepRun.run (step cfg) s (List.replicate n (.run t)) = some s' ∧ t ∉ s'.workers) ∧
    ∀ l s', step cfg s l = some s' → s'.stopping = false → ∀ t,
      (s.leaves t = false → (s'.leaves t = true ↔ ∃ j, (s.threads t).main.role = .finishing j ∧
        (s'.threads t).main.role = .retiring j ∧ (s.jobs j).abandoned = true)) ∧
      (s.leaves t = true → t ∈ s'.workers → s'.leaves t = true) ∧
      (t ∈ s.workers → t ∉ s'.workers → s.leaves t = true) := by
  have hs := custody_run hRun
  have hSound := pool_run hRun hStop
  refine ⟨⟨hSound.surplus_nonneg, hSound.balanced.room⟩, hSound.balanced.surplus,
    hSound.placed.returned, fun j => hSound.holder, hSound.balanced.workers, hSound.capacity,
    fun t => leaves_goes hs hSound hStop, fun l s' hStep hStop' t => ?_⟩
  have hMove := step_pool hs hSound.placed hStep hStop'
  exact ⟨hMove.leaves_iff hSound.placed, hMove.leaves_stays hSound.placed,
    hMove.leaves_of_gone hSound.placed⟩

/-- A reader has given up, and its handler is still running: the pool of one has two threads. -/
theorem pool_balanced_lateResult : ∃ s : State Nat,
    run oneWorker 1 1 lateResult = some s ∧ s.surplus = 1 ∧ s.workers.length = 2 ∧
      s.surplus = s.running.countP (fun j => (s.jobs j).abandoned) ∧
      s.workers.countP (fun t => !s.held t && !s.leaves t) = 1 := by
  have hFacts : (run oneWorker 1 1 lateResult).map
      (fun s => (s.stopping, s.surplus, s.workers.length)) = some (false, 1, 2) := by decide
  obtain ⟨s, hRun, hSame⟩ := Option.map_eq_some_iff.mp hFacts
  simp only [Prod.mk.injEq] at hSame
  obtain ⟨hStop, hSurplus, hLength⟩ := hSame
  obtain ⟨-, hCount, -, -, -, hCapacity, -⟩ := pool_balanced hRun hStop
  exact ⟨s, hRun, hSurplus, hLength, hCount, hCapacity⟩

/-- Until it is shut down, the queue does nothing but moves of the pool that it stands for. -/
theorem pool_refined {monotonic utc : Nat} {ls : List (Label R)}
    (hRun : run cfg monotonic utc ls = some s) (hStop : s.stopping = false) :
    Relation.ReflTransGen (Pool.Move cfg.workerLimit) (initial R cfg monotonic utc).pool s.pool :=
  pool_moves hRun hStop

theorem pool_refined_lateResult : ∃ s : State Nat, run oneWorker 1 1 lateResult = some s ∧
    Relation.ReflTransGen (Pool.Move 1) (initial Nat oneWorker 1 1).pool s.pool := by
  have hStops : (run oneWorker 1 1 lateResult).map State.stopping = some false := by decide
  obtain ⟨s, hRun, hStop⟩ := Option.map_eq_some_iff.mp hStops
  exact ⟨s, hRun, pool_refined hRun hStop⟩

def unreturned (s : State R) : Nat :=
  (List.range s.nextJob).countP fun j => (s.jobs j).abandoned && !s.log.any fun
    | .handlerReturned k _ => k == j
    | _ => false

/-- Between the return of a handler and the section that counts the worker out, the counter is
ahead of the handlers; after it, the threads are ahead of the counter. -/
theorem pool_not_exact :
    (¬ ∀ (cfg : Config) (monotonic utc : Nat) (ls : List (Label Nat)) (s : State Nat),
      run cfg monotonic utc ls = some s → s.stopping = false → s.surplus = unreturned s) ∧
    ¬ ∀ (cfg : Config) (monotonic utc : Nat) (ls : List (Label Nat)) (s : State Nat),
      run cfg monotonic utc ls = some s → s.stopping = false →
        (s.workers.length : Int) = cfg.workerLimit + s.surplus := by
  have hReturned : (run oneWorker 1 1 (lateResult ++ [.handlerReturns 0 (.result (some 7))])).map
      (fun s => (s.stopping, s.surplus, unreturned s)) = some (false, 1, 0) := by decide
  have hUnregistered : (run oneWorker 1 1 (lateResult ++
      [.handlerReturns 0 (.result (some 7))] ++ List.replicate 5 (.run 0))).map
      (fun s => (s.stopping, s.surplus, s.workers.length)) = some (false, 0, 2) := by decide
  constructor
  · intro hAll
    obtain ⟨s, hRun, hSame⟩ := Option.map_eq_some_iff.mp hReturned
    simp only [Prod.mk.injEq] at hSame
    have hEq := hAll _ _ _ _ s hRun hSame.1
    rw [hSame.2.1, hSame.2.2] at hEq
    cases hEq
  · intro hAll
    obtain ⟨s, hRun, hSame⟩ := Option.map_eq_some_iff.mp hUnregistered
    simp only [Prod.mk.injEq] at hSame
    have hEq := hAll _ _ _ _ s hRun hSame.1
    rw [hSame.2.1, hSame.2.2] at hEq
    cases hEq

end Sniff4Hound.Jobs
