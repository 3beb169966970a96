import Mathlib.Data.List.ReduceOption
import Sniff4Hound.Library.WorkerPool
import Sniff4Hound.Runtime.JobCustody

/-!
# The workers of the job queue

The positions of a worker thread are the roles of a pool that replaces stuck workers
(`Library/WorkerPool.lean`). As long as the queue is not shut down, each of its steps is a
move of that pool (`step_pool`): most are none, because they concern a caller, or a worker
that goes on with what it was at.
-/

namespace Sniff4Hound.Jobs

open WorkerPool

variable {R : Type} {cfg : Config} {s s' s₁ : State R} {t : ThreadId}

/-! ## The pool of a state -/

def Main.role : Main R → Role JobId
  | .workLoop | .workGet => .free
  | .workStopping j | .workStopSettle j | .workAcquire j | .workCheck j | .workSkip j
  | .workSkipRelease j | .workStart j | .workClock j => .taken j
  | .workRegister j => .registering j
  | .workRelease j => .starting j
  | .workHandler j => .serving j
  | .workSettle j => .settling j
  | .workTaskDone j | .workUnregister j => .finishing j
  | .workRetire j => .retiring j
  | .workSentinel | .workExit => .leaving
  | _ => .outside

def Returned (j : JobId) (log : List (Event R)) : Prop := ∃ o, Event.handlerReturned j o ∈ log

def State.pool (s : State R) : Pool ThreadId JobId where
  role t := (s.threads t).main.role
  workers := s.workers
  queue := s.queue.reduceOption
  running := s.running
  abandoned j := (s.jobs j).abandoned
  clocked j := (s.jobs j).startedMono ≠ 0 ∧ (s.jobs j).done = false
  returned j := Returned j s.log
  surplus := s.surplus

theorem pool_setThread (s : State R) (t : ThreadId) (th : Thread R) :
    (s.setThread t th).pool = s.pool.turn t th.main.role := by
  have hRole : (fun u => (Function.update s.threads t th u).main.role) =
      Function.update (fun u => (s.threads u).main.role) t th.main.role := by
    funext u
    by_cases hut : u = t
    · rw [hut, Function.update_self, Function.update_self]
    · rw [Function.update_of_ne hut, Function.update_of_ne hut]
  exact congrArg (fun role => { s.pool with role := role }) hRole

theorem turn_same {p : Pool ThreadId JobId} {r : Role JobId} (h : p.role t = r) : p.turn t r = p := by
  rw [Pool.turn, ← h, Function.update_eq_self]

variable {j : JobId} {job : Job R}

theorem pool_setJob (h : job.abandoned = (s.jobs j).abandoned) :
    (s.setJob j job).pool = { s.pool with clocked := (s.setJob j job).pool.clocked } := by
  have hAbandoned : (fun i => (Function.update s.jobs j job i).abandoned) =
      fun i => (s.jobs i).abandoned := by
    funext i
    by_cases hij : i = j
    · rw [hij, Function.update_self, h]
    · rw [Function.update_of_ne hij]
  exact congrArg (fun abandoned => { s.pool with
    abandoned := abandoned, clocked := (s.setJob j job).pool.clocked }) hAbandoned

theorem clocked_setJob (hStarted : job.startedMono = (s.jobs j).startedMono)
    (hDone : (s.jobs j).done = true → job.done = true) (i : JobId)
    (h : (s.setJob j job).pool.clocked i) : s.pool.clocked i := by
  by_cases hij : i = j
  · subst hij
    change (Function.update s.jobs i job i).startedMono ≠ 0 ∧
      (Function.update s.jobs i job i).done = false at h
    rw [Function.update_self] at h
    refine ⟨hStarted ▸ h.1, ?_⟩
    cases hOld : (s.jobs i).done with
    | false => rfl
    | true => exact absurd (hDone hOld) (by rw [h.2]; nofun)
  · change (Function.update s.jobs j job i).startedMono ≠ 0 ∧
      (Function.update s.jobs j job i).done = false at h
    rwa [Function.update_of_ne hij] at h

/-! ## Steps that are no move of a worker -/

/-- `s₁` is `s` for the pool, up to what a quiet move may change. -/
structure PoolFrame (s s₁ : State R) : Prop where
  threads : s₁.threads = s.threads
  workers : s₁.workers = s.workers
  running : s₁.running = s.running
  surplus : s₁.surplus = s.surplus
  abandoned : s₁.pool.abandoned = s.pool.abandoned
  queue : s₁.queue.Sublist s.queue
  clocked : ∀ j, s₁.pool.clocked j → s.pool.clocked j
  returned : ∀ j, Returned j s.log → Returned j s₁.log

theorem PoolFrame.refl (s : State R) : PoolFrame s s :=
  ⟨rfl, rfl, rfl, rfl, rfl, List.Sublist.refl _, fun _ => id, fun _ => id⟩

theorem PoolFrame.emit (h : PoolFrame s s₁) (e : Event R) : PoolFrame s (s₁.emit e) where
  threads := h.threads
  workers := h.workers
  running := h.running
  surplus := h.surplus
  abandoned := h.abandoned
  queue := h.queue
  clocked := h.clocked
  returned j hj := by
    obtain ⟨o, ho⟩ := h.returned j hj
    exact ⟨o, List.mem_append_left _ ho⟩

theorem PoolFrame.discard (s : State R) (j : JobId) : PoolFrame s (discard s j) := by
  unfold Jobs.discard
  split
  · exact ⟨rfl, rfl, rfl, rfl, rfl, List.erase_sublist, fun _ => id, fun _ => id⟩
  · exact .refl s

theorem PoolFrame.setJob (hAbandoned : job.abandoned = (s.jobs j).abandoned)
    (hStarted : job.startedMono = (s.jobs j).startedMono)
    (hDone : (s.jobs j).done = true → job.done = true) : PoolFrame s (s.setJob j job) where
  threads := rfl
  workers := rfl
  running := rfl
  surplus := rfl
  abandoned := by rw [pool_setJob hAbandoned]
  queue := List.Sublist.refl _
  clocked := clocked_setJob hStarted hDone
  returned _ := id

theorem PoolFrame.move (h : PoolFrame s s₁) (limit : Nat) : Pool.Move limit s.pool s₁.pool := by
  have hPool : s₁.pool = { s.pool with
      queue := s₁.queue.reduceOption
      clocked := s₁.pool.clocked
      returned := s₁.pool.returned } := by
    refine Pool.ext ?_ h.workers rfl h.running h.abandoned rfl rfl h.surplus
    change (fun t => (s₁.threads t).main.role) = _
    rw [h.threads]
    rfl
  rw [hPool]
  exact .quiet _ _ _ (h.queue.filterMap _) h.clocked h.returned

theorem PoolFrame.setThread (h : PoolFrame s s₁) (limit : Nat) {th : Thread R}
    (hRole : th.main.role = (s.threads t).main.role) :
    Pool.Move limit s.pool (s₁.setThread t th).pool := by
  have hSame : (s₁.threads t).main.role = th.main.role := by rw [h.threads, hRole]
  rw [pool_setThread, turn_same hSame]
  exact h.move limit

/-! ## Steps inside `_settle` and `snapshot` -/

theorem pool_setJob_same (hAbandoned : job.abandoned = (s.jobs j).abandoned)
    (hStarted : job.startedMono = (s.jobs j).startedMono) (hDone : job.done = (s.jobs j).done) :
    (s.setJob j job).pool = s.pool := by
  rw [pool_setJob hAbandoned]
  refine Pool.ext rfl rfl rfl rfl rfl (funext fun i => propext ⟨fun h => ?_, fun h => ?_⟩) rfl rfl
  · exact clocked_setJob hStarted (fun h => hDone.trans h) i h
  · change (Function.update s.jobs j job i).startedMono ≠ 0 ∧
      (Function.update s.jobs j job i).done = false
    by_cases hij : i = j
    · rw [hij, Function.update_self, hStarted, hDone]
      exact hij ▸ h
    · rw [Function.update_of_ne hij]
      exact h

theorem pool_emit {e : Event R} (h : ∀ j o, e ≠ .handlerReturned j o) :
    (s.emit e).pool = s.pool := by
  refine Pool.ext rfl rfl rfl rfl rfl rfl (funext fun i => propext ⟨?_, ?_⟩) rfl
  · rintro ⟨o, ho⟩
    rcases List.mem_append.mp ho with ho | ho
    · exact ⟨o, ho⟩
    · exact absurd (List.mem_singleton.mp ho).symm (h i o)
  · rintro ⟨o, ho⟩
    exact ⟨o, List.mem_append_left _ ho⟩

section Settle

variable {m : Main R} {f : SettleFrame R} (hs : (custody R cfg).Holds s)

include hs

theorem afterSettle_pool (hTh : s.threads t = ⟨m, some f, none⟩)
    (hStop : s.stopping = false) (hDone : (s.jobs f.job).done = true) :
    Pool.Move cfg.workerLimit s.pool (s.goto t m.afterSettle).pool := by
  have hCustody := (hs.2 t).2
  have hOk := (hs.2 t).1.2
  change (s.threads t).Custody _ _ at hCustody
  change (s.threads t).Ok _ _ at hOk
  rw [hTh] at hCustody hOk
  have hRole : (s.threads t).main.role = m.role := by rw [hTh]
  cases m with
  | readSettle | watchSettle => exact (PoolFrame.refl s).setThread _ hRole.symm
  | workStopSettle j => exact absurd (hStop.symm.trans hCustody.main) Bool.false_ne_true
  | stopSettle n => exact absurd (hStop.symm.trans hCustody.main) Bool.false_ne_true
  | workSettle j =>
    have hJob : f.job = j := hCustody.served f j rfl rfl
    rw [State.goto, pool_setThread]
    refine .finish t j hRole fun hClocked => ?_
    rw [← hJob] at hClocked
    exact absurd (hDone.symm.trans hClocked.2) Bool.false_ne_true.symm
  | _ => exact absurd (hOk.settle f rfl).1 (by rintro ⟨⟩)

theorem overdue_worker (hPool : s.pool.Placed)
    (hTh : s.threads t = ⟨m, some f, none⟩) (hLock : (s.jobs f.job).lock = some t)
    (hClocked : s.pool.clocked f.job) :
    ∃ u, s.pool.role u = .serving f.job ∨ s.pool.role u = .settling f.job := by
  have hCalls : m.CallsSettle := by
    have hOk := (hs.2 t).1.2
    change (s.threads t).Ok _ _ at hOk
    rw [hTh] at hOk
    exact (hOk.settle f rfl).1
  obtain ⟨u, hu⟩ := hPool.clocked f.job hClocked
  have hOk : (s.threads u).main.Ok u s.jobs := (hs.2 u).1.2.main
  -- a worker that is still registering the job holds its lock
  have hNot : (s.jobs f.job).lock = some u → ¬ (s.threads u).main.CallsSettle → False := by
    intro hLock' hNot
    obtain rfl : t = u := Option.some.inj (hLock.symm.trans hLock')
    rw [hTh] at hNot
    exact hNot hCalls
  rcases hu with hu | hu | hu | hu
  · change (s.threads u).main.role = _ at hu
    cases hMain : (s.threads u).main <;> rw [hMain] at hu <;> cases hu
    rw [hMain] at hOk hNot
    exact (hNot hOk.1 id).elim
  · change (s.threads u).main.role = _ at hu
    cases hMain : (s.threads u).main <;> rw [hMain] at hu <;> cases hu
    rw [hMain] at hOk hNot
    exact (hNot hOk.1 id).elim
  · exact ⟨u, Or.inl hu⟩
  · exact ⟨u, Or.inr hu⟩

theorem abandon_pool (hPool : s.pool.Placed)
    (hTh : s.threads t = ⟨m, some f, none⟩) (hOpen : OpenOk t (s.jobs f.job))
    (hCalm : Calm (s.jobs f.job)) (hStarted : (s.jobs f.job).startedMono ≠ 0)
    (hRoom : s.surplus < cfg.workerLimit) :
    Pool.Move cfg.workerLimit s.pool
      ((startWorker { s.setJob f.job { s.jobs f.job with abandoned := true } with
        surplus := s.surplus + 1 }).setThread t ⟨m, some { f with pc := .write 0 }, none⟩).pool := by
  obtain ⟨u, hu⟩ := overdue_worker hs hPool hTh hOpen.1 ⟨hStarted, hOpen.2.2⟩
  have hSpare : s.threads s.nextThread = .at .unused := hs.1.2.spare _ (Nat.le_refl _)
  have hNe : t ≠ s.nextThread := by
    intro htn
    rw [htn, hSpare] at hTh
    cases hTh
  have hRole : s.pool.role s.nextThread = .outside := by
    change (s.threads s.nextThread).main.role = _
    rw [hSpare]
    rfl
  have hMove := Pool.Move.replace u s.nextThread f.job hu hRole (hCalm hOpen.2.2) hRoom
  refine hMove.of_eq (Pool.ext ?_ rfl rfl rfl ?_ ?_ rfl rfl)
  · funext v
    change (Function.update (Function.update s.threads s.nextThread (.at .workLoop)) t
        ⟨m, some { f with pc := .write 0 }, none⟩ v).main.role =
      Function.update (fun v => (s.threads v).main.role) s.nextThread .free v
    by_cases hvt : v = t
    · rw [hvt, Function.update_of_ne hNe, Function.update_self, hTh]
    · rw [Function.update_of_ne hvt]
      by_cases hvn : v = s.nextThread
      · rw [hvn, Function.update_self, Function.update_self]
        rfl
      · rw [Function.update_of_ne hvn, Function.update_of_ne hvn]
  · funext i
    change (Function.update s.jobs f.job { s.jobs f.job with abandoned := true } i).abandoned =
      Function.update (fun i => (s.jobs i).abandoned) f.job true i
    by_cases hij : i = f.job
    · rw [hij, Function.update_self, Function.update_self]
    · rw [Function.update_of_ne hij, Function.update_of_ne hij]
  · funext i
    change ((Function.update s.jobs f.job { s.jobs f.job with abandoned := true } i).startedMono ≠ 0 ∧
        (Function.update s.jobs f.job { s.jobs f.job with abandoned := true } i).done = false) =
      ((s.jobs i).startedMono ≠ 0 ∧ (s.jobs i).done = false)
    by_cases hij : i = f.job
    · rw [hij, Function.update_self]
    · rw [Function.update_of_ne hij]

theorem settleStep_pool (hPool : s.pool.Placed)
    (hTh : s.threads t = ⟨m, some f, none⟩) (hStop : s.stopping = false)
    (hStep : settleStep cfg s t m f = some s') : Pool.Move cfg.workerLimit s.pool s'.pool := by
  obtain ⟨-, hOk, hCustody⟩ := self_custody hs hTh (by rintro ⟨⟩)
  have hPc := hCustody.settle f rfl
  have hPcOk := (hOk.settle f rfl).2.2
  have hRole : m.role = (s.threads t).main.role := by rw [hTh]
  have hSame := PoolFrame.refl s
  unfold settleStep at hStep
  cases hAt : f.pc <;> simp only [hAt] at hStep hPc hPcOk
  case acquire =>
    split at hStep <;> cases hStep
    apply PoolFrame.setThread
    · exact .setJob rfl rfl id
    · exact hRole
  case check =>
    cases hStep
    exact hSame.setThread _ hRole
  case abandon =>
    split at hStep
    · rename_i hGiveUp
      cases hStep
      exact abandon_pool hs hPool hTh hPcOk hPc hGiveUp.2.1 hGiveUp.2.2.2
    · cases hStep
      exact hSame.setThread _ hRole
  case write n =>
    split at hStep
    · rename_i w hw
      cases hStep
      obtain ⟨-, hAbandoned, hStarted⟩ := settleWrites_rest hw (s.jobs f.job)
      exact (PoolFrame.setJob hAbandoned hStarted
        fun h => (settleWrites_frame hw _).1.trans h).setThread _ hRole
    · cases hStep
      exact hSame.setThread _ hRole
  case readPersisted =>
    cases hStep
    exact hSame.setThread _ hRole
  case setDone needsWrite =>
    cases hStep
    apply PoolFrame.setThread
    · apply PoolFrame.emit
      exact .setJob rfl rfl fun _ => rfl
    · exact hRole
  case release settled needsWrite =>
    split at hStep
    · cases hStep
      apply PoolFrame.setThread
      · exact .setJob rfl rfl id
      · exact hRole
    · cases hStep
      have hMove := afterSettle_pool hs hTh hStop hPc.1
      rw [State.goto, pool_setThread] at hMove ⊢
      rw [pool_setJob_same]
      · exact hMove
      · rfl
      · rfl
      · rfl
  case persist =>
    split at hStep
    · cases hStep
      exact hSame.setThread _ hRole
    · cases hStep
      exact hSame.setThread _ hRole
  case upsert => cases hStep
  case broadcast =>
    have hMove := afterSettle_pool hs hTh hStop hPc
    split at hStep
    · cases hStep
      rwa [pool_emit (by rintro j o ⟨⟩)]
    · cases hStep
      exact hMove

theorem snapStep_pool {settle : Option (SettleFrame R)} {g : SnapFrame R} (hTh : s.threads t = ⟨m, settle, some g⟩)
    (hStep : snapStep s t m settle g = some s') : Pool.Move cfg.workerLimit s.pool s'.pool := by
  obtain ⟨-, -, hCustody⟩ := self_custody hs hTh (by rintro ⟨⟩)
  have hRole : m.role = (s.threads t).main.role := by rw [hTh]
  have hStored : PoolFrame s { s with rows := Function.update s.rows g.job (some g.got) } :=
    ⟨rfl, rfl, rfl, rfl, rfl, List.Sublist.refl _, fun _ => id, fun _ => id⟩
  unfold snapStep at hStep
  split at hStep
  · cases hStep
    exact (PoolFrame.refl s).setThread _ hRole
  · split at hStep <;> cases hStep
    · exact (hStored.emit _).setThread _ hRole
    · exact ((hStored.emit _).emit _).setThread _ hRole
    · obtain ⟨j, hMain⟩ := hCustody.reading g rfl rfl
      have hOutside : m.role = .outside := by
        rcases hMain with hMain | hMain <;> rw [show m = _ from hMain] <;> rfl
      exact ((PoolFrame.refl s).emit _).setThread _ (hOutside.symm.trans hRole)

omit hs

theorem upsertFails_pool (limit : Nat) (hStep : upsertFails s t = some s') :
    Pool.Move limit s.pool s'.pool := by
  unfold upsertFails at hStep
  rcases hTh : s.threads t with ⟨m, settle, snap⟩
  simp only [hTh] at hStep
  have hRole : m.role = (s.threads t).main.role := by rw [hTh]
  split at hStep
  · cases hStep
  · split at hStep
    · cases hStep
    · split at hStep <;> cases hStep
      · exact (PoolFrame.refl s).setThread _ hRole
      · exact ((PoolFrame.refl s).emit _).setThread _ hRole

end Settle

/-! ## Steps outside `_settle` and `snapshot` -/

section MainSteps

variable {m : Main R}

theorem PoolFrame.pop (s : State R) (j : JobId) : PoolFrame s (s.pop j) :=
  ⟨rfl, rfl, rfl, rfl, rfl, List.Sublist.refl _, fun _ => id, fun _ => id⟩

theorem PoolFrame.taskDone (s : State R) : PoolFrame s s.taskDone :=
  ⟨rfl, rfl, rfl, rfl, rfl, List.Sublist.refl _, fun _ => id, fun _ => id⟩

theorem PoolFrame.answer (h : PoolFrame s s₁) (limit : Nat)
    (hRole : .outside = (s.threads t).main.role) (e : Event R) :
    Pool.Move limit s.pool ((s₁.goto t .finished).emit e).pool :=
  (h.emit e).setThread limit hRole

theorem setJob_goto (limit : Nat) {j : JobId} {job : Job R} {m' : Main R}
    (hAbandoned : job.abandoned = (s.jobs j).abandoned)
    (hStarted : job.startedMono = (s.jobs j).startedMono) (hDone : job.done = (s.jobs j).done)
    (hRole : m'.role = (s.threads t).main.role) :
    Pool.Move limit s.pool ((s.setJob j job).goto t m').pool :=
  (PoolFrame.setJob hAbandoned hStarted fun h => hDone.trans h).setThread limit hRole

theorem goto_pool (h : s₁.pool = s.pool) {limit : Nat} {m' : Main R}
    (hMove : Pool.Move limit s.pool (s.pool.turn t m'.role)) :
    Pool.Move limit s.pool (s₁.goto t m').pool := by
  rw [State.goto, pool_setThread, h]
  exact hMove

theorem mainStep_pool (hs : (custody R cfg).Holds s) (hTh : s.threads t = .at m)
    (hStop : s.stopping = false) (hStep : mainStep cfg s t m = some s')
    (hStop' : s'.stopping = false) : Pool.Move cfg.workerLimit s.pool s'.pool := by
  have hMain : m.Custody s.stopping s.jobs := by
    have hCustody := (hs.2 t).2.main
    change (s.threads t).main.Custody _ _ at hCustody
    rwa [hTh] at hCustody
  have hRole : m.role = (s.threads t).main.role := by rw [hTh]; rfl
  have hSame := PoolFrame.refl s
  -- a thread of `shutdown` is not there yet
  have hNot : s.stopping ≠ true := by rw [hStop]; nofun
  clear hTh
  cases m <;> simp only [mainStep] at hStep <;> try cases hStep
  case submitWait j persist =>
    split at hStep <;> cases hStep
    exact hSame.setThread _ hRole
  case readDiscard j => exact (PoolFrame.discard s j).setThread _ hRole
  case readForget j => exact (PoolFrame.pop s j).answer _ hRole _
  case answerForget j => exact (PoolFrame.pop s j).setThread _ hRole
  case answerException j =>
    split at hStep <;> cases hStep
    · exact hSame.answer _ hRole _
    · exact hSame.setThread _ hRole
  case answerResult j => exact hSame.answer _ hRole _
  case deferAcquire j =>
    split at hStep <;> cases hStep
    exact setJob_goto _ rfl rfl rfl hRole
  case deferCheck j =>
    split
    · exact hSame.setThread _ hRole
    · exact hSame.setThread _ hRole
  case deferForget j => exact (PoolFrame.pop s j).setThread _ hRole
  case deferException j =>
    split at hStep <;> cases hStep
    · exact hSame.setThread _ hRole
    · exact hSame.setThread _ hRole
  case deferResult j => exact hSame.setThread _ hRole
  case deferAnswer j a =>
    rw [pool_emit (by rintro k o ⟨⟩)]
    exact setJob_goto _ rfl rfl rfl hRole
  case deferClaim j => exact setJob_goto _ rfl rfl rfl hRole
  case deferRelease j => exact setJob_goto _ rfl rfl rfl hRole
  case deferPersist j =>
    split at hStep <;> cases hStep
    · exact hSame.setThread _ hRole
    · exact hSame.answer _ hRole _
  case workLoop =>
    rw [if_neg hNot]
    exact hSame.setThread _ hRole
  case workGet =>
    split at hStep <;> cases hStep
    · rename_i rest hQueue
      exact absurd (hQueue ▸ List.mem_cons_self) (hs.1.2.sentinels hStop)
    · rename_i j rest hQueue
      rw [State.goto, pool_setThread]
      refine Pool.Move.take t j rest.reduceOption hRole.symm ?_
      change s.queue.reduceOption = _
      rw [hQueue, List.reduceOption_cons_of_some]
  case workSentinel => exact absurd hMain hNot
  case workStopping j =>
    rw [if_neg hNot] at hStep
    cases hStep
    exact hSame.setThread _ hRole
  case workAcquire j =>
    split at hStep <;> cases hStep
    exact setJob_goto _ rfl rfl rfl hRole
  case workCheck j =>
    split
    · exact hSame.setThread _ hRole
    · exact hSame.setThread _ hRole
  case workSkip j => exact (PoolFrame.taskDone s).setThread _ hRole
  case workSkipRelease j =>
    refine goto_pool ?_ ?_
    · exact pool_setJob_same rfl rfl rfl
    · exact .skip t j hRole.symm
  case workStart j => exact setJob_goto _ rfl rfl rfl hRole
  case workClock j =>
    rw [State.goto, pool_setThread, pool_setJob]
    · refine .clock t j _ hRole.symm fun i hi => ?_
      by_cases hij : i = j
      · exact Or.inr hij
      · change (Function.update s.jobs j _ i).startedMono ≠ 0 ∧
          (Function.update s.jobs j _ i).done = false at hi
        rw [Function.update_of_ne hij] at hi
        exact Or.inl hi
    · rfl
  case workRegister j =>
    rw [State.goto, pool_setThread]
    exact .register t j hRole.symm
  case workRelease j =>
    refine goto_pool ?_ ?_
    · exact pool_setJob_same rfl rfl rfl
    · exact .serve t j hRole.symm
  case workTaskDone j => exact (PoolFrame.taskDone s).setThread _ hRole
  case workUnregister j =>
    rw [State.goto, pool_setThread]
    exact .unregister t j hRole.symm
  case workRetire j =>
    refine goto_pool rfl ((Pool.Move.retire t j hRole.symm).of_eq ?_)
    change Pool.turn _ _ (Main.role (ite _ _ _)) = Pool.turn _ _ (ite ((s.jobs j).abandoned = true) _ _)
    split
    · rfl
    · rfl
  case workExit =>
    rw [State.goto, pool_setThread]
    exact .leave t hRole.symm
  case watchWait =>
    rw [if_neg hNot]
    exact hSame.setThread _ hRole
  case watchScan now => exact hSame.setThread _ hRole
  case watchNext js =>
    cases js with
    | nil =>
      cases hStep
      exact hSame.setThread _ hRole
    | cons j rest =>
      cases hStep
      exact hSame.setThread _ hRole
  case stopBegin => cases hStop'
  case stopDrain n => exact absurd hMain hNot
  case stopTaskDone n => exact absurd hMain hNot
  case stopSentinels n => exact absurd hMain hNot
  case stopJoin => exact absurd hMain hNot
  case stopRest => exact absurd hMain hNot
  case getLookup j =>
    split at hStep <;> cases hStep
    · exact hSame.setThread _ hRole
    · exact hSame.answer _ hRole _
  case getSnapshot j => exact hSame.setThread _ hRole

end MainSteps

/-! ## The labels from outside -/

theorem role_task {m : Main R} (h : m.role.task = some j) : j ∈ m.names := by
  cases m <;> simp_all [Main.role, Role.task, Main.names]

theorem spawn_pool (hs : (custody R cfg).Holds s) (h : PoolFrame s s₁) (limit : Nat) {m : Main R}
    (hRole : m.role = .outside) :
    Pool.Move limit s.pool (s₁.setThread s.nextThread (.at m)).pool := by
  have hSpare : s.threads s.nextThread = .at .unused := hs.1.2.spare _ (Nat.le_refl _)
  refine h.setThread limit ?_
  rw [hSpare]
  exact hRole

theorem submit_pool (hs : (custody R cfg).Holds s) (hStop : s.stopping = false) (kind : String)
    (persist : Bool) (limit : Nat) : Pool.Move limit s.pool (submit s kind persist).pool := by
  have hNot : s.stopping ≠ true := by rw [hStop]; nofun
  have hSpare : s.threads s.nextThread = .at .unused := hs.1.2.spare _ (Nat.le_refl _)
  have hBlank : s.jobs s.nextJob = .new "" 0 := hs.1.1.blank _ (Nat.le_refl _)
  simp only [submit, if_neg hNot]
  have hQueue : s.nextJob ∉ s.pool.queue := by
    intro hMem
    exact Nat.lt_irrefl _ (hs.1.1.known.queue _ (List.reduceOption_mem_iff.mp hMem))
  have hTask : ∀ t, (s.pool.role t).task ≠ some s.nextJob := by
    intro t hTask
    exact Nat.lt_irrefl _ ((hs.2 t).1.1.main _ (role_task hTask))
  have hAbandoned : s.pool.abandoned s.nextJob = false := by
    change (s.jobs s.nextJob).abandoned = false
    rw [hBlank]
    rfl
  refine (Pool.Move.submit s.nextJob hQueue hTask hAbandoned).of_eq
    (Pool.ext ?_ rfl ?_ rfl ?_ ?_ rfl rfl)
  · funext u
    change (Function.update s.threads s.nextThread (.at (.submitWait s.nextJob persist)) u).main.role =
      (s.threads u).main.role
    by_cases hun : u = s.nextThread
    · rw [hun, Function.update_self, hSpare]
      rfl
    · rw [Function.update_of_ne hun]
  · change (s.queue ++ [some s.nextJob]).reduceOption = s.queue.reduceOption ++ [s.nextJob]
    rw [List.reduceOption_append]
    rfl
  · funext j
    change (Function.update s.jobs s.nextJob (.new kind s.utc) j).abandoned = (s.jobs j).abandoned
    by_cases hjn : j = s.nextJob
    · rw [hjn, Function.update_self, hBlank]
      rfl
    · rw [Function.update_of_ne hjn]
  · funext j
    change ((Function.update s.jobs s.nextJob (.new kind s.utc) j).startedMono ≠ 0 ∧
      (Function.update s.jobs s.nextJob (.new kind s.utc) j).done = false) =
      ((s.jobs j).startedMono ≠ 0 ∧ (s.jobs j).done = false)
    by_cases hjn : j = s.nextJob
    · rw [hjn, Function.update_self, hBlank]
      rfl
    · rw [Function.update_of_ne hjn]

theorem step_pool (hs : (custody R cfg).Holds s) (hPool : s.pool.Placed) {l : Label R}
    (hStep : step cfg s l = some s') (hStop' : s'.stopping = false) :
    Pool.Move cfg.workerLimit s.pool s'.pool := by
  have hStop : s.stopping = false := by
    cases hOld : s.stopping with
    | false => rfl
    | true => exact ((step_half hs hStep).lasting.stopping hOld).symm.trans hStop'
  have hSame := PoolFrame.refl s
  cases l <;> simp only [step] at hStep
  case tick m u =>
    cases hStep
    exact hSame.move _
  case submit kind persist =>
    cases hStep
    exact submit_pool hs hStop kind persist _
  case get j =>
    cases hStep
    exact spawn_pool hs hSame _ rfl
  case shutdown =>
    cases hStep
    exact spawn_pool hs hSame _ rfl
  case reap cutoff =>
    cases hStep
    exact hSame.move _
  case run t =>
    rcases hTh : s.threads t with ⟨m, settle, snap⟩
    simp only [threadStep, hTh] at hStep
    cases snap with
    | some f => exact snapStep_pool hs hTh hStep
    | none =>
      cases settle with
      | some f => exact settleStep_pool hs hPool hTh hStop hStep
      | none => exact mainStep_pool hs hTh hStop hStep hStop'
  case waitTimesOut t =>
    unfold waitTimesOut at hStep
    split at hStep
    · rename_i j persist hTh
      have hRole : .outside = (s.threads t).main.role := by rw [hTh]; rfl
      split at hStep
      · cases hStep
      · split at hStep
        · cases hStep
          exact hSame.setThread _ hRole
        · cases hStep
          exact hSame.setThread _ hRole
    · cases hStep
  case handlerReturns t o =>
    unfold handlerReturns at hStep
    split at hStep
    · rename_i j hTh
      have hRole : (s.threads t).main.role = .serving j := by rw [hTh]; rfl
      cases hStep
      have hShape : (callSettle s t (.workSettle j) j o false).emit (.handlerReturned j o) =
          (s.emit (.handlerReturned j o)).setThread t
            ⟨.workSettle j, some ⟨j, o, false, .acquire⟩, none⟩ := rfl
      rw [hShape, pool_setThread]
      refine .settle t j _ hRole (fun i hi => ?_) ⟨o, List.mem_append_right _ (List.mem_singleton.mpr rfl)⟩
      obtain ⟨o', ho'⟩ := hi
      exact ⟨o', List.mem_append_left _ ho'⟩
    · cases hStep
  case upsertFails t => exact upsertFails_pool _ hStep

/-! ## Runs -/

theorem pool_initial (cfg : Config) (monotonic utc : Nat) :
    (initial R cfg monotonic utc).pool.Sound cfg.workerLimit := by
  have hRole : ∀ t, (initial R cfg monotonic utc).pool.role t =
      if t < cfg.workerLimit then .free else .outside := by
    intro t
    change (Thread.main (ite _ _ _)).role = _
    split
    · rfl
    · split <;> rfl
  have hTask : ∀ t, ((initial R cfg monotonic utc).pool.role t).task = none := by
    intro t
    rw [hRole]
    split <;> rfl
  have hFree : ∀ t, (initial R cfg monotonic utc).pool.held t = false ∧
      (initial R cfg monotonic utc).pool.leaves t = false := by
    intro t
    rw [Pool.held, Pool.leaves, hRole]
    split <;> exact ⟨rfl, rfl⟩
  refine ⟨⟨List.nodup_range, fun t => ?_, List.nodup_nil, fun _ h => (by cases h),
    fun t u j hj => ?_, fun j hj => ?_, fun _ h => (by cases h), fun t j hj => ?_,
    fun _ h => (by cases h), List.nodup_nil, fun j => ⟨fun h => (by cases h), ?_⟩⟩,
    ⟨rfl, ?_, ?_, ?_⟩⟩
  · rw [hRole]
    change t ∈ List.range cfg.workerLimit ↔ _
    rw [List.mem_range]
    split <;> simp [*]
  · rw [hTask] at hj
    cases hj
  · exact absurd rfl hj.1
  · rw [hRole] at hj
    split at hj <;> simp [Role.Late] at hj
  · rintro ⟨t, ht⟩
    have hNone := Pool.holds_task ht
    rw [hTask] at hNone
    cases hNone
  · exact Int.natCast_nonneg _
  · have hCount : (List.range cfg.workerLimit).countP (initial R cfg monotonic utc).pool.held = 0 :=
      List.countP_eq_zero.mpr fun t _ => by rw [(hFree t).1]; exact Bool.false_ne_true
    change (0 : Int) = ((List.range cfg.workerLimit).countP _ : Nat)
    rw [hCount]
    rfl
  · have hCount : (List.range cfg.workerLimit).countP (initial R cfg monotonic utc).pool.leaves = 0 :=
      List.countP_eq_zero.mpr fun t _ => by rw [(hFree t).2]; exact Bool.false_ne_true
    change ((List.range cfg.workerLimit).length : Int) = cfg.workerLimit + 0 +
      ((List.range cfg.workerLimit).countP _ : Nat)
    rw [hCount, List.length_range]
    simp

theorem pool_moves {monotonic utc : Nat} {ls : List (Label R)}
    (hRun : run cfg monotonic utc ls = some s) (hStop : s.stopping = false) :
    Relation.ReflTransGen (Pool.Move cfg.workerLimit) (initial R cfg monotonic utc).pool s.pool := by
  have hInv : StepRun.Invariant (step (R := R) cfg) fun s => (custody R cfg).Holds s ∧
      (s.stopping = false → s.pool.Placed ∧
        Relation.ReflTransGen (Pool.Move cfg.workerLimit) (initial R cfg monotonic utc).pool
          s.pool) := by
    refine (custody_invariant cfg).strengthen fun s l s' hs hMoved hStep hStop' => ?_
    have hOld : s.stopping = false := by
      cases hOld : s.stopping with
      | false => rfl
      | true => exact ((step_half hs hStep).lasting.stopping hOld).symm.trans hStop'
    obtain ⟨hPlaced, hMoves⟩ := hMoved hOld
    have hMove := step_pool hs hPlaced hStep hStop'
    exact ⟨hPlaced.move hMove, hMoves.tail hMove⟩
  exact ((hInv.run ⟨custody_initial cfg monotonic utc, fun _ =>
    ⟨(pool_initial cfg monotonic utc).placed, .refl⟩⟩ hRun).2 hStop).2

theorem pool_run {monotonic utc : Nat} {ls : List (Label R)}
    (hRun : run cfg monotonic utc ls = some s) (hStop : s.stopping = false) :
    s.pool.Sound cfg.workerLimit := by
  have hMoves := pool_moves hRun hStop
  generalize s.pool = pool at hMoves ⊢
  induction hMoves with
  | refl => exact pool_initial cfg monotonic utc
  | tail _ hMove ih => exact ih.move hMove

end Sniff4Hound.Jobs
