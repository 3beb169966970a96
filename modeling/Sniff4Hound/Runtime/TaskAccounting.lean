import Sniff4Hound.Library.WorkerPool
import Sniff4Hound.Runtime.JobContract
import Sniff4Hound.Runtime.JobCustody

/-!
# The tasks of the job queue

`queue.Queue` counts in `unfinished_tasks` what was put and not yet marked done. An item leaves
the queue to a worker, to the drain of `shutdown`, or by a discard that marks it done at once.
One step moves one thread, so that its entry in the accounts says all about it (`Entry`): the
counter and the queue change by what the thread takes or marks.

* `unfinished_counts`: the counter is the items queued and those taken, in every state.
-/

namespace Sniff4Hound.Jobs

open WorkerPool

variable {R : Type} {cfg : Config} {s s' s₁ : State R} {t : ThreadId}

/-! ## Who owes a `task_done` -/

/-- The positions of a worker between `get` and `task_done`. -/
def Main.works : Main R → Bool
  | .workSentinel | .workStopping _ | .workStopSettle _ | .workAcquire _ | .workCheck _
  | .workSkip _ | .workStart _ | .workClock _ | .workRegister _ | .workRelease _
  | .workHandler _ | .workSettle _ | .workTaskDone _ => true
  | _ => false

/-- The positions of `shutdown` between `get_nowait` and `task_done`. -/
def Main.drains : Main R → Bool
  | .stopSettle _ | .stopTaskDone _ => true
  | _ => false

def Main.owes (m : Main R) : Bool := m.works || m.drains

def State.taken (s : State R) : Nat :=
  (List.range s.nextThread).countP fun t => (s.threads t).main.owes

/-- Those among them that `shutdown` has taken. -/
def State.draining (s : State R) : Nat :=
  (List.range s.nextThread).countP fun t => (s.threads t).main.drains

theorem owes_afterSettle (m : Main R) : m.afterSettle.owes = m.owes := by
  cases m <;> rfl

/-! ## One step -/

/-- What a step of thread `t` does to the accounts. -/
structure Entry (t : ThreadId) (s s' : State R) : Prop where
  actor : t < s'.nextThread
  next : s.nextThread ≤ s'.nextThread
  others : ∀ u, u ≠ t → (s'.threads u).main.owes = (s.threads u).main.owes
  sum : s'.unfinished + s.queue.length + (s.threads t).main.owes.toNat =
    s.unfinished + s'.queue.length + (s'.threads t).main.owes.toNat

theorem Entry.emit (h : Entry t s s') (e : Event R) : Entry t s (s'.emit e) :=
  ⟨h.actor, h.next, h.others, h.sum⟩

theorem Entry.setThread {th : Thread R} (hIn : t < s.nextThread)
    (hThreads : s₁.threads = s.threads) (hNext : s₁.nextThread = s.nextThread)
    (hSum : s₁.unfinished + s.queue.length + (s.threads t).main.owes.toNat =
      s.unfinished + s₁.queue.length + th.main.owes.toNat) : Entry t s (s₁.setThread t th) := by
  refine ⟨?_, Nat.le_of_eq hNext.symm, fun u hu => ?_, ?_⟩
  · change t < s₁.nextThread
    rw [hNext]
    exact hIn
  · change (Function.update s₁.threads t th u).main.owes = _
    rw [Function.update_of_ne hu, hThreads]
  · change s₁.unfinished + _ + _ = _ + (s₁.queue.length : Int) +
      (Function.update s₁.threads t th t).main.owes.toNat
    rw [Function.update_self]
    exact hSum

theorem Entry.keep {th : Thread R} (hIn : t < s.nextThread) (hThreads : s₁.threads = s.threads)
    (hNext : s₁.nextThread = s.nextThread) (hQueue : s₁.queue = s.queue)
    (hUnfinished : s₁.unfinished = s.unfinished)
    (hOwes : th.main.owes = (s.threads t).main.owes) : Entry t s (s₁.setThread t th) := by
  apply Entry.setThread hIn hThreads hNext
  rw [hQueue, hUnfinished, hOwes]

theorem Entry.spawn (hSpare : s.threads s.nextThread = .at .unused) {m : Main R}
    (hOwes : m.owes = false) : Entry s.nextThread s (s.spawn m) := by
  refine ⟨Nat.lt_succ_self _, Nat.le_succ _, fun u hu => ?_, ?_⟩
  · change (Function.update s.threads s.nextThread _ u).main.owes = _
    rw [Function.update_of_ne hu]
  · change s.unfinished + s.queue.length + _ = s.unfinished + s.queue.length +
      ((Function.update s.threads s.nextThread (.at m) s.nextThread).main.owes.toNat : Int)
    rw [Function.update_self, hSpare]
    change _ = _ + (m.owes.toNat : Int)
    rw [hOwes]
    rfl

theorem Entry.submit (hSpare : s.threads s.nextThread = .at .unused) (kind : String)
    (persist : Bool) : Entry s.nextThread s (submit s kind persist) := by
  simp only [Jobs.submit]
  split
  · apply Entry.emit
    have hSpawn : Entry s.nextThread s (s.spawn .finished) := .spawn hSpare rfl
    exact ⟨hSpawn.actor, hSpawn.next, hSpawn.others, hSpawn.sum⟩
  · have hSpawn : Entry s.nextThread s (s.spawn (.submitWait s.nextJob persist)) :=
      .spawn hSpare rfl
    refine ⟨hSpawn.actor, hSpawn.next, hSpawn.others, ?_⟩
    have hSum := hSpawn.sum
    change s.unfinished + s.queue.length + _ = s.unfinished + s.queue.length + _ at hSum
    change s.unfinished + 1 + s.queue.length + _ =
      s.unfinished + ((s.queue ++ [some s.nextJob]).length : Int) +
        ((s.spawn (.submitWait s.nextJob persist)).threads s.nextThread).main.owes.toNat
    rw [List.length_append, List.length_singleton]
    push_cast
    omega

theorem unfinished_discard (s : State R) (j : JobId) :
    (discard s j).unfinished + s.queue.length = s.unfinished + (discard s j).queue.length := by
  unfold discard
  split
  · rename_i hMem
    have hLength := List.length_erase_of_mem hMem
    have hPos := List.length_pos_of_mem hMem
    change s.unfinished - 1 + (s.queue.length : Int) =
      s.unfinished + ((s.queue.erase (some j)).length : Int)
    omega
  · rfl

section Steps

variable {m : Main R}

theorem settleStep_entry {f : SettleFrame R} (hIn : t < s.nextThread)
    (hSpare : ∀ u, s.nextThread ≤ u → s.threads u = .at .unused)
    (hTh : s.threads t = ⟨m, some f, none⟩) (hStep : settleStep cfg s t m f = some s') :
    Entry t s s' := by
  have hOwes : m.owes = (s.threads t).main.owes := by rw [hTh]
  have hAfter : m.afterSettle.owes = (s.threads t).main.owes := by rw [owes_afterSettle, hOwes]
  unfold settleStep at hStep
  cases hAt : f.pc <;> simp only [hAt] at hStep
  case acquire =>
    split at hStep <;> cases hStep
    exact .keep hIn rfl rfl rfl rfl hOwes
  case check =>
    cases hStep
    exact .keep hIn rfl rfl rfl rfl hOwes
  case abandon =>
    split at hStep <;> cases hStep
    · -- the replacement enters at the top of its loop
      have hEntry : Entry t s ((s.setJob f.job { s.jobs f.job with abandoned := true }).setThread
          t ⟨m, some { f with pc := .write 0 }, none⟩) := .keep hIn rfl rfl rfl rfl hOwes
      refine ⟨Nat.lt_succ_of_lt hIn, Nat.le_succ _, fun u hu => ?_, ?_⟩
      · change (Function.update (Function.update s.threads s.nextThread _) t _ u).main.owes = _
        rw [Function.update_of_ne hu]
        by_cases hun : u = s.nextThread
        · rw [hun, Function.update_self, hSpare _ (Nat.le_refl _)]
          rfl
        · rw [Function.update_of_ne hun]
      · have hSum := hEntry.sum
        change _ = _ + ((Function.update s.threads t _ t).main.owes.toNat : Int) at hSum
        change _ = _ + ((Function.update
          (Function.update s.threads s.nextThread _) t _ t).main.owes.toNat : Int)
        rw [Function.update_self] at hSum ⊢
        exact hSum
    · exact .keep hIn rfl rfl rfl rfl hOwes
  case write n =>
    split at hStep <;> cases hStep
    · exact .keep hIn rfl rfl rfl rfl hOwes
    · exact .keep hIn rfl rfl rfl rfl hOwes
  case readPersisted =>
    cases hStep
    exact .keep hIn rfl rfl rfl rfl hOwes
  case setDone needsWrite =>
    cases hStep
    exact .keep hIn rfl rfl rfl rfl hOwes
  case release settled needsWrite =>
    split at hStep <;> cases hStep
    · exact .keep hIn rfl rfl rfl rfl hOwes
    · exact .keep hIn rfl rfl rfl rfl hAfter
  case persist =>
    split at hStep <;> cases hStep
    · exact .keep hIn rfl rfl rfl rfl hOwes
    · exact .keep hIn rfl rfl rfl rfl hOwes
  case upsert => cases hStep
  case broadcast =>
    cases hStep
    split
    · exact Entry.emit (.keep hIn rfl rfl rfl rfl hAfter) _
    · exact .keep hIn rfl rfl rfl rfl hAfter

theorem snapStep_entry {settle : Option (SettleFrame R)} {g : SnapFrame R}
    (hIn : t < s.nextThread) (hOk : (s.threads t).Custody s.stopping s.jobs)
    (hTh : s.threads t = ⟨m, settle, some g⟩) (hStep : snapStep s t m settle g = some s') :
    Entry t s s' := by
  have hOwes : m.owes = (s.threads t).main.owes := by rw [hTh]
  unfold snapStep at hStep
  split at hStep
  · cases hStep
    exact .keep hIn rfl rfl rfl rfl hOwes
  · dsimp only at hStep
    split at hStep <;> cases hStep
    · apply Entry.emit
      exact .keep hIn rfl rfl rfl rfl hOwes
    · apply Entry.emit
      apply Entry.emit
      exact .keep hIn rfl rfl rfl rfl hOwes
    · -- only `submit` and `get` take snapshots outside of `_settle`
      have hFinished : (Main.finished : Main R).owes = (s.threads t).main.owes := by
        rw [hTh] at hOk
        obtain ⟨j, hMain | hMain⟩ := hOk.reading g rfl rfl
        · rw [hTh, show m = .deferUpsert j from hMain]
          rfl
        · rw [hTh, show m = .getSnapshot j from hMain]
          rfl
      exact Entry.emit (.keep hIn rfl rfl rfl rfl hFinished) _

theorem mainStep_entry (hIn : t < s.nextThread) (hTh : s.threads t = .at m)
    (hStep : mainStep cfg s t m = some s') : Entry t s s' := by
  have hOwes : (s.threads t).main.owes = m.owes := by rw [hTh]; rfl
  -- what a step does that takes an item, and one that marks an item done
  have hTake : ∀ {x : Option JobId} {rest : List (Option JobId)} {th : Thread R},
      s.queue = x :: rest → m.owes = false → th.main.owes = true →
      Entry t s ({ s with queue := rest }.setThread t th) := by
    intro x rest th hQueue hOld hNew
    refine Entry.setThread hIn rfl rfl ?_
    rw [hOwes, hOld, hNew, hQueue, List.length_cons]
    change s.unfinished + (rest.length + 1 : Nat) + 0 = s.unfinished + (rest.length : Int) + 1
    omega
  have hMark : ∀ {m' : Main R}, m.owes = true → m'.owes = false →
      Entry t s (s.taskDone.goto t m') := by
    intro m' hOld hNew
    refine Entry.setThread hIn rfl rfl ?_
    change s.unfinished - 1 + _ + _ = s.unfinished + (s.queue.length : Int) + (m'.owes.toNat : Int)
    rw [hOwes, hOld, hNew]
    change s.unfinished - 1 + _ + 1 = _ + 0
    omega
  cases m <;> simp only [mainStep] at hStep <;> try cases hStep
  case submitWait j persist =>
    split at hStep <;> cases hStep
    exact .keep hIn rfl rfl rfl rfl hOwes.symm
  case readDiscard j =>
    apply Entry.setThread hIn
    · unfold discard
      split <;> rfl
    · unfold discard
      split <;> rfl
    · rw [hOwes, unfinished_discard]
      rfl
  case readForget j =>
    apply Entry.emit
    exact .keep hIn rfl rfl rfl rfl hOwes.symm
  case answerException j =>
    split at hStep <;> cases hStep
    · apply Entry.emit
      exact .keep hIn rfl rfl rfl rfl hOwes.symm
    · exact .keep hIn rfl rfl rfl rfl hOwes.symm
  case answerResult j =>
    apply Entry.emit
    exact .keep hIn rfl rfl rfl rfl hOwes.symm
  case deferAcquire j =>
    split at hStep <;> cases hStep
    exact .keep hIn rfl rfl rfl rfl hOwes.symm
  case deferCheck j =>
    split
    · exact .keep hIn rfl rfl rfl rfl hOwes.symm
    · exact .keep hIn rfl rfl rfl rfl hOwes.symm
  case deferException j =>
    split at hStep <;> cases hStep
    · exact .keep hIn rfl rfl rfl rfl hOwes.symm
    · exact .keep hIn rfl rfl rfl rfl hOwes.symm
  case deferAnswer j a =>
    apply Entry.emit
    exact .keep hIn rfl rfl rfl rfl hOwes.symm
  case deferPersist j =>
    split at hStep <;> cases hStep
    · exact .keep hIn rfl rfl rfl rfl hOwes.symm
    · apply Entry.emit
      exact .keep hIn rfl rfl rfl rfl hOwes.symm
  case workLoop =>
    split
    · exact .keep hIn rfl rfl rfl rfl hOwes.symm
    · exact .keep hIn rfl rfl rfl rfl hOwes.symm
  case workGet =>
    split at hStep <;> cases hStep
    · rename_i rest hQueue
      exact hTake hQueue rfl rfl
    · rename_i j rest hQueue
      exact hTake hQueue rfl rfl
  case workSentinel => exact hMark rfl rfl
  case workStopping j =>
    split at hStep <;> cases hStep
    · exact .keep hIn rfl rfl rfl rfl hOwes.symm
    · exact .keep hIn rfl rfl rfl rfl hOwes.symm
  case workAcquire j =>
    split at hStep <;> cases hStep
    exact .keep hIn rfl rfl rfl rfl hOwes.symm
  case workCheck j =>
    split
    · exact .keep hIn rfl rfl rfl rfl hOwes.symm
    · exact .keep hIn rfl rfl rfl rfl hOwes.symm
  case workSkip j => exact hMark rfl rfl
  case workTaskDone j => exact hMark rfl rfl
  case workRetire j =>
    split
    · exact .keep hIn rfl rfl rfl rfl hOwes.symm
    · exact .keep hIn rfl rfl rfl rfl hOwes.symm
  case watchWait =>
    split
    · exact .keep hIn rfl rfl rfl rfl hOwes.symm
    · exact .keep hIn rfl rfl rfl rfl hOwes.symm
  case watchNext overdue =>
    cases overdue with
    | nil =>
      cases hStep
      exact .keep hIn rfl rfl rfl rfl hOwes.symm
    | cons j rest =>
      cases hStep
      exact .keep hIn rfl rfl rfl rfl hOwes.symm
  case stopDrain n =>
    split at hStep <;> cases hStep
    · exact .keep hIn rfl rfl rfl rfl hOwes.symm
    · rename_i rest hQueue
      exact hTake hQueue rfl rfl
    · rename_i j rest hQueue
      exact hTake hQueue rfl rfl
  case stopTaskDone n => exact hMark rfl rfl
  case stopSentinels n =>
    cases n with
    | zero =>
      cases hStep
      exact .keep hIn rfl rfl rfl rfl hOwes.symm
    | succ n =>
      cases hStep
      refine Entry.setThread hIn rfl rfl ?_
      change s.unfinished + 1 + _ + _ = _ + ((s.queue ++ [none]).length : Int) + _
      rw [hOwes, List.length_append, List.length_singleton]
      push_cast
      change _ = _ + 0
      change _ + 0 = _
      omega
  case stopRest =>
    split at hStep <;> cases hStep
    · exact .keep hIn rfl rfl rfl rfl hOwes.symm
    · rename_i x rest hQueue
      refine Entry.setThread hIn rfl rfl ?_
      change s.unfinished - 1 + _ + _ = s.unfinished + (rest.length : Int) + _
      rw [hOwes, hQueue, List.length_cons]
      change _ + 0 = _ + 0
      push_cast
      omega
  case getLookup j =>
    split at hStep <;> cases hStep
    · exact .keep hIn rfl rfl rfl rfl hOwes.symm
    · apply Entry.emit
      exact .keep hIn rfl rfl rfl rfl hOwes.symm
  -- the others move the thread and leave the queue alone
  all_goals exact .keep hIn rfl rfl rfl rfl hOwes.symm

theorem upsertFails_entry (hIn : t < s.nextThread) (hStep : upsertFails s t = some s') :
    Entry t s s' := by
  unfold upsertFails at hStep
  rcases hTh : s.threads t with ⟨m, settle, snap⟩
  have hOwes : m.owes = (s.threads t).main.owes := by rw [hTh]
  simp only [hTh] at hStep
  cases snap with
  | none => cases hStep
  | some g =>
    dsimp only at hStep
    split at hStep
    · cases hStep
    · split at hStep <;> cases hStep
      · exact .keep hIn rfl rfl rfl rfl hOwes
      · apply Entry.emit
        exact .keep hIn rfl rfl rfl rfl hOwes

end Steps

/-! ## Runs -/

def Balanced (s : State R) : Prop := s.unfinished = s.queue.length + s.taken

theorem Balanced.entry (hSpare : ∀ u, s.nextThread ≤ u → s.threads u = .at .unused)
    (h : Balanced s) (hEntry : Entry t s s') : Balanced s' := by
  have hMem : t ∈ List.range s'.nextThread := List.mem_range.mpr hEntry.actor
  have hChange := Pool.countP_change (f := fun u => (s.threads u).main.owes)
    (g := fun u => (s'.threads u).main.owes) hMem List.nodup_range hEntry.others
  -- the threads that were not there before owed nothing
  have hOld : (List.range s'.nextThread).countP (fun u => (s.threads u).main.owes) = s.taken := by
    obtain ⟨n, hn⟩ := Nat.exists_eq_add_of_le hEntry.next
    rw [hn, List.range_add, List.countP_append, State.taken]
    have hNone : ((List.range n).map (s.nextThread + ·)).countP
        (fun u => (s.threads u).main.owes) = 0 := by
      rw [List.countP_eq_zero]
      intro u hu
      obtain ⟨i, -, rfl⟩ := List.mem_map.mp hu
      rw [hSpare _ (Nat.le_add_right _ _)]
      nofun
    rw [hNone, Nat.add_zero]
  have hSum := hEntry.sum
  rw [hOld] at hChange
  unfold Balanced at h ⊢
  change (s'.taken : Nat) + _ = _ at hChange
  omega

theorem step_balanced (hs : (custody R cfg).Holds s) (h : Balanced s) {l : Label R}
    (hStep : step cfg s l = some s') : Balanced s' := by
  have hSpare := hs.1.2.spare
  have hLast := hSpare _ (Nat.le_refl _)
  cases l <;> simp only [step] at hStep
  case tick m u =>
    cases hStep
    exact h
  case submit kind persist =>
    cases hStep
    exact h.entry hSpare (.submit hLast kind persist)
  case get j =>
    cases hStep
    exact h.entry hSpare (.spawn hLast rfl)
  case shutdown =>
    cases hStep
    exact h.entry hSpare (.spawn hLast rfl)
  case reap cutoff =>
    cases hStep
    exact h
  case run t =>
    rcases hTh : s.threads t with ⟨m, settle, snap⟩
    simp only [threadStep, hTh] at hStep
    have hIn : t < s.nextThread := by
      apply hs.1.2.started
      rw [hTh]
      rintro ⟨⟩
      cases hStep
    cases snap with
    | some g => exact h.entry hSpare (snapStep_entry hIn (hs.2 t).2 hTh hStep)
    | none =>
      cases settle with
      | some f => exact h.entry hSpare (settleStep_entry hIn hSpare hTh hStep)
      | none => exact h.entry hSpare (mainStep_entry hIn hTh hStep)
  case waitTimesOut t =>
    unfold waitTimesOut at hStep
    split at hStep
    · rename_i j persist hTh
      have hIn := hs.1.2.started (t := t) (by rw [hTh]; rintro ⟨⟩)
      have hOwes : false = (s.threads t).main.owes := by rw [hTh]; rfl
      split at hStep
      · cases hStep
      · split at hStep <;> cases hStep
        · exact h.entry hSpare (.keep hIn rfl rfl rfl rfl hOwes)
        · exact h.entry hSpare (.keep hIn rfl rfl rfl rfl hOwes)
    · cases hStep
  case handlerReturns t o =>
    unfold handlerReturns at hStep
    split at hStep
    · rename_i j hTh
      have hIn := hs.1.2.started (t := t) (by rw [hTh]; rintro ⟨⟩)
      have hOwes : true = (s.threads t).main.owes := by rw [hTh]; rfl
      cases hStep
      apply h.entry hSpare
      apply Entry.emit
      exact .keep hIn rfl rfl rfl rfl hOwes
    · cases hStep
  case upsertFails t =>
    refine h.entry hSpare (upsertFails_entry ?_ hStep)
    apply hs.1.2.started
    intro hTh
    unfold upsertFails at hStep
    rw [hTh] at hStep
    cases hStep

theorem balanced_initial (cfg : Config) (monotonic utc : Nat) :
    Balanced (initial R cfg monotonic utc) := by
  have hNone : (initial R cfg monotonic utc).taken = 0 := by
    rw [State.taken, List.countP_eq_zero]
    intro t _
    change ¬ (Thread.main (ite _ _ _)).owes = true
    split
    · nofun
    · split <;> nofun
  rw [Balanced, hNone]
  rfl

theorem draining_eq_zero (hs : (custody R cfg).Holds s) (hStop : s.stopping = false) :
    s.draining = 0 := by
  rw [State.draining, List.countP_eq_zero]
  intro t _ hDrains
  have hMain : (s.threads t).main.Custody s.stopping s.jobs := (hs.2 t).2.main
  rw [hStop] at hMain
  cases hAt : (s.threads t).main <;> rw [hAt] at hDrains hMain <;> cases hDrains
  · cases hMain
  · cases hMain

/-- In every state of every run: `unfinished_tasks` is the number of the items queued and of those
taken and not yet marked done; it is not negative, and stays so with the next step, so that no
`task_done` raises; and with an empty queue and idle workers it is what a `shutdown` has taken
and is about to mark, which is nothing as long as the queue is not shut down. -/
theorem unfinished_counts {monotonic utc : Nat} {ls : List (Label R)}
    (hRun : run cfg monotonic utc ls = some s) :
    s.unfinished = s.queue.length + s.taken ∧
    (0 ≤ s.unfinished ∧ ∀ l s', step cfg s l = some s' → 0 ≤ s'.unfinished) ∧
    (s.queue = [] → (∀ t, (s.threads t).main.works = false) →
      s.unfinished = s.draining ∧ (s.stopping = false → s.unfinished = 0)) := by
  have hInv : StepRun.Invariant (step (R := R) cfg) fun s =>
      (custody R cfg).Holds s ∧ Balanced s :=
    (custody_invariant cfg).strengthen fun _ _ _ hs h hStep => step_balanced hs h hStep
  have hBoth := hInv.run ⟨custody_initial cfg monotonic utc, balanced_initial cfg monotonic utc⟩
    hRun
  have hSum := hBoth.2
  have hNonneg : ∀ u : State R, Balanced u → 0 ≤ u.unfinished := by
    intro u hu
    rw [Balanced] at hu
    omega
  refine ⟨hSum, ⟨hNonneg s hSum, fun l s' hStep => ?_⟩, fun hQueue hIdle => ?_⟩
  · exact hNonneg s' (hInv s l s' hBoth hStep).2
  · have hTaken : s.taken = s.draining := by
      rw [State.taken, State.draining]
      apply List.countP_congr
      intro t _
      rw [Main.owes, hIdle t, Bool.false_or]
    have hDraining : s.unfinished = s.draining := by
      rw [hSum, hQueue, hTaken]
      exact Int.zero_add _
    refine ⟨hDraining, fun hStop => ?_⟩
    rw [hDraining, draining_eq_zero hBoth.1 hStop]
    rfl

def expiredRead : List (Label Nat) :=
  [.submit "monitors.list" false] ++ List.replicate 9 (.run 0) ++
    [.submit "monitors.list" false, .waitTimesOut 3] ++ List.replicate 13 (.run 3)

theorem unfinished_counts_expiredRead : ∃ s : State Nat, run oneWorker 1 1 expiredRead = some s ∧
    s.queue = [] ∧ s.taken = 1 ∧ s.unfinished = s.queue.length + s.taken ∧ 0 ≤ s.unfinished := by
  have hFacts : (run oneWorker 1 1 expiredRead).map (fun s => (s.queue, s.taken)) =
      some ([], 1) := by decide
  obtain ⟨s, hRun, hSame⟩ := Option.map_eq_some_iff.mp hFacts
  obtain ⟨hQueue, hTaken⟩ := Prod.mk.inj hSame
  obtain ⟨hSum, hNonneg, -⟩ := unfinished_counts hRun
  exact ⟨s, hRun, hQueue, hTaken, hSum, hNonneg.1⟩

end Sniff4Hound.Jobs
