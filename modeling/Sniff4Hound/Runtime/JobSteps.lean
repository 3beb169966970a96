import Sniff4Hound.Runtime.JobOutline

/-!
# Every step of the job queue keeps the outline

The first section says once what has to be shown for each shape of step: a thread moves
and the rest stays (`moves_setThread`), a thread moves and rewrites its job
(`moves_setJob`), with or without an entry of the log. The sections after it go through
`settleStep`, `snapStep`, `mainStep` and the labels from outside.
-/

namespace Sniff4Hound.Jobs

open RelyGuarantee

variable {R : Type} {cfg : Config} {s s' : State R} {t : ThreadId}

/-! ## Shapes of steps -/

/-- `s₁` is `s` up to the queue, the registry, the running jobs and the counters. -/
structure SameCore (s s₁ : State R) : Prop where
  jobs : s₁.jobs = s.jobs
  nextJob : s₁.nextJob = s.nextJob
  rows : s₁.rows = s.rows
  log : s₁.log = s.log
  threads : s₁.threads = s.threads

theorem SameCore.refl (s : State R) : SameCore s s := ⟨rfl, rfl, rfl, rfl, rfl⟩

variable {n : Nat} {m : Main R}

theorem Thread.known_at (h : ∀ j ∈ m.names, j < n) :
    (Thread.at m).Known n := ⟨h, nofun, nofun⟩

variable {jobs : JobId → Job R}

theorem Thread.ok_at (h : m.Ok t jobs) :
    (Thread.at m).Ok t jobs := ⟨h, nofun, nofun⟩

theorem settledCount_append (j : JobId) (log evs : List (Event R)) :
    settledCount j (log ++ evs) = settledCount j log + settledCount j evs :=
  List.countP_append

variable (hs : (outline R cfg).Holds s)

include hs

theorem moves_quiet (evs : List (Event R))
    (hJobs : s'.jobs = s.jobs) (hNext : s'.nextJob = s.nextJob) (hKnown : KnownState s')
    (hRows : ∀ j sn, s'.rows j = some sn → SnapOk 6 sn (s.jobs j))
    (hLog : s'.log = s.log ++ evs) (hEvs : ∀ e ∈ evs, e.Ok cfg s.jobs)
    (hNone : ∀ j, settledCount j evs = 0)
    (hSelf : (s'.threads t).Known s.nextJob ∧ (s'.threads t).Ok t s.jobs)
    (hOthers : ∀ u, u ≠ t → s'.threads u = s.threads u ∨ s'.threads u = .at .workLoop) :
    (outline R cfg).Moves t s s' := by
  have hShared : Shared cfg s := hs.1
  refine ⟨⟨fun j => by rw [hJobs]; exact .refl t _, Nat.le_of_eq hNext.symm⟩, ?_, ?_, ?_⟩
  · refine ⟨hKnown, ?_, ?_, ?_, ?_, ?_, ?_⟩
    · rw [hJobs, hNext]
      exact hShared.blank
    · rw [hJobs]
      exact hShared.idle
    · rw [hJobs]
      exact hShared.complete
    · rw [hJobs]
      exact hRows
    · rw [hJobs, hLog]
      intro e he
      rcases List.mem_append.mp he with he | he
      · exact hShared.log e he
      · exact hEvs e he
    · intro j
      rw [hJobs, hLog, settledCount_append, hNone, Nat.add_zero]
      exact hShared.count j
  · change _ ∧ _
    rw [hNext, hJobs]
    exact hSelf
  · intro u hu
    rcases hOthers u hu with h | h
    · exact Or.inl h
    · refine Or.inr ?_
      change (s'.threads u).Known _ ∧ (s'.threads u).Ok u _
      rw [h]
      exact ⟨Thread.known_at (by simp [Main.names]), Thread.ok_at trivial⟩

variable {s₁ : State R} {th : Thread R}

theorem moves_setThread (hCore : SameCore s s₁)
    (hKnown : KnownState s₁) (hTh : th.Known s.nextJob ∧ th.Ok t s.jobs) :
    (outline R cfg).Moves t s (s₁.setThread t th) := by
  refine moves_quiet hs [] hCore.jobs hCore.nextJob ⟨hKnown.registry, hKnown.queue, hKnown.running⟩
    ?_ (by simp [State.setThread, hCore.log]) (by simp) (by simp [settledCount]) ?_ ?_
  · intro j sn h
    exact hs.1.rows j sn (by simpa [State.setThread, hCore.rows] using h)
  · simpa [State.setThread] using hTh
  · intro u hu
    exact Or.inl (by simp [State.setThread, hu, hCore.threads])

theorem moves_goto (hCore : SameCore s s₁) (hKnown : KnownState s₁)
    (hNames : ∀ j ∈ m.names, j < s.nextJob) (hOk : m.Ok t s.jobs) :
    (outline R cfg).Moves t s (s₁.goto t m) :=
  moves_setThread hs hCore hKnown ⟨Thread.known_at hNames, Thread.ok_at hOk⟩

theorem moves_setThread_emit (hCore : SameCore s s₁)
    (hKnown : KnownState s₁) (hTh : th.Known s.nextJob ∧ th.Ok t s.jobs) {e : Event R}
    (hE : e.Ok cfg s.jobs) (hNone : ∀ j, isSettled j e = false) :
    (outline R cfg).Moves t s ((s₁.setThread t th).emit e) := by
  refine moves_quiet hs [e] hCore.jobs hCore.nextJob
    ⟨hKnown.registry, hKnown.queue, hKnown.running⟩
    ?_ (by simp [State.emit, State.setThread, hCore.log]) (by simpa using hE)
    (fun j => by simp [settledCount, hNone]) ?_ ?_
  · intro j sn h
    exact hs.1.rows j sn (by simpa [State.emit, State.setThread, hCore.rows] using h)
  · simpa [State.emit, State.setThread] using hTh
  · intro u hu
    exact Or.inl (by simp [State.emit, State.setThread, hu, hCore.threads])

theorem moves_goto_emit (hCore : SameCore s s₁)
    (hKnown : KnownState s₁) (hNames : ∀ j ∈ m.names, j < s.nextJob) (hOk : m.Ok t s.jobs)
    {e : Event R} (hE : e.Ok cfg s.jobs) (hNone : ∀ j, isSettled j e = false) :
    (outline R cfg).Moves t s ((s₁.goto t m).emit e) :=
  moves_setThread_emit hs hCore hKnown ⟨Thread.known_at hNames, Thread.ok_at hOk⟩ hE hNone

variable {j : JobId} {job : Job R}

theorem moves_job (evs : List (Event R)) (hj : j < s'.nextJob)
    (hJobs : s'.jobs = Function.update s.jobs j job) (hNext : s.nextJob ≤ s'.nextJob)
    (hKnown : KnownState s') (hRows : s'.rows = s.rows) (hGuar : GuarJob t (s.jobs j) job)
    (hIdle : job.lock = none → Idle job) (hComplete : Complete job) (hLog : s'.log = s.log ++ evs)
    (hEvs : ∀ e ∈ evs, e.Ok cfg s'.jobs)
    (hCount : ∀ k, settledCount k evs + (if (s.jobs k).done then 1 else 0) =
      if (s'.jobs k).done then 1 else 0)
    (hSelf : (s'.threads t).Known s'.nextJob ∧ (s'.threads t).Ok t s'.jobs)
    (hOthers : ∀ u, u ≠ t → s'.threads u = s.threads u ∨ s'.threads u = .at .workLoop) :
    (outline R cfg).Moves t s s' := by
  have hShared : Shared cfg s := hs.1
  have hAll : ∀ k, GuarJob t (s.jobs k) (s'.jobs k) := by
    intro k
    rw [hJobs]
    by_cases hk : k = j
    · subst hk
      simpa using hGuar
    · simpa [hk] using GuarJob.refl t (s.jobs k)
  refine ⟨⟨hAll, hNext⟩, ?_, hSelf, ?_⟩
  · refine ⟨hKnown, ?_, ?_, ?_, ?_, ?_, ?_⟩
    · intro k hk
      have hkj : k ≠ j := fun h => Nat.not_lt.mpr hk (h ▸ hj)
      rw [hJobs, Function.update_of_ne hkj]
      exact hShared.blank k (Nat.le_trans hNext hk)
    · intro k hk
      rw [hJobs] at hk ⊢
      by_cases hkj : k = j
      · subst hkj
        simp only [Function.update_self] at hk ⊢
        exact hIdle hk
      · rw [Function.update_of_ne hkj] at hk ⊢
        exact hShared.idle k hk
    · intro k
      rw [hJobs]
      by_cases hkj : k = j
      · subst hkj
        simpa only [Function.update_self] using hComplete
      · rw [Function.update_of_ne hkj]
        exact hShared.complete k
    · intro k sn h
      rw [hRows] at h
      exact (hShared.rows k sn h).guar (hAll k)
    · rw [hLog]
      intro e he
      rcases List.mem_append.mp he with he | he
      · exact (hShared.log e he).guar hAll
      · exact hEvs e he
    · intro k
      rw [hLog, settledCount_append, hShared.count k, Nat.add_comm]
      exact hCount k
  · intro u hu
    rcases hOthers u hu with h | h
    · exact Or.inl h
    · refine Or.inr ?_
      change (s'.threads u).Known _ ∧ (s'.threads u).Ok u _
      rw [h]
      exact ⟨Thread.known_at (by simp [Main.names]), Thread.ok_at trivial⟩

omit hs in
theorem count_same (h : job.done = (jobs j).done) (k : JobId) :
    (Function.update jobs j job k).done = (jobs k).done := by
  by_cases hk : k = j
  · subst hk
    simpa using h
  · simp [hk]

theorem moves_setJob (hj : j < s.nextJob)
    (hGuar : GuarJob t (s.jobs j) job) (hIdle : job.lock = none → Idle job)
    (hSame : job.done = (s.jobs j).done) (hComplete : Complete job) (hKnown : th.Known s.nextJob)
    (hOk : th.Ok t (Function.update s.jobs j job)) :
    (outline R cfg).Moves t s ((s.setJob j job).setThread t th) := by
  have hk := hs.1.known
  refine moves_job hs [] hj rfl (Nat.le_refl _) ⟨hk.registry, hk.queue, hk.running⟩
    rfl hGuar hIdle hComplete
    (by simp [State.setThread, State.setJob]) (by simp) (fun k => ?_) ?_ ?_
  · simp [State.setThread, State.setJob, settledCount, count_same hSame]
  · simp only [State.setThread, State.setJob, Function.update_self]
    exact ⟨hKnown, hOk⟩
  · intro u hu
    exact Or.inl (by simp [State.setThread, State.setJob, hu])

theorem self_ok (hTh : s.threads t = th) : th.Known s.nextJob ∧ th.Ok t s.jobs := by
  subst hTh
  exact hs.2 t

omit hs

/-! ## Steps inside `_settle` -/

theorem Idle.congr {job' : Job R} (h : Idle job) (hSame : SameOutcome job job')
    (hDone : job'.done = job.done) : Idle job' := by
  rcases h with ⟨h, hNot⟩ | ⟨o, h, hSet⟩
  · exact Or.inl ⟨h.congr hSame, hDone.trans hNot⟩
  · exact Or.inr ⟨o, h.congr hSame, hDone.trans hSet⟩

/-- The holder of the lock, or a thread that finds it free, may change anything that is not
part of the outcome. -/
theorem GuarJob.of_same {job' : Job R} (hLock : job.lock = none ∨ job.lock = some t)
    (hSame : SameOutcome job job') (hDone : job'.done = job.done) : GuarJob t job job' := by
  refine ⟨fun u hu hu' => ?_, fun h => hDone.trans h, fun _ => hSame, fun _ => hSame.result⟩
  rcases hLock with h | h <;> rw [h] at hu'
  · cases hu'
  · exact absurd (Option.some.inj hu').symm hu

theorem Main.CallsSettle.ok (h : m.CallsSettle) : m.Ok t jobs := by
  cases m <;> trivial

theorem Main.CallsSettle.afterSettle (h : m.CallsSettle) : m.afterSettle.Ok t jobs := by
  cases m <;> trivial

theorem afterSettle_names (m : Main R) : ∀ j ∈ m.afterSettle.names, j ∈ m.names := by
  cases m <;> simp [Main.afterSettle, Main.names]

theorem frame_ok {f : SettleFrame R} (jobs' : JobId → Job R) (pc : SettlePc)
    (hTh : th = ⟨m, some f, none⟩) (h : th.Known n ∧ th.Ok t jobs)
    (hPc : pc.Ok t f.outcome (jobs' f.job)) :
    (⟨m, some { f with pc := pc }, none⟩ : Thread R).Known n ∧
      (⟨m, some { f with pc := pc }, none⟩ : Thread R).Ok t jobs' := by
  subst hTh
  obtain ⟨hKnown, hOk⟩ := h
  obtain ⟨hCalls, hFrame⟩ := hOk.settle f rfl
  refine ⟨⟨hKnown.main, ?_, nofun⟩, hCalls.ok, ?_, nofun⟩
  · rintro g ⟨⟩
    exact hKnown.settle f rfl
  · rintro g ⟨⟩
    exact ⟨hCalls, hFrame.1, hPc⟩

section Settle

variable {m : Main R} {f : SettleFrame R} (hs : (outline R cfg).Holds s)

include hs

variable (hTh : s.threads t = ⟨m, some f, none⟩)

include hTh

theorem moves_frame {pc : SettlePc} (hPc : pc.Ok t f.outcome (s.jobs f.job)) :
    (outline R cfg).Moves t s (s.setThread t ⟨m, some { f with pc := pc }, none⟩) :=
  moves_setThread hs (.refl s) hs.1.known (frame_ok s.jobs pc rfl (self_ok hs hTh) hPc)

theorem moves_frame_setJob {job : Job R} {pc : SettlePc}
    (hGuar : GuarJob t (s.jobs f.job) job) (hIdle : job.lock = none → Idle job)
    (hSame : job.done = (s.jobs f.job).done) (hComplete : Complete job)
    (hPc : pc.Ok t f.outcome job) :
    (outline R cfg).Moves t s
      ((s.setJob f.job job).setThread t ⟨m, some { f with pc := pc }, none⟩) := by
  have hSelf := self_ok hs hTh
  obtain ⟨hKnown, hOk⟩ := frame_ok (Function.update s.jobs f.job job) pc rfl hSelf
    (by simpa using hPc)
  exact moves_setJob hs (hSelf.1.settle f rfl) hGuar hIdle hSame hComplete hKnown hOk

theorem setDone_moves (hLock : (s.jobs f.job).lock = some t) (hDone : (s.jobs f.job).done = false)
    (hWritten : Written f.outcome (s.jobs f.job)) (needsWrite : Bool) :
    (outline R cfg).Moves t s
      (((s.setJob f.job { s.jobs f.job with done := true }).emit
        (.settled f.job f.outcome f.timedOut)).setThread t
          ⟨m, some { f with pc := .release true needsWrite }, none⟩) := by
  have hSelf := self_ok hs hTh
  have hKnown := hs.1.known
  have hSame : SameOutcome (s.jobs f.job) { s.jobs f.job with done := true } :=
    ⟨rfl, rfl, rfl, rfl, rfl, rfl⟩
  have hSet : SettledAs f.outcome { s.jobs f.job with done := true } :=
    ⟨hWritten.congr hSame, rfl⟩
  refine moves_job hs [.settled f.job f.outcome f.timedOut] (hSelf.1.settle f rfl) rfl
    (Nat.le_refl _)
    ⟨hKnown.registry, hKnown.queue, hKnown.running⟩ rfl ?_ ?_ hSet.1.complete rfl ?_ ?_ ?_ ?_
  · refine ⟨fun u hu hu' => ?_, fun _ => rfl, fun _ => hSame, fun _ => rfl⟩
    rw [hLock] at hu'
    exact absurd (Option.some.inj hu').symm hu
  · intro h
    rw [show _ = _ from hLock] at h
    cases h
  · simp only [List.mem_singleton, forall_eq]
    refine ⟨?_, (hSelf.2.settle f rfl).2.1⟩
    simpa [State.setThread, State.emit, State.setJob] using hSet
  · intro k
    by_cases hk : k = f.job
    · subst hk
      simp [settledCount, isSettled, State.setThread, State.emit, State.setJob, hDone]
    · have hk' : ¬ f.job = k := fun h => hk h.symm
      simp [settledCount, isSettled, State.setThread, State.emit, State.setJob, hk, hk']
  · obtain ⟨hKnown', hOk'⟩ := frame_ok
      (Function.update s.jobs f.job { s.jobs f.job with done := true })
      (.release true needsWrite) rfl hSelf (by
        rw [Function.update_self]
        exact ⟨hLock, Or.inr ⟨_, hSet⟩⟩)
    simpa [State.setThread, State.emit, State.setJob] using And.intro hKnown' hOk'
  · intro u hu
    exact Or.inl (by simp [State.setThread, State.emit, State.setJob, hu])

theorem abandon_moves (hOpen : OpenOk t (s.jobs f.job)) :
    (outline R cfg).Moves t s
      ((startWorker { s.setJob f.job { s.jobs f.job with abandoned := true } with
          surplus := s.surplus + 1 }).setThread t
        ⟨m, some { f with pc := .write 0 }, none⟩) := by
  have hSelf := self_ok hs hTh
  have hKnown := hs.1.known
  have hSame : SameOutcome (s.jobs f.job) { s.jobs f.job with abandoned := true } :=
    ⟨rfl, rfl, rfl, rfl, rfl, rfl⟩
  refine moves_job hs [] (hSelf.1.settle f rfl) rfl
    (Nat.le_refl _)
    ⟨hKnown.registry, hKnown.queue, hKnown.running⟩ rfl (.of_same (Or.inr hOpen.1) hSame rfl)
    (fun _ => Idle.congr hOpen.look.2 hSame rfl)
    ((hOpen.2.1.complete hOpen.2.2).congr hSame rfl) ?_ (by simp) ?_ ?_ ?_
  · simp [State.setThread, startWorker, State.goto, State.setJob]
  · intro k
    have hSameDone : (Function.update s.jobs f.job { s.jobs f.job with abandoned := true } k).done =
        (s.jobs k).done := by
      apply count_same
      rfl
    simp [State.setThread, startWorker, State.goto, State.setJob, settledCount, hSameDone]
  · obtain ⟨hKnown', hOk'⟩ := frame_ok
      (Function.update s.jobs f.job { s.jobs f.job with abandoned := true }) (.write 0) rfl hSelf
        (by
        simpa using ⟨hOpen.1, hOpen.2.2, partlyWritten_zero (hOpen.2.1.congr hSame)⟩)
    simpa [State.setThread, startWorker, State.goto, State.setJob] using And.intro hKnown' hOk'
  · intro u hu
    by_cases hn : u = s.nextThread
    · refine Or.inr ?_
      subst hn
      simp [State.setThread, startWorker, State.goto, State.setJob, hu]
    · exact Or.inl (by simp [State.setThread, startWorker, State.goto, State.setJob, hu, hn])

theorem release_moves (hLook : LookOk t (s.jobs f.job)) (needsWrite : Bool) :
    (outline R cfg).Moves t s
      (if needsWrite then (s.setJob f.job { s.jobs f.job with lock := none }).setThread t
          ⟨m, some { f with pc := .persist }, none⟩
        else (s.setJob f.job { s.jobs f.job with lock := none }).goto t m.afterSettle) := by
  have hSelf := self_ok hs hTh
  have hSame : SameOutcome (s.jobs f.job) { s.jobs f.job with lock := none } :=
    ⟨rfl, rfl, rfl, rfl, rfl, rfl⟩
  have hGuar : GuarJob t (s.jobs f.job) { s.jobs f.job with lock := none } :=
    .of_same (Or.inr hLook.1) hSame rfl
  have hIdle : Idle { s.jobs f.job with lock := none } := hLook.2.congr hSame rfl
  split
  · exact moves_frame_setJob hs hTh hGuar (fun _ => hIdle) rfl hIdle.complete trivial
  · exact moves_setJob hs (hSelf.1.settle f rfl) hGuar (fun _ => hIdle) rfl hIdle.complete
      (Thread.known_at fun j hj => hSelf.1.main j (afterSettle_names m j hj))
      (Thread.ok_at (hSelf.2.settle f rfl).1.afterSettle)

omit hTh

omit hs

theorem snapOk_start (j : JobId) (job : Job R) : (startSnap j job).Ok (fun _ => job) where
  status := nofun
  resultOf h := absurd rfl h
  result _ h := absurd h (by simp [startSnap])
  error _ h := absurd h (by simp [startSnap])
  errorType _ h := absurd h (by simp [startSnap])
  finishedAt _ h := absurd h (by simp [startSnap])

theorem settleStep_moves (hs : (outline R cfg).Holds s)
    (hTh : s.threads t = ⟨m, some f, none⟩) (hStep : settleStep cfg s t m f = some s') :
    (outline R cfg).Moves t s s' := by
  have hSelf := self_ok hs hTh
  obtain ⟨hCalls, hTimedOut, hPc⟩ := hSelf.2.settle f rfl
  have hj : f.job < s.nextJob := hSelf.1.settle f rfl
  unfold settleStep at hStep
  cases hAt : f.pc <;> simp only [hAt] at hStep hPc
  case acquire =>
    split at hStep
    · rename_i hLock
      cases hStep
      have hIdle := hs.1.idle f.job hLock
      have hSame : SameOutcome (s.jobs f.job) { s.jobs f.job with lock := some t } :=
        ⟨rfl, rfl, rfl, rfl, rfl, rfl⟩
      exact moves_frame_setJob hs hTh (.of_same (Or.inl hLock) hSame rfl) nofun rfl
        (hIdle.congr hSame rfl).complete ⟨rfl, hIdle.congr hSame rfl⟩
    · cases hStep
  case check =>
    cases hStep
    refine moves_frame hs hTh ?_
    split
    · exact hPc
    · rename_i hDone
      have hNot : (s.jobs f.job).done = false := by simpa using hDone
      exact ⟨hPc.1, hPc.2.of_not_done hNot, hNot⟩
  case abandon =>
    split at hStep <;> cases hStep
    · exact abandon_moves hs hTh hPc
    · exact moves_frame hs hTh ⟨hPc.1, hPc.2.2, partlyWritten_zero hPc.2.1⟩
  case write n =>
    obtain ⟨hLock, hDone, hPart⟩ := hPc
    split at hStep
    · rename_i w hw
      cases hStep
      obtain ⟨hFrameDone, hFrameLock⟩ := settleWrites_frame hw (s.jobs f.job)
      obtain ⟨hOpen, hResult⟩ := hPart.open hw
      refine moves_frame_setJob hs hTh ⟨fun u hu hu' => ?_, fun h => ?_, fun h => ?_, hResult⟩
        (fun h => ?_) hFrameDone ((hPart.write hw).complete (hFrameDone.trans hDone))
        ⟨hFrameLock.trans hLock, hFrameDone.trans hDone, hPart.write hw⟩
      · rw [hLock] at hu'
        exact absurd (Option.some.inj hu').symm hu
      · rw [hDone] at h
        cases h
      · exact absurd h hOpen
      · rw [hFrameLock, hLock] at h
        cases h
    · rename_i hw
      cases hStep
      exact moves_frame hs hTh ⟨hLock, hDone, hPart.written hw⟩
  case readPersisted =>
    cases hStep
    exact moves_frame hs hTh hPc
  case setDone needsWrite =>
    cases hStep
    exact setDone_moves hs hTh hPc.1 hPc.2.1 hPc.2.2 needsWrite
  case release settled needsWrite =>
    have h := release_moves hs hTh hPc needsWrite
    cases needsWrite <;> cases hStep <;> exact h
  case persist =>
    split at hStep <;> cases hStep
    · refine moves_setThread hs (.refl s) hs.1.known ⟨⟨hSelf.1.main, ?_, ?_⟩, hCalls.ok, ?_, ?_⟩
      · rintro g ⟨⟩
        exact hj
      · rintro g ⟨⟩
        exact hj
      · rintro g ⟨⟩
        exact ⟨hCalls, hTimedOut, trivial⟩
      · rintro g ⟨⟩
        exact snapOk_start f.job (s.jobs f.job)
    · exact moves_frame hs hTh trivial
  case upsert => cases hStep
  case broadcast =>
    have hNames : ∀ j ∈ m.afterSettle.names, j < s.nextJob := fun j hj' =>
      hSelf.1.main j (afterSettle_names m j hj')
    split at hStep <;> cases hStep
    · exact moves_goto_emit hs (.refl s) hs.1.known hNames hCalls.afterSettle trivial (fun _ => rfl)
    · exact moves_goto hs (.refl s) hs.1.known hNames hCalls.afterSettle

end Settle

/-! ## Steps inside `snapshot` -/

/-- Each read of `snapshot` keeps what is known; the second one, of `result`, comes after
the one of `status`. -/
theorem SnapOk.read {sn : Snapshot R} {read : Job R → Snapshot R → Snapshot R} (h : SnapOk n sn job)
    (hRead : (snapReads R)[n]? = some read) : SnapOk (n + 1) (read job sn) job := by
  match n, hRead with
  | 0, rfl => exact ⟨fun _ => rfl, h.resultOf, nofun, nofun, nofun, nofun⟩
  | 1, rfl => exact ⟨h.status, fun _ => rfl, fun _ _ => rfl, nofun, nofun, nofun⟩
  | 2, rfl =>
    exact ⟨h.status, h.resultOf, fun hf _ => h.result hf (by omega), fun _ _ => rfl, nofun, nofun⟩
  | 3, rfl =>
    exact ⟨h.status, h.resultOf, fun hf _ => h.result hf (by omega),
      fun hf _ => h.error hf (by omega), fun _ _ => rfl, nofun⟩
  | 4, rfl =>
    exact ⟨h.status, h.resultOf, fun hf _ => h.result hf (by omega),
      fun hf _ => h.error hf (by omega), fun hf _ => h.errorType hf (by omega), nofun⟩
  | 5, rfl =>
    exact ⟨h.status, h.resultOf, fun hf _ => h.result hf (by omega),
      fun hf _ => h.error hf (by omega), fun hf _ => h.errorType hf (by omega), fun _ _ => rfl⟩

theorem SnapOk.complete {sn : Snapshot R} (h : SnapOk n sn job) (hRead : (snapReads R)[n]? = none) :
    SnapOk 6 sn job := by
  have hn : 6 ≤ n := List.getElem?_eq_none_iff.mp hRead
  exact ⟨h.status, h.resultOf, fun hf _ => h.result hf (by omega),
    fun hf _ => h.error hf (by omega), fun hf _ => h.errorType hf (by omega),
    fun hf _ => h.finishedAt hf hn⟩

section Snap

variable {m : Main R} {settle : Option (SettleFrame R)} {f : SnapFrame R}

theorem moves_store (hs : (outline R cfg).Holds s) (hSnap : SnapOk 6 f.got (s.jobs f.job))
    {th : Thread R} (hTh : th.Known s.nextJob ∧ th.Ok t s.jobs) (evs : List (Event R))
    (hEvs : ∀ e ∈ evs, e.Ok cfg s.jobs) (hNone : ∀ j, settledCount j evs = 0) :
    (outline R cfg).Moves t s
      { s.setThread t th with
        rows := Function.update s.rows f.job (some f.got), log := s.log ++ evs } := by
  have hKnown := hs.1.known
  refine moves_quiet hs evs rfl rfl ⟨hKnown.registry, hKnown.queue, hKnown.running⟩
    (fun j sn h => ?_) rfl hEvs hNone (by simpa [State.setThread] using hTh) fun u hu =>
      Or.inl (by simp [State.setThread, hu])
  by_cases hj : j = f.job
  · subst hj
    simp only [Function.update_self, Option.some.injEq] at h
    exact h ▸ hSnap
  · simp only [Function.update_of_ne hj] at h
    exact hs.1.rows j sn h

theorem broadcast_ok {th : Thread R} {n : Nat} {jobs : JobId → Job R} {g : SettleFrame R}
    {sf : Option (SnapFrame R)} (hTh : th = ⟨m, some g, sf⟩) (h : th.Known n ∧ th.Ok t jobs) :
    (⟨m, some { g with pc := .broadcast }, none⟩ : Thread R).Known n ∧
      (⟨m, some { g with pc := .broadcast }, none⟩ : Thread R).Ok t jobs := by
  subst hTh
  obtain ⟨hKnown, hOk⟩ := h
  obtain ⟨hCalls, hTimedOut, -⟩ := hOk.settle g rfl
  refine ⟨⟨hKnown.main, ?_, nofun⟩, hCalls.ok, ?_, nofun⟩
  · rintro g' ⟨⟩
    exact hKnown.settle g rfl
  · rintro g' ⟨⟩
    exact ⟨hCalls, hTimedOut, trivial⟩

theorem finished_ok {n : Nat} {jobs : JobId → Job R} :
    (Thread.at .finished : Thread R).Known n ∧ (Thread.at .finished : Thread R).Ok t jobs :=
  ⟨Thread.known_at (by simp [Main.names]), Thread.ok_at trivial⟩

theorem snapStep_moves (hs : (outline R cfg).Holds s)
    (hTh : s.threads t = ⟨m, settle, some f⟩) (hStep : snapStep s t m settle f = some s') :
    (outline R cfg).Moves t s s' := by
  have hSelf := self_ok hs hTh
  have hSnap : SnapOk f.next f.got (s.jobs f.job) := hSelf.2.snap f rfl
  unfold snapStep at hStep
  split at hStep
  · rename_i read hRead
    cases hStep
    refine moves_setThread hs (.refl s) hs.1.known
      ⟨⟨hSelf.1.main, hSelf.1.settle, ?_⟩, hSelf.2.main, hSelf.2.settle, ?_⟩
    · rintro g ⟨⟩
      exact hSelf.1.snap f rfl
    · rintro g ⟨⟩
      exact hSnap.read hRead
  · rename_i hRead
    have hDone := hSnap.complete hRead
    split at hStep <;> cases hStep
    · exact moves_store hs hDone (broadcast_ok rfl hSelf) [.upserted f.job f.got]
        (by simpa [Event.Ok] using hDone) (fun j => rfl)
    · rename_i j
      have h : (outline R cfg).Moves t s _ := moves_store hs hDone finished_ok
        [.upserted f.job f.got, .answered j .deferred] (by simpa [Event.Ok] using hDone)
        (fun k => rfl)
      simpa [State.emit, State.goto, State.setThread] using h
    · exact moves_setThread_emit hs (.refl s) hs.1.known finished_ok hDone (fun _ => rfl)

theorem upsertFails_moves (hs : (outline R cfg).Holds s) (hStep : upsertFails s t = some s') :
    (outline R cfg).Moves t s s' := by
  unfold upsertFails at hStep
  rcases hTh : s.threads t with ⟨m, settle, snap⟩
  have hSelf := self_ok hs hTh
  simp only [hTh] at hStep
  split at hStep
  · cases hStep
  · split at hStep
    · cases hStep
    · split at hStep <;> cases hStep
      · exact moves_setThread hs (.refl s) hs.1.known (broadcast_ok rfl hSelf)
      · exact moves_setThread_emit hs (.refl s) hs.1.known finished_ok trivial (fun _ => rfl)

end Snap

/-! ## Steps outside `_settle` and `snapshot` -/

theorem discard_core (s : State R) (j : JobId) : SameCore s (discard s j) := by
  unfold discard
  split <;> exact ⟨rfl, rfl, rfl, rfl, rfl⟩

theorem discard_known (h : KnownState s) : KnownState (discard s j) := by
  unfold discard
  split
  · exact ⟨h.registry, fun k hk => h.queue k (List.mem_of_mem_erase hk), h.running⟩
  · exact h

theorem dequeue_core (s : State R) (rest : List (Option JobId)) :
    SameCore s { s with queue := rest } := ⟨rfl, rfl, rfl, rfl, rfl⟩

theorem dequeue_known {x : Option JobId} {rest : List (Option JobId)}
    (hQueue : s.queue = x :: rest) (h : KnownState s) : KnownState { s with queue := rest } :=
  ⟨h.registry, fun k hk => h.queue k (hQueue ▸ List.mem_cons_of_mem x hk), h.running⟩

theorem SameCore.taskDone {s : State R} (h : SameCore s s₁) : SameCore s s₁.taskDone :=
  ⟨h.jobs, h.nextJob, h.rows, h.log, h.threads⟩

theorem KnownState.taskDone (h : KnownState s) : KnownState s.taskDone :=
  ⟨h.registry, h.queue, h.running⟩

theorem pop_core (s : State R) (j : JobId) : SameCore s (s.pop j) := ⟨rfl, rfl, rfl, rfl, rfl⟩

theorem pop_known (h : KnownState s) : KnownState (s.pop j) :=
  ⟨fun k hk => h.registry k (List.mem_of_mem_erase hk), h.queue, h.running⟩

section MainSteps

variable {m m' : Main R} {j : JobId} {o : Outcome R}

variable (hs : (outline R cfg).Holds s)

include hs

theorem moves_callSettle {s₁ : State R} (hCore : SameCore s s₁)
    (hKnown : KnownState s₁) (hCalls : m.CallsSettle) (hNames : ∀ k ∈ m.names, k < s.nextJob)
    (hj : j < s.nextJob) {timedOut : Bool} (hTimedOut : timedOut = true → o.status = .error) :
    (outline R cfg).Moves t s (callSettle s₁ t m j o timedOut) := by
  refine moves_setThread hs hCore hKnown ⟨⟨hNames, ?_, nofun⟩, hCalls.ok, ?_, nofun⟩
  · rintro g ⟨⟩
    exact hj
  · rintro g ⟨⟩
    exact ⟨hCalls, hTimedOut, trivial⟩

variable {job : Job R}

theorem moves_attr (hj : j < s.nextJob)
    (hLock : (s.jobs j).lock = none ∨ (s.jobs j).lock = some t) (hSame : SameOutcome (s.jobs j) job)
    (hDone : job.done = (s.jobs j).done) (hIdle : job.lock = none → Idle (s.jobs j))
    (hNames : ∀ k ∈ m'.names, k < s.nextJob) (hOk : m'.Ok t (Function.update s.jobs j job)) :
    (outline R cfg).Moves t s ((s.setJob j job).goto t m') :=
  moves_setJob hs hj (.of_same hLock hSame hDone) (fun h => (hIdle h).congr hSame hDone) hDone
    ((hs.1.complete j).congr hSame hDone) (Thread.known_at hNames) (Thread.ok_at hOk)

theorem moves_acquire (hj : j < s.nextJob)
    (hLock : (s.jobs j).lock = none) (hNames : ∀ k ∈ m'.names, k < s.nextJob)
    (hOk : ∀ jobs, LookOk t (jobs j) → m'.Ok t jobs) :
    (outline R cfg).Moves t s ((s.setJob j { s.jobs j with lock := some t }).goto t m') := by
  have hSame : SameOutcome (s.jobs j) { s.jobs j with lock := some t } :=
    ⟨rfl, rfl, rfl, rfl, rfl, rfl⟩
  refine moves_attr hs hj (Or.inl hLock) hSame rfl nofun hNames (hOk _ ?_)
  rw [Function.update_self]
  exact ⟨rfl, (hs.1.idle j hLock).congr hSame rfl⟩

theorem moves_release (hj : j < s.nextJob)
    (hLook : LookOk t (s.jobs j)) (hNames : ∀ k ∈ m'.names, k < s.nextJob)
    (hOk : ∀ jobs, m'.Ok t jobs) : (outline R cfg).Moves t s ((s.setJob j { s.jobs j with lock := none }).goto t m') :=
  moves_attr hs hj (Or.inr hLook.1) ⟨rfl, rfl, rfl, rfl, rfl, rfl⟩ rfl (fun _ => hLook.2) hNames
    (hOk _)

omit hs in
theorem lookOk_update (h : LookOk t (s.jobs j)) (hSame : SameOutcome (s.jobs j) job)
    (hLock : job.lock = (s.jobs j).lock) (hDone : job.done = (s.jobs j).done) :
    LookOk t (Function.update s.jobs j job j) := by
  rw [Function.update_self]
  exact ⟨hLock.trans h.1, h.2.congr hSame hDone⟩

omit hs in
theorem openOk_update (h : OpenOk t (s.jobs j)) (hSame : SameOutcome (s.jobs j) job)
    (hLock : job.lock = (s.jobs j).lock) (hDone : job.done = (s.jobs j).done) :
    OpenOk t (Function.update s.jobs j job j) := by
  rw [Function.update_self]
  exact ⟨hLock.trans h.1, h.2.1.congr hSame, hDone.trans h.2.2⟩

omit hs in
theorem Outcome.exception_eq_some {e : PyError} (h : o.exception = some e) : o = .failure e := by
  cases o with
  | result r => cases h
  | failure e' => exact congrArg Outcome.failure (Option.some.inj h)

omit hs in
theorem Outcome.exception_eq_none (h : o.exception = none) : ∃ r, o = .result r := by
  cases o with
  | result r => exact ⟨r, rfl⟩
  | failure e => cases h

theorem moves_startSnap (hj : j < s.nextJob)
    (hNames : ∀ k ∈ m.names, k < s.nextJob) (hOk : m.Ok t s.jobs) :
    (outline R cfg).Moves t s (s.setThread t ⟨m, none, some (startSnap j (s.jobs j))⟩) := by
  refine moves_setThread hs (.refl s) hs.1.known ⟨⟨hNames, nofun, ?_⟩, hOk, nofun, ?_⟩
  · rintro g ⟨⟩
    exact hj
  · rintro g ⟨⟩
    exact snapOk_start j (s.jobs j)

theorem workStart_moves (hj : j < s.nextJob) (hOpen : OpenOk t (s.jobs j)) :
    (outline R cfg).Moves t s
      ((s.setJob j { s.jobs j with status := .running }).goto t (.workClock j)) := by
  obtain ⟨hLock, hFresh, hDone⟩ := hOpen
  have hFresh' : Fresh { s.jobs j with status := .running } :=
    ⟨fun h => h, hFresh.result, hFresh.error, hFresh.errorType, hFresh.exception,
      hFresh.finishedAt⟩
  apply moves_setJob hs hj
  · refine ⟨fun u hu hu' => ?_, id, fun h => absurd h hFresh.status, fun _ => rfl⟩
    rw [hLock] at hu'
    exact absurd (Option.some.inj hu').symm hu
  · exact fun _ => hFresh'.idle hDone
  · rfl
  · exact hFresh'.complete hDone
  · exact Thread.known_at (by simpa [Main.names] using hj)
  · refine Thread.ok_at ?_
    change OpenOk t (Function.update s.jobs j _ j)
    rw [Function.update_self]
    exact ⟨hLock, hFresh', hDone⟩

theorem deferAnswer_moves {a : Answer R} (hj : j < s.nextJob)
    (hLook : LookOk t (s.jobs j)) (hAnswer : a.Of (s.jobs j)) :
    (outline R cfg).Moves t s
      (((s.setJob j { s.jobs j with lock := none }).goto t .finished).emit (.answered j a)) := by
  have hKnown := hs.1.known
  have hSame : SameOutcome (s.jobs j) { s.jobs j with lock := none } :=
    ⟨rfl, rfl, rfl, rfl, rfl, rfl⟩
  have hGuar : GuarJob t (s.jobs j) { s.jobs j with lock := none } :=
    .of_same (Or.inr hLook.1) hSame rfl
  refine moves_job hs [.answered j a] hj rfl (Nat.le_refl _)
    ⟨hKnown.registry, hKnown.queue, hKnown.running⟩ rfl hGuar
    (fun _ => hLook.2.congr hSame rfl) (hLook.2.congr hSame rfl).complete rfl ?_ (fun k => ?_) ?_ ?_
  · have hAnswer' := hAnswer.guar hGuar
    cases a with
    | deferred => exact hAnswer.elim
    | result r =>
      simpa [Event.Ok, State.emit, State.goto, State.setThread, State.setJob, Answer.Of]
        using hAnswer'
    | raised e =>
      simpa [Event.Ok, State.emit, State.goto, State.setThread, State.setJob, Answer.Of]
        using Or.inl hAnswer'
  · have hSameDone : (Function.update s.jobs j { s.jobs j with lock := none } k).done =
        (s.jobs k).done := by
      apply count_same
      rfl
    simp [State.emit, State.goto, State.setThread, State.setJob, settledCount, isSettled, hSameDone]
  · simpa [State.emit, State.goto, State.setThread, State.setJob] using finished_ok
  · intro u hu
    exact Or.inl (by simp [State.emit, State.goto, State.setThread, State.setJob, hu])

theorem mainStep_moves {m : Main R}
    (hTh : s.threads t = .at m) (hStep : mainStep cfg s t m = some s') :
    (outline R cfg).Moves t s s' := by
  obtain ⟨⟨hNames, -, -⟩, hOk, -, -⟩ := self_ok hs hTh
  have hKnown := hs.1.known
  have hCore := SameCore.refl s
  simp only [Thread.at] at hNames hOk
  cases m <;> simp only [mainStep] at hStep <;> try cases hStep
  case submitWait j persist =>
    split at hStep <;> cases hStep
    rename_i hDone
    exact moves_goto hs hCore hKnown hNames ((hs.1.complete j).settled hDone)
  case readDiscard j =>
    exact moves_goto hs (discard_core s j) (discard_known hKnown) hNames trivial
  case readForget j =>
    exact moves_setThread_emit hs (pop_core s j) (pop_known hKnown) finished_ok (Or.inr rfl)
      (fun _ => rfl)
  case answerForget j =>
    exact moves_goto hs (pop_core s j) (pop_known hKnown) hNames hOk
  case answerException j =>
    obtain ⟨o, ho⟩ := hOk
    split at hStep <;> cases hStep <;> rename_i hExc <;> rw [ho.1.exception] at hExc
    · obtain rfl : o = .failure _ := Outcome.exception_eq_some hExc
      exact moves_setThread_emit hs hCore hKnown finished_ok (Or.inl ho) (fun _ => rfl)
    · obtain ⟨r, rfl⟩ := Outcome.exception_eq_none hExc
      exact moves_goto hs hCore hKnown hNames ⟨r, ho⟩
  case answerResult j =>
    obtain ⟨r, hr⟩ := hOk
    rw [hr.1.result]
    exact moves_setThread_emit hs hCore hKnown finished_ok hr (fun _ => rfl)
  case deferAcquire j =>
    split at hStep <;> cases hStep
    rename_i hLock
    exact moves_acquire hs (hNames j (by simp [Main.names])) hLock hNames fun _ h => h
  case deferCheck j =>
    split
    · rename_i hDone
      exact moves_goto hs hCore hKnown hNames ⟨hOk, hOk.2.of_done hDone⟩
    · rename_i hDone
      have hNot : (s.jobs j).done = false := by simpa using hDone
      exact moves_goto hs hCore hKnown hNames ⟨hOk.1, hOk.2.of_not_done hNot, hNot⟩
  case deferForget j =>
    exact moves_goto hs (pop_core s j) (pop_known hKnown) hNames hOk
  case deferException j =>
    obtain ⟨hLook, o, ho⟩ := hOk
    split at hStep <;> cases hStep <;> rename_i hExc <;> rw [ho.1.exception] at hExc
    · obtain rfl : o = .failure _ := Outcome.exception_eq_some hExc
      exact moves_goto hs hCore hKnown hNames ⟨hLook, ho⟩
    · obtain ⟨r, rfl⟩ := Outcome.exception_eq_none hExc
      exact moves_goto hs hCore hKnown hNames ⟨hLook, r, ho⟩
  case deferResult j =>
    obtain ⟨hLook, r, hr⟩ := hOk
    refine moves_goto hs hCore hKnown hNames ⟨hLook, ?_⟩
    rw [hr.1.result]
    exact hr
  case deferAnswer j a =>
    exact deferAnswer_moves hs (hNames j (by simp [Main.names])) hOk.1 hOk.2
  case deferClaim j =>
    refine moves_attr hs (hNames j (by simp [Main.names])) (Or.inr hOk.1)
      ⟨rfl, rfl, rfl, rfl, rfl, rfl⟩ rfl (fun _ => hOk.look.2) hNames ?_
    exact lookOk_update hOk.look ⟨rfl, rfl, rfl, rfl, rfl, rfl⟩ rfl rfl
  case deferRelease j =>
    exact moves_release hs (hNames j (by simp [Main.names])) hOk hNames fun _ => trivial
  case deferPersist j =>
    split at hStep <;> cases hStep
    · exact moves_startSnap hs (hNames j (by simp [Main.names])) hNames trivial
    · exact moves_setThread_emit hs hCore hKnown finished_ok trivial (fun _ => rfl)
  case workLoop =>
    split <;> exact moves_goto hs hCore hKnown (by simp [Main.names]) trivial
  case workGet =>
    split at hStep <;> cases hStep <;> rename_i rest hQueue
    · exact moves_goto hs (dequeue_core s rest) (dequeue_known hQueue hKnown)
        (by simp [Main.names]) trivial
    · rename_i j
      exact moves_goto hs (dequeue_core s rest) (dequeue_known hQueue hKnown)
        (by simpa [Main.names] using hKnown.queue j (hQueue ▸ List.mem_cons_self)) trivial
  case workSentinel =>
    exact moves_goto hs hCore.taskDone hKnown.taskDone (by simp [Main.names]) trivial
  case workStopping j =>
    split at hStep <;> cases hStep
    · apply moves_callSettle hs hCore hKnown
      · trivial
      · exact hNames
      · exact hNames j (by simp [Main.names])
      · exact nofun
    · exact moves_goto hs hCore hKnown hNames trivial
  case workAcquire j =>
    split at hStep <;> cases hStep
    rename_i hLock
    exact moves_acquire hs (hNames j (by simp [Main.names])) hLock hNames fun _ h => h
  case workCheck j =>
    split
    · exact moves_goto hs hCore hKnown hNames hOk
    · rename_i hDone
      have hNot : (s.jobs j).done = false := by simpa using hDone
      exact moves_goto hs hCore hKnown hNames ⟨hOk.1, hOk.2.of_not_done hNot, hNot⟩
  case workSkip j =>
    exact moves_goto hs hCore.taskDone hKnown.taskDone hNames hOk
  case workSkipRelease j =>
    exact moves_release hs (hNames j (by simp [Main.names])) hOk (by simp [Main.names])
      fun _ => trivial
  case workStart j => exact workStart_moves hs (hNames j (by simp [Main.names])) hOk
  case workClock j =>
    refine moves_attr hs (hNames j (by simp [Main.names])) (Or.inr hOk.1)
      ⟨rfl, rfl, rfl, rfl, rfl, rfl⟩ rfl (fun _ => hOk.look.2) hNames ?_
    exact openOk_update hOk ⟨rfl, rfl, rfl, rfl, rfl, rfl⟩ rfl rfl
  case workRegister j =>
    apply moves_goto hs
    · exact ⟨rfl, rfl, rfl, rfl, rfl⟩
    · refine ⟨hKnown.registry, hKnown.queue, fun k hk => ?_⟩
      have hMem : k ∈ s.running ∨ k = j := by
        simp only at hk
        split at hk
        · exact Or.inl hk
        · simpa using hk
      rcases hMem with hMem | rfl
      · exact hKnown.running k hMem
      · exact hNames k (by simp [Main.names])
    · exact hNames
    · exact hOk.look
  case workRelease j =>
    exact moves_release hs (hNames j (by simp [Main.names])) hOk hNames fun _ => trivial
  case workTaskDone j =>
    exact moves_goto hs hCore.taskDone hKnown.taskDone hNames trivial
  case workUnregister j =>
    apply moves_goto hs
    · exact ⟨rfl, rfl, rfl, rfl, rfl⟩
    · exact ⟨hKnown.registry, hKnown.queue,
        fun k hk => hKnown.running k (List.mem_of_mem_erase hk)⟩
    · exact hNames
    · trivial
  case workRetire j =>
    split <;> exact moves_goto hs hCore hKnown (by simp [Main.names]) trivial
  case workExit =>
    apply moves_setThread hs
    · exact ⟨rfl, rfl, rfl, rfl, rfl⟩
    · exact ⟨hKnown.registry, hKnown.queue, hKnown.running⟩
    · exact finished_ok
  case watchWait =>
    split <;> exact moves_goto hs hCore hKnown (by simp [Main.names]) trivial
  case watchScan now =>
    exact moves_goto hs hCore hKnown
      (fun k hk => hKnown.running k (List.mem_of_mem_filter hk)) trivial
  case watchNext js =>
    cases js with
    | nil =>
      cases hStep
      exact moves_goto hs hCore hKnown (by simp [Main.names]) trivial
    | cons j rest =>
      cases hStep
      apply moves_callSettle hs hCore hKnown
      · trivial
      · exact fun k hk => hNames k (List.mem_cons_of_mem j hk)
      · exact hNames j List.mem_cons_self
      · exact fun _ => rfl
  case stopBegin =>
    apply moves_goto hs
    · exact ⟨rfl, rfl, rfl, rfl, rfl⟩
    · exact ⟨hKnown.registry, hKnown.queue, hKnown.running⟩
    · simp [Main.names]
    · trivial
  case stopDrain n =>
    split at hStep <;> cases hStep
    · exact moves_goto hs hCore hKnown (by simp [Main.names]) trivial
    · rename_i rest hQueue
      exact moves_goto hs (dequeue_core s rest) (dequeue_known hQueue hKnown)
        (by simp [Main.names]) trivial
    · rename_i j rest hQueue
      exact moves_callSettle hs (dequeue_core s rest) (dequeue_known hQueue hKnown) (by trivial)
        (by simp [Main.names]) (hKnown.queue j (hQueue ▸ List.mem_cons_self)) (by simp)
  case stopTaskDone n =>
    exact moves_goto hs hCore.taskDone hKnown.taskDone (by simp [Main.names]) trivial
  case stopSentinels n =>
    cases n with
    | zero =>
      cases hStep
      exact moves_goto hs hCore hKnown (by simp [Main.names]) trivial
    | succ n =>
      cases hStep
      apply moves_goto hs
      · exact ⟨rfl, rfl, rfl, rfl, rfl⟩
      · exact ⟨hKnown.registry, fun k hk => hKnown.queue k (by simpa using hk), hKnown.running⟩
      · simp [Main.names]
      · trivial
  case stopJoin => exact moves_goto hs hCore hKnown (by simp [Main.names]) trivial
  case stopRest =>
    split at hStep <;> cases hStep
    · exact moves_setThread hs hCore hKnown finished_ok
    · rename_i rest hQueue
      exact moves_goto hs (dequeue_core s rest).taskDone (dequeue_known hQueue hKnown).taskDone
        (by simp [Main.names]) trivial
  case getLookup j =>
    split at hStep <;> cases hStep
    · rename_i hMem
      exact moves_goto hs hCore hKnown (by simpa [Main.names] using hKnown.registry j hMem) trivial
    · refine moves_setThread_emit hs hCore hKnown finished_ok ?_ (fun _ => rfl)
      split
      · cases hRow : s.rows j with
        | none => trivial
        | some sn => exact hs.1.rows j sn hRow
      · trivial
  case getSnapshot j =>
    exact moves_startSnap hs (hNames j (by simp [Main.names])) hNames trivial

end MainSteps

/-! ## The labels from outside -/

variable (hs : (outline R cfg).Holds s)

include hs

theorem spawn_moves (hNames : ∀ j ∈ m.names, j < s.nextJob)
    (hOk : m.Ok s.nextThread s.jobs) : (outline R cfg).Moves s.nextThread s (s.spawn m) := by
  have hKnown := hs.1.known
  refine moves_quiet hs [] rfl rfl ⟨hKnown.registry, hKnown.queue, hKnown.running⟩ hs.1.rows
    (by simp [State.spawn, State.goto, State.setThread]) (by simp) (fun _ => rfl) ?_ fun u hu => ?_
  · simpa [State.spawn, State.goto, State.setThread] using
      And.intro (Thread.known_at hNames) (Thread.ok_at hOk)
  · exact Or.inl (by simp [State.spawn, State.goto, State.setThread, hu])

theorem submit_moves (kind : String) (persist : Bool) :
    (outline R cfg).Moves s.nextThread s (submit s kind persist) := by
  have hKnown := hs.1.known
  simp only [submit]
  split
  · apply moves_setThread_emit hs
    · exact ⟨rfl, rfl, rfl, rfl, rfl⟩
    · exact ⟨hKnown.registry, hKnown.queue, hKnown.running⟩
    · exact finished_ok
    · trivial
    · exact fun _ => rfl
  · have hBlank : s.jobs s.nextJob = .new "" 0 := hs.1.blank _ (Nat.le_refl _)
    have hSame : SameOutcome (s.jobs s.nextJob) (.new kind s.utc) := by
      rw [hBlank]
      exact ⟨rfl, rfl, rfl, rfl, rfl, rfl⟩
    have hDone : (s.jobs s.nextJob).done = false := by rw [hBlank]; rfl
    have hLock : (s.jobs s.nextJob).lock = none := by rw [hBlank]; rfl
    have hFresh : Fresh (Job.new kind s.utc : Job R) := fresh_new kind s.utc
    refine moves_job hs [] (Nat.lt_succ_self _) rfl (Nat.le_succ _) ⟨?_, ?_, ?_⟩ rfl
      (.of_same (Or.inl hLock) hSame hDone.symm) (fun _ => hFresh.idle rfl) (hFresh.complete rfl)
      (by simp [State.goto, State.setThread, State.setJob]) (by simp) (fun k => ?_) ?_
      fun u hu => ?_
    · intro k hk
      rcases List.mem_append.mp hk with hk | hk
      · exact Nat.lt_succ_of_lt (hKnown.registry k hk)
      · exact List.mem_singleton.mp hk ▸ Nat.lt_succ_self _
    · intro k hk
      rcases List.mem_append.mp hk with hk | hk
      · exact Nat.lt_succ_of_lt (hKnown.queue k hk)
      · exact Option.some.inj (List.mem_singleton.mp hk) ▸ Nat.lt_succ_self _
    · exact fun k hk => Nat.lt_succ_of_lt (hKnown.running k hk)
    · have hSameDone : (Function.update s.jobs s.nextJob (.new kind s.utc) k).done =
          (s.jobs k).done := count_same hDone.symm k
      simp [State.goto, State.setThread, State.setJob, settledCount, hSameDone]
    · simp only [State.goto, State.setThread, State.setJob, Function.update_self]
      exact ⟨Thread.known_at (by simp [Main.names]), Thread.ok_at trivial⟩
    · exact Or.inl (by simp [State.goto, State.setThread, State.setJob, hu])

theorem moves_none (hCore : SameCore s s') (hKnown : KnownState s')
    (t : ThreadId) : (outline R cfg).Moves t s s' :=
  moves_quiet hs [] hCore.jobs hCore.nextJob hKnown (hCore.rows ▸ hs.1.rows)
    (by simp [hCore.log]) (by simp) (fun _ => rfl) (hCore.threads ▸ hs.2 t)
    (fun u _ => Or.inl (by rw [hCore.threads]))

def Label.actor (s : State R) : Label R → ThreadId
  | .submit _ _ | .get _ | .shutdown => s.nextThread
  | .run t | .waitTimesOut t | .handlerReturns t _ | .upsertFails t => t
  | .tick _ _ | .reap _ => 0

theorem step_moves {l : Label R} (hStep : step cfg s l = some s') :
    (outline R cfg).Moves (l.actor s) s s' := by
  have hKnown := hs.1.known
  cases l <;> simp only [step] at hStep
  case tick m u =>
    cases hStep
    apply moves_none hs
    · exact ⟨rfl, rfl, rfl, rfl, rfl⟩
    · exact ⟨hKnown.registry, hKnown.queue, hKnown.running⟩
  case submit kind persist =>
    cases hStep
    exact submit_moves hs kind persist
  case get j =>
    cases hStep
    exact spawn_moves hs (by simp [Main.names]) trivial
  case shutdown =>
    cases hStep
    exact spawn_moves hs (by simp [Main.names]) trivial
  case reap cutoff =>
    cases hStep
    apply moves_none hs
    · exact ⟨rfl, rfl, rfl, rfl, rfl⟩
    · exact ⟨fun k hk => hKnown.registry k (List.mem_of_mem_filter hk), hKnown.queue,
        hKnown.running⟩
  case run t =>
    rcases hTh : s.threads t with ⟨m, settle, snap⟩
    simp only [threadStep, hTh] at hStep
    cases snap with
    | some f => exact snapStep_moves hs hTh hStep
    | none =>
      cases settle with
      | some f => exact settleStep_moves hs hTh hStep
      | none => exact mainStep_moves hs hTh hStep
  case waitTimesOut t =>
    unfold waitTimesOut at hStep
    split at hStep
    · rename_i j persist hTh
      have hNames := (self_ok hs hTh).1.main
      split at hStep
      · cases hStep
      · split at hStep <;> cases hStep
        · exact moves_goto hs (.refl s) hKnown hNames trivial
        · apply moves_callSettle hs (.refl s) hKnown
          · trivial
          · exact hNames
          · exact hNames j (by simp [Main.names])
          · exact fun _ => rfl
    · cases hStep
  case handlerReturns t o =>
    unfold handlerReturns at hStep
    split at hStep <;> cases hStep
    rename_i j hTh
    have hNames := (self_ok hs hTh).1.main
    apply moves_setThread_emit hs (.refl s) hKnown
    · refine ⟨⟨hNames, ?_, nofun⟩, trivial, ?_, nofun⟩
      · rintro g ⟨⟩
        exact hNames j (by simp [Main.names])
      · rintro g ⟨⟩
        exact ⟨trivial, nofun, trivial⟩
    · trivial
    · exact fun _ => rfl
  case upsertFails t => exact upsertFails_moves hs hStep

omit hs

theorem outline_invariant (cfg : Config) :
    StepRun.Invariant (step (R := R) cfg) (outline R cfg).Holds :=
  RelyGuarantee.invariant (outline_stable cfg) fun _ _ _ hs hStep => ⟨_, step_moves hs hStep⟩

theorem outline_initial (cfg : Config) (monotonic utc : Nat) :
    (outline R cfg).Holds (initial R cfg monotonic utc) := by
  have hFresh : Fresh (Job.new "" 0 : Job R) := fresh_new "" 0
  refine ⟨⟨⟨nofun, nofun, nofun⟩, fun _ _ => rfl, fun _ _ => hFresh.idle rfl,
    fun _ => hFresh.complete rfl, nofun, nofun, fun _ => rfl⟩, fun t => ?_⟩
  change Thread.Known 0 (ite _ _ _) ∧ Thread.Ok t _ (ite _ _ _)
  split
  · exact ⟨Thread.known_at (by simp [Main.names]), Thread.ok_at trivial⟩
  · split <;> exact ⟨Thread.known_at (by simp [Main.names]), Thread.ok_at trivial⟩

theorem outline_run {cfg : Config} {monotonic utc : Nat} {ls : List (Label R)}
    (hRun : run cfg monotonic utc ls = some s) : (outline R cfg).Holds s :=
  (outline_invariant cfg).run (outline_initial cfg monotonic utc) hRun

end Sniff4Hound.Jobs
