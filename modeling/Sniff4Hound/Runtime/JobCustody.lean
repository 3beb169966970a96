import Sniff4Hound.Runtime.JobSteps

/-!
# What the threads of the job queue keep

A second outline over the first one (`JobOutline.lean`), for what happens around a
settlement: a job that was given up is settled before its lock is free, the thread that
settled a job knows whether somebody claimed it for polling, and the snapshot it stores was
taken after the settlement. Most steps are none of this outline's business (`Half.goto`).
-/

namespace Sniff4Hound.Jobs

open RelyGuarantee

variable {R : Type} {cfg : Config} {s s' : State R} {t : ThreadId}

/-! ## Assertions -/

def Calm (job : Job R) : Prop := job.done = false → job.abandoned = false

def Main.Custody (stopping : Bool) (jobs : JobId → Job R) : Main R → Prop
  | .deferCheck j | .deferForget j | .deferException j | .deferResult j | .deferAnswer j _
  | .deferClaim j | .workCheck j | .workSkip j | .workSkipRelease j | .workStart j
  | .workClock j | .workRegister j | .workRelease j => Calm (jobs j)
  | .deferRelease j => Calm (jobs j) ∧ (jobs j).persisted = true
  | .deferPersist j | .deferUpsert j => (jobs j).persisted = true
  | .workSentinel | .workStopSettle _ | .stopDrain _ | .stopSettle _ | .stopTaskDone _
  | .stopSentinels _ | .stopJoin | .stopRest => stopping = true
  | _ => True

def SettlePc.Custody (job : Job R) : SettlePc → Prop
  | .check | .abandon => Calm job
  | .setDone needsWrite => needsWrite = job.persisted
  | .release settled needsWrite =>
    job.done = true ∧ (settled = true → needsWrite = job.persisted)
  | .persist | .upsert | .broadcast => job.done = true
  | .acquire | .write _ | .readPersisted => True

structure Thread.Custody (stopping : Bool) (jobs : JobId → Job R) (th : Thread R) : Prop where
  main : th.main.Custody stopping jobs
  settle : ∀ f, th.settle = some f → f.pc.Custody (jobs f.job)
  served : ∀ f j, th.settle = some f → th.main = .workSettle j → f.job = j
  pending : ∀ f g, th.settle = some f → th.snap = some g →
    f.pc = .upsert ∧ g.job = f.job ∧ (g.next ≠ 0 → g.got.status.Final)
  deferred : ∀ g j, th.snap = some g → th.main = .deferUpsert j → g.job = j
  reading : ∀ g, th.snap = some g → th.settle = none →
    ∃ j, th.main = .deferUpsert j ∨ th.main = .getSnapshot j

structure Ledger (s : State R) : Prop where
  calm : ∀ j, (s.jobs j).lock = none → Calm (s.jobs j)
  spare : ∀ t, s.nextThread ≤ t → s.threads t = .at .unused
  sentinels : s.stopping = false → none ∉ s.queue

structure Lasting (s s' : State R) : Prop where
  persisted : ∀ j, (s.jobs j).persisted = true → (s'.jobs j).persisted = true
  stopping : s.stopping = true → s'.stopping = true

def custody (R : Type) (cfg : Config) : Outline (State R) ThreadId (Thread R) where
  loc s t := s.threads t
  shared s := Shared cfg s ∧ Ledger s
  ok s t th := (th.Known s.nextJob ∧ th.Ok t s.jobs) ∧ th.Custody s.stopping s.jobs
  guar t s s' := Guar t s s' ∧ Lasting s s'

/-! ## Stability -/

variable {t u : ThreadId} {m : Main R}

theorem Main.Custody.stable (hNe : u ≠ t) (hGuar : ∀ j, GuarJob t (s.jobs j) (s'.jobs j))
    (hLasting : Lasting s s') (hOk : m.Ok u s.jobs) (h : m.Custody s.stopping s.jobs) :
    m.Custody s'.stopping s'.jobs := by
  cases m with
  | deferCheck j | workCheck j | workSkip j | workSkipRelease j | workRelease j =>
    change Calm _
    rw [(hGuar j).foreign u hNe hOk.1]
    exact h
  | deferForget j | deferException j | deferResult j | deferAnswer j a =>
    change Calm _
    rw [(hGuar j).foreign u hNe hOk.1.1]
    exact h
  | deferClaim j | workStart j | workClock j | workRegister j =>
    change Calm _
    rw [(hGuar j).foreign u hNe hOk.1]
    exact h
  | deferRelease j =>
    change Calm _ ∧ _
    rw [(hGuar j).foreign u hNe hOk.1]
    exact h
  | deferPersist j | deferUpsert j => exact hLasting.persisted j h
  | workSentinel | workStopSettle j | stopDrain n | stopSettle n | stopTaskDone n
  | stopSentinels n | stopJoin | stopRest => exact hLasting.stopping h
  | _ => trivial

theorem SettlePc.Custody.stable {o : Outcome R} {job job' : Job R} {pc : SettlePc} (hNe : u ≠ t)
    (hGuar : GuarJob t job job') (hOk : pc.Ok u o job) (h : pc.Custody job) : pc.Custody job' := by
  cases pc with
  | check | abandon | setDone _ | release _ _ =>
    rw [hGuar.foreign u hNe hOk.1]
    exact h
  | persist | upsert | broadcast => exact hGuar.done h
  | acquire | write n | readPersisted => trivial

theorem Thread.Custody.stable {th : Thread R} (hNe : u ≠ t)
    (hGuar : ∀ j, GuarJob t (s.jobs j) (s'.jobs j)) (hLasting : Lasting s s') (hOk : th.Ok u s.jobs)
    (h : th.Custody s.stopping s.jobs) :
    th.Custody s'.stopping s'.jobs where
  main := h.main.stable hNe hGuar hLasting hOk.main
  settle f hf := (h.settle f hf).stable hNe (hGuar f.job) (hOk.settle f hf).2.2
  served := h.served
  pending := h.pending
  deferred := h.deferred
  reading := h.reading

theorem custody_stable (cfg : Config) : (custody R cfg).Stable :=
  fun t u s s' th hNe hGuar h => ⟨outline_stable cfg t u s s' th hNe hGuar.1 h.1,
    h.2.stable hNe hGuar.1.jobs hGuar.2 h.1.2⟩

/-! ## Shapes of steps -/

structure Half (t : ThreadId) (s s' : State R) : Prop where
  lasting : Lasting s s'
  ledger : Ledger s'
  self : (s'.threads t).Custody s'.stopping s'.jobs
  others : ∀ u, u ≠ t → s'.threads u = s.threads u ∨
    s.threads u = .at .unused ∧ s'.threads u = .at .workLoop

variable {stopping : Bool} {jobs : JobId → Job R}

theorem Thread.custody_at (h : m.Custody stopping jobs) : (Thread.at m).Custody stopping jobs where
  main := h
  settle _ hf := by cases hf
  served _ _ hf := by cases hf
  pending _ _ hf := by cases hf
  deferred _ _ hg := by cases hg
  reading _ hg := by cases hg

/-- `s₁` is `s` up to what this outline does not look at, and items taken from the queue. -/
structure SameFrame (s s₁ : State R) : Prop where
  jobs : s₁.jobs = s.jobs
  threads : s₁.threads = s.threads
  nextThread : s₁.nextThread = s.nextThread
  stopping : s₁.stopping = s.stopping
  queue : ∀ x ∈ s₁.queue, x ∈ s.queue

theorem SameFrame.refl (s : State R) : SameFrame s s := ⟨rfl, rfl, rfl, rfl, fun _ => id⟩

theorem SameFrame.discard (s : State R) (j : JobId) : SameFrame s (discard s j) := by
  unfold Jobs.discard
  split
  · exact ⟨rfl, rfl, rfl, rfl, fun _ => List.mem_of_mem_erase⟩
  · exact .refl s

theorem SameFrame.dequeue {x : Option JobId} {rest : List (Option JobId)}
    (hQueue : s.queue = x :: rest) : SameFrame s { s with queue := rest } :=
  ⟨rfl, rfl, rfl, rfl, fun _ hy => hQueue ▸ List.mem_cons_of_mem x hy⟩

theorem Half.emit (h : Half t s s') (e : Event R) : Half t s (s'.emit e) :=
  ⟨⟨h.lasting.persisted, h.lasting.stopping⟩, ⟨h.ledger.calm, h.ledger.spare, h.ledger.sentinels⟩,
    h.self, h.others⟩

section Shapes

variable {s₁ : State R} {th : Thread R} {m : Main R}

theorem Ledger.started (h : Ledger s) (hTh : s.threads t ≠ .at .unused) : t < s.nextThread := by
  by_contra hNot
  exact hTh (h.spare t (Nat.not_lt.mp hNot))

theorem Half.setThread (h : Ledger s) (hIn : t < s.nextThread) (hSame : SameFrame s s₁)
    (hTh : th.Custody s.stopping s.jobs) : Half t s (s₁.setThread t th) := by
  refine ⟨⟨fun j hj => ?_, fun hStop => hSame.stopping.trans hStop⟩, ⟨fun j hj => ?_,
    fun u hu => ?_, fun hStop hMem => ?_⟩, ?_, fun u hu => Or.inl ?_⟩
  · change (s₁.jobs j).persisted = true
    rw [hSame.jobs]
    exact hj
  · change (s₁.jobs j).lock = none at hj
    change Calm (s₁.jobs j)
    rw [hSame.jobs] at hj ⊢
    exact h.calm j hj
  · change s₁.nextThread ≤ u at hu
    rw [hSame.nextThread] at hu
    have hut : u ≠ t := fun hut => Nat.not_lt.mpr hu (hut ▸ hIn)
    change Function.update s₁.threads t th u = _
    rw [Function.update_of_ne hut, hSame.threads]
    exact h.spare u hu
  · exact h.sentinels (hSame.stopping.symm.trans hStop) (hSame.queue _ hMem)
  · change (Function.update s₁.threads t th t).Custody s₁.stopping s₁.jobs
    rw [Function.update_self, hSame.stopping, hSame.jobs]
    exact hTh
  · change Function.update s₁.threads t th u = _
    rw [Function.update_of_ne hu, hSame.threads]

theorem Half.goto (h : Ledger s) (hIn : t < s.nextThread) (hSame : SameFrame s s₁)
    (hMain : m.Custody s.stopping s.jobs) : Half t s (s₁.goto t m) :=
  .setThread h hIn hSame (Thread.custody_at hMain)

theorem Half.setJob (h : Ledger s) (hIn : t < s.nextThread) {j : JobId} {job : Job R}
    (hPersisted : (s.jobs j).persisted = true → job.persisted = true)
    (hCalm : job.lock = none → Calm job)
    (hTh : th.Custody s.stopping (Function.update s.jobs j job)) :
    Half t s ((s.setJob j job).setThread t th) := by
  refine ⟨⟨fun k hk => ?_, id⟩, ⟨fun k hk => ?_, fun u hu => ?_, h.sentinels⟩, ?_,
    fun u hu => Or.inl ?_⟩
  · change (Function.update s.jobs j job k).persisted = true
    by_cases hkj : k = j
    · rw [hkj, Function.update_self]
      exact hPersisted (hkj ▸ hk)
    · rw [Function.update_of_ne hkj]
      exact hk
  · change (Function.update s.jobs j job k).lock = none at hk
    change Calm (Function.update s.jobs j job k)
    by_cases hkj : k = j
    · rw [hkj, Function.update_self] at hk ⊢
      exact hCalm hk
    · rw [Function.update_of_ne hkj] at hk ⊢
      exact h.calm k hk
  · have hut : u ≠ t := fun hut => Nat.not_lt.mpr hu (hut ▸ hIn)
    change Function.update s.threads t th u = _
    rw [Function.update_of_ne hut]
    exact h.spare u hu
  · change (Function.update s.threads t th t).Custody _ _
    rw [Function.update_self]
    exact hTh
  · change Function.update s.threads t th u = _
    rw [Function.update_of_ne hu]

end Shapes

/-! ## Steps inside `_settle` and `snapshot` -/

theorem Main.CallsSettle.custody {jobs' : JobId → Job R} (h : m.CallsSettle)
    (hMain : m.Custody stopping jobs) : m.Custody stopping jobs' := by
  cases m with
  | readSettle | workSettle | watchSettle => trivial
  | workStopSettle | stopSettle => exact hMain
  | _ => cases h

theorem Main.CallsSettle.afterCustody {jobs' : JobId → Job R} (h : m.CallsSettle)
    (hMain : m.Custody stopping jobs) : m.afterSettle.Custody stopping jobs' := by
  cases m with
  | readSettle | workSettle | watchSettle | workStopSettle => trivial
  | stopSettle => exact hMain
  | _ => cases h

theorem settleWrites_rest {o : Outcome R} {n now : Nat} {w : Job R → Job R}
    (hw : (settleWrites now o)[n]? = some w) (job : Job R) :
    (w job).persisted = job.persisted ∧ (w job).abandoned = job.abandoned ∧
      (w job).startedMono = job.startedMono := by
  have hMem := List.mem_of_getElem? hw
  cases o with
  | result r =>
    simp only [settleWrites, List.mem_cons, List.not_mem_nil, or_false] at hMem
    rcases hMem with rfl | rfl | rfl <;> exact ⟨rfl, rfl, rfl⟩
  | failure e =>
    simp only [settleWrites, List.mem_cons, List.not_mem_nil, or_false] at hMem
    rcases hMem with rfl | rfl | rfl | rfl | rfl <;> exact ⟨rfl, rfl, rfl⟩

section Settle

variable {m : Main R} {f : SettleFrame R}

theorem self_custody (hs : (custody R cfg).Holds s) {th : Thread R} (hTh : s.threads t = th)
    (hUsed : th ≠ .at .unused) :
    t < s.nextThread ∧ th.Ok t s.jobs ∧ th.Custody s.stopping s.jobs := by
  subst hTh
  exact ⟨hs.1.2.started hUsed, (hs.2 t).1.2, (hs.2 t).2⟩

theorem Thread.Custody.frame {stopping : Bool} {jobs jobs' : JobId → Job R}
    (h : (⟨m, some f, none⟩ : Thread R).Custody stopping jobs) (hCalls : m.CallsSettle)
    {pc : SettlePc} (hPc : pc.Custody (jobs' f.job)) :
    (⟨m, some { f with pc := pc }, none⟩ : Thread R).Custody stopping jobs' := by
  refine ⟨hCalls.custody h.main, ?_, ?_, ?_, ?_, ?_⟩
  · rintro g ⟨⟩
    exact hPc
  · rintro g j ⟨⟩ hAt
    exact h.served f j rfl hAt
  · rintro g g' - ⟨⟩
  · rintro g j ⟨⟩
  · rintro g ⟨⟩

theorem Half.abandon (h : Ledger s) (hIn : t < s.nextThread) (hLock : (s.jobs f.job).lock = some t)
    {th : Thread R}
    (hTh : th.Custody s.stopping
      (Function.update s.jobs f.job { s.jobs f.job with abandoned := true })) :
    Half t s ((startWorker { s.setJob f.job { s.jobs f.job with abandoned := true } with
      surplus := s.surplus + 1 }).setThread t th) := by
  have hHalf : Half t s ((s.setJob f.job { s.jobs f.job with abandoned := true }).setThread t th) :=
    .setJob h hIn id (fun hNone => by cases hLock.symm.trans hNone) hTh
  refine ⟨⟨hHalf.lasting.persisted, id⟩, ⟨hHalf.ledger.calm, fun u hu => ?_, h.sentinels⟩, ?_,
    fun u hu => ?_⟩
  · change s.nextThread + 1 ≤ u at hu
    have hut : u ≠ t := fun hut => Nat.not_lt.mpr (Nat.le_of_succ_le hu) (hut ▸ hIn)
    have hun : u ≠ s.nextThread := fun hun => Nat.not_succ_le_self _ (hun ▸ hu)
    change Function.update (Function.update s.threads s.nextThread _) t th u = _
    rw [Function.update_of_ne hut, Function.update_of_ne hun]
    exact h.spare u (Nat.le_of_succ_le hu)
  · change (Function.update (Function.update s.threads s.nextThread _) t th t).Custody _ _
    rw [Function.update_self]
    exact hTh
  · change Function.update (Function.update s.threads s.nextThread _) t th u = _ ∨
      _ ∧ Function.update (Function.update s.threads s.nextThread _) t th u = _
    rw [Function.update_of_ne hu]
    by_cases hun : u = s.nextThread
    · rw [hun, Function.update_self]
      exact Or.inr ⟨h.spare _ (Nat.le_refl _), rfl⟩
    · rw [Function.update_of_ne hun]
      exact Or.inl rfl

theorem settleStep_half (hs : (custody R cfg).Holds s) (hTh : s.threads t = ⟨m, some f, none⟩)
    (hStep : settleStep cfg s t m f = some s') : Half t s s' := by
  obtain ⟨hIn, hOk, hCustody⟩ := self_custody hs hTh (by rintro ⟨⟩)
  have hLedger := hs.1.2
  have hPc := hCustody.settle f rfl
  obtain ⟨hCalls, -, hPcOk⟩ := hOk.settle f rfl
  unfold settleStep at hStep
  cases hAt : f.pc <;> simp only [hAt] at hStep hPc hPcOk
  case acquire =>
    split at hStep
    · rename_i hLock
      cases hStep
      refine .setJob hLedger hIn id nofun (hCustody.frame hCalls ?_)
      rw [Function.update_self]
      exact hLedger.calm f.job hLock
    · cases hStep
  case check =>
    cases hStep
    refine .setThread hLedger hIn (.refl s) (hCustody.frame hCalls ?_)
    split
    · rename_i hDone
      exact ⟨hDone, nofun⟩
    · exact hPc
  case abandon =>
    split at hStep
    · cases hStep
      exact .abandon hLedger hIn hPcOk.1 (hCustody.frame hCalls trivial)
    · cases hStep
      exact .setThread hLedger hIn (.refl s) (hCustody.frame hCalls trivial)
  case write n =>
    split at hStep
    · rename_i w hw
      cases hStep
      obtain ⟨hPersisted, -, -⟩ := settleWrites_rest hw (s.jobs f.job)
      refine .setJob hLedger hIn (fun h => hPersisted.trans h) (fun hNone => ?_)
        (hCustody.frame hCalls trivial)
      cases hPcOk.1.symm.trans ((settleWrites_frame hw _).2.symm.trans hNone)
    · cases hStep
      exact .setThread hLedger hIn (.refl s) (hCustody.frame hCalls trivial)
  case readPersisted =>
    cases hStep
    exact .setThread hLedger hIn (.refl s) (hCustody.frame hCalls rfl)
  case setDone needsWrite =>
    cases hStep
    have hHalf : Half t s ((s.setJob f.job { s.jobs f.job with done := true }).setThread t
        ⟨m, some { f with pc := .release true needsWrite }, none⟩) := by
      refine .setJob hLedger hIn id (fun _ hNot => by cases hNot) (hCustody.frame hCalls ?_)
      rw [Function.update_self]
      exact ⟨rfl, fun _ => hPc⟩
    exact hHalf.emit _
  case release settled needsWrite =>
    split at hStep
    · cases hStep
      refine .setJob hLedger hIn id (fun _ hNot => ?_) (hCustody.frame hCalls ?_)
      · cases hPc.1.symm.trans hNot
      · rw [Function.update_self]
        exact hPc.1
    · cases hStep
      refine .setJob hLedger hIn id (fun _ hNot => ?_)
        (Thread.custody_at (hCalls.afterCustody hCustody.main))
      cases hPc.1.symm.trans hNot
  case persist =>
    split at hStep
    · cases hStep
      refine .setThread hLedger hIn (.refl s) ⟨hCustody.main, ?_, ?_, ?_, ?_, ?_⟩
      · rintro g ⟨⟩
        exact hPc
      · rintro g j ⟨⟩ hMain
        exact hCustody.served f j rfl hMain
      · rintro g g' ⟨⟩ ⟨⟩
        exact ⟨rfl, rfl, fun h => absurd rfl h⟩
      · rintro g j ⟨⟩ hMain
        rw [show m = _ from hMain] at hCalls
        cases hCalls
      · rintro g - ⟨⟩
    · cases hStep
      exact .setThread hLedger hIn (.refl s) (hCustody.frame hCalls hPc)
  case upsert => cases hStep
  case broadcast =>
    have hHalf : Half t s (s.goto t m.afterSettle) :=
      .goto hLedger hIn (.refl s) (hCalls.afterCustody hCustody.main)
    split at hStep
    · cases hStep
      exact hHalf.emit _
    · cases hStep
      exact hHalf

theorem snapReads_status {n : Nat} {read : Job R → Snapshot R → Snapshot R}
    (hRead : (snapReads R)[n]? = some read) (job : Job R) (sn : Snapshot R) :
    (read job sn).status = if n = 0 then job.status else sn.status := by
  match n, hRead with
  | 0, rfl | 1, rfl | 2, rfl | 3, rfl | 4, rfl | 5, rfl => rfl

theorem Thread.Custody.stored {stopping : Bool} {jobs : JobId → Job R} {g : SnapFrame R}
    (h : (⟨m, some f, some g⟩ : Thread R).Custody stopping jobs) (hCalls : m.CallsSettle) :
    (⟨m, some { f with pc := .broadcast }, none⟩ : Thread R).Custody stopping jobs := by
  have hPc := h.settle f rfl
  rw [(h.pending f g rfl rfl).1] at hPc
  refine ⟨hCalls.custody h.main, ?_, ?_, ?_, ?_, ?_⟩
  · rintro g ⟨⟩
    exact hPc
  · rintro g j ⟨⟩ hAt
    exact h.served f j rfl hAt
  · rintro g g' - ⟨⟩
  · rintro g j ⟨⟩
  · rintro g ⟨⟩

theorem snapStep_half {settle : Option (SettleFrame R)} {g : SnapFrame R}
    (hs : (custody R cfg).Holds s) (hTh : s.threads t = ⟨m, settle, some g⟩)
    (hStep : snapStep s t m settle g = some s') : Half t s s' := by
  obtain ⟨hIn, hOk, hCustody⟩ := self_custody hs hTh (by rintro ⟨⟩)
  have hLedger := hs.1.2
  unfold snapStep at hStep
  split at hStep
  · rename_i read hRead
    cases hStep
    refine .setThread hLedger hIn (.refl s)
      ⟨hCustody.main, hCustody.settle, hCustody.served, ?_, ?_,
        fun _ _ hNone => hCustody.reading g rfl hNone⟩
    · rintro f g' hf ⟨⟩
      obtain ⟨hPc, hJob, hFinal⟩ := hCustody.pending f g hf rfl
      refine ⟨hPc, hJob, fun _ => ?_⟩
      change (read (s.jobs g.job) g.got).status.Final
      rw [snapReads_status hRead]
      split
      · have hDone := hCustody.settle f hf
        rw [hPc] at hDone
        rw [hJob]
        exact (hs.1.1.complete f.job).final hDone
      · rename_i hNext
        exact hFinal hNext
    · rintro g' j ⟨⟩ hMain
      exact hCustody.deferred g j rfl hMain
  · split at hStep
    · cases hStep
      apply Half.emit
      exact .setThread hLedger hIn ⟨rfl, rfl, rfl, rfl, fun _ => id⟩
        (hCustody.stored (hOk.settle _ rfl).1)
    · cases hStep
      apply Half.emit
      apply Half.emit
      exact .goto hLedger hIn ⟨rfl, rfl, rfl, rfl, fun _ => id⟩ trivial
    · cases hStep
      apply Half.emit
      exact .goto hLedger hIn (.refl s) trivial

theorem upsertFails_half (hs : (custody R cfg).Holds s) (hStep : upsertFails s t = some s') :
    Half t s s' := by
  unfold upsertFails at hStep
  rcases hTh : s.threads t with ⟨m, settle, snap⟩
  simp only [hTh] at hStep
  split at hStep
  · cases hStep
  · obtain ⟨hIn, hOk, hCustody⟩ := self_custody hs hTh (by rintro ⟨⟩)
    split at hStep
    · cases hStep
    · split at hStep
      · cases hStep
        exact .setThread hs.1.2 hIn (.refl s) (hCustody.stored (hOk.settle _ rfl).1)
      · cases hStep
        apply Half.emit
        exact .goto hs.1.2 hIn (.refl s) trivial
      · cases hStep

end Settle

/-! ## Steps outside `_settle` and `snapshot` -/

section MainSteps

variable {s₁ : State R} {m : Main R} {j : JobId}

theorem Half.callSettle (h : Ledger s) (hIn : t < s.nextThread) (hSame : SameFrame s s₁)
    (hMain : m.Custody s.stopping s.jobs) (hOwn : ∀ k, m = .workSettle k → j = k) (o : Outcome R)
    (timedOut : Bool) : Half t s (callSettle s₁ t m j o timedOut) := by
  refine .setThread h hIn hSame ⟨hMain, ?_, ?_, ?_, ?_, ?_⟩
  · rintro f ⟨⟩
    trivial
  · rintro f k ⟨⟩ hAt
    exact hOwn k hAt
  · rintro f g - ⟨⟩
  · rintro g k ⟨⟩
  · rintro g ⟨⟩

theorem Half.acquire (h : Ledger s) (hIn : t < s.nextThread) (hLock : (s.jobs j).lock = none)
    (hMain : ∀ jobs : JobId → Job R, Calm (jobs j) → m.Custody s.stopping jobs) :
    Half t s ((s.setJob j { s.jobs j with lock := some t }).goto t m) := by
  refine .setJob h hIn id nofun (Thread.custody_at (hMain _ ?_))
  rw [Function.update_self]
  exact h.calm j hLock

theorem Half.attr (h : Ledger s) (hIn : t < s.nextThread) {job : Job R} (hCalm : Calm job)
    (hPersisted : (s.jobs j).persisted = true → job.persisted = true)
    (hMain : ∀ jobs : JobId → Job R, jobs j = job → m.Custody s.stopping jobs) :
    Half t s ((s.setJob j job).goto t m) :=
  .setJob h hIn hPersisted (fun _ => hCalm)
    (Thread.custody_at (hMain _ (Function.update_self ..)))

theorem Half.stop (h : Ledger s) (hIn : t < s.nextThread) (n : Nat) :
    Half t s ({ s with stopping := true }.goto t (.stopDrain n)) := by
  refine ⟨⟨fun _ => id, fun _ => rfl⟩, ⟨h.calm, fun u hu => ?_, fun hStop => by cases hStop⟩, ?_,
    fun u hu => Or.inl ?_⟩
  · have hut : u ≠ t := fun hut => Nat.not_lt.mpr hu (hut ▸ hIn)
    change Function.update s.threads t _ u = _
    rw [Function.update_of_ne hut]
    exact h.spare u hu
  · change (Function.update s.threads t _ t).Custody true s.jobs
    rw [Function.update_self]
    exact Thread.custody_at rfl
  · change Function.update s.threads t _ u = _
    rw [Function.update_of_ne hu]

theorem Half.sentinel (h : Ledger s) (hIn : t < s.nextThread) (hStop : s.stopping = true) (n : Nat) :
    Half t s ({ s with queue := s.queue ++ [none], unfinished := s.unfinished + 1 }.goto t
      (.stopSentinels n)) := by
  have hHalf : Half t s (s.goto t (.stopSentinels n)) := .goto h hIn (.refl s) hStop
  exact ⟨⟨fun _ => id, id⟩, ⟨h.calm, hHalf.ledger.spare, fun hNot => by cases hStop.symm.trans hNot⟩,
    hHalf.self, hHalf.others⟩

theorem mainStep_half (hs : (custody R cfg).Holds s) (hTh : s.threads t = .at m)
    (hStep : mainStep cfg s t m = some s') : Half t s s' := by
  have hUsed : Thread.at m ≠ .at .unused := by
    rintro ⟨⟩
    cases hStep
  obtain ⟨hIn, hOk, hCustody⟩ := self_custody hs hTh hUsed
  have hLedger := hs.1.2
  have hMain := hCustody.main
  have hHolds := hOk.main
  have hSame := SameFrame.refl s
  clear hUsed hTh
  simp only [Thread.at] at hMain hHolds
  cases m <;> simp only [mainStep] at hStep <;> try cases hStep
  case submitWait j persist =>
    split at hStep <;> cases hStep
    exact .goto hLedger hIn hSame trivial
  case readDiscard j => exact .goto hLedger hIn (.discard s j) trivial
  case readForget j =>
    apply Half.emit
    exact .goto hLedger hIn ⟨rfl, rfl, rfl, rfl, fun _ => id⟩ trivial
  case answerForget j => exact .goto hLedger hIn ⟨rfl, rfl, rfl, rfl, fun _ => id⟩ trivial
  case answerException j =>
    split at hStep <;> cases hStep
    · apply Half.emit
      exact .goto hLedger hIn hSame trivial
    · exact .goto hLedger hIn hSame trivial
  case answerResult j =>
    apply Half.emit
    exact .goto hLedger hIn hSame trivial
  case deferAcquire j =>
    split at hStep <;> cases hStep
    rename_i hLock
    exact .acquire hLedger hIn hLock fun _ h => h
  case deferCheck j =>
    split
    · exact .goto hLedger hIn hSame hMain
    · exact .goto hLedger hIn hSame hMain
  case deferForget j => exact .goto hLedger hIn ⟨rfl, rfl, rfl, rfl, fun _ => id⟩ hMain
  case deferException j =>
    split at hStep <;> cases hStep
    · exact .goto hLedger hIn hSame hMain
    · exact .goto hLedger hIn hSame hMain
  case deferResult j => exact .goto hLedger hIn hSame hMain
  case deferAnswer j a =>
    apply Half.emit
    exact .attr hLedger hIn hMain id fun _ _ => trivial
  case deferClaim j =>
    refine .attr hLedger hIn hMain (fun _ => rfl) fun jobs hJob => ?_
    change Calm (jobs j) ∧ (jobs j).persisted = true
    rw [hJob]
    exact ⟨hMain, rfl⟩
  case deferRelease j =>
    refine .attr hLedger hIn hMain.1 id fun jobs hJob => ?_
    change (jobs j).persisted = true
    rw [hJob]
    exact hMain.2
  case deferPersist j =>
    split at hStep <;> cases hStep
    · apply Half.setThread hLedger hIn hSame
      refine ⟨hMain, ?_, ?_, ?_, ?_, ?_⟩
      · rintro f ⟨⟩
      · rintro f k ⟨⟩
      · rintro f g ⟨⟩
      · rintro g k ⟨⟩ ⟨⟩
        rfl
      · exact fun _ _ _ => ⟨j, Or.inl rfl⟩
    · apply Half.emit
      exact .goto hLedger hIn hSame trivial
  case workLoop =>
    split
    · exact .goto hLedger hIn hSame trivial
    · exact .goto hLedger hIn hSame trivial
  case workGet =>
    split at hStep <;> cases hStep
    · rename_i rest hQueue
      refine .goto hLedger hIn (.dequeue hQueue) ?_
      change s.stopping = true
      cases hStop : s.stopping with
      | true => rfl
      | false => exact absurd (hQueue ▸ List.mem_cons_self) (hLedger.sentinels hStop)
    · rename_i j rest hQueue
      exact .goto hLedger hIn (.dequeue hQueue) trivial
  case workSentinel => exact .goto hLedger hIn ⟨rfl, rfl, rfl, rfl, fun _ => id⟩ trivial
  case workStopping j =>
    split at hStep <;> cases hStep
    · rename_i hStop
      apply Half.callSettle hLedger hIn hSame
      · exact hStop
      · exact fun _ h => by cases h
    · exact .goto hLedger hIn hSame trivial
  case workAcquire j =>
    split at hStep <;> cases hStep
    rename_i hLock
    exact .acquire hLedger hIn hLock fun _ h => h
  case workCheck j =>
    split
    · exact .goto hLedger hIn hSame hMain
    · exact .goto hLedger hIn hSame hMain
  case workSkip j => exact .goto hLedger hIn ⟨rfl, rfl, rfl, rfl, fun _ => id⟩ hMain
  case workSkipRelease j => exact .attr hLedger hIn hMain id fun _ _ => trivial
  case workStart j =>
    refine .attr hLedger hIn hMain id fun jobs hJob => ?_
    change Calm (jobs j)
    rw [hJob]
    exact hMain
  case workClock j =>
    refine .attr hLedger hIn hMain id fun jobs hJob => ?_
    change Calm (jobs j)
    rw [hJob]
    exact hMain
  case workRegister j => exact .goto hLedger hIn ⟨rfl, rfl, rfl, rfl, fun _ => id⟩ hMain
  case workRelease j => exact .attr hLedger hIn hMain id fun _ _ => trivial
  case workTaskDone j => exact .goto hLedger hIn ⟨rfl, rfl, rfl, rfl, fun _ => id⟩ trivial
  case workUnregister j => exact .goto hLedger hIn ⟨rfl, rfl, rfl, rfl, fun _ => id⟩ trivial
  case workRetire j =>
    split
    · exact .goto hLedger hIn hSame trivial
    · exact .goto hLedger hIn hSame trivial
  case workExit => exact .goto hLedger hIn ⟨rfl, rfl, rfl, rfl, fun _ => id⟩ trivial
  case watchWait =>
    split
    · exact .goto hLedger hIn hSame trivial
    · exact .goto hLedger hIn hSame trivial
  case watchScan now => exact .goto hLedger hIn hSame trivial
  case watchNext js =>
    cases js with
    | nil =>
      cases hStep
      exact .goto hLedger hIn hSame trivial
    | cons j rest =>
      cases hStep
      apply Half.callSettle hLedger hIn hSame
      · trivial
      · exact fun _ h => by cases h
  case stopBegin => exact .stop hLedger hIn _
  case stopDrain n =>
    split at hStep <;> cases hStep
    · exact .goto hLedger hIn hSame hMain
    · rename_i rest hQueue
      exact .goto hLedger hIn (.dequeue hQueue) hMain
    · rename_i j rest hQueue
      apply Half.callSettle hLedger hIn (.dequeue hQueue)
      · exact hMain
      · exact fun _ h => by cases h
  case stopTaskDone n => exact .goto hLedger hIn ⟨rfl, rfl, rfl, rfl, fun _ => id⟩ hMain
  case stopSentinels n =>
    cases n with
    | zero =>
      cases hStep
      exact .goto hLedger hIn hSame hMain
    | succ n =>
      cases hStep
      exact .sentinel hLedger hIn hMain n
  case stopJoin => exact .goto hLedger hIn hSame hMain
  case stopRest =>
    split at hStep <;> cases hStep
    · exact .goto hLedger hIn hSame trivial
    · rename_i rest hQueue
      exact .goto hLedger hIn
        ⟨rfl, rfl, rfl, rfl, fun _ hx => hQueue ▸ List.mem_cons_of_mem _ hx⟩ hMain
  case getLookup j =>
    split at hStep <;> cases hStep
    · exact .goto hLedger hIn hSame trivial
    · apply Half.emit
      exact .goto hLedger hIn hSame trivial
  case getSnapshot j =>
    apply Half.setThread hLedger hIn hSame
    refine ⟨trivial, ?_, ?_, ?_, ?_, ?_⟩
    · rintro f ⟨⟩
    · rintro f k ⟨⟩
    · rintro f g ⟨⟩
    · rintro g k - ⟨⟩
    · exact fun _ _ _ => ⟨j, Or.inr rfl⟩

end MainSteps

/-! ## The labels from outside -/

theorem Half.spawn (h : Ledger s) (hMain : m.Custody s.stopping s.jobs) :
    Half s.nextThread s (s.spawn m) := by
  refine ⟨⟨fun _ => id, id⟩, ⟨h.calm, fun u hu => ?_, h.sentinels⟩, ?_, fun u hu => Or.inl ?_⟩
  · change s.nextThread + 1 ≤ u at hu
    have hun : u ≠ s.nextThread := fun hun => Nat.not_succ_le_self _ (hun ▸ hu)
    change Function.update s.threads s.nextThread _ u = _
    rw [Function.update_of_ne hun]
    exact h.spare u (Nat.le_of_succ_le hu)
  · change (Function.update s.threads s.nextThread _ s.nextThread).Custody _ _
    rw [Function.update_self]
    exact Thread.custody_at hMain
  · change Function.update s.threads s.nextThread _ u = _
    rw [Function.update_of_ne hu]

theorem Half.submit (hs : (custody R cfg).Holds s) (kind : String) (persist : Bool) :
    Half s.nextThread s (submit s kind persist) := by
  have hLedger := hs.1.2
  simp only [Jobs.submit]
  split
  · apply Half.emit
    have hHalf : Half s.nextThread s (s.spawn .finished) := .spawn hLedger trivial
    exact ⟨hHalf.lasting, hHalf.ledger, hHalf.self, hHalf.others⟩
  · have hBlank : s.jobs s.nextJob = .new "" 0 := hs.1.1.blank _ (Nat.le_refl _)
    have hHalf : Half s.nextThread s (s.spawn (.submitWait s.nextJob persist)) :=
      .spawn hLedger trivial
    refine ⟨⟨fun j hj => ?_, id⟩, ⟨fun j hj => ?_, hHalf.ledger.spare, fun hStop hMem => ?_⟩, ?_,
      hHalf.others⟩
    · change (Function.update s.jobs s.nextJob _ j).persisted = true
      by_cases hjn : j = s.nextJob
      · rw [hjn, hBlank] at hj
        cases hj
      · rw [Function.update_of_ne hjn]
        exact hj
    · change (Function.update s.jobs s.nextJob _ j).lock = none at hj
      change Calm (Function.update s.jobs s.nextJob _ j)
      by_cases hjn : j = s.nextJob
      · rw [hjn, Function.update_self]
        exact fun _ => rfl
      · rw [Function.update_of_ne hjn] at hj ⊢
        exact hLedger.calm j hj
    · rcases List.mem_append.mp hMem with hMem | hMem
      · exact hLedger.sentinels hStop hMem
      · cases List.mem_singleton.mp hMem
    · change (Function.update s.threads s.nextThread _ s.nextThread).Custody _ _
      rw [Function.update_self]
      exact Thread.custody_at trivial

theorem step_half (hs : (custody R cfg).Holds s) {l : Label R} (hStep : step cfg s l = some s') :
    Half (l.actor s) s s' := by
  have hLedger := hs.1.2
  cases l <;> simp only [step] at hStep
  case tick m u =>
    cases hStep
    exact ⟨⟨fun _ => id, id⟩, ⟨hLedger.calm, hLedger.spare, hLedger.sentinels⟩, (hs.2 0).2,
      fun _ _ => Or.inl rfl⟩
  case submit kind persist =>
    cases hStep
    exact .submit hs kind persist
  case get j =>
    cases hStep
    exact .spawn hLedger trivial
  case shutdown =>
    cases hStep
    exact .spawn hLedger trivial
  case reap cutoff =>
    cases hStep
    exact ⟨⟨fun _ => id, id⟩, ⟨hLedger.calm, hLedger.spare, hLedger.sentinels⟩, (hs.2 0).2,
      fun _ _ => Or.inl rfl⟩
  case run t =>
    rcases hTh : s.threads t with ⟨m, settle, snap⟩
    simp only [threadStep, hTh] at hStep
    cases snap with
    | some f => exact snapStep_half hs hTh hStep
    | none =>
      cases settle with
      | some f => exact settleStep_half hs hTh hStep
      | none => exact mainStep_half hs hTh hStep
  case waitTimesOut t =>
    unfold waitTimesOut at hStep
    split at hStep
    · rename_i j persist hTh
      obtain ⟨hIn, -, -⟩ := self_custody hs hTh (by rintro ⟨⟩)
      split at hStep
      · cases hStep
      · split at hStep
        · cases hStep
          exact .goto hLedger hIn (.refl s) trivial
        · cases hStep
          apply Half.callSettle hLedger hIn (.refl s)
          · trivial
          · exact fun _ h => by cases h
    · cases hStep
  case handlerReturns t o =>
    unfold handlerReturns at hStep
    split at hStep
    · rename_i j hTh
      obtain ⟨hIn, -, -⟩ := self_custody hs hTh (by rintro ⟨⟩)
      cases hStep
      apply Half.emit
      apply Half.callSettle hLedger hIn (.refl s)
      · trivial
      · rintro k ⟨⟩
        rfl
    · cases hStep
  case upsertFails t => exact upsertFails_half hs hStep

theorem custody_moves (hs : (custody R cfg).Holds s) {l : Label R}
    (hStep : step cfg s l = some s') : (custody R cfg).Moves (l.actor s) s s' := by
  have hOutline : (outline R cfg).Holds s := ⟨hs.1.1, fun t => (hs.2 t).1⟩
  have hMoves := step_moves hOutline hStep
  have hHalf := step_half hs hStep
  refine ⟨⟨hMoves.guar, hHalf.lasting⟩, ⟨hMoves.shared, hHalf.ledger⟩,
    ⟨hMoves.self, hHalf.self⟩, fun u hu => ?_⟩
  rcases hHalf.others u hu with hSame | ⟨-, hNew⟩
  · exact Or.inl hSame
  · refine Or.inr ?_
    change ((s'.threads u).Known _ ∧ (s'.threads u).Ok u _) ∧ (s'.threads u).Custody _ _
    rw [hNew]
    exact ⟨⟨Thread.known_at (by simp [Main.names]), Thread.ok_at trivial⟩,
      Thread.custody_at trivial⟩

theorem custody_initial (cfg : Config) (monotonic utc : Nat) :
    (custody R cfg).Holds (initial R cfg monotonic utc) := by
  have hFirst := outline_initial (R := R) cfg monotonic utc
  refine ⟨⟨hFirst.1, ⟨fun _ _ _ => rfl, fun t ht => ?_, fun _ hMem => by cases hMem⟩⟩,
    fun t => ⟨hFirst.2 t, ?_⟩⟩
  · change cfg.workerLimit + 1 ≤ t at ht
    have hWorker : ¬ t < cfg.workerLimit := by omega
    have hWatchdog : ¬ t = cfg.workerLimit := by omega
    change ite _ _ _ = _
    rw [if_neg hWorker, if_neg hWatchdog]
  · change Thread.Custody _ _ (ite _ _ _)
    split
    · exact Thread.custody_at trivial
    · split
      · exact Thread.custody_at trivial
      · exact Thread.custody_at trivial

theorem custody_invariant (cfg : Config) :
    StepRun.Invariant (step (R := R) cfg) (custody R cfg).Holds :=
  RelyGuarantee.invariant (custody_stable cfg) fun _ _ _ hs hStep => ⟨_, custody_moves hs hStep⟩

theorem custody_run {monotonic utc : Nat} {ls : List (Label R)}
    (hRun : run cfg monotonic utc ls = some s) : (custody R cfg).Holds s :=
  (custody_invariant cfg).run (custody_initial cfg monotonic utc) hRun

end Sniff4Hound.Jobs
