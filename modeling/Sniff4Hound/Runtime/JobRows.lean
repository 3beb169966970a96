import Sniff4Hound.Runtime.JobContract
import Sniff4Hound.Runtime.JobCustody

/-!
# The row of a deferred job

A deferred job is written to the `jobs` table twice: by the thread that submitted it, with the
snapshot it takes right after claiming the job, and by the thread that settles it. Both writes
come after the lock is given back, so either can be the last one. The final one stays as long
as the first, when it shows a job that is not over, comes before it (`final_row_kept`).
-/

namespace Sniff4Hound.Jobs

variable {R : Type} {cfg : Config} {s s' : State R} {t : ThreadId} {j : JobId}

/-! ## The table -/

def JOB_RESULT_PERSIST_MAX_BYTES : Nat := 256 * 1024

/-- A row of the jobs table. -/
structure JobRow where
  kind : String
  status : Status
  result_json : String
  error : String
  error_type : String
  created_at : Nat
  finished_at : Option Nat
  deriving DecidableEq, Repr

def resultJson (json_dumps : R → String) (result : Option R) : String :=
  (result.map json_dumps).getD ""

/-- `json_dumps({"omitted": True, "bytes": n})` -/
def omittedJson (n : Nat) : String :=
  "\x7b\"omitted\":true,\"bytes\":" ++ toString n ++ "\x7d"

/-- The row `upsert_job` leaves. On a conflict `kind` and `created_at` stay, which are the same
in every snapshot of a job. -/
def upsert_job (json_dumps : R → String) (sn : Snapshot R) : JobRow :=
  let result_json := resultJson json_dumps sn.result
  let row : JobRow := ⟨sn.kind, sn.status, result_json, sn.error, sn.errorType, sn.createdAt,
    sn.finishedAt⟩
  if JOB_RESULT_PERSIST_MAX_BYTES < result_json.length then
    let row := { row with result_json := omittedJson result_json.length }
    if sn.status = .done then
      { row with
        status := .error
        error := "Job result exceeded the persistence limit; retry the request."
        error_type := "ResultTooLarge" }
    else row
  else row

def jobRow (json_dumps : R → String) (s : State R) (j : JobId) : Option JobRow :=
  (s.rows j).map (upsert_job json_dumps)

/-- The row says of the job what the job says. -/
structure JobRow.Shows (json_dumps : R → String) (row : JobRow) (job : Job R) : Prop where
  status : row.status = job.status
  result : row.result_json = resultJson json_dumps job.result
  error : row.error = job.error
  errorType : row.error_type = job.errorType
  finishedAt : row.finished_at = job.finishedAt

variable {job : Job R}

theorem upsert_job_shows {json_dumps : R → String} {sn : Snapshot R} (hShows : sn.Shows job)
    (hSize : (resultJson json_dumps job.result).length ≤ JOB_RESULT_PERSIST_MAX_BYTES) :
    (upsert_job json_dumps sn).Shows json_dumps job := by
  have hFits : ¬ JOB_RESULT_PERSIST_MAX_BYTES < (resultJson json_dumps sn.result).length := by
    rw [hShows.result]
    omega
  rw [upsert_job, if_neg hFits]
  refine ⟨hShows.status, ?_, hShows.error, hShows.errorType, hShows.finishedAt⟩
  change resultJson json_dumps sn.result = _
  rw [hShows.result]

/-! ## The condition -/

/-- The submitter stores a snapshot of a job that is over, or stores the first row of the job;
and the write of the thread that settled the job does not fail. -/
def Timely (j : JobId) (s : State R) : Label R → Prop
  | .run t =>
    match s.threads t with
    | ⟨.deferUpsert _, none, some g⟩ =>
      g.job = j → (snapReads R).length ≤ g.next → g.got.status.Final ∨ (s.rows j).isNone = true
    | _ => True
  | .upsertFails t =>
    match (s.threads t).settle with
    | some f => f.job ≠ j
    | none => True
  | _ => True

instance (j : JobId) (s : State R) : (l : Label R) → Decidable (Timely j s l)
  | .run t => by
    unfold Timely
    dsimp only
    split <;> infer_instance
  | .upsertFails t => by
    unfold Timely
    dsimp only
    split <;> infer_instance
  | .tick _ _ | .submit _ _ | .get _ | .shutdown | .reap _ | .waitTimesOut _
  | .handlerReturns _ _ => isTrue trivial

/-! ## The invariant -/

def FinalRow (s : State R) (j : JobId) : Prop := ∃ sn, s.rows j = some sn ∧ sn.status.Final

/-- The frame has still to write the row of the job. -/
def SettleFrame.Pending (j : JobId) (f : SettleFrame R) : Prop :=
  f.job = j ∧ (f.pc = .release true true ∨ f.pc = .persist ∨ f.pc = .upsert)

def RowKept (s : State R) (j : JobId) : Prop :=
  (s.jobs j).persisted = true → (s.jobs j).done = true →
    FinalRow s j ∨ ∃ t f, (s.threads t).settle = some f ∧ f.Pending j

structure RowFrame (j : JobId) (t : ThreadId) (s s' : State R) : Prop where
  row : s'.rows j = s.rows j
  done : (s'.jobs j).done = (s.jobs j).done
  persisted : (s'.jobs j).persisted = (s.jobs j).persisted ∨ (s.jobs j).done = false
  pending : ∀ f, (s.threads t).settle = some f → f.Pending j →
    ∃ f', (s'.threads t).settle = some f' ∧ f'.Pending j

theorem Half.pending (hHalf : Half t s s')
    (hSelf : ∀ f, (s.threads t).settle = some f → f.Pending j →
      FinalRow s' j ∨ ∃ f', (s'.threads t).settle = some f' ∧ f'.Pending j)
    (h : ∃ u f, (s.threads u).settle = some f ∧ f.Pending j) :
    FinalRow s' j ∨ ∃ u f, (s'.threads u).settle = some f ∧ f.Pending j := by
  obtain ⟨u, f, hSettle, hPending⟩ := h
  by_cases hut : u = t
  · subst hut
    rcases hSelf f hSettle hPending with hFinal | ⟨f', hf', hPending'⟩
    · exact Or.inl hFinal
    · exact Or.inr ⟨u, f', hf', hPending'⟩
  · rcases hHalf.others u hut with hSame | ⟨hUnused, -⟩
    · exact Or.inr ⟨u, f, by rw [hSame]; exact hSettle, hPending⟩
    · rw [hUnused] at hSettle
      cases hSettle

theorem RowFrame.keeps (h : RowFrame j t s s') (hHalf : Half t s s') (hKept : RowKept s j) :
    RowKept s' j := by
  intro hPersisted hDone
  rw [h.done] at hDone
  have hOld : (s.jobs j).persisted = true := by
    rcases h.persisted with hSame | hNot
    · rw [← hSame]
      exact hPersisted
    · cases hDone.symm.trans hNot
  rcases hKept hOld hDone with ⟨sn, hRow, hFinal⟩ | hPending
  · exact Or.inl ⟨sn, h.row.trans hRow, hFinal⟩
  · exact hHalf.pending (fun f hf hp => Or.inr (h.pending f hf hp)) hPending

theorem RowFrame.of_setThread {s₁ : State R} {th : Thread R} (hRow : s₁.rows j = s.rows j)
    (hDone : (s₁.jobs j).done = (s.jobs j).done)
    (hPersisted : (s₁.jobs j).persisted = (s.jobs j).persisted ∨ (s.jobs j).done = false)
    (hPending : ∀ f, (s.threads t).settle = some f → f.Pending j →
      ∃ f', th.settle = some f' ∧ f'.Pending j) : RowFrame j t s (s₁.setThread t th) := by
  refine ⟨hRow, hDone, hPersisted, fun f hf hp => ?_⟩
  change ∃ f', (Function.update s₁.threads t th t).settle = some f' ∧ _
  rw [Function.update_self]
  exact hPending f hf hp

theorem RowFrame.of_same {s₁ : State R} (hJobs : s₁.jobs = s.jobs) (hRows : s₁.rows = s.rows)
    (hTh : (s.threads t).settle = none) (th : Thread R) : RowFrame j t s (s₁.setThread t th) := by
  refine .of_setThread (congrFun hRows j) (congrArg Job.done (congrFun hJobs j))
    (Or.inl (congrArg Job.persisted (congrFun hJobs j))) fun f hf => ?_
  rw [hTh] at hf
  cases hf

theorem persisted_same {k : JobId} {jobs : JobId → Job R}
    (h : job.persisted = (jobs k).persisted ∨ (jobs k).done = false) :
    (Function.update jobs k job j).persisted = (jobs j).persisted ∨ (jobs j).done = false := by
  by_cases hjk : j = k
  · rw [hjk, Function.update_self]
    exact h
  · rw [Function.update_of_ne hjk]
    exact Or.inl rfl

theorem RowFrame.of_setJob {k : JobId} (hDone : job.done = (s.jobs k).done)
    (hPersisted : job.persisted = (s.jobs k).persisted ∨ (s.jobs k).done = false)
    (hTh : (s.threads t).settle = none) (th : Thread R) :
    RowFrame j t s ((s.setJob k job).setThread t th) := by
  refine .of_setThread rfl (count_same hDone j) (persisted_same hPersisted) fun f hf => ?_
  rw [hTh] at hf
  cases hf

theorem RowFrame.emit (h : RowFrame j t s s') (e : Event R) : RowFrame j t s (s'.emit e) :=
  ⟨h.row, h.done, h.persisted, h.pending⟩

/-! ## Every step -/

theorem mainStep_row {m : Main R} (hs : (custody R cfg).Holds s) (hTh : s.threads t = .at m)
    (hStep : mainStep cfg s t m = some s') : RowFrame j t s s' := by
  have hNone : (s.threads t).settle = none := by rw [hTh]; rfl
  have hOk : m.Ok t s.jobs := by
    have hMain : (s.threads t).main.Ok t s.jobs := (hs.2 t).1.2.main
    rwa [hTh] at hMain
  clear hTh
  cases m <;> simp only [mainStep] at hStep <;> try cases hStep
  case submitWait i persist =>
    split at hStep <;> cases hStep
    refine .of_same ?_ ?_ hNone _ <;> rfl
  case readDiscard i =>
    unfold discard
    split
    · refine .of_same ?_ ?_ hNone _ <;> rfl
    · refine .of_same ?_ ?_ hNone _ <;> rfl
  case readForget i =>
    apply RowFrame.emit
    refine .of_same ?_ ?_ hNone _ <;> rfl
  case answerForget i => refine .of_same ?_ ?_ hNone _ <;> rfl
  case answerException i =>
    split at hStep <;> cases hStep
    · apply RowFrame.emit
      refine .of_same ?_ ?_ hNone _ <;> rfl
    · refine .of_same ?_ ?_ hNone _ <;> rfl
  case answerResult i =>
    apply RowFrame.emit
    refine .of_same ?_ ?_ hNone _ <;> rfl
  case deferAcquire i =>
    split at hStep <;> cases hStep
    refine .of_setJob ?_ (Or.inl ?_) hNone _ <;> rfl
  case deferCheck i => refine .of_same ?_ ?_ hNone _ <;> rfl
  case deferForget i => refine .of_same ?_ ?_ hNone _ <;> rfl
  case deferException i =>
    split at hStep <;> cases hStep
    · refine .of_same ?_ ?_ hNone _ <;> rfl
    · refine .of_same ?_ ?_ hNone _ <;> rfl
  case deferResult i => refine .of_same ?_ ?_ hNone _ <;> rfl
  case deferAnswer i a =>
    apply RowFrame.emit
    refine .of_setJob ?_ (Or.inl ?_) hNone _ <;> rfl
  case deferClaim i =>
    refine .of_setJob ?_ (Or.inr hOk.2.2) hNone _
    rfl
  case deferRelease i => refine .of_setJob ?_ (Or.inl ?_) hNone _ <;> rfl
  case deferPersist i =>
    split at hStep <;> cases hStep
    · refine .of_same ?_ ?_ hNone _ <;> rfl
    · apply RowFrame.emit
      refine .of_same ?_ ?_ hNone _ <;> rfl
  case workLoop => refine .of_same ?_ ?_ hNone _ <;> rfl
  case workGet =>
    split at hStep <;> cases hStep
    · refine .of_same ?_ ?_ hNone _ <;> rfl
    · refine .of_same ?_ ?_ hNone _ <;> rfl
  case workSentinel => refine .of_same ?_ ?_ hNone _ <;> rfl
  case workStopping i =>
    split at hStep <;> cases hStep
    · refine .of_same ?_ ?_ hNone _ <;> rfl
    · refine .of_same ?_ ?_ hNone _ <;> rfl
  case workAcquire i =>
    split at hStep <;> cases hStep
    refine .of_setJob ?_ (Or.inl ?_) hNone _ <;> rfl
  case workCheck i => refine .of_same ?_ ?_ hNone _ <;> rfl
  case workSkip i => refine .of_same ?_ ?_ hNone _ <;> rfl
  case workSkipRelease i => refine .of_setJob ?_ (Or.inl ?_) hNone _ <;> rfl
  case workStart i => refine .of_setJob ?_ (Or.inl ?_) hNone _ <;> rfl
  case workClock i => refine .of_setJob ?_ (Or.inl ?_) hNone _ <;> rfl
  case workRegister i => refine .of_same ?_ ?_ hNone _ <;> rfl
  case workRelease i => refine .of_setJob ?_ (Or.inl ?_) hNone _ <;> rfl
  case workTaskDone i => refine .of_same ?_ ?_ hNone _ <;> rfl
  case workUnregister i => refine .of_same ?_ ?_ hNone _ <;> rfl
  case workRetire i => refine .of_same ?_ ?_ hNone _ <;> rfl
  case workExit => refine .of_same ?_ ?_ hNone _ <;> rfl
  case watchWait => refine .of_same ?_ ?_ hNone _ <;> rfl
  case watchScan now => refine .of_same ?_ ?_ hNone _ <;> rfl
  case watchNext js =>
    cases js with
    | nil =>
      cases hStep
      refine .of_same ?_ ?_ hNone _ <;> rfl
    | cons i rest =>
      cases hStep
      refine .of_same ?_ ?_ hNone _ <;> rfl
  case stopBegin => refine .of_same ?_ ?_ hNone _ <;> rfl
  case stopDrain n =>
    split at hStep <;> cases hStep
    · refine .of_same ?_ ?_ hNone _ <;> rfl
    · refine .of_same ?_ ?_ hNone _ <;> rfl
    · refine .of_same ?_ ?_ hNone _ <;> rfl
  case stopTaskDone n => refine .of_same ?_ ?_ hNone _ <;> rfl
  case stopSentinels n =>
    cases n with
    | zero =>
      cases hStep
      refine .of_same ?_ ?_ hNone _ <;> rfl
    | succ n =>
      cases hStep
      refine .of_same ?_ ?_ hNone _ <;> rfl
  case stopJoin => refine .of_same ?_ ?_ hNone _ <;> rfl
  case stopRest =>
    split at hStep <;> cases hStep
    · refine .of_same ?_ ?_ hNone _ <;> rfl
    · refine .of_same ?_ ?_ hNone _ <;> rfl
  case getLookup i =>
    split at hStep <;> cases hStep
    · refine .of_same ?_ ?_ hNone _ <;> rfl
    · apply RowFrame.emit
      refine .of_same ?_ ?_ hNone _ <;> rfl
  case getSnapshot i => refine .of_same ?_ ?_ hNone _ <;> rfl

section Settle

variable {m : Main R} {f : SettleFrame R} {th : Thread R}

theorem RowFrame.frame {job : Job R} (hTh : s.threads t = ⟨m, some f, none⟩)
    (hDone : job.done = (s.jobs f.job).done) (hPersisted : job.persisted = (s.jobs f.job).persisted)
    (hPending : f.Pending j → ∃ f', th.settle = some f' ∧ f'.Pending j) :
    RowFrame j t s ((s.setJob f.job job).setThread t th) := by
  refine .of_setThread rfl (count_same hDone j) (persisted_same (Or.inl hPersisted))
    fun g hg hp => ?_
  rw [hTh] at hg
  obtain rfl : f = g := Option.some.inj hg
  exact hPending hp

theorem RowFrame.move (hTh : s.threads t = ⟨m, some f, none⟩)
    (hPending : f.Pending j → ∃ f', th.settle = some f' ∧ f'.Pending j) :
    RowFrame j t s (s.setThread t th) := by
  refine .of_setThread rfl rfl (Or.inl rfl) fun g hg hp => ?_
  rw [hTh] at hg
  obtain rfl : f = g := Option.some.inj hg
  exact hPending hp

theorem settleStep_row (hStore : cfg.hasStore = true) (hs : (custody R cfg).Holds s)
    (hTh : s.threads t = ⟨m, some f, none⟩) (hKept : RowKept s j)
    (hStep : settleStep cfg s t m f = some s') : RowKept s' j := by
  have hHalf := settleStep_half hs hTh hStep
  have hPc := (self_custody hs hTh (by rintro ⟨⟩)).2.2.settle f rfl
  unfold settleStep at hStep
  cases hAt : f.pc <;> simp only [hAt] at hStep hPc
  case acquire =>
    have hNot : ¬ f.Pending j := by rintro ⟨-, h | h | h⟩ <;> rw [hAt] at h <;> cases h
    split at hStep
    · cases hStep
      refine RowFrame.keeps ?_ hHalf hKept
      refine .frame hTh ?_ ?_ (absurd · hNot) <;> rfl
    · cases hStep
  case check =>
    have hNot : ¬ f.Pending j := by rintro ⟨-, h | h | h⟩ <;> rw [hAt] at h <;> cases h
    cases hStep
    exact (RowFrame.move hTh (absurd · hNot)).keeps hHalf hKept
  case abandon =>
    have hNot : ¬ f.Pending j := by rintro ⟨-, h | h | h⟩ <;> rw [hAt] at h <;> cases h
    split at hStep
    · cases hStep
      refine RowFrame.keeps ?_ hHalf hKept
      refine .of_setThread rfl ?_ ?_ fun g hg hp => ?_
      · apply count_same
        rfl
      · apply persisted_same
        exact Or.inl rfl
      · rw [hTh] at hg
        exact absurd (Option.some.inj hg ▸ hp) hNot
    · cases hStep
      exact (RowFrame.move hTh (absurd · hNot)).keeps hHalf hKept
  case write n =>
    have hNot : ¬ f.Pending j := by rintro ⟨-, h | h | h⟩ <;> rw [hAt] at h <;> cases h
    split at hStep
    · rename_i w hw
      cases hStep
      exact (RowFrame.frame hTh (settleWrites_frame hw _).1 (settleWrites_rest hw _).1
        (absurd · hNot)).keeps hHalf hKept
    · cases hStep
      exact (RowFrame.move hTh (absurd · hNot)).keeps hHalf hKept
  case readPersisted =>
    have hNot : ¬ f.Pending j := by rintro ⟨-, h | h | h⟩ <;> rw [hAt] at h <;> cases h
    cases hStep
    exact (RowFrame.move hTh (absurd · hNot)).keeps hHalf hKept
  case setDone needsWrite =>
    have hNot : ¬ f.Pending j := by rintro ⟨-, h | h | h⟩ <;> rw [hAt] at h <;> cases h
    cases hStep
    by_cases hj : f.job = j
    · -- the job is settled here, and this thread stores it if it was claimed
      intro hPersisted _
      change (Function.update s.jobs f.job { s.jobs f.job with done := true } j).persisted = true
        at hPersisted
      rw [← hj, Function.update_self] at hPersisted
      have hNeeds : needsWrite = true := hPc.trans hPersisted
      refine Or.inr ⟨t, { f with pc := .release true needsWrite }, ?_, hj, Or.inl (by rw [hNeeds])⟩
      change (Function.update s.threads t _ t).settle = _
      rw [Function.update_self]
    · refine RowFrame.keeps ?_ hHalf hKept
      refine .of_setThread rfl ?_ ?_ fun g hg hp => ?_
      · change (Function.update s.jobs f.job _ j).done = _
        rw [Function.update_of_ne (Ne.symm hj)]
      · change (Function.update s.jobs f.job _ j).persisted = _ ∨ _
        rw [Function.update_of_ne (Ne.symm hj)]
        exact Or.inl rfl
      · rw [hTh] at hg
        exact absurd (Option.some.inj hg ▸ hp) hNot
  case release settled needsWrite =>
    split at hStep
    · cases hStep
      refine RowFrame.keeps ?_ hHalf hKept
      refine .frame hTh ?_ ?_ fun hp => ⟨_, rfl, hp.1, Or.inr (Or.inl rfl)⟩ <;> rfl
    · rename_i hNeeds
      have hNot : ¬ f.Pending j := by
        rintro ⟨-, h | h | h⟩ <;> rw [hAt] at h <;> cases h
        exact hNeeds rfl
      cases hStep
      refine RowFrame.keeps ?_ hHalf hKept
      refine .frame hTh ?_ ?_ (absurd · hNot) <;> rfl
  case persist =>
    rw [if_pos hStore] at hStep
    cases hStep
    refine RowFrame.keeps ?_ hHalf hKept
    exact .move hTh fun hp => ⟨_, rfl, hp.1, Or.inr (Or.inr rfl)⟩
  case upsert => cases hStep
  case broadcast =>
    have hNot : ¬ f.Pending j := by rintro ⟨-, h | h | h⟩ <;> rw [hAt] at h <;> cases h
    split at hStep
    · cases hStep
      exact ((RowFrame.move hTh (absurd · hNot)).emit _).keeps hHalf hKept
    · cases hStep
      exact (RowFrame.move hTh (absurd · hNot)).keeps hHalf hKept

theorem RowFrame.store {g : SnapFrame R} (hNe : g.job ≠ j)
    (hPending : ∀ f, (s.threads t).settle = some f → f.Pending j → ∃ f', th.settle = some f' ∧ f'.Pending j) :
    RowFrame j t s
      ({ s with rows := Function.update s.rows g.job (some g.got) }.setThread t th) :=
  .of_setThread (Function.update_of_ne (Ne.symm hNe) ..) rfl (Or.inl rfl) hPending

theorem snapStep_row {settle : Option (SettleFrame R)} {g : SnapFrame R}
    (hs : (custody R cfg).Holds s) (hTh : s.threads t = ⟨m, settle, some g⟩)
    (hKept : RowKept s j) (hTimely : Timely j s (.run t))
    (hStep : snapStep s t m settle g = some s') : RowKept s' j := by
  have hHalf := snapStep_half hs hTh hStep
  have hCustody := (self_custody hs hTh (by rintro ⟨⟩)).2.2
  unfold snapStep at hStep
  split at hStep
  · cases hStep
    refine RowFrame.keeps ?_ hHalf hKept
    refine .of_setThread rfl rfl (Or.inl rfl) fun f hf hp => ⟨f, ?_, hp⟩
    rw [hTh] at hf
    exact hf
  · rename_i hRead
    have hNext : (snapReads R).length ≤ g.next := List.getElem?_eq_none_iff.mp hRead
    split at hStep
    · rename_i f
      obtain ⟨hPc, hJob, hFinal⟩ := hCustody.pending f g rfl rfl
      cases hStep
      by_cases hj : f.job = j
      · -- the settling thread stores what it read after `done.set()`
        refine fun _ _ => Or.inl ⟨g.got, ?_, hFinal fun hZero => ?_⟩
        · change Function.update s.rows g.job (some g.got) j = _
          rw [← hj, hJob, Function.update_self]
        · rw [hZero] at hNext
          cases hNext
      · refine RowFrame.keeps (RowFrame.emit ?_ _) hHalf hKept
        refine .store (fun hgj => hj (hJob.symm.trans hgj)) fun f' hf' hp => ?_
        rw [hTh] at hf'
        obtain rfl : f = f' := Option.some.inj hf'
        exact absurd hp.1 hj
    · rename_i k
      cases hStep
      have hNone : ∀ f, (s.threads t).settle = some f → f.Pending j → False := by
        intro f hf
        rw [hTh] at hf
        cases hf
      by_cases hj : g.job = j
      · rw [Timely, hTh] at hTimely
        intro hPersisted hDone
        rcases hTimely hj hNext with hFinal | hFirst
        · refine Or.inl ⟨g.got, ?_, hFinal⟩
          change Function.update s.rows g.job (some g.got) j = _
          rw [hj, Function.update_self]
        · -- the job is not stored yet, so its settling thread still will
          rcases hKept hPersisted hDone with ⟨sn, hRow, -⟩ | hPending
          · rw [hRow] at hFirst
            cases hFirst
          · exact hHalf.pending (fun f hf hp => (hNone f hf hp).elim) hPending
      · refine RowFrame.keeps (RowFrame.emit (RowFrame.emit ?_ _) _) hHalf hKept
        exact .store hj fun f hf hp => (hNone f hf hp).elim
    · cases hStep
      refine RowFrame.keeps (RowFrame.emit ?_ _) hHalf hKept
      refine .of_same ?_ ?_ ?_ _
      · rfl
      · rfl
      · rw [hTh]

theorem upsertFails_row (hs : (custody R cfg).Holds s) (hKept : RowKept s j)
    (hTimely : Timely j s (.upsertFails t)) (hStep : upsertFails s t = some s') : RowKept s' j := by
  have hHalf := upsertFails_half hs hStep
  unfold upsertFails at hStep
  rcases hTh : s.threads t with ⟨m, settle, snap⟩
  simp only [hTh] at hStep
  rw [Timely, hTh] at hTimely
  split at hStep
  · cases hStep
  · split at hStep
    · cases hStep
    · split at hStep
      · cases hStep
        refine RowFrame.keeps ?_ hHalf hKept
        refine .of_setThread rfl rfl (Or.inl rfl) fun f hf hp => ?_
        rw [hTh] at hf
        cases hf
        exact absurd hp.1 hTimely
      · cases hStep
        refine RowFrame.keeps (RowFrame.emit ?_ _) hHalf hKept
        refine .of_same ?_ ?_ ?_ _
        · rfl
        · rfl
        · rw [hTh]
      · cases hStep

end Settle

theorem submit_row (hs : (custody R cfg).Holds s) (kind : String) (persist : Bool) :
    RowFrame j s.nextThread s (submit s kind persist) := by
  have hSpare : s.threads s.nextThread = .at .unused := hs.1.2.spare _ (Nat.le_refl _)
  have hBlank : s.jobs s.nextJob = .new "" 0 := hs.1.1.blank _ (Nat.le_refl _)
  have hNone : ∀ f, (s.threads s.nextThread).settle = some f → False := by
    intro f hf
    rw [hSpare] at hf
    cases hf
  simp only [submit]
  split
  · exact ⟨rfl, rfl, Or.inl rfl, fun f hf => (hNone f hf).elim⟩
  · refine ⟨rfl, count_same ?_ j, persisted_same (Or.inl ?_), fun f hf => (hNone f hf).elim⟩
    · rw [hBlank]
      rfl
    · rw [hBlank]
      rfl

theorem spawn_row (hs : (custody R cfg).Holds s) (m : Main R) :
    RowFrame j s.nextThread s (s.spawn m) := by
  have hSpare : s.threads s.nextThread = .at .unused := hs.1.2.spare _ (Nat.le_refl _)
  refine ⟨rfl, rfl, Or.inl rfl, fun f hf => ?_⟩
  rw [hSpare] at hf
  cases hf

theorem step_row (hStore : cfg.hasStore = true) (hs : (custody R cfg).Holds s)
    (hKept : RowKept s j) {l : Label R} (hTimely : Timely j s l)
    (hStep : step cfg s l = some s') : RowKept s' j := by
  have hHalf := step_half hs hStep
  cases l <;> simp only [step] at hStep
  case tick m u =>
    cases hStep
    exact hKept
  case submit kind persist =>
    cases hStep
    exact (submit_row hs kind persist).keeps hHalf hKept
  case get k =>
    cases hStep
    exact (spawn_row hs _).keeps hHalf hKept
  case shutdown =>
    cases hStep
    exact (spawn_row hs _).keeps hHalf hKept
  case reap cutoff =>
    cases hStep
    exact hKept
  case run t =>
    rcases hTh : s.threads t with ⟨m, settle, snap⟩
    simp only [threadStep, hTh] at hStep
    cases snap with
    | some f => exact snapStep_row hs hTh hKept hTimely hStep
    | none =>
      cases settle with
      | some f => exact settleStep_row hStore hs hTh hKept hStep
      | none => exact (mainStep_row hs hTh hStep).keeps hHalf hKept
  case waitTimesOut t =>
    unfold waitTimesOut at hStep
    split at hStep
    · rename_i k persist hTh
      have hNone : (s.threads t).settle = none := by rw [hTh]
      split at hStep
      · cases hStep
      · split at hStep
        · cases hStep
          refine RowFrame.keeps ?_ hHalf hKept
          refine .of_same ?_ ?_ hNone _ <;> rfl
        · cases hStep
          refine RowFrame.keeps ?_ hHalf hKept
          refine .of_same ?_ ?_ hNone _ <;> rfl
    · cases hStep
  case handlerReturns t o =>
    unfold handlerReturns at hStep
    split at hStep
    · rename_i k hTh
      have hNone : (s.threads t).settle = none := by rw [hTh]
      cases hStep
      refine RowFrame.keeps (RowFrame.emit ?_ _) hHalf hKept
      refine .of_same ?_ ?_ hNone _ <;> rfl
    · cases hStep
  case upsertFails t => exact upsertFails_row hs hKept hTimely hStep

/-- In every run whose writes meet the condition, a claimed job that is over has its final row
once its settling thread is through. -/
theorem row_run (hStore : cfg.hasStore = true) {monotonic utc : Nat} {ls : List (Label R)}
    (hRun : StepRun.run (StepRun.guarded (Timely j) (step cfg)) (initial R cfg monotonic utc) ls =
      some s) : (custody R cfg).Holds s ∧ RowKept s j := by
  have hInv : StepRun.Invariant (StepRun.guarded (Timely j) (step cfg))
      fun s => (custody R cfg).Holds s ∧ RowKept s j := by
    intro s l s' hs hStep
    obtain ⟨hTimely, hStep⟩ := StepRun.guarded_eq_some.mp hStep
    exact ⟨custody_invariant cfg _ _ _ hs.1 hStep, step_row hStore hs.1 hs.2 hTimely hStep⟩
  have hInitial : RowKept (initial R cfg monotonic utc) j := by
    intro hPersisted
    cases hPersisted
  exact hInv.run ⟨custody_initial cfg monotonic utc, hInitial⟩ hRun

theorem SnapOk.shows {sn : Snapshot R} (h : SnapOk 6 sn job) (hFinal : sn.status.Final)
    : sn.Shows job :=
  ⟨(h.status hFinal).symm, h.result hFinal (by omega), h.error hFinal (by omega),
    h.errorType hFinal (by omega), h.finishedAt hFinal (by omega)⟩

/-- The row of a deferred job shows how it was settled, once the thread that settled it is
through, whatever its submitter has got to. -/
theorem final_row_kept (json_dumps : R → String) (hStore : cfg.hasStore = true)
    {monotonic utc : Nat} {ls : List (Label R)}
    (hRun : StepRun.run (StepRun.guarded (Timely j) (step cfg)) (initial R cfg monotonic utc) ls =
      some s)
    (hPersisted : (s.jobs j).persisted = true) (hDone : (s.jobs j).done = true)
    (hThrough : ∀ t f, (s.threads t).settle = some f → ¬ f.Pending j)
    (hSize : (resultJson json_dumps (s.jobs j).result).length ≤ JOB_RESULT_PERSIST_MAX_BYTES) :
    ∃ row, jobRow json_dumps s j = some row ∧ row.Shows json_dumps (s.jobs j) := by
  obtain ⟨hs, hKept⟩ := row_run hStore hRun
  rcases hKept hPersisted hDone with ⟨sn, hRow, hFinal⟩ | ⟨t, f, hSettle, hPending⟩
  · refine ⟨upsert_job json_dumps sn, by rw [jobRow, hRow]; rfl, ?_⟩
    exact upsert_job_shows ((hs.1.1.rows j sn hRow).shows hFinal) hSize
  · exact absurd hPending (hThrough t f hSettle)

/-! ## Both orders of the two writes -/

/-- A read is not answered within its wait. Its thread claims the job and takes the snapshot
to store, which shows it running; then the handler returns. -/
def claimedRun : List (Label Nat) :=
  [.submit "analytics" true] ++ List.replicate 9 (.run 0) ++ [.waitTimesOut 2] ++
    List.replicate 11 (.run 2) ++ [.handlerReturns 0 (.result (some 7))]

def settlingRun : List (Label Nat) := List.replicate 19 (.run 0)

def submitterFirst : List (Label Nat) := claimedRun ++ [.run 2] ++ settlingRun

def submitterLast : List (Label Nat) := claimedRun ++ settlingRun ++ [.run 2]

/-- No thread is inside `_settle`, `_finish`, `_persist` or `snapshot`. -/
def Quiet (s : State R) : Prop := ∀ t, (s.threads t).settle = none ∧ (s.threads t).snap = none

theorem quiet_of_used (hs : (custody R cfg).Holds s)
    (hUsed : ∀ t < s.nextThread, (s.threads t).settle = none ∧ (s.threads t).snap = none) :
    Quiet s := by
  intro t
  by_cases ht : t < s.nextThread
  · exact hUsed t ht
  · rw [hs.1.2.spare t (Nat.not_lt.mp ht)]
    exact ⟨rfl, rfl⟩

theorem final_row_kept_submitterFirst : ∃ s : State Nat,
    run oneWorker 1 1 submitterFirst = some s ∧ Quiet s ∧ (s.jobs 0).status = .done ∧
      (s.jobs 0).result = some 7 ∧
      ∃ row, jobRow toString s 0 = some row ∧ row.Shows toString (s.jobs 0) := by
  have hFacts : (StepRun.run (StepRun.guarded (Timely 0) (step oneWorker))
      (initial Nat oneWorker 1 1) submitterFirst).map (fun s =>
        ((s.jobs 0).persisted, (s.jobs 0).done, (s.jobs 0).status, (s.jobs 0).result,
          (List.range s.nextThread).all fun t =>
            (s.threads t).settle.isNone && (s.threads t).snap.isNone)) =
      some (true, true, .done, some 7, true) := by decide
  obtain ⟨s, hRun, hSame⟩ := Option.map_eq_some_iff.mp hFacts
  simp only [Prod.mk.injEq, List.all_eq_true, List.mem_range, Bool.and_eq_true,
    Option.isNone_iff_eq_none] at hSame
  obtain ⟨hPersisted, hDone, hStatus, hResult, hUsed⟩ := hSame
  have hQuiet : Quiet s := quiet_of_used (row_run rfl hRun).1 hUsed
  have hRow := final_row_kept toString rfl hRun hPersisted hDone
    (fun t f hf => by rw [(hQuiet t).1] at hf; cases hf) (by rw [hResult]; decide)
  exact ⟨s, StepRun.run_of_guarded hRun, hQuiet, hStatus, hResult, hRow⟩

/-- The worker stores the final row and then the submitter the snapshot it took before: the
row shows a running job for good. -/
theorem final_row_lost : ∃ s : State Nat,
    run oneWorker 1 1 submitterLast = some s ∧ Quiet s ∧ (s.jobs 0).persisted = true ∧
      (s.jobs 0).status = .done ∧ (s.jobs 0).result = some 7 ∧
      .answered 0 .deferred ∈ s.log ∧
      jobRow toString s 0 = some ⟨"analytics", .running, "", "", "", 1, none⟩ ∧
      ∀ row, jobRow toString s 0 = some row → ¬ row.Shows toString (s.jobs 0) := by
  have hFacts : (run oneWorker 1 1 submitterLast).map (fun s =>
        (((s.jobs 0).persisted, (s.jobs 0).status, (s.jobs 0).result),
          decide (.answered 0 .deferred ∈ s.log), jobRow toString s 0,
          (List.range s.nextThread).all fun t =>
            (s.threads t).settle.isNone && (s.threads t).snap.isNone)) =
      some ((true, .done, some 7), true,
        some ⟨"analytics", .running, "", "", "", 1, none⟩, true) := by decide
  obtain ⟨s, hRun, hSame⟩ := Option.map_eq_some_iff.mp hFacts
  simp only [Prod.mk.injEq, List.all_eq_true, List.mem_range, Bool.and_eq_true,
    Option.isNone_iff_eq_none, decide_eq_true_eq] at hSame
  obtain ⟨⟨hPersisted, hStatus, hResult⟩, hAnswered, hJobRow, hUsed⟩ := hSame
  refine ⟨s, hRun, quiet_of_used (custody_run hRun) hUsed, hPersisted, hStatus, hResult,
    hAnswered, hJobRow, fun row hSome hShows => ?_⟩
  cases hJobRow.symm.trans hSome
  have hSame := hShows.status
  rw [hStatus] at hSame
  cases hSame

end Sniff4Hound.Jobs
