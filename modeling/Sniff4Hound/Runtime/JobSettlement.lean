import Sniff4Hound.Library.RelyGuarantee
import Sniff4Hound.Runtime.Jobs

/-!
# Settlement of jobs

A job is written once. `_settle` checks `done` under the job's lock, writes the outcome
with `status` last, and only then sets `done`; everything that reads an outcome saw `done`
or a final `status` first. The proof outline below says this for every position of a
thread (`Thread.Ok`): which lock it holds, how much of an outcome is written, and what it
has learned from the attributes it read without a lock. What a step may do to a job that
others look at is `GuarJob`: nothing while another thread holds the lock, and nothing to
the outcome once `status` is final.
-/

namespace Sniff4Hound.Jobs

open RelyGuarantee

variable {R : Type}

/-! ## What is true of one job -/

/-- `status` says that the outcome is complete. -/
def Status.Final : Status → Prop
  | .done | .error => True
  | .queued | .running => False

instance : DecidablePred Status.Final := fun s => by cases s <;> unfold Status.Final <;> infer_instance

structure Fresh (job : Job R) : Prop where
  status : ¬ job.status.Final
  result : job.result = none
  error : job.error = ""
  errorType : job.errorType = ""
  exception : job.exception = none
  finishedAt : job.finishedAt = none

/-- The `status` an outcome is recorded with. -/
def Outcome.status : Outcome R → Status
  | .result _ => .done
  | .failure _ => .error

/-- The `result` an outcome is recorded with. -/
def Outcome.value : Outcome R → Option R
  | .result r => r
  | .failure _ => none

/-- The `exception` an outcome is recorded with. -/
def Outcome.exception : Outcome R → Option PyError
  | .result _ => none
  | .failure e => some e

/-- The `error` text an outcome is recorded with. -/
def Outcome.error (o : Outcome R) : String := (o.exception.map PyError.message).getD ""

/-- The `error_type` an outcome is recorded with. -/
def Outcome.errorType (o : Outcome R) : String := (o.exception.map PyError.type).getD ""

/-- The outcome `o` is completely written. -/
structure Written (o : Outcome R) (job : Job R) : Prop where
  finishedAt : job.finishedAt ≠ none
  status : job.status = o.status
  result : job.result = o.value
  exception : job.exception = o.exception
  error : job.error = o.error
  errorType : job.errorType = o.errorType

/-- The outcome `o` is written and `done` is set. -/
def SettledAs (o : Outcome R) (job : Job R) : Prop := Written o job ∧ job.done = true

def Idle (job : Job R) : Prop :=
  (Fresh job ∧ job.done = false) ∨ ∃ o, SettledAs o job

/-- `status` and `done` never run ahead of the outcome. -/
structure Complete (job : Job R) : Prop where
  written : job.status.Final → ∃ o, Written o job
  final : job.done = true → job.status.Final

/-- The first `n` writes of `_settle` are made. -/
def PartlyWritten (o : Outcome R) (n : Nat) (job : Job R) : Prop :=
  n ≤ (settleWrites 0 o).length ∧
    ∃ base now, Fresh base ∧ job = ((settleWrites now o).take n).foldl (fun job w => w job) base

structure SameOutcome (job job' : Job R) : Prop where
  status : job'.status = job.status
  result : job'.result = job.result
  error : job'.error = job.error
  errorType : job'.errorType = job.errorType
  exception : job'.exception = job.exception
  finishedAt : job'.finishedAt = job.finishedAt

theorem SameOutcome.refl (job : Job R) : SameOutcome job job := ⟨rfl, rfl, rfl, rfl, rfl, rfl⟩

variable {job job' : Job R}

theorem SameOutcome.trans {job'' : Job R} (h : SameOutcome job job') (h' : SameOutcome job' job'') :
    SameOutcome job job'' where
  status := h'.status.trans h.status
  result := h'.result.trans h.result
  error := h'.error.trans h.error
  errorType := h'.errorType.trans h.errorType
  exception := h'.exception.trans h.exception
  finishedAt := h'.finishedAt.trans h.finishedAt

variable {o : Outcome R}

theorem Written.final (h : Written o job) : job.status.Final := by
  rw [h.status]
  cases o <;> trivial

theorem Written.congr (h : Written o job) (hSame : SameOutcome job job') : Written o job' where
  finishedAt := hSame.finishedAt ▸ h.finishedAt
  status := hSame.status.trans h.status
  result := hSame.result.trans h.result
  exception := hSame.exception.trans h.exception
  error := hSame.error.trans h.error
  errorType := hSame.errorType.trans h.errorType

theorem Fresh.congr (h : Fresh job) (hSame : SameOutcome job job') :
    Fresh job' where
  status := hSame.status ▸ h.status
  result := hSame.result.trans h.result
  error := hSame.error.trans h.error
  errorType := hSame.errorType.trans h.errorType
  exception := hSame.exception.trans h.exception
  finishedAt := hSame.finishedAt.trans h.finishedAt

theorem fresh_new (kind : String) (createdAt : Nat) : Fresh (Job.new kind createdAt : Job R) :=
  ⟨fun h => h, rfl, rfl, rfl, rfl, rfl⟩

theorem Written.unique {o' : Outcome R} (h : Written o job) (h' : Written o' job) : o = o' := by
  have hStatus := h.status.symm.trans h'.status
  cases o with
  | result r =>
    cases o' with
    | result r' => exact congrArg Outcome.result (h.result.symm.trans h'.result)
    | failure e' => cases hStatus
  | failure e =>
    cases o' with
    | result r' => cases hStatus
    | failure e' =>
      exact congrArg Outcome.failure (Option.some.inj (h.exception.symm.trans h'.exception))

theorem Idle.of_done (h : Idle job) (hDone : job.done = true) : ∃ o, SettledAs o job := by
  rcases h with ⟨-, hNot⟩ | h
  · rw [hDone] at hNot
    cases hNot
  · exact h

theorem Idle.of_not_done (h : Idle job) (hDone : job.done = false) : Fresh job := by
  rcases h with ⟨h, -⟩ | ⟨o, -, hSet⟩
  · exact h
  · rw [hDone] at hSet
    cases hSet

theorem Complete.congr (h : Complete job) (hSame : SameOutcome job job')
    (hDone : job'.done = job.done) : Complete job' := by
  refine ⟨fun hFinal => ?_, fun hSet => ?_⟩
  · obtain ⟨o, ho⟩ := h.written (hSame.status ▸ hFinal)
    exact ⟨o, ho.congr hSame⟩
  · rw [hSame.status]
    exact h.final (hDone ▸ hSet)

theorem Complete.settled (h : Complete job) (hDone : job.done = true) : ∃ o, SettledAs o job := by
  obtain ⟨o, ho⟩ := h.written (h.final hDone)
  exact ⟨o, ho, hDone⟩

theorem Written.complete (h : Written o job) : Complete job :=
  ⟨fun _ => ⟨o, h⟩, fun _ => h.final⟩

theorem Fresh.complete (h : Fresh job) (hDone : job.done = false) : Complete job :=
  ⟨fun hFinal => absurd hFinal h.status, fun hSet => absurd (hDone.symm.trans hSet) (by simp)⟩

theorem Fresh.idle (h : Fresh job) (hDone : job.done = false) : Idle job :=
  Or.inl ⟨h, hDone⟩

theorem Idle.complete (h : Idle job) : Complete job := by
  rcases h with ⟨hFresh, hNot⟩ | ⟨o, hWritten, -⟩
  · exact hFresh.complete hNot
  · exact hWritten.complete

/-! ## The writes of `_settle` -/

theorem settleWrites_length (now : Nat) (o : Outcome R) :
    (settleWrites now o).length = (settleWrites 0 o).length := by
  cases o <;> rfl

variable {n : Nat}

theorem settleWrites_now (hn : n ≠ 0) (now now' : Nat) (o : Outcome R) :
    (settleWrites now o)[n]? = (settleWrites now' o)[n]? := by
  obtain ⟨n, rfl⟩ := Nat.exists_eq_succ_of_ne_zero hn
  cases o <;> rfl

theorem partlyWritten_zero (h : Fresh job) :
    PartlyWritten o 0 job := ⟨Nat.zero_le _, job, 0, h, rfl⟩

variable {now : Nat} {w : Job R → Job R}

theorem PartlyWritten.write (h : PartlyWritten o n job) (hw : (settleWrites now o)[n]? = some w) :
    PartlyWritten o (n + 1) (w job) := by
  obtain ⟨-, base, now', hBase, rfl⟩ := h
  have hLt : n < (settleWrites now o).length := (List.getElem?_eq_some_iff.mp hw).1
  refine ⟨by rw [settleWrites_length] at hLt; omega, base, if n = 0 then now else now', hBase, ?_⟩
  have hw' : (settleWrites (if n = 0 then now else now') o)[n]? = some w := by
    split
    · exact hw
    · rename_i hn
      rw [settleWrites_now hn now' now, hw]
  rw [List.take_add_one, hw']
  by_cases hn : n = 0
  · subst hn
    rfl
  · simp [hn]

theorem PartlyWritten.written (h : PartlyWritten o n job) (hw : (settleWrites now o)[n]? = none) :
    Written o job := by
  obtain ⟨hLe, base, now', hBase, rfl⟩ := h
  have hn : n = (settleWrites 0 o).length := by
    have := List.getElem?_eq_none_iff.mp hw
    rw [settleWrites_length] at this
    omega
  subst hn
  cases o with
  | result r =>
    exact ⟨by simp [settleWrites], rfl, rfl, hBase.exception, hBase.error, hBase.errorType⟩
  | failure e => exact ⟨by simp [settleWrites], rfl, hBase.result, rfl, rfl, rfl⟩

theorem PartlyWritten.open (h : PartlyWritten o n job) (hw : (settleWrites now o)[n]? = some w) :
    ¬ job.status.Final ∧ (job.result ≠ none → (w job).result = job.result) := by
  obtain ⟨-, base, now', hBase, rfl⟩ := h
  cases o with
  | result r =>
    match n, hw with
    | 0, hw => cases hw; exact ⟨hBase.status, fun _ => rfl⟩
    | 1, hw => cases hw; exact ⟨hBase.status, fun hr => absurd hBase.result hr⟩
    | 2, hw => cases hw; exact ⟨hBase.status, fun _ => rfl⟩
    | n + 3, hw => cases hw
  | failure e =>
    match n, hw with
    | 0, hw => cases hw; exact ⟨hBase.status, fun _ => rfl⟩
    | 1, hw => cases hw; exact ⟨hBase.status, fun _ => rfl⟩
    | 2, hw => cases hw; exact ⟨hBase.status, fun _ => rfl⟩
    | 3, hw => cases hw; exact ⟨hBase.status, fun _ => rfl⟩
    | 4, hw => cases hw; exact ⟨hBase.status, fun _ => rfl⟩
    | n + 5, hw => cases hw

theorem PartlyWritten.complete (h : PartlyWritten o n job) (hDone : job.done = false) :
    Complete job := by
  cases hw : (settleWrites 0 o)[n]? with
  | none => exact (h.written hw).complete
  | some w =>
    exact ⟨fun hFinal => absurd hFinal (h.open hw).1,
      fun hSet => absurd (hDone.symm.trans hSet) (by simp)⟩

theorem settleWrites_frame (hw : (settleWrites now o)[n]? = some w) (job : Job R) :
    (w job).done = job.done ∧ (w job).lock = job.lock := by
  have hMem := List.mem_of_getElem? hw
  cases o with
  | result r =>
    simp only [settleWrites, List.mem_cons, List.not_mem_nil, or_false] at hMem
    rcases hMem with rfl | rfl | rfl <;> exact ⟨rfl, rfl⟩
  | failure e =>
    simp only [settleWrites, List.mem_cons, List.not_mem_nil, or_false] at hMem
    rcases hMem with rfl | rfl | rfl | rfl | rfl <;> exact ⟨rfl, rfl⟩

end Sniff4Hound.Jobs
