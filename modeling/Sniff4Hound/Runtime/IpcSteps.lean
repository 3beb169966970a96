import Mathlib.Data.List.Nodup
import Sniff4Hound.Runtime.IpcOutline

/-!
# Every step of the client keeps the outline

The first section says once what a step has to give (`moves_of`), and what is left of it for
a step that changes no call (`moves_log`) or only moves a thread (`moves_setThread`). The
sections after it go through `dropStep`, `mainStep` and the labels from outside.
-/

namespace Sniff4Hound.Ipc

open RelyGuarantee

variable {R : Type} {careful : Prop} {cfg : Config} {s s' : State R} {t : ThreadId}

/-! ## Shapes of steps -/

theorem recordedCount_append (rid : RequestId) (log evs : List (Event R)) :
    recordedCount rid (log ++ evs) = recordedCount rid log + recordedCount rid evs :=
  List.countP_append

theorem Thread.ok_at {m : Main R} (h : m.Ok careful s t) : (Thread.at m).Ok careful s t :=
  ⟨h, nofun⟩

variable (hs : (outline R careful).Holds s)

include hs

theorem self_ok {th : Thread R} (hTh : s.threads t = th) : th.Ok careful s t := by
  subst hTh
  exact hs.2 t

theorem lt_of_used (h : s.threads t ≠ .at .unused) : t < s.nextThread :=
  Nat.lt_of_not_le fun hLe => h (hs.1.fresh t hLe)

def Unstarted (s' : State R) : Prop := ∀ u, s'.nextThread ≤ u → s'.threads u = .at .unused

theorem moves_of (hGuar : Guar t s s')
    (hFresh : Unstarted s') (hSock : ∀ g, s'.sock = some g → g = s'.generation)
    (hEvs : ∀ e ∈ s'.log, e ∉ s.log → e.Ok careful s') (hNodup : (s'.pending.map Prod.fst).Nodup)
    (hEntry : ∀ x ∈ s'.pending, ∃ g, .registered x.2 x.1 g ∈ s'.log ∧
      (s'.calls x.2).generation = some g) (hOnce : ∀ rid, recordedCount rid s'.log ≤ 1)
    (hMessage : ∀ c m, (s'.calls c).message = some m →
      ∃ rid origin, .recorded c rid m origin ∈ s'.log)
    (hEvent : ∀ c, (s'.calls c).event = true → (s'.calls c).message ≠ none)
    (hTimedOut : StepRun.Ordered TimeoutFirst s'.log) (hSelf : (s'.threads t).Ok careful s' t)
    (hOthers : ∀ u, u ≠ t → s'.threads u = s.threads u ∨ (s'.threads u).Ok careful s' u) :
    (outline R careful).Moves t s s' := by
  have hShared : Shared careful s := hs.1
  refine ⟨hGuar, ⟨hFresh, hSock, fun e he => ?_, hNodup, hEntry, hOnce, hMessage, hEvent,
    hTimedOut⟩, hSelf, hOthers⟩
  by_cases hOld : e ∈ s.log
  · exact (hShared.log e hOld).guar hGuar hOld
  · exact hEvs e he hOld

structure SameCalls (s s' : State R) : Prop where
  calls : s'.calls = s.calls
  pending : s'.pending.Sublist s.pending
  nextRid : s'.nextRid = s.nextRid

omit hs in
theorem SameCalls.guar (h : SameCalls s s') {evs : List (Event R)} (hLog : s'.log = s.log ++ evs)
    (hBy : ∀ e ∈ evs, e.By t s) : Guar t s s' :=
  ⟨⟨evs, hLog, hBy⟩, fun _ hx => Or.inl (h.pending.subset hx), Nat.le_of_eq h.nextRid.symm,
    fun _ _ => by rw [h.calls], fun _ hc => by rwa [h.calls], fun _ hc => by rwa [h.calls]⟩

omit hs in
theorem SameCalls.ok (h : SameCalls s s') (hLog : s'.log = s.log) {th : Thread R}
    (hTh : th.Ok careful s t) : th.Ok careful s' t :=
  hTh.stable (Nat.ne_of_lt (Nat.lt_succ_self t))
    (h.guar (hLog.trans (List.append_nil _).symm) nofun)

theorem moves_log (hSame : SameCalls s s')
    (hFresh : Unstarted s') (hSock : ∀ g, s'.sock = some g → g = s'.generation)
    {evs : List (Event R)} (hLog : s'.log = s.log ++ evs) (hBy : ∀ e ∈ evs, e.By t s)
    (hEvs : ∀ e ∈ evs, e.Ok careful s') (hNone : ∀ rid, recordedCount rid evs = 0)
    (hTimedOut : StepRun.Ordered TimeoutFirst s'.log) (hSelf : (s'.threads t).Ok careful s' t)
    (hOthers : ∀ u, u ≠ t → s'.threads u = s.threads u ∨ (s'.threads u).Ok careful s' u) :
    (outline R careful).Moves t s s' := by
  have hShared : Shared careful s := hs.1
  have hGuar : Guar t s s' := hSame.guar hLog hBy
  refine moves_of hs hGuar hFresh hSock (fun e he hNew => ?_) ?_ (fun x hx => ?_) (fun rid => ?_)
    (fun c m hm => ?_) (fun c hc => ?_) hTimedOut hSelf hOthers
  · rw [hLog] at he
    exact hEvs e ((List.mem_append.mp he).resolve_left hNew)
  · exact hShared.nodup.sublist (hSame.pending.map Prod.fst)
  · obtain ⟨g, hReg, hGen⟩ := hShared.entry x (hSame.pending.subset hx)
    exact ⟨g, hGuar.mono hReg, by rw [hSame.calls]; exact hGen⟩
  · rw [hLog, recordedCount_append, hNone]
    exact hShared.recordedOnce rid
  · rw [hSame.calls] at hm
    obtain ⟨rid, origin, hRec⟩ := hShared.message c m hm
    exact ⟨rid, origin, hGuar.mono hRec⟩
  · rw [hSame.calls] at hc ⊢
    exact hShared.event c hc

theorem unstarted_setThread (ht : s.threads t ≠ .at .unused)
    {s₁ : State R} (hThreads : s₁.threads = s.threads) {th : Thread R} :
    ∀ u, s.nextThread ≤ u → (s₁.setThread t th).threads u = .at .unused := by
  intro u hu
  have hNe : u ≠ t := fun h => Nat.not_lt.mpr hu (h ▸ lt_of_used hs ht)
  simp only [State.setThread, Function.update_of_ne hNe, hThreads]
  exact hs.1.fresh u hu

omit hs

/-- `s₁` is `s` up to the attributes that no assertion mentions. -/
structure SameCore (s s₁ : State R) : Prop where
  same : SameCalls s s₁
  log : s₁.log = s.log
  threads : s₁.threads = s.threads
  nextThread : s₁.nextThread = s.nextThread
  sock : ∀ g, s₁.sock = some g → g = s₁.generation

variable (hs : (outline R careful).Holds s)

include hs

theorem SameCore.refl : SameCore s s :=
  ⟨⟨rfl, .refl _, rfl⟩, rfl, rfl, rfl, hs.1.sock⟩

variable (ht : s.threads t ≠ .at .unused)

include ht

theorem moves_silent {s₁ : State R} (hCore : SameCore s s₁) {th : Thread R}
    (hTh : th.Ok careful (s₁.setThread t th) t) :
    (outline R careful).Moves t s (s₁.setThread t th) := by
  have hSame : SameCalls s (s₁.setThread t th) :=
    ⟨hCore.same.calls, hCore.same.pending, hCore.same.nextRid⟩
  have hLog : (s₁.setThread t th).log = s.log := hCore.log
  refine moves_log hs hSame ?_ hCore.sock (hLog.trans (List.append_nil _).symm) nofun nofun
    (fun _ => rfl) (hLog ▸ hs.1.timedOut) ?_ (fun u hu => Or.inl ?_)
  · intro u hu
    exact unstarted_setThread hs ht hCore.threads u (hCore.nextThread ▸ hu)
  · simpa [State.setThread] using hTh
  · simp [State.setThread, hu, hCore.threads]

theorem moves_setThread
    {s₁ : State R} (hCore : SameCore s s₁) {th : Thread R} (hTh : th.Ok careful s t) :
    (outline R careful).Moves t s (s₁.setThread t th) := by
  have hSame : SameCalls s (s₁.setThread t th) :=
    ⟨hCore.same.calls, hCore.same.pending, hCore.same.nextRid⟩
  exact moves_silent hs ht hCore (hSame.ok hCore.log hTh)

theorem moves_goto {s₁ : State R} (hCore : SameCore s s₁) {m : Main R} (hOk : m.Ok careful s t) :
    (outline R careful).Moves t s (s₁.goto t m) :=
  moves_setThread hs ht hCore (Thread.ok_at hOk)

theorem moves_emit
    {s₁ : State R} (hCore : SameCore s s₁) {th : Thread R} {e : Event R} (hBy : e.By t s)
    (hE : e.Ok careful ((s₁.setThread t th).emit e)) (hNone : ∀ rid, isRecorded rid e = false)
    (hTimedOut : TimeoutFirst s.log e) (hTh : th.Ok careful ((s₁.setThread t th).emit e) t) :
    (outline R careful).Moves t s ((s₁.setThread t th).emit e) := by
  have hSame : SameCalls s ((s₁.setThread t th).emit e) :=
    ⟨hCore.same.calls, hCore.same.pending, hCore.same.nextRid⟩
  have hLog : ((s₁.setThread t th).emit e).log = s.log ++ [e] := by
    simp [State.emit, State.setThread, hCore.log]
  refine moves_log hs hSame ?_ hCore.sock hLog (by simpa using hBy) (by simpa using hE)
    (fun rid => by simp [recordedCount, hNone]) ?_ ?_ (fun u hu => Or.inl ?_)
  · intro u hu
    exact unstarted_setThread hs ht hCore.threads u (hCore.nextThread ▸ hu)
  · rw [hLog]
    exact hs.1.timedOut.snoc hTimedOut
  · simpa [State.emit, State.setThread] using hTh
  · simp [State.emit, State.setThread, hu, hCore.threads]

theorem moves_finish
    {s₁ : State R} (hCore : SameCore s s₁) {o : Outcome R} (hBy : NotSent s t ∨ Reported s t o)
    (hReturned : ∀ r, o = .returned r →
      ∃ rid m origin, .recorded t rid m origin ∈ s.log ∧ m.outcome = .returned r) :
    (outline R careful).Moves t s (s₁.finish t o) := by
  refine moves_emit hs ht hCore ⟨rfl, hBy⟩ (fun r hr => ?_) (fun _ => rfl) nofun
    (Thread.ok_at fun _ _ _ => ⟨o, List.mem_append_right _ (by simp)⟩)
  obtain ⟨rid, m, origin, hRec, ho⟩ := hReturned r hr
  refine ⟨rid, m, origin, List.mem_append_left _ ?_, ho⟩
  simpa [State.setThread, hCore.log] using hRec

theorem moves_raise {s₁ : State R} (hCore : SameCore s s₁) {e : CallError} (hNot : NotSent s t) :
    (outline R careful).Moves t s (s₁.finish t (.raised e)) :=
  moves_finish hs ht hCore (Or.inl hNot) nofun

omit ht

omit hs

/-! ## What a thread knows after its own step -/

def Event.Ends (t : ThreadId) : Event R → Prop
  | .sent c _ _ | .finished c _ => c = t
  | _ => False

theorem NotSent.own (h : NotSent s t) {evs : List (Event R)} (hLog : s'.log = s.log ++ evs)
    (hEvs : ∀ e ∈ evs, ¬ e.Ends t) : NotSent s' t := by
  refine ⟨fun rid g hMem => ?_, fun o hMem => ?_⟩ <;> rw [hLog] at hMem <;>
    rcases List.mem_append.mp hMem with hMem | hMem
  · exact h.sent rid g hMem
  · exact hEvs _ hMem rfl
  · exact h.finished o hMem
  · exact hEvs _ hMem rfl

theorem Resting.own (h : Resting careful s t) (hGuar : Guar t s s')
    (hPending : s'.pending ⊆ s.pending) (hNot : NotSent s' t) : Resting careful s' t :=
  ⟨hNot, fun rid hMem => h.noEntry rid (hPending hMem),
    fun hC => taken_stable hGuar h.noEntry (h.clean hC)⟩

theorem Riding.own {rid : RequestId} {g : Generation} (h : Riding careful s t rid g)
    (hGuar : Guar t s s') (hPending : s'.pending ⊆ s.pending)
    (hGen : (s'.calls t).generation = (s.calls t).generation) : Riding careful s' t rid g :=
  ⟨hGuar.mono h.registered, hGen.trans h.generation,
    fun rid' hMem => h.entry rid' (hPending hMem),
    fun hC => taken_stable hGuar h.entry (h.clean hC)⟩

theorem Main.CallsDrop.notSent {m : Main R} (h : m.CallsDrop) (hOk : m.Ok careful s t) :
    NotSent s t := by
  cases m <;> try exact h.elim
  case dropSent a error =>
    cases a with
    | first => exact Resting.notSent hOk
    | second => exact hOk
  all_goals exact hOk

theorem Main.CallsDrop.own {m : Main R} (h : m.CallsDrop) (hOk : m.Ok careful s t)
    (hGuar : Guar t s s') (hPending : s'.pending ⊆ s.pending) (hNot : NotSent s' t) :
    m.Ok careful s' t := by
  cases m <;> try exact h.elim
  case dropSent a error =>
    cases a with
    | first => exact Resting.own hOk hGuar hPending hNot
    | second => exact hNot
  all_goals exact hNot

theorem Claimed.own {rid : RequestId} {c : ThreadId} (h : Claimed s t rid c)
    (hGuar : Guar t s s') (hPending : s'.pending ⊆ s.pending)
    (hCount : recordedCount rid s'.log = recordedCount rid s.log) : Claimed s' t rid c := by
  refine ⟨hGuar.mono h.taken, fun u c' hMem => ?_, fun c' hMem => h.gone c' (hPending hMem),
    Nat.lt_of_lt_of_le h.old hGuar.nextRid, hCount.trans h.unrecorded⟩
  rcases hGuar.new hMem with hOld | ⟨hNew, -⟩
  · exact h.unique u c' hOld
  · exact hNew

/-! ## Messages written and events set -/

variable (hs : (outline R careful).Holds s)

include hs

theorem free_of_entry {rid : RequestId} {c : ThreadId} (hMem : (rid, c) ∈ s.pending) :
    (∀ u c', .taken u rid c' ∉ s.log) ∧ recordedCount rid s.log = 0 := by
  have hTaken : ∀ u c', .taken u rid c' ∉ s.log := fun u c' h =>
    (hs.1.log _ h).2.2.1 c hMem
  refine ⟨hTaken, List.countP_eq_zero.mpr fun e he hRec => ?_⟩
  cases e <;> simp only [isRecorded, beq_iff_eq, Bool.false_eq_true] at hRec
  subst hRec
  obtain ⟨u, hu⟩ := (hs.1.log _ he).1
  exact hTaken u _ hu

theorem moves_call (ht : s.threads t ≠ .at .unused)
    {c : ThreadId} {p : PendingCall R} {e : Event R} {th : Thread R}
    (hGen : p.generation = (s.calls c).generation)
    (hWritten : (s.calls c).message ≠ none → p.message ≠ none)
    (hSet : (s.calls c).event = true → p.event = true) (hBy : e.By t s)
    (hOnce : ∀ rid, recordedCount rid s.log + recordedCount rid [e] ≤ 1)
    (hMessage : ∀ m, p.message = some m → ∃ rid origin, .recorded c rid m origin ∈ s.log ++ [e])
    (hEvent : p.event = true → p.message ≠ none) (hTimedOut : TimeoutFirst s.log e)
    (hE : Guar t s (((s.setCall c p).setThread t th).emit e) →
      e.Ok careful (((s.setCall c p).setThread t th).emit e))
    (hTh : Guar t s (((s.setCall c p).setThread t th).emit e) →
      th.Ok careful (((s.setCall c p).setThread t th).emit e) t) :
    (outline R careful).Moves t s (((s.setCall c p).setThread t th).emit e) := by
  have hShared : Shared careful s := hs.1
  generalize hs' : ((s.setCall c p).setThread t th).emit e = s' at hE hTh ⊢
  have hLog : s'.log = s.log ++ [e] := by subst hs'; rfl
  have hPending : s'.pending = s.pending := by subst hs'; rfl
  have hThreads : s'.threads = Function.update s.threads t th := by subst hs'; rfl
  have hSelf : s'.calls c = p := by subst hs'; exact Function.update_self c p s.calls
  have hOther : ∀ c', c' ≠ c → s'.calls c' = s.calls c' := by
    subst hs'
    intro c' hc
    exact Function.update_of_ne hc p s.calls
  have hGens : ∀ c', (s'.calls c').generation = (s.calls c').generation := by
    intro c'
    by_cases hc : c' = c
    · rw [hc, hSelf, hGen]
    · rw [hOther c' hc]
  have hGuar : Guar t s s' := by
    refine ⟨⟨_, hLog, by simpa using hBy⟩, fun x hx => Or.inl (hPending ▸ hx), ?_,
      fun c' _ => hGens c', fun c' h => ?_, fun c' h => ?_⟩
    · subst hs'
      exact Nat.le_refl _
    · by_cases hc : c' = c
      · rw [hc, hSelf]
        exact hWritten (hc ▸ h)
      · rwa [hOther c' hc]
    · by_cases hc : c' = c
      · rw [hc, hSelf]
        exact hSet (hc ▸ h)
      · rwa [hOther c' hc]
  refine moves_of hs hGuar ?_ ?_ (fun e' he hOld => ?_) (hPending ▸ hShared.nodup) (fun x hx => ?_)
    (fun rid => ?_) (fun c' m hm => ?_) (fun c' h => ?_) ?_ ?_ (fun u hu => Or.inl ?_)
  · subst hs'
    exact unstarted_setThread hs ht rfl
  · subst hs'
    exact hShared.sock
  · obtain rfl : e' = e := by simpa [hLog, hOld] using he
    exact hE hGuar
  · rw [hPending] at hx
    obtain ⟨g, hReg, hGen'⟩ := hShared.entry x hx
    exact ⟨g, hGuar.mono hReg, (hGens x.2).trans hGen'⟩
  · rw [hLog, recordedCount_append]
    exact hOnce rid
  · by_cases hc : c' = c
    · subst hc
      rw [hLog]
      exact hMessage m (hSelf ▸ hm)
    · rw [hOther c' hc] at hm
      obtain ⟨rid, origin, hRec⟩ := hShared.message c' m hm
      exact ⟨rid, origin, hGuar.mono hRec⟩
  · by_cases hc : c' = c
    · rw [hc, hSelf] at h ⊢
      exact hEvent h
    · rw [hOther c' hc] at h ⊢
      exact hShared.event c' h
  · rw [hLog]
    exact hShared.timedOut.snoc hTimedOut
  · rw [hThreads, Function.update_self]
    exact hTh hGuar
  · rw [hThreads, Function.update_of_ne hu]

theorem moves_record (ht : s.threads t ≠ .at .unused)
    {rid : RequestId} {c : ThreadId} (hClaimed : Claimed s t rid c) {m : Message R}
    {origin : Origin} (hOrigin : origin.Ok s c rid m) {th : Thread R}
    (hTh : Guar t s (((s.setCall c { s.calls c with message := some m }).setThread t th).emit
        (.recorded c rid m origin)) →
      th.Ok careful (((s.setCall c { s.calls c with message := some m }).setThread t th).emit
        (.recorded c rid m origin)) t) :
    (outline R careful).Moves t s
      (((s.setCall c { s.calls c with message := some m }).setThread t th).emit
        (.recorded c rid m origin)) := by
  refine moves_call hs ht rfl (fun _ => nofun) id hClaimed.taken (fun k => ?_) (fun m' hm => ?_)
    (fun _ => nofun) nofun (fun hGuar => ?_) hTh
  · by_cases hk : rid = k
    · subst hk
      rw [hClaimed.unrecorded]
      simp [recordedCount, isRecorded]
    · simpa [recordedCount, isRecorded, hk] using hs.1.recordedOnce k
  · obtain rfl : m = m' := by simpa using hm
    exact ⟨rid, origin, by simp⟩
  · exact ⟨⟨t, hGuar.mono hClaimed.taken⟩, by simp [State.emit, State.setThread, State.setCall],
      hOrigin.guar hGuar⟩

theorem moves_set (ht : s.threads t ≠ .at .unused)
    {rid : RequestId} {c : ThreadId} {m : Message R} {origin : Origin}
    (hRec : .recorded c rid m origin ∈ s.log) {th : Thread R}
    (hTh : Guar t s (((s.setCall c { s.calls c with event := true }).setThread t th).emit
        (.delivered c rid m)) →
      th.Ok careful (((s.setCall c { s.calls c with event := true }).setThread t th).emit
        (.delivered c rid m)) t) :
    (outline R careful).Moves t s
      (((s.setCall c { s.calls c with event := true }).setThread t th).emit
        (.delivered c rid m)) := by
  refine moves_call hs ht rfl id (fun _ => rfl) trivial (fun k => ?_) (fun m' hm => ?_)
    (fun _ => (hs.1.log _ hRec).2.1) nofun (fun hGuar => ?_) hTh
  · simpa [recordedCount, isRecorded] using hs.1.recordedOnce k
  · obtain ⟨k, origin', hRec'⟩ := hs.1.message c m' hm
    exact ⟨k, origin', List.mem_append_left _ hRec'⟩
  · exact ⟨by simp [State.emit, State.setThread, State.setCall], origin, hGuar.mono hRec⟩

/-! ## Entries taken out -/

theorem claimed_of_entry {rid : RequestId} {c : ThreadId}
    (hMem : (rid, c) ∈ s.pending) {evs : List (Event R)} (hLog : s'.log = s.log ++ evs)
    (hTaken : .taken t rid c ∈ evs) (hOnly : ∀ u c', .taken u rid c' ∈ evs → u = t ∧ c' = c)
    (hNone : recordedCount rid evs = 0) (hGone : ∀ c', (rid, c') ∉ s'.pending)
    (hRid : s'.nextRid = s.nextRid) :
    Claimed s' t rid c ∧ (Event.taken t rid c).Ok careful s' := by
  obtain ⟨hFree, hCount⟩ := free_of_entry hs hMem
  obtain ⟨g, hReg, -⟩ := hs.1.entry _ hMem
  have hOld : rid < s'.nextRid := hRid ▸ (hs.1.log _ hReg).1
  have hAll : ∀ u c', .taken u rid c' ∈ s'.log → u = t ∧ c' = c := by
    intro u c' h
    rw [hLog] at h
    exact (List.mem_append.mp h).elim (fun h => absurd h (hFree u c')) (hOnly u c')
  refine ⟨⟨by simp [hLog, hTaken], fun u c' h => (hAll u c' h).1, hGone, hOld, ?_⟩,
    ⟨g, by simp [hLog, hReg]⟩, hOld, hGone, hAll⟩
  rw [hLog, recordedCount_append, hCount, hNone]

omit hs

theorem doomed_sublist (s : State R) (generation : Option Generation) :
    (doomed s generation).Sublist s.pending := by
  cases generation with
  | none => exact .refl _
  | some g => exact List.filter_sublist

theorem doomed_generation {generation : Option Generation} {x : RequestId × ThreadId}
    (hx : x ∈ doomed s generation) {g : Generation} (hg : generation = some g) :
    (s.calls x.2).generation = some g := by
  subst hg
  simpa using (List.mem_filter.mp hx).2

theorem entry_unique (hs : (outline R careful).Holds s) {x y : RequestId × ThreadId}
    (hx : x ∈ s.pending) (hy : y ∈ s.pending) (h : x.1 = y.1) : x = y :=
  List.inj_on_of_nodup_map hs.1.nodup hx hy h

/-! ## Steps inside `_drop_connection` -/

section Drop

variable {m : Main R} {f : DropFrame}

theorem used_of_frame (hTh : s.threads t = ⟨m, some f⟩) : s.threads t ≠ .at .unused := by
  rw [hTh]
  nofun

theorem moves_frame (hs : (outline R careful).Holds s) (hTh : s.threads t = ⟨m, some f⟩)
    {s₁ : State R} (hCore : SameCore s s₁) {f' : DropFrame} (hOk : f'.Ok s t) :
    (outline R careful).Moves t s (s₁.setThread t ⟨m, some f'⟩) := by
  have hSelf := self_ok hs hTh
  refine moves_setThread hs (used_of_frame hTh) hCore ⟨hSelf.main, ?_⟩
  rintro g ⟨⟩
  exact ⟨(hSelf.drop f rfl).1, hOk⟩

theorem doom_moves (hs : (outline R careful).Holds s) (hTh : s.threads t = ⟨m, some f⟩) :
    (outline R careful).Moves t s
      ({ s with
        pending := s.pending.filter fun x => x ∉ doomed s f.generation
        log := s.log ++ (doomed s f.generation).map fun x : RequestId × ThreadId =>
          Event.taken t x.1 x.2 }.setThread t
        ⟨m, some { f with items := doomed s f.generation, pc := .fail }⟩) := by
  have hSelf := self_ok hs hTh
  have hSub := doomed_sublist s f.generation
  generalize hItems : doomed s f.generation = items at hSub ⊢
  generalize hEvs : items.map (fun x : RequestId × ThreadId => Event.taken (R := R) t x.1 x.2) = evs
  generalize hs' : ({ s with
    pending := s.pending.filter fun x => x ∉ items
    log := s.log ++ evs }.setThread t ⟨m, some { f with items := items, pc := .fail }⟩ :
      State R) = s'
  have hLog : s'.log = s.log ++ evs := by subst hs'; rfl
  have hPending : s'.pending = s.pending.filter fun x => x ∉ items := by subst hs'; rfl
  have hMemEvs : ∀ e, e ∈ evs ↔ ∃ x ∈ items, Event.taken t x.1 x.2 = e := by
    intro e
    simp [← hEvs]
  have hSame : SameCalls s s' := by
    subst hs'
    exact ⟨rfl, List.filter_sublist, rfl⟩
  have hNone : ∀ rid, recordedCount rid evs = 0 := by
    intro rid
    refine List.countP_eq_zero.mpr fun e he => ?_
    obtain ⟨x, -, rfl⟩ := (hMemEvs e).mp he
    simp [isRecorded]
  have hBy : ∀ e ∈ evs, e.By t s := by
    intro e he
    obtain ⟨x, hx, rfl⟩ := (hMemEvs e).mp he
    exact ⟨rfl, hSub.subset hx⟩
  have hGuar : Guar t s s' := hSame.guar hLog hBy
  have hClaimed : ∀ x ∈ items, Claimed s' t x.1 x.2 ∧ (Event.taken t x.1 x.2).Ok careful s' := by
    intro x hx
    refine claimed_of_entry hs (hSub.subset hx) hLog ((hMemEvs _).mpr ⟨x, hx, rfl⟩) ?_ (hNone _) ?_
      hSame.nextRid
    · intro u c' h
      obtain ⟨y, hy, hEq⟩ := (hMemEvs _).mp h
      obtain ⟨rfl, h1, rfl⟩ := Event.taken.inj hEq
      rw [entry_unique hs (hSub.subset hy) (hSub.subset hx) h1]
      exact ⟨rfl, rfl⟩
    · intro c' h
      rw [hPending, List.mem_filter] at h
      have hEq : (x.1, c') = x := entry_unique hs h.1 (hSub.subset hx) rfl
      simp [hEq, hx] at h
  refine moves_log hs hSame ?_ ?_ hLog hBy (fun e he => ?_) hNone ?_ ?_ (fun u hu => Or.inl ?_)
  · subst hs'
    exact unstarted_setThread hs (used_of_frame hTh) rfl
  · subst hs'
    exact hs.1.sock
  · obtain ⟨x, hx, rfl⟩ := (hMemEvs e).mp he
    exact (hClaimed x hx).2
  · rw [hLog]
    refine hs.1.timedOut.append fun pre e he => ?_
    obtain ⟨x, -, rfl⟩ := (hMemEvs e).mp he
    intro rid origin m h
    cases h
  · have hThread : s'.threads t = ⟨m, some { f with items := items, pc := .fail }⟩ := by
      subst hs'
      exact Function.update_self ..
    obtain ⟨hCalls, -⟩ := hSelf.drop f rfl
    have hNot : NotSent s' t := (hCalls.notSent hSelf.main).own hLog fun e he => by
      obtain ⟨x, -, rfl⟩ := (hMemEvs e).mp he
      exact id
    rw [hThread]
    refine ⟨hCalls.own hSelf.main hGuar hSame.pending.subset hNot, ?_⟩
    rintro g ⟨⟩
    refine ⟨hCalls, (hs.1.nodup.sublist (hSub.map Prod.fst)), fun x hx => (hClaimed x hx).1,
      fun x hx g hg => ?_⟩
    obtain ⟨g', hReg, hGen⟩ := hs.1.entry x (hSub.subset hx)
    rw [doomed_generation (hItems ▸ hx) hg] at hGen
    cases hGen
    exact hGuar.mono hReg
  · subst hs'
    exact Function.update_of_ne hu ..

theorem dropStep_moves (hs : (outline R careful).Holds s) (hTh : s.threads t = ⟨m, some f⟩)
    (hStep : dropStep s t m f = some s') : (outline R careful).Moves t s s' := by
  have ht := used_of_frame hTh
  have hSelf := self_ok hs hTh
  obtain ⟨hCalls, hFrame⟩ := hSelf.drop f rfl
  have hNot : NotSent s t := hCalls.notSent hSelf.main
  unfold dropStep at hStep
  unfold DropFrame.Ok at hFrame
  cases hAt : f.pc <;> simp only [hAt] at hStep hFrame
  case acquire =>
    split at hStep
    · cases hStep
      refine moves_frame hs hTh ?_ trivial
      split
      · exact ⟨⟨rfl, .refl _, rfl⟩, rfl, rfl, rfl, nofun⟩
      · exact ⟨⟨rfl, .refl _, rfl⟩, rfl, rfl, rfl, hs.1.sock⟩
    · cases hStep
  case doom =>
    cases hStep
    exact doom_moves hs hTh
  case fail =>
    split at hStep <;> cases hStep
    · exact moves_frame hs hTh (.refl hs) trivial
    · rename_i rid c rest hItems
      have hClaimed := hFrame.claimed (rid, c) (by simp [hItems])
      have hRode := hFrame.rode (rid, c) (by simp [hItems])
      have hOrigin : (Origin.retired f.generation).Ok s c rid (failure f.error : Message R) :=
        ⟨⟨f.error, rfl⟩, hRode⟩
      refine moves_record hs ht hClaimed hOrigin fun hGuar => ?_
      have hNodup := hFrame.nodup
      rw [hItems, List.map_cons, List.nodup_cons] at hNodup
      refine ⟨hCalls.own hSelf.main hGuar (List.Subset.refl _)
        (hNot.own rfl (by simp [Event.Ends])), ?_⟩
      rintro g ⟨⟩
      refine ⟨hCalls, ⟨hNodup.2, fun x hx => ?_, fun x hx g hg => ?_⟩, by simp [State.emit]⟩
      · refine (hFrame.claimed x (by simp [hItems, hx])).own hGuar (List.Subset.refl _) ?_
        have hNe : rid ≠ x.1 := fun h => hNodup.1 (List.mem_map.mpr ⟨x, hx, h.symm⟩)
        simp only [State.emit, State.setThread, State.setCall, recordedCount_append]
        simp [recordedCount, isRecorded, hNe]
      · exact hGuar.mono (hFrame.rode x (by simp [hItems, hx]) g hg)
  case set rid c =>
    cases hStep
    refine moves_set hs ht hFrame.2 fun hGuar => ?_
    refine ⟨hCalls.own hSelf.main hGuar (List.Subset.refl _)
      (hNot.own rfl (by simp [Event.Ends])), ?_⟩
    rintro g ⟨⟩
    refine ⟨hCalls, hFrame.1.nodup, fun x hx => ?_, fun x hx g hg => ?_⟩
    · refine (hFrame.1.claimed x hx).own hGuar (List.Subset.refl _) ?_
      simp only [State.emit, State.setThread, State.setCall, recordedCount_append]
      simp [recordedCount, isRecorded]
    · exact hGuar.mono (hFrame.1.rode x hx g hg)
  case release =>
    cases hStep
    have hCore : SameCore s { s with lock := none } :=
      ⟨⟨rfl, .refl _, rfl⟩, rfl, rfl, rfl, hs.1.sock⟩
    exact moves_frame hs hTh hCore (by trivial)
  case close =>
    cases hStep
    have hCore : SameCore s { s with closed := s.closed ++ f.sock.toList } :=
      ⟨⟨rfl, .refl _, rfl⟩, rfl, rfl, rfl, hs.1.sock⟩
    have hEnd : (Main.finished : Main R).Ok careful s t := fun rid g h =>
      absurd h (hNot.sent rid g)
    cases m <;> try exact hCalls.elim
    case dropSent a error =>
      cases a with
      | first => exact moves_goto hs ht hCore hSelf.main
      | second => exact moves_raise hs ht hCore hNot
    all_goals exact moves_goto hs ht hCore hEnd

end Drop

/-! ## Steps outside `_drop_connection` -/

section MainSteps

theorem used_of_main {m : Main R} (hTh : s.threads t = .at m) (hUsed : m ≠ .unused) :
    s.threads t ≠ .at .unused := by
  rw [hTh]
  exact fun h => hUsed (Thread.mk.inj h).1

variable (hs : (outline R careful).Holds s)

include hs

theorem sameCore_of {s₁ : State R}
    (hCalls : s₁.calls = s.calls) (hPending : s₁.pending.Sublist s.pending)
    (hRid : s₁.nextRid = s.nextRid) (hLog : s₁.log = s.log) (hThreads : s₁.threads = s.threads)
    (hNext : s₁.nextThread = s.nextThread) (hSock : s₁.sock = s.sock)
    (hGen : s₁.generation = s.generation) : SameCore s s₁ :=
  ⟨⟨hCalls, hPending, hRid⟩, hLog, hThreads, hNext, by rw [hSock, hGen]; exact hs.1.sock⟩

theorem moves_callDrop (ht : s.threads t ≠ .at .unused)
    {s₁ : State R} (hCore : SameCore s s₁) {m : Main R} (hCalls : m.CallsDrop)
    (hOk : m.Ok careful s t) {f : DropFrame} (hPc : f.pc = .acquire) :
    (outline R careful).Moves t s (s₁.setThread t ⟨m, some f⟩) := by
  refine moves_setThread hs ht hCore ⟨hOk, ?_⟩
  rintro g ⟨⟩
  refine ⟨hCalls, ?_⟩
  unfold DropFrame.Ok
  rw [hPc]
  trivial

theorem register_moves {a : Attempt}
    (hTh : s.threads t = .at (.register a)) {sock : Generation} (hSock : s.sock = some sock) :
    (outline R careful).Moves t s
      (({ (s.setCall t { s.calls t with generation := some s.generation }) with
          pending := s.pending ++ [(s.nextRid, t)]
          nextRid := s.nextRid + 1 }.goto t (.send a s.nextRid sock)).emit
        (.registered t s.nextRid s.generation)) := by
  have hShared : Shared careful s := hs.1
  have hRest : Resting careful s t := (self_ok hs hTh).main
  have ht := used_of_main hTh fun h => (by cases h)
  obtain rfl : sock = s.generation := hShared.sock sock hSock
  generalize hs' : (({ (s.setCall t { s.calls t with generation := some s.generation }) with
          pending := s.pending ++ [(s.nextRid, t)]
          nextRid := s.nextRid + 1 }.goto t (.send a s.nextRid s.generation)).emit
        (.registered t s.nextRid s.generation)) = s'
  have hLog : s'.log = s.log ++ [.registered t s.nextRid s.generation] := by subst hs'; rfl
  have hPending : s'.pending = s.pending ++ [(s.nextRid, t)] := by subst hs'; rfl
  have hRid : s'.nextRid = s.nextRid + 1 := by subst hs'; rfl
  have hOwn : s'.calls t = { s.calls t with generation := some s.generation } := by
    subst hs'
    exact Function.update_self ..
  have hOther : ∀ c, c ≠ t → s'.calls c = s.calls c := by
    subst hs'
    intro c hc
    exact Function.update_of_ne hc ..
  have hOld : ∀ x ∈ s.pending, x.1 < s.nextRid := by
    intro x hx
    obtain ⟨g, hReg, -⟩ := hShared.entry x hx
    exact (hShared.log _ hReg).1
  have hGuar : Guar t s s' := by
    refine ⟨⟨_, hLog, by simp [Event.By]⟩, fun x hx => ?_, hRid ▸ Nat.le_succ _,
      fun c hc => by rw [hOther c hc], fun c h => ?_, fun c h => ?_⟩
    · rw [hPending] at hx
      refine (List.mem_append.mp hx).imp id fun h => ?_
      rw [List.mem_singleton.mp h]
      exact ⟨rfl, Nat.le_refl _, hRest.notSent⟩
    · by_cases hc : c = t
      · subst hc
        rw [hOwn]
        exact h
      · rwa [hOther c hc]
    · by_cases hc : c = t
      · subst hc
        rw [hOwn]
        exact h
      · rwa [hOther c hc]
  refine moves_of hs hGuar ?_ ?_ (fun e he hNew => ?_) ?_ (fun x hx => ?_) (fun rid => ?_)
    (fun c m hm => ?_) (fun c h => ?_) ?_ ?_ (fun u hu => Or.inl ?_)
  · subst hs'
    exact unstarted_setThread hs ht rfl
  · subst hs'
    exact hShared.sock
  · obtain rfl : e = .registered t s.nextRid s.generation := by simpa [hLog, hNew] using he
    refine ⟨hRid ▸ Nat.lt_succ_self _, fun c' g' h => ?_⟩
    rw [hLog] at h
    rcases List.mem_append.mp h with h | h
    · exact absurd (hShared.log _ h).1 (Nat.lt_irrefl _)
    · obtain ⟨rfl, -, rfl⟩ := Event.registered.inj (List.mem_singleton.mp h)
      exact ⟨rfl, rfl⟩
  · rw [hPending, List.map_append, List.nodup_append]
    refine ⟨hShared.nodup, by simp, fun rid hMem rid' hMem' => ?_⟩
    obtain ⟨x, hx, rfl⟩ := List.mem_map.mp hMem
    obtain rfl : rid' = s.nextRid := by simpa using hMem'
    exact Nat.ne_of_lt (hOld x hx)
  · rw [hPending] at hx
    rcases List.mem_append.mp hx with hx | hx
    · obtain ⟨g, hReg, hGen⟩ := hShared.entry x hx
      have hNe : x.2 ≠ t := fun h => hRest.noEntry x.1 (by rw [← h]; exact hx)
      exact ⟨g, hGuar.mono hReg, by rw [hOther _ hNe]; exact hGen⟩
    · rw [List.mem_singleton.mp hx]
      exact ⟨s.generation, by simp [hLog], by rw [hOwn]⟩
  · rw [hLog, recordedCount_append]
    simpa [recordedCount, isRecorded] using hShared.recordedOnce rid
  · have hOldMessage : (s.calls c).message = some m := by
      by_cases hc : c = t
      · subst hc
        rw [hOwn] at hm
        exact hm
      · rwa [hOther c hc] at hm
    obtain ⟨rid, origin, hRec⟩ := hShared.message c m hOldMessage
    exact ⟨rid, origin, hGuar.mono hRec⟩
  · by_cases hc : c = t
    · subst hc
      rw [hOwn] at h ⊢
      exact hShared.event c h
    · rw [hOther c hc] at h ⊢
      exact hShared.event c h
  · rw [hLog]
    exact hShared.timedOut.snoc fun _ _ _ h => (by cases h)
  · have hThread : s'.threads t = .at (.send a s.nextRid s.generation) := by
      subst hs'
      exact Function.update_self ..
    rw [hThread]
    refine Thread.ok_at ⟨hRest.notSent.own hLog (by simp [Event.Ends]), by simp [hLog],
      by rw [hOwn], fun rid' h => ?_, fun hC u rid' h => ?_⟩
    · rw [hPending] at h
      rcases List.mem_append.mp h with h | h
      · exact absurd h (hRest.noEntry rid')
      · exact (Prod.mk.inj (List.mem_singleton.mp h)).1
    · rw [hLog] at h
      rcases List.mem_append.mp h with h | h
      · exact absurd h (hRest.clean hC u rid')
      · cases List.mem_singleton.mp h
  · subst hs'
    exact Function.update_of_ne hu ..

theorem resolve_moves {sock : Generation} {m : Message R}
    (hTh : s.threads t = .at (.resolve sock m)) {rid : RequestId} {c : ThreadId}
    (hFind : s.pending.find? (fun x => m.id = some x.1) = some (rid, c)) :
    (outline R careful).Moves t s
      (((s.pop rid).goto t (.deliver sock rid c m)).emit (.taken t rid c)) := by
  have hSelf : NotSent s t ∧ .received sock m ∈ s.log := (self_ok hs hTh).main
  have hMem : (rid, c) ∈ s.pending := List.mem_of_find?_eq_some hFind
  have hId : m.id = some rid := by simpa using List.find?_some hFind
  generalize hs' : ((s.pop rid).goto t (.deliver sock rid c m)).emit (.taken t rid c) = s'
  have hLog : s'.log = s.log ++ [.taken t rid c] := by subst hs'; rfl
  have hSame : SameCalls s s' := by
    subst hs'
    exact ⟨rfl, List.filter_sublist, rfl⟩
  obtain ⟨hClaimed, hTaken⟩ : Claimed s' t rid c ∧ (Event.taken t rid c).Ok careful s' := by
    refine claimed_of_entry hs hMem hLog (by simp) (fun u c' h => ?_) rfl (fun c' h => ?_)
      hSame.nextRid
    · obtain ⟨rfl, -, rfl⟩ := Event.taken.inj (List.mem_singleton.mp h)
      exact ⟨rfl, rfl⟩
    · subst hs'
      simp [State.emit, State.goto, State.setThread, State.pop] at h
  have hBy : ∀ e ∈ [Event.taken t rid c], e.By t s := by
    intro e he
    rw [List.mem_singleton.mp he]
    exact ⟨rfl, hMem⟩
  refine moves_log hs hSame ?_ ?_ hLog hBy (by simpa using hTaken) (fun _ => rfl) ?_ ?_
    (fun u hu => Or.inl ?_)
  · subst hs'
    exact unstarted_setThread hs (used_of_main hTh nofun) rfl
  · subst hs'
    exact hs.1.sock
  · rw [hLog]
    exact hs.1.timedOut.snoc nofun
  · have hThread : s'.threads t = .at (.deliver sock rid c m) := by
      subst hs'
      exact Function.update_self ..
    rw [hThread]
    exact Thread.ok_at ⟨hSelf.1.own hLog (by simp [Event.Ends]),
      (hSame.guar hLog hBy).mono hSelf.2, hId, hClaimed⟩
  · subst hs'
    exact Function.update_of_ne hu ..

theorem unregister_moves {a : Attempt} {rid : RequestId}
    {sock : Generation} {error : String} (hTh : s.threads t = .at (.unregister a rid sock error))
    (hC : careful → a = .first → (rid, t) ∈ s.pending) :
    (outline R careful).Moves t s ((s.pop rid).setThread t
      ⟨.dropSent a error, some (connectionLost sock (s.calls t).generation)⟩) := by
  obtain ⟨hNot, hRiding⟩ : NotSent s t ∧ Riding careful s t rid sock := (self_ok hs hTh).main
  have ht := used_of_main hTh nofun
  have hCore : SameCore s (s.pop rid) :=
    sameCore_of hs rfl List.filter_sublist rfl rfl rfl rfl rfl rfl
  have hNot' : NotSent ((s.pop rid).setThread t
      ⟨.dropSent a error, some (connectionLost sock (s.calls t).generation)⟩) t :=
    hNot.own (List.append_nil _).symm nofun
  refine moves_silent hs ht hCore ⟨?_, ?_⟩
  · cases a with
    | second => exact hNot'
    | first =>
      refine ⟨hNot', fun rid' h => ?_, fun hCareful u rid' h => ?_⟩
      · have h' : (rid', t) ∈ s.pending ∧ rid' ≠ rid := by
          simpa [State.setThread, State.pop] using h
        exact h'.2 (hRiding.entry rid' h'.1)
      · obtain rfl := hRiding.clean hCareful u rid' h
        exact (free_of_entry hs (hC hCareful rfl)).1 u t h
  · rintro g ⟨⟩
    exact ⟨trivial, trivial⟩

theorem moves_check (ht : s.threads t ≠ .at .unused)
    (hRest : Resting careful s t) {p : Prop} [Decidable p] {e : CallError} {m : Main R}
    (hOk : m.Ok careful s t) :
    (outline R careful).Moves t s (if p then s.finish t (.raised e) else s.goto t m) := by
  split
  · exact moves_raise hs ht (.refl hs) hRest.notSent
  · exact moves_goto hs ht (.refl hs) hOk

theorem mainStep_moves {m : Main R}
    (hTh : s.threads t = .at m) (hC : careful → Uncontested s (.run t))
    (hStep : mainStep cfg s t m = some s') : (outline R careful).Moves t s s' := by
  have hOk : m.Ok careful s t := (self_ok hs hTh).main
  have hCore := SameCore.refl hs
  have hUsed : m ≠ .unused := by
    rintro rfl
    cases hStep
  have ht := used_of_main hTh hUsed
  cases m <;> simp only [mainStep] at hStep <;> try cases hStep
  case connect =>
    have hEnd : (Main.finished : Main R).Ok careful s t := fun rid g h =>
      absurd h (NotSent.sent hOk rid g)
    split at hStep
    · split at hStep <;> cases hStep
      · exact moves_goto hs ht hCore hEnd
      · apply moves_goto hs ht
        · exact sameCore_of hs rfl (.refl _) rfl rfl rfl rfl rfl rfl
        · exact hOk
    · cases hStep
  case ensure a => split <;> exact moves_goto hs ht hCore hOk
  case checkConnected a => split <;> exact moves_goto hs ht hCore hOk
  case checkStop a => exact moves_check hs ht hOk hOk
  case checkAuth a => exact moves_check hs ht hOk hOk
  case checkClock a => exact moves_goto hs ht hCore hOk
  case checkFailure a since => exact moves_check hs ht hOk hOk
  case reconnect a =>
    split at hStep <;> cases hStep
    split
    · exact moves_goto hs ht hCore hOk
    · split
      · exact moves_raise hs ht hCore (Resting.notSent hOk)
      · split
        · exact moves_raise hs ht hCore (Resting.notSent hOk)
        · split
          · exact moves_raise hs ht hCore (Resting.notSent hOk)
          · apply moves_goto hs ht
            · exact sameCore_of hs rfl (.refl _) rfl rfl rfl rfl rfl rfl
            · exact hOk
  case register a =>
    split at hStep
    · split at hStep <;> cases hStep
      · rename_i sock hSock hConnected
        exact register_moves hs hTh hSock
      · cases a with
        | first => exact moves_goto hs ht hCore hOk
        | second => exact moves_raise hs ht hCore (Resting.notSent hOk)
    · cases hStep
  case unregister a rid sock error =>
    refine unregister_moves hs hTh fun hCareful hFirst => ?_
    subst hFirst
    have h := hC hCareful
    simp only [Uncontested] at h
    rw [hTh] at h
    exact h
  case wait rid =>
    split at hStep <;> cases hStep
    rename_i hEvent
    exact moves_goto hs ht hCore ⟨hOk, hEvent⟩
  case readMessage rid =>
    refine moves_goto hs ht hCore ⟨hOk.1, Or.inr ?_⟩
    cases hMessage : (s.calls t).message with
    | none => exact absurd hMessage (hs.1.event t hOk.2)
    | some m =>
      obtain ⟨rid', origin, hRec⟩ := hs.1.message t m hMessage
      exact ⟨rid', m, origin, hRec, rfl⟩
  case leave rid o =>
    apply moves_finish hs ht
    · exact sameCore_of hs rfl List.filter_sublist rfl rfl rfl rfl rfl rfl
    · exact Or.inr hOk.2
    · intro r hr
      rcases hOk.2 with ⟨ho, -⟩ | ⟨rid', m, origin, hRec, ho⟩
      · rw [hr] at ho
        cases ho
      · exact ⟨rid', m, origin, hRec, ho.symm.trans hr⟩
  case readLoop sock =>
    split
    · apply moves_callDrop hs ht hCore
      · trivial
      · exact hOk
      · rfl
    · exact moves_goto hs ht hCore hOk
  case resolve sock m =>
    split at hStep <;> cases hStep
    · exact moves_goto hs ht hCore hOk.1
    · rename_i rid c hFind
      exact resolve_moves hs hTh hFind
  case deliver sock rid c m =>
    obtain ⟨hNot, hReceived, hId, hClaimed⟩ := hOk
    have hOrigin : (Origin.response sock).Ok s c rid m := ⟨hReceived, hId⟩
    refine moves_record hs ht hClaimed hOrigin fun hGuar => Thread.ok_at ⟨?_, ?_⟩
    · exact hNot.own rfl (by simp [Event.Ends])
    · simp [State.emit]
  case deliverSet sock rid c m =>
    exact moves_set hs ht hOk.2 fun hGuar =>
      Thread.ok_at (hOk.1.own rfl (by simp [Event.Ends]))
  case close =>
    apply moves_goto hs ht
    · exact sameCore_of hs rfl (.refl _) rfl rfl rfl rfl rfl rfl
    · exact hOk
  case closeRead =>
    apply moves_callDrop hs ht hCore
    · trivial
    · exact hOk
    · rfl

end MainSteps

/-! ## The labels from outside -/

theorem answers_sent {log : List (Event R)} {sock : Generation} {m : Message R}
    (h : answers log sock m = true) {rid : RequestId} (hId : m.id = some rid) :
    ∃ c, .sent c rid sock ∈ log := by
  simp only [answers, hId, List.any_eq_true] at h
  obtain ⟨e, hMem, he⟩ := h
  cases e <;> simp only [Bool.and_eq_true, beq_iff_eq, Bool.false_eq_true] at he
  obtain ⟨rfl, rfl⟩ := he
  exact ⟨_, hMem⟩

variable (hs : (outline R careful).Holds s)

include hs

theorem spawn_moves {m : Main R}
    (hOk : Resting careful s s.nextThread → m.Ok careful s s.nextThread) :
    (outline R careful).Moves s.nextThread s (s.spawn m) := by
  have hFresh := hs.1.fresh s.nextThread (Nat.le_refl _)
  have hRest : Resting careful s s.nextThread := (self_ok hs hFresh).main
  have hSame : SameCalls s (s.spawn m) := ⟨rfl, .refl _, rfl⟩
  refine moves_log hs hSame (fun u hu => ?_) hs.1.sock (List.append_nil _).symm nofun nofun
    (fun _ => rfl) hs.1.timedOut ?_ (fun u hu => Or.inl (Function.update_of_ne hu ..))
  · have hu' : s.nextThread < u := hu
    have hNe : u ≠ s.nextThread := (Nat.ne_of_lt hu').symm
    simp only [State.spawn, State.goto, State.setThread, Function.update_of_ne hNe]
    exact hs.1.fresh u (Nat.le_of_lt hu')
  · have hThread : (s.spawn m).threads s.nextThread = .at m := Function.update_self ..
    rw [hThread]
    exact hSame.ok rfl (Thread.ok_at (hOk hRest))

theorem connectEnds_moves {a : Option Attempt}
    (hTh : s.threads t = .at (.connecting a)) {s₁ : State R} (hCore : SameCore s s₁)
    {e : CallError} : (outline R careful).Moves t s (connectEnds s₁ t e a) := by
  have hOk := (self_ok hs hTh).main
  have ht := used_of_main hTh nofun
  cases a with
  | some a => exact moves_raise hs ht hCore (Resting.notSent hOk)
  | none => exact moves_goto hs ht hCore fun rid g h => absurd h (NotSent.sent hOk rid g)

theorem connectOk_moves (hStep : connectOk s t = some s') : (outline R careful).Moves t s s' := by
  unfold connectOk at hStep
  split at hStep
  · rename_i a hTh
    have hOk : (Main.connecting a : Main R).Ok careful s t := (self_ok hs hTh).main
    have ht : s.threads t ≠ .at .unused := used_of_main hTh nofun
    have hLt := lt_of_used hs ht
    obtain ⟨m, hm, hs'⟩ : ∃ m : Main R, m.Ok careful s t ∧ s' = { s.spawn
        (.readLoop (s.generation + 1)) with
        sock := some (s.generation + 1), generation := s.generation + 1, connected := true
        lock := none, lastFailure := 0 }.goto t m := by
      cases a with
      | some a => exact ⟨.register a, hOk, (Option.some.inj hStep).symm⟩
      | none =>
        exact ⟨.finished, fun rid g h => absurd h (NotSent.sent hOk rid g),
          (Option.some.inj hStep).symm⟩
    have hSame : SameCalls s s' := by
      subst hs'
      exact ⟨rfl, .refl _, rfl⟩
    have hLog : s'.log = s.log := by subst hs'; rfl
    have hThreads : s'.threads = Function.update (Function.update s.threads s.nextThread
        (.at (.readLoop (s.generation + 1)))) t (.at m) := by subst hs'; rfl
    have hNext : s'.nextThread = s.nextThread + 1 := by subst hs'; rfl
    refine moves_log hs hSame (fun u hu => ?_) ?_ (hLog.trans (List.append_nil _).symm) nofun nofun
      (fun _ => rfl) (hLog ▸ hs.1.timedOut) ?_ (fun u hu => ?_)
    · rw [hNext] at hu
      have hu' : s.nextThread < u := hu
      rw [hThreads, Function.update_of_ne (Nat.ne_of_lt (Nat.lt_trans hLt hu')).symm,
        Function.update_of_ne (Nat.ne_of_lt hu').symm]
      exact hs.1.fresh u (Nat.le_of_lt hu')
    · subst hs'
      intro g hg
      exact (Option.some.inj hg).symm
    · rw [hThreads, Function.update_self]
      exact hSame.ok hLog (Thread.ok_at hm)
    · rw [hThreads, Function.update_of_ne hu]
      by_cases hn : u = s.nextThread
      · subst hn
        have hFresh := hs.1.fresh s.nextThread (Nat.le_refl _)
        have hRest : Resting careful s s.nextThread := (self_ok hs hFresh).main
        rw [Function.update_self]
        exact Or.inr (hSame.ok hLog (Thread.ok_at hRest.notSent))
      · exact Or.inl (by rw [Function.update_of_ne hn])
  · cases hStep

theorem sendOk_moves (hStep : sendOk s t = some s') : (outline R careful).Moves t s s' := by
  unfold sendOk at hStep
  split at hStep
  · rename_i a rid sock hTh
    split at hStep <;> cases hStep
    obtain ⟨hNot, hRiding⟩ : NotSent s t ∧ Riding careful s t rid sock := (self_ok hs hTh).main
    have ht : s.threads t ≠ .at .unused := used_of_main hTh nofun
    have hGuar : Guar t s ((s.goto t (.wait rid)).emit (.sent t rid sock)) :=
      SameCalls.guar ⟨rfl, .refl _, rfl⟩ rfl (by simp [Event.By])
    have hRiding' := hRiding.own hGuar (List.Subset.refl _) rfl
    refine moves_emit hs ht (.refl hs) rfl ⟨hRiding'.registered, hRiding'.entry, hRiding'.clean,
      fun o h => ?_⟩ (fun _ => rfl) nofun (Thread.ok_at ⟨sock, ?_, hRiding'⟩)
    · exact absurd (by simpa [State.emit, State.setThread] using h) (hNot.finished o)
    · simp [State.emit]
  · cases hStep

theorem sendFails_moves {error : String} (hStep : sendFails s t error = some s') :
    (outline R careful).Moves t s s' := by
  unfold sendFails at hStep
  split at hStep <;> cases hStep
  rename_i a rid sock hTh
  obtain ⟨hNot, hRiding⟩ : NotSent s t ∧ Riding careful s t rid sock := (self_ok hs hTh).main
  have ht : s.threads t ≠ .at .unused := used_of_main hTh nofun
  have hGuar : Guar t s ((s.goto t (.unregister a rid sock error)).emit (.sendFailed t rid)) :=
    SameCalls.guar ⟨rfl, .refl _, rfl⟩ rfl (by simp [Event.By])
  exact moves_emit hs ht (.refl hs) rfl trivial (fun _ => rfl) nofun
    (Thread.ok_at ⟨hNot.own rfl (by simp [Event.Ends]),
      hRiding.own hGuar (List.Subset.refl _) rfl⟩)

theorem receive_moves {m : Message R} (hStep : receive s t m = some s') :
    (outline R careful).Moves t s s' := by
  unfold receive at hStep
  split at hStep
  · rename_i sock hTh
    split at hStep <;> cases hStep
    rename_i hAnswers
    have hNot : NotSent s t := (self_ok hs hTh).main
    have ht : s.threads t ≠ .at .unused := used_of_main hTh nofun
    refine moves_emit hs ht (.refl hs) trivial (fun rid hId => ?_) (fun _ => rfl) nofun
      (Thread.ok_at ⟨hNot.own rfl (by simp [Event.Ends]), by simp [State.emit]⟩)
    obtain ⟨c, hSent⟩ := answers_sent hAnswers.2 hId
    exact ⟨c, List.mem_append_left _ hSent⟩
  · cases hStep

theorem waitTimesOut_moves (hStep : waitTimesOut s t = some s') :
    (outline R careful).Moves t s s' := by
  unfold waitTimesOut at hStep
  split at hStep
  · rename_i rid hTh
    split at hStep <;> cases hStep
    rename_i hEvent
    obtain ⟨g, hSent, hRiding⟩ : ∃ g, Event.sent t rid g ∈ s.log ∧ Riding careful s t rid g :=
      (self_ok hs hTh).main
    have ht : s.threads t ≠ .at .unused := used_of_main hTh nofun
    have hGuar : Guar t s ((s.goto t (.leave rid timeoutOutcome)).emit (.timedOut t)) :=
      SameCalls.guar ⟨rfl, .refl _, rfl⟩ rfl (by simp [Event.By])
    refine moves_emit hs ht (.refl hs) rfl trivial (fun _ => rfl) ?_ (Thread.ok_at ⟨⟨g, ?_, ?_⟩, ?_⟩)
    · intro c k m hc hMem
      cases hc
      exact hEvent (hs.1.log _ hMem).1
    · exact hGuar.mono hSent
    · exact hRiding.own hGuar (List.Subset.refl _) rfl
    · exact Or.inl ⟨rfl, by simp [State.emit]⟩
  · cases hStep

theorem step_moves {l : Label R} (hC : careful → Uncontested s l) (hStep : step cfg s l = some s') :
    ∃ t, (outline R careful).Moves t s s' := by
  cases l <;> simp only [step] at hStep
  case tick n =>
    cases hStep
    have hSame : SameCalls s { s with monotonic := s.monotonic + n } := ⟨rfl, .refl _, rfl⟩
    have hSelf : Thread.Ok careful s s.nextThread (s.threads s.nextThread) := hs.2 _
    exact ⟨s.nextThread, moves_log hs hSame hs.1.fresh hs.1.sock (List.append_nil _).symm nofun
      nofun (fun _ => rfl) hs.1.timedOut (hSame.ok rfl hSelf) fun u _ => Or.inl rfl⟩
  case connect =>
    cases hStep
    exact ⟨_, spawn_moves hs fun h => h.notSent⟩
  case call =>
    cases hStep
    exact ⟨_, spawn_moves hs fun h => h⟩
  case close =>
    cases hStep
    exact ⟨_, spawn_moves hs fun h => h.notSent⟩
  case run t =>
    refine ⟨t, ?_⟩
    rcases hTh : s.threads t with ⟨m, drop⟩
    simp only [threadStep, hTh] at hStep
    cases drop with
    | some f => exact dropStep_moves hs hTh hStep
    | none => exact mainStep_moves hs hTh hC hStep
  case connectOk t => exact ⟨t, connectOk_moves hs hStep⟩
  case connectFails t lastError =>
    refine ⟨t, ?_⟩
    unfold connectFails at hStep
    split at hStep <;> cases hStep
    rename_i a hTh
    apply connectEnds_moves hs hTh
    exact sameCore_of hs rfl (.refl _) rfl rfl rfl rfl rfl rfl
  case connectRejected t error =>
    refine ⟨t, ?_⟩
    unfold connectRejected at hStep
    split at hStep <;> cases hStep
    rename_i a hTh
    apply connectEnds_moves hs hTh
    exact sameCore_of hs rfl (.refl _) rfl rfl rfl rfl rfl rfl
  case sendOk t => exact ⟨t, sendOk_moves hs hStep⟩
  case sendFails t error => exact ⟨t, sendFails_moves hs hStep⟩
  case receive t m => exact ⟨t, receive_moves hs hStep⟩
  case readFails t =>
    refine ⟨t, ?_⟩
    unfold readFails at hStep
    split at hStep <;> cases hStep
    rename_i sock hTh
    have hNot : NotSent s t := (self_ok hs hTh).main
    apply moves_callDrop hs (used_of_main hTh nofun) (.refl hs)
    · trivial
    · exact hNot
    · rfl
  case waitTimesOut t => exact ⟨t, waitTimesOut_moves hs hStep⟩

omit hs

/-! ## Runs -/

theorem outline_initial (careful : Prop) (monotonic : Int) :
    (outline R careful).Holds (initial R monotonic) := by
  refine ⟨⟨fun _ _ => rfl, nofun, nofun, List.nodup_nil, nofun, fun _ => Nat.zero_le 1, nofun,
    nofun, .nil _⟩, fun t => ?_⟩
  exact Thread.ok_at ⟨⟨nofun, nofun⟩, nofun, nofun⟩

theorem outline_run {monotonic : Int} {ls : List (Label R)}
    (hRun : run cfg monotonic ls = some s) : (outline R False).Holds s :=
  (RelyGuarantee.invariant (outline_stable False) fun _ _ _ hs hStep =>
    step_moves hs False.elim hStep).run (outline_initial False monotonic) hRun

def carefulStep (cfg : Config) : State R → Label R → Option (State R) :=
  StepRun.guarded Uncontested (step cfg)

theorem outline_carefulRun {monotonic : Int} {ls : List (Label R)}
    (hRun : StepRun.run (carefulStep cfg) (initial R monotonic) ls = some s) :
    (outline R True).Holds s := by
  refine (RelyGuarantee.invariant (outline_stable True) fun _ _ _ hs hStep => ?_).run
    (outline_initial True monotonic) hRun
  obtain ⟨hC, hStep⟩ := StepRun.guarded_eq_some.mp hStep
  exact step_moves hs (fun _ => hC) hStep

end Sniff4Hound.Ipc
