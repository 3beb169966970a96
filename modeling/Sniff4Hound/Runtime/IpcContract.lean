import Sniff4Hound.Runtime.IpcSteps

/-!
# What a call of the client gets

`Correlated` is the promise of `IpcClient` to its callers: a result belongs to the caller's
own request, a response reaches one call, and the retirement of a connection fails the
calls that rode it. `ResendKept` is the promise of the second attempt of `call`. Both hold
as long as a send that fails finds its own entry in `_pending`. When the reader of the dying
connection was there first, its failure stays in the `_PendingCall` that the second attempt
waits on (`lostRetry`).

* `resend_kept`, `calls_correlated`: the promises, in the runs without that race.
* `results_correlated`: what holds in all runs: no result reaches another call.
-/

namespace Sniff4Hound.Ipc

open RelyGuarantee

variable {R : Type} {careful : Prop} {cfg : Config} {s : State R}

/-! ## What the log of a run says -/

theorem recorded_unique (hs : (outline R careful).Holds s) {c c' : ThreadId} {rid : RequestId}
    {m m' : Message R} {origin origin' : Origin} (h : .recorded c rid m origin ∈ s.log)
    (h' : .recorded c' rid m' origin' ∈ s.log) : c = c' ∧ m = m' := by
  have hOnce := hs.1.recordedOnce rid
  by_contra hNe
  have hDiff : Event.recorded c rid m origin ≠ .recorded c' rid m' origin' := fun hEq => by
    obtain ⟨rfl, -, rfl, -⟩ := Event.recorded.inj hEq
    exact hNe ⟨rfl, rfl⟩
  obtain ⟨l, r, hLog⟩ := List.append_of_mem h
  rw [hLog] at h' hOnce
  have hMem : Event.recorded c' rid m' origin' ∈ l ∨ .recorded c' rid m' origin' ∈ r := by
    simpa [hDiff.symm] using h'
  have hPos : 0 < recordedCount rid l + recordedCount rid r := by
    rcases hMem with hMem | hMem
    · exact Nat.add_pos_left (List.countP_pos_iff.mpr ⟨_, hMem, by simp [isRecorded]⟩) _
    · exact Nat.add_pos_right _ (List.countP_pos_iff.mpr ⟨_, hMem, by simp [isRecorded]⟩)
  simp only [recordedCount, isRecorded, List.countP_append, List.countP_cons, beq_self_eq_true,
    ite_true] at hOnce hPos
  omega

theorem recorded_sent (hs : (outline R True).Holds s) {c : ThreadId} {rid rid' : RequestId}
    {g : Generation} {m : Message R} {origin : Origin} (hSent : .sent c rid g ∈ s.log)
    (hRec : .recorded c rid' m origin ∈ s.log) : rid' = rid := by
  obtain ⟨t, hTaken⟩ := (hs.1.log _ hRec).1
  exact (hs.1.log _ hSent).2.2.1 trivial t rid' hTaken

theorem outcome_returned {m : Message R} {r : Option R} (h : m.outcome = .returned r) :
    m.ok = true ∧ m.result = r := by
  unfold Message.outcome at h
  split at h
  · rename_i hOk
    exact ⟨hOk, Outcome.returned.inj h⟩
  · simp only at h
    split at h <;> cases h

theorem returned_own (hs : (outline R careful).Holds s) {c : ThreadId} {r : Option R}
    (h : .finished c (.returned r) ∈ s.log) : ∃ rid g m, .sent c rid g ∈ s.log ∧
      .received g m ∈ s.log ∧ m.id = some rid ∧ m.ok = true ∧ m.result = r := by
  obtain ⟨rid, m, origin, hRec, hOutcome⟩ := hs.1.log _ h r rfl
  obtain ⟨hOk, hResult⟩ := outcome_returned hOutcome
  obtain ⟨⟨t, hTaken⟩, -, hOrigin⟩ := hs.1.log _ hRec
  cases origin with
  | retired generation =>
    obtain ⟨⟨error, rfl⟩, -⟩ := hOrigin
    cases hOk
  | response g =>
    obtain ⟨hReceived, hId⟩ := hOrigin
    obtain ⟨c', hSent⟩ := hs.1.log _ hReceived rid hId
    obtain ⟨⟨g', hReg⟩, -⟩ := hs.1.log _ hTaken
    have hOwn := (hs.1.log _ hReg).2 c' g (hs.1.log _ hSent).1
    rw [hOwn.1] at hSent
    exact ⟨rid, g, m, hSent, hReceived, hId, hOk, hResult⟩

/-! ## The promise of a connection -/

/-- A result is the answer to the caller's own request, an id gets at most one message, and
only the calls of a connection are failed by its retirement. -/
structure Correlated (s : State R) : Prop where
  own : ∀ c r, .finished c (.returned r) ∈ s.log → ∃ rid g m, .sent c rid g ∈ s.log ∧
    .received g m ∈ s.log ∧ m.id = some rid ∧ m.ok = true ∧ m.result = r
  once : ∀ rid, recordedCount rid s.log ≤ 1
  one : ∀ c c' rid m m' origin origin', .recorded c rid m origin ∈ s.log →
    .recorded c' rid m' origin' ∈ s.log → c = c'
  retired : ∀ c rid m g, .recorded c rid m (.retired (some g)) ∈ s.log →
    .registered c rid g ∈ s.log ∧ ∀ rid' g', .sent c rid' g' ∈ s.log → g' = g

theorem correlated_of_careful (hs : (outline R True).Holds s) : Correlated s where
  own _ _ h := returned_own hs h
  once := hs.1.recordedOnce
  one _ _ _ _ _ _ _ h h' := (recorded_unique hs h h').1
  retired c rid m g hRec := by
    have hReg := (hs.1.log _ hRec).2.2.2 g rfl
    refine ⟨hReg, fun rid' g' hSent => ?_⟩
    obtain rfl := recorded_sent hs hSent hRec
    exact ((hs.1.log _ hReg).2 c g' (hs.1.log _ hSent).1).2

/-! ## The promise of the second attempt -/

def DeliveredInTime (s : State R) (c : ThreadId) (rid : RequestId) (m : Message R) : Prop :=
  ∃ pre post, s.log = pre ++ .delivered c rid m :: post ∧ .timedOut c ∉ pre

/-- A call whose first send failed and whose second frame was sent: it ends with the message
delivered for that frame, and once that is there its own next steps end it; nothing that was
recorded for the first frame is its outcome. -/
structure ResendKept (cfg : Config) (s : State R) : Prop where
  answered : ∀ c rid₁ rid g m o, .sendFailed c rid₁ ∈ s.log → .sent c rid g ∈ s.log →
    DeliveredInTime s c rid m → .finished c o ∈ s.log → o = m.outcome
  returns : ∀ c rid₁ rid g m, .sendFailed c rid₁ ∈ s.log → .sent c rid g ∈ s.log →
    DeliveredInTime s c rid m → ∃ n s', n ≤ 3 ∧
      StepRun.run (step cfg) s (List.replicate n (.run c)) = some s' ∧
      .finished c m.outcome ∈ s'.log
  forgotten : ∀ c rid₁ rid g o, .sendFailed c rid₁ ∈ s.log → .sent c rid g ∈ s.log →
    .finished c o ∈ s.log → (o = timeoutOutcome ∧ .timedOut c ∈ s.log) ∨
      ∃ m origin, .recorded c rid m origin ∈ s.log ∧ o = m.outcome

section Careful

variable {c : ThreadId} {rid : RequestId} {g : Generation} {m : Message R}

theorem not_timedOut (hs : (outline R careful).Holds s) (h : DeliveredInTime s c rid m) :
    .timedOut c ∉ s.log := by
  obtain ⟨pre, post, hLog, hPre⟩ := h
  exact fun hMem => hs.1.timedOut.not_after hLog (fun l hl hFirst => hFirst c rid m rfl hl) hMem
    hPre nofun

theorem reported_eq (hs : (outline R True).Holds s) (hSent : .sent c rid g ∈ s.log)
    (hIn : DeliveredInTime s c rid m) {o : Outcome R} (hReported : Reported s c o) :
    o = m.outcome := by
  rcases hReported with ⟨-, hTimedOut⟩ | ⟨rid', m', origin, hRec, rfl⟩
  · exact absurd hTimedOut (not_timedOut hs hIn)
  · obtain rfl := recorded_sent hs hSent hRec
    obtain ⟨pre, post, hLog, -⟩ := hIn
    obtain ⟨-, origin', hRec'⟩ := hs.1.log (.delivered c rid' m) (by simp [hLog])
    rw [(recorded_unique hs hRec hRec').2]

theorem sent_position (hs : (outline R careful).Holds s) (hSent : .sent c rid g ∈ s.log) :
    (∃ rid', s.threads c = .at (.wait rid')) ∨ (∃ rid', s.threads c = .at (.readMessage rid')) ∨
      (∃ rid' o, s.threads c = .at (.leave rid' o)) ∨ s.threads c = .at .finished := by
  rcases hTh : s.threads c with ⟨main, drop⟩
  obtain ⟨hMain, hDrop⟩ := self_ok hs hTh
  have hNone : main.CallsDrop → False := fun h => (h.notSent hMain).sent rid g hSent
  obtain rfl : drop = none := by
    cases drop with
    | none => rfl
    | some f => exact (hNone (hDrop f rfl).1).elim
  cases main with
  | wait rid' => exact Or.inl ⟨rid', rfl⟩
  | readMessage rid' => exact Or.inr (Or.inl ⟨rid', rfl⟩)
  | leave rid' o => exact Or.inr (Or.inr (Or.inl ⟨rid', o, rfl⟩))
  | finished => exact Or.inr (Or.inr (Or.inr rfl))
  | send a rid' g' | unregister a rid' g' error =>
    exact absurd hSent (NotSent.sent hMain.1 rid g)
  | resolve g' m | deliver g' rid' c' m | deliverSet g' rid' c' m =>
    exact absurd hSent (NotSent.sent hMain.1 rid g)
  | connecting a =>
    cases a with
    | some a => exact absurd hSent (Resting.notSent hMain |>.sent rid g)
    | none => exact absurd hSent (NotSent.sent hMain rid g)
  | dropSent a error => exact (hNone trivial).elim
  | readDrop | closeDrop => exact (hNone trivial).elim
  | connect | readLoop g' | receive g' | close | closeRead =>
    exact absurd hSent (NotSent.sent hMain rid g)
  | unused | ensure a | checkConnected a | checkStop a | checkAuth a | checkClock a
  | checkFailure a n | reconnect a | register a =>
    exact absurd hSent (Resting.notSent hMain |>.sent rid g)

theorem step_run_main {main : Main R} (hTh : s.threads c = .at main) :
    step cfg s (.run c) = mainStep cfg s c main := by
  simp [step, threadStep, hTh, Thread.at]

theorem run_step {t : ThreadId} {s₁ s₂ : State R} {ls : List (Label R)}
    (hStep : step cfg s (.run t) = some s₁) (hRun : StepRun.run (step cfg) s₁ ls = some s₂) :
    StepRun.run (step cfg) s (.run t :: ls) = some s₂ := by
  rw [StepRun.run_cons, hStep]
  exact hRun

theorem run_leave (cfg : Config) {rid' : RequestId} {o : Outcome R}
    (hTh : s.threads c = .at (.leave rid' o)) :
    ∃ s', StepRun.run (step cfg) s (List.replicate 1 (.run c)) = some s' ∧
      .finished c o ∈ s'.log :=
  ⟨_, run_step (step_run_main hTh) rfl, by simp [State.finish, State.emit]⟩

theorem run_readMessage (cfg : Config) {rid' : RequestId} {m' : Message R}
    (hTh : s.threads c = .at (.readMessage rid')) (hMessage : (s.calls c).message = some m') :
    ∃ s', StepRun.run (step cfg) s (List.replicate 2 (.run c)) = some s' ∧
      .finished c m'.outcome ∈ s'.log := by
  have hStep : step cfg s (.run c) = some (s.goto c (.leave rid' m'.outcome)) := by
    rw [step_run_main hTh]
    simp [mainStep, hMessage]
  obtain ⟨s', hRun, hEnd⟩ := run_leave cfg (s := s.goto c (.leave rid' m'.outcome))
    (Function.update_self ..)
  exact ⟨s', run_step hStep hRun, hEnd⟩

theorem run_wait (cfg : Config) {rid' : RequestId} {m' : Message R} (hTh : s.threads c = .at (.wait rid'))
    (hEvent : (s.calls c).event = true) (hMessage : (s.calls c).message = some m') :
    ∃ s', StepRun.run (step cfg) s (List.replicate 3 (.run c)) = some s' ∧
      .finished c m'.outcome ∈ s'.log := by
  have hStep : step cfg s (.run c) = some (s.goto c (.readMessage rid')) := by
    rw [step_run_main hTh]
    simp [mainStep, hEvent]
  obtain ⟨s', hRun, hEnd⟩ := run_readMessage cfg (s := s.goto c (.readMessage rid'))
    (Function.update_self ..) hMessage
  exact ⟨s', run_step hStep hRun, hEnd⟩

theorem message_eq (hs : (outline R True).Holds s) (hSent : .sent c rid g ∈ s.log)
    (hIn : DeliveredInTime s c rid m) :
    (s.calls c).event = true ∧ ∃ m', (s.calls c).message = some m' ∧ m'.outcome = m.outcome := by
  have hMem : .delivered c rid m ∈ s.log := by
    obtain ⟨pre, post, hLog, -⟩ := hIn
    simp [hLog]
  obtain ⟨hEvent, -⟩ := hs.1.log _ hMem
  refine ⟨hEvent, ?_⟩
  obtain ⟨m', hMessage⟩ := Option.ne_none_iff_exists'.mp (hs.1.event c hEvent)
  obtain ⟨rid', origin, hRec⟩ := hs.1.message c m' hMessage
  exact ⟨m', hMessage, reported_eq hs hSent hIn (Or.inr ⟨rid', m', origin, hRec, rfl⟩)⟩

theorem sent_returns (hs : (outline R True).Holds s) (hSent : .sent c rid g ∈ s.log)
    (hIn : DeliveredInTime s c rid m) : ∃ n s', n ≤ 3 ∧
      StepRun.run (step cfg) s (List.replicate n (.run c)) = some s' ∧
      .finished c m.outcome ∈ s'.log := by
  obtain ⟨hEvent, m', hMessage, hOutcome⟩ := message_eq hs hSent hIn
  rcases sent_position hs hSent with ⟨rid', hTh⟩ | ⟨rid', hTh⟩ | ⟨rid', o, hTh⟩ | hTh
  · obtain ⟨s', hRun, hEnd⟩ := run_wait cfg hTh hEvent hMessage
    exact ⟨3, s', Nat.le_refl 3, hRun, hOutcome ▸ hEnd⟩
  · obtain ⟨s', hRun, hEnd⟩ := run_readMessage cfg hTh hMessage
    exact ⟨2, s', by omega, hRun, hOutcome ▸ hEnd⟩
  · have hMain : (Main.leave rid' o).Ok True s c := (self_ok hs hTh).main
    obtain ⟨s', hRun, hEnd⟩ := run_leave cfg hTh
    exact ⟨1, s', by omega, hRun, reported_eq hs hSent hIn hMain.2 ▸ hEnd⟩
  · have hMain : (Main.finished : Main R).Ok True s c := (self_ok hs hTh).main
    obtain ⟨o, ho⟩ := hMain rid g hSent
    obtain rfl := reported_eq hs hSent hIn ((hs.1.log _ hSent).2.2.2 o ho)
    exact ⟨0, s, by omega, rfl, ho⟩

theorem resendKept_of_careful (hs : (outline R True).Holds s) : ResendKept cfg s where
  answered _ _ _ _ _ o _ hSent hIn hEnd :=
    reported_eq hs hSent hIn ((hs.1.log _ hSent).2.2.2 o hEnd)
  returns _ _ _ _ _ _ hSent hIn := sent_returns hs hSent hIn
  forgotten c _ rid g o _ hSent hEnd := by
    rcases (hs.1.log _ hSent).2.2.2 o hEnd with h | ⟨rid', m, origin, hRec, ho⟩
    · exact Or.inl h
    · obtain rfl := recorded_sent hs hSent hRec
      exact Or.inr ⟨m, origin, hRec, ho⟩

end Careful

/-! ## Careful runs, and one that is not -/

def times (n : Nat) (l : Label Nat) : List (Label Nat) := List.replicate n l

def answer : Message Nat := ⟨some 1, true, some 42, "", ""⟩

def cooldown : Config := ⟨1000, fun _ => "Capture service unreachable"⟩

/-- A client connects, and a call enters `_pending` on the first connection. -/
def firstAttempt : List (Label Nat) :=
  [.connect, .run 0, .connectOk 0, .run 1, .call, .run 2, .run 2]

/-- The send fails, the call reconnects, sends its frame on the second connection, and the
answer arrives there. -/
def secondAttempt : List (Label Nat) :=
  [.sendFails 2 "Broken pipe"] ++ times 13 (.run 2) ++ [.connectOk 2, .run 2, .sendOk 2] ++
    [.run 3, .receive 3 answer, .run 3]

def keptRetry : List (Label Nat) :=
  firstAttempt ++ secondAttempt ++ times 2 (.run 3) ++ times 3 (.run 2)

/-- The first reader retires its connection before the send fails; the second attempt wakes
up on its failure, and the answer comes between `wait` and `return`. -/
def lostRetry : List (Label Nat) :=
  firstAttempt ++ [.readFails 1] ++ times 7 (.run 1) ++ secondAttempt ++ times 2 (.run 2) ++
    times 2 (.run 3) ++ [.run 2]

def lostRetryLog : List (Event Nat) :=
  [.registered 2 0 1, .taken 1 0 2,
    .recorded 2 0 (failure "IPC connection lost") (.retired (some 1)),
    .delivered 2 0 (failure "IPC connection lost"), .sendFailed 2 0, .registered 2 1 2,
    .sent 2 1 2, .received 2 answer, .taken 3 1 2, .recorded 2 1 answer (.response 2)] ++
  .delivered 2 1 answer :: [.finished 2 (.raised (.ipc "IPC connection lost"))]

theorem lostRetry_log : ∃ s, run cooldown 5 lostRetry = some s ∧ s.log = lostRetryLog := by
  have hLog : (run cooldown 5 lostRetry).map State.log = some lostRetryLog := by decide
  exact Option.map_eq_some_iff.mp hLog

theorem keptRetry_ends : ∃ s, StepRun.run (carefulStep cooldown) (initial Nat 5) keptRetry = some s ∧
    .sendFailed 2 0 ∈ s.log ∧ .sent 2 1 2 ∈ s.log ∧ .finished 2 (.returned (some 42)) ∈ s.log := by
  have hLog : (StepRun.run (carefulStep cooldown) (initial Nat 5) keptRetry).map (fun s => decide
      (.sendFailed 2 0 ∈ s.log ∧ .sent 2 1 2 ∈ s.log ∧ .finished 2 (.returned (some 42)) ∈ s.log)) =
        some true := by decide
  obtain ⟨s, hRun, hMem⟩ := Option.map_eq_some_iff.mp hLog
  exact ⟨s, hRun, of_decide_eq_true hMem⟩

/-- The second attempt keeps its promise in every state of a careful run. -/
theorem resend_kept {monotonic : Int} {ls : List (Label R)}
    (hRun : StepRun.run (carefulStep cfg) (initial R monotonic) ls = some s) :
    ResendKept cfg s :=
  resendKept_of_careful (outline_carefulRun hRun)

theorem resend_kept_keptRetry : ∃ s,
    StepRun.run (carefulStep cooldown) (initial Nat 5) keptRetry = some s ∧
    .sendFailed 2 0 ∈ s.log ∧ .finished 2 (.returned (some 42)) ∈ s.log ∧ ResendKept cooldown s := by
  obtain ⟨s, hRun, hFailed, -, hEnd⟩ := keptRetry_ends
  exact ⟨s, hRun, hFailed, hEnd, resend_kept hRun⟩

/-- The answer to the second frame is delivered, and the call raises the failure of the
first. -/
theorem resend_lost : ∃ s, run cooldown 5 lostRetry = some s ∧ ¬ ResendKept cooldown s := by
  obtain ⟨s, hRun, hLog⟩ := lostRetry_log
  refine ⟨s, hRun, fun hKept => ?_⟩
  have hIn : DeliveredInTime s 2 1 answer := ⟨_, _, hLog, by decide⟩
  have hEq := hKept.answered 2 0 1 2 answer (.raised (.ipc "IPC connection lost"))
    (by rw [hLog]; decide) (by rw [hLog]; decide) hIn (by rw [hLog]; decide)
  exact absurd hEq (by decide)

/-- A connection keeps its promise in every state of a careful run. -/
theorem calls_correlated {monotonic : Int} {ls : List (Label R)}
    (hRun : StepRun.run (carefulStep cfg) (initial R monotonic) ls = some s) : Correlated s :=
  correlated_of_careful (outline_carefulRun hRun)

theorem calls_correlated_keptRetry : ∃ s,
    StepRun.run (carefulStep cooldown) (initial Nat 5) keptRetry = some s ∧
    .finished 2 (.returned (some 42)) ∈ s.log ∧ Correlated s := by
  obtain ⟨s, hRun, -, -, hEnd⟩ := keptRetry_ends
  exact ⟨s, hRun, hEnd, calls_correlated hRun⟩

/-- The retirement of the first connection fails a call that was sent on the second. -/
theorem calls_not_correlated : ∃ s, run cooldown 5 lostRetry = some s ∧ ¬ Correlated s := by
  obtain ⟨s, hRun, hLog⟩ := lostRetry_log
  refine ⟨s, hRun, fun hCorrelated => ?_⟩
  have hSame := (hCorrelated.retired 2 0 (failure "IPC connection lost") 1
    (by rw [hLog]; decide)).2 1 2 (by rw [hLog]; decide)
  exact absurd hSame (by decide)

/-- However carelessly connections are given up: a result answers the caller's own request, and no
id is recorded twice. -/
theorem results_correlated {monotonic : Int} {ls : List (Label R)}
    (hRun : run cfg monotonic ls = some s) :
    (∀ c r, .finished c (.returned r) ∈ s.log → ∃ rid g m, .sent c rid g ∈ s.log ∧
      .received g m ∈ s.log ∧ m.id = some rid ∧ m.ok = true ∧ m.result = r) ∧
    (∀ rid, recordedCount rid s.log ≤ 1) ∧
    ∀ c rid m g, .recorded c rid m (.retired (some g)) ∈ s.log → .registered c rid g ∈ s.log := by
  have hs := outline_run hRun
  exact ⟨fun _ _ h => returned_own hs h, hs.1.recordedOnce,
    fun c rid m g hRec => (hs.1.log _ hRec).2.2.2 g rfl⟩

theorem results_correlated_keptRetry : ∃ s, run cooldown 5 keptRetry = some s ∧
    (∃ rid g m, .sent 2 rid g ∈ s.log ∧ .received g m ∈ s.log ∧ m.id = some rid ∧ m.ok = true ∧
      m.result = some 42) ∧ ∀ rid, recordedCount rid s.log ≤ 1 := by
  obtain ⟨s, hRun, -, -, hEnd⟩ := keptRetry_ends
  have hPlain : run cooldown 5 keptRetry = some s := StepRun.run_of_guarded hRun
  obtain ⟨hOwn, hOnce, -⟩ := results_correlated hPlain
  exact ⟨s, hPlain, hOwn 2 _ hEnd, hOnce⟩

end Sniff4Hound.Ipc
