import Sniff4Hound.Runtime.IpcContract
import Sniff4Hound.Runtime.IpcFrames

/-!
# Calls whose arguments cannot be sent

`_send_frame` raises before it writes a byte when the arguments of a call cannot be encoded or
need more than `MAX_FRAME_BYTES`. `call` takes any exception of it for a lost connection: it
retires the connection that all calls share, fails the calls that are pending on it, and tries
again on a new one. So no such call raises for its own caller alone
(`unsendable_never_alone`).
-/

namespace Sniff4Hound.Ipc

open StepRun

variable {R J : Type}

/-! ## Frames with their arguments -/

/-- `_send_frame` gets as far as the socket. -/
def sendable (codec : JsonCodec J) (payload : J) : Bool :=
  match send_frame codec [] payload with
  | .ok _ => true
  | .error _ => false

/-- The frame a call is about to send gets as far as the socket; `frame` is what each call sends
under a request id. -/
def sends (codec : JsonCodec J) (frame : ThreadId → RequestId → J) (s : State R) (t : ThreadId) :
    Bool :=
  match s.threads t with
  | ⟨.send _ rid _, none⟩ => sendable codec (frame t rid)
  | _ => false

def framedStep (codec : JsonCodec J) (frame : ThreadId → RequestId → J) (cfg : Config)
    (s : State R) : Label R → Option (State R)
  | .sendOk t => if sends codec frame s t then step cfg s (.sendOk t) else none
  | l => step cfg s l

def Unsendable (codec : JsonCodec J) (frame : ThreadId → RequestId → J) (t : ThreadId) : Prop :=
  ∀ rid, sendable codec (frame t rid) = false

/-! ## Whose step it is -/

def Label.thread : Label R → Option ThreadId
  | .tick _ | .connect | .call | .close => none
  | .run t | .connectOk t | .connectFails t _ | .connectRejected t _ | .sendOk t | .sendFails t _
  | .receive t _ | .readFails t | .waitTimesOut t => some t

structure SameConnection (s s' : State R) : Prop where
  sock : s'.sock = s.sock
  connected : s'.connected = s.connected
  generation : s'.generation = s.generation

structure LeavesOthers (t : ThreadId) (s s' : State R) : Prop extends SameConnection s s' where
  closed : s'.closed = s.closed
  calls : ∀ c, c ≠ t → s'.calls c = s.calls c
  pending : ∀ rid c, c ≠ t → ((rid, c) ∈ s'.pending ↔ (rid, c) ∈ s.pending)

variable (codec : JsonCodec J) (frame : ThreadId → RequestId → J) (cfg : Config)

/-- Every step of a run stands in the relation `P`. -/
def Along (P : State R → Label R → State R → Prop) : State R → List (Label R) → Prop
  | _, [] => True
  | s, l :: ls => ∀ s', framedStep codec frame cfg s l = some s' → P s l s' ∧ Along P s' ls

def Undisturbed (t : ThreadId) : State R → List (Label R) → Prop :=
  Along codec frame cfg fun s l s' => l.thread ≠ some t → SameConnection s s'

/-- The thread raises, and none of its steps touches another call or the connection. -/
structure RaisesAlone (t : ThreadId) (s : State R) (ls : List (Label R)) (s' : State R) : Prop where
  own : Along codec frame cfg (fun s l s' => l.thread = some t → LeavesOthers t s s') s ls
  raises : ∃ e, .finished t (.raised e) ∈ s'.log

/-! ## Steps of other threads -/

section Others

variable {cfg} {s s' : State R} {t u : ThreadId}

theorem stays_setThread {th : Thread R} (hNe : t ≠ u)
    (hThreads : s'.threads = Function.update s.threads u th) : s'.threads t = s.threads t := by
  rw [hThreads, Function.update_of_ne hNe]

theorem stays_spawn {m : Main R} (hOld : t < s.nextThread) :
    (s.spawn m).threads t = s.threads t :=
  Function.update_of_ne (Nat.ne_of_lt hOld) _ _

theorem stays_afterDrop (hNe : t ≠ u) (m : Main R) :
    (afterDrop s u m).threads t = s.threads t := by
  unfold afterDrop
  split <;> exact stays_setThread hNe rfl

theorem stays_dropStep {m : Main R} {f : DropFrame} (hNe : t ≠ u)
    (hStep : dropStep s u m f = some s') : s'.threads t = s.threads t := by
  unfold dropStep at hStep
  split at hStep
  · split at hStep
    · cases hStep
      dsimp only
      split <;> exact stays_setThread hNe rfl
    · cases hStep
  · cases hStep
    exact stays_setThread hNe rfl
  · split at hStep <;>
    · cases hStep
      exact stays_setThread hNe rfl
  · cases hStep
    exact stays_setThread hNe rfl
  · cases hStep
    exact stays_setThread hNe rfl
  · cases hStep
    exact stays_afterDrop hNe m

theorem stays_mainStep {m : Main R} (hNe : t ≠ u) (hStep : mainStep cfg s u m = some s') :
    s'.threads t = s.threads t := by
  unfold mainStep at hStep
  cases m with
  | unused | connecting a | send a rid sock | dropSent a e | receive sock | readDrop | closeDrop
  | finished => cases hStep
  | ensure a | checkConnected a | checkClock a | unregister a rid sock e | readMessage rid
  | leave rid o | deliver sock rid c m | deliverSet sock rid c m | close | closeRead =>
    cases hStep
    exact stays_setThread hNe rfl
  | checkStop a | checkAuth a | checkFailure a since | readLoop sock =>
    cases hStep
    split <;> exact stays_setThread hNe rfl
  | connect | wait rid =>
    dsimp only at hStep
    repeat' split at hStep
    all_goals first
      | cases hStep
        exact stays_setThread hNe rfl
      | cases hStep
  | resolve sock m =>
    dsimp only at hStep
    split at hStep <;>
    · cases hStep
      exact stays_setThread hNe rfl
  | reconnect a =>
    dsimp only at hStep
    split at hStep
    · cases hStep
      repeat' split
      all_goals exact stays_setThread hNe rfl
    · cases hStep
  | register a =>
    dsimp only at hStep
    split at hStep
    · split at hStep
      · cases hStep
        exact stays_setThread hNe rfl
      · cases hStep
        cases a <;> exact stays_setThread hNe rfl
    · cases hStep

theorem stays_connectEnds {e : CallError} (hNe : t ≠ u) (a : Option Attempt)
    (hThreads : s'.threads = s.threads) : (connectEnds s' u e a).threads t = s.threads t := by
  have hUpdated (th : Thread R) : Function.update s'.threads u th =
      Function.update s.threads u th := by rw [hThreads]
  cases a <;> exact stays_setThread hNe (hUpdated _)

theorem stays_step {l : Label R} (hOld : t < s.nextThread) (hOther : l.thread ≠ some t)
    (hStep : step cfg s l = some s') : s'.threads t = s.threads t := by
  have hNe {u : ThreadId} (h : some u ≠ some t) : t ≠ u := fun hEq => h (congrArg some hEq.symm)
  cases l with
  | tick n =>
    cases hStep
    rfl
  | connect | call | close =>
    cases hStep
    exact stays_spawn hOld
  | run u =>
    change threadStep cfg s u = some s' at hStep
    unfold threadStep at hStep
    dsimp only at hStep
    split at hStep
    · exact stays_dropStep (hNe hOther) hStep
    · exact stays_mainStep (hNe hOther) hStep
  | connectOk u =>
    change connectOk s u = some s' at hStep
    unfold connectOk at hStep
    split at hStep
    · next a _ =>
      cases hStep
      cases a <;> exact (Function.update_of_ne (hNe hOther) _ _).trans (stays_spawn hOld)
    · cases hStep
  | connectFails u e =>
    change connectFails s u e = some s' at hStep
    unfold connectFails at hStep
    split at hStep
    · cases hStep
      exact stays_connectEnds (hNe hOther) _ rfl
    · cases hStep
  | connectRejected u e =>
    change connectRejected s u e = some s' at hStep
    unfold connectRejected at hStep
    split at hStep
    · cases hStep
      exact stays_connectEnds (hNe hOther) _ rfl
    · cases hStep
  | sendOk u =>
    change sendOk s u = some s' at hStep
    unfold sendOk at hStep
    split at hStep
    · split at hStep
      · cases hStep
      · cases hStep
        exact stays_setThread (hNe hOther) rfl
    · cases hStep
  | sendFails u e =>
    change sendFails s u e = some s' at hStep
    unfold sendFails at hStep
    split at hStep
    · cases hStep
      exact stays_setThread (hNe hOther) rfl
    · cases hStep
  | receive u m =>
    change receive s u m = some s' at hStep
    unfold receive at hStep
    split at hStep
    · split at hStep
      · cases hStep
        exact stays_setThread (hNe hOther) rfl
      · cases hStep
    · cases hStep
  | readFails u =>
    change readFails s u = some s' at hStep
    unfold readFails at hStep
    split at hStep
    · cases hStep
      exact stays_setThread (hNe hOther) rfl
    · cases hStep
  | waitTimesOut u =>
    change waitTimesOut s u = some s' at hStep
    unfold waitTimesOut at hStep
    split at hStep
    · split at hStep
      · cases hStep
      · cases hStep
        exact stays_setThread (hNe hOther) rfl
    · cases hStep

end Others

/-! ## Steps of the call -/

/-- How far a call gets on the connection `g` before it retires it. -/
inductive OnConnection (g : Generation) : Thread R → Prop
  | ensure : OnConnection g (.at (.ensure .first))
  | register : OnConnection g (.at (.register .first))
  | send (rid : RequestId) : OnConnection g (.at (.send .first rid g))
  | unregister (rid : RequestId) (error : String) :
      OnConnection g (.at (.unregister .first rid g error))
  | retire (error : String) (generation : Option Generation) :
      OnConnection g ⟨.dropSent .first error, some (connectionLost g generation)⟩

section Own

variable {codec frame cfg} {s s' : State R} {t : ThreadId} {g : Generation}

theorem onConnection_run (hLive : s.sock = some g) (hConnected : s.connected = true)
    (hTh : OnConnection g (s.threads t)) (hStep : threadStep cfg s t = some s') :
    OnConnection g (s'.threads t) ∨ s'.sock = none := by
  unfold threadStep at hStep
  generalize s.threads t = th at hTh hStep
  cases hTh with
  | ensure =>
    have hNext : some (s.goto t (if s.connected then .register .first
        else .checkConnected .first)) = some s' := hStep
    rw [hConnected] at hNext
    cases hNext
    have hHere : (s.goto t (.register .first)).threads t = .at (.register .first) :=
      Function.update_self ..
    refine .inl ?_
    rw [if_pos rfl, hHere]
    exact .register
  | register =>
    change (if s.lock = none then _ else none) = some s' at hStep
    split at hStep
    · rw [hLive, hConnected] at hStep
      cases hStep
      refine .inl ?_
      change OnConnection g (Function.update s.threads t (.at (.send .first s.nextRid g)) t)
      rw [Function.update_self]
      exact .send _
    · cases hStep
  | send rid => cases hStep
  | unregister rid error =>
    cases hStep
    refine .inl ?_
    change OnConnection g (Function.update s.threads t
      ⟨.dropSent .first error, some (connectionLost g (s.calls t).generation)⟩ t)
    rw [Function.update_self]
    exact .retire _ _
  | retire error generation =>
    change (if s.lock = none then _ else none) = some s' at hStep
    split at hStep
    · dsimp only at hStep
      rw [if_pos (.inr hLive)] at hStep
      cases hStep
      exact .inr rfl
    · cases hStep

theorem onConnection_send (hBad : Unsendable codec frame t) (hTh : OnConnection g (s.threads t)) :
    sends codec frame s t = false := by
  unfold sends
  generalize s.threads t = th at hTh
  cases hTh with
  | send rid => exact hBad rid
  | ensure | register | unregister rid error | retire error generation => rfl

theorem onConnection_step {l : Label R} (hBad : Unsendable codec frame t)
    (hLive : s.sock = some g) (hConnected : s.connected = true)
    (hTh : OnConnection g (s.threads t)) (hOwn : l.thread = some t)
    (hStep : framedStep codec frame cfg s l = some s') :
    OnConnection g (s'.threads t) ∨ s'.sock = none := by
  cases l with
  | tick n | connect | call | close => cases hOwn
  | run u =>
    cases hOwn
    exact onConnection_run hLive hConnected hTh hStep
  | sendOk u =>
    cases hOwn
    have hNone : (if sends codec frame s t then step cfg s (.sendOk t) else none) = some s' :=
      hStep
    rw [onConnection_send hBad hTh] at hNone
    cases hNone
  | sendFails u e =>
    cases hOwn
    change sendFails s t e = some s' at hStep
    unfold sendFails at hStep
    generalize s.threads t = th at hTh hStep
    cases hTh with
    | send rid =>
      cases hStep
      refine .inl ?_
      change OnConnection g (Function.update s.threads t (.at (.unregister .first rid g e)) t)
      rw [Function.update_self]
      exact .unregister _ _
    | ensure | register | unregister rid error | retire error generation => cases hStep
  | connectOk u =>
    cases hOwn
    change connectOk s t = some s' at hStep
    unfold connectOk at hStep
    generalize s.threads t = th at hTh hStep
    cases hTh <;> cases hStep
  | connectFails u e =>
    cases hOwn
    change connectFails s t e = some s' at hStep
    unfold connectFails at hStep
    generalize s.threads t = th at hTh hStep
    cases hTh <;> cases hStep
  | connectRejected u e =>
    cases hOwn
    change connectRejected s t e = some s' at hStep
    unfold connectRejected at hStep
    generalize s.threads t = th at hTh hStep
    cases hTh <;> cases hStep
  | receive u m =>
    cases hOwn
    change receive s t m = some s' at hStep
    unfold receive at hStep
    generalize s.threads t = th at hTh hStep
    cases hTh <;> cases hStep
  | readFails u =>
    cases hOwn
    change readFails s t = some s' at hStep
    unfold readFails at hStep
    generalize s.threads t = th at hTh hStep
    cases hTh <;> cases hStep
  | waitTimesOut u =>
    cases hOwn
    change waitTimesOut s t = some s' at hStep
    unfold waitTimesOut at hStep
    generalize s.threads t = th at hTh hStep
    cases hTh <;> cases hStep

theorem step_of_framed {l : Label R} (h : framedStep codec frame cfg s l = some s') :
    step cfg s l = some s' := by
  unfold framedStep at h
  split at h
  · split at h
    · exact h
    · cases h
  · exact h

theorem outline_framed {l : Label R} (hs : (outline R False).Holds s)
    (hStep : framedStep codec frame cfg s l = some s') : (outline R False).Holds s' :=
  RelyGuarantee.invariant (outline_stable False)
    (fun _ _ _ hs hStep => step_moves hs False.elim (step_of_framed hStep)) s l s' hs hStep

theorem outline_reached {monotonic : Int} {ls : List (Label R)}
    (hRun : StepRun.run (framedStep codec frame cfg) (initial R monotonic) ls = some s) :
    (outline R False).Holds s :=
  Invariant.run (fun _ _ _ hs hStep => outline_framed hs hStep) (outline_initial False monotonic)
    hRun

theorem OnConnection.used (h : OnConnection g (s.threads t)) : s.threads t ≠ .at .unused := by
  intro hUnused
  rw [hUnused] at h
  cases h

end Own

/-! ## Runs -/

section Runs

variable {codec frame cfg} {s s' : State R} {t : ThreadId} {g : Generation}

theorem undisturbed_own {ls : List (Label R)} (h : ∀ l ∈ ls, l.thread = some t) :
    Undisturbed codec frame cfg t s ls := by
  induction ls generalizing s with
  | nil => trivial
  | cons l ls ih =>
    intro s₁ _
    exact ⟨fun hOther => absurd (h l List.mem_cons_self) hOther,
      ih fun l' hl' => h l' (List.mem_cons_of_mem l hl')⟩

/-- While the call leaves the others alone and they leave the connection alone, it does not get
past the connection. -/
theorem onConnection_of_alone {ls : List (Label R)} (hBad : Unsendable codec frame t)
    (hs : (outline R False).Holds s) (hLive : s.sock = some g) (hConnected : s.connected = true)
    (hTh : OnConnection g (s.threads t)) (hOthers : Undisturbed codec frame cfg t s ls)
    (hOwn : Along codec frame cfg (fun s l s' => l.thread = some t → LeavesOthers t s s') s ls)
    (hRun : StepRun.run (framedStep codec frame cfg) s ls = some s') :
    OnConnection g (s'.threads t) := by
  induction ls generalizing s with
  | nil =>
    cases hRun
    exact hTh
  | cons l ls ih =>
    rw [run_cons] at hRun
    obtain ⟨s₁, hStep, hRest⟩ := Option.bind_eq_some_iff.mp hRun
    obtain ⟨hOther, hOthers⟩ := hOthers s₁ hStep
    obtain ⟨hMine, hOwn⟩ := hOwn s₁ hStep
    by_cases hThread : l.thread = some t
    · have hSame := (hMine hThread).toSameConnection
      have hSock := hSame.sock.trans hLive
      rcases onConnection_step hBad hLive hConnected hTh hThread hStep with hNext | hGone
      · exact ih (outline_framed hs hStep) hSock (hSame.connected.trans hConnected) hNext
          hOthers hOwn hRest
      · rw [hGone] at hSock
        cases hSock
    · have hSame := hOther hThread
      have hStays := stays_step (lt_of_used hs hTh.used) hThread (step_of_framed hStep)
      refine ih (outline_framed hs hStep) (hSame.sock.trans hLive)
        (hSame.connected.trans hConnected) ?_ hOthers hOwn hRest
      rwa [hStays]

/-- No call whose arguments cannot be sent leaves the others alone: on a connection that the others
leave alone, it does not end without retiring it. -/
theorem unsendable_never_alone {monotonic : Int} {before ls : List (Label R)}
    (hReach : StepRun.run (framedStep codec frame cfg) (initial R monotonic) before = some s)
    (hLive : s.sock = some g) (hConnected : s.connected = true)
    (hCall : s.threads t = .at (.ensure .first)) (hBad : Unsendable codec frame t)
    (hRun : StepRun.run (framedStep codec frame cfg) s ls = some s')
    (hOthers : Undisturbed codec frame cfg t s ls) (hEnd : s'.threads t = .at .finished) :
    ¬RaisesAlone codec frame cfg t s ls s' := by
  intro hAlone
  have hHolds : (outline R False).Holds s := outline_reached hReach
  have hStart : OnConnection g (s.threads t) := by
    rw [hCall]
    exact .ensure
  have hStuck : OnConnection g (s'.threads t) :=
    onConnection_of_alone hBad hHolds hLive hConnected hStart hOthers hAlone.own hRun
  rw [hEnd] at hStuck
  cases hStuck

end Runs

/-! ## A call that fails the call of another thread -/

/-- Encodes `true` only. -/
def trueCodec : JsonCodec Bool := ⟨fun b => if b then some [] else none, fun _ => some true⟩

def thirdUnsendable : ThreadId → RequestId → Bool := fun t _ => t != 3

def waitingCall : List (Label Nat) := firstAttempt ++ [Label.sendOk 2, Label.call]

def refusedSend : Label Nat := .sendFails 3 "Object of type bytes is not JSON serializable"

def unsendableCall : List (Label Nat) :=
  times 2 (.run 3) ++ [refusedSend] ++ times 15 (.run 3) ++ [Label.connectOk 3, Label.run 3] ++
    [refusedSend] ++ times 6 (.run 3)

theorem unsendableCall_ends : ∃ s s' : State Nat,
    StepRun.run (framedStep trueCodec thirdUnsendable cooldown) (initial Nat 5) waitingCall =
        some s ∧
      StepRun.run (framedStep trueCodec thirdUnsendable cooldown) s unsendableCall = some s' ∧
      (s.sock = some 1 ∧ s.connected = true ∧ s.threads 3 = .at (.ensure .first)) ∧
      s'.threads 3 = .at .finished ∧
      .recorded 2 0 (failure "IPC connection lost") (.retired (some 1)) ∈ s'.log := by
  have hStart : (StepRun.run (framedStep trueCodec thirdUnsendable cooldown) (initial Nat 5)
      waitingCall).map (fun s => decide (s.sock = some 1 ∧ s.connected = true ∧
        s.threads 3 = .at (.ensure .first))) = some true := by decide
  have hEnd : (StepRun.run (framedStep trueCodec thirdUnsendable cooldown) (initial Nat 5)
      (waitingCall ++ unsendableCall)).map (fun s => decide (s.threads 3 = .at .finished ∧
        .recorded 2 0 (failure "IPC connection lost") (.retired (some 1)) ∈ s.log)) =
          some true := by decide
  obtain ⟨s', hRun, hEnded⟩ := Option.map_eq_some_iff.mp hEnd
  obtain ⟨s, hBefore, hAfter⟩ := run_append_eq_some.mp hRun
  rw [hBefore] at hStart
  exact ⟨s, s', hBefore, hAfter, of_decide_eq_true (Option.some.inj hStart),
    of_decide_eq_true hEnded⟩

theorem third_unsendable : Unsendable trueCodec thirdUnsendable 3 := fun _ => rfl

theorem unsendableCall_own : ∀ l ∈ unsendableCall, l.thread = some 3 := by decide

theorem unsendable_never_alone_third : ∃ s s' : State Nat,
    StepRun.run (framedStep trueCodec thirdUnsendable cooldown) (initial Nat 5) waitingCall =
        some s ∧
      StepRun.run (framedStep trueCodec thirdUnsendable cooldown) s unsendableCall = some s' ∧
      ¬RaisesAlone trueCodec thirdUnsendable cooldown 3 s unsendableCall s' := by
  obtain ⟨s, s', hBefore, hRun, ⟨hLive, hConnected, hCall⟩, hEnd, -⟩ := unsendableCall_ends
  exact ⟨s, s', hBefore, hRun, unsendable_never_alone hBefore hLive hConnected hCall
    third_unsendable hRun (undisturbed_own unsendableCall_own) hEnd⟩

/-- The call that waits is failed by the arguments of the other one. -/
theorem unsendable_fails_waiting : ∃ s s' : State Nat,
    StepRun.run (framedStep trueCodec thirdUnsendable cooldown) (initial Nat 5) waitingCall =
        some s ∧
      StepRun.run (framedStep trueCodec thirdUnsendable cooldown) s unsendableCall = some s' ∧
      (s.sock = some 1 ∧ s.connected = true ∧ s.threads 3 = .at (.ensure .first)) ∧
      Unsendable trueCodec thirdUnsendable 3 ∧
      Undisturbed trueCodec thirdUnsendable cooldown 3 s unsendableCall ∧
      .recorded 2 0 (failure "IPC connection lost") (.retired (some 1)) ∈ s'.log ∧
      ¬RaisesAlone trueCodec thirdUnsendable cooldown 3 s unsendableCall s' := by
  obtain ⟨s, s', hBefore, hRun, hStart, hEnd, hFailed⟩ := unsendableCall_ends
  have hOthers : Undisturbed trueCodec thirdUnsendable cooldown 3 s unsendableCall :=
    undisturbed_own unsendableCall_own
  refine ⟨s, s', hBefore, hRun, hStart, third_unsendable, hOthers, hFailed, ?_⟩
  intro hAlone
  obtain ⟨hLive, hConnected, hCall⟩ := hStart
  have hFirst : OnConnection 1 (s.threads 3) := by
    rw [hCall]
    exact .ensure
  have hStuck : OnConnection 1 (s'.threads 3) := onConnection_of_alone third_unsendable
    (outline_reached hBefore) hLive hConnected hFirst hOthers hAlone.own hRun
  rw [hEnd] at hStuck
  cases hStuck

end Sniff4Hound.Ipc
