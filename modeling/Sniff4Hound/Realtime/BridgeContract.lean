import Sniff4Hound.Realtime.BridgeStreams

/-!
# Streams that end once

A stream that is not finished has its entry in the registry and one timer; a finished one has
neither, and nothing changes it any more (`Sound`, `bridge_orderly`). The end of a stream always
comes with its `cleanup`, whichever event brings it.
-/

namespace Sniff4Hound.Realtime

variable {s s' : Bridge} {stream stream' : BridgeStream} {k j : Nat}

/-- A terminal message is the last one of its stream. -/
def LastSent (sent : List BridgeMessage) : Prop :=
  ∀ pre message post, sent = pre ++ message :: post → message.terminal = true → post = []

def Unended (sent : List BridgeMessage) : Prop := ∀ message ∈ sent, message.terminal = false

/-- What holds of the stream `k`. -/
structure Fits (s : Bridge) (k : Nat) (stream : BridgeStream) : Prop where
  registered : stream.finished = false →
    s.registry.lookup stream.id = some ⟨k, stream.ownerId⟩
  timed : stream.finished = false →
    ∃ timer, stream.timeout = some timer ∧ s.timers timer = some k
  unended : stream.finished = false → Unended stream.sent
  last : LastSent stream.sent

structure Sound (s : Bridge) : Prop where
  fits : ∀ k stream, s.streams k = some stream → Fits s k stream
  entries : ∀ id entry, s.registry.lookup id = some entry →
    ∃ stream, s.streams entry.stream = some stream ∧ stream.id = id ∧
      stream.ownerId = entry.ownerId ∧ stream.finished = false
  timers : ∀ timer k, s.timers timer = some k →
    ∃ stream, s.streams k = some stream ∧ stream.finished = false ∧ stream.timeout = some timer
  scheduled : ∀ timer, s.scheduled ≤ timer → s.timers timer = none
  opened : ∀ k, s.opened ≤ k → s.streams k = none
  nodup : s.registry.keys.Nodup

theorem sound_initial : Sound .initial :=
  ⟨nofun, nofun, nofun, fun _ _ => rfl, fun _ _ => rfl, List.nodup_nil⟩

/-! ## Messages -/

variable {sent : List BridgeMessage}

theorem LastSent.snoc (h : Unended sent) (message : BridgeMessage) :
    LastSent (sent ++ [message]) := by
  intro pre m post hSent hTerminal
  rcases List.eq_nil_or_concat post with rfl | ⟨post, other, rfl⟩
  · rfl
  · have hSplit : sent ++ [message] = (pre ++ m :: post) ++ [other] := by simpa using hSent
    have hOld := h m (by rw [(List.append_inj' hSplit rfl).1]; simp)
    rw [hOld] at hTerminal
    cases hTerminal

structure SameStream (stream stream' : BridgeStream) : Prop where
  id : stream'.id = stream.id
  ownerId : stream'.ownerId = stream.ownerId
  finished : stream'.finished = stream.finished
  timeout : stream'.timeout = stream.timeout

theorem Sound.setStream (h : Sound s) (hStream : s.streams k = some stream)
    (hSame : SameStream stream stream') (hUnended : stream'.finished = false → Unended stream'.sent)
    (hLast : LastSent stream'.sent) : Sound (s.setStream k stream') := by
  have hFits := h.fits k stream hStream
  have hOther : ∀ j st, s.streams j = some st → st.finished = false →
      ∃ st', (s.setStream k stream').streams j = some st' ∧ SameStream st st' := by
    intro j st hst _
    by_cases hj : j = k
    · subst hj
      rw [hStream] at hst
      cases hst
      exact ⟨stream', Function.update_self .., hSame⟩
    · exact ⟨st, (Function.update_of_ne hj ..).trans hst, rfl, rfl, rfl, rfl⟩
  refine ⟨fun j st hst => ?_, fun id entry hEntry => ?_, fun timer j hTimer => ?_, h.scheduled,
    fun j hj => ?_, h.nodup⟩
  · by_cases hj : j = k
    · subst hj
      have hNew : (s.setStream j stream').streams j = some stream' := Function.update_self ..
      rw [hNew] at hst
      cases hst
      refine ⟨fun hOpen => ?_, fun hOpen => ?_, hUnended, hLast⟩
      · rw [hSame.id, hSame.ownerId]
        exact hFits.registered (hSame.finished ▸ hOpen)
      · rw [hSame.timeout]
        exact hFits.timed (hSame.finished ▸ hOpen)
    · have hOld : (s.setStream k stream').streams j = s.streams j := Function.update_of_ne hj ..
      rw [hOld] at hst
      have hKept := h.fits j st hst
      exact ⟨hKept.registered, hKept.timed, hKept.unended, hKept.last⟩
  · obtain ⟨st, hst, hId, hOwner, hOpen⟩ := h.entries id entry hEntry
    obtain ⟨st', hst', hKept⟩ := hOther _ st hst hOpen
    exact ⟨st', hst', hKept.id.trans hId, hKept.ownerId.trans hOwner, hKept.finished.trans hOpen⟩
  · obtain ⟨st, hst, hOpen, hTimeout⟩ := h.timers timer j hTimer
    obtain ⟨st', hst', hKept⟩ := hOther _ st hst hOpen
    exact ⟨st', hst', hKept.finished.trans hOpen, hKept.timeout.trans hTimeout⟩
  · have hNe : j ≠ k := by
      rintro rfl
      rw [h.opened j hj] at hStream
      cases hStream
    exact (Function.update_of_ne hNe ..).trans (h.opened j hj)

theorem Sound.abortRequest (h : Sound s) (k : Nat) : Sound (s.abortRequest k) := by
  rw [Bridge.abortRequest]
  cases hStream : s.streams k with
  | none => exact h
  | some stream =>
    have hFits := h.fits k stream hStream
    exact h.setStream hStream ⟨rfl, rfl, rfl, rfl⟩ hFits.unended hFits.last

theorem Sound.send (h : Sound s) (hStream : s.streams k = some stream)
    (hUnended : Unended stream.sent) {message : BridgeMessage}
    (hOpen : stream.finished = false → message.terminal = false) : Sound (s.send k message) := by
  rw [Bridge.send, hStream]
  refine h.setStream hStream ⟨rfl, rfl, rfl, rfl⟩ (fun hFinished => ?_) (.snoc hUnended message)
  intro m hMem
  rcases List.mem_append.mp hMem with hOld | hNew
  · exact hUnended m hOld
  · rw [List.mem_singleton.mp hNew]
    exact hOpen hFinished

/-! ## The cleanup -/

def BridgeStream.finish (stream : BridgeStream) : BridgeStream :=
  { stream with finished := true, timeout := none }

def Bridge.retire (s : Bridge) (k : Nat) (stream : BridgeStream) (timer : Nat) : Bridge :=
  { s with
    streams := Function.update s.streams k (some stream.finish)
    timers := Function.update s.timers timer none
    registry := s.registry.erase stream.id }

theorem retire_self (s : Bridge) (k : Nat) (stream : BridgeStream) (timer : Nat) :
    (s.retire k stream timer).streams k = some stream.finish := Function.update_self ..

theorem retire_of_ne (s : Bridge) (stream : BridgeStream) (timer : Nat) (hj : j ≠ k) :
    (s.retire k stream timer).streams j = s.streams j := Function.update_of_ne hj ..

theorem retire_timer (s : Bridge) (k : Nat) (stream : BridgeStream) (timer : Nat) :
    (s.retire k stream timer).timers timer = none := Function.update_self ..

variable {timer : Nat}

theorem retire_timer_of_ne (s : Bridge) (k : Nat) (stream : BridgeStream) {other : Nat}
    (hTimer : other ≠ timer) : (s.retire k stream timer).timers other = s.timers other :=
  Function.update_of_ne hTimer ..

theorem cleanup_finished (hStream : s.streams k = some stream)
    (hFinished : stream.finished = true) :
    s.cleanup k = (false, s) := by
  rw [Bridge.cleanup, hStream]
  exact if_pos hFinished

theorem cleanup_open (h : Sound s) (hStream : s.streams k = some stream)
    (hOpen : stream.finished = false) : ∃ timer, stream.timeout = some timer ∧
      s.cleanup k = (true, s.retire k stream timer) := by
  have hFits := h.fits k stream hStream
  obtain ⟨timer, hTimeout, hTimer⟩ := hFits.timed hOpen
  refine ⟨timer, hTimeout, ?_⟩
  rw [Bridge.cleanup, hStream]
  dsimp only
  rw [if_neg (by rw [hOpen]; exact Bool.false_ne_true), Bridge.release]
  have hEntry : ((s.cancel stream.timeout).setStream k
      { stream with finished := true, timeout := none }).registry.lookup stream.id =
      some ⟨k, stream.ownerId⟩ := by
    rw [hTimeout]
    exact hFits.registered hOpen
  rw [hEntry]
  dsimp only
  rw [if_pos rfl, hTimeout]
  rfl

theorem Sound.finished (h : Sound s) (hStream : s.streams k = some stream)
    (hOpen : stream.finished = false) (hTimeout : stream.timeout = some timer) :
    Sound (s.retire k stream timer) := by
  have hFits := h.fits k stream hStream
  refine ⟨fun j st hst => ?_, fun id entry hEntry => ?_, fun other j hOther => ?_,
    fun other hOther => ?_, fun j hj => ?_, Dict.nodup_keys_erase h.nodup _⟩
  · by_cases hj : j = k
    · subst hj
      rw [retire_self] at hst
      cases hst
      exact ⟨nofun, nofun, nofun, hFits.last⟩
    · rw [retire_of_ne _ _ _ hj] at hst
      have hKept := h.fits j st hst
      refine ⟨fun hRunning => ?_, fun hRunning => ?_, hKept.unended, hKept.last⟩
      · have hEntry := hKept.registered hRunning
        -- another running stream has another id
        have hId : st.id ≠ stream.id := by
          intro hEq
          rw [hEq, hFits.registered hOpen] at hEntry
          have hSame := Option.some.inj hEntry
          exact hj (congrArg RegistryEntry.stream hSame).symm
        exact (Dict.lookup_erase ..).trans ((if_neg hId).trans hEntry)
      · obtain ⟨other, hIts, hPending⟩ := hKept.timed hRunning
        refine ⟨other, hIts, ?_⟩
        have hNe : other ≠ timer := by
          rintro rfl
          obtain ⟨own, hOwn, hPending'⟩ := hFits.timed hOpen
          rw [Option.some.inj (hTimeout.symm.trans hOwn), hPending'] at hPending
          exact hj (Option.some.inj hPending).symm
        exact (retire_timer_of_ne _ _ _ hNe).trans hPending
  · rw [show (s.retire k stream timer).registry = s.registry.erase stream.id from rfl,
      Dict.lookup_erase] at hEntry
    split at hEntry
    · cases hEntry
    · rename_i hId
      obtain ⟨st, hst, hItsId, hOwner, hRunning⟩ := h.entries id entry hEntry
      have hNe : entry.stream ≠ k := by
        intro hEq
        rw [hEq, hStream] at hst
        cases hst
        exact hId hItsId.symm
      exact ⟨st, (retire_of_ne _ _ _ hNe).trans hst, hItsId, hOwner, hRunning⟩
  · by_cases hTimer : other = timer
    · rw [hTimer, retire_timer] at hOther
      cases hOther
    · rw [retire_timer_of_ne _ _ _ hTimer] at hOther
      obtain ⟨st, hst, hRunning, hIts⟩ := h.timers other j hOther
      have hNe : j ≠ k := by
        rintro rfl
        rw [hStream] at hst
        cases hst
        rw [hTimeout] at hIts
        exact hTimer (Option.some.inj hIts).symm
      exact ⟨st, (retire_of_ne _ _ _ hNe).trans hst, hRunning, hIts⟩
  · by_cases hTimer : other = timer
    · exact hTimer ▸ retire_timer ..
    · exact (retire_timer_of_ne _ _ _ hTimer).trans (h.scheduled other hOther)
  · have hNe : j ≠ k := by
      rintro rfl
      rw [h.opened j hj] at hStream
      cases hStream
    exact (retire_of_ne _ _ _ hNe).trans (h.opened j hj)

theorem Sound.cleaned (h : Sound s) (k : Nat) :
    ((∀ stream, s.streams k = some stream → stream.finished = true) ∧ s.cleanup k = (false, s)) ∨
      ∃ stream timer, s.streams k = some stream ∧ stream.finished = false ∧
        Sound (s.retire k stream timer) ∧ s.cleanup k = (true, s.retire k stream timer) := by
  cases hStream : s.streams k with
  | none =>
    left
    rw [Bridge.cleanup, hStream]
    exact ⟨nofun, rfl⟩
  | some stream =>
    cases hFinished : stream.finished with
    | true =>
      left
      refine ⟨fun st hst => ?_, cleanup_finished hStream hFinished⟩
      cases hst
      exact hFinished
    | false =>
      right
      obtain ⟨timer, hTimeout, hCleanup⟩ := cleanup_open h hStream hFinished
      exact ⟨stream, timer, rfl, hFinished, h.finished hStream hFinished hTimeout, hCleanup⟩

/-! ## What an operation on one stream does -/

/-- The state stays sound, only the stream `k` changes, and none is registered. -/
structure Local (k : Nat) (s s' : Bridge) : Prop where
  sound : Sound s'
  others : ∀ j, j ≠ k → s'.streams j = s.streams j
  registry : ∀ entry ∈ s'.registry, entry ∈ s.registry

structure Turn (k : Nat) (s s' : Bridge) : Prop extends Local k s s' where
  frozen : ∀ stream, s.streams k = some stream → stream.finished = true → s'.streams k = some stream

theorem Local.refl (h : Sound s) (k : Nat) : Local k s s :=
  ⟨h, fun _ _ => rfl, fun _ h => h⟩

theorem Local.trans {s'' : Bridge} (h : Local k s s') (h' : Local k s' s'') : Local k s s'' where
  sound := h'.sound
  others := fun j hj => (h'.others j hj).trans (h.others j hj)
  registry := fun entry hEntry => h.registry entry (h'.registry entry hEntry)

theorem Turn.refl (h : Sound s) (k : Nat) : Turn k s s :=
  ⟨.refl h k, fun _ h _ => h⟩

theorem Local.turn (h : Local k s s') (hStream : s.streams k = some stream)
    (hOpen : stream.finished = false) : Turn k s s' := by
  refine ⟨h, fun st hst hFinished => ?_⟩
  rw [hStream] at hst
  cases hst
  rw [hOpen] at hFinished
  cases hFinished

theorem setStream_self (s : Bridge) (k : Nat) (stream : BridgeStream) :
    (s.setStream k stream).streams k = some stream := Function.update_self ..

theorem setStream_of_ne (s : Bridge) (stream : BridgeStream) (hj : j ≠ k) :
    (s.setStream k stream).streams j = s.streams j := Function.update_of_ne hj ..

theorem Local.setStream (h : Sound (s.setStream k stream)) : Local k s (s.setStream k stream) :=
  ⟨h, fun _ hj => setStream_of_ne s stream hj, fun _ hEntry => hEntry⟩

theorem Local.retire (h : Sound (s.retire k stream timer)) : Local k s (s.retire k stream timer) :=
  ⟨h, fun _ hj => retire_of_ne s stream timer hj, fun _ hEntry => (List.mem_filter.mp hEntry).1⟩

theorem Local.abortRequest (h : Sound s) (k : Nat) : Local k s (s.abortRequest k) := by
  have hSound := h.abortRequest k
  rw [Bridge.abortRequest] at hSound ⊢
  cases hStream : s.streams k with
  | none => exact .refl h k
  | some stream =>
    rw [hStream] at hSound
    exact .setStream hSound

theorem Local.send (h : Sound s) (hStream : s.streams k = some stream)
    (hUnended : Unended stream.sent) {message : BridgeMessage}
    (hOpen : stream.finished = false → message.terminal = false) :
    Local k s (s.send k message) := by
  have hSound := h.send hStream hUnended hOpen
  rw [Bridge.send, hStream] at hSound ⊢
  exact .setStream hSound

theorem abortRequest_self (hStream : s.streams k = some stream) :
    (s.abortRequest k).streams k = some { stream with aborted := stream.aborted + 1 } := by
  rw [Bridge.abortRequest, hStream]
  exact setStream_self ..

theorem Sound.abort (h : Sound s) (k : Nat) : Turn k s (s.abort k) ∧
    ∀ stream, s.streams k = some stream →
      ∃ stream', (s.abort k).streams k = some stream' ∧ stream'.finished = true := by
  rw [Bridge.abort]
  obtain ⟨hIdle, hCleanup⟩ | ⟨stream, timer, hStream, hOpen, hSound, hCleanup⟩ := h.cleaned k
  · rw [hCleanup]
    exact ⟨.refl h k, fun stream hStream => ⟨stream, hStream, hIdle stream hStream⟩⟩
  · rw [hCleanup]
    exact ⟨((Local.retire hSound).trans (.abortRequest hSound k)).turn hStream hOpen,
      fun _ _ => ⟨_, abortRequest_self (retire_self ..), rfl⟩⟩

theorem Sound.finish (h : Sound s) (k : Nat) (message : BridgeMessage) :
    Turn k s (s.finish k message) := by
  rw [Bridge.finish]
  obtain ⟨-, hCleanup⟩ | ⟨stream, timer, hStream, hOpen, hSound, hCleanup⟩ := h.cleaned k
  · rw [hCleanup]
    exact .refl h k
  · rw [hCleanup]
    have hUnended := (h.fits k stream hStream).unended hOpen
    exact ((Local.retire hSound).trans
      (.send hSound (retire_self ..) hUnended nofun)).turn hStream hOpen

theorem Sound.fail (h : Sound s) (k : Nat) (message : String) : Turn k s (s.fail k message) := by
  rw [Bridge.fail]
  obtain ⟨-, hCleanup⟩ | ⟨stream, timer, hStream, hOpen, hSound, hCleanup⟩ := h.cleaned k
  · rw [hCleanup]
    exact .refl h k
  · rw [hCleanup]
    have hUnended := (h.fits k stream hStream).unended hOpen
    have hAborted := Local.abortRequest hSound k
    have hSent : Local k _ (Bridge.send _ k (.error message)) := .send hAborted.sound
      (abortRequest_self (retire_self ..)) hUnended nofun
    exact (((Local.retire hSound).trans hAborted).trans hSent).turn hStream hOpen

theorem fail_fired (h : Sound s) (hTimer : s.timers timer = some k) (message : String) :
    { s with timers := Function.update s.timers timer none }.fail k message = s.fail k message := by
  obtain ⟨stream, hStream, hOpen, hTimeout⟩ := h.timers timer k hTimer
  have hCleanup : { s with timers := Function.update s.timers timer none }.cleanup k =
      s.cleanup k := by
    rw [Bridge.cleanup, Bridge.cleanup]
    dsimp only
    rw [hStream]
    dsimp only
    rw [hOpen, hTimeout, Bridge.cancel, Bridge.cancel]
    dsimp only
    rw [Function.update_idem, if_neg Bool.false_ne_true, if_neg Bool.false_ne_true]
  rw [Bridge.fail, Bridge.fail, hCleanup]

/-! ## The timeout -/

def Bridge.arm (s : Bridge) (k : Nat) (stream : BridgeStream) : Bridge :=
  { s with
    streams := Function.update s.streams k (some { stream with timeout := some s.scheduled })
    timers := Function.update (s.cancel stream.timeout).timers s.scheduled (some k)
    scheduled := s.scheduled + 1 }

theorem refreshTimeout_open (hStream : s.streams k = some stream)
    (hOpen : stream.finished = false) :
    s.refreshTimeout k = s.arm k stream := by
  rw [Bridge.refreshTimeout, hStream]
  dsimp only
  rw [if_neg (by rw [hOpen]; exact Bool.false_ne_true), Bridge.arm]
  cases stream.timeout <;> rfl

theorem arm_self (s : Bridge) (k : Nat) (stream : BridgeStream) :
    (s.arm k stream).streams k = some { stream with timeout := some s.scheduled } :=
  Function.update_self ..

theorem arm_of_ne (s : Bridge) (stream : BridgeStream) (hj : j ≠ k) :
    (s.arm k stream).streams j = s.streams j := Function.update_of_ne hj ..

theorem arm_timer (s : Bridge) (k : Nat) (stream : BridgeStream) :
    (s.arm k stream).timers s.scheduled = some k := Function.update_self ..

theorem arm_timer_of_ne (s : Bridge) (k : Nat) (stream : BridgeStream)
    (hTimer : timer ≠ s.scheduled) :
    (s.arm k stream).timers timer = (s.cancel stream.timeout).timers timer :=
  Function.update_of_ne hTimer ..

theorem cancel_timers (h : Sound s) (hStream : s.streams k = some stream)
    (hOpen : stream.finished = false) (timer j : Nat) :
    (s.cancel stream.timeout).timers timer = some j ↔ s.timers timer = some j ∧ j ≠ k := by
  obtain ⟨own, hOwn, hPending⟩ := (h.fits k stream hStream).timed hOpen
  rw [hOwn, Bridge.cancel]
  dsimp only
  by_cases hTimer : timer = own
  · rw [hTimer, Function.update_self, hPending]
    constructor
    · intro hNone
      cases hNone
    · rintro ⟨hEq, hNe⟩
      exact absurd (Option.some.inj hEq).symm hNe
  · rw [Function.update_of_ne hTimer]
    refine ⟨fun hOther => ⟨hOther, ?_⟩, And.left⟩
    rintro rfl
    obtain ⟨st, hst, -, hIts⟩ := h.timers timer j hOther
    rw [hStream] at hst
    cases hst
    exact hTimer (Option.some.inj (hIts.symm.trans hOwn))

/-- The state but for the timer of a running stream `k`, which is about to be set. -/
structure Ready (s : Bridge) (k : Nat) (stream : BridgeStream) : Prop where
  holds : s.streams k = some stream
  running : stream.finished = false
  unended : Unended stream.sent
  registered : s.registry.lookup stream.id = some ⟨k, stream.ownerId⟩
  others : ∀ j st, j ≠ k → s.streams j = some st → Fits s j st
  entries : ∀ id entry, s.registry.lookup id = some entry →
    ∃ stream, s.streams entry.stream = some stream ∧ stream.id = id ∧
      stream.ownerId = entry.ownerId ∧ stream.finished = false
  cancelled : ∀ timer j, (s.cancel stream.timeout).timers timer = some j ↔
    s.timers timer = some j ∧ j ≠ k
  timers : ∀ timer j, j ≠ k → s.timers timer = some j →
    ∃ stream, s.streams j = some stream ∧ stream.finished = false ∧ stream.timeout = some timer
  scheduled : ∀ timer, s.scheduled ≤ timer → s.timers timer = none
  opened : ∀ j, s.opened ≤ j → s.streams j = none
  nodup : s.registry.keys.Nodup

theorem Sound.ready (h : Sound s) (hStream : s.streams k = some stream)
    (hOpen : stream.finished = false) : Ready s k stream where
  holds := hStream
  running := hOpen
  unended := (h.fits k stream hStream).unended hOpen
  registered := (h.fits k stream hStream).registered hOpen
  others := fun j st _ => h.fits j st
  entries := h.entries
  cancelled := cancel_timers h hStream hOpen
  timers := fun timer j _ => h.timers timer j
  scheduled := h.scheduled
  opened := h.opened
  nodup := h.nodup

theorem Unended.last (h : Unended sent) : LastSent sent := by
  intro pre message post hSent hTerminal
  rw [h message (by rw [hSent]; simp)] at hTerminal
  cases hTerminal

theorem Ready.arm (h : Ready s k stream) : Sound (s.arm k stream) := by
  have hOld : ∀ timer j, (s.cancel stream.timeout).timers timer = some j →
      timer ≠ s.scheduled := by
    rintro timer j hTimer rfl
    have hPending := ((h.cancelled s.scheduled j).mp hTimer).1
    rw [h.scheduled s.scheduled (Nat.le_refl _)] at hPending
    cases hPending
  refine ⟨fun j st hst => ?_, fun id entry hEntry => ?_, fun timer j hTimer => ?_,
    fun timer hTimer => ?_, fun j hj => ?_, h.nodup⟩
  · by_cases hj : j = k
    · subst hj
      rw [arm_self] at hst
      cases hst
      exact ⟨fun _ => h.registered, fun _ => ⟨s.scheduled, rfl, arm_timer s j stream⟩,
        fun _ => h.unended, h.unended.last⟩
    · rw [arm_of_ne _ _ hj] at hst
      have hKept := h.others j st hj hst
      refine ⟨hKept.registered, fun hRunning => ?_, hKept.unended, hKept.last⟩
      obtain ⟨timer, hIts, hPending⟩ := hKept.timed hRunning
      have hLeft := (h.cancelled timer j).mpr ⟨hPending, hj⟩
      exact ⟨timer, hIts, (arm_timer_of_ne s k stream (hOld timer j hLeft)).trans hLeft⟩
  · obtain ⟨st, hst, hId, hOwner, hRunning⟩ := h.entries id entry hEntry
    by_cases hj : entry.stream = k
    · rw [hj, h.holds] at hst
      cases hst
      refine ⟨{ stream with timeout := some s.scheduled }, ?_, hId, hOwner, hRunning⟩
      rw [hj]
      exact arm_self s k stream
    · exact ⟨st, (arm_of_ne _ _ hj).trans hst, hId, hOwner, hRunning⟩
  · by_cases hNew : timer = s.scheduled
    · subst hNew
      rw [arm_timer] at hTimer
      cases hTimer
      exact ⟨_, arm_self s k stream, h.running, rfl⟩
    · rw [arm_timer_of_ne _ _ _ hNew] at hTimer
      obtain ⟨hPending, hj⟩ := (h.cancelled timer j).mp hTimer
      obtain ⟨st, hst, hRunning, hIts⟩ := h.timers timer j hj hPending
      exact ⟨st, (arm_of_ne _ _ hj).trans hst, hRunning, hIts⟩
  · have hLater : s.scheduled + 1 ≤ timer := hTimer
    rw [arm_timer_of_ne _ _ _ (by omega), Option.eq_none_iff_forall_ne_some]
    intro j hLeft
    have hPending := ((h.cancelled timer j).mp hLeft).1
    rw [h.scheduled timer (by omega)] at hPending
    cases hPending
  · have hNe : j ≠ k := by
      rintro rfl
      have hStream := h.holds
      rw [h.opened j hj] at hStream
      cases hStream
    exact (arm_of_ne _ _ hNe).trans (h.opened j hj)

theorem Local.arm (h : Ready s k stream) : Local k s (s.arm k stream) :=
  ⟨h.arm, fun _ hj => arm_of_ne s stream hj, fun _ hEntry => hEntry⟩

def Bridge.register (s : Bridge) (stream : BridgeStream) : Bridge :=
  { s.setStream s.opened stream with
    opened := s.opened + 1
    registry := s.registry.set stream.id ⟨s.opened, stream.ownerId⟩ }

theorem register_self (s : Bridge) (stream : BridgeStream) :
    (s.register stream).streams s.opened = some stream := Function.update_self ..

theorem register_of_ne (s : Bridge) (stream : BridgeStream) (hj : j ≠ s.opened) :
    (s.register stream).streams j = s.streams j := Function.update_of_ne hj ..

theorem register_lookup (s : Bridge) (stream : BridgeStream) (id : String) :
    (s.register stream).registry.lookup id =
      if id = stream.id then some ⟨s.opened, stream.ownerId⟩ else s.registry.lookup id :=
  Dict.lookup_set ..

theorem Sound.ne_opened (h : Sound s) (hStream : s.streams j = some stream) : j ≠ s.opened := by
  rintro rfl
  rw [h.opened _ (Nat.le_refl _)] at hStream
  cases hStream

theorem Sound.register (h : Sound s) (hFree : s.registry.lookup stream.id = none)
    (hOpen : stream.finished = false) (hTimeout : stream.timeout = none)
    (hUnended : Unended stream.sent) : Ready (s.register stream) s.opened stream := by
  refine ⟨register_self s stream, hOpen, hUnended, ?_, fun j st hj hst => ?_,
    fun id entry hEntry => ?_, fun timer j => ?_, fun timer j hj hTimer => ?_, h.scheduled,
    fun j hj => ?_, Dict.nodup_keys_set h.nodup ..⟩
  · rw [register_lookup, if_pos rfl]
  · rw [register_of_ne _ _ hj] at hst
    have hKept := h.fits j st hst
    refine ⟨fun hRunning => ?_, hKept.timed, hKept.unended, hKept.last⟩
    have hEntry := hKept.registered hRunning
    have hId : st.id ≠ stream.id := by
      intro hEq
      rw [hEq, hFree] at hEntry
      cases hEntry
    rw [register_lookup, if_neg hId]
    exact hEntry
  · rw [register_lookup] at hEntry
    split at hEntry
    · rename_i hId
      cases hEntry
      exact ⟨stream, register_self s stream, hId.symm, rfl, hOpen⟩
    · obtain ⟨st, hst, hId, hOwner, hRunning⟩ := h.entries id entry hEntry
      exact ⟨st, (register_of_ne s stream (h.ne_opened hst)).trans hst, hId, hOwner, hRunning⟩
  · rw [hTimeout]
    refine ⟨fun hPending => ⟨hPending, ?_⟩, And.left⟩
    obtain ⟨st, hst, -, -⟩ := h.timers timer j hPending
    exact h.ne_opened hst
  · obtain ⟨st, hst, hRunning, hIts⟩ := h.timers timer j hTimer
    exact ⟨st, (register_of_ne s stream hj).trans hst, hRunning, hIts⟩
  · have hLater : s.opened + 1 ≤ j := hj
    rw [register_of_ne s stream (by omega)]
    exact h.opened j (by omega)

structure Kept (s s' : Bridge) : Prop where
  sound : Sound s'
  frozen : ∀ j stream, s.streams j = some stream → stream.finished = true →
    s'.streams j = some stream

theorem Kept.refl (h : Sound s) : Kept s s := ⟨h, fun _ _ h _ => h⟩

theorem Turn.kept (h : Turn k s s') : Kept s s' := by
  refine ⟨h.sound, fun j stream hStream hFinished => ?_⟩
  by_cases hj : j = k
  · subst hj
    exact h.frozen stream hStream hFinished
  · exact (h.others j hj).trans hStream

def BridgeStream.fresh (id : String) (ownerId : Nat) : BridgeStream :=
  ⟨id, ownerId, false, none, ⟨0, []⟩, [], [], 0⟩

theorem Sound.openStream (h : Sound s) (id : String) (ownerId : Nat) (prepared : Bool) :
    Kept s (s.openStream id ownerId prepared) := by
  rw [Bridge.openStream]
  split
  · exact .refl h
  split
  · exact .refl h
  rename_i hTaken _
  have hFree : s.registry.lookup id = none := by
    cases hLookup : s.registry.lookup id with
    | none => rfl
    | some entry => exact absurd (Or.inr (by rw [hLookup]; rfl)) hTaken
  have hReady : Ready (s.register (.fresh id ownerId)) s.opened (.fresh id ownerId) :=
    h.register hFree rfl rfl nofun
  change Kept s ((s.register (.fresh id ownerId)).refreshTimeout s.opened)
  rw [refreshTimeout_open hReady.holds hReady.running]
  refine ⟨hReady.arm, fun j st hst _ => ?_⟩
  have hj := h.ne_opened hst
  exact (arm_of_ne _ _ hj).trans ((register_of_ne s _ hj).trans hst)

theorem Sound.refreshTimeout (h : Sound s) (hStream : s.streams k = some stream)
    (hOpen : stream.finished = false) : Local k s (s.refreshTimeout k) := by
  rw [refreshTimeout_open hStream hOpen]
  exact .arm (h.ready hStream hOpen)

theorem Local.rewritten (h : Sound s) (hStream : s.streams k = some stream)
    (hSame : SameStream stream stream') (hUnended : Unended stream'.sent) :
    Local k s (s.setStream k stream') :=
  .setStream (h.setStream hStream hSame (fun _ => hUnended) hUnended.last)

theorem Sound.receive (env : BridgeEnv) (h : Sound s) (k : Nat) (chunk : List UInt8) :
    Turn k s (s.receive env k chunk) := by
  rw [Bridge.receive]
  cases hStream : s.streams k with
  | none => exact .refl h k
  | some stream =>
    dsimp only
    split
    · exact .refl h k
    rename_i hRunning
    have hOpen : stream.finished = false := Bool.eq_false_iff.mpr hRunning
    have hUnended := (h.fits k stream hStream).unended hOpen
    have hRefreshed := h.refreshTimeout hStream hOpen
    rw [refreshTimeout_open hStream hOpen] at hRefreshed ⊢
    have hArmed := arm_self s k stream
    rw [hArmed]
    dsimp only
    have hPushed (limiter : Limiter) : Local k (s.arm k stream) ((s.arm k stream).setStream k
        { stream with timeout := some s.scheduled, limiter := limiter }) :=
      .rewritten hRefreshed.sound hArmed ⟨rfl, rfl, rfl, rfl⟩ hUnended
    generalize stream.limiter.push env.limit chunk = pushed
    split
    · have hFailed := (hPushed pushed.2).sound.fail k "Stream is too large."
      exact ((hRefreshed.trans (hPushed pushed.2)).trans hFailed.toLocal).turn hStream hOpen
    · have hDecoded : Local k ((s.arm k stream).setStream k
          { stream with timeout := some s.scheduled, limiter := pushed.2 })
          (((s.arm k stream).setStream k
            { stream with timeout := some s.scheduled, limiter := pushed.2 }).setStream k
            { stream with
              timeout := some s.scheduled
              limiter := pushed.2
              decoded := stream.decoded ++ [chunk] }) :=
        .rewritten (hPushed pushed.2).sound (setStream_self ..) ⟨rfl, rfl, rfl, rfl⟩ hUnended
      have hSent : Local k _ (Bridge.send _ k (.data (env.write stream.decoded chunk))) :=
        .send hDecoded.sound (setStream_self ..) hUnended fun _ => rfl
      exact (((hRefreshed.trans (hPushed pushed.2)).trans hDecoded).trans hSent).turn hStream hOpen

theorem Sound.closeStream (h : Sound s) (id : String) (sender : Nat) :
    Kept s (s.closeStream id sender) := by
  rw [Bridge.closeStream]
  cases hEntry : s.registry.lookup id with
  | none => exact .refl h
  | some entry =>
    dsimp only
    split
    · obtain ⟨stream, hStream, -, -, hOpen⟩ := h.entries id entry hEntry
      obtain ⟨hIdle, -⟩ | ⟨stream, timer, hStream, hOpen, hSound, hCleanup⟩ :=
        h.cleaned entry.stream
      · rw [hIdle stream hStream] at hOpen
        cases hOpen
      · rw [hCleanup]
        exact (((Local.retire hSound).trans (.abortRequest hSound _)).turn hStream hOpen).kept
    · exact .refl h

/-! ## Several streams are aborted -/

structure Aborts (among : Nat → Prop) (s s' : Bridge) : Prop extends Kept s s' where
  others : ∀ j, ¬ among j → s'.streams j = s.streams j
  registry : ∀ entry ∈ s'.registry, entry ∈ s.registry

theorem Sound.aborts (h : Sound s) (entries : List RegistryEntry) (among : Nat → Prop)
    (hAmong : ∀ entry ∈ entries, among entry.stream) :
    Aborts among s (entries.foldl (fun s entry => s.abort entry.stream) s) ∧
      ∀ entry ∈ entries, ∀ stream, s.streams entry.stream = some stream → ∃ stream',
        (entries.foldl (fun s entry => s.abort entry.stream) s).streams entry.stream =
          some stream' ∧ stream'.finished = true := by
  induction entries generalizing s with
  | nil => exact ⟨⟨.refl h, fun _ _ => rfl, fun _ hEntry => hEntry⟩, nofun⟩
  | cons entry entries ih =>
    obtain ⟨hTurn, hFinished⟩ := h.abort entry.stream
    obtain ⟨hRest, hDone⟩ := ih hTurn.sound fun other hOther =>
      hAmong other (List.mem_cons_of_mem _ hOther)
    rw [List.foldl_cons]
    refine ⟨⟨⟨hRest.sound, ?_⟩, ?_, ?_⟩, ?_⟩
    · exact fun j stream hStream hOver =>
        hRest.frozen j stream (hTurn.kept.frozen j stream hStream hOver) hOver
    · intro j hj
      have hNe : j ≠ entry.stream := by
        rintro rfl
        exact hj (hAmong entry List.mem_cons_self)
      exact (hRest.others j hj).trans (hTurn.others j hNe)
    · exact fun other hOther => hTurn.registry other (hRest.registry other hOther)
    · intro other hOther stream hStream
      by_cases hSame : other.stream = entry.stream
      · -- it is finished by this abort, and what follows does not change it
        rw [hSame] at hStream ⊢
        obtain ⟨stream', hAborted, hOver⟩ := hFinished stream hStream
        exact ⟨stream', hRest.frozen _ stream' hAborted hOver, hOver⟩
      · rcases List.mem_cons.mp hOther with rfl | hLater
        · exact absurd rfl hSame
        · exact hDone other hLater stream ((hTurn.others _ hSame).trans hStream)

theorem Sound.lookup_of_mem (h : Sound s) {id : String} {entry : RegistryEntry}
    (hEntry : (id, entry) ∈ s.registry) : ∃ stream, s.streams entry.stream = some stream ∧
      stream.id = id ∧ stream.ownerId = entry.ownerId ∧ stream.finished = false :=
  h.entries id entry (Dict.lookup_of_mem h.nodup hEntry)

theorem registry_left (h : Sound s) {P : RegistryEntry → Bool} {among : Nat → Prop}
    (hAborts : Aborts among s (((s.registry.map Prod.snd).filter P).foldl
      (fun s entry => s.abort entry.stream) s))
    (hDone : ∀ entry ∈ (s.registry.map Prod.snd).filter P, ∀ stream,
      s.streams entry.stream = some stream → ∃ stream',
        (((s.registry.map Prod.snd).filter P).foldl
          (fun s entry => s.abort entry.stream) s).streams entry.stream = some stream' ∧
            stream'.finished = true) :
    ∀ entry ∈ (((s.registry.map Prod.snd).filter P).foldl
      (fun s entry => s.abort entry.stream) s).registry, P entry.2 = false := by
  rintro ⟨id, entry⟩ hLeft
  have hEntry := hAborts.registry (id, entry) hLeft
  by_contra hP
  have hAborted : entry ∈ (s.registry.map Prod.snd).filter P :=
    List.mem_filter.mpr ⟨List.mem_map.mpr ⟨(id, entry), hEntry, rfl⟩, Bool.not_eq_false _ ▸ hP⟩
  obtain ⟨stream, hStream, -, -, -⟩ := h.lookup_of_mem hEntry
  obtain ⟨st, hst, hOver⟩ := hDone entry hAborted stream hStream
  obtain ⟨st', hst', -, -, hRunning⟩ := hAborts.sound.lookup_of_mem hLeft
  rw [hst] at hst'
  cases hst'
  rw [hOver] at hRunning
  cases hRunning

theorem Sound.abortOwner (h : Sound s) (ownerId : Nat) : Kept s (s.abortOwner ownerId) ∧
    ∀ j stream, s.streams j = some stream → stream.ownerId ≠ ownerId →
      (s.abortOwner ownerId).streams j = some stream := by
  obtain ⟨hAborts, hDone⟩ := h.aborts
    ((s.registry.map Prod.snd).filter fun entry => entry.ownerId = ownerId)
    (fun j => ∃ stream, s.streams j = some stream ∧ stream.ownerId = ownerId) (by
      intro entry hEntry
      obtain ⟨hListed, hOwner⟩ := List.mem_filter.mp hEntry
      obtain ⟨⟨id, own⟩, hMem, rfl⟩ := List.mem_map.mp hListed
      obtain ⟨stream, hStream, -, hIts, -⟩ := h.lookup_of_mem hMem
      exact ⟨stream, hStream, hIts.trans (of_decide_eq_true hOwner)⟩)
  have hLeft := registry_left h hAborts hDone
  rw [Bridge.abortOwner]
  generalize ((s.registry.map Prod.snd).filter fun entry => entry.ownerId = ownerId).foldl
    (fun s entry => s.abort entry.stream) s = aborted at hAborts hLeft ⊢
  have hFiltered : (aborted.registry.filter fun entry => entry.2.ownerId ≠ ownerId) =
      aborted.registry := by
    rw [List.filter_eq_self]
    intro entry hEntry
    exact decide_eq_true (of_decide_eq_false (hLeft entry hEntry))
  dsimp only
  rw [hFiltered]
  refine ⟨hAborts.toKept, fun j stream hStream hOther => ?_⟩
  refine (hAborts.others j ?_).trans hStream
  rintro ⟨st, hst, hOwner⟩
  rw [hStream] at hst
  cases hst
  exact hOther hOwner

theorem Sound.abortAll (h : Sound s) : Kept s s.abortAll := by
  obtain ⟨hAborts, hDone⟩ := h.aborts ((s.registry.map Prod.snd).filter fun _ => true)
    (fun _ => True) fun _ _ => trivial
  have hLeft := registry_left h hAborts hDone
  have hEmpty : s.abortAll = ((s.registry.map Prod.snd).filter fun _ => true).foldl
      (fun s entry => s.abort entry.stream) s := by
    have hNil := List.eq_nil_iff_forall_not_mem.mpr fun entry hEntry =>
      Bool.false_ne_true (hLeft entry hEntry).symm
    rw [List.filter_true] at hNil ⊢
    rw [Bridge.abortAll, ← hNil]
  rw [hEmpty]
  exact hAborts.toKept

/-! ## Every run -/

theorem step_kept (env : BridgeEnv) (h : Sound s) {event : BridgeEvent}
    (hStep : s.step env event = some s') : Kept s s' := by
  cases event with
  | opens id ownerId prepared =>
    cases hStep
    exact h.openStream id ownerId prepared
  | watch ownerId =>
    cases hStep
    exact ⟨⟨fun k stream hStream => ⟨(h.fits k stream hStream).registered,
      (h.fits k stream hStream).timed, (h.fits k stream hStream).unended,
      (h.fits k stream hStream).last⟩, h.entries, h.timers, h.scheduled, h.opened, h.nodup⟩,
      fun _ _ hStream _ => hStream⟩
  | data k chunk =>
    cases hStep
    exact (h.receive env k chunk).kept
  | ended k status =>
    cases hStep
    exact (h.finish k (.ended status)).kept
  | responseError k message =>
    cases hStep
    exact (h.finish k (.error message)).kept
  | requestError k message =>
    cases hStep
    exact (h.finish k (.error message)).kept
  | timer timer =>
    obtain ⟨k, hTimer, rfl⟩ := Option.map_eq_some_iff.mp hStep
    rw [fail_fired h hTimer]
    exact (h.fail k "Stream timed out.").kept
  | destroyed ownerId =>
    cases hStep
    split
    · exact (h.abortOwner ownerId).1
    · exact .refl h
  | navigation ownerId details =>
    cases hStep
    split
    · exact (h.abortOwner ownerId).1
    · exact .refl h
  | close id sender =>
    cases hStep
    exact h.closeStream id sender
  | abortAll =>
    cases hStep
    exact h.abortAll

theorem sound_invariant (env : BridgeEnv) : StepRun.Invariant (Bridge.step env) Sound :=
  fun _ _ _ h hStep => (step_kept env h hStep).sound

theorem LastSent.count (h : LastSent sent) : sent.countP BridgeMessage.terminal ≤ 1 := by
  induction sent with
  | nil => exact Nat.zero_le 1
  | cons message rest ih =>
    rw [List.countP_cons]
    cases hTerminal : message.terminal with
    | true =>
      have hRest : rest = [] := h [] message rest rfl hTerminal
      rw [hRest]
      exact Nat.le_refl 1
    | false =>
      exact ih fun pre m post hSplit => h (message :: pre) m post (by rw [hSplit]; rfl)

/-- Whatever the order of the events, of any number of streams: a stream sends one end at most, and
nothing behind it; its entry is in the registry while it is not finished, and only then; it has one
timer at most, and none when it is finished; and what a navigation or the end of one owner aborts is
no stream of another. -/
theorem bridge_orderly (env : BridgeEnv) (events : List BridgeEvent)
    (hRun : StepRun.run (Bridge.step env) .initial events = some s) :
    (∀ k stream, s.streams k = some stream →
      (LastSent stream.sent ∧ stream.sent.countP BridgeMessage.terminal ≤ 1) ∧
      (stream.finished = false ↔ s.registry.lookup stream.id = some ⟨k, stream.ownerId⟩) ∧
      (∀ id entry, s.registry.lookup id = some entry → entry.stream = k →
        id = stream.id ∧ entry.ownerId = stream.ownerId) ∧
      (∀ timer timer', s.timers timer = some k → s.timers timer' = some k → timer = timer') ∧
      (stream.finished = true → ∀ timer, s.timers timer ≠ some k)) ∧
    (∀ event s', s.step env event = some s' → ∀ k stream, s.streams k = some stream →
      (stream.finished = true → s'.streams k = some stream) ∧
      ∀ ownerId, (event = .destroyed ownerId ∨ ∃ details, event = .navigation ownerId details) →
        stream.ownerId ≠ ownerId → s'.streams k = some stream) ∧
    ∀ ownerId k stream, s.streams k = some stream → stream.ownerId ≠ ownerId →
      (s.abortOwner ownerId).streams k = some stream := by
  have hSound := (sound_invariant env).run sound_initial hRun
  refine ⟨fun k stream hStream => ?_, fun event s' hStep k stream hStream => ?_,
    fun ownerId k stream => (hSound.abortOwner ownerId).2 k stream⟩
  · have hFits := hSound.fits k stream hStream
    have hOwn : ∀ id entry, s.registry.lookup id = some entry → entry.stream = k →
        stream.id = id ∧ stream.ownerId = entry.ownerId ∧ stream.finished = false := by
      rintro id entry hEntry rfl
      obtain ⟨st, hst, hIts⟩ := hSound.entries id entry hEntry
      rw [hStream] at hst
      cases hst
      exact hIts
    have hTimer : ∀ timer, s.timers timer = some k →
        stream.finished = false ∧ stream.timeout = some timer := by
      intro timer hPending
      obtain ⟨st, hst, hIts⟩ := hSound.timers timer k hPending
      rw [hStream] at hst
      cases hst
      exact hIts
    refine ⟨⟨hFits.last, hFits.last.count⟩, ⟨hFits.registered, fun hEntry => ?_⟩,
      fun id entry hEntry hIts => ?_, fun timer timer' hPending hPending' => ?_,
      fun hFinished timer hPending => ?_⟩
    · exact (hOwn _ _ hEntry rfl).2.2
    · obtain ⟨hId, hOwner, -⟩ := hOwn id entry hEntry hIts
      exact ⟨hId.symm, hOwner.symm⟩
    · exact Option.some.inj ((hTimer timer hPending).2.symm.trans (hTimer timer' hPending').2)
    · rw [(hTimer timer hPending).1] at hFinished
      cases hFinished
  · refine ⟨(step_kept env hSound hStep).frozen k stream hStream, fun ownerId hEvent hOther => ?_⟩
    have hKept := (hSound.abortOwner ownerId).2 k stream hStream hOther
    rcases hEvent with rfl | ⟨details, rfl⟩
    all_goals
      cases hStep
      split
      · exact hKept
      · exact hStream

/-- Two owners use one id, one after the other: the first stream ends, the second is aborted when
its owner loads another page. -/
theorem bridge_orderly_reused : ∃ s, StepRun.run
      (Bridge.step ⟨STREAM_PENDING_LIMIT, fun _ _ => ""⟩) .initial
      [.watch 1, .watch 2, .opens "a" 1 true, .data 0 [100, 10, 10], .ended 0 200,
        .opens "a" 2 true, .navigation 1 ⟨some true, some false, none, none⟩,
          .requestError 0 "closed",
        .timer 2] = some s ∧
    (s.streams 0).map BridgeStream.sent = some [.data "", .ended 200] ∧
    (s.streams 1).map BridgeStream.sent = some [.error "Stream timed out."] ∧
    ∀ timer, s.timers timer ≠ some 1 := by
  refine StepRun.exists_end rfl fun s hRun => ?_
  have hOrderly := (bridge_orderly _ _ hRun).1 1
  cases hRun
  exact ⟨rfl, rfl, (hOrderly _ rfl).2.2.2.2 rfl⟩

end Sniff4Hound.Realtime
