import Mathlib.Data.List.Count
import Mathlib.Data.List.Perm.Basic
import Mathlib.Data.List.Nodup
import Sniff4Hound.Honeypot.EventWriter

/-!
# What the writer loses

An exception in the middle of a batch ends the batch: the events behind it are not registered
(`probe_lost`). So it goes with every event that is handled after `stop` has closed the database.
Where neither happens to an event that could be registered, and no event is put while there is no
writer to take it, every event of a running engine is registered once (`writer_keeps`). The events
are counted: a step moves them between the queue, the batches, the store and the discarded ones
(`moved`).
-/

namespace Sniff4Hound.Honeypot

variable {ε : Type*} {env : WriterEnv ε} {s s' : Engine ε}

/-- A writer takes events, or a call of `start` is about to look for one. -/
def Engine.attended (s : Engine ε) : Bool :=
  decide (0 < s.starts) || s.writers.any fun writer => writer.phase.inLoop

/-- A call of `start` that makes no writer leaves no event behind that nobody takes. -/
def Engine.dispensable (s : Engine ε) : Bool :=
  decide (1 < s.starts) || (s.writers.any fun writer => writer.phase.inLoop) ||
    s.queue.all fun e => !e.running

/-- The steps that cost no event: an exception ends no batch in which an event could be registered,
and an event of a running engine is put and left in the queue only where someone takes it. -/
def sparing (env : WriterEnv ε) (s : Engine ε) : WriterEvent ε → Bool
  | .emit _ => s.stop || s.attended
  | .startRaises => s.dispensable
  | .startWriter => !s.writerAlive || s.dispensable
  | .writer w _ =>
    match s.writers[w]? with
    | some ⟨conn, .saving (e :: rest)⟩ => !s.raises env conn e || (e :: rest).all env.fails
    | _ => true
  | _ => true

/-! ## What a step of a writer does -/

structure Same (s s' : Engine ε) : Prop where
  stop : s'.stop = s.stop
  starts : s'.starts = s.starts
  emitted : s'.emitted = s.emitted

inductive Move (env : WriterEnv ε) (s : Engine ε) (conn : Option Nat) (s' : Engine ε) :
    Phase ε → Phase ε → Prop
  | quiet {phase phase' : Phase ε} (hQueue : s'.queue = s.queue)
      (hRegistered : s'.registered = s.registered) (hDiscarded : s'.discarded = s.discarded)
      (hHeld : phase'.held = phase.held)
      (hLoop : phase.inLoop = true → phase'.inLoop = true ∨ s.queue = []) :
      Move env s conn s' phase phase'
  | takes {phase phase' : Phase ε} {e : Emission ε} (hQueue : s.queue = e :: s'.queue)
      (hRegistered : s'.registered = s.registered) (hDiscarded : s'.discarded = s.discarded)
      (hHeld : phase'.held = phase.held ++ [e]) (hLoop : phase'.inLoop = true) :
      Move env s conn s' phase phase'
  | saves {e : Emission ε} {rest : List (Emission ε)} (hQueue : s'.queue = s.queue)
      (hRegistered : s'.registered = s.registered ++ [e])
      (hDiscarded : s'.discarded = s.discarded) :
      Move env s conn s' (.saving (e :: rest)) (.saving rest)
  | drops {e : Emission ε} {rest : List (Emission ε)} (hRaises : s.raises env conn e = true)
      (hQueue : s'.queue = s.queue) (hRegistered : s'.registered = s.registered)
      (hDiscarded : s'.discarded = s.discarded ++ e :: rest) :
      Move env s conn s' (.saving (e :: rest)) .head

variable {w : Nat} {writer : Writer ε}

theorem writerStep_moves {connects : Bool} (hStep : s.writerStep env w connects writer = some s') :
    ∃ writer' : Writer ε,
      s'.writers = s.writers.set w writer' ∧ Same s s' ∧
        Move env s writer.conn s' writer.phase writer'.phase := by
  obtain ⟨conn, phase⟩ := writer
  cases phase with
  | started =>
    rw [Engine.writerStep] at hStep
    dsimp only at hStep
    split at hStep
    all_goals
      cases hStep
      exact ⟨_, rfl, ⟨rfl, rfl, rfl⟩, .quiet rfl rfl rfl rfl fun _ => .inl rfl⟩
  | connecting =>
    rw [Engine.writerStep] at hStep
    dsimp only at hStep
    split at hStep
    all_goals
      cases hStep
      exact ⟨_, rfl, ⟨rfl, rfl, rfl⟩, .quiet rfl rfl rfl rfl fun _ => .inl rfl⟩
  | head =>
    cases hStep
    refine ⟨_, rfl, ⟨rfl, rfl, rfl⟩, .quiet rfl rfl rfl ?_ fun _ => .inl ?_⟩
    all_goals cases s.stop <;> rfl
  | stopSeen =>
    cases hStep
    cases hQueue : s.queue with
    | nil => exact ⟨_, rfl, ⟨rfl, rfl, rfl⟩, .quiet rfl rfl rfl rfl fun _ => .inr hQueue⟩
    | cons e queue => exact ⟨_, rfl, ⟨rfl, rfl, rfl⟩, .quiet rfl rfl rfl rfl fun _ => .inl rfl⟩
  | waiting =>
    rw [Engine.writerStep] at hStep
    dsimp only at hStep
    split at hStep
    · cases hStep
      exact ⟨_, rfl, ⟨rfl, rfl, rfl⟩, .quiet rfl rfl rfl rfl fun _ => .inl rfl⟩
    · rename_i e queue hQueue
      cases hStep
      exact ⟨_, rfl, ⟨rfl, rfl, rfl⟩, .takes hQueue rfl rfl rfl rfl⟩
  | filling batch =>
    rw [Engine.writerStep] at hStep
    dsimp only at hStep
    split at hStep
    · split at hStep
      · cases hStep
        exact ⟨_, rfl, ⟨rfl, rfl, rfl⟩, .quiet rfl rfl rfl rfl fun _ => .inl rfl⟩
      · rename_i e queue hQueue
        cases hStep
        exact ⟨_, rfl, ⟨rfl, rfl, rfl⟩, .takes hQueue rfl rfl rfl rfl⟩
    · cases hStep
      exact ⟨_, rfl, ⟨rfl, rfl, rfl⟩, .quiet rfl rfl rfl rfl fun _ => .inl rfl⟩
  | saving rest =>
    cases rest with
    | nil =>
      cases hStep
      exact ⟨_, rfl, ⟨rfl, rfl, rfl⟩, .quiet rfl rfl rfl rfl fun _ => .inl rfl⟩
    | cons e rest =>
      rw [Engine.writerStep] at hStep
      dsimp only at hStep
      split at hStep
      · rename_i hRaises
        cases hStep
        exact ⟨_, rfl, ⟨rfl, rfl, rfl⟩, .drops hRaises rfl rfl rfl⟩
      · cases hStep
        exact ⟨_, rfl, ⟨rfl, rfl, rfl⟩, .saves rfl rfl rfl⟩
  | left =>
    cases hStep
    exact ⟨_, rfl, ⟨rfl, rfl, rfl⟩, .quiet rfl rfl rfl rfl nofun⟩
  | ended => cases hStep

/-! ## The events are counted -/

def Engine.inBatches (s : Engine ε) : List (Emission ε) :=
  s.writers.flatMap fun writer => writer.phase.held

theorem count_flatMap_set {α β : Type*} [DecidableEq β] (f : α → List β) {l : List α} {i : Nat}
    {old : α} (hOld : l[i]? = some old) (new : α) (b : β) :
    ((l.set i new).flatMap f).count b + (f old).count b =
      (l.flatMap f).count b + (f new).count b := by
  induction l generalizing i with
  | nil => cases hOld
  | cons a l ih =>
    cases i with
    | zero =>
      cases hOld
      rw [List.set_cons_zero, List.flatMap_cons, List.flatMap_cons, List.count_append,
        List.count_append]
      omega
    | succ i =>
      have hRest := ih (i := i) hOld
      rw [List.set_cons_succ, List.flatMap_cons, List.flatMap_cons, List.count_append,
        List.count_append]
      omega

structure Accounted (s : Engine ε) : Prop where
  places : (s.registered ++ s.discarded ++ (s.queue ++ s.inBatches)).Perm s.emitted
  numbers : s.emitted.map Emission.number = List.range s.emitted.length

theorem accounted_initial : Accounted (.initial : Engine ε) := ⟨.refl _, rfl⟩

variable {writer' : Writer ε}

theorem moved (hWriter : s.writers[w]? = some writer)
    (hWriters : s'.writers = s.writers.set w writer')
    (hMove : Move env s writer.conn s' writer.phase writer'.phase) :
    (s'.registered ++ s'.discarded ++ (s'.queue ++ s'.inBatches)).Perm
      (s.registered ++ s.discarded ++ (s.queue ++ s.inBatches)) := by
  classical
  rw [List.perm_iff_count]
  intro e
  have hBatches : s'.inBatches.count e + writer.phase.held.count e =
      s.inBatches.count e + writer'.phase.held.count e := by
    rw [Engine.inBatches, hWriters]
    exact count_flatMap_set (fun writer => writer.phase.held) hWriter writer' e
  simp only [List.count_append]
  generalize writer.phase = phase at hMove hBatches
  generalize writer'.phase = phase' at hMove hBatches
  cases hMove with
  | quiet hQueue hRegistered hDiscarded hHeld _ =>
    rw [hHeld] at hBatches
    rw [hQueue, hRegistered, hDiscarded]
    omega
  | takes hQueue hRegistered hDiscarded hHeld _ =>
    rw [hHeld, List.count_append, List.count_singleton] at hBatches
    rw [hQueue, hRegistered, hDiscarded, List.count_cons]
    omega
  | saves hQueue hRegistered hDiscarded =>
    rw [Phase.held, Phase.held, List.count_cons] at hBatches
    rw [hQueue, hRegistered, hDiscarded, List.count_append, List.count_singleton]
    omega
  | drops _ hQueue hRegistered hDiscarded =>
    have hNone : (Phase.head : Phase ε).held = [] := rfl
    rw [hNone, List.count_nil, Phase.held] at hBatches
    rw [hQueue, hRegistered, hDiscarded, List.count_append]
    omega

theorem emit_accounted (h : Accounted s) (packet : ε) : Accounted (s.emit packet) := by
  refine ⟨?_, ?_⟩
  · classical
    rw [List.perm_iff_count]
    intro e
    have hCount := List.perm_iff_count.mp h.places e
    simp only [List.count_append] at hCount
    simp only [Engine.emit, Engine.inBatches, List.count_append] at hCount ⊢
    omega
  · simp only [Engine.emit, List.map_append, List.map_cons, List.map_nil, h.numbers,
      List.length_append, List.length_singleton, List.range_succ]

theorem startWriter_accounted (h : Accounted s) : Accounted s.startWriter := by
  rw [Engine.startWriter]
  split
  · exact ⟨h.places, h.numbers⟩
  · refine ⟨?_, h.numbers⟩
    have hBatches : (s.writers ++ [(⟨none, .started⟩ : Writer ε)]).flatMap
        (fun writer => writer.phase.held) = s.inBatches := by
      rw [List.flatMap_append]
      exact List.append_nil _
    have hPlaces := h.places
    rw [← hBatches] at hPlaces
    exact hPlaces

theorem closeEventDb_eq (s : Engine ε) : ∃ eventDb closed,
    s.closeEventDb = { s with eventDb := eventDb, closed := closed } := by
  rw [Engine.closeEventDb]
  split
  · exact ⟨s.eventDb, s.closed, rfl⟩
  · exact ⟨none, _, rfl⟩

theorem accounted_invariant (env : WriterEnv ε) : StepRun.Invariant (Engine.step env)
    Accounted := by
  intro s event s' h hStep
  cases event with
  | emit packet =>
    cases hStep
    exact emit_accounted h packet
  | startClears =>
    cases hStep
    exact ⟨h.places, h.numbers⟩
  | startRaises =>
    obtain ⟨-, hStep⟩ := Option.ite_none_left_eq_some.mp hStep
    cases hStep
    exact ⟨h.places, h.numbers⟩
  | startWriter =>
    obtain ⟨-, hStep⟩ := Option.ite_none_left_eq_some.mp hStep
    cases hStep
    exact startWriter_accounted h
  | bindFails =>
    cases hStep
    exact ⟨h.places, h.numbers⟩
  | stopSets =>
    cases hStep
    exact ⟨h.places, h.numbers⟩
  | stopForgets =>
    obtain ⟨-, hStep⟩ := Option.ite_none_left_eq_some.mp hStep
    cases hStep
    exact ⟨h.places, h.numbers⟩
  | stopCloses =>
    obtain ⟨-, hStep⟩ := Option.ite_none_left_eq_some.mp hStep
    obtain ⟨eventDb, closed, hClosed⟩ := closeEventDb_eq s
    rw [hClosed] at hStep
    cases hStep
    exact ⟨h.places, h.numbers⟩
  | writer w connects =>
    obtain ⟨writer, hWriter, hTurn⟩ := Option.bind_eq_some_iff.mp hStep
    obtain ⟨writer', hWriters, hSame, hMove⟩ := writerStep_moves hTurn
    refine ⟨?_, by rw [hSame.emitted]; exact h.numbers⟩
    rw [hSame.emitted]
    exact (moved hWriter hWriters hMove).trans h.places

/-! ## Steps that spare the events -/

structure Spared (env : WriterEnv ε) (s : Engine ε) : Prop where
  discarded : ∀ e ∈ s.discarded, env.fails e = true
  attended : ∀ e ∈ s.queue, e.running = true → s.attended = true

theorem spared_initial : Spared env .initial := ⟨nofun, nofun⟩

theorem attended_iff : s.attended = true ↔
    0 < s.starts ∨ ∃ writer ∈ s.writers, writer.phase.inLoop = true := by
  rw [Engine.attended, Bool.or_eq_true, decide_eq_true_eq, List.any_eq_true]

theorem dispensable_iff : s.dispensable = true ↔
    (1 < s.starts ∨ ∃ writer ∈ s.writers, writer.phase.inLoop = true) ∨
      ∀ e ∈ s.queue, e.running = false := by
  rw [Engine.dispensable, Bool.or_eq_true, Bool.or_eq_true, decide_eq_true_eq, List.any_eq_true,
    List.all_eq_true]
  simp only [Bool.not_eq_true']

theorem dispensed (h : s.dispensable = true) (hStarts : s'.starts = s.starts - 1)
    (hWriters : s'.writers = s.writers) :
    ∀ e ∈ s.queue, e.running = true → s'.attended = true := by
  intro e hMem hRunning
  rw [attended_iff, hStarts, hWriters]
  rcases dispensable_iff.mp h with (hMore | hLoop) | hLate
  · exact .inl (by omega)
  · exact .inr hLoop
  · rw [hLate e hMem] at hRunning
    cases hRunning

theorem set_attended (hWriter : s.writers[w]? = some writer)
    (hWriters : s'.writers = s.writers.set w writer') (hStarts : s'.starts = s.starts)
    (hLoop : writer.phase.inLoop = true → writer'.phase.inLoop = true) (h : s.attended = true) :
    s'.attended = true := by
  rw [attended_iff] at h ⊢
  rw [hStarts, hWriters]
  refine h.imp_right ?_
  rintro ⟨other, hMem, hOther⟩
  obtain ⟨v, hv⟩ := List.mem_iff_getElem?.mp hMem
  by_cases hSame : v = w
  · subst hSame
    rw [hWriter] at hv
    cases hv
    refine ⟨writer', List.mem_iff_getElem?.mpr ⟨v, ?_⟩, hLoop hOther⟩
    rw [List.getElem?_set_self (List.getElem?_eq_some_iff.mp hWriter).1]
  · refine ⟨other, List.mem_iff_getElem?.mpr ⟨v, ?_⟩, hOther⟩
    rw [List.getElem?_set_ne (Ne.symm hSame)]
    exact hv

theorem writer_spared (h : Spared env s) (hWriter : s.writers[w]? = some writer)
    (hWriters : s'.writers = s.writers.set w writer') (hSame : Same s s')
    (hMove : Move env s writer.conn s' writer.phase writer'.phase)
    (hSparing : ∀ e rest, writer.phase = .saving (e :: rest) → s.raises env writer.conn e = true →
    ∀ x ∈ e :: rest, env.fails x = true) :
    Spared env s' := by
  have hAttended := set_attended hWriter hWriters hSame.starts
  generalize writer.phase = phase at hMove hAttended hSparing
  generalize writer'.phase = phase' at hMove hAttended
  cases hMove with
  | quiet hQueue hRegistered hDiscarded _ hLoop =>
    refine ⟨by rw [hDiscarded]; exact h.discarded, fun e hMem hRunning => ?_⟩
    rw [hQueue] at hMem
    refine hAttended (fun hIn => (hLoop hIn).resolve_right fun hEmpty => ?_)
      (h.attended e hMem hRunning)
    rw [hEmpty] at hMem
    cases hMem
  | takes hQueue _ hDiscarded _ hLoop =>
    refine ⟨by rw [hDiscarded]; exact h.discarded, fun e hMem hRunning => ?_⟩
    exact hAttended (fun _ => hLoop)
      (h.attended e (by rw [hQueue]; exact List.mem_cons_of_mem _ hMem) hRunning)
  | saves hQueue _ hDiscarded =>
    refine ⟨by rw [hDiscarded]; exact h.discarded, fun e hMem hRunning => ?_⟩
    rw [hQueue] at hMem
    exact hAttended (fun _ => rfl) (h.attended e hMem hRunning)
  | @drops e rest hRaises hQueue _ hDiscarded =>
    refine ⟨fun x hMem => ?_, fun x hMem hRunning => ?_⟩
    · rw [hDiscarded] at hMem
      rcases List.mem_append.mp hMem with hOld | hNew
      · exact h.discarded x hOld
      · exact hSparing e rest rfl hRaises x hNew
    · rw [hQueue] at hMem
      exact hAttended (fun _ => rfl) (h.attended x hMem hRunning)

theorem emit_spared (h : Spared env s) (packet : ε) (hSparing : (s.stop || s.attended) = true) :
    Spared env (s.emit packet) := by
  refine ⟨h.discarded, fun e hMem hRunning => ?_⟩
  rcases List.mem_append.mp hMem with hOld | hNew
  · exact h.attended e hOld hRunning
  · rw [List.mem_singleton.mp hNew] at hRunning
    have hStop : s.stop = false := Bool.not_eq_true' _ ▸ hRunning
    rw [hStop, Bool.false_or] at hSparing
    exact hSparing

theorem startWriter_spared (h : Spared env s)
    (hSparing : (!s.writerAlive || s.dispensable) = true) : Spared env s.startWriter := by
  rw [Engine.startWriter]
  split
  · rename_i hAlive
    rw [hAlive] at hSparing
    exact ⟨h.discarded, dispensed (s := s) hSparing rfl rfl⟩
  · refine ⟨h.discarded, fun _ _ _ => attended_iff.mpr (.inr ?_)⟩
    exact ⟨⟨none, .started⟩, List.mem_append_right _ (List.mem_singleton_self _), rfl⟩

theorem spared_invariant (env : WriterEnv ε) :
    StepRun.Invariant (StepRun.guarded (fun s event => sparing env s event = true)
      (Engine.step env)) (Spared env) := by
  intro s event s' h hStep
  obtain ⟨hSparing, hStep⟩ := StepRun.guarded_eq_some.mp hStep
  cases event with
  | emit packet =>
    cases hStep
    exact emit_spared h packet hSparing
  | startClears =>
    cases hStep
    exact ⟨h.discarded, fun e hMem hRunning => attended_iff.mpr (.inl (Nat.succ_pos _))⟩
  | startRaises =>
    obtain ⟨-, hStep⟩ := Option.ite_none_left_eq_some.mp hStep
    cases hStep
    exact ⟨h.discarded, dispensed (s := s) hSparing rfl rfl⟩
  | startWriter =>
    obtain ⟨-, hStep⟩ := Option.ite_none_left_eq_some.mp hStep
    cases hStep
    exact startWriter_spared h hSparing
  | bindFails =>
    cases hStep
    exact ⟨h.discarded, h.attended⟩
  | stopSets =>
    cases hStep
    exact ⟨h.discarded, h.attended⟩
  | stopForgets =>
    obtain ⟨-, hStep⟩ := Option.ite_none_left_eq_some.mp hStep
    cases hStep
    exact ⟨h.discarded, h.attended⟩
  | stopCloses =>
    obtain ⟨-, hStep⟩ := Option.ite_none_left_eq_some.mp hStep
    obtain ⟨eventDb, closed, hClosed⟩ := closeEventDb_eq s
    rw [hClosed] at hStep
    cases hStep
    exact ⟨h.discarded, h.attended⟩
  | writer w connects =>
    obtain ⟨⟨conn, phase⟩, hWriter, hTurn⟩ := Option.bind_eq_some_iff.mp hStep
    obtain ⟨writer', hWriters, hSame, hMove⟩ := writerStep_moves hTurn
    refine writer_spared h hWriter hWriters hSame hMove fun e rest hPhase hRaises => ?_
    cases hPhase
    rw [sparing, hWriter] at hSparing
    dsimp only at hSparing hRaises
    rw [hRaises, Bool.not_true, Bool.false_or] at hSparing
    exact List.all_eq_true.mp hSparing

/-! ## A writer drains the queue -/

def Phase.toGo (queued : Nat) : Phase ε → Nat
  | .started => 10 * queued + 5
  | .connecting => 10 * queued + 4
  | .head => if queued = 0 then 2 else 10 * queued + 1
  | .stopSeen => if queued = 0 then 1 else 10 * queued
  | .waiting => if queued = 0 then 3 else 10 * queued - 1
  | .filling batch => 10 * queued + 5 + batch.length
  | .saving rest => 10 * queued + 4 + rest.length
  | .left => 0
  | .ended => 0

structure Advance (s : Engine ε) (w : Nat) (before : Nat) (writer' : Writer ε) : Prop where
  stop : s.stop = true
  writer : s.writers[w]? = some writer'
  closer : writer'.phase.toGo s.queue.length < before
  ends : writer'.phase.inLoop = false → writer'.phase = .left ∧ s.queue = []

theorem writer_advances (env : WriterEnv ε) (hStop : s.stop = true)
    (hWriter : s.writers[w]? = some writer) (hLoop : writer.phase.inLoop = true) :
    ∃ s' writer', s.step env (.writer w true) = some s' ∧
      Advance s' w (writer.phase.toGo s.queue.length) writer' := by
  have hSelf (new : Writer ε) : (s.setWriter w new).writers[w]? = some new :=
    List.getElem?_set_self (List.getElem?_eq_some_iff.mp hWriter).1
  have hStep : s.step env (.writer w true) = s.writerStep env w true writer := by
    rw [Engine.step, hWriter]
    rfl
  rw [hStep]
  obtain ⟨conn, phase⟩ := writer
  cases phase with
  | started =>
    cases hDb : s.eventDb with
    | none =>
      refine ⟨s.setWriter w ⟨none, .connecting⟩, _, by rw [Engine.writerStep, hDb], hStop,
        hSelf _, ?_, nofun⟩
      exact Nat.lt_succ_self _
    | some db =>
      refine ⟨s.setWriter w ⟨some db, .head⟩, _, by rw [Engine.writerStep, hDb], hStop,
        hSelf _, ?_, nofun⟩
      change (if s.queue.length = 0 then 2 else 10 * s.queue.length + 1) <
        10 * s.queue.length + 5
      split <;> omega
  | connecting =>
    refine ⟨_, ⟨some s.connections, .head⟩, rfl, hStop, hSelf _, ?_, nofun⟩
    change (if s.queue.length = 0 then 2 else 10 * s.queue.length + 1) < 10 * s.queue.length + 4
    split <;> omega
  | head =>
    refine ⟨s.setWriter w ⟨conn, .stopSeen⟩, _, by rw [Engine.writerStep, hStop]; rfl, hStop,
      hSelf _, ?_, nofun⟩
    change (if s.queue.length = 0 then 1 else 10 * s.queue.length) <
      if s.queue.length = 0 then 2 else 10 * s.queue.length + 1
    split <;> omega
  | stopSeen =>
    cases hQueue : s.queue with
    | nil =>
      refine ⟨s.setWriter w ⟨conn, .left⟩, _, by rw [Engine.writerStep, hQueue]; rfl, hStop,
        hSelf _, Nat.zero_lt_one, fun _ => ⟨rfl, hQueue⟩⟩
    | cons e queue =>
      refine ⟨s.setWriter w ⟨conn, .waiting⟩, _, by rw [Engine.writerStep, hQueue]; rfl, hStop,
        hSelf _, ?_, nofun⟩
      have hLength : (s.setWriter w ⟨conn, .waiting⟩).queue.length = queue.length + 1 := by
        rw [Engine.setWriter, hQueue, List.length_cons]
      rw [hLength, List.length_cons, Phase.toGo, Phase.toGo, if_neg (by omega),
        if_neg (by omega)]
      omega
  | waiting =>
    cases hQueue : s.queue with
    | nil =>
      refine ⟨s.setWriter w ⟨conn, .head⟩, _, by rw [Engine.writerStep, hQueue], hStop,
        hSelf _, ?_, nofun⟩
      have hLength : (s.setWriter w ⟨conn, .head⟩).queue.length = 0 := by
        rw [Engine.setWriter, hQueue, List.length_nil]
      rw [hLength, List.length_nil, Phase.toGo, Phase.toGo, if_pos rfl, if_pos rfl]
      omega
    | cons e queue =>
      refine ⟨{ s.setWriter w ⟨conn, .filling [e]⟩ with queue := queue }, _,
        by rw [Engine.writerStep, hQueue], hStop, hSelf _, ?_, nofun⟩
      rw [List.length_cons, Phase.toGo, Phase.toGo, if_neg (by omega), List.length_singleton]
      dsimp only
      omega
  | filling batch =>
    by_cases hRoom : batch.length < DB_BATCH_SIZE
    · cases hQueue : s.queue with
      | nil =>
        refine ⟨s.setWriter w ⟨conn, .saving batch⟩, _,
          by rw [Engine.writerStep, hQueue]; exact if_pos hRoom, hStop, hSelf _, ?_, nofun⟩
        have hLength : (s.setWriter w ⟨conn, .saving batch⟩).queue.length = 0 := by
          rw [Engine.setWriter, hQueue, List.length_nil]
        rw [hLength, List.length_nil, Phase.toGo, Phase.toGo]
        omega
      | cons e queue =>
        refine ⟨{ s.setWriter w ⟨conn, .filling (batch ++ [e])⟩ with queue := queue }, _,
          by rw [Engine.writerStep, hQueue]; exact if_pos hRoom, hStop, hSelf _, ?_, nofun⟩
        rw [List.length_cons, Phase.toGo, Phase.toGo, List.length_append,
          List.length_singleton]
        dsimp only
        omega
    · refine ⟨s.setWriter w ⟨conn, .saving batch⟩, _,
        by rw [Engine.writerStep]; exact if_neg hRoom, hStop, hSelf _, ?_, nofun⟩
      change 10 * s.queue.length + 4 + batch.length < 10 * s.queue.length + 5 + batch.length
      omega
  | saving rest =>
    cases rest with
    | nil =>
      refine ⟨s.setWriter w ⟨conn, .head⟩, _, rfl, hStop, hSelf _, ?_, nofun⟩
      change (if s.queue.length = 0 then 2 else 10 * s.queue.length + 1) <
        10 * s.queue.length + 4
      split <;> omega
    | cons e rest =>
      cases hRaises : s.raises env conn e with
      | true =>
        refine ⟨{ s.setWriter w ⟨conn, .head⟩ with discarded := s.discarded ++ e :: rest },
          ⟨conn, .head⟩, if_pos hRaises, hStop, hSelf _, ?_, nofun⟩
        change (if s.queue.length = 0 then 2 else 10 * s.queue.length + 1) <
          10 * s.queue.length + 4 + (rest.length + 1)
        split <;> omega
      | false =>
        refine ⟨{ s.setWriter w ⟨conn, .saving rest⟩ with registered := s.registered ++ [e] },
          ⟨conn, .saving rest⟩, if_neg (by rw [hRaises]; exact Bool.false_ne_true), hStop,
          hSelf _, ?_, nofun⟩
        change 10 * s.queue.length + 4 + rest.length <
          10 * s.queue.length + 4 + (rest.length + 1)
        omega
  | left => cases hLoop
  | ended => cases hLoop

/-- Once the stop flag is set, a writer's own steps lead it out of its loop, and the queue is empty
then. -/
theorem writer_drains (env : WriterEnv ε) (hStop : s.stop = true)
    (hWriter : s.writers[w]? = some writer) (hLoop : writer.phase.inLoop = true) :
    ∃ n s' writer', StepRun.run (Engine.step env) s (List.replicate n (.writer w true)) = some s' ∧
      s'.queue = [] ∧ s'.writers[w]? = some writer' ∧ writer'.phase = .left := by
  induction hGo : writer.phase.toGo s.queue.length using Nat.strongRecOn
    generalizing s writer with
  | ind m ih =>
    obtain ⟨s', writer', hStep, hAdvance⟩ := writer_advances env hStop hWriter hLoop
    cases hIn : writer'.phase.inLoop with
    | true =>
      obtain ⟨n, u, last, hRun, hRest⟩ :=
        ih _ (hGo ▸ hAdvance.closer) hAdvance.stop hAdvance.writer hIn rfl
      refine ⟨n + 1, u, last, ?_, hRest⟩
      rw [List.replicate_succ, StepRun.run_cons, hStep]
      exact hRun
    | false =>
      obtain ⟨hLeft, hQueue⟩ := hAdvance.ends hIn
      refine ⟨1, s', writer', ?_, hQueue, hAdvance.writer, hLeft⟩
      rw [List.replicate_one, StepRun.run_cons, hStep]
      rfl

/-! ## Every run -/

/-- No writer is in its loop and none is to come. -/
def Engine.settled (s : Engine ε) : Prop := s.attended = false

theorem emitted_nodup (h : Accounted s) : s.emitted.Nodup :=
  .of_map Emission.number (by rw [h.numbers]; exact List.nodup_range)

/-- In a run whose steps all spare the events, an event that could be registered is registered or
waits for it, and never twice; at the end of a shutdown every such event of the running engine is
registered. In any run, the writer drains the queue when the stop flag is set. -/
theorem writer_keeps (env : WriterEnv ε) (events : List (WriterEvent ε))
    (hRun : StepRun.run (StepRun.guarded (fun s event => sparing env s event = true)
      (Engine.step env)) .initial events = some s) :
    s.registered.Nodup ∧
    (∀ e ∈ s.emitted, env.fails e = false →
      e ∈ s.registered ∨ e ∈ s.queue ∨ ∃ writer ∈ s.writers, e ∈ writer.phase.held) ∧
    (∀ e ∈ s.emitted, e ∈ s.registered →
      e ∉ s.queue ∧ ∀ writer ∈ s.writers, e ∉ writer.phase.held) ∧
    (s.settled → ∀ e ∈ s.emitted, e.running = true → env.fails e = false → e ∈ s.registered) ∧
    ∀ w writer, s.stop = true → s.writers[w]? = some writer → writer.phase.inLoop = true →
      ∃ n s' writer', StepRun.run (Engine.step env) s (List.replicate n (.writer w true)) =
        some s' ∧
        s'.queue = [] ∧ s'.writers[w]? = some writer' ∧ writer'.phase = .left := by
  have hAccounted : Accounted s :=
    (accounted_invariant env).run accounted_initial (StepRun.run_of_guarded hRun)
  have hSpared : Spared env s := (spared_invariant env).run spared_initial hRun
  have hNodup := hAccounted.places.nodup_iff.mpr (emitted_nodup hAccounted)
  obtain ⟨hOut, -, hApart⟩ := List.nodup_append.mp hNodup
  have hPlace : ∀ e ∈ s.emitted, env.fails e = false →
      e ∈ s.registered ∨ e ∈ s.queue ∨ ∃ writer ∈ s.writers, e ∈ writer.phase.held := by
    intro e hMem hWell
    rcases List.mem_append.mp (hAccounted.places.mem_iff.mpr hMem) with hDone | hPending
    · refine .inl ((List.mem_append.mp hDone).resolve_right fun hDiscarded => ?_)
      rw [hSpared.discarded e hDiscarded] at hWell
      cases hWell
    · exact .inr ((List.mem_append.mp hPending).imp_right List.mem_flatMap.mp)
  refine ⟨(List.nodup_append.mp hOut).1, hPlace, fun e _ hRegistered => ⟨fun hQueued => ?_,
    fun writer hWriter hHeld => ?_⟩, fun hSettled e hMem hRunning hWell => ?_,
    fun w writer => writer_drains env⟩
  · exact hApart e (List.mem_append_left _ hRegistered) e (List.mem_append_left _ hQueued) rfl
  · exact hApart e (List.mem_append_left _ hRegistered) e
      (List.mem_append_right _ (List.mem_flatMap.mpr ⟨writer, hWriter, hHeld⟩)) rfl
  · rcases hPlace e hMem hWell with hDone | hQueued | ⟨writer, hWriter, hHeld⟩
    · exact hDone
    · rw [Engine.settled, hSpared.attended e hQueued hRunning] at hSettled
      cases hSettled
    · have hLoop : writer.phase.inLoop = true := by
        cases hPhase : writer.phase with
        | filling batch => rfl
        | saving rest => rfl
        | _ =>
          rw [hPhase] at hHeld
          cases hHeld
      rw [Engine.settled, attended_iff.mpr (.inr ⟨writer, hWriter, hLoop⟩)] at hSettled
      cases hSettled

/-- Two probes in one batch, of which the second cannot be inserted; then the engine is stopped. -/
theorem writer_keeps_stopped : ∃ s, StepRun.run (StepRun.guarded
      (fun s event => sparing ⟨fun e => e.number == 1, fun _ => false⟩ s event = true)
      (Engine.step ⟨fun e => e.number == 1, fun _ => false⟩)) .initial
      [.startClears, .startWriter, .writer 0 true, .writer 0 true, .emit [83, 89, 78], .emit
        [22, 3],
        .writer 0 true, .writer 0 true, .writer 0 true, .writer 0 true, .writer 0 true,
        .writer 0 true, .stopSets, .writer 0 true, .writer 0 true] = some s ∧
    s.settled ∧ (⟨0, [83, 89, 78], true⟩ : Emission (List UInt8)) ∈ s.registered := by
  refine StepRun.exists_end rfl fun s hRun => ?_
  have hKeeps := (writer_keeps _ _ hRun).2.2.2.1
  cases hRun
  exact ⟨rfl, hKeeps rfl _ List.mem_cons_self rfl rfl⟩

/-- The same two probes, of which the first cannot be inserted, and one probe that is written when
`stop` has closed the database: a probe whose writes do not fail is lost. -/
theorem probe_lost :
    (∃ s, StepRun.run (Engine.step ⟨fun e => e.number == 0, fun _ => false⟩) .initial
        [.startClears, .startWriter, .writer 0 true, .writer 0 true, .emit [83, 89, 78],
          .emit [22, 3], .writer 0 true, .writer 0 true, .writer 0 true, .writer 0 true,
          .writer 0 true, .stopSets, .writer 0 true, .writer 0 true] = some s ∧
      s.settled ∧ ∃ e ∈ s.emitted, e.running = true ∧
        WriterEnv.fails ⟨fun e => e.number == 0, fun _ => false⟩ e = false ∧ e ∉ s.registered) ∧
    ∃ s, StepRun.run (Engine.step ⟨fun _ => false, fun _ => false⟩) .initial
        [.startClears, .startWriter, .writer 0 true, .writer 0 true, .emit [83, 89, 78],
          .writer 0 true, .writer 0 true, .writer 0 true, .stopSets, .stopForgets, .stopCloses,
          .writer 0 true, .writer 0 true, .writer 0 true] = some s ∧
      s.settled ∧ ∃ e ∈ s.emitted, e.running = true ∧
        WriterEnv.fails ⟨fun _ => false, fun _ => false⟩ e = false ∧ e ∉ s.registered := by
  constructor
  · refine ⟨⟨true, [], some 0, 1, [], [⟨some 0, .left⟩], some 0, 0, 1, 0,
      [⟨0, [83, 89, 78], true⟩, ⟨1, [22, 3], true⟩], [],
      [⟨0, [83, 89, 78], true⟩, ⟨1, [22, 3], true⟩]⟩, rfl, rfl, ⟨1, [22, 3], true⟩, ?_, rfl, rfl,
      List.not_mem_nil⟩
    exact List.mem_cons_of_mem _ (List.mem_singleton_self _)
  · exact ⟨⟨true, [], none, 1, [0], [⟨some 0, .left⟩], none, 0, 0, 0, [⟨0, [83, 89, 78], true⟩], [],
      [⟨0, [83, 89, 78], true⟩]⟩, rfl, rfl, ⟨0, [83, 89, 78], true⟩, List.mem_singleton_self _, rfl,
      rfl, List.not_mem_nil⟩

end Sniff4Hound.Honeypot
