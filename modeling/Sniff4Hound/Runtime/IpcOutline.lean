import Sniff4Hound.Library.RelyGuarantee
import Sniff4Hound.Runtime.Ipc

/-!
# The proof outline of the client

Who may still write to a call: the entry of a request id is registered by its caller,
taken out of `_pending` at most once, and only the thread that took it records a message.
A call that has no entry is `Resting`, one that has is `Riding` on its latest id. With
`careful` the outline also says that nothing was taken for an id the caller gave up, which
holds as long as every failed first send is `Uncontested`.
-/

namespace Sniff4Hound.Ipc

open RelyGuarantee

variable {R : Type}

/-! ## The log -/

def isRecorded (rid : RequestId) : Event R → Bool
  | .recorded _ rid' _ _ => rid' == rid
  | _ => false

def recordedCount (rid : RequestId) (log : List (Event R)) : Nat := log.countP (isRecorded rid)

structure NotSent (s : State R) (t : ThreadId) : Prop where
  sent : ∀ rid sock, .sent t rid sock ∉ s.log
  finished : ∀ o, .finished t o ∉ s.log

def Reported (s : State R) (t : ThreadId) (o : Outcome R) : Prop :=
  (o = timeoutOutcome ∧ .timedOut t ∈ s.log) ∨
    ∃ rid m origin, .recorded t rid m origin ∈ s.log ∧ o = m.outcome

def Event.By (t : ThreadId) (s : State R) : Event R → Prop
  | .registered c rid _ => c = t ∧ s.nextRid ≤ rid
  | .sent c _ _ | .sendFailed c _ | .timedOut c => c = t
  | .finished c o => c = t ∧ (NotSent s t ∨ Reported s t o)
  | .taken u rid c => u = t ∧ (rid, c) ∈ s.pending
  | .recorded c rid _ _ => .taken t rid c ∈ s.log
  | .received _ _ | .delivered _ _ _ => True

/-- What a step of thread `t` may do to what others look at. -/
structure Guar (t : ThreadId) (s s' : State R) : Prop where
  log : ∃ evs, s'.log = s.log ++ evs ∧ ∀ e ∈ evs, e.By t s
  pending : ∀ x ∈ s'.pending, x ∈ s.pending ∨ (x.2 = t ∧ s.nextRid ≤ x.1 ∧ NotSent s t)
  nextRid : s.nextRid ≤ s'.nextRid
  generation : ∀ c, c ≠ t → (s'.calls c).generation = (s.calls c).generation
  message : ∀ c, (s.calls c).message ≠ none → (s'.calls c).message ≠ none
  event : ∀ c, (s.calls c).event = true → (s'.calls c).event = true

theorem Guar.mono {t : ThreadId} {s s' : State R} (h : Guar t s s') {e : Event R}
    (he : e ∈ s.log) : e ∈ s'.log := by
  obtain ⟨evs, hLog, -⟩ := h.log
  rw [hLog]
  exact List.mem_append_left _ he

theorem Guar.new {t : ThreadId} {s s' : State R} (h : Guar t s s') {e : Event R}
    (he : e ∈ s'.log) : e ∈ s.log ∨ e.By t s := by
  obtain ⟨evs, hLog, hBy⟩ := h.log
  rw [hLog] at he
  exact (List.mem_append.mp he).imp id (hBy e)

/-! ## Assertions -/

/-- The call has no entry in `_pending`. -/
structure Resting (careful : Prop) (s : State R) (t : ThreadId) : Prop where
  notSent : NotSent s t
  noEntry : ∀ rid, (rid, t) ∉ s.pending
  clean : careful → ∀ u rid, .taken u rid t ∉ s.log

/-- The call was registered under `rid` on connection `g` and under no later id. -/
structure Riding (careful : Prop) (s : State R) (t : ThreadId) (rid : RequestId)
    (g : Generation) : Prop where
  registered : .registered t rid g ∈ s.log
  generation : (s.calls t).generation = some g
  entry : ∀ rid', (rid', t) ∈ s.pending → rid' = rid
  clean : careful → ∀ u rid', .taken u rid' t ∈ s.log → rid' = rid

/-- Thread `t` took the entry of `rid`, and has recorded nothing for it. -/
structure Claimed (s : State R) (t : ThreadId) (rid : RequestId) (c : ThreadId) : Prop where
  taken : .taken t rid c ∈ s.log
  unique : ∀ u c', .taken u rid c' ∈ s.log → u = t
  gone : ∀ c', (rid, c') ∉ s.pending
  old : rid < s.nextRid
  unrecorded : recordedCount rid s.log = 0

def Main.Ok (careful : Prop) (s : State R) (t : ThreadId) : Main R → Prop
  | .unused | .ensure _ | .checkConnected _ | .checkStop _ | .checkAuth _ | .checkClock _
  | .checkFailure _ _ | .reconnect _ | .register _ | .connecting (some _)
  | .dropSent .first _ =>
    Resting careful s t
  | .send _ rid g | .unregister _ rid g _ => NotSent s t ∧ Riding careful s t rid g
  | .wait rid => ∃ g, .sent t rid g ∈ s.log ∧ Riding careful s t rid g
  | .readMessage rid =>
    (∃ g, .sent t rid g ∈ s.log ∧ Riding careful s t rid g) ∧ (s.calls t).event = true
  | .leave rid o => (∃ g, .sent t rid g ∈ s.log ∧ Riding careful s t rid g) ∧ Reported s t o
  | .finished => ∀ rid g, .sent t rid g ∈ s.log → ∃ o, .finished t o ∈ s.log
  | .resolve g m => NotSent s t ∧ .received g m ∈ s.log
  | .deliver g rid c m =>
    NotSent s t ∧ .received g m ∈ s.log ∧ m.id = some rid ∧ Claimed s t rid c
  | .deliverSet g rid c m => NotSent s t ∧ .recorded c rid m (.response g) ∈ s.log
  | _ => NotSent s t

structure ItemsOk (s : State R) (t : ThreadId) (f : DropFrame) : Prop where
  nodup : (f.items.map Prod.fst).Nodup
  claimed : ∀ x ∈ f.items, Claimed s t x.1 x.2
  rode : ∀ x ∈ f.items, ∀ g, f.generation = some g → .registered x.2 x.1 g ∈ s.log

def DropFrame.Ok (s : State R) (t : ThreadId) (f : DropFrame) : Prop :=
  match f.pc with
  | .fail => ItemsOk s t f
  | .set rid c =>
    ItemsOk s t f ∧ .recorded c rid (failure f.error) (.retired f.generation) ∈ s.log
  | _ => True

/-- The positions `_drop_connection` is called from. -/
def Main.CallsDrop : Main R → Prop
  | .dropSent _ _ | .readDrop | .closeDrop => True
  | _ => False

structure Thread.Ok (careful : Prop) (s : State R) (t : ThreadId) (th : Thread R) : Prop where
  main : th.main.Ok careful s t
  drop : ∀ f, th.drop = some f → th.main.CallsDrop ∧ f.Ok s t

/-! ## The shared state -/

def Origin.Ok (s : State R) (c : ThreadId) (rid : RequestId) (m : Message R) : Origin → Prop
  | .response g => .received g m ∈ s.log ∧ m.id = some rid
  | .retired generation => (∃ error, m = failure error) ∧
      ∀ g, generation = some g → .registered c rid g ∈ s.log

def Event.Ok (careful : Prop) (s : State R) : Event R → Prop
  | .registered c rid g => rid < s.nextRid ∧
      ∀ c' g', .registered c' rid g' ∈ s.log → c' = c ∧ g' = g
  | .sent c rid g => .registered c rid g ∈ s.log ∧ (∀ rid', (rid', c) ∈ s.pending → rid' = rid) ∧
      (careful → ∀ t rid', .taken t rid' c ∈ s.log → rid' = rid) ∧
      ∀ o, .finished c o ∈ s.log → Reported s c o
  | .received g m => ∀ rid, m.id = some rid → ∃ c, .sent c rid g ∈ s.log
  | .taken t rid c => (∃ g, .registered c rid g ∈ s.log) ∧ rid < s.nextRid ∧
      (∀ c', (rid, c') ∉ s.pending) ∧ ∀ t' c', .taken t' rid c' ∈ s.log → t' = t ∧ c' = c
  | .recorded c rid m origin => (∃ t, .taken t rid c ∈ s.log) ∧ (s.calls c).message ≠ none ∧
      origin.Ok s c rid m
  | .delivered c rid m => (s.calls c).event = true ∧ ∃ origin, .recorded c rid m origin ∈ s.log
  | .finished c o => ∀ r, o = .returned r →
      ∃ rid m origin, .recorded c rid m origin ∈ s.log ∧ m.outcome = .returned r
  | .sendFailed _ _ | .timedOut _ => True

def TimeoutFirst (pre : List (Event R)) (e : Event R) : Prop :=
  ∀ c rid m, e = .timedOut c → .delivered c rid m ∉ pre

structure Shared (careful : Prop) (s : State R) : Prop where
  fresh : ∀ u, s.nextThread ≤ u → s.threads u = .at .unused
  sock : ∀ g, s.sock = some g → g = s.generation
  log : ∀ e ∈ s.log, e.Ok careful s
  nodup : (s.pending.map Prod.fst).Nodup
  entry : ∀ x ∈ s.pending, ∃ g, .registered x.2 x.1 g ∈ s.log ∧
    (s.calls x.2).generation = some g
  recordedOnce : ∀ rid, recordedCount rid s.log ≤ 1
  message : ∀ c m, (s.calls c).message = some m → ∃ rid origin, .recorded c rid m origin ∈ s.log
  event : ∀ c, (s.calls c).event = true → (s.calls c).message ≠ none
  timedOut : StepRun.Ordered TimeoutFirst s.log

def outline (R : Type) (careful : Prop) : Outline (State R) ThreadId (Thread R) where
  loc s t := s.threads t
  shared := Shared careful
  ok s t th := th.Ok careful s t
  guar := Guar

/-! ## Stability -/

section Stable

variable {careful : Prop} {t u : ThreadId} {s s' : State R}

variable (hNe : u ≠ t)

include hNe

variable (hGuar : Guar t s s')

include hGuar

theorem NotSent.stable (h : NotSent s u) : NotSent s' u := by
  refine ⟨fun rid g hMem => ?_, fun o hMem => ?_⟩
  · exact (hGuar.new hMem).elim (h.sent rid g) hNe
  · exact (hGuar.new hMem).elim (h.finished o) fun hBy => hNe hBy.1

theorem noEntry_stable {P : RequestId → Prop} (h : ∀ rid, (rid, u) ∈ s.pending → P rid) :
    ∀ rid, (rid, u) ∈ s'.pending → P rid := by
  intro rid hMem
  rcases hGuar.pending _ hMem with hOld | ⟨hNew, -⟩
  · exact h rid hOld
  · exact absurd hNew hNe

omit hNe in
theorem taken_stable {P : RequestId → Prop} (hEntry : ∀ rid, (rid, u) ∈ s.pending → P rid)
    (h : ∀ v rid, .taken v rid u ∈ s.log → P rid) : ∀ v rid, .taken v rid u ∈ s'.log → P rid := by
  intro v rid hMem
  rcases hGuar.new hMem with hOld | ⟨-, hNew⟩
  · exact h v rid hOld
  · exact hEntry rid hNew

theorem Resting.stable (h : Resting careful s u) : Resting careful s' u :=
  ⟨h.notSent.stable hNe hGuar, noEntry_stable hNe hGuar h.noEntry,
    fun hC => taken_stable hGuar h.noEntry (h.clean hC)⟩

theorem Riding.stable {rid : RequestId} {g : Generation} (h : Riding careful s u rid g) :
    Riding careful s' u rid g :=
  ⟨hGuar.mono h.registered, (hGuar.generation u hNe).trans h.generation,
    noEntry_stable hNe hGuar h.entry, fun hC => taken_stable hGuar h.entry (h.clean hC)⟩

theorem sentRiding_stable {rid : RequestId}
    (h : ∃ g, .sent u rid g ∈ s.log ∧ Riding careful s u rid g) :
    ∃ g, .sent u rid g ∈ s'.log ∧ Riding careful s' u rid g := by
  obtain ⟨g, hSent, hRiding⟩ := h
  exact ⟨g, hGuar.mono hSent, hRiding.stable hNe hGuar⟩

theorem Claimed.stable {rid : RequestId} {c : ThreadId} (h : Claimed s u rid c) :
    Claimed s' u rid c := by
  refine ⟨hGuar.mono h.taken, fun v c' hMem => ?_, fun c' hMem => ?_,
    Nat.lt_of_lt_of_le h.old hGuar.nextRid, ?_⟩
  · rcases hGuar.new hMem with hOld | ⟨-, hNew⟩
    · exact h.unique v c' hOld
    · exact absurd hNew (h.gone c')
  · rcases hGuar.pending _ hMem with hOld | ⟨-, hNew, -⟩
    · exact h.gone c' hOld
    · exact absurd h.old (Nat.not_lt.mpr hNew)
  · obtain ⟨evs, hLog, hBy⟩ := hGuar.log
    have hNone : recordedCount rid evs = 0 := by
      rw [recordedCount, List.countP_eq_zero]
      intro e he hRec
      cases e <;> simp only [isRecorded, beq_iff_eq, Bool.false_eq_true] at hRec
      subst hRec
      exact hNe (h.unique t _ (hBy _ he)).symm
    rw [hLog, recordedCount, List.countP_append]
    exact Nat.add_eq_zero_iff.mpr ⟨h.unrecorded, hNone⟩

omit hNe in
theorem Reported.mono {o : Outcome R} (h : Reported s u o) : Reported s' u o := by
  rcases h with ⟨ho, hMem⟩ | ⟨rid, m, origin, hMem, ho⟩
  · exact Or.inl ⟨ho, hGuar.mono hMem⟩
  · exact Or.inr ⟨rid, m, origin, hGuar.mono hMem, ho⟩

theorem finished_stable (h : ∀ rid g, .sent u rid g ∈ s.log → ∃ o, Event.finished u o ∈ s.log) :
    ∀ rid g, .sent u rid g ∈ s'.log → ∃ o, Event.finished u o ∈ s'.log := by
  intro rid g hMem
  rcases hGuar.new hMem with hOld | hBy
  · obtain ⟨o, ho⟩ := h rid g hOld
    exact ⟨o, hGuar.mono ho⟩
  · exact absurd hBy hNe

theorem Main.Ok.stable {m : Main R} (h : m.Ok careful s u) : m.Ok careful s' u := by
  cases m with
  | unused | ensure a | checkConnected a | checkStop a | checkAuth a | checkClock a
  | checkFailure a n | reconnect a | register a => exact Resting.stable hNe hGuar h
  | connecting a =>
    cases a with
    | some a => exact Resting.stable hNe hGuar h
    | none => exact NotSent.stable hNe hGuar h
  | dropSent a error =>
    cases a with
    | first => exact Resting.stable hNe hGuar h
    | second => exact NotSent.stable hNe hGuar h
  | send a rid g | unregister a rid g error => exact ⟨h.1.stable hNe hGuar, h.2.stable hNe hGuar⟩
  | wait rid => exact sentRiding_stable hNe hGuar h
  | readMessage rid => exact ⟨sentRiding_stable hNe hGuar h.1, hGuar.event u h.2⟩
  | leave rid o => exact ⟨sentRiding_stable hNe hGuar h.1, h.2.mono hGuar⟩
  | finished => exact finished_stable hNe hGuar h
  | resolve g m => exact ⟨h.1.stable hNe hGuar, hGuar.mono h.2⟩
  | deliver g rid c m =>
    exact ⟨h.1.stable hNe hGuar, hGuar.mono h.2.1, h.2.2.1, h.2.2.2.stable hNe hGuar⟩
  | deliverSet g rid c m => exact ⟨h.1.stable hNe hGuar, hGuar.mono h.2⟩
  | connect | readLoop g | receive g | readDrop | close | closeRead | closeDrop =>
    exact NotSent.stable hNe hGuar h

theorem ItemsOk.stable {f : DropFrame} (h : ItemsOk s u f) : ItemsOk s' u f :=
  ⟨h.nodup, fun x hx => (h.claimed x hx).stable hNe hGuar,
    fun x hx g hg => hGuar.mono (h.rode x hx g hg)⟩

theorem DropFrame.Ok.stable {f : DropFrame} (h : f.Ok s u) : f.Ok s' u := by
  unfold DropFrame.Ok at h ⊢
  split <;> simp only [*] at h
  · exact h.stable hNe hGuar
  · exact ⟨h.1.stable hNe hGuar, hGuar.mono h.2⟩
  · trivial

theorem Thread.Ok.stable {th : Thread R} (h : th.Ok careful s u) : th.Ok careful s' u :=
  ⟨h.main.stable hNe hGuar, fun f hf => ⟨(h.drop f hf).1, (h.drop f hf).2.stable hNe hGuar⟩⟩

omit hNe

omit hGuar in
theorem outline_stable (careful : Prop) : (outline R careful).Stable :=
  fun _ _ _ _ _ hNe hGuar h => h.stable hNe hGuar

theorem Origin.Ok.guar {c : ThreadId} {rid : RequestId} {m : Message R}
    {origin : Origin} (h : origin.Ok s c rid m) : origin.Ok s' c rid m := by
  cases origin with
  | response g => exact ⟨hGuar.mono h.1, h.2⟩
  | retired generation => exact ⟨h.1, fun g hg => hGuar.mono (h.2 g hg)⟩

theorem Event.Ok.guar {e : Event R} (hMem : e ∈ s.log) (h : e.Ok careful s) : e.Ok careful s' := by
  cases e with
  | registered c rid g =>
    obtain ⟨hRid, hUnique⟩ := h
    refine ⟨Nat.lt_of_lt_of_le hRid hGuar.nextRid, fun c' g' hMem => ?_⟩
    rcases hGuar.new hMem with hOld | ⟨-, hNew⟩
    · exact hUnique c' g' hOld
    · exact absurd hRid (Nat.not_lt.mpr hNew)
  | sent c rid g =>
    obtain ⟨hReg, hEntry, hClean, hFinished⟩ := h
    refine ⟨hGuar.mono hReg, fun rid' hNew => ?_, fun hC => taken_stable hGuar hEntry (hClean hC),
      fun o hNew => ?_⟩
    · rcases hGuar.pending _ hNew with hOld | ⟨rfl, -, hNot⟩
      · exact hEntry rid' hOld
      · exact absurd hMem (hNot.sent rid g)
    · rcases hGuar.new hNew with hOld | ⟨rfl, hNot | hReported⟩
      · exact (hFinished o hOld).mono hGuar
      · exact absurd hMem (hNot.sent rid g)
      · exact hReported.mono hGuar
  | received g m =>
    intro rid hId
    obtain ⟨c, hSent⟩ := h rid hId
    exact ⟨c, hGuar.mono hSent⟩
  | taken v rid c =>
    obtain ⟨⟨g, hReg⟩, hRid, hGone, hUnique⟩ := h
    refine ⟨⟨g, hGuar.mono hReg⟩, Nat.lt_of_lt_of_le hRid hGuar.nextRid, fun c' hMem => ?_,
      fun v' c' hMem => ?_⟩
    · rcases hGuar.pending _ hMem with hOld | ⟨-, hNew, -⟩
      · exact hGone c' hOld
      · exact absurd hRid (Nat.not_lt.mpr hNew)
    · rcases hGuar.new hMem with hOld | ⟨-, hNew⟩
      · exact hUnique v' c' hOld
      · exact absurd hNew (hGone c')
  | recorded c rid m origin =>
    obtain ⟨⟨v, hTaken⟩, hMessage, hOrigin⟩ := h
    exact ⟨⟨v, hGuar.mono hTaken⟩, hGuar.message c hMessage, hOrigin.guar hGuar⟩
  | delivered c rid m =>
    obtain ⟨hEvent, origin, hRecorded⟩ := h
    exact ⟨hGuar.event c hEvent, origin, hGuar.mono hRecorded⟩
  | finished c o =>
    intro r hr
    obtain ⟨rid, m, origin, hRecorded, ho⟩ := h r hr
    exact ⟨rid, m, origin, hGuar.mono hRecorded, ho⟩
  | sendFailed | timedOut => trivial

end Stable

end Sniff4Hound.Ipc
