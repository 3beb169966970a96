import Sniff4Hound.Library.RelyGuarantee
import Sniff4Hound.Realtime.RealtimeSession

/-!
# What a session delivers

The lock makes the calls of a session one after the other: who holds it finds the session open, or
closed with the close event at the end of all events (`Settled`). The loop that reads the queue does
not take the lock. It ends when an event did not come in time and the session reads as closed, and
events that were accepted in between are lost with it; `session_delivers` says that nothing else is
lost.

* `session_delivers`: order, bound and end of what the reader gets, where it is patient; and a send
  that is refused finds the session closed, or closes it for being slow.
-/

namespace Sniff4Hound.Realtime

open RelyGuarantee

variable {s s' core : Session} {t u : Nat} {pc : Pc} {closing : Closing}

def Pc.inside : Pc → Bool
  | .holds _ | .sizes _ | .puts _ | .marks _ | .codes _ | .queues _ | .leaves _ => true
  | _ => false

def Result.item : Result → Option Event
  | .accepted item => some item
  | _ => none

def Pc.accepted : Pc → Option Event
  | .leaves result => result.item
  | .done result => result.item
  | _ => none

def Session.accepted (s : Session) : List (Nat × Event) :=
    s.history.filter fun put => !put.2.isClose

def Session.acceptedBy (s : Session) (t : Nat) : List Event :=
  (s.accepted.filter fun put => put.1 = t).map Prod.snd

def Session.closedBy (s : Session) (t : Nat) : List Event :=
  (s.history.filter fun put => put.2.isClose && put.1 = t).map Prod.snd

def slowConsumer : Event := .close WS_SLOW_CONSUMER_CLOSE_CODE "slow consumer"

def Unclosed (history : List (Nat × Event)) : Prop := ∀ put ∈ history, put.2.isClose = false

structure Open (s : Session) : Prop where
  closed : s.closed = false
  closer : s.closer = none
  unclosed : Unclosed s.history
  room : s.queue.length ≤ REALTIME_QUEUE_LIMIT

/-- Between the write of `closed` and the close event. -/
structure Marked (closing : Closing) (s : Session) : Prop where
  closed : s.closed = true
  closer : s.closer = some (closeCode closing.code, closing.reason)
  unclosed : Unclosed s.history
  room : s.queue.length ≤ REALTIME_QUEUE_LIMIT

/-- The close event of the close that came first is the last of all events. -/
structure Closed (s : Session) : Prop where
  closed : s.closed = true
  ends : ∃ front t code reason, s.history = front ++ [(t, .close code reason)] ∧
    Unclosed front ∧ s.closer = some (code, reason)

def Settled (s : Session) : Prop := Open s ∨ Closed s

/-- A `_close_locked` is that of a `close`, or that of a send that found no room. -/
def Closing.Named (closing : Closing) : Prop :=
  closing.result = .closed ∨ closing = ⟨WS_SLOW_CONSUMER_CLOSE_CODE, "slow consumer", .refused⟩

/-- What a call knows of the session it stands in; with the lock all that it has read is still so. -/
def PcOk (s : Session) : Pc → Prop
  | .waits (.put item) => item.isClose = false
  | .holds (.put item) => Settled s ∧ item.isClose = false
  | .holds _ => Settled s
  | .sizes item => Open s ∧ item.isClose = false
  | .puts item => (Open s ∧ item.isClose = false) ∧ s.queue.length < REALTIME_QUEUE_LIMIT
  | .marks closing => Open s ∧ closing.Named
  | .codes closing => Marked closing s ∧ closing.Named
  | .queues closing => (Marked closing s ∧ closing.Named) ∧
      s.close_code = closeCode closing.code
  | .leaves _ => Settled s
  | _ => True

/-- What a call has closed: a send that is refused finds the session closed or closes it as a slow
consumer, and any other send closes nothing. -/
def Closes (s : Session) (t : Nat) : Pc → Prop
  | .leaves .closed | .done .closed => True
  | .leaves .refused | .done .refused =>
    s.closed = true ∧ ∀ item ∈ s.closedBy t, item = slowConsumer
  | _ => s.closedBy t = []

/-- The assertion of a call: it is inside while it has the lock, it has put its event into the queue
once it is past `puts`, and a close event only where it may. -/
structure CallOk (s : Session) (t : Nat) (pc : Pc) : Prop where
  inside : pc.inside = true ↔ s.lock = some t
  knows : PcOk s pc
  accepted : s.acceptedBy t = pc.accepted.toList
  closes : Closes s t pc

/-- The invariant of the session: no event is lost, repeated or passed by another on its way from
`history` to `delivered`, and the loop ends on its own only where no accepted event waits. -/
structure Flow (s : Session) : Prop where
  order : s.history.map Prod.snd = s.delivered ++ s.queue
  last : ∀ pre put post, s.history = pre ++ put :: post → put.2.isClose = true →
    s.closed = true ∧ post = []
  bound : s.queue.length ≤ REALTIME_QUEUE_LIMIT + 1
  dry : s.consumer = .ended → s.closed = true ∧ ∀ item ∈ s.queue, item.isClose = true
  settled : s.lock = none → Settled s

/-- A call with the lock sees nothing change but the queue get shorter. -/
structure Frozen (s s' : Session) : Prop where
  closed : s'.closed = s.closed
  close_code : s'.close_code = s.close_code
  closer : s'.closer = s.closer
  history : s'.history = s.history
  queue : s'.queue.length ≤ s.queue.length

/-- What one step leaves to the other calls; `none` stands for the loop. -/
structure Guar (actor : Option Nat) (s s' : Session) : Prop where
  lock : ∀ u, actor ≠ some u → (s'.lock = some u ↔ s.lock = some u)
  frozen : ∀ u, actor ≠ some u → s.lock = some u → Frozen s s'
  accepted : ∀ u, actor ≠ some u → s'.acceptedBy u = s.acceptedBy u
  closes : ∀ u, actor ≠ some u → ∀ pc, Closes s u pc → Closes s' u pc

def outline : Outline Session (Option Nat) Pc where
  loc s actor := actor.elim .absent s.calls
  shared := Flow
  ok s actor pc := ∀ t, actor = some t → CallOk s t pc
  guar := Guar

/-! ## Stability -/

theorem Frozen.refl (s : Session) : Frozen s s := ⟨rfl, rfl, rfl, rfl, Nat.le_refl _⟩

theorem Open.frozen (h : Open s) (hSame : Frozen s s') : Open s' where
  closed := hSame.closed.trans h.closed
  closer := hSame.closer.trans h.closer
  unclosed := hSame.history ▸ h.unclosed
  room := Nat.le_trans hSame.queue h.room

theorem Marked.frozen (h : Marked closing s) (hSame : Frozen s s') : Marked closing s' where
  closed := hSame.closed.trans h.closed
  closer := hSame.closer.trans h.closer
  unclosed := hSame.history ▸ h.unclosed
  room := Nat.le_trans hSame.queue h.room

theorem Closed.frozen (h : Closed s) (hSame : Frozen s s') : Closed s' where
  closed := hSame.closed.trans h.closed
  ends := by
    rw [hSame.history, hSame.closer]
    exact h.ends

theorem Settled.frozen (h : Settled s) (hSame : Frozen s s') : Settled s' :=
  h.imp (fun hOpen => hOpen.frozen hSame) fun hClosed => hClosed.frozen hSame

theorem PcOk.frozen (h : PcOk s pc) (hSame : Frozen s s') : PcOk s' pc := by
  cases pc with
  | absent => trivial
  | send => trivial
  | waits job =>
    cases job with
    | put => exact h
    | close => trivial
  | holds job =>
    cases job with
    | put => exact ⟨h.1.frozen hSame, h.2⟩
    | close => exact Settled.frozen h hSame
  | sizes => exact ⟨h.1.frozen hSame, h.2⟩
  | puts => exact ⟨⟨h.1.1.frozen hSame, h.1.2⟩, Nat.lt_of_le_of_lt hSame.queue h.2⟩
  | marks => exact ⟨h.1.frozen hSame, h.2⟩
  | codes => exact ⟨h.1.frozen hSame, h.2⟩
  | queues => exact ⟨⟨h.1.1.frozen hSame, h.1.2⟩, hSame.close_code.trans h.2⟩
  | leaves => exact Settled.frozen h hSame
  | done => trivial

theorem PcOk.outside (h : PcOk s pc) (hOutside : pc.inside = false) (s' : Session) :
    PcOk s' pc := by
  cases pc with
  | absent => trivial
  | send => trivial
  | waits job =>
    cases job with
    | put => exact h
    | close => trivial
  | done => trivial
  | _ => cases hOutside

theorem Closes.keeps (h : Closes s t pc) (hClosed : s.closed = true → s'.closed = true)
    (hSame : s'.closedBy t = s.closedBy t) : Closes s' t pc := by
  unfold Closes at h ⊢
  split at h
  · trivial
  · trivial
  · exact ⟨hClosed h.1, hSame ▸ h.2⟩
  · exact ⟨hClosed h.1, hSame ▸ h.2⟩
  · exact hSame.trans h

theorem outline_stable : outline.Stable := by
  rintro actor actor' s s' pc hOther hGuar hOk u rfl
  have hCall := hOk u rfl
  refine ⟨hCall.inside.trans (hGuar.lock u hOther.symm).symm, ?_,
    (hGuar.accepted u hOther.symm).trans hCall.accepted, hGuar.closes u hOther.symm pc hCall.closes⟩
  by_cases hInside : pc.inside = true
  · exact hCall.knows.frozen (hGuar.frozen u hOther.symm (hCall.inside.mp hInside))
  · exact hCall.knows.outside (Bool.eq_false_iff.mpr hInside) s'

/-! ## The steps of a call -/

theorem moves_goto (hCalls : core.calls = s.calls) (hGuar : Guar (some t) s core)
    (hFlow : Flow core) (hOk : CallOk core t pc) : outline.Moves (some t) s (core.goto t pc) where
  guar := ⟨hGuar.lock, fun u hu hLock =>
    let h := hGuar.frozen u hu hLock
    ⟨h.closed, h.close_code, h.closer, h.history, h.queue⟩, hGuar.accepted,
    fun u hu pc h => (hGuar.closes u hu pc h).keeps id rfl⟩
  shared := by
    refine ⟨hFlow.order, hFlow.last, hFlow.bound, hFlow.dry, fun hLock => ?_⟩
    exact (hFlow.settled hLock).frozen ⟨rfl, rfl, rfl, rfl, Nat.le_refl _⟩
  self := by
    rintro _ ⟨⟩
    have hLoc : outline.loc (core.goto t pc) (some t) = pc := by
      change Function.update core.calls t pc t = pc
      exact Function.update_self ..
    rw [hLoc]
    exact ⟨hOk.inside, hOk.knows.frozen ⟨rfl, rfl, rfl, rfl, Nat.le_refl _⟩, hOk.accepted,
      hOk.closes.keeps id rfl⟩
  others := by
    intro actor hOther
    cases actor with
    | none => exact Or.inl rfl
    | some u =>
      refine Or.inl ?_
      change Function.update core.calls t pc u = s.calls u
      rw [Function.update_of_ne fun hSame => hOther (congrArg some hSame), hCalls]

theorem guar_holder (hLock : s.lock = some t) (hKeeps : s'.lock = some t ∨ s'.lock = none)
    (hAccepted : ∀ u, u ≠ t → s'.acceptedBy u = s.acceptedBy u)
    (hCloses : ∀ u, u ≠ t → s'.closedBy u = s.closedBy u)
    (hClosed : s.closed = true → s'.closed = true) : Guar (some t) s s' := by
  have hFree : ∀ u, some t ≠ some u → s.lock ≠ some u := fun u hu hSame =>
    hu (hLock.symm.trans hSame)
  refine ⟨fun u hu => iff_of_false ?_ (hFree u hu), fun u hu hSame => absurd hSame (hFree u hu),
    fun u hu => hAccepted u fun hSame => hu (congrArg some hSame.symm),
    fun u hu _ h => h.keeps hClosed (hCloses u fun hSame => hu (congrArg some hSame.symm))⟩
  rcases hKeeps with hSame | hNone
  · rw [hSame]
    exact hu
  · rw [hNone]
    exact nofun

theorem Guar.refl (actor : Option Nat) (s : Session) : Guar actor s s :=
  ⟨fun _ _ => Iff.rfl, fun _ _ _ => .refl s, fun _ _ => rfl, fun _ _ _ => id⟩

theorem moves_on (hs : outline.Holds s) (hOk : CallOk s t pc) :
    outline.Moves (some t) s (s.goto t pc) :=
  moves_goto rfl (.refl _ s) hs.1 hOk

theorem accepted_put (s : Session) (t u : Nat) (item : Event) :
    (s.put t item).acceptedBy u =
      if t = u ∧ item.isClose = false then s.acceptedBy u ++ [item] else s.acceptedBy u := by
  rw [Session.acceptedBy, Session.accepted, Session.put, List.filter_append, List.filter_append,
    List.map_append]
  by_cases hClose : item.isClose = true
  · rw [if_neg fun h => Bool.false_ne_true (h.2.symm.trans hClose),
      List.filter_cons_of_neg (by simp [hClose])]
    exact List.append_nil _
  · have hData : item.isClose = false := Bool.eq_false_iff.mpr hClose
    rw [List.filter_cons_of_pos (by simp [hData]), List.filter_nil]
    by_cases hSame : t = u
    · rw [if_pos ⟨hSame, hData⟩, List.filter_cons_of_pos (by simpa using hSame)]
      rfl
    · rw [if_neg fun h => hSame h.1, List.filter_cons_of_neg (by simpa using hSame)]
      exact List.append_nil _

theorem closed_put (s : Session) (t u : Nat) (item : Event) :
    (s.put t item).closedBy u =
      if t = u ∧ item.isClose = true then s.closedBy u ++ [item] else s.closedBy u := by
  rw [Session.closedBy, Session.put, List.filter_append, List.map_append]
  by_cases hBoth : t = u ∧ item.isClose = true
  · rw [if_pos hBoth, List.filter_cons_of_pos (by simpa using hBoth.symm)]
    rfl
  · rw [if_neg hBoth, List.filter_cons_of_neg (by simpa using fun h hSame => hBoth ⟨hSame, h⟩)]
    exact List.append_nil _

theorem Unclosed.snoc {history : List (Nat × Event)} {item : Event} (h : Unclosed history)
    (hItem : item.isClose = false) (t : Nat) : Unclosed (history ++ [(t, item)]) := by
  intro put hPut
  rcases List.mem_append.mp hPut with hOld | hNew
  · exact h put hOld
  · rw [List.mem_singleton.mp hNew]
    exact hItem

theorem last_put {item : Event} (h : Unclosed s.history) (hItem : item.isClose = true →
    s.closed = true) (t : Nat) : ∀ pre put post, (s.put t item).history = pre ++ put :: post →
      put.2.isClose = true → s.closed = true ∧ post = [] := by
  intro pre put post hHistory hClose
  rcases List.eq_nil_or_concat post with rfl | ⟨post, other, rfl⟩
  · obtain ⟨-, hPut⟩ := List.append_inj' hHistory rfl
    cases hPut
    exact ⟨hItem hClose, rfl⟩
  · have hSplit : s.history ++ [(t, item)] = (pre ++ put :: post) ++ [other] := by
      rw [Session.put] at hHistory
      simpa using hHistory
    have hOld := h put (by rw [(List.append_inj' hSplit rfl).1]; simp)
    rw [hOld] at hClose
    cases hClose

theorem waits_moves {job : Job} (hFlow : Flow s) (hOk : CallOk s t (.waits job))
    (hFree : s.lock = none) :
    outline.Moves (some t) s ({ s with lock := some t }.goto t (.holds job)) := by
  have hNone : ∀ u, s.lock ≠ some u := fun u hLock => by
    rw [hFree] at hLock
    cases hLock
  have hSettled := hFlow.settled hFree
  refine moves_goto rfl ⟨fun u hu => iff_of_false hu (hNone u), fun u _ hLock =>
    absurd hLock (hNone u), fun _ _ => rfl, fun _ _ _ h => h.keeps id rfl⟩
    ⟨hFlow.order, hFlow.last, hFlow.bound, hFlow.dry, nofun⟩
    ⟨iff_of_true rfl rfl, ?_, hOk.accepted, hOk.closes⟩
  have hSame : Frozen s { s with lock := some t } := ⟨rfl, rfl, rfl, rfl, Nat.le_refl _⟩
  cases job with
  | put item => exact ⟨hSettled.frozen hSame, hOk.knows⟩
  | close => exact Settled.frozen hSettled hSame

theorem puts_moves {item : Event} (hFlow : Flow s) (hOk : CallOk s t (.puts item)) :
    outline.Moves (some t) s ((s.put t item).goto t (.leaves (.accepted item))) := by
  have hLock := hOk.inside.mp rfl
  obtain ⟨⟨hOpen, hData⟩, hRoom⟩ := hOk.knows
  have hLength : (s.queue ++ [item]).length = s.queue.length + 1 := List.length_append
  have hAccepted := accepted_put s t
  have hCloses : ∀ u, (s.put t item).closedBy u = s.closedBy u := fun u =>
    (closed_put s t u item).trans (if_neg fun h => Bool.false_ne_true (hData.symm.trans h.2))
  refine moves_goto rfl (guar_holder hLock (Or.inl hLock) (fun u hu => ?_) (fun u _ => hCloses u) id)
    ⟨?_, ?_, ?_, ?_, ?_⟩ ⟨iff_of_true rfl hLock,
      Or.inl ⟨hOpen.closed, hOpen.closer, hOpen.unclosed.snoc hData t, ?_⟩, ?_,
      (hCloses t).trans hOk.closes⟩
  · rw [hAccepted, if_neg fun h => hu h.1.symm]
  · rw [Session.put, List.map_append, hFlow.order, List.append_assoc]
    rfl
  · exact last_put hOpen.unclosed (fun h => absurd (hData.symm.trans h) Bool.false_ne_true) t
  · rw [Session.put, hLength]
    omega
  · intro hEnded
    exact absurd (hOpen.closed.symm.trans (hFlow.dry hEnded).1) Bool.false_ne_true
  · intro hFree
    rw [Session.put, hLock] at hFree
    cases hFree
  · rw [Session.put, hLength]
    omega
  · rw [hAccepted, if_pos ⟨rfl, hData⟩, hOk.accepted]
    rfl

theorem marks_moves {closing : Closing} (hFlow : Flow s) (hOk : CallOk s t (.marks closing)) :
    outline.Moves (some t) s ({ s with
      closed := true
      closer := s.closer.or (some (closeCode closing.code, closing.reason)) }.goto t
      (.codes closing)) := by
  have hLock := hOk.inside.mp rfl
  obtain ⟨hOpen, hResult⟩ := hOk.knows
  refine moves_goto rfl
    (guar_holder hLock (Or.inl hLock) (fun _ _ => rfl) (fun _ _ => rfl) fun _ => rfl)
    ⟨hFlow.order, ?_, hFlow.bound, fun hEnded => ⟨rfl, (hFlow.dry hEnded).2⟩, ?_⟩
    ⟨iff_of_true rfl hLock, ⟨⟨rfl, ?_, hOpen.unclosed, hOpen.room⟩, hResult⟩, hOk.accepted,
      hOk.closes⟩
  · intro pre put post hHistory hClose
    exact ⟨rfl, (hFlow.last pre put post hHistory hClose).2⟩
  · intro hFree
    rw [hLock] at hFree
    cases hFree
  · rw [hOpen.closer]
    rfl

theorem codes_moves {closing : Closing} (hFlow : Flow s) (hOk : CallOk s t (.codes closing)) :
    outline.Moves (some t) s
      ({ s with close_code := closeCode closing.code }.goto t (.queues closing)) := by
  have hLock := hOk.inside.mp rfl
  obtain ⟨hMarked, hResult⟩ := hOk.knows
  refine moves_goto rfl
    (guar_holder hLock (Or.inl hLock) (fun _ _ => rfl) (fun _ _ => rfl) id)
    ⟨hFlow.order, hFlow.last, hFlow.bound, hFlow.dry, fun hFree => ?_⟩
    ⟨iff_of_true rfl hLock, ⟨⟨?_, hResult⟩, rfl⟩, hOk.accepted, hOk.closes⟩
  · rw [hLock] at hFree
    cases hFree
  · exact ⟨hMarked.closed, hMarked.closer, hMarked.unclosed, hMarked.room⟩

theorem queues_moves {closing : Closing} (hFlow : Flow s) (hOk : CallOk s t (.queues closing)) :
    outline.Moves (some t) s ((s.put t (.close s.close_code closing.reason)).goto t
      (.leaves closing.result)) := by
  have hLock := hOk.inside.mp rfl
  obtain ⟨⟨hMarked, hResult⟩, hCode⟩ := hOk.knows
  have hRoom := hMarked.room
  have hAccepted : ∀ u, (s.put t (.close s.close_code closing.reason)).acceptedBy u =
      s.acceptedBy u := fun u => (accepted_put s t u _).trans (if_neg fun h => nomatch h.2)
  have hCloses := fun u => closed_put s t u (.close s.close_code closing.reason)
  refine moves_goto rfl (guar_holder hLock (Or.inl hLock) (fun u _ => hAccepted u)
      (fun u hu => (hCloses u).trans (if_neg fun h => hu h.1.symm)) id)
    ⟨?_, last_put hMarked.unclosed (fun _ => hMarked.closed) t, ?_, fun hEnded =>
      ⟨hMarked.closed, ?_⟩, ?_⟩
    ⟨iff_of_true rfl hLock, Or.inr ⟨hMarked.closed, s.history, t, s.close_code, closing.reason, rfl,
      hMarked.unclosed, ?_⟩, ?_, ?_⟩
  · rw [Session.put, List.map_append, hFlow.order, List.append_assoc]
    rfl
  · rw [Session.put, List.length_append, List.length_singleton]
    omega
  · intro item hItem
    rcases List.mem_append.mp hItem with hOld | hNew
    · exact (hFlow.dry hEnded).2 item hOld
    · rw [List.mem_singleton.mp hNew]
      rfl
  · intro hFree
    rw [Session.put, hLock] at hFree
    cases hFree
  · rw [hCode]
    exact hMarked.closer
  · rw [hAccepted, hOk.accepted]
    change none.toList = closing.result.item.toList
    rcases hResult with hClose | rfl
    · rw [hClose]
      rfl
    · rfl
  · rcases hResult with hClose | rfl
    · rw [hClose]
      trivial
    · refine ⟨hMarked.closed, fun item hItem => ?_⟩
      have hNone : s.closedBy t = [] := hOk.closes
      rw [hCloses, if_pos ⟨rfl, rfl⟩, hNone] at hItem
      rw [List.mem_singleton.mp hItem, hCode]
      rfl

theorem leaves_moves {result : Result} (hFlow : Flow s) (hOk : CallOk s t (.leaves result)) :
    outline.Moves (some t) s ({ s with lock := none }.goto t (.done result)) := by
  have hLock := hOk.inside.mp rfl
  refine moves_goto rfl (guar_holder hLock (Or.inr rfl) (fun _ _ => rfl) (fun _ _ => rfl) id)
    ⟨hFlow.order, hFlow.last, hFlow.bound, hFlow.dry, fun _ => ?_⟩
    ⟨iff_of_false Bool.false_ne_true nofun, trivial, hOk.accepted, ?_⟩
  · exact Settled.frozen hOk.knows ⟨rfl, rfl, rfl, rfl, Nat.le_refl _⟩
  · have hCloses := hOk.closes
    cases result <;> exact hCloses

theorem refused_closes (hClosed : s.closed = true) (hNone : s.closedBy t = []) :
    s.closed = true ∧ ∀ item ∈ s.closedBy t, item = slowConsumer := by
  rw [hNone]
  exact ⟨hClosed, nofun⟩

theorem call_moves (hs : outline.Holds s) (h : s.callStep t = some s') :
    outline.Moves (some t) s s' := by
  obtain ⟨hFlow, hAll⟩ := hs
  have hOk : CallOk s t (s.calls t) := hAll (some t) t rfl
  have hMoves : ∀ pc, CallOk s t pc → outline.Moves (some t) s (s.goto t pc) :=
    fun pc hPc => moves_on ⟨hFlow, hAll⟩ hPc
  unfold Session.callStep at h
  generalize s.calls t = pc at h hOk
  obtain ⟨hInside, hKnows, hAccepted, hCloses⟩ := hOk
  cases pc with
  | absent => cases h
  | send text =>
    cases h
    refine hMoves _ ?_
    by_cases hClosed : s.closed = true
    · rw [if_pos hClosed]
      exact ⟨hInside, trivial, hAccepted, refused_closes hClosed hCloses⟩
    · rw [if_neg hClosed]
      exact ⟨hInside, rfl, hAccepted, hCloses⟩
  | waits job =>
    dsimp only at h
    by_cases hFree : s.lock = none
    · rw [if_pos hFree] at h
      cases h
      exact waits_moves hFlow ⟨hInside, hKnows, hAccepted, hCloses⟩ hFree
    · rw [if_neg hFree] at h
      cases h
  | holds job =>
    cases job with
    | put item =>
      cases h
      refine hMoves _ ?_
      by_cases hClosed : s.closed = true
      · rw [if_pos hClosed]
        exact ⟨hInside, hKnows.1, hAccepted, refused_closes hClosed hCloses⟩
      · rw [if_neg hClosed]
        exact ⟨hInside, ⟨hKnows.1.resolve_right fun hEnd => hClosed hEnd.closed, hKnows.2⟩,
          hAccepted, hCloses⟩
    | close code reason =>
      cases h
      refine hMoves _ ?_
      by_cases hClosed : s.closed = true
      · rw [if_pos hClosed]
        exact ⟨hInside, hKnows, hAccepted, trivial⟩
      · rw [if_neg hClosed]
        exact ⟨hInside, ⟨Or.resolve_right hKnows fun hEnd => hClosed hEnd.closed, Or.inl rfl⟩,
          hAccepted, hCloses⟩
  | sizes item =>
    cases h
    refine hMoves _ ?_
    by_cases hFull : REALTIME_QUEUE_LIMIT ≤ s.queue.length
    · rw [if_pos hFull]
      exact ⟨hInside, ⟨hKnows.1, Or.inr rfl⟩, hAccepted, hCloses⟩
    · rw [if_neg hFull]
      exact ⟨hInside, ⟨hKnows, Nat.lt_of_not_le hFull⟩, hAccepted, hCloses⟩
  | puts item =>
    cases h
    exact puts_moves hFlow ⟨hInside, hKnows, hAccepted, hCloses⟩
  | marks closing =>
    cases h
    exact marks_moves hFlow ⟨hInside, hKnows, hAccepted, hCloses⟩
  | codes closing =>
    cases h
    exact codes_moves hFlow ⟨hInside, hKnows, hAccepted, hCloses⟩
  | queues closing =>
    cases h
    exact queues_moves hFlow ⟨hInside, hKnows, hAccepted, hCloses⟩
  | leaves result =>
    cases h
    exact leaves_moves hFlow ⟨hInside, hKnows, hAccepted, hCloses⟩
  | done => cases h

/-! ## The steps of the loop -/

theorem moves_loop (hCalls : s'.calls = s.calls) (hLock : s'.lock = s.lock)
    (hSame : Frozen s s') (hFlow : Flow s') : outline.Moves none s s' where
  guar := ⟨fun _ _ => by rw [hLock], fun _ _ _ => hSame, fun u _ => by
    rw [Session.acceptedBy, Session.accepted, hSame.history]
    rfl, fun u _ _ h => h.keeps hSame.closed.trans (by rw [Session.closedBy, hSame.history]; rfl)⟩
  shared := hFlow
  self := nofun
  others := by
    intro actor _
    cases actor with
    | none => exact Or.inl rfl
    | some u => exact Or.inl (congrFun hCalls u)

theorem spawn_moves (hs : outline.Holds s) (h : s.spawn t pc = some s')
    (hOutside : pc.inside = false) (hKnows : PcOk s pc) (hNew : pc.accepted = none)
    (hCloses : Closes s t .absent → Closes s t pc) :
    outline.Moves (some t) s s' := by
  unfold Session.spawn at h
  by_cases hAbsent : s.calls t = .absent
  · rw [if_pos hAbsent] at h
    cases h
    have hOk : CallOk s t (s.calls t) := hs.2 (some t) t rfl
    rw [hAbsent] at hOk
    refine moves_on hs ⟨?_, hKnows, ?_, hCloses hOk.closes⟩
    · rw [hOutside]
      exact hOk.inside
    · rw [hNew]
      exact hOk.accepted
  · rw [if_neg hAbsent] at h
    cases h

theorem take_moves (hs : outline.Holds s) (h : s.takeStep = some s') :
    outline.Moves none s s' := by
  have hFlow := hs.1
  unfold Session.takeStep at h
  cases hConsumer : s.consumer with
  | waiting =>
    cases hQueue : s.queue with
    | nil =>
      rw [hConsumer, hQueue] at h
      cases h
    | cons item rest =>
      rw [hConsumer, hQueue] at h
      cases h
      have hLonger : s.queue.length = rest.length + 1 := by rw [hQueue, List.length_cons]
      have hOrder : s.history.map Prod.snd = (s.delivered ++ [item]) ++ rest := by
        rw [hFlow.order, hQueue, List.append_assoc]
        rfl
      refine moves_loop rfl rfl ⟨rfl, rfl, rfl, rfl, by dsimp only; omega⟩
        ⟨hOrder, hFlow.last, ?_, ?_, fun hFree => ?_⟩
      · have hBound := hFlow.bound
        dsimp only
        omega
      · intro hEnded
        dsimp only at hEnded ⊢
        -- the close event is the last one, so that nothing waits behind it
        have hClose : item.isClose = true := by
          by_contra hData
          rw [if_neg hData] at hEnded
          cases hEnded
        obtain ⟨pre, back, hHistory, -, hBack⟩ := List.map_eq_append_iff.mp
          (hOrder.trans (List.append_assoc ..))
        obtain ⟨put, post, rfl, hPut, hPost⟩ := List.map_eq_cons_iff.mp hBack
        have hLast := hFlow.last pre put post hHistory (hPut ▸ hClose)
        rw [hLast.2] at hPost
        cases hPost
        exact ⟨hLast.1, nofun⟩
      · exact (hFlow.settled hFree).frozen ⟨rfl, rfl, rfl, rfl, by dsimp only; omega⟩
  | timedOut => rw [hConsumer] at h; cases h
  | ended => rw [hConsumer] at h; cases h
  | gone => rw [hConsumer] at h; cases h

theorem consumer_moves (hs : outline.Holds s) {consumer : Consumer}
    (hDry : consumer = .ended → s.closed = true ∧ ∀ item ∈ s.queue, item.isClose = true) :
    outline.Moves none s { s with consumer := consumer } := by
  have hSame : Frozen s { s with consumer := consumer } := ⟨rfl, rfl, rfl, rfl, Nat.le_refl _⟩
  exact moves_loop rfl rfl hSame ⟨hs.1.order, hs.1.last, hs.1.bound, hDry,
    fun hFree => (hs.1.settled hFree).frozen hSame⟩

/-- The look at `closed` comes when nothing but a close is queued. -/
abbrev Patient (s : Session) (label : Label) : Prop :=
  label = .look → s.closed = true → ∀ item ∈ s.queue, item.isClose = true

theorem step_moves (hs : outline.Holds s) {label : Label} (hPatient : Patient s label)
    (h : s.step label = some s') : ∃ actor, outline.Moves actor s s' := by
  cases label with
  | send_text t text => exact ⟨_, spawn_moves hs h rfl trivial rfl id⟩
  | send_ping t => exact ⟨_, spawn_moves hs h rfl rfl rfl id⟩
  | close t code reason => exact ⟨_, spawn_moves hs h rfl trivial rfl id⟩
  | call t => exact ⟨_, call_moves hs h⟩
  | take => exact ⟨_, take_moves hs h⟩
  | timeout =>
    unfold Session.step Session.timeoutStep at h
    dsimp only at h
    split at h
    · cases h
      exact ⟨_, consumer_moves hs nofun⟩
    · cases h
  | look =>
    unfold Session.step Session.lookStep at h
    dsimp only at h
    split at h
    · cases h
      refine ⟨_, consumer_moves hs fun hEnded => ?_⟩
      have hClosed : s.closed = true := by
        by_contra hOpen
        rw [if_neg hOpen] at hEnded
        cases hEnded
      exact ⟨hClosed, hPatient rfl hClosed⟩
    · cases h
  | abandon =>
    unfold Session.step at h
    dsimp only at h
    split at h
    · cases h
    · cases h
      exact ⟨_, consumer_moves hs nofun⟩

/-! ## Runs -/

theorem outline_new : outline.Holds Session.new := by
  have hOpen : Open Session.new := ⟨rfl, rfl, nofun, Nat.zero_le _⟩
  refine ⟨⟨rfl, ?_, Nat.zero_le _, nofun, fun _ => Or.inl hOpen⟩, fun actor t hActor => ?_⟩
  · intro pre put post hHistory
    exact absurd hHistory.symm (by simp [Session.new])
  · subst hActor
    exact ⟨iff_of_false Bool.false_ne_true nofun, trivial, rfl, rfl⟩

theorem outline_run {labels : List Label}
    (hRun : StepRun.run (StepRun.guarded Patient Session.step) .new labels = some s) :
    outline.Holds s := by
  refine (RelyGuarantee.invariant outline_stable ?_).run outline_new hRun
  intro s label s' hs hStep
  obtain ⟨hPatient, hStep⟩ := StepRun.guarded_eq_some.mp hStep
  exact step_moves hs hPatient hStep

theorem closed_step (hs : outline.Holds s) (hClosed : s.closed = true) {label : Label}
    (h : s.step label = some s') : s'.closed = true ∧ s'.accepted = s.accepted := by
  have hSpawn : ∀ t pc, s.spawn t pc = some s' → s'.closed = true ∧ s'.accepted = s.accepted := by
    intro t pc h
    unfold Session.spawn at h
    split at h
    · cases h
      exact ⟨hClosed, rfl⟩
    · cases h
  cases label with
  | send_text t text => exact hSpawn _ _ h
  | send_ping t => exact hSpawn _ _ h
  | close t code reason => exact hSpawn _ _ h
  | call t =>
    have hKnows := (hs.2 (some t) t rfl).knows
    change PcOk s (s.calls t) at hKnows
    unfold Session.step Session.callStep at h
    dsimp only at h
    generalize s.calls t = pc at h hKnows
    cases pc with
    | absent => cases h
    | waits job =>
      dsimp only at h
      split at h
      · cases h
        exact ⟨hClosed, rfl⟩
      · cases h
    | holds job => cases job <;> cases h <;> exact ⟨hClosed, rfl⟩
    | puts item =>
      have hOpen : Open s := hKnows.1.1
      exact absurd (hOpen.closed.symm.trans hClosed) Bool.false_ne_true
    | marks closing =>
      cases h
      exact ⟨rfl, rfl⟩
    | queues closing =>
      cases h
      refine ⟨hClosed, ?_⟩
      change (s.history ++ [(t, Event.close s.close_code closing.reason)]).filter _ = _
      rw [List.filter_append]
      exact List.append_nil _
    | done => cases h
    | _ =>
      cases h
      exact ⟨hClosed, rfl⟩
  | take =>
    unfold Session.step Session.takeStep at h
    dsimp only at h
    split at h
    · cases h
      exact ⟨hClosed, rfl⟩
    · cases h
  | timeout =>
    unfold Session.step Session.timeoutStep at h
    dsimp only at h
    split at h
    · cases h
      exact ⟨hClosed, rfl⟩
    · cases h
  | look =>
    unfold Session.step Session.lookStep at h
    dsimp only at h
    split at h
    · cases h
      exact ⟨hClosed, rfl⟩
    · cases h
  | abandon =>
    unfold Session.step at h
    dsimp only at h
    split at h
    · cases h
    · cases h
      exact ⟨hClosed, rfl⟩

/-- What was put into the queue is what was yielded and what waits, in this order; each call that
returned has put its event there, once; each send that was refused has found the session closed, or
closed it as a slow consumer; behind the close event stands nothing, and it carries what the close
said that came first; and when the loop is over, nothing is left but the close event. -/
structure Delivers (s : Session) : Prop where
  order : s.history.map Prod.snd = s.delivered ++ s.queue
  returned : ∀ t, s.acceptedBy t = (s.calls t).accepted.toList
  refused : ∀ t, s.calls t = .done .refused →
    s.closed = true ∧ ∀ item ∈ s.closedBy t, item = slowConsumer
  last : ∀ pre put post, s.history = pre ++ put :: post → put.2.isClose = true → post = []
  closed : s.closed = true → s.lock = none → Closed s
  bound : s.queue.length ≤ REALTIME_QUEUE_LIMIT + 1
  complete : s.consumer = .ended → ∀ item ∈ s.queue, item.isClose = true

/-- As long as the loop never takes a session for closed while an accepted event waits, every event
is delivered, and a session that reads as closed accepts no other. -/
theorem session_delivers {labels more : List Label}
    (hRun : StepRun.run (StepRun.guarded Patient Session.step) .new labels = some s)
    (hMore : StepRun.run (StepRun.guarded Patient Session.step) s more = some s') :
    Delivers s ∧ (s.closed = true → s'.accepted = s.accepted) := by
  have hs := outline_run hRun
  constructor
  · refine ⟨hs.1.order, fun t => (hs.2 (some t) t rfl).accepted, ?_, ?_, ?_, hs.1.bound, ?_⟩
    · intro t hDone
      have hCloses : Closes s t (s.calls t) := (hs.2 (some t) t rfl).closes
      rw [hDone] at hCloses
      exact hCloses
    · intro pre put post hHistory hClose
      exact (hs.1.last pre put post hHistory hClose).2
    · intro hClosed hFree
      refine (hs.1.settled hFree).resolve_left fun hOpen => ?_
      exact absurd (hOpen.closed.symm.trans hClosed) Bool.false_ne_true
    · exact fun hEnded => (hs.1.dry hEnded).2
  · intro hClosed
    have hKept : StepRun.Invariant (StepRun.guarded Patient Session.step) fun u =>
        outline.Holds u ∧ u.closed = true ∧ u.accepted = s.accepted := by
      rintro u label u' ⟨hu, huClosed, hSame⟩ hStep
      obtain ⟨hPatient, hStep⟩ := StepRun.guarded_eq_some.mp hStep
      obtain ⟨actor, hMoves⟩ := step_moves hu hPatient hStep
      obtain ⟨hNext, hAccepted⟩ := closed_step hu huClosed hStep
      exact ⟨hMoves.holds outline_stable hu, hNext, hAccepted.trans hSame⟩
    exact (hKept.run ⟨hs, hClosed, rfl⟩ hMore).2.2

def sentAndClosed : List Label :=
  [.send_text 0 "alert", .call 0, .call 0, .call 0, .call 0, .call 0, .call 0,
    .close 1 1001 "going away", .call 1, .call 1, .call 1, .call 1, .call 1, .call 1]

theorem session_delivers_sentAndClosed : ∃ s, StepRun.run (StepRun.guarded Patient Session.step)
    .new (sentAndClosed ++ [.take, .take]) = some s ∧ Delivers s := by
  refine ⟨_, rfl, ?_⟩
  exact (@session_delivers _ _ (sentAndClosed ++ [.take, .take]) [] rfl rfl).1

/-- The loop has waited in vain, an event is accepted and the session closes, and the loop looks. -/
theorem accepted_event_lost : ¬ ∀ (labels : List Label) (s : Session),
    StepRun.run Session.step .new labels = some s → Delivers s := by
  intro h
  have hLost := (h (.timeout :: (sentAndClosed ++ [.look])) _ rfl).complete rfl (.data "alert")
    List.mem_cons_self
  cases hLost

end Sniff4Hound.Realtime
