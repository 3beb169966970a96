import Sniff4Hound.History.Ledger

/-!
# Flushing after every observation

Two recorders that are fed the same observations, one of which flushes after each of them,
remember the same and write the same log as long as neither counts anything as dropped
(`Twin`). The recorder that flushes more has fewer pending rows, so it is enough that the other
one has room (`Twin.add_dns`, `Twin.add_arp`).
-/

namespace Sniff4Hound.History

variable {T : Type} [LinearOrder T]

/-! ## With room for everything -/

namespace Recorder

def raise {T : Type} (s : Recorder T) (es : List (ArpEvent T)) : Recorder T :=
  { s with events := s.events ++ es, log := s.log ++ es.map (.event true) }

theorem foldl_event_of_room {T : Type} {s : Recorder T} {es : List (ArpEvent T)}
    (h : s.events.length + es.length ≤ s.max_pending) : es.foldl event s = s.raise es := by
  induction es generalizing s with
  | nil => simp [raise]
  | cons e rest ih =>
    rw [List.length_cons] at h
    have hRoom : ¬ s.max_pending ≤ s.events.length := by omega
    rw [List.foldl_cons, event, if_neg hRoom, ih (by simp; omega)]
    simp [raise]

theorem dropped_foldl_event {T : Type} (s : Recorder T) (es : List (ArpEvent T)) :
    (es.foldl event s).counters.dropped =
      s.counters.dropped + (s.events.length + es.length - max s.events.length s.max_pending) := by
  induction es generalizing s with
  | nil => simp
  | cons e rest ih =>
    rw [List.foldl_cons, ih, event]
    split
    · simp only [drop, List.length_cons]
      omega
    · simp only [List.length_append, List.length_cons, List.length_nil]
      omega

theorem room_of_foldl_event {T : Type} {s : Recorder T} {es : List (ArpEvent T)}
    (hBound : s.events.length ≤ s.max_pending)
    (h : (es.foldl event s).counters.dropped = s.counters.dropped) :
    s.events.length + es.length ≤ s.max_pending := by
  rw [dropped_foldl_event, max_eq_right hBound] at h
  omega

def due {T : Type} (s : Recorder T) (obs : ArpObservation) (now : ℚ) : Bool :=
  obs.mismatch != "" && match s.mismatch_at.lookup obs.key with
    | none => true
    | some last => decide (MISMATCH_EVENT_INTERVAL_SECONDS ≤ now - last)

def raised (s : Recorder T) (obs : ArpObservation) (observed_at : T) (now : ℚ) :
    List (ArpEvent T) :=
  s.memory.changes obs observed_at ++
    if s.due obs now then [obs.event .mac_mismatch observed_at "" "" obs.mismatch] else []

def noted {T : Type} (s : Recorder T) (obs : ArpObservation) (now : ℚ) : Dict ArpKey ℚ :=
  if s.due obs now then
    if s.max_pending < (s.mismatch_at.set obs.key now).length then []
    else s.mismatch_at.set obs.key now
  else s.mismatch_at

omit [LinearOrder T] in
theorem mismatch_event_eq (s : Recorder T) (obs : ArpObservation) (observed_at : T) (now : ℚ) :
    s.mismatch_event obs observed_at now =
      { (if s.due obs now then [obs.event .mac_mismatch observed_at "" "" obs.mismatch]
          else []).foldl event s with
        mismatch_at := s.noted obs now } := by
  by_cases hMismatch : obs.mismatch = ""
  · simp [mismatch_event, due, noted, hMismatch]
  · cases hLast : s.mismatch_at.lookup obs.key with
    | none => simp [mismatch_event, mismatch_event.raised, due, noted, hMismatch, hLast]
    | some last =>
      by_cases hDue : MISMATCH_EVENT_INTERVAL_SECONDS ≤ now - last
      · simp [mismatch_event, mismatch_event.raised, due, noted, hMismatch, hLast, hDue]
      · simp [mismatch_event, due, noted, hMismatch, hLast, hDue]

theorem foldl_event_frame {T : Type} (s : Recorder T) (es : List (ArpEvent T)) :
    ∃ events counters log,
      es.foldl event s = { s with events := events, counters := counters, log := log } := by
  induction es generalizing s with
  | nil => exact ⟨_, _, _, rfl⟩
  | cons e rest ih =>
    rw [List.foldl_cons, event]
    split
    · obtain ⟨events, counters, log, hRest⟩ := ih (s.drop (.event false e))
      exact ⟨events, counters, log, hRest⟩
    · obtain ⟨events, counters, log, hRest⟩ := ih
        { s with events := s.events ++ [e], log := s.log ++ [.event true e] }
      exact ⟨events, counters, log, hRest⟩

def RoomFor {T : Type} (s : Recorder T) (obs : ArpObservation) : Prop :=
  (s.arp.rows.lookup obs.key).isSome ∨ s.arp.rows.length < s.max_pending

def counted (s : Recorder T) (obs : ArpObservation) (observed_at : T) : Recorder T :=
  { s with
    arp := s.arp.set obs.key
      (((s.arp.rows.lookup obs.key).getD (.new obs observed_at)).add obs observed_at)
    counters := { s.counters with arp := s.counters.arp + 1 }
    log := s.log ++ [.arp true obs observed_at] }

def accept (s : Recorder T) (obs : ArpObservation) (observed_at : T) (now : ℚ) : Recorder T :=
  { (s.raised obs observed_at now).foldl event (s.counted obs observed_at) with
    mismatch_at := s.noted obs now
    memory := s.memory.learn obs.key }

theorem told_eq (s : Recorder T) (obs : ArpObservation) (observed_at : T) (now : ℚ) :
    { ((s.memory.changes obs observed_at).foldl event
        (s.counted obs observed_at)).mismatch_event obs observed_at now with
      memory := (((s.memory.changes obs observed_at).foldl event
        (s.counted obs observed_at)).mismatch_event obs observed_at now).memory.learn obs.key } =
      s.accept obs observed_at now := by
  obtain ⟨events, counters, log, hChanges⟩ :=
    foldl_event_frame (s.counted obs observed_at) (s.memory.changes obs observed_at)
  obtain ⟨events', counters', log', hAll⟩ :=
    foldl_event_frame (s.counted obs observed_at) (s.raised obs observed_at now)
  have hDue : due ((s.memory.changes obs observed_at).foldl event (s.counted obs observed_at)) obs
      now = s.due obs now := by
    rw [hChanges]
    rfl
  have hNoted : noted ((s.memory.changes obs observed_at).foldl event (s.counted obs observed_at))
      obs now = s.noted obs now := by
    rw [hChanges]
    rfl
  rw [accept, mismatch_event_eq, hDue, hNoted, ← List.foldl_append]
  change _ = { (s.raised obs observed_at now).foldl event (s.counted obs observed_at) with
    mismatch_at := s.noted obs now, memory := s.memory.learn obs.key }
  rw [← raised, hAll]
  rfl

variable {s : Recorder T} {obs : ArpObservation}

theorem add_arp_of_roomFor (observed_at : T) (now : ℚ) (answers : Bool)
    (h : (s.load_arp_state answers).RoomFor obs) :
    s.add_arp obs observed_at now answers =
      (s.load_arp_state answers).accept obs observed_at now := by
  rw [← told_eq]
  unfold add_arp
  dsimp only
  split
  · rename_i row hFound
    rw [counted, hFound]
    rfl
  · rename_i hAbsent
    rw [RoomFor, hAbsent] at h
    have hRoom := h.resolve_left (by simp)
    rw [if_neg (Nat.not_le.mpr hRoom), counted, hAbsent]
    rfl

theorem add_arp_of_full (observed_at : T) (now : ℚ) (answers : Bool)
    (h : ¬ (s.load_arp_state answers).RoomFor obs) :
    s.add_arp obs observed_at now answers =
      (s.load_arp_state answers).drop (.arp false obs observed_at) := by
  rw [RoomFor, not_or, Option.not_isSome_iff_eq_none, Nat.not_lt] at h
  unfold add_arp
  dsimp only
  rw [h.1]
  exact if_pos h.2

theorem accept_of_room {observed_at : T} {now : ℚ}
    (h : s.events.length + (s.raised obs observed_at now).length ≤ s.max_pending) :
    s.accept obs observed_at now =
      { (s.counted obs observed_at).raise (s.raised obs observed_at now) with
        mismatch_at := s.noted obs now
        memory := s.memory.learn obs.key } := by
  have hFold : (s.raised obs observed_at now).foldl event (s.counted obs observed_at) =
      (s.counted obs observed_at).raise (s.raised obs observed_at now) := foldl_event_of_room h
  rw [accept, hFold]

theorem load_frame (s : Recorder T) (answers : Bool) :
    s.load_arp_state answers =
      { s with arp_ready := true, memory := (s.load_arp_state answers).memory } := by
  unfold load_arp_state
  split
  · rename_i hReady
    rw [← hReady]
  · split <;> rfl

theorem room_of_add_arp {observed_at : T} {now : ℚ} {answers : Bool}
    (hBound : s.events.length ≤ s.max_pending)
    (h : (s.add_arp obs observed_at now answers).counters.dropped = s.counters.dropped) :
    (s.load_arp_state answers).RoomFor obs ∧
      s.events.length + ((s.load_arp_state answers).raised obs observed_at now).length ≤
        s.max_pending := by
  have hFrame := s.load_frame answers
  by_cases hRoom : (s.load_arp_state answers).RoomFor obs
  · refine ⟨hRoom, ?_⟩
    rw [add_arp_of_roomFor _ _ _ hRoom, accept] at h
    have hCounted : ((s.load_arp_state answers).counted obs observed_at).counters.dropped =
        s.counters.dropped := by
      rw [counted, hFrame]
    have hEvents : ((s.load_arp_state answers).counted obs observed_at).events = s.events := by
      rw [counted, hFrame]
    have hMax : ((s.load_arp_state answers).counted obs observed_at).max_pending =
        s.max_pending := by
      rw [counted, hFrame]
    rw [← hCounted] at h
    have hLength := room_of_foldl_event (by rw [hEvents, hMax]; exact hBound) h
    rwa [hEvents, hMax] at hLength
  · rw [add_arp_of_full _ _ _ hRoom, drop] at h
    have hLoad : (s.load_arp_state answers).counters = s.counters := by rw [hFrame]
    rw [hLoad] at h
    change s.counters.dropped + 1 = s.counters.dropped at h
    omega

/-! ## What a DNS observation does -/

theorem add_dns_cases (s : Recorder T) (obs : DnsObservation) (observed_at : T) :
    (s.add_dns obs observed_at = s.drop (.dns false obs observed_at) ∧
      s.dns.rows.lookup obs.key = none ∧ s.max_pending ≤ s.dns.rows.length) ∨
    ((s.dns.rows.lookup obs.key).isSome ∨ s.dns.rows.length < s.max_pending) ∧
      ∃ row, s.add_dns obs observed_at =
        { s with
          dns := s.dns.set obs.key row
          counters := { s.counters with dns := s.counters.dns + 1 }
          log := s.log ++ [.dns true obs observed_at] } := by
  unfold add_dns
  dsimp only
  split
  · rename_i row hFound
    exact Or.inr ⟨Or.inl (by rw [hFound]; rfl), _, rfl⟩
  · rename_i hAbsent
    split
    · rename_i hFull
      exact Or.inl ⟨rfl, hAbsent, hFull⟩
    · rename_i hRoom
      exact Or.inr ⟨Or.inr (Nat.lt_of_not_le hRoom), _, rfl⟩

/-! ## Invariants of the pending rows -/

structure Bounded {T : Type} (s : Recorder T) : Prop where
  dns : s.dns.rows.length ≤ s.max_pending
  arp : s.arp.rows.length ≤ s.max_pending
  events : s.events.length ≤ s.max_pending

/-- As long as the bindings are unread the table has not changed. -/
def Fresh {T : Type} (store : HistoryStore T) (s : Recorder T) : Prop :=
  s.arp_ready = false →
    s.store.arp_bindings = store.arp_bindings ∧ s.outstanding.arp = []

theorem length_set_le {κ ν : Type} [DecidableEq κ] {d : Keyed κ ν} {k : κ} {v : ν} {limit : Nat}
    (hBound : d.rows.length ≤ limit)
    (hRoom : (d.rows.lookup k).isSome ∨ d.rows.length < limit) :
    (d.set k v).rows.length ≤ limit := by
  rw [Keyed.set, Dict.length_set]
  split
  · exact hBound
  · rename_i hAbsent
    exact hRoom.resolve_left hAbsent

theorem Bounded.foldl_event {T : Type} {s : Recorder T} (h : s.Bounded) (es : List (ArpEvent T)) :
    (es.foldl event s).Bounded := by
  induction es generalizing s with
  | nil => exact h
  | cons e rest ih =>
    rw [List.foldl_cons]
    refine ih ?_
    rw [event]
    split
    · exact ⟨h.dns, h.arp, h.events⟩
    · rename_i hRoom
      refine ⟨h.dns, h.arp, ?_⟩
      rw [List.length_append]
      exact Nat.lt_of_not_le hRoom

theorem Bounded.add_dns (h : s.Bounded) (obs : DnsObservation) (observed_at : T) :
    (s.add_dns obs observed_at).Bounded := by
  rcases s.add_dns_cases obs observed_at with ⟨hDrop, -, -⟩ | ⟨hRoom, row, hAccept⟩
  · rw [hDrop]
    exact ⟨h.dns, h.arp, h.events⟩
  · rw [hAccept]
    exact ⟨length_set_le h.dns hRoom, h.arp, h.events⟩

theorem Bounded.add_arp (h : s.Bounded) (obs : ArpObservation) (observed_at : T) (now : ℚ)
    (answers : Bool) : (s.add_arp obs observed_at now answers).Bounded := by
  have hLoad : (s.load_arp_state answers).Bounded := by
    rw [load_frame]
    exact ⟨h.dns, h.arp, h.events⟩
  by_cases hRoom : (s.load_arp_state answers).RoomFor obs
  · have hCounted : ((s.load_arp_state answers).counted obs observed_at).Bounded :=
      ⟨hLoad.dns, length_set_le hLoad.arp hRoom, hLoad.events⟩
    have hFold := hCounted.foldl_event ((s.load_arp_state answers).raised obs observed_at now)
    rw [add_arp_of_roomFor _ _ _ hRoom]
    exact ⟨hFold.dns, hFold.arp, hFold.events⟩
  · rw [add_arp_of_full _ _ _ hRoom]
    exact ⟨hLoad.dns, hLoad.arp, hLoad.events⟩

theorem Fresh.add_dns {store : HistoryStore T} (h : s.Fresh store) (obs : DnsObservation)
    (observed_at : T) : (s.add_dns obs observed_at).Fresh store := by
  rcases s.add_dns_cases obs observed_at with ⟨hDrop, -, -⟩ | ⟨-, row, hAccept⟩
  · rw [hDrop]
    exact h
  · rw [hAccept]
    exact h

theorem Fresh.take {T : Type} {store : HistoryStore T} {s : Recorder T} (h : s.Fresh store)
    (hNone : s.writing = none) : s.take.Fresh store := by
  intro hReady
  obtain ⟨hStore, hOutstanding⟩ := h hReady
  refine ⟨hStore, ?_⟩
  simp only [outstanding, hNone, Option.getD, Batch.append, Batch.empty, pending,
    List.nil_append, List.append_eq_nil_iff] at hOutstanding
  simp [outstanding, Recorder.take, Batch.append, Batch.empty, Keyed.empty, pending, hOutstanding]

theorem Fresh.write {store : HistoryStore T} {b : Batch T} (h : s.Fresh store)
    (hWriting : s.writing = some b) (ok : Bool) : (s.write b ok).Fresh store := by
  have hKeep (hReady : s.arp_ready = false) :
      s.store.arp_bindings = store.arp_bindings ∧ b.arp = [] ∧ s.retry.arp = [] ∧
        s.arp.rows = [] := by
    obtain ⟨hStore, hOutstanding⟩ := h hReady
    simp only [outstanding, hWriting, Option.getD, Batch.append, pending,
      List.append_eq_nil_iff] at hOutstanding
    exact ⟨hStore, hOutstanding.1.1, hOutstanding.1.2, hOutstanding.2⟩
  intro hReady
  unfold Recorder.write at hReady ⊢
  split at hReady
  · obtain ⟨hStore, -, hRetry, hPending⟩ := hKeep hReady
    rename_i hEmpty
    rw [if_pos hEmpty]
    exact ⟨hStore, by simp [outstanding, Batch.append, Batch.empty, pending, hRetry, hPending]⟩
  · rename_i hEmpty
    rw [if_neg hEmpty]
    split at hReady
    · obtain ⟨hStore, hBatch, hRetry, hPending⟩ := hKeep hReady
      rename_i hOk
      rw [if_pos hOk]
      refine ⟨?_, by simp [outstanding, Batch.append, Batch.empty, pending, hRetry, hPending]⟩
      simp only [HistoryStore.write_history, hBatch, List.foldl_nil]
      exact hStore
    · obtain ⟨hStore, hBatch, -, hPending⟩ := hKeep hReady
      rename_i hOk
      rw [if_neg hOk]
      refine ⟨hStore, ?_⟩
      simp [outstanding, Batch.append, Batch.empty, Batch.truncate, Batch.lastRows, pending, hBatch,
        hPending]

end Recorder

/-! ## Two recorders with the same observations -/

structure Twin {T : Type} (s e : Recorder T) : Prop where
  ready : s.arp_ready = e.arp_ready
  memory : s.memory = e.memory
  mismatch_at : s.mismatch_at = e.mismatch_at
  max_pending : s.max_pending = e.max_pending
  log : s.log = e.log

def Recorder.Idle {T : Type} (e : Recorder T) : Prop := e.pending = .empty

theorem Recorder.Idle.rows {T : Type} {e : Recorder T} (h : e.Idle) :
    e.dns.rows = [] ∧ e.arp.rows = [] ∧ e.events = [] := by
  simpa only [Recorder.Idle, Recorder.pending, Batch.empty, Batch.mk.injEq] using h

variable {s e : Recorder T}

theorem Twin.add_dns (h : Twin s e) (hBounded : s.Bounded) (hIdle : e.Idle) (obs : DnsObservation)
    (observed_at : T) (hRoom : (s.add_dns obs observed_at).counters.dropped = s.counters.dropped) :
    Twin (s.add_dns obs observed_at) (e.add_dns obs observed_at) ∧
      (e.add_dns obs observed_at).counters.dropped = e.counters.dropped := by
  have hPositive : 0 < s.max_pending := by
    rcases s.add_dns_cases obs observed_at with ⟨hDrop, -, -⟩ | ⟨hFound | hLess, -⟩
    · rw [hDrop] at hRoom
      exact absurd hRoom (Nat.succ_ne_self _)
    · have hLength : 0 < s.dns.rows.length := by
        refine List.length_pos_iff.mpr fun hNil => ?_
        rw [hNil] at hFound
        cases hFound
      exact Nat.lt_of_lt_of_le hLength hBounded.dns
    · exact Nat.zero_lt_of_lt hLess
  rcases s.add_dns_cases obs observed_at with ⟨hDrop, -, -⟩ | ⟨-, row, hAccept⟩
  · rw [hDrop] at hRoom
    exact absurd hRoom (Nat.succ_ne_self _)
  · rcases e.add_dns_cases obs observed_at with ⟨-, -, hFull⟩ | ⟨-, row', hAccept'⟩
    · rw [hIdle.rows.1, ← h.max_pending, List.length_nil] at hFull
      omega
    · rw [hAccept, hAccept']
      exact ⟨⟨h.ready, h.memory, h.mismatch_at, h.max_pending,
        congrArg (· ++ [.dns true obs observed_at]) h.log⟩, rfl⟩

variable {store : HistoryStore T}

theorem Twin.load (h : Twin s e) (hFresh : s.Fresh store) (hFresh' : e.Fresh store)
    (answers : Bool) :
    Twin (s.load_arp_state answers) (e.load_arp_state answers) := by
  unfold Recorder.load_arp_state
  rw [← h.ready]
  split
  · exact h
  · rename_i hReady
    have hReady : s.arp_ready = false := Bool.eq_false_iff.mpr hReady
    have hPairs : s.store.arp_known_pairs ARP_STATE_LIMIT =
        e.store.arp_known_pairs ARP_STATE_LIMIT := by
      rw [HistoryStore.arp_known_pairs, HistoryStore.arp_known_pairs, (hFresh hReady).1,
        (hFresh' (h.ready.symm.trans hReady)).1]
    split
    · refine ⟨rfl, ?_, h.mismatch_at, h.max_pending, h.log⟩
      change List.foldl _ s.memory _ = List.foldl _ e.memory _
      rw [hPairs, h.memory]
    · exact ⟨rfl, h.memory, h.mismatch_at, h.max_pending, h.log⟩

theorem Twin.due {T : Type} {s e : Recorder T} (h : Twin s e) (obs : ArpObservation) (now : ℚ) :
    s.due obs now = e.due obs now := by
  rw [Recorder.due, Recorder.due, h.mismatch_at]

theorem Twin.raised {T : Type} {s e : Recorder T} (h : Twin s e) (obs : ArpObservation)
    (observed_at : T) (now : ℚ) : s.raised obs observed_at now = e.raised obs observed_at now := by
  rw [Recorder.raised, Recorder.raised, h.memory, h.due]

theorem Twin.noted {T : Type} {s e : Recorder T} (h : Twin s e) (obs : ArpObservation) (now : ℚ) :
    s.noted obs now = e.noted obs now := by
  rw [Recorder.noted, Recorder.noted, h.due, h.mismatch_at, h.max_pending]

theorem Twin.add_arp (h : Twin s e) (hBounded : s.Bounded) (hIdle : e.Idle) (hFresh : s.Fresh store)
    (hFresh' : e.Fresh store) (obs : ArpObservation) (observed_at : T) (now : ℚ) (answers : Bool)
    (hRoom : (s.add_arp obs observed_at now answers).counters.dropped = s.counters.dropped) :
    Twin (s.add_arp obs observed_at now answers) (e.add_arp obs observed_at now answers) ∧
      (e.add_arp obs observed_at now answers).counters.dropped = e.counters.dropped := by
  have hLoad := h.load hFresh hFresh' answers
  have hFrame := s.load_frame answers
  have hFrame' := e.load_frame answers
  obtain ⟨hRow, hEvents⟩ := Recorder.room_of_add_arp hBounded.events hRoom
  have hPositive : 0 < e.max_pending := by
    rw [← h.max_pending]
    rcases hRow with hFound | hLess
    · have hLength : 0 < (s.load_arp_state answers).arp.rows.length := by
        refine List.length_pos_iff.mpr fun hNil => ?_
        rw [hNil] at hFound
        cases hFound
      rw [hFrame] at hLength
      exact Nat.lt_of_lt_of_le hLength hBounded.arp
    · rw [hFrame] at hLess
      exact Nat.zero_lt_of_lt hLess
  have hRow' : (e.load_arp_state answers).RoomFor obs := by
    refine Or.inr ?_
    rw [hFrame']
    change e.arp.rows.length < e.max_pending
    rw [hIdle.rows.2.1]
    exact hPositive
  have hEvents' : (e.load_arp_state answers).events.length +
      ((e.load_arp_state answers).raised obs observed_at now).length ≤
        (e.load_arp_state answers).max_pending := by
    have hNone : (e.load_arp_state answers).events = [] := by
      rw [hFrame']
      exact hIdle.rows.2.2
    rw [← hLoad.raised, ← hLoad.max_pending, hNone, hFrame, List.length_nil]
    rw [hFrame] at hEvents
    exact Nat.le_trans (Nat.add_le_add_right (Nat.zero_le _) _) hEvents
  have hEvents : (s.load_arp_state answers).events.length +
      ((s.load_arp_state answers).raised obs observed_at now).length ≤
        (s.load_arp_state answers).max_pending := by
    have hSame : (s.load_arp_state answers).events = s.events := by rw [hFrame]
    have hMax : (s.load_arp_state answers).max_pending = s.max_pending := by rw [hFrame]
    rw [hSame, hMax]
    exact hEvents
  rw [Recorder.add_arp_of_roomFor _ _ _ hRow, Recorder.add_arp_of_roomFor _ _ _ hRow',
    Recorder.accept_of_room hEvents, Recorder.accept_of_room hEvents']
  refine ⟨⟨hLoad.ready, ?_, hLoad.noted obs now, hLoad.max_pending, ?_⟩, ?_⟩
  · exact congrArg (ArpMemory.learn · obs.key) hLoad.memory
  · change ((s.load_arp_state answers).log ++ [.arp true obs observed_at]) ++ _ =
      ((e.load_arp_state answers).log ++ [.arp true obs observed_at]) ++ _
    rw [hLoad.log, hLoad.raised]
  · change (e.load_arp_state answers).counters.dropped = e.counters.dropped
    rw [hFrame']

/-! ## The run that flushes every time -/

def Observed.singles {T : Type} (config : HistoryConfig) (packet : Observed T) :
    List (Observed T) :=
  (if config.dns_enabled then packet.dns else []).map
      (fun obs => ⟨packet.observed_at, [obs], none⟩) ++
    (if config.arp_enabled then packet.arp else none).toList.map
      fun obs => ⟨packet.observed_at, [], some obs⟩

structure Paired (store : HistoryStore T) (s e : Recorder T) : Prop where
  twin : Twin s e
  bounded : s.Bounded
  fresh : s.Fresh store
  flushed : e.Flushed
  fresh' : e.Fresh store

end Sniff4Hound.History
