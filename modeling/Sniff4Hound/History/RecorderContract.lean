import Sniff4Hound.History.Eager

/-!
# What the recorder guarantees

Where the flushes come in a run makes no difference to the tables (`flush_anywhere`), and every
observation is stored, outstanding or counted as dropped (`recorder_accounts`). The second needs
that no failed batch is longer than what the retry batch keeps: what is cut off there is counted
nowhere (`recorder_loses`).

* `memory_bounded`: however many flushes fail, the rows held stay bounded.
-/

namespace Sniff4Hound.History

variable {T : Type} [LinearOrder T] {store : HistoryStore T} {max_pending : Nat}
  {ls : List (Label T)} {s : Recorder T}

/-! ## Where the flushes come -/

omit [LinearOrder T] in
theorem Paired.flush {s s' e : Recorder T} (h : Paired store s e)
    (hSame : s'.arp_ready = s.arp_ready ∧ s'.memory = s.memory ∧ s'.mismatch_at = s.mismatch_at ∧
      s'.max_pending = s.max_pending ∧ s'.log = s.log)
    (hBounded : s'.Bounded) (hFresh : s'.Fresh store) : Paired store s' e := by
  obtain ⟨hReady, hMemory, hMismatch, hMax, hLog⟩ := hSame
  exact ⟨⟨hReady.trans h.twin.ready, hMemory.trans h.twin.memory,
    hMismatch.trans h.twin.mismatch_at, hMax.trans h.twin.max_pending, hLog.trans h.twin.log⟩,
    hBounded, hFresh, h.flushed, h.fresh'⟩

theorem write_eq (s : Recorder T) (b : Batch T) (ok : Bool) :
    ∃ store counters retry, s.write b ok =
      { s with store := store, counters := counters, retry := retry, writing := none } ∧
        counters.dropped = s.counters.dropped := by
  unfold Recorder.write
  split
  · exact ⟨_, _, _, rfl, rfl⟩
  · split
    · exact ⟨_, _, _, rfl, rfl⟩
    · exact ⟨_, _, _, rfl, rfl⟩

def flushNow {T : Type} : List (Label T) := [.take, .write true]

theorem flushed_of_flushNow {s t : Recorder T} (hRun : StepRun.run step t flushNow = some s) :
    s.Flushed := by
  obtain ⟨u, hTake, hWrite⟩ := Option.bind_eq_some_iff.mp ((StepRun.run_cons ..).symm.trans hRun)
  obtain ⟨v, hWrite, hEnd⟩ := Option.bind_eq_some_iff.mp ((StepRun.run_cons ..).symm.trans hWrite)
  cases hEnd
  rw [step] at hTake
  split at hTake
  · cases hTake
    rw [step] at hWrite
    obtain ⟨b, -, rfl⟩ := Option.map_eq_some_iff.mp hWrite
    unfold Recorder.write
    split
    · exact ⟨rfl, rfl, rfl⟩
    · exact ⟨rfl, rfl, rfl⟩
  · cases hTake

def lookupQuery : DnsObservation :=
  ⟨"example.com", "A", "", false, "NOERROR", none, "dns", "udp", "10.0.0.2", "10.0.0.1", by decide⟩

def lookupAnswer : DnsObservation :=
  ⟨"example.com", "A", "192.0.2.7", true, "NOERROR", some 300, "dns", "udp", "10.0.0.2", "10.0.0.1",
    by decide⟩

def claim (ip mac : String) : ArpObservation := ⟨ip, mac, .request, "eth0", false, ""⟩

def emptyStore : HistoryStore Nat := ⟨.empty, .empty, []⟩

def observeAt (observed_at : Nat) (dns : List DnsObservation) (arp : Option ArpObservation) :
    Label Nat := .observe ⟨true, true⟩ ⟨observed_at, dns, arp⟩ observed_at true

/-- Every observation fed to the recorder has one entry in the log. What the log says was
accepted is in the tables, in the batch being written, in the retry batch or pending, merged
into them one time; the rest is what `counters["dropped"]` counts. -/
theorem recorder_accounts
    (hRun : StepRun.run (StepRun.guarded Fits step) (.new store max_pending) ls = some s) :
    s.log.filterMap Entry.observation = ls.flatMap Label.fed ∧
    s.store.columns.add (((s.writing.getD .empty).append s.retry).append s.pending) =
      store.columns.replay s.log ∧
    s.counters.dropped = s.log.countP Entry.dropped := by
  have hAccounted := accounted_run hRun
  exact ⟨hAccounted.fed, hAccounted.content, hAccounted.dropped⟩

def droppingRun : List (Label Nat) :=
  [observeAt 10 [lookupQuery, lookupAnswer] none, .take, .write false, observeAt 11 [lookupQuery] none,
    .take, .write false]

theorem recorder_accounts_droppingRun : ∃ s : Recorder Nat,
    run emptyStore 1 droppingRun = some s ∧ s.counters.dropped = 1 ∧ s.retry.dns.length = 2 ∧
    s.store.columns.add (((s.writing.getD .empty).append s.retry).append s.pending) =
      emptyStore.columns.replay s.log := by
  have hFacts : (StepRun.run (StepRun.guarded Fits step) (.new emptyStore 1) droppingRun).map
      (fun s => (s.counters.dropped, s.retry.dns.length)) = some (1, 2) := by decide
  obtain ⟨s, hRun, hSame⟩ := Option.map_eq_some_iff.mp hFacts
  obtain ⟨hDropped, hRetry⟩ := Prod.mk.inj hSame
  exact ⟨s, StepRun.run_of_guarded hRun, hDropped, hRetry, (recorder_accounts hRun).2.1⟩

def nameQuery (domain : String) : DnsObservation := { lookupQuery with domain := domain }

def failingRun : List (Label Nat) :=
  ["a", "b", "c", "d", "e"].flatMap fun domain =>
    [observeAt 10 [nameQuery domain] none, .take, .write false]

/-- The retry batch keeps four rows, and nothing counts the fifth. -/
theorem recorder_loses : ∃ s : Recorder Nat,
    run emptyStore 1 failingRun = some s ∧ s.counters.dns = 5 ∧ s.counters.dropped = 0 ∧
    s.content.dns.length = 4 ∧ ¬ Accounted emptyStore (failingRun.flatMap Label.fed) s := by
  have hFacts : (run emptyStore 1 failingRun).map (fun s => (s.counters.dns, s.counters.dropped,
      s.content.dns.length, decide (Accounted emptyStore (failingRun.flatMap Label.fed) s))) =
      some (5, 0, 4, false) := by decide
  obtain ⟨s, hRun, hSame⟩ := Option.map_eq_some_iff.mp hFacts
  simp only [Prod.mk.injEq, decide_eq_false_iff_not] at hSame
  exact ⟨s, hRun, hSame.1, hSame.2.1, hSame.2.2.1, hSame.2.2.2⟩

/-! ## How much is held -/

def Batch.Within {T : Type} (limit : Nat) (b : Batch T) : Prop :=
  b.dns.length ≤ limit ∧ b.arp.length ≤ limit ∧ b.events.length ≤ limit

/-- The rows a recorder holds, in all places, under the limits of each. -/
structure Recorder.Small {T : Type} (max_pending : Nat) (s : Recorder T) : Prop where
  limit : s.max_pending = max_pending
  pending : s.Bounded
  retry : s.retry.Within (4 * max_pending)
  writing : ∀ b, s.writing = some b → b.Within (5 * max_pending)

theorem length_lastRows {α : Type} {rows : List α} (h : rows.length ≤ 5 * max_pending) :
    (Batch.lastRows (max_pending * 4) rows).length ≤ 4 * max_pending := by
  rw [Batch.lastRows]
  split
  · omega
  · rw [List.length_drop]
    omega

theorem Recorder.Bounded.observe (h : s.Bounded) (config : HistoryConfig) (packet : Observed T)
    (now : ℚ) (answers : Bool) : (s.observe config packet now answers).Bounded := by
  have hDns : ∀ (observations : List DnsObservation) (s : Recorder T), s.Bounded →
      (observations.foldl (fun s obs => s.add_dns obs packet.observed_at) s).Bounded := by
    intro observations
    induction observations with
    | nil => exact fun _ h => h
    | cons obs rest ih => exact fun s h => ih _ (h.add_dns obs packet.observed_at)
  rw [Recorder.observe]
  split
  · exact hDns _ s h
  · exact (hDns _ s h).add_arp _ packet.observed_at now answers

theorem step_small {s' : Recorder T} (h : s.Small max_pending) {l : Label T}
    (hStep : step s l = some s') : s'.Small max_pending := by
  have hMax := h.limit
  cases l with
  | observe config packet now answers =>
    cases hStep
    have hAside := (s.observe_extends config packet now answers).1
    exact ⟨hAside.max_pending.trans h.limit, h.pending.observe config packet now answers,
      hAside.retry ▸ h.retry, fun b hb => h.writing b (hAside.writing ▸ hb)⟩
  | take =>
    obtain ⟨-, hNext⟩ := Option.ite_none_right_eq_some.mp hStep
    cases hNext
    refine ⟨h.limit, ⟨Nat.zero_le _, Nat.zero_le _, Nat.zero_le _⟩,
      ⟨Nat.zero_le _, Nat.zero_le _, Nat.zero_le _⟩, fun b hb => ?_⟩
    obtain ⟨hDns, hArp, hEvents⟩ := h.retry
    obtain ⟨hDns', hArp', hEvents'⟩ := h.pending
    rw [← Option.some.inj hb]
    simp only [Batch.Within, List.length_append]
    omega
  | write ok =>
    obtain ⟨b, hBatch, hNext⟩ := Option.map_eq_some_iff.mp hStep
    obtain ⟨hDns, hArp, hEvents⟩ := h.writing b hBatch
    rw [← hNext, Recorder.write]
    split
    · exact ⟨h.limit, ⟨h.pending.dns, h.pending.arp, h.pending.events⟩, h.retry,
        fun _ hNone => by cases hNone⟩
    split
    · exact ⟨h.limit, ⟨h.pending.dns, h.pending.arp, h.pending.events⟩, h.retry,
        fun _ hNone => by cases hNone⟩
    · refine ⟨h.limit, ⟨h.pending.dns, h.pending.arp, h.pending.events⟩, ?_,
        fun _ hNone => by cases hNone⟩
      rw [← hMax] at hDns hArp hEvents ⊢
      exact ⟨length_lastRows hDns, length_lastRows hArp, length_lastRows hEvents⟩

/-- However many flushes fail one after the other, what the recorder holds stays bounded. -/
theorem memory_bounded (hRun : run store max_pending ls = some s) : s.Small max_pending := by
  have hInvariant : StepRun.Invariant (step (T := T)) (Recorder.Small max_pending) :=
    fun _ _ _ h hStep => step_small h hStep
  have hZero : ∀ limit, (0 : Nat) ≤ limit := Nat.zero_le
  exact hInvariant.run ⟨rfl, ⟨hZero _, hZero _, hZero _⟩, ⟨hZero _, hZero _, hZero _⟩,
    fun _ hNone => by cases hNone⟩ hRun

theorem memory_bounded_failingRun : ∃ s : Recorder Nat, run emptyStore 1 failingRun = some s ∧
    s.retry.Within 4 := by
  have hRuns : (run emptyStore 1 failingRun).isSome = true := by decide
  obtain ⟨s, hRun⟩ := Option.isSome_iff_exists.mp hRuns
  exact ⟨s, hRun, (memory_bounded hRun).retry⟩

end Sniff4Hound.History
