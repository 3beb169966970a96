import Sniff4Hound.History.Recorder

/-!
# Accounting for every observation

`Recorder.content` is what the tables hold once everything outstanding is written: the pending
rows, the retry batch and the batch a flush is about to write. A flush that succeeds leaves it
alone, and so does one that fails with a batch short enough to be kept. An observation or event
that is accepted is merged into it, one at a time, and all others are counted as dropped. So the
content of any state is the replay of the log over the tables the recorder started with
(`accounted_run`).
-/

namespace Sniff4Hound.History

open Dict (mergeAt collect mapValues)

variable {T : Type} [LinearOrder T]

/-! ## The history -/

structure Ledger (T : Type) where
  dns : Dict DnsKey (DnsRow T)
  arp : Dict ArpKey (ArpRow T)
  events : List (ArpEvent T)
  deriving DecidableEq

def HistoryStore.columns {T : Type} (store : HistoryStore T) : Ledger T :=
  ⟨mapValues DnsRow.columns store.dns_history.rows, store.arp_bindings.rows, store.arp_events⟩

namespace Ledger

def add (h : Ledger T) (b : Batch T) : Ledger T :=
  ⟨collect DnsRow.merge h.dns (mapValues DnsRow.columns b.dns), collect ArpRow.update h.arp b.arp,
    h.events ++ b.events.map ArpEvent.row⟩

def note (h : Ledger T) : Entry T → Ledger T
  | .dns true obs observed_at =>
    { h with dns := mergeAt DnsRow.merge h.dns obs.key (.single obs observed_at) }
  | .arp true obs observed_at =>
    { h with arp := mergeAt ArpRow.update h.arp obs.key (.single obs observed_at) }
  | .event true e => { h with events := h.events ++ [e.row] }
  | _ => h

def replay (h : Ledger T) (log : List (Entry T)) : Ledger T := log.foldl note h

theorem replay_append (h : Ledger T) (log rest : List (Entry T)) :
    h.replay (log ++ rest) = (h.replay log).replay rest := List.foldl_append

end Ledger

def Batch.append {T : Type} (b c : Batch T) : Batch T :=
  ⟨b.dns ++ c.dns, b.arp ++ c.arp, b.events ++ c.events⟩

theorem Ledger.add_append (h : Ledger T) (b c : Batch T) :
    h.add (b.append c) = (h.add b).add c := by
  simp only [Ledger.add, Batch.append, Dict.mapValues_append, Dict.collect_append,
    List.map_append, List.append_assoc]

theorem Ledger.add_empty (h : Ledger T) : h.add .empty = h := by
  simp only [Ledger.add, Batch.empty, Dict.mapValues_nil, Dict.collect_nil, List.map_nil,
    List.append_nil]

/-! ## Writing a batch -/

theorem merge_dns_row_columns (table : Keyed DnsKey (DnsRow T)) (entry : DnsKey × DnsRow T) :
    mapValues DnsRow.columns (merge_dns_row table entry).rows =
      mergeAt DnsRow.merge (mapValues DnsRow.columns table.rows) entry.1 entry.2.columns := by
  unfold merge_dns_row
  split
  · rename_i hAbsent
    have hAbsent' : (mapValues DnsRow.columns table.rows).lookup entry.1 = none := by
      rw [Dict.lookup_mapValues, hAbsent]
      rfl
    rw [Dict.mergeAt_of_absent hAbsent', Keyed.set, Dict.mapValues_set, DnsRow.columns_insert]
  · rename_i existing hFound
    have hFound' : (mapValues DnsRow.columns table.rows).lookup entry.1 =
        some existing.columns := by
      rw [Dict.lookup_mapValues, hFound]
      rfl
    rw [Dict.mergeAt_of_lookup hFound', Keyed.set, Dict.mapValues_set, DnsRow.columns_update]

theorem merge_arp_row_rows (table : Keyed ArpKey (ArpRow T)) (entry : ArpKey × ArpRow T) :
    (merge_arp_row table entry).rows = mergeAt ArpRow.update table.rows entry.1 entry.2 := by
  unfold merge_arp_row
  split
  · rename_i hAbsent
    rw [Dict.mergeAt_of_absent hAbsent, Keyed.set]
  · rename_i existing hFound
    rw [Dict.mergeAt_of_lookup hFound, Keyed.set]

theorem foldl_merge_dns_row (entries : List (DnsKey × DnsRow T)) (table : Keyed DnsKey (DnsRow T)) :
    mapValues DnsRow.columns (entries.foldl merge_dns_row table).rows =
      collect DnsRow.merge (mapValues DnsRow.columns table.rows)
        (mapValues DnsRow.columns entries) := by
  induction entries generalizing table with
  | nil => rfl
  | cons entry rest ih =>
    rw [List.foldl_cons, ih, merge_dns_row_columns]
    rfl

theorem foldl_merge_arp_row (entries : List (ArpKey × ArpRow T)) (table : Keyed ArpKey (ArpRow T)) :
    (entries.foldl merge_arp_row table).rows = collect ArpRow.update table.rows entries := by
  induction entries generalizing table with
  | nil => rfl
  | cons entry rest ih =>
    rw [List.foldl_cons, ih, merge_arp_row_rows]
    rfl

theorem write_history_columns (store : HistoryStore T) (b : Batch T) :
    (store.write_history b).columns = store.columns.add b := by
  simp only [HistoryStore.columns, HistoryStore.write_history, Ledger.add, foldl_merge_dns_row,
    foldl_merge_arp_row]

/-! ## What is outstanding -/

namespace Recorder

def pending {T : Type} (s : Recorder T) : Batch T := ⟨s.dns.rows, s.arp.rows, s.events⟩

def outstanding {T : Type} (s : Recorder T) : Batch T :=
  ((s.writing.getD .empty).append s.retry).append s.pending

def content (s : Recorder T) : Ledger T := s.store.columns.add s.outstanding

def Flushed {T : Type} (s : Recorder T) : Prop :=
  s.writing = none ∧ s.retry = .empty ∧ s.pending = .empty

variable {s : Recorder T}

theorem Flushed.content (h : s.Flushed) : s.content = s.store.columns := by
  obtain ⟨hWriting, hRetry, hPending⟩ := h
  rw [Recorder.content, outstanding, hWriting, hRetry, hPending]
  exact Ledger.add_empty _

def settled (s : Recorder T) : Ledger T :=
  (s.store.columns.add (s.writing.getD .empty)).add s.retry

theorem content_eq (s : Recorder T) : s.content = s.settled.add s.pending := by
  rw [content, outstanding, Ledger.add_append, Ledger.add_append, settled]

theorem take_content (h : s.writing = none) : s.take.content = s.content := by
  simp only [content, outstanding, take, pending, h, Option.getD, Batch.append, Batch.empty,
    Keyed.empty, List.append_nil, List.nil_append]

def Alone {T : Type} (s : Recorder T) : Prop := s.writing.isSome → s.retry = .empty

theorem write_content {b : Batch T} (hAlone : s.Alone) (h : s.writing = some b) {ok : Bool}
    (hKept : ok = false → b.truncate (s.max_pending * 4) = b) :
    (s.write b ok).content = s.content := by
  have hRetry : s.retry = .empty := hAlone (by rw [h]; rfl)
  have hContent : s.content = (s.store.columns.add b).add s.pending := by
    rw [content_eq, settled, h, hRetry, Ledger.add_empty]
    rfl
  unfold write
  split
  · rename_i hEmpty
    have hb : b = .empty := by
      obtain ⟨dns, arp, events⟩ := b
      simp only [Batch.isEmpty, Bool.and_eq_true, List.isEmpty_iff] at hEmpty
      obtain ⟨⟨rfl, rfl⟩, rfl⟩ := hEmpty
      rfl
    rw [hContent, hb, content_eq, settled, hRetry]
    change ((s.store.columns.add .empty).add .empty).add s.pending = _
    rw [Ledger.add_empty]
  · split
    · rw [hContent, content_eq, settled, hRetry]
      change (((s.store.write_history b).columns.add .empty).add .empty).add s.pending = _
      rw [Ledger.add_empty, Ledger.add_empty, write_history_columns]
    · rename_i hFails
      rw [hContent, content_eq, settled, hKept (by simpa using hFails)]
      change ((s.store.columns.add .empty).add b).add s.pending = _
      rw [Ledger.add_empty]

end Recorder

/-! ## Taking up observations -/

inductive Observation (T : Type)
  | dns (obs : DnsObservation) (observed_at : T)
  | arp (obs : ArpObservation) (observed_at : T)
  deriving DecidableEq

def Entry.observation {T : Type} : Entry T → Option (Observation T)
  | .dns _ obs observed_at => some (.dns obs observed_at)
  | .arp _ obs observed_at => some (.arp obs observed_at)
  | .event _ _ => none

def Entry.dropped {T : Type} : Entry T → Bool
  | .dns accepted _ _ => !accepted
  | .arp accepted _ _ => !accepted
  | .event accepted _ => !accepted

structure Aside {T : Type} (s s' : Recorder T) : Prop where
  store : s'.store = s.store
  retry : s'.retry = s.retry
  writing : s'.writing = s.writing
  max_pending : s'.max_pending = s.max_pending

theorem Aside.trans {T : Type} {s s' s'' : Recorder T} (h : Aside s s') (h' : Aside s' s'') :
    Aside s s'' :=
  ⟨h'.store.trans h.store, h'.retry.trans h.retry, h'.writing.trans h.writing,
    h'.max_pending.trans h.max_pending⟩

/-- The state goes on to one in which `fed` has been taken up or counted as dropped. -/
def Extends (s s' : Recorder T) (fed : List (Observation T)) : Prop :=
  Aside s s' ∧ ∃ es, s'.log = s.log ++ es ∧ s'.content = s.content.replay es ∧
    s'.counters.dropped = s.counters.dropped + es.countP Entry.dropped ∧
    es.filterMap Entry.observation = fed

namespace Extends

variable {s s' s'' : Recorder T} {fed more : List (Observation T)}

theorem trans (h : Extends s s' fed) (h' : Extends s' s'' more) : Extends s s'' (fed ++ more) := by
  obtain ⟨hAside, es, hLog, hContent, hDropped, rfl⟩ := h
  obtain ⟨hAside', es', hLog', hContent', hDropped', rfl⟩ := h'
  refine ⟨hAside.trans hAside', es ++ es', ?_, ?_, ?_, List.filterMap_append⟩
  · rw [hLog', hLog, List.append_assoc]
  · rw [hContent', hContent, Ledger.replay_append]
  · rw [hDropped', hDropped, List.countP_append, Nat.add_assoc]

theorem of_same (hAside : Aside s s') (hLog : s'.log = s.log) (hPending : s'.pending = s.pending)
    (hDropped : s'.counters.dropped = s.counters.dropped) : Extends s s' [] := by
  refine ⟨hAside, [], by rw [hLog, List.append_nil], ?_, hDropped, rfl⟩
  rw [Recorder.content, Recorder.outstanding, hAside.store, hAside.writing, hAside.retry, hPending]
  rfl

theorem refl (s : Recorder T) : Extends s s [] := of_same ⟨rfl, rfl, rfl, rfl⟩ rfl rfl rfl

end Extends

namespace Recorder

variable (s : Recorder T)

theorem drop_extends {entry : Entry T} (hDropped : entry.dropped = true) :
    Extends s (s.drop entry) entry.observation.toList := by
  refine ⟨⟨rfl, rfl, rfl, rfl⟩, [entry], rfl, ?_, ?_, ?_⟩
  · cases entry <;> simp only [Entry.dropped, Bool.not_eq_true'] at hDropped <;> subst hDropped <;>
      rfl
  · rw [List.countP_cons_of_pos hDropped]
    rfl
  · cases entry <;> rfl

theorem event_extends (e : ArpEvent T) : Extends s (s.event e) [] := by
  unfold event
  split
  · exact s.drop_extends rfl
  · refine ⟨⟨rfl, rfl, rfl, rfl⟩, [.event true e], rfl, ?_, rfl, rfl⟩
    simp only [content_eq, settled, Ledger.add, pending, Ledger.replay, List.foldl_cons,
      List.foldl_nil, Ledger.note, List.map_append, List.map_cons, List.map_nil,
      List.append_assoc]

theorem events_extends (es : List (ArpEvent T)) : Extends s (es.foldl event s) [] := by
  induction es generalizing s with
  | nil => exact .refl s
  | cons e rest ih => exact (s.event_extends e).trans (ih _)

theorem accept_dns_content (obs : DnsObservation) (observed_at : T)
    {row : DnsRow T} (hRow : s.dns.rows.lookup obs.key = some row ∨
      s.dns.rows.lookup obs.key = none ∧ row = .new obs observed_at) :
    mapValues DnsRow.columns (s.dns.set obs.key (row.add obs observed_at)).rows =
      mergeAt DnsRow.merge (mapValues DnsRow.columns s.dns.rows) obs.key
        (.single obs observed_at) := by
  rw [Keyed.set, Dict.mapValues_set]
  rcases hRow with hFound | ⟨hAbsent, rfl⟩
  · have hFound' : (mapValues DnsRow.columns s.dns.rows).lookup obs.key = some row.columns := by
      rw [Dict.lookup_mapValues, hFound]
      rfl
    rw [Dict.mergeAt_of_lookup hFound', DnsRow.columns_add]
  · have hAbsent' : (mapValues DnsRow.columns s.dns.rows).lookup obs.key = none := by
      rw [Dict.lookup_mapValues, hAbsent]
      rfl
    rw [Dict.mergeAt_of_absent hAbsent', DnsRow.single]

theorem add_dns_extends (obs : DnsObservation) (observed_at : T) :
    Extends s (s.add_dns obs observed_at) [.dns obs observed_at] := by
  have hNodup : (mapValues DnsRow.columns s.dns.rows).keys.Nodup := by
    rw [Dict.keys_mapValues]
    exact s.dns.unique
  have hAccept {row : DnsRow T} (hRow : s.dns.rows.lookup obs.key = some row ∨
      s.dns.rows.lookup obs.key = none ∧ row = .new obs observed_at) :
      Extends s
        { s with
          dns := s.dns.set obs.key (row.add obs observed_at)
          counters := { s.counters with dns := s.counters.dns + 1 }
          log := s.log ++ [.dns true obs observed_at] } [.dns obs observed_at] := by
    refine ⟨⟨rfl, rfl, rfl, rfl⟩, [.dns true obs observed_at], rfl, ?_, rfl, rfl⟩
    simp only [content_eq, Ledger.add, pending, accept_dns_content s obs observed_at hRow,
      Dict.collect_mergeAt DnsRow.merge_assoc _ hNodup]
    rfl
  unfold add_dns
  dsimp only
  split
  · rename_i row hFound
    exact hAccept (Or.inl hFound)
  · rename_i hAbsent
    split
    · exact s.drop_extends rfl
    · exact hAccept (Or.inr ⟨hAbsent, rfl⟩)

theorem add_dns_all_extends (observations : List DnsObservation) (observed_at : T) :
    Extends s (observations.foldl (fun s obs => s.add_dns obs observed_at) s)
      (observations.map (.dns · observed_at)) := by
  induction observations generalizing s with
  | nil => exact .refl s
  | cons obs rest ih => exact (s.add_dns_extends obs observed_at).trans (ih _)

theorem load_extends (answers : Bool) : Extends s (s.load_arp_state answers) [] := by
  unfold load_arp_state
  split
  · exact .refl s
  · split
    · exact .of_same ⟨rfl, rfl, rfl, rfl⟩ rfl rfl rfl
    · exact .of_same ⟨rfl, rfl, rfl, rfl⟩ rfl rfl rfl

theorem mismatch_extends (obs : ArpObservation) (observed_at : T) (now : ℚ) :
    Extends s (s.mismatch_event obs observed_at now) [] := by
  have hRaised : Extends s (mismatch_event.raised obs observed_at now s) [] :=
    (s.event_extends _).trans (.of_same ⟨rfl, rfl, rfl, rfl⟩ rfl rfl rfl)
  unfold mismatch_event
  split
  · exact .refl s
  · split
    · exact hRaised
    · split
      · exact hRaised
      · exact .refl s

theorem accept_arp_content (obs : ArpObservation) (observed_at : T)
    {row : ArpRow T} (hRow : s.arp.rows.lookup obs.key = some row ∨
      s.arp.rows.lookup obs.key = none ∧ row = .new obs observed_at) :
    (s.arp.set obs.key (row.add obs observed_at)).rows =
      mergeAt ArpRow.update s.arp.rows obs.key (.single obs observed_at) := by
  rw [Keyed.set]
  rcases hRow with hFound | ⟨hAbsent, rfl⟩
  · rw [Dict.mergeAt_of_lookup hFound, ArpRow.add_eq]
  · rw [Dict.mergeAt_of_absent hAbsent, ArpRow.single]

theorem add_arp_extends (obs : ArpObservation) (observed_at : T) (now : ℚ) (answers : Bool) :
    Extends s (s.add_arp obs observed_at now answers) [.arp obs observed_at] := by
  suffices Extends (s.load_arp_state answers) (s.add_arp obs observed_at now answers)
      [.arp obs observed_at] from (s.load_extends answers).trans this
  have hAccept {row : ArpRow T} (s : Recorder T) (hRow : s.arp.rows.lookup obs.key = some row ∨
      s.arp.rows.lookup obs.key = none ∧ row = .new obs observed_at) :
      Extends s
        { s with
          arp := s.arp.set obs.key (row.add obs observed_at)
          counters := { s.counters with arp := s.counters.arp + 1 }
          log := s.log ++ [.arp true obs observed_at] } [.arp obs observed_at] := by
    refine ⟨⟨rfl, rfl, rfl, rfl⟩, [.arp true obs observed_at], rfl, ?_, rfl, rfl⟩
    simp only [content_eq, Ledger.add, pending, accept_arp_content s obs observed_at hRow,
      Dict.collect_mergeAt ArpRow.update_assoc _ s.arp.unique]
    rfl
  have hTold (s taken : Recorder T) (es : List (ArpEvent T)) (hTaken : Extends s taken
      [.arp obs observed_at]) (key : ArpKey) :
      Extends s
        { (es.foldl event taken).mismatch_event obs observed_at now with
          memory := ((es.foldl event taken).mismatch_event obs observed_at now).memory.learn key }
        [.arp obs observed_at] :=
    ((hTaken.trans (taken.events_extends es)).trans (mismatch_extends ..)).trans
      (.of_same ⟨rfl, rfl, rfl, rfl⟩ rfl rfl rfl)
  unfold add_arp
  dsimp only
  split
  · rename_i row hFound
    exact hTold _ _ _ (hAccept _ (Or.inl hFound)) _
  · rename_i hAbsent
    split
    · exact drop_extends _ rfl
    · exact hTold _ _ _ (hAccept _ (Or.inr ⟨hAbsent, rfl⟩)) _

end Recorder

def Label.fed {T : Type} : Label T → List (Observation T)
  | .observe config packet _ _ =>
    (if config.dns_enabled then packet.dns else []).map (.dns · packet.observed_at) ++
      (if config.arp_enabled then packet.arp else none).toList.map (.arp · packet.observed_at)
  | .take | .write _ => []

theorem Recorder.observe_extends (s : Recorder T) (config : HistoryConfig) (packet : Observed T)
    (now : ℚ) (answers : Bool) :
    Extends s (s.observe config packet now answers)
      (Label.fed (.observe config packet now answers)) := by
  unfold Recorder.observe
  dsimp only
  split
  · rename_i hNone
    rw [Label.fed, hNone, Option.toList_none, List.map_nil, List.append_nil]
    exact s.add_dns_all_extends _ _
  · rename_i obs hSome
    rw [Label.fed, hSome, Option.toList_some, List.map_cons, List.map_nil]
    exact (s.add_dns_all_extends _ _).trans (Recorder.add_arp_extends _ obs _ now answers)

/-! ## Runs -/

/-- A batch whose write fails is short enough to be kept whole. -/
def Fits {T : Type} (s : Recorder T) : Label T → Prop
  | .write false =>
    match s.writing with
    | some b => b.dns.length ≤ s.max_pending * 4 ∧ b.arp.length ≤ s.max_pending * 4 ∧
        b.events.length ≤ s.max_pending * 4
    | none => True
  | _ => True

instance {T : Type} (s : Recorder T) : (l : Label T) → Decidable (Fits s l)
  | .write false => by
    unfold Fits
    dsimp only
    split <;> infer_instance
  | .write true | .observe _ _ _ _ | .take => isTrue trivial

theorem lastRows_of_le {α : Type} {keep : Nat} {rows : List α} (h : rows.length ≤ keep) :
    Batch.lastRows keep rows = rows := by
  rw [Batch.lastRows, Nat.sub_eq_zero_of_le h]
  exact ite_self _

theorem truncate_of_fits {T : Type} {b : Batch T} {keep : Nat} (hDns : b.dns.length ≤ keep)
    (hArp : b.arp.length ≤ keep) (hEvents : b.events.length ≤ keep) : b.truncate keep = b := by
  rw [Batch.truncate, lastRows_of_le hDns, lastRows_of_le hArp, lastRows_of_le hEvents]

/-- Every observation fed to the recorder and every event it raised is in the log once; the
tables, the batch being written, the retry batch and the pending rows together hold the ones
that were accepted, each once, and `counters["dropped"]` counts the others. -/
structure Accounted (store : HistoryStore T) (fed : List (Observation T)) (s : Recorder T) :
    Prop where
  fed : s.log.filterMap Entry.observation = fed
  content : s.content = store.columns.replay s.log
  dropped : s.counters.dropped = s.log.countP Entry.dropped

instance (store : HistoryStore T) (fed : List (Observation T)) (s : Recorder T) :
    Decidable (Accounted store fed s) :=
  decidable_of_iff (s.log.filterMap Entry.observation = fed ∧
    s.content = store.columns.replay s.log ∧ s.counters.dropped = s.log.countP Entry.dropped)
    ⟨fun h => ⟨h.1, h.2.1, h.2.2⟩, fun h => ⟨h.fed, h.content, h.dropped⟩⟩

variable {store : HistoryStore T} {fed : List (Observation T)} {s s' : Recorder T}

theorem Accounted.extends {more : List (Observation T)} (h : Accounted store fed s)
    (hExtends : Extends s s' more) : Accounted store (fed ++ more) s' := by
  obtain ⟨-, es, hLog, hContent, hDropped, rfl⟩ := hExtends
  refine ⟨?_, ?_, ?_⟩
  · rw [hLog, List.filterMap_append, h.fed]
  · rw [hContent, hLog, h.content, Ledger.replay_append]
  · rw [hDropped, hLog, h.dropped, List.countP_append]

theorem Accounted.flush (h : Accounted store fed s) (hLog : s'.log = s.log)
    (hContent : s'.content = s.content) (hDropped : s'.counters.dropped = s.counters.dropped) :
    Accounted store fed s' :=
  ⟨by rw [hLog, h.fed], by rw [hContent, hLog, h.content], by rw [hDropped, hLog, h.dropped]⟩

theorem step_accounted (h : Accounted store fed s ∧ s.Alone) {l : Label T} (hFits : Fits s l)
    (hStep : step s l = some s') : Accounted store (fed ++ l.fed) s' ∧ s'.Alone := by
  cases l with
  | observe config packet now answers =>
    cases hStep
    have hExtends := s.observe_extends config packet now answers
    refine ⟨h.1.extends hExtends, fun hWriting => ?_⟩
    rw [hExtends.1.writing] at hWriting
    rw [hExtends.1.retry]
    exact h.2 hWriting
  | take =>
    rw [step] at hStep
    split at hStep
    · rename_i hNone
      cases hStep
      rw [Label.fed, List.append_nil]
      exact ⟨h.1.flush rfl (Recorder.take_content (Option.isNone_iff_eq_none.mp hNone)) rfl,
        fun _ => rfl⟩
    · cases hStep
  | write ok =>
    rw [step] at hStep
    obtain ⟨b, hWriting, rfl⟩ := Option.map_eq_some_iff.mp hStep
    rw [Label.fed, List.append_nil]
    have hKept : ok = false → b.truncate (s.max_pending * 4) = b := by
      rintro rfl
      simp only [Fits, hWriting] at hFits
      exact truncate_of_fits hFits.1 hFits.2.1 hFits.2.2
    refine ⟨h.1.flush ?_ (Recorder.write_content h.2 hWriting hKept) ?_, fun hSome => ?_⟩
    · unfold Recorder.write
      split
      · rfl
      · split <;> rfl
    · unfold Recorder.write
      split
      · rfl
      · split <;> rfl
    · have hNone : (s.write b ok).writing = none := by
        unfold Recorder.write
        split
        · rfl
        · split <;> rfl
      rw [hNone] at hSome
      cases hSome

theorem accounted_new (store : HistoryStore T) (max_pending : Nat) :
    Accounted store [] (.new store max_pending) :=
  ⟨rfl, Ledger.add_empty _, rfl⟩

theorem accounted_run {max_pending : Nat} {ls : List (Label T)}
    (hRun : StepRun.run (StepRun.guarded Fits step) (.new store max_pending) ls = some s) :
    Accounted store (ls.flatMap Label.fed) s := by
  suffices Accounted store (ls.flatMap Label.fed) s ∧ s.Alone from this.1
  refine StepRun.run_induction
    (P := fun ls s => Accounted store (ls.flatMap Label.fed) s ∧ s.Alone)
    ⟨accounted_new store max_pending, fun hSome => by cases hSome⟩
    (fun ls t l u _ ih hStep => ?_) hRun
  obtain ⟨hFits, hStep⟩ := StepRun.guarded_eq_some.mp hStep
  rw [List.flatMap_append, List.flatMap_singleton]
  exact step_accounted ih hFits hStep

end Sniff4Hound.History
