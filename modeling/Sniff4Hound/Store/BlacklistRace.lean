import Sniff4Hound.Store.BlacklistMirror

/-!
# Two requests on one entry

`set_blacklist_entry_enabled` reads the entry, writes its flag, reads it again and writes
the mirror from what it read; the store is locked for each of these only.
`delete_blacklist_entry` reads the entry and deletes it with its mirror in one commit. Two
requests leave an entry and a mirror that agree exactly when no mirror is written from a row
that has changed since, unless the other request still has the mirror to write
(`race_agrees_iff`).
-/

namespace Sniff4Hound.Store

inductive Request
  | setEnabled (enabled : Bool)
  | delete
deriving DecidableEq

/-- Where a request stands: before its first read, before its first write, before the second
read, before the write of the mirror from the row it has read, or at its end. -/
inductive Pc
  | start
  | found
  | written
  | reread (entry : BlacklistEntry)
  | returned
  | raised
deriving DecidableEq

def Pc.owes : Pc → Bool
  | written => true
  | reread _ => true
  | _ => false

def Pc.ended : Pc → Bool
  | returned => true
  | raised => true
  | _ => false

/-- The catalog and where the two requests stand. -/
structure Race where
  catalog : Catalog
  pc : Bool → Pc

def Race.goto (s : Race) (i : Bool) (catalog : Catalog) (pc : Pc) : Race :=
  ⟨catalog, fun j => if j = i then pc else s.pc j⟩

/-- `UPDATE blacklist_entries SET enabled = ? WHERE id = ?` -/
def Catalog.update_enabled (s : Catalog) (entry_id : String) (enabled : Bool) : Catalog :=
  match s.blacklist.lookup entry_id with
  | none => s
  | some entry =>
    { s with blacklist := s.blacklist.set entry_id { entry with enabled := enabled } }

def Catalog.delete_both (s : Catalog) (entry_id : String) : Catalog :=
  { s with
    blacklist := s.blacklist.erase entry_id
    monitors := if (s.monitors.lookup entry_id).map MonitorRow.source = some "blacklist" then
      s.monitors.erase entry_id else s.monitors }

def Race.step (env : CatalogEnv) (entry_id : String) (requests : Bool → Request) (s : Race)
    (i : Bool) : Option Race :=
  match s.pc i with
  | .start => some (s.goto i s.catalog
      (if (s.catalog.blacklist.lookup entry_id).isSome then .found else .raised))
  | .found =>
    match requests i with
    | .setEnabled enabled => some (s.goto i (s.catalog.update_enabled entry_id enabled) .written)
    | .delete => some (s.goto i (s.catalog.delete_both entry_id) .returned)
  | .written =>
    match s.catalog.blacklist.lookup entry_id with
    | none => some (s.goto i s.catalog .raised)
    | some entry => some (s.goto i s.catalog (.reread entry))
  | .reread entry =>
    some (s.goto i (sync_blacklist_monitor env s.catalog entry_id entry) .returned)
  | .returned => none
  | .raised => none

def Race.begin (catalog : Catalog) : Race := ⟨catalog, fun _ => .start⟩

def Race.Ended (s : Race) : Prop := ∀ i, (s.pc i).ended = true

def AgreeAt (entry_id : String) (s : Catalog) : Prop :=
  ((s.monitors.lookup entry_id).filter fun row => row.source = "blacklist").map MonitorRow.enabled =
    (s.blacklist.lookup entry_id).map BlacklistEntry.enabled

instance (entry_id : String) (s : Catalog) : Decidable (AgreeAt entry_id s) :=
  inferInstanceAs (Decidable (_ = _))

def Race.Fresh (entry_id : String) (s : Race) (i : Bool) : Prop :=
  match s.pc i with
  | .reread entry =>
    s.catalog.blacklist.lookup entry_id = some entry ∨ (s.pc (!i)).owes = true
  | _ => True

instance (entry_id : String) (s : Race) (i : Bool) : Decidable (s.Fresh entry_id i) :=
  match h : s.pc i with
  | .reread entry => decidable_of_iff
      (s.catalog.blacklist.lookup entry_id = some entry ∨ (s.pc (!i)).owes = true)
      (by simp [Race.Fresh, h])
  | .start => isTrue (by simp [Race.Fresh, h])
  | .found => isTrue (by simp [Race.Fresh, h])
  | .written => isTrue (by simp [Race.Fresh, h])
  | .returned => isTrue (by simp [Race.Fresh, h])
  | .raised => isTrue (by simp [Race.Fresh, h])

/-! ## What one step does -/

section Steps

variable {env : CatalogEnv} {entry_id : String} {requests : Bool → Request} {s s' : Race} {i : Bool}

inductive Race.Move (env : CatalogEnv) (entry_id : String) (requests : Bool → Request) (s : Race)
    (i : Bool) : Race → Prop
  | look (entry : BlacklistEntry) (pc : s.pc i = .start)
      (entry_there : s.catalog.blacklist.lookup entry_id = some entry) :
      Move env entry_id requests s i (s.goto i s.catalog .found)
  | miss (pc : s.pc i = .start ∨ s.pc i = .written)
      (gone : s.catalog.blacklist.lookup entry_id = none) :
      Move env entry_id requests s i (s.goto i s.catalog .raised)
  | update (enabled : Bool) (pc : s.pc i = .found) (request : requests i = .setEnabled enabled) :
      Move env entry_id requests s i
        (s.goto i (s.catalog.update_enabled entry_id enabled) .written)
  | delete (pc : s.pc i = .found) (request : requests i = .delete) :
      Move env entry_id requests s i (s.goto i (s.catalog.delete_both entry_id) .returned)
  | reread (entry : BlacklistEntry) (pc : s.pc i = .written)
      (entry_there : s.catalog.blacklist.lookup entry_id = some entry) :
      Move env entry_id requests s i (s.goto i s.catalog (.reread entry))
  | mirror (entry : BlacklistEntry) (pc : s.pc i = .reread entry) :
      Move env entry_id requests s i
        (s.goto i (sync_blacklist_monitor env s.catalog entry_id entry) .returned)

theorem Race.step_cases (h : s.step env entry_id requests i = some s') :
    Race.Move env entry_id requests s i s' := by
  unfold Race.step at h
  split at h
  · next hPc =>
    cases hLookup : s.catalog.blacklist.lookup entry_id with
    | none =>
      rw [hLookup] at h
      cases h
      exact .miss (Or.inl hPc) hLookup
    | some entry =>
      rw [hLookup] at h
      cases h
      exact .look entry hPc hLookup
  · next hPc =>
    split at h
    · next enabled hRequest =>
      cases h
      exact .update enabled hPc hRequest
    · next hRequest =>
      cases h
      exact .delete hPc hRequest
  · next hPc =>
    split at h
    · next hLookup =>
      cases h
      exact .miss (Or.inr hPc) hLookup
    · next entry hLookup =>
      cases h
      exact .reread entry hPc hLookup
  · next entry hPc =>
    cases h
    exact .mirror entry hPc
  · cases h
  · cases h

theorem goto_self (s : Race) (i : Bool) (catalog : Catalog) (pc : Pc) :
    (s.goto i catalog pc).pc i = pc := if_pos rfl

theorem goto_other (s : Race) (i : Bool) (catalog : Catalog) (pc : Pc) :
    (s.goto i catalog pc).pc (!i) = s.pc (!i) := if_neg (by cases i <;> decide)

theorem forall_request {P : Bool → Prop} (i : Bool) : (∀ j, P j) ↔ P i ∧ P (!i) := by
  cases i <;> simp [and_comm]

theorem exists_request {P : Bool → Prop} (i : Bool) : (∃ j, P j) ↔ P i ∨ P (!i) := by
  cases i <;> simp [or_comm]

end Steps

/-! ## Any interleaving -/

structure Race.Track (entry_id : String) (requests : Bool → Request) (first : BlacklistEntry)
    (s : Race) : Prop where
  row : ∀ row, s.catalog.monitors.lookup entry_id = some row → row.source = "blacklist"
  flag : ∀ entry, s.catalog.blacklist.lookup entry_id = some entry →
    entry = { first with enabled := entry.enabled }
  copy : ∀ i entry, s.pc i = .reread entry → entry = { first with enabled := entry.enabled }
  kind : ∀ i, (s.pc i).owes = true → ∃ enabled, requests i = .setEnabled enabled
  gone : s.catalog.blacklist.lookup entry_id = none →
    ∃ i, requests i = .delete ∧ s.pc i = .returned
  /-- A row that was read is the row of the table until the other request has changed it. -/
  current : ∀ i entry, s.pc i = .reread entry →
    s.catalog.blacklist.lookup entry_id = some entry ∨ (s.pc (!i)).owes = true ∨
      s.pc (!i) = .returned
  /-- Of two rows that were read the later one is the row of the table. -/
  later : ∀ i a c, s.pc i = .reread a → s.pc (!i) = .reread c →
    s.catalog.blacklist.lookup entry_id = some a ∨ s.catalog.blacklist.lookup entry_id = some c

theorem lookup_update_enabled (s : Catalog) (entry_id : String) (enabled : Bool) :
    (s.update_enabled entry_id enabled).blacklist.lookup entry_id =
      (s.blacklist.lookup entry_id).map fun entry => { entry with enabled := enabled } := by
  unfold Catalog.update_enabled
  cases hLookup : s.blacklist.lookup entry_id with
  | none => simp [hLookup]
  | some entry => simp [Dict.lookup_set]

theorem monitors_update_enabled (s : Catalog) (entry_id : String) (enabled : Bool) :
    (s.update_enabled entry_id enabled).monitors = s.monitors := by
  unfold Catalog.update_enabled
  split
  · rfl
  · rfl

section Track

variable {env : CatalogEnv} {entry_id : String} {requests : Bool → Request} {s s' : Race} {i : Bool}
  {first : BlacklistEntry}

variable (h : s.Track entry_id requests first)

include h

theorem Race.Track.lookup_delete :
    (s.catalog.delete_both entry_id).blacklist.lookup entry_id = none ∧
      (s.catalog.delete_both entry_id).monitors.lookup entry_id = none := by
  constructor
  · exact (Dict.lookup_erase s.catalog.blacklist entry_id entry_id).trans (if_pos rfl)
  · show List.lookup entry_id (ite _ _ _) = none
    cases hRow : s.catalog.monitors.lookup entry_id with
    | none => simp [hRow]
    | some row => simp [h.row row hRow, Dict.lookup_erase]

theorem Race.Track.lookup_sync (env : CatalogEnv) (entry : BlacklistEntry) :
    ∃ row, (sync_blacklist_monitor env s.catalog entry_id entry).monitors.lookup entry_id =
      some row ∧ row.source = "blacklist" ∧ row.enabled = entry.enabled := by
  obtain ⟨row, hMonitors, hSource, hEnabled, -⟩ :=
    sync_blacklist_monitor_row env s.catalog entry_id entry
  refine ⟨row, by rw [hMonitors, Dict.lookup_set, if_pos rfl], ?_, hEnabled⟩
  rw [hSource]
  cases hRow : s.catalog.monitors.lookup entry_id with
  | none => rfl
  | some old => exact h.row old hRow

theorem Race.Track.deleted (hOwes : (s.pc i).owes = true)
    (hGone : s.catalog.blacklist.lookup entry_id = none) : s.pc (!i) = .returned := by
  obtain ⟨j, hDelete, hReturned⟩ := h.gone hGone
  by_cases hSame : j = i
  · subst hSame
    rw [hReturned] at hOwes
    cases hOwes
  · rw [← Bool.eq_not_of_ne hSame]
    exact hReturned

theorem Race.Track.goto {catalog : Catalog} {pc : Pc} (hBefore : s.pc i ≠ .returned)
    (hKind : pc.owes = true → ∃ enabled, requests i = .setEnabled enabled)
    (hRow : ∀ row, catalog.monitors.lookup entry_id = some row → row.source = "blacklist")
    (hFlag : ∀ entry, catalog.blacklist.lookup entry_id = some entry →
      entry = { first with enabled := entry.enabled })
    (hGone : catalog.blacklist.lookup entry_id = none →
      s.catalog.blacklist.lookup entry_id = none ∨ requests i = .delete ∧ pc = .returned)
    (hRead : ∀ entry, pc = .reread entry → catalog.blacklist.lookup entry_id = some entry)
    (hOther : ∀ entry, s.pc (!i) = .reread entry →
      catalog.blacklist.lookup entry_id = some entry ∨ pc.owes = true ∨ pc = .returned) :
    (s.goto i catalog pc).Track entry_id requests first := by
  refine ⟨hRow, hFlag, ?_, ?_, ?_, ?_, ?_⟩
  · refine (forall_request i).mpr ⟨?_, ?_⟩
    · intro entry hPc
      rw [goto_self] at hPc
      exact hFlag entry (hRead entry hPc)
    · intro entry hPc
      rw [goto_other] at hPc
      exact h.copy (!i) entry hPc
  · refine (forall_request i).mpr ⟨?_, ?_⟩
    · rw [goto_self]
      exact hKind
    · rw [goto_other]
      exact h.kind (!i)
  · intro hNone
    rcases hGone hNone with hOld | ⟨hDelete, hReturned⟩
    · obtain ⟨j, hDelete, hReturned⟩ := h.gone hOld
      have hOther : j = !i := Bool.eq_not_of_ne (by rintro rfl; exact hBefore hReturned)
      subst hOther
      exact ⟨!i, hDelete, by rw [goto_other]; exact hReturned⟩
    · exact ⟨i, hDelete, by rw [goto_self]; exact hReturned⟩
  · refine (forall_request i).mpr ⟨?_, ?_⟩
    · intro entry hPc
      rw [goto_self] at hPc
      exact Or.inl (hRead entry hPc)
    · intro entry hPc
      rw [goto_other] at hPc
      rw [Bool.not_not, goto_self]
      exact hOther entry hPc
  · refine (forall_request i).mpr ⟨?_, ?_⟩
    · intro a c hPc _
      rw [goto_self] at hPc
      exact Or.inl (hRead a hPc)
    · intro a c _ hPc
      rw [Bool.not_not, goto_self] at hPc
      exact Or.inr (hRead c hPc)

theorem Race.Track.stay {pc : Pc}
    (hEnded : s.pc i ≠ .returned) (hOwes : pc.owes = true → (s.pc i).owes = true)
    (hKept : (s.pc i).owes = true → pc.owes = true ∨ s.pc (!i) = .returned)
    (hRead : ∀ entry, pc = .reread entry → s.catalog.blacklist.lookup entry_id = some entry) :
    (s.goto i s.catalog pc).Track entry_id requests first := by
  refine h.goto hEnded (fun hPc => h.kind i (hOwes hPc)) h.row h.flag Or.inl hRead ?_
  intro entry hPc
  have hCurrent := h.current (!i) entry hPc
  rw [Bool.not_not] at hCurrent
  rcases hCurrent with hRow | hMoved | hMoved
  · exact Or.inl hRow
  · rcases hKept hMoved with hStill | hGone
    · exact Or.inr (Or.inl hStill)
    · rw [hPc] at hGone
      cases hGone
  · exact absurd hMoved hEnded

theorem Race.Track.step (hStep : s.step env entry_id requests i = some s') :
    s'.Track entry_id requests first := by
  cases Race.step_cases hStep with
  | look entry hPc hThere => exact h.stay (by simp [hPc]) nofun (by simp [hPc, Pc.owes]) nofun
  | miss hPc hGone =>
    refine h.stay ?_ nofun ?_ nofun
    · rcases hPc with hPc | hPc
      · simp [hPc]
      · simp [hPc]
    · exact fun hOwes => Or.inr (h.deleted hOwes hGone)
  | update enabled hPc hRequest =>
    refine h.goto (by simp [hPc]) (fun _ => ⟨enabled, hRequest⟩) ?_ ?_ ?_ nofun
      fun _ _ => Or.inr (Or.inl rfl)
    · rw [monitors_update_enabled]
      exact h.row
    · intro entry hEntry
      rw [lookup_update_enabled] at hEntry
      obtain ⟨old, hOld, rfl⟩ := Option.map_eq_some_iff.mp hEntry
      rw [h.flag old hOld]
    · intro hNone
      rw [lookup_update_enabled, Option.map_eq_none_iff] at hNone
      exact Or.inl hNone
  | delete hPc hRequest =>
    obtain ⟨hEntry, hMonitor⟩ := h.lookup_delete
    refine h.goto (by simp [hPc]) nofun ?_ ?_ (fun _ => Or.inr ⟨hRequest, rfl⟩) nofun
      fun _ _ => Or.inr (Or.inr rfl)
    · intro row hRow
      rw [hMonitor] at hRow
      cases hRow
    · intro entry hThere
      rw [hEntry] at hThere
      cases hThere
  | reread entry hPc hThere =>
    refine h.stay (by simp [hPc]) (by simp [hPc, Pc.owes]) (fun _ => Or.inl rfl) ?_
    rintro read hRead
    cases hRead
    exact hThere
  | mirror entry hPc =>
    obtain ⟨row, hRow, hSource, -⟩ := h.lookup_sync env entry
    refine h.goto (by simp [hPc]) nofun ?_ h.flag Or.inl nofun fun _ _ => Or.inr (Or.inr rfl)
    intro found hFound
    rw [hRow] at hFound
    exact Option.some.inj hFound ▸ hSource

omit h

/-! ## Interleavings in which the mirrors are written from current rows -/

/-- The tables agree, or some request will still write the mirror from the row the entry
has; and no mirror outlives the entry. -/
structure Race.Owed (entry_id : String) (s : Race) : Prop where
  agree : AgreeAt entry_id s.catalog ∨ ∃ i, s.pc i = .written ∨
    ∃ entry, s.pc i = .reread entry ∧ s.catalog.blacklist.lookup entry_id = some entry
  bare : s.catalog.blacklist.lookup entry_id = none → s.catalog.monitors.lookup entry_id = none

theorem agree_of_bare {catalog : Catalog} (hEntry : catalog.blacklist.lookup entry_id = none)
    (hMonitor : catalog.monitors.lookup entry_id = none) : AgreeAt entry_id catalog := by
  rw [AgreeAt, hEntry, hMonitor]
  rfl

theorem agree_sync (h : s.Track entry_id requests first) {entry : BlacklistEntry} :
    AgreeAt entry_id (sync_blacklist_monitor env s.catalog entry_id entry) ↔
      some entry.enabled = (s.catalog.blacklist.lookup entry_id).map BlacklistEntry.enabled := by
  obtain ⟨row, hRow, hSource, hEnabled⟩ := h.lookup_sync env entry
  rw [AgreeAt, hRow, Option.filter_some, if_pos (by simp [hSource]), Option.map_some, hEnabled]
  rfl

theorem Race.Owed.step (h : s.Owed entry_id) (hTrack : s.Track entry_id requests first)
    (hFresh : s.Fresh entry_id i) (hStep : s.step env entry_id requests i = some s') :
    s'.Owed entry_id := by
  -- a request that has nothing to write leaves what is owed with the other one
  have hStay : ∀ pc, s.pc i ≠ .written → (∀ entry, s.pc i ≠ .reread entry) →
      (s.goto i s.catalog pc).Owed entry_id := by
    intro pc hNotWritten hNotRead
    refine ⟨h.agree.imp_right ?_, h.bare⟩
    rw [exists_request i, exists_request i, goto_other]
    rintro ((hWritten | ⟨entry, hRead, -⟩) | hOther)
    · exact absurd hWritten hNotWritten
    · exact absurd hRead (hNotRead entry)
    · exact Or.inr hOther
  cases Race.step_cases hStep with
  | look entry hPc hThere => exact hStay _ (by simp [hPc]) (by simp [hPc])
  | miss hPc hGone =>
    exact ⟨Or.inl (agree_of_bare hGone (h.bare hGone)), h.bare⟩
  | update enabled hPc hRequest =>
    refine ⟨Or.inr ⟨i, Or.inl (goto_self _ _ _ _)⟩, ?_⟩
    intro hNone
    show (s.catalog.update_enabled entry_id enabled).monitors.lookup entry_id = none
    rw [monitors_update_enabled]
    apply h.bare
    exact Option.map_eq_none_iff.mp ((lookup_update_enabled _ _ _).symm.trans hNone)
  | delete hPc hRequest =>
    obtain ⟨hEntry, hMonitor⟩ := hTrack.lookup_delete
    exact ⟨Or.inl (agree_of_bare hEntry hMonitor), fun _ => hMonitor⟩
  | reread entry hPc hThere =>
    exact ⟨Or.inr ⟨i, Or.inr ⟨entry, goto_self _ _ _ _, hThere⟩⟩, h.bare⟩
  | mirror entry hPc =>
    rw [Race.Fresh, hPc] at hFresh
    dsimp only at hFresh
    have hAgree : s.catalog.blacklist.lookup entry_id = some entry →
        AgreeAt entry_id (sync_blacklist_monitor env s.catalog entry_id entry) := by
      intro hThere
      rw [agree_sync hTrack, hThere]
      rfl
    constructor
    · rcases hFresh with hThere | hOther
      · exact Or.inl (hAgree hThere)
      · cases hOtherPc : s.pc (!i) with
        | written =>
          refine Or.inr ⟨!i, Or.inl ?_⟩
          rw [goto_other]
          exact hOtherPc
        | reread read =>
          rcases hTrack.later i entry read hPc hOtherPc with hMine | hTheirs
          · exact Or.inl (hAgree hMine)
          · refine Or.inr ⟨!i, Or.inr ⟨read, ?_, hTheirs⟩⟩
            rw [goto_other]
            exact hOtherPc
        | start | found | returned | raised =>
          rw [hOtherPc] at hOther
          cases hOther
    · intro hNone
      have hReturned := hTrack.deleted (by rw [hPc]; rfl) hNone
      rcases hFresh with hThere | hOther
      · exact absurd (hThere.symm.trans hNone) nofun
      · rw [hReturned] at hOther
        cases hOther

theorem Race.Track.spoil (hTrack : s.Track entry_id requests first)
    (hStale : ¬ s.Fresh entry_id i) (hStep : s.step env entry_id requests i = some s') :
    s'.Ended ∧ ¬ AgreeAt entry_id s'.catalog := by
  cases hPc : s.pc i with
  | reread entry =>
    rw [Race.Fresh, hPc] at hStale
    dsimp only at hStale
    rw [not_or] at hStale
    obtain ⟨hRow, hOther⟩ := hStale
    have hReturned : s.pc (!i) = .returned := by
      rcases hTrack.current i entry hPc with hThere | hOwes | hReturned
      · exact absurd hThere hRow
      · exact absurd hOwes hOther
      · exact hReturned
    unfold Race.step at hStep
    rw [hPc] at hStep
    cases hStep
    constructor
    · rw [Race.Ended, forall_request i, goto_self, goto_other, hReturned]
      exact ⟨rfl, rfl⟩
    · show ¬ AgreeAt entry_id (sync_blacklist_monitor env s.catalog entry_id entry)
      rw [agree_sync hTrack]
      intro hSame
      obtain ⟨found, hFound, hFlag⟩ := Option.map_eq_some_iff.mp hSame.symm
      apply hRow
      rw [hFound, hTrack.flag found hFound, hFlag, ← hTrack.copy i entry hPc]
  | start | found | written | returned | raised => simp [Race.Fresh, hPc] at hStale

theorem ended_step (h : s.Ended) : s.step env entry_id requests i = none := by
  have hPc := h i
  unfold Race.step
  cases hHere : s.pc i with
  | returned => rfl
  | raised => rfl
  | start | found | written | reread =>
    rw [hHere] at hPc
    cases hPc

end Track

/-! ## Complete interleavings -/

section Runs

variable {env : CatalogEnv} {entry_id : String} {requests : Bool → Request} {catalog : Catalog}
  {s : Race} {labels : List Bool}

theorem agree_of_mirrored (h : Mirrored env catalog) (entry_id : String) :
    AgreeAt entry_id catalog := by
  cases hEntry : catalog.blacklist.lookup entry_id with
  | some entry =>
    obtain ⟨row, hRow, hMirror⟩ := h.row entry_id entry hEntry
    rw [AgreeAt, hEntry, hRow, Option.filter_some, if_pos (by simp [hMirror.source])]
    exact congrArg some hMirror.enabled
  | none =>
    rw [AgreeAt, hEntry, Option.map_none, Option.map_eq_none_iff, Option.filter_eq_none_iff]
    intro row hRow hSource
    obtain ⟨entry, hThere⟩ := h.entry entry_id row hRow (of_decide_eq_true hSource)
    rw [hEntry] at hThere
    cases hThere

theorem track_begin (h : Mirrored env catalog) {first : BlacklistEntry}
    (hFirst : catalog.blacklist.lookup entry_id = some first) :
    (Race.begin catalog).Track entry_id requests first := by
  refine ⟨?_, ?_, nofun, nofun, ?_, nofun, nofun⟩
  · intro row hRow
    obtain ⟨mirror, hMirror, hOf⟩ := h.row entry_id first hFirst
    obtain rfl := Option.some.inj (hMirror.symm.trans hRow)
    exact hOf.source
  · intro entry hEntry
    obtain rfl := Option.some.inj (hFirst.symm.trans hEntry)
    rfl
  · intro hNone
    exact absurd (hFirst.symm.trans hNone) nofun

theorem run_missing (hNone : catalog.blacklist.lookup entry_id = none)
    (hRun : StepRun.run (Race.step env entry_id requests) (Race.begin catalog) labels = some s) :
    s.catalog = catalog ∧ (∀ i, s.pc i = .start ∨ s.pc i = .raised) ∧
      StepRun.run (StepRun.guarded (Race.Fresh entry_id) (Race.step env entry_id requests))
        (Race.begin catalog) labels = some s := by
  refine StepRun.run_induction ⟨rfl, fun _ => Or.inl rfl, rfl⟩ ?_ hRun
  rintro labels t i u - ⟨hSame, hPcs, hGuarded⟩ hStep
  have hFresh : t.Fresh entry_id i := by
    rcases hPcs i with hPc | hPc
    · simp [Race.Fresh, hPc]
    · simp [Race.Fresh, hPc]
  have hBoth : u = t.goto i t.catalog .raised := by
    unfold Race.step at hStep
    rcases hPcs i with hPc | hPc
    · rw [hPc, hSame, hNone] at hStep
      cases hStep
      rw [hSame]
      rfl
    · rw [hPc] at hStep
      cases hStep
  refine ⟨hBoth ▸ hSame, ?_, StepRun.run_snoc_eq_some.mpr ⟨t, hGuarded,
    StepRun.guarded_eq_some.mpr ⟨hFresh, hStep⟩⟩⟩
  rw [hBoth, forall_request i, goto_self, goto_other]
  exact ⟨Or.inr rfl, hPcs (!i)⟩

/-- When both requests have returned, the mirror agrees with the entry just when every mirror
was written from the row the entry had, or with the other request still to write it. -/
theorem race_agrees_iff (hMirrored : Mirrored env catalog)
    (hRun : StepRun.run (Race.step env entry_id requests) (Race.begin catalog) labels = some s)
    (hEnded : s.Ended) :
    AgreeAt entry_id s.catalog ↔ ∃ t, StepRun.run
      (StepRun.guarded (Race.Fresh entry_id) (Race.step env entry_id requests))
      (Race.begin catalog) labels = some t := by
  cases hFirst : catalog.blacklist.lookup entry_id with
  | none =>
    obtain ⟨hSame, -, hGuarded⟩ := run_missing hFirst hRun
    exact iff_of_true (hSame ▸ agree_of_mirrored hMirrored entry_id) ⟨s, hGuarded⟩
  | some first =>
    -- either every step so far was fresh, or the last one was not and ended the run
    have hSides : s.Track entry_id requests first ∧
        ((StepRun.run (StepRun.guarded (Race.Fresh entry_id) (Race.step env entry_id requests))
            (Race.begin catalog) labels = some s ∧ s.Owed entry_id) ∨
          (StepRun.run (StepRun.guarded (Race.Fresh entry_id) (Race.step env entry_id requests))
            (Race.begin catalog) labels = none ∧ s.Ended ∧ ¬ AgreeAt entry_id s.catalog)) := by
      refine StepRun.run_induction ⟨track_begin hMirrored hFirst, Or.inl ⟨rfl, ?_⟩⟩ ?_ hRun
      · refine ⟨Or.inl (agree_of_mirrored hMirrored entry_id), ?_⟩
        intro hNone
        exact absurd (hFirst.symm.trans hNone) nofun
      · rintro labels t i u - ⟨hTrack, hSide⟩ hStep
        refine ⟨hTrack.step hStep, ?_⟩
        rcases hSide with ⟨hGuarded, hOwed⟩ | ⟨-, hOver, -⟩
        · by_cases hFresh : t.Fresh entry_id i
          · exact Or.inl ⟨StepRun.run_snoc_eq_some.mpr ⟨t, hGuarded,
              StepRun.guarded_eq_some.mpr ⟨hFresh, hStep⟩⟩, hOwed.step hTrack hFresh hStep⟩
          · refine Or.inr ⟨?_, hTrack.spoil hFresh hStep⟩
            rw [StepRun.run_snoc, hGuarded, Option.bind_some, StepRun.guarded, if_neg hFresh]
        · rw [ended_step hOver] at hStep
          cases hStep
    obtain ⟨-, ⟨hGuarded, hOwed⟩ | ⟨hStopped, -, hDiffer⟩⟩ := hSides
    · refine iff_of_true ?_ ⟨s, hGuarded⟩
      rcases hOwed.agree with hAgree | ⟨i, hWritten | ⟨entry, hRead, -⟩⟩
      · exact hAgree
      · have hEnd := hEnded i
        rw [hWritten] at hEnd
        cases hEnd
      · have hEnd := hEnded i
        rw [hRead] at hEnd
        cases hEnd
    · refine iff_of_false hDiffer ?_
      rintro ⟨t, hGuarded⟩
      rw [hStopped] at hGuarded
      cases hGuarded

end Runs

/-! ## A mirror written behind a deletion -/

def toggledEntry : BlacklistEntry := ⟨"ip", "exact", "10.0.0.5", "", true⟩

def toggledCatalog : Catalog :=
  sync_blacklist_monitor .ascii ⟨[], [("blacklist-ip-a", toggledEntry)], 0, 0⟩ "blacklist-ip-a"
    toggledEntry

theorem toggledCatalog_mirrored : Mirrored .ascii toggledCatalog :=
  (mirrored_empty .ascii).sync_new toggledEntry rfl

def toggleAndDelete (i : Bool) : Request := if i then .delete else .setEnabled false

/-- The deletion comes between the second read and the write of the mirror. -/
theorem race_orphans : ¬ ∀ (env : CatalogEnv) (entry_id : String) (requests : Bool → Request)
    (catalog : Catalog) (labels : List Bool) (s : Race), Mirrored env catalog →
      StepRun.run (Race.step env entry_id requests) (Race.begin catalog) labels = some s →
      s.Ended → AgreeAt entry_id s.catalog := by
  intro hAll
  obtain ⟨s, hRun, hEnded, hDiffer⟩ : ∃ s, StepRun.run (Race.step .ascii "blacklist-ip-a"
      toggleAndDelete) (Race.begin toggledCatalog) [false, false, false, true, true, false] = some s ∧
      s.Ended ∧ ¬ AgreeAt "blacklist-ip-a" s.catalog :=
    ⟨_, rfl, by unfold Race.Ended; decide, by decide +kernel⟩
  exact hDiffer (hAll _ _ _ _ _ s toggledCatalog_mirrored hRun hEnded)

theorem race_agrees_iff_deleted : ∃ s, StepRun.run (Race.step .ascii "blacklist-ip-a"
    toggleAndDelete) (Race.begin toggledCatalog) [false, false, true, false, false, true] = some s ∧
      AgreeAt "blacklist-ip-a" s.catalog := by
  obtain ⟨s, hRun, hEnded⟩ : ∃ s, StepRun.run (Race.step .ascii "blacklist-ip-a" toggleAndDelete)
      (Race.begin toggledCatalog) [false, false, true, false, false, true] = some s ∧ s.Ended :=
    ⟨_, rfl, by unfold Race.Ended; decide⟩
  refine ⟨s, hRun, (race_agrees_iff toggledCatalog_mirrored hRun hEnded).mpr ?_⟩
  apply Option.isSome_iff_exists.mp
  decide +kernel

end Sniff4Hound.Store
