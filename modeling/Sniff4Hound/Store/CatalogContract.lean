import Sniff4Hound.Store.MonitorCatalog
import Mathlib.Data.List.Perm.Subperm

/-!
# What the stamp says

The stamp is a count, a latest second and another count. A change that is written in a later
second than every write before it shows in the latest second for as long as its row is there,
so that two points with one stamp have the same rows when all changes between them are
written so. Deletions need no condition: the first count shows them.

* `stamp_separates`: two points of a run with one stamp have the same rows.
-/

namespace Sniff4Hound.Store

/-! ## What one call does to the table -/

inductive Catalog.Moves (s s' : Catalog) : Prop
  | keep (rows : s'.monitors = s.monitors) (written : s'.written = s.written)
      (clock : s.clock ≤ s'.clock)
  | put (id : String) (row : MonitorRow) (rows : s'.monitors = s.monitors.set id row)
      (updated_at : row.updated_at = s.clock) (written : s'.written = s.clock)
      (clock : s'.clock = s.clock)
  | erase (id : String) (rows : s'.monitors = s.monitors.erase id)
    (written : s'.written = s.written)
      (clock : s'.clock = s.clock)

theorem Catalog.Moves.refl (s : Catalog) : s.Moves s := .keep rfl rfl le_rfl

theorem moves_put (s : Catalog) (id : String) (row : MonitorRow) : s.Moves (s.put id row) :=
  .put id { row with updated_at := s.clock } rfl rfl rfl rfl

variable {env : CatalogEnv} {s s' : Catalog}

theorem moves_save {data : List (String × Value)} (h : save_monitor env s data = .ok s') :
    s.Moves s' := by
  rw [save_monitor] at h
  cases hNormal : normalize_monitor env.toEnv data true true with
  | error message =>
    rw [hNormal] at h
    cases h
  | ok normalized =>
    rw [hNormal] at h
    simp only [bind, Except.bind, throw, throwThe, MonadExceptOf.throw] at h
    split at h
    · cases h
    · split at h
      · cases h
      · cases h
        exact moves_put _ _ _

theorem moves_delete {monitor_id : String} (h : delete_monitor s monitor_id = .ok s') :
    s.Moves s' := by
  simp only [delete_monitor, bind, Except.bind, throw, throwThe, MonadExceptOf.throw] at h
  split at h
  · cases h
  · split at h
    · cases h
    · cases h
      exact .erase monitor_id rfl rfl rfl

theorem moves_setEnabled {monitor_id : String} {enabled : Bool}
    (h : set_monitor_enabled s monitor_id enabled = .ok s') : s.Moves s' := by
  rw [set_monitor_enabled] at h
  split at h
  · cases h
  · split at h
    · cases h
    · cases h
      exact moves_put _ _ _

theorem moves_sync (env : CatalogEnv) (s : Catalog) (blacklist : Dict String BlacklistEntry)
    (entry_id : String) (entry : BlacklistEntry) :
    s.Moves (sync_blacklist_monitor env { s with blacklist := blacklist } entry_id entry) := by
  rw [sync_blacklist_monitor]
  exact .put entry_id _ rfl rfl rfl rfl

variable {entry_id : String}

theorem moves_createBlacklist {category match_type value label : String}
    (h : create_blacklist_entry env s entry_id category match_type value label = .ok s') :
    s.Moves s' := by
  simp only [create_blacklist_entry, bind, Except.bind, throw, throwThe, MonadExceptOf.throw] at h
  repeat' split at h
  all_goals cases h
  all_goals exact moves_sync _ _ _ _ _

theorem moves_setBlacklistEnabled {enabled : Bool}
    (h : set_blacklist_entry_enabled env s entry_id enabled = .ok s') : s.Moves s' := by
  rw [set_blacklist_entry_enabled] at h
  split at h
  · cases h
  · cases h
    exact moves_sync _ _ _ _ _

theorem moves_deleteBlacklist (h : delete_blacklist_entry s entry_id = .ok s') : s.Moves s' := by
  rw [delete_blacklist_entry] at h
  split at h
  · cases h
  · cases h
    dsimp only
    split
    · exact .erase entry_id rfl rfl rfl
    · exact .keep rfl rfl le_rfl

theorem moves_step {edit : Edit} (h : s.step env edit = some s') : s.Moves s' := by
  rw [Catalog.step, Option.some.injEq] at h
  subst h
  split
  · rename_i s' hCall
    cases edit with
    | tick seconds =>
      cases hCall
      exact .keep rfl rfl (Nat.le_add_right _ _)
    | save data => exact moves_save hCall
    | delete monitor_id => exact moves_delete hCall
    | setEnabled monitor_id enabled => exact moves_setEnabled hCall
    | createBlacklist entry_id category match_type value label => exact moves_createBlacklist hCall
    | setBlacklistEnabled entry_id enabled => exact moves_setBlacklistEnabled hCall
    | deleteBlacklist entry_id => exact moves_deleteBlacklist hCall
  · exact .refl s

/-! ## The table at any time -/

structure Catalog.Sound (s : Catalog) : Prop where
  nodup : s.monitors.keys.Nodup
  updated : ∀ id row, s.monitors.lookup id = some row → row.updated_at ≤ s.written
  written : s.written ≤ s.clock

theorem Catalog.Sound.moves (h : s.Sound) (hMoves : s.Moves s') : s'.Sound := by
  cases hMoves with
  | keep hRows hWritten hClock =>
    refine ⟨hRows ▸ h.nodup, ?_, ?_⟩
    · rw [hRows, hWritten]
      exact h.updated
    · rw [hWritten]
      exact h.written.trans hClock
  | put id row hRows hUpdated hWritten hClock =>
    refine ⟨hRows ▸ Dict.nodup_keys_set h.nodup id row, ?_, by rw [hWritten, hClock]⟩
    intro id' row' hLookup
    rw [hRows, Dict.lookup_set] at hLookup
    rw [hWritten]
    split at hLookup
    · obtain rfl := Option.some.inj hLookup
      exact hUpdated.le
    · exact (h.updated id' row' hLookup).trans h.written
  | erase id hRows hWritten hClock =>
    refine ⟨hRows ▸ Dict.nodup_keys_erase h.nodup id, ?_, by rw [hWritten, hClock]; exact h.written⟩
    intro id' row' hLookup
    rw [hRows, Dict.lookup_erase] at hLookup
    rw [hWritten]
    split at hLookup
    · cases hLookup
    · exact h.updated id' row' hLookup

theorem Catalog.Sound.run {edits : List Edit} (h : s.Sound)
    (hRun : StepRun.run (Catalog.step env) s edits = some s') : s'.Sound :=
  StepRun.Invariant.run (fun _ _ _ hSound hStep => hSound.moves (moves_step hStep)) h hRun

/-! ## Changes in seconds of their own -/

def Catalog.changedIn (s s' : Catalog) : Bool :=
  s'.monitors.any fun entry => s.content entry.1 ≠ some entry.2.content

/-- An edit that changes something comes in a later second than the last one written. -/
def Catalog.Separated (env : CatalogEnv) (s : Catalog) (edit : Edit) : Prop :=
  ∀ s' ∈ s.step env edit, s.changedIn s' = true → s.written < s.clock

instance (env : CatalogEnv) (s : Catalog) (edit : Edit) : Decidable (s.Separated env edit) :=
  inferInstanceAs (Decidable (∀ s' ∈ some _, _))

structure Catalog.Since (s s' : Catalog) : Prop where
  written : s.written ≤ s'.written
  rows : ∀ id row, s'.monitors.lookup id = some row →
    s.content id = some row.content ∨ s.written < row.updated_at

theorem Catalog.Since.refl (s : Catalog) : s.Since s := by
  refine ⟨le_rfl, ?_⟩
  intro id row hLookup
  left
  rw [Catalog.content, hLookup]
  rfl

variable {t : Catalog}

theorem Catalog.Since.step {u : Catalog} {edit : Edit} (h : s.Since t) (hSound : t.Sound)
    (hSeparated : t.Separated env edit) (hStep : t.step env edit = some u) : s.Since u := by
  cases moves_step hStep with
  | keep hRows hWritten hClock =>
    refine ⟨hWritten ▸ h.written, ?_⟩
    rw [hRows]
    exact h.rows
  | put id row hRows hUpdated hWritten hClock =>
    refine ⟨hWritten ▸ h.written.trans hSound.written, ?_⟩
    intro id' row' hLookup
    rw [hRows, Dict.lookup_set] at hLookup
    split at hLookup
    · rename_i hId
      obtain rfl := Option.some.inj hLookup
      by_cases hSame : t.content id' = some row.content
      · -- the write keeps the contents that are there
        obtain ⟨old, hOld, hContent⟩ := Option.map_eq_some_iff.mp hSame
        rcases h.rows id' old hOld with hFirst | hLater
        · left
          rw [hFirst, hContent]
        · right
          have hOldest := hSound.updated id' old hOld
          have hClockOld := hSound.written
          omega
      · right
        have hChanged : t.changedIn u = true := by
          rw [Catalog.changedIn, List.any_eq_true]
          refine ⟨(id', row), ?_, by simpa using hSame⟩
          apply Dict.mem_of_lookup
          rw [hRows, Dict.lookup_set, if_pos hId]
        have hFresh := hSeparated u hStep hChanged
        have hFirst := h.written
        omega
    · exact h.rows id' row' hLookup
  | erase id hRows hWritten hClock =>
    refine ⟨hWritten ▸ h.written, ?_⟩
    intro id' row' hLookup
    rw [hRows, Dict.lookup_erase] at hLookup
    split at hLookup
    · cases hLookup
    · exact h.rows id' row' hLookup

theorem Catalog.Since.run {edits : List Edit} (hSound : s.Sound)
    (hRun : StepRun.run (StepRun.guarded (Catalog.Separated env) (Catalog.step env)) s edits =
    some t) :
    s.Since t := by
  have hKept : StepRun.Invariant (StepRun.guarded (Catalog.Separated env) (Catalog.step env))
      fun t => t.Sound ∧ s.Since t := by
    rintro t edit u ⟨hSoundT, hSince⟩ hStep
    obtain ⟨hSeparated, hStep⟩ := StepRun.guarded_eq_some.mp hStep
    exact ⟨hSoundT.moves (moves_step hStep), hSince.step hSoundT hSeparated hStep⟩
  exact (hKept.run ⟨hSound, .refl s⟩ hRun).2

theorem updated_le_of_stamp (hSound : s.Sound)
    (hStamp : s.monitor_catalog_stamp = t.monitor_catalog_stamp) {id : String} {row : MonitorRow}
    (hLookup : t.monitors.lookup id = some row) : row.updated_at ≤ s.written := by
  have hLatest : (s.monitors.map fun entry => entry.2.updated_at).max? =
      (t.monitors.map fun entry => entry.2.updated_at).max? :=
    congrArg (fun stamp => stamp.2.1) hStamp
  have hMem : row.updated_at ∈ t.monitors.map fun entry => entry.2.updated_at :=
    List.mem_map.mpr ⟨(id, row), Dict.mem_of_lookup hLookup, rfl⟩
  cases hMax : (t.monitors.map fun entry => entry.2.updated_at).max? with
  | none =>
    rw [List.max?_eq_none_iff] at hMax
    rw [hMax] at hMem
    cases hMem
  | some latest =>
    rw [hMax] at hLatest
    obtain ⟨entry, hEntry, hEq⟩ := List.mem_map.mp (List.max?_mem hLatest)
    have hOld := hSound.updated entry.1 entry.2 (Dict.lookup_of_mem hSound.nodup hEntry)
    have hLe : row.updated_at ≤ latest := (List.max?_le_iff hMax).mp le_rfl _ hMem
    omega

/-- Two points of a run with one stamp have the same rows, when the changes between them are
each written in a later second than every write before. -/
theorem stamp_separates (env : CatalogEnv) {s₀ s₁ s₂ : Catalog} {front back : List Edit}
    (hSound : s₀.Sound) (hFront : StepRun.run (Catalog.step env) s₀ front = some s₁)
    (hBack : StepRun.run (StepRun.guarded (Catalog.Separated env) (Catalog.step env)) s₁ back =
      some s₂) (hStamp : s₁.monitor_catalog_stamp = s₂.monitor_catalog_stamp) (id : String) :
    s₁.content id = s₂.content id := by
  have hSound₁ := hSound.run hFront
  have hSound₂ := hSound₁.run (StepRun.run_of_guarded hBack)
  have hSince := Catalog.Since.run hSound₁ hBack
  have hKept : ∀ id row, s₂.monitors.lookup id = some row → s₁.content id = some row.content := by
    intro id row hLookup
    rcases hSince.rows id row hLookup with hSame | hLater
    · exact hSame
    · exact absurd (updated_le_of_stamp hSound₁ hStamp hLookup) (Nat.not_le.mpr hLater)
  -- no row has been added, so the equal counts say that none is missing
  have hSubset : s₂.monitors.keys ⊆ s₁.monitors.keys := by
    intro key hKey
    obtain ⟨row, hLookup⟩ := Dict.lookup_isSome hKey
    obtain ⟨old, hOld, -⟩ := Option.map_eq_some_iff.mp (hKept key row hLookup)
    exact Dict.mem_keys_of_lookup hOld
  have hLength : s₁.monitors.keys.length ≤ s₂.monitors.keys.length := by
    rw [Dict.keys, Dict.keys, List.length_map, List.length_map]
    exact (congrArg Prod.fst hStamp).le
  have hPerm := (List.subperm_of_subset hSound₂.nodup hSubset).perm_of_length_le hLength
  cases hLookup₂ : s₂.monitors.lookup id with
  | some row =>
    rw [hKept id row hLookup₂, Catalog.content, hLookup₂]
    rfl
  | none =>
    cases hLookup₁ : s₁.monitors.lookup id with
    | none => rw [Catalog.content, Catalog.content, hLookup₁, hLookup₂]
    | some row =>
      have hMem := hPerm.symm.subset (Dict.mem_keys_of_lookup hLookup₁)
      obtain ⟨row', hLookup'⟩ := Dict.lookup_isSome hMem
      rw [hLookup₂] at hLookup'
      cases hLookup'

def CatalogEnv.ascii : CatalogEnv where
  toEnv := Env.ascii
  json_dumps _ := ""
  json_dumps_match _ := ""
  json_dumps_action _ := ""
  compressed _ := none
  encode_idna := some
  re_escape value := value

def customRow (enabled : Bool) : MonitorRow where
  name := "sample"
  description := ""
  enabled := enabled
  priority := 100
  source := "custom"
  mode := "rule"
  match_json := "{}"
  action_json := "{}"
  created_at := 5
  updated_at := 5

def twoMonitors : Catalog :=
  ⟨[("a", customRow true), ("b", customRow false)], [], 5, 5⟩

theorem twoMonitors_sound : twoMonitors.Sound := by
  refine ⟨by decide, ?_, by decide⟩
  intro id row hLookup
  have hMem := Dict.mem_of_lookup hLookup
  simp only [twoMonitors, List.mem_cons, Prod.mk.injEq, List.not_mem_nil, or_false] at hMem
  rcases hMem with ⟨-, rfl⟩ | ⟨-, rfl⟩
  · exact le_rfl
  · exact le_rfl

/-- The two monitors change places within one second. -/
theorem stamp_missed : ¬ ∀ (env : CatalogEnv) (s₀ s₁ s₂ : Catalog) (front back : List Edit),
    s₀.Sound → StepRun.run (Catalog.step env) s₀ front = some s₁ →
      StepRun.run (Catalog.step env) s₁ back = some s₂ →
      s₁.monitor_catalog_stamp = s₂.monitor_catalog_stamp → ∀ id, s₁.content id =
        s₂.content id := by
  intro hAll
  have hSame := hAll CatalogEnv.ascii twoMonitors twoMonitors
    ⟨[("a", customRow false), ("b", customRow true)], [], 5, 5⟩ []
    [.setEnabled "a" false, .setEnabled "b" true] twoMonitors_sound rfl rfl (by decide) "a"
  exact absurd hSame (by decide)

def passingEntry : List Edit :=
  [.tick 1, .createBlacklist "blacklist-ip-0" "ip" "exact" "10.0.0.1" "",
    .deleteBlacklist "blacklist-ip-0"]

theorem stamp_separates_passingEntry : ∃ s : Catalog,
    StepRun.run (Catalog.step CatalogEnv.ascii) twoMonitors passingEntry = some s ∧
      s.written = 6 ∧ ∀ id, twoMonitors.content id = s.content id := by
  have hRun : StepRun.run (StepRun.guarded (Catalog.Separated CatalogEnv.ascii)
      (Catalog.step CatalogEnv.ascii)) twoMonitors passingEntry =
      some { twoMonitors with clock := 6, written := 6 } := by decide
  exact ⟨_, StepRun.run_of_guarded hRun, rfl,
    stamp_separates CatalogEnv.ascii twoMonitors_sound (StepRun.run_nil _) hRun (by decide)⟩

end Sniff4Hound.Store
