import Sniff4Hound.Store.CatalogContract
import Mathlib.Data.List.Count
import Mathlib.Data.List.Sort

/-!
# The blacklist and its monitors

Every entry of the blacklist is mirrored by a monitor with its id. The calls that edit an
entry edit the mirror with it; the migration at startup rewrites and merges entries only.
From mirrored tables a run keeps every state mirrored exactly when no migration has
something to rewrite or to merge, no saved monitor claims to be a mirror and no created
entry takes the id of a monitor (`mirrors_kept_iff`).
-/

namespace Sniff4Hound.Store

/-- The catalog with the column `created_at` of the entries, which the migration reads. -/
structure ListStore where
  catalog : Catalog
  entry_created : Dict String Nat
deriving DecidableEq

inductive ListEdit
  | edit (edit : Edit)
  | migrate

/-! ## The migration -/

def listKey (entry : BlacklistEntry) : String × String × String :=
  (entry.category, entry.match_type, entry.value)

/-- The first loop of `_migrate_list_entry_duplicates`, for one row. -/
def canonicalRow (env : CatalogEnv) (row : String × BlacklistEntry) :
    Except String (String × BlacklistEntry) :=
  let entry := row.2
  if entry.match_type = "exact" ∧ (entry.category = "ip" ∨ entry.category = "domain") then do
    let value ← normalize_list_value env entry.category (strip entry.value)
    pure (row.1, { entry with value := value })
  else pure row

/-- `ORDER BY created_at ASC, id ASC` -/
def rowBefore (entry_created : Dict String Nat) (a b : String × BlacklistEntry) : Prop :=
  let created (row : String × BlacklistEntry) : Nat := (entry_created.lookup row.1).getD 0
  created a < created b ∨ created a = created b ∧ a.1 ≤ b.1

instance (entry_created : Dict String Nat) : DecidableRel (rowBefore entry_created) :=
  fun _ _ => inferInstanceAs (Decidable (_ ∨ _))

def groupRows (entry_created : Dict String Nat) (table : Dict String BlacklistEntry)
    (key : String × String × String) : List (String × BlacklistEntry) :=
  (table.filter fun row => listKey row.2 = key).insertionSort (rowBefore entry_created)

def merge_group (entry_created : Dict String Nat) (table : Dict String BlacklistEntry)
    (key : String × String × String) : Dict String BlacklistEntry :=
  match groupRows entry_created table key with
  | keeper :: loser :: more =>
    let rows := keeper :: loser :: more
    let labels := (rows.map fun row => strip row.2.label).filter (· ≠ "")
    let merged_label := join "; " (unique_ordered (fun a b => a == b) labels)
    let loser_ids := (loser :: more).map Prod.fst
    (table.set keeper.1 { keeper.2 with label := merged_label }).filter fun row =>
      row.1 ∉ loser_ids
  | _ => table

/-- `_migrate_list_entry_duplicates` of `blacklist_entries`; it raises for an address or
domain without a value. -/
def migrate_list_entry_duplicates (env : CatalogEnv) (entry_created : Dict String Nat)
    (table : Dict String BlacklistEntry) : Except String (Dict String BlacklistEntry) := do
  let table ← table.mapM (canonicalRow env)
  let keys := table.map fun row => listKey row.2
  let groups := keys.dedup.filter fun key => 1 < keys.count key
  pure (groups.foldl (merge_group entry_created) table)

/-! ## Runs -/

def ListStore.call (env : CatalogEnv) (s : ListStore) : ListEdit → Except String ListStore
  | .edit edit => do
    let catalog ← s.catalog.call env edit
    let entry_created := match edit with
      | .createBlacklist entry_id _ _ _ _ => s.entry_created.set entry_id s.catalog.clock
      | .deleteBlacklist entry_id => s.entry_created.erase entry_id
      | _ => s.entry_created
    pure ⟨catalog, entry_created⟩
  | .migrate => do
    let blacklist ← migrate_list_entry_duplicates env s.entry_created s.catalog.blacklist
    pure { s with catalog := { s.catalog with blacklist := blacklist } }

def ListStore.step (env : CatalogEnv) (s : ListStore) (edit : ListEdit) : Option ListStore :=
  some (match s.call env edit with
    | .ok s' => s'
    | .error _ => s)

/-! ## Mirrors -/

structure MirrorOf (env : CatalogEnv) (entry : BlacklistEntry) (row : MonitorRow) : Prop where
  source : row.source = "blacklist"
  enabled : row.enabled = entry.enabled
  derived : row.match_json = env.json_dumps (blacklistMatch env entry)

/-- Each entry has its monitor, and no such monitor is without an entry. -/
structure Mirrored (env : CatalogEnv) (s : Catalog) : Prop where
  row : ∀ id entry, s.blacklist.lookup id = some entry →
    ∃ row, s.monitors.lookup id = some row ∧ MirrorOf env entry row
  entry : ∀ id row, s.monitors.lookup id = some row → row.source = "blacklist" →
    ∃ entry, s.blacklist.lookup id = some entry

/-- The `source` that the data of a monitor states. -/
def statedSource (env : CatalogEnv) (data : List (String × Value)) : String :=
  let origin := strip (((Value.get data "source").orElse (.str "custom")).toText env.toRuntime)
  if origin = "" then "custom" else origin

/-- No saved monitor claims to be a mirror, no created entry takes the id of a monitor, and
the migration finds every entry with the match it has and no two entries alike. -/
def ListStore.Clean (env : CatalogEnv) (s : ListStore) : ListEdit → Prop
  | .edit (.save data) =>
    ∀ s' ∈ (save_monitor env s.catalog data).toOption, statedSource env data ≠ "blacklist"
  | .edit (.createBlacklist entry_id category match_type value label) =>
    ∀ s' ∈ (create_blacklist_entry env s.catalog entry_id category match_type value
      label).toOption, s.catalog.monitors.lookup entry_id = none
  | .edit _ => True
  | .migrate => ∀ table ∈ (s.catalog.blacklist.mapM (canonicalRow env)).toOption,
      (table.map fun row => listKey row.2).Nodup ∧
      ∀ id ∈ s.catalog.blacklist.keys, ∀ entry ∈ s.catalog.blacklist.lookup id,
        ∀ entry' ∈ table.lookup id,
          env.json_dumps (blacklistMatch env entry') = env.json_dumps (blacklistMatch env entry)

instance (env : CatalogEnv) (s : ListStore) : (edit : ListEdit) → Decidable (s.Clean env edit)
  | .edit (.save _) => inferInstanceAs (Decidable (∀ _ ∈ Except.toOption _, _))
  | .edit (.createBlacklist _ _ _ _ _) => inferInstanceAs (Decidable (∀ _ ∈ Except.toOption _, _))
  | .edit (.tick _) => isTrue trivial
  | .edit (.delete _) => isTrue trivial
  | .edit (.setEnabled _ _) => isTrue trivial
  | .edit (.setBlacklistEnabled _ _) => isTrue trivial
  | .edit (.deleteBlacklist _) => isTrue trivial
  | .migrate => inferInstanceAs (Decidable (∀ _ ∈ Except.toOption _, _ ∧ _))

/-! ## What the migration does -/

section Migration

variable {env : CatalogEnv} {entry_created : Dict String Nat}

theorem canonicalRow_ok {row row' : String × BlacklistEntry} (h : canonicalRow env row = .ok row') :
    row'.1 = row.1 ∧ row'.2.enabled = row.2.enabled := by
  simp only [canonicalRow, bind, Except.bind, pure, Except.pure] at h
  split at h
  · split at h
    · cases h
    · cases h
      exact ⟨rfl, rfl⟩
  · cases h
    exact ⟨rfl, rfl⟩

variable {table : Dict String BlacklistEntry}

theorem lookup_canonical {table' : Dict String BlacklistEntry}
    (h : table.mapM (canonicalRow env) = .ok table') (id : String) :
    (table'.lookup id = none ∧ table.lookup id = none) ∨
      ∃ entry entry', table.lookup id = some entry ∧ table'.lookup id = some entry' ∧
        entry'.enabled = entry.enabled := by
  induction table generalizing table' with
  | nil =>
    cases h
    exact Or.inl ⟨rfl, rfl⟩
  | cons row table ih =>
    simp only [List.mapM_cons, bind, Except.bind, pure, Except.pure] at h
    split at h
    · cases h
    · next row' hRow =>
      split at h
      · cases h
      · next rest hRest =>
        cases h
        obtain ⟨hId, hEnabled⟩ := canonicalRow_ok hRow
        by_cases hHere : id = row.1
        · subst hHere
          refine Or.inr ⟨row.2, row'.2, List.lookup_cons_self, ?_, hEnabled⟩
          rw [← hId]
          exact List.lookup_cons_self
        · have hOld : (row :: table).lookup id = table.lookup id := by
            rw [List.lookup_cons, beq_false_of_ne hHere]
          have hNew : (row' :: rest).lookup id = rest.lookup id := by
            rw [List.lookup_cons, beq_false_of_ne (hId ▸ hHere)]
          rw [hOld, hNew]
          exact ih hRest

variable {key : String × String × String}

theorem mem_of_mem_groupRows {row : String × BlacklistEntry}
    (h : row ∈ groupRows entry_created table key) : row ∈ table :=
  (List.mem_filter.mp ((List.mem_insertionSort _).mp h)).1

theorem length_groupRows (entry_created : Dict String Nat) (table : Dict String BlacklistEntry)
    (key : String × String × String) :
    (groupRows entry_created table key).length = (table.map fun row => listKey row.2).count key := by
  rw [groupRows, List.length_insertionSort, List.count, List.countP_map, List.countP_eq_length_filter]
  congr 2
  funext row
  rw [Bool.eq_iff_iff, decide_eq_true_iff]
  exact beq_iff_eq.symm

theorem mem_keys_merge_group {id : String}
    (h : id ∈ Dict.keys (merge_group entry_created table key)) : id ∈ table.keys := by
  unfold merge_group at h
  split at h
  · next keeper loser more hRows =>
    obtain ⟨row, hRow, rfl⟩ := List.mem_map.mp h
    have hSet := List.mem_map_of_mem (f := Prod.fst) (List.mem_filter.mp hRow).1
    rcases (Dict.mem_keys_set table keeper.1 row.1 _).mp hSet with hOld | hKeeper
    · exact hOld
    · have hIn : keeper ∈ groupRows entry_created table key := by
        rw [hRows]
        exact List.mem_cons_self
      rw [hKeeper]
      exact List.mem_map_of_mem (mem_of_mem_groupRows hIn)
  · exact h

theorem merge_group_single (h : (table.map fun row => listKey row.2).count key ≤ 1) :
    merge_group entry_created table key = table := by
  rw [← length_groupRows entry_created] at h
  unfold merge_group
  split
  · next keeper loser more hRows =>
    rw [hRows, List.length_cons, List.length_cons] at h
    omega
  · rfl

theorem merge_group_loses (h : 1 < (table.map fun row => listKey row.2).count key) :
    ∃ id ∈ table.keys, id ∉ Dict.keys (merge_group entry_created table key) := by
  rw [← length_groupRows entry_created] at h
  unfold merge_group
  split
  · next keeper loser more hRows =>
    have hIn : loser ∈ groupRows entry_created table key := by
      rw [hRows]
      exact List.mem_cons_of_mem _ List.mem_cons_self
    refine ⟨loser.1, List.mem_map_of_mem (mem_of_mem_groupRows hIn), ?_⟩
    · intro hLeft
      obtain ⟨row, hRow, hId⟩ := List.mem_map.mp hLeft
      have hOut := of_decide_eq_true (List.mem_filter.mp hRow).2
      rw [hId] at hOut
      exact hOut List.mem_cons_self
  · next hFew =>
    exfalso
    generalize groupRows entry_created table key = rows at h hFew
    match rows, h, hFew with
    | keeper :: loser :: more, _, hFew => exact hFew keeper loser more rfl

theorem mem_keys_merged {groups : List (String × String × String)} {id : String}
    (h : id ∈ Dict.keys (groups.foldl (merge_group entry_created) table)) : id ∈ table.keys := by
  induction groups generalizing table with
  | nil => exact h
  | cons key groups ih => exact mem_keys_merge_group (ih h)

theorem merged_of_keeps {groups : List (String × String × String)}
    (h : ∀ id ∈ table.keys, id ∈ Dict.keys (groups.foldl (merge_group entry_created) table)) :
    ∀ key ∈ groups, (table.map fun row => listKey row.2).count key ≤ 1 := by
  induction groups generalizing table with
  | nil => exact fun _ hKey => absurd hKey List.not_mem_nil
  | cons first groups ih =>
    have hFirst : (table.map fun row => listKey row.2).count first ≤ 1 := by
      by_contra hMany
      obtain ⟨id, hId, hLost⟩ := merge_group_loses
        (Nat.lt_of_not_le hMany)
      exact hLost (mem_keys_merged (h id hId))
    intro key hKey
    rcases List.mem_cons.mp hKey with rfl | hLater
    · exact hFirst
    · rw [List.foldl_cons, merge_group_single hFirst] at h
      exact ih h key hLater

/-- The migration rewrites the rows and then loses one of them, unless they are all of
different kinds. -/
theorem migrate_ok {merged : Dict String BlacklistEntry}
    (h : migrate_list_entry_duplicates env entry_created table = .ok merged) :
    ∃ rewritten, table.mapM (canonicalRow env) = .ok rewritten ∧
      ((rewritten.map fun row => listKey row.2).Nodup → merged = rewritten) ∧
      (¬ (rewritten.map fun row => listKey row.2).Nodup →
        ∃ id ∈ Dict.keys rewritten, id ∉ Dict.keys merged) := by
  simp only [migrate_list_entry_duplicates, bind, Except.bind, pure, Except.pure] at h
  split at h
  · cases h
  · next rewritten hRewritten =>
    refine ⟨rewritten, hRewritten, ?_, ?_⟩
    · intro hNodup
      have hGroups : ((rewritten.map fun row => listKey row.2).dedup.filter fun key =>
          1 < (rewritten.map fun row => listKey row.2).count key) = [] := by
        apply List.filter_eq_nil_iff.mpr
        intro key _
        have hOne := List.nodup_iff_count_le_one.mp hNodup key
        simpa using hOne
      rw [hGroups] at h
      exact (Except.ok.inj h).symm
    · intro hNot
      by_contra hKeeps
      push Not at hKeeps
      apply hNot
      rw [← Except.ok.inj h] at hKeeps
      have hSingle := merged_of_keeps hKeeps
      rw [List.nodup_iff_count_le_one]
      intro key
      by_contra hMany
      have hMem : key ∈ rewritten.map fun row => listKey row.2 :=
        List.count_pos_iff.mp (by omega)
      have hGroup := hSingle key (List.mem_filter.mpr
        ⟨List.mem_dedup.mpr hMem, by simpa using Nat.lt_of_not_le hMany⟩)
      exact hMany hGroup

end Migration

/-! ## What one call does to the mirrors -/

section Calls

variable {env : CatalogEnv} {s s' : Catalog} {id : String}

theorem Mirrored.no_entry (h : Mirrored env s)
    (hSource : (s.monitors.lookup id).map MonitorRow.source ≠ some "blacklist") :
    s.blacklist.lookup id = none := by
  by_contra hEntry
  obtain ⟨entry, hEntry⟩ := Option.ne_none_iff_exists'.mp hEntry
  obtain ⟨row, hRow, hMirror⟩ := h.row id entry hEntry
  rw [hRow, Option.map_some, hMirror.source] at hSource
  exact hSource rfl

theorem Mirrored.set_both (h : Mirrored env s) {entry : BlacklistEntry} {row : MonitorRow}
    (hMirror : MirrorOf env entry row) (hMonitors : s'.monitors = s.monitors.set id row)
    (hBlacklist : s'.blacklist = s.blacklist.set id entry) : Mirrored env s' := by
  constructor
  · intro id' entry' hEntry
    rw [hBlacklist, Dict.lookup_set] at hEntry
    rw [hMonitors, Dict.lookup_set]
    split at hEntry
    · next hId =>
      obtain rfl := Option.some.inj hEntry
      exact ⟨row, if_pos hId, hMirror⟩
    · next hId =>
      rw [if_neg hId]
      exact h.row id' entry' hEntry
  · intro id' row' hRow hSource
    rw [hMonitors, Dict.lookup_set] at hRow
    rw [hBlacklist, Dict.lookup_set]
    split at hRow
    · next hId => exact ⟨entry, if_pos hId⟩
    · next hId =>
      rw [if_neg hId]
      exact h.entry id' row' hRow hSource

theorem Mirrored.set_monitor (h : Mirrored env s) {row : MonitorRow}
    (hNone : s.blacklist.lookup id = none) (hSource : row.source ≠ "blacklist")
    (hMonitors : s'.monitors = s.monitors.set id row) (hBlacklist : s'.blacklist = s.blacklist) :
    Mirrored env s' := by
  constructor
  · intro id' entry hEntry
    rw [hBlacklist] at hEntry
    have hId : id' ≠ id := by
      rintro rfl
      rw [hNone] at hEntry
      cases hEntry
    rw [hMonitors, Dict.lookup_set, if_neg hId]
    exact h.row id' entry hEntry
  · intro id' row' hRow hMirror
    rw [hMonitors, Dict.lookup_set] at hRow
    rw [hBlacklist]
    split at hRow
    · obtain rfl := Option.some.inj hRow
      exact absurd hMirror hSource
    · exact h.entry id' row' hRow hMirror

theorem Mirrored.erase (h : Mirrored env s) (hMonitors : s'.monitors = s.monitors.erase id)
    (hBlacklist : ∀ id', s'.blacklist.lookup id' = if id' = id then none else s.blacklist.lookup id') :
    Mirrored env s' := by
  constructor
  · intro id' entry hEntry
    rw [hBlacklist] at hEntry
    split at hEntry
    · cases hEntry
    · next hId =>
      rw [hMonitors, Dict.lookup_erase, if_neg hId]
      exact h.row id' entry hEntry
  · intro id' row hRow hSource
    rw [hMonitors, Dict.lookup_erase] at hRow
    rw [hBlacklist]
    split at hRow
    · cases hRow
    · next hId =>
      rw [if_neg hId]
      exact h.entry id' row hRow hSource

theorem sync_blacklist_monitor_row (env : CatalogEnv) (s : Catalog) (entry_id : String)
    (entry : BlacklistEntry) : ∃ row,
      (sync_blacklist_monitor env s entry_id entry).monitors = s.monitors.set entry_id row ∧
      row.source = ((s.monitors.lookup entry_id).map MonitorRow.source).getD "blacklist" ∧
      row.enabled = entry.enabled ∧ row.match_json = env.json_dumps (blacklistMatch env entry) :=
  ⟨_, rfl, rfl, rfl, rfl⟩

variable {entry_id : String}

theorem Mirrored.sync_new (h : Mirrored env s) (entry : BlacklistEntry)
    (hFree : s.monitors.lookup entry_id = none) :
    Mirrored env (sync_blacklist_monitor env
      { s with blacklist := s.blacklist.set entry_id entry } entry_id entry) := by
  obtain ⟨row, hMonitors, hSource, hEnabled, hDerived⟩ := sync_blacklist_monitor_row env
    { s with blacklist := s.blacklist.set entry_id entry } entry_id entry
  refine h.set_both ⟨?_, hEnabled, hDerived⟩ hMonitors rfl
  rw [hSource]
  show ((s.monitors.lookup entry_id).map MonitorRow.source).getD "blacklist" = "blacklist"
  rw [hFree]
  rfl

theorem save_monitor_ok {data : List (String × Value)} (h : save_monitor env s data = .ok s') :
    ∃ id row, s'.monitors = s.monitors.set id row ∧ s'.blacklist = s.blacklist ∧
      row.source = statedSource env data ∧
      (s.monitors.lookup id).map MonitorRow.source ≠ some "blacklist" := by
  rw [save_monitor] at h
  cases hNormal : normalize_monitor env.toEnv data true true with
  | error message =>
    rw [hNormal] at h
    cases h
  | ok normalized =>
    have hSource : normalized.source = some (statedSource env data) := by
      simp only [normalize_monitor, bind_eq_ok, pure_eq_ok] at hNormal
      obtain ⟨_, -, _, -, _, -, _, -, rfl⟩ := hNormal
      dsimp only
      rw [if_pos trivial, statedSource]
    rw [hNormal] at h
    simp only [bind, Except.bind, throw, throwThe, MonadExceptOf.throw] at h
    split at h
    · cases h
    · split at h
      · cases h
      · next hMirror =>
        cases h
        refine ⟨normalized.id, _, rfl, rfl, ?_, hMirror⟩
        show normalized.source.getD "custom" = statedSource env data
        rw [hSource, Option.getD_some]

variable (hMirrored : Mirrored env s)

include hMirrored

theorem mirrored_save_iff {data : List (String × Value)} (h : save_monitor env s data = .ok s') :
    Mirrored env s' ↔ statedSource env data ≠ "blacklist" := by
  obtain ⟨id, row, hMonitors, hBlacklist, hSource, hNotMirror⟩ := save_monitor_ok h
  have hNone := hMirrored.no_entry hNotMirror
  constructor
  · intro hAfter hStated
    have hRow : s'.monitors.lookup id = some row := by
      rw [hMonitors, Dict.lookup_set, if_pos rfl]
    obtain ⟨entry, hEntry⟩ := hAfter.entry id row hRow (hSource.trans hStated)
    rw [hBlacklist, hNone] at hEntry
    cases hEntry
  · intro hStated
    exact hMirrored.set_monitor hNone (hSource ▸ hStated) hMonitors hBlacklist

theorem mirrored_delete {monitor_id : String} (h : delete_monitor s monitor_id = .ok s') :
    Mirrored env s' := by
  simp only [delete_monitor, bind, Except.bind, throw, throwThe, MonadExceptOf.throw] at h
  split at h
  · cases h
  · split at h
    · cases h
    · next hNotMirror =>
      cases h
      refine hMirrored.erase rfl ?_
      intro id
      split
      · next hId =>
        subst hId
        exact hMirrored.no_entry hNotMirror
      · rfl

theorem mirrored_setEnabled {monitor_id : String} {enabled : Bool}
    (h : set_monitor_enabled s monitor_id enabled = .ok s') : Mirrored env s' := by
  rw [set_monitor_enabled] at h
  split at h
  · cases h
  · next existing hExisting =>
    split at h
    · cases h
    · next hSource =>
      cases h
      have hNone : s.blacklist.lookup monitor_id = none := by
        apply hMirrored.no_entry
        rw [hExisting, Option.map_some]
        exact fun hSame => hSource (Option.some.inj hSame)
      refine hMirrored.set_monitor hNone ?_ rfl rfl
      exact hSource

theorem mirrored_create_iff {category match_type value label : String}
    (h : create_blacklist_entry env s entry_id category match_type value label = .ok s') :
    Mirrored env s' ↔ s.monitors.lookup entry_id = none := by
  obtain ⟨entry, -, -, -, hNew, rfl⟩ := create_blacklist_entry_ok h
  obtain ⟨row, hMonitors, hSource, hEnabled, hDerived⟩ := sync_blacklist_monitor_row env
    { s with blacklist := s.blacklist.set entry_id entry } entry_id entry
  constructor
  · intro hAfter
    have hEntry : (s.blacklist.set entry_id entry).lookup entry_id = some entry := by
      rw [Dict.lookup_set, if_pos rfl]
    obtain ⟨row', hRow', hMirror⟩ := hAfter.row entry_id entry hEntry
    rw [hMonitors, Dict.lookup_set, if_pos rfl] at hRow'
    obtain rfl := Option.some.inj hRow'
    by_contra hTaken
    obtain ⟨old, hOld⟩ := Option.ne_none_iff_exists'.mp hTaken
    have hOldSource : old.source = "blacklist" := by
      rw [hMirror.source] at hSource
      simpa [hOld] using hSource.symm
    obtain ⟨known, hKnown⟩ := hMirrored.entry entry_id old hOld hOldSource
    rw [hNew] at hKnown
    cases hKnown
  · exact hMirrored.sync_new entry

theorem mirrored_setBlacklistEnabled {enabled : Bool}
    (h : set_blacklist_entry_enabled env s entry_id enabled = .ok s') : Mirrored env s' := by
  rw [set_blacklist_entry_enabled] at h
  split at h
  · cases h
  · next existing hExisting =>
    cases h
    obtain ⟨old, hOld, hMirror⟩ := hMirrored.row entry_id existing hExisting
    obtain ⟨row, hMonitors, hSource, hEnabled, hDerived⟩ := sync_blacklist_monitor_row env
      { s with blacklist := s.blacklist.set entry_id { existing with enabled := enabled } }
      entry_id { existing with enabled := enabled }
    refine hMirrored.set_both ⟨?_, hEnabled, hDerived⟩ hMonitors rfl
    rw [hSource]
    show ((s.monitors.lookup entry_id).map MonitorRow.source).getD "blacklist" = "blacklist"
    rw [hOld, Option.map_some, hMirror.source]
    rfl

theorem mirrored_deleteBlacklist (h : delete_blacklist_entry s entry_id = .ok s') :
    Mirrored env s' := by
  rw [delete_blacklist_entry] at h
  split at h
  · cases h
  · next existing hExisting =>
    obtain ⟨old, hOld, hMirror⟩ := hMirrored.row entry_id existing hExisting
    have hSource : (s.monitors.lookup entry_id).map MonitorRow.source = some "blacklist" := by
      rw [hOld, Option.map_some, hMirror.source]
    simp only [hSource, if_true, pure, Except.pure, Except.ok.injEq] at h
    subst h
    refine hMirrored.erase rfl ?_
    intro id
    exact Dict.lookup_erase s.blacklist entry_id id

theorem mirrored_migrate_iff {entry_created : Dict String Nat}
    {merged rewritten : Dict String BlacklistEntry}
    (hRewritten : s.blacklist.mapM (canonicalRow env) = .ok rewritten)
    (h : migrate_list_entry_duplicates env entry_created s.blacklist = .ok merged) :
    Mirrored env { s with blacklist := merged } ↔
      (rewritten.map fun row => listKey row.2).Nodup ∧
      ∀ id ∈ s.blacklist.keys, ∀ entry ∈ s.blacklist.lookup id, ∀ entry' ∈ rewritten.lookup id,
        env.json_dumps (blacklistMatch env entry') = env.json_dumps (blacklistMatch env entry) := by
  obtain ⟨table, hTable, hWhole, hLost⟩ := migrate_ok h
  obtain rfl := Except.ok.inj (hTable.symm.trans hRewritten)
  constructor
  · intro hAfter
    have hNodup : (table.map fun row => listKey row.2).Nodup := by
      by_contra hAlike
      obtain ⟨id, hId, hGone⟩ := hLost hAlike
      obtain ⟨kept, hKept⟩ := Dict.lookup_isSome hId
      rcases lookup_canonical hTable id with ⟨hNone, -⟩ | ⟨entry, -, hEntry, -, -⟩
      · rw [hKept] at hNone
        cases hNone
      · -- the mirror of the lost row stays
        obtain ⟨row, hRow, hMirror⟩ := hMirrored.row id entry hEntry
        obtain ⟨left, hLeft⟩ := hAfter.entry id row hRow hMirror.source
        exact hGone (Dict.mem_keys_of_lookup hLeft)
    refine ⟨hNodup, ?_⟩
    intro id _ entry hEntry entry' hEntry'
    obtain ⟨row, hRow, hMirror⟩ := hMirrored.row id entry hEntry
    obtain ⟨row', hRow', hMirror'⟩ := hAfter.row id entry' (by
      show merged.lookup id = some entry'
      rw [hWhole hNodup]
      exact hEntry')
    obtain rfl := Option.some.inj (hRow'.symm.trans hRow)
    exact hMirror'.derived.symm.trans hMirror.derived
  · rintro ⟨hNodup, hSame⟩
    obtain rfl := hWhole hNodup
    constructor
    · intro id entry' hEntry'
      rcases lookup_canonical hTable id with ⟨hNone, -⟩ | ⟨entry, found, hEntry, hFound, hEnabled⟩
      · exact absurd (hNone.symm.trans hEntry') nofun
      · obtain rfl := Option.some.inj (hFound.symm.trans hEntry')
        obtain ⟨row, hRow, hMirror⟩ := hMirrored.row id entry hEntry
        have hDerived := hSame id (Dict.mem_keys_of_lookup hEntry) entry hEntry found hFound
        exact ⟨row, hRow, hMirror.source, hMirror.enabled.trans hEnabled.symm,
          hMirror.derived.trans hDerived.symm⟩
    · intro id row hRow hSource
      obtain ⟨entry, hEntry⟩ := hMirrored.entry id row hRow hSource
      rcases lookup_canonical hTable id with ⟨-, hNone⟩ | ⟨_, found, -, hFound, -⟩
      · exact absurd (hNone.symm.trans hEntry) nofun
      · exact ⟨found, hFound⟩

end Calls

/-! ## Runs that keep the mirrors -/

variable {env : CatalogEnv} {s : ListStore}

theorem clean_of_error {edit : Edit} {message : String}
    (h : s.catalog.call env edit = .error message) : s.Clean env (.edit edit) := by
  cases edit with
  | save data =>
    intro s' hSaved
    rw [show save_monitor env s.catalog data = .error message from h] at hSaved
    cases hSaved
  | createBlacklist entry_id category match_type value label =>
    intro s' hCreated
    rw [show create_blacklist_entry env s.catalog entry_id category match_type value label =
      .error message from h] at hCreated
    cases hCreated
  | tick => exact trivial
  | delete => exact trivial
  | setEnabled => exact trivial
  | setBlacklistEnabled => exact trivial
  | deleteBlacklist => exact trivial

theorem mirrored_edit_iff {edit : Edit} {catalog : Catalog} (hMirrored : Mirrored env s.catalog)
    (h : s.catalog.call env edit = .ok catalog) :
    Mirrored env catalog ↔ s.Clean env (.edit edit) := by
  cases edit with
  | tick seconds =>
    cases h
    exact iff_of_true ⟨hMirrored.row, hMirrored.entry⟩ trivial
  | save data =>
    have hSaved : save_monitor env s.catalog data = .ok catalog := h
    refine (mirrored_save_iff hMirrored hSaved).trans ?_
    show _ ↔ ∀ s' ∈ Except.toOption _, _
    rw [hSaved]
    exact ⟨fun hStated _ _ => hStated, fun hClean => hClean catalog rfl⟩
  | delete monitor_id => exact iff_of_true (mirrored_delete hMirrored h) trivial
  | setEnabled monitor_id enabled => exact iff_of_true (mirrored_setEnabled hMirrored h) trivial
  | createBlacklist entry_id category match_type value label =>
    have hCreated : create_blacklist_entry env s.catalog entry_id category match_type value label =
      .ok catalog := h
    refine (mirrored_create_iff hMirrored hCreated).trans ?_
    show _ ↔ ∀ s' ∈ Except.toOption _, _
    rw [hCreated]
    exact ⟨fun hFree _ _ => hFree, fun hClean => hClean catalog rfl⟩
  | setBlacklistEnabled entry_id enabled =>
    exact iff_of_true (mirrored_setBlacklistEnabled hMirrored h) trivial
  | deleteBlacklist entry_id => exact iff_of_true (mirrored_deleteBlacklist hMirrored h) trivial

theorem mirrored_migration_iff {s' : ListStore} (hMirrored : Mirrored env s.catalog)
    (hStep : s.step env .migrate = some s') : Mirrored env s'.catalog ↔ s.Clean env .migrate := by
  rw [ListStore.step, Option.some.injEq] at hStep
  subst hStep
  cases hRewritten : s.catalog.blacklist.mapM (canonicalRow env) with
  | error message =>
    have hCall : s.call env .migrate = .error message := by
      simp [ListStore.call, migrate_list_entry_duplicates, hRewritten, bind, Except.bind]
    rw [hCall]
    refine iff_of_true hMirrored ?_
    intro table hTable
    rw [hRewritten] at hTable
    cases hTable
  | ok rewritten =>
    obtain ⟨merged, hMigrate⟩ : ∃ merged, migrate_list_entry_duplicates env s.entry_created
        s.catalog.blacklist = .ok merged := by
      simp [migrate_list_entry_duplicates, hRewritten, bind, Except.bind, pure, Except.pure]
    have hCall : s.call env .migrate =
        .ok { s with catalog := { s.catalog with blacklist := merged } } := by
      simp [ListStore.call, hMigrate, bind, Except.bind, pure, Except.pure]
    rw [hCall]
    refine (mirrored_migrate_iff hMirrored hRewritten hMigrate).trans ?_
    show _ ↔ ∀ table ∈ Except.toOption _, _
    rw [hRewritten]
    constructor
    · intro hClean table hTable
      cases hTable
      exact hClean
    · intro hClean
      exact hClean rewritten rfl

theorem mirrored_step_iff {s' : ListStore} {edit : ListEdit} (hMirrored : Mirrored env s.catalog)
    (hStep : s.step env edit = some s') : Mirrored env s'.catalog ↔ s.Clean env edit := by
  cases edit with
  | migrate => exact mirrored_migration_iff hMirrored hStep
  | edit edit =>
    rw [ListStore.step, Option.some.injEq] at hStep
    subst hStep
    cases hCall : s.catalog.call env edit with
    | error message =>
      have hError : s.call env (.edit edit) = .error message := by
        simp [ListStore.call, hCall, bind, Except.bind]
      rw [hError]
      exact iff_of_true hMirrored (clean_of_error hCall)
    | ok catalog =>
      rw [← mirrored_edit_iff hMirrored hCall]
      simp [ListStore.call, hCall, bind, Except.bind, pure, Except.pure]

/-- The monitors of the blacklist are the mirrors of its entries throughout a run just when
every call of it meets the condition. -/
theorem mirrors_kept_iff {env : CatalogEnv} {s : ListStore} (hMirrored : Mirrored env s.catalog)
    (edits : List ListEdit) :
    (∀ front, front <+: edits → ∀ s', StepRun.run (ListStore.step env) s front = some s' →
        Mirrored env s'.catalog) ↔
      ∃ s', StepRun.run (StepRun.guarded (ListStore.Clean env) (ListStore.step env)) s edits =
        some s' := by
  refine (StepRun.guarded_run_iff (I := fun s : ListStore => Mirrored env s.catalog)
    (fun s edit => ⟨_, rfl⟩) ?_
    hMirrored edits).symm
  exact fun s edit s' hMirrored hStep => mirrored_step_iff hMirrored hStep

/-! ## A merge that leaves a mirror behind -/

def legacyEntry : BlacklistEntry := ⟨"ip", "exact", "10.0.0.5", "", true⟩

def Catalog.addLegacy (s : Catalog) (id : String) : Catalog :=
  sync_blacklist_monitor .ascii { s with blacklist := s.blacklist.set id legacyEntry } id legacyEntry

def legacyStore : ListStore where
  catalog := (Catalog.addLegacy ⟨[], [], 0, 0⟩ "blacklist-ip-a").addLegacy "blacklist-ip-b"
  entry_created := [("blacklist-ip-a", 0), ("blacklist-ip-b", 300)]

theorem mirrored_empty (env : CatalogEnv) : Mirrored env ⟨[], [], 0, 0⟩ := ⟨nofun, nofun⟩

theorem legacyStore_mirrored : Mirrored .ascii legacyStore.catalog :=
  ((mirrored_empty .ascii).sync_new legacyEntry rfl).sync_new legacyEntry rfl

/-- The merge deletes the younger entry and leaves its monitor. -/
theorem merge_orphans : ¬ ∀ (env : CatalogEnv) (s s' : ListStore) (edits : List ListEdit),
    Mirrored env s.catalog → StepRun.run (ListStore.step env) s edits = some s' →
      Mirrored env s'.catalog := by
  intro hAll
  obtain ⟨s', hRun, hGone, hLeft⟩ : ∃ s', StepRun.run (ListStore.step .ascii) legacyStore [.migrate] =
      some s' ∧ s'.catalog.blacklist.lookup "blacklist-ip-b" = none ∧
      (s'.catalog.monitors.lookup "blacklist-ip-b").map MonitorRow.source = some "blacklist" :=
    ⟨_, rfl, by decide +kernel, by decide +kernel⟩
  have hAfter := hAll .ascii legacyStore s' [.migrate] legacyStore_mirrored hRun
  obtain ⟨row, hRow, hSource⟩ := Option.map_eq_some_iff.mp hLeft
  obtain ⟨entry, hEntry⟩ := hAfter.entry "blacklist-ip-b" row hRow hSource
  rw [hGone] at hEntry
  cases hEntry

def mirroredEdits : List ListEdit :=
  [.edit (.createBlacklist "blacklist-ip-0" "ip" "exact" "10.0.0.1" ""),
    .edit (.setBlacklistEnabled "blacklist-ip-0" false), .migrate,
    .edit (.deleteBlacklist "blacklist-ip-0")]

theorem mirrors_kept_mirroredEdits :
    (StepRun.run (ListStore.step .ascii) ⟨⟨[], [], 0, 0⟩, []⟩ mirroredEdits).isSome ∧
    ∀ front, front <+: mirroredEdits → ∀ s',
      StepRun.run (ListStore.step .ascii) ⟨⟨[], [], 0, 0⟩, []⟩ front = some s' →
        Mirrored .ascii s'.catalog := by
  constructor
  · decide +kernel
  · refine (mirrors_kept_iff (mirrored_empty .ascii) mirroredEdits).mpr ?_
    apply Option.isSome_iff_exists.mp
    decide +kernel

end Sniff4Hound.Store
