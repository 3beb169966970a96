import Sniff4Hound.Store.MonitorCatalog

/-!
# Seeding the builtin monitors

`_seed_new_builtin_monitors` of `store.py`, which runs at every start: monitors that are new in the
packaged catalog are inserted, builtin rows whose definition changed are rewritten apart from their
flag, and builtin rows that left the catalog are deleted. The rows of others are not touched
(`seed_synchronizes`). SQLite's limit on the variables that one statement binds is left out.
-/

namespace Sniff4Hound.Store

/-- A row of `builtin_monitor_seed_fields`. -/
structure SeedFields where
  id : String
  name : String
  description : String
  enabled : Bool
  priority : Int
  source : String
  mode : String
  match_json : String
  action_json : String

structure BuiltinCatalog where
  fields : List SeedFields
  distinct : (fields.map SeedFields.id).Nodup
  builtin : ∀ f ∈ fields, f.source = "builtin"

/-- The `monitors` table, with its primary key. -/
@[ext]
structure MonitorsTable where
  rows : Dict String MonitorRow
  primary_key : rows.keys.Nodup

def SeedFields.row (f : SeedFields) (now : Nat) : MonitorRow where
  name := f.name
  description := f.description
  enabled := f.enabled
  priority := f.priority
  source := f.source
  mode := f.mode
  match_json := f.match_json
  action_json := f.action_json
  created_at := now
  updated_at := now

def SeedFields.Defines (f : SeedFields) (row : MonitorRow) : Prop :=
  row.name = f.name ∧ row.description = f.description ∧ row.priority = f.priority ∧
    row.mode = f.mode ∧ row.match_json = f.match_json ∧ row.action_json = f.action_json

instance (f : SeedFields) (row : MonitorRow) : Decidable (f.Defines row) :=
  inferInstanceAs (Decidable (_ ∧ _))

def SeedFields.redefine (f : SeedFields) (now : Nat) (row : MonitorRow) : MonitorRow :=
  { row with
    name := f.name
    description := f.description
    priority := f.priority
    mode := f.mode
    match_json := f.match_json
    action_json := f.action_json
    updated_at := now }

namespace MonitorsTable

def insert_rows (catalog : BuiltinCatalog) (rows : Dict String MonitorRow) : List SeedFields :=
  catalog.fields.filter fun f => rows.lookup f.id = none

def update_rows (catalog : BuiltinCatalog) (rows : Dict String MonitorRow) : List SeedFields :=
  catalog.fields.filter fun f => (rows.lookup f.id).any fun row =>
    decide (row.source = "builtin" ∧ ¬f.Defines row)

def stale_builtin_ids (catalog : BuiltinCatalog) (rows : Dict String MonitorRow) : List String :=
  (rows.filter fun entry =>
    decide (entry.2.source = "builtin" ∧ entry.1 ∉ catalog.fields.map SeedFields.id)).map Prod.fst

/-- `INSERT OR IGNORE`. -/
def insertOrIgnore (now : Nat) (rows : Dict String MonitorRow) (f : SeedFields) :
    Dict String MonitorRow :=
  if (rows.lookup f.id).isSome then rows else rows.set f.id (f.row now)

/-- `UPDATE … WHERE id = ? AND source = 'builtin'`. -/
def updateBuiltin (now : Nat) (rows : Dict String MonitorRow) (f : SeedFields) :
    Dict String MonitorRow :=
  rows.map fun entry =>
    (entry.1, if entry.1 = f.id ∧ entry.2.source = "builtin" then f.redefine now entry.2
      else entry.2)

/-- `DELETE … WHERE source = 'builtin' AND id IN (…)`. -/
def deleteBuiltin (rows : Dict String MonitorRow) (ids : List String) : Dict String MonitorRow :=
  rows.filter fun entry => ¬(entry.2.source = "builtin" ∧ entry.1 ∈ ids)

theorem keys_updateBuiltin (now : Nat) (rows : Dict String MonitorRow) (f : SeedFields) :
    (updateBuiltin now rows f).keys = rows.keys := by
  unfold updateBuiltin Dict.keys
  rw [List.map_map]
  rfl

theorem nodup_inserted (now : Nat) (fields : List SeedFields) {rows : Dict String MonitorRow}
    (h : rows.keys.Nodup) : (fields.foldl (insertOrIgnore now) rows).keys.Nodup := by
  induction fields generalizing rows with
  | nil => exact h
  | cons f fields ih =>
    rw [List.foldl_cons]
    apply ih
    unfold insertOrIgnore
    split
    · exact h
    · exact Dict.nodup_keys_set h _ _

theorem nodup_updated (now : Nat) (fields : List SeedFields) {rows : Dict String MonitorRow}
    (h : rows.keys.Nodup) : (fields.foldl (updateBuiltin now) rows).keys.Nodup := by
  induction fields generalizing rows with
  | nil => exact h
  | cons f fields ih =>
    rw [List.foldl_cons]
    apply ih
    rwa [keys_updateBuiltin]

/-- `_seed_new_builtin_monitors`; the lists are those of the table as it was read first. -/
def seed_new_builtin_monitors (table : MonitorsTable) (catalog : BuiltinCatalog) (now : Nat) :
    MonitorsTable where
  rows :=
    let inserted := (insert_rows catalog table.rows).foldl (insertOrIgnore now) table.rows
    let updated := (update_rows catalog table.rows).foldl (updateBuiltin now) inserted
    deleteBuiltin updated (stale_builtin_ids catalog table.rows)
  primary_key :=
    Dict.nodup_keys_filter (nodup_updated now _ (nodup_inserted now _ table.primary_key)) _

/-! ## What becomes of a row -/

def entry (catalog : BuiltinCatalog) (id : String) : Option SeedFields :=
  catalog.fields.find? fun f => f.id = id

def seededRow (catalog : BuiltinCatalog) (now : Nat) (id : String) :
    Option MonitorRow → Option MonitorRow
  | none => (entry catalog id).map fun f => f.row now
  | some row =>
    if row.source = "builtin" then
      (entry catalog id).map fun f => if f.Defines row then row else f.redefine now row
    else some row

theorem lookup_inserted (now : Nat) (fields : List SeedFields) (rows : Dict String MonitorRow)
    (id : String) :
    (fields.foldl (insertOrIgnore now) rows).lookup id =
      (rows.lookup id).or ((fields.find? fun f => f.id = id).map fun f => f.row now) := by
  induction fields generalizing rows with
  | nil => simp
  | cons f fields ih =>
    rw [List.foldl_cons, ih, List.find?_cons]
    unfold insertOrIgnore
    by_cases hId : f.id = id
    · subst hId
      split
      · rename_i hSome
        obtain ⟨row, hRow⟩ := Option.isSome_iff_exists.mp hSome
        rw [hRow, Option.some_or, Option.some_or]
      · rename_i hNone
        rw [Option.not_isSome_iff_eq_none.mp hNone, Dict.lookup_set, if_pos rfl]
        simp
    · rw [decide_eq_false hId]
      split
      · rfl
      · rw [Dict.lookup_set, if_neg (Ne.symm hId)]

theorem lookup_updateBuiltin (now : Nat) (rows : Dict String MonitorRow) (f : SeedFields)
    (id : String) :
    (updateBuiltin now rows f).lookup id = (rows.lookup id).map fun row =>
      if id = f.id ∧ row.source = "builtin" then f.redefine now row else row :=
  Dict.lookup_map rows
    (fun id row => if id = f.id ∧ row.source = "builtin" then f.redefine now row else row) id

theorem lookup_updated (now : Nat) {fields : List SeedFields}
    (hDistinct : (fields.map SeedFields.id).Nodup) (rows : Dict String MonitorRow) (id : String) :
    (fields.foldl (updateBuiltin now) rows).lookup id = (rows.lookup id).map fun row =>
      match fields.find? fun f => f.id = id with
      | some f => if row.source = "builtin" then f.redefine now row else row
      | none => row := by
  induction fields generalizing rows with
  | nil => simp
  | cons f fields ih =>
    rw [List.map_cons, List.nodup_cons] at hDistinct
    rw [List.foldl_cons, ih hDistinct.2, lookup_updateBuiltin, Option.map_map, List.find?_cons]
    congr 1
    funext row
    by_cases hId : f.id = id
    · subst hId
      have hNone : fields.find? (fun g => g.id = f.id) = none := by
        refine List.find?_eq_none.mpr fun g hg => ?_
        intro hSame
        exact hDistinct.1 (of_decide_eq_true hSame ▸ List.mem_map_of_mem hg)
      simp [hNone]
    · simp [hId, Ne.symm hId]

variable {catalog : BuiltinCatalog} {id : String}

theorem entry_eq_none : entry catalog id = none ↔ id ∉ catalog.fields.map SeedFields.id := by
  unfold entry
  simp only [List.find?_eq_none, decide_eq_true_eq, List.mem_map, not_exists, not_and]

theorem entry_eq_some {f : SeedFields} (h : entry catalog id = some f) :
    f ∈ catalog.fields ∧ f.id = id := by
  unfold entry at h
  exact ⟨List.mem_of_find?_eq_some h, by simpa using List.find?_some h⟩

theorem mem_stale {table : MonitorsTable} :
    id ∈ stale_builtin_ids catalog table.rows ↔ ∃ row, table.rows.lookup id = some row ∧
      row.source = "builtin" ∧ entry catalog id = none := by
  unfold stale_builtin_ids
  rw [List.mem_map]
  constructor
  · rintro ⟨⟨_, row⟩, hEntry, rfl⟩
    obtain ⟨hMem, hStale⟩ := List.mem_filter.mp hEntry
    obtain ⟨hBuiltin, hGone⟩ := of_decide_eq_true hStale
    exact ⟨row, Dict.lookup_of_mem table.primary_key hMem, hBuiltin, entry_eq_none.mpr hGone⟩
  · rintro ⟨row, hRow, hBuiltin, hGone⟩
    exact ⟨(id, row), List.mem_filter.mpr ⟨Dict.mem_of_lookup hRow,
      decide_eq_true ⟨hBuiltin, entry_eq_none.mp hGone⟩⟩, rfl⟩

theorem find?_filter_key {α κ : Type} [DecidableEq κ] {key : α → κ} {items : List α}
    (h : (items.map key).Nodup) (f : α → Bool) (k : κ) :
    (items.filter f).find? (fun item => key item = k) =
      (items.find? fun item => key item = k).filter f := by
  induction items with
  | nil => rfl
  | cons item items ih =>
    rw [List.map_cons, List.nodup_cons] at h
    by_cases hKey : key item = k
    · have hNone : items.find? (fun item => key item = k) = none := by
        refine List.find?_eq_none.mpr fun other hOther => ?_
        intro hSame
        exact h.1 (hKey.trans (of_decide_eq_true hSame).symm ▸ List.mem_map_of_mem hOther)
      rw [List.find?_cons, decide_eq_true hKey]
      dsimp only
      rw [Option.filter_some, List.filter_cons]
      split
      · rw [List.find?_cons, decide_eq_true hKey]
      · rw [ih h.2, hNone]
        rfl
    · rw [List.find?_cons, decide_eq_false hKey]
      dsimp only
      rw [← ih h.2, List.filter_cons]
      split
      · rw [List.find?_cons, decide_eq_false hKey]
      · rfl

theorem find_insert (catalog : BuiltinCatalog) (rows : Dict String MonitorRow) (id : String) :
    (insert_rows catalog rows).find? (fun f => f.id = id) =
      if rows.lookup id = none then entry catalog id else none := by
  unfold insert_rows
  rw [find?_filter_key catalog.distinct]
  change (entry catalog id).filter _ = _
  cases hEntry : entry catalog id with
  | none => simp
  | some f =>
    rw [Option.filter_some, (entry_eq_some hEntry).2]
    simp only [decide_eq_true_eq]

theorem find_update (catalog : BuiltinCatalog) (rows : Dict String MonitorRow) (id : String) :
    (update_rows catalog rows).find? (fun f => f.id = id) =
      (rows.lookup id).bind fun row =>
        (entry catalog id).filter fun f => decide (row.source = "builtin" ∧ ¬f.Defines row) := by
  unfold update_rows
  rw [find?_filter_key catalog.distinct]
  change (entry catalog id).filter _ = _
  cases hEntry : entry catalog id with
  | none => cases rows.lookup id <;> rfl
  | some f =>
    rw [Option.filter_some, (entry_eq_some hEntry).2]
    cases rows.lookup id with
    | none => rfl
    | some row => rw [Option.bind_some, Option.filter_some, Option.any_some]

theorem lookup_seed (catalog : BuiltinCatalog) (now : Nat) (table : MonitorsTable) (id : String) :
    (table.seed_new_builtin_monitors catalog now).rows.lookup id =
      seededRow catalog now id (table.rows.lookup id) := by
  have hUpdateIds : ((update_rows catalog table.rows).map SeedFields.id).Nodup :=
    catalog.distinct.sublist (List.filter_sublist.map SeedFields.id)
  have hKeys := nodup_updated now (update_rows catalog table.rows)
    (nodup_inserted now (insert_rows catalog table.rows) table.primary_key)
  unfold seed_new_builtin_monitors
  dsimp only
  unfold deleteBuiltin
  rw [Dict.lookup_filter hKeys, lookup_updated now hUpdateIds, lookup_inserted, find_insert,
    find_update]
  cases hRow : table.rows.lookup id with
  | none =>
    -- a row just inserted is neither rewritten nor stale
    have hStale : id ∉ stale_builtin_ids catalog table.rows := by
      intro hMem
      obtain ⟨row, hSome, -⟩ := mem_stale.mp hMem
      rw [hRow] at hSome
      cases hSome
    cases hEntry : entry catalog id with
    | none => simp [seededRow, hEntry]
    | some f => simp [seededRow, hEntry, hStale]
  | some row =>
    have hStale : id ∈ stale_builtin_ids catalog table.rows ↔
        row.source = "builtin" ∧ entry catalog id = none := by
      rw [mem_stale]
      simp [hRow]
    by_cases hBuiltin : row.source = "builtin"
    · cases hEntry : entry catalog id with
      | none => simp [seededRow, hEntry, hBuiltin, hStale]
      | some f =>
        by_cases hSame : f.Defines row
        · simp [seededRow, hEntry, hBuiltin, hStale, hSame, Option.filter_some]
        · simp [seededRow, hEntry, hBuiltin, hStale, hSame, Option.filter_some]
    · simp [seededRow, hBuiltin, hStale]

/-! ## The migration as a whole -/

theorem defines_row (f : SeedFields) (now : Nat) : f.Defines (f.row now) :=
  ⟨rfl, rfl, rfl, rfl, rfl, rfl⟩

theorem defines_redefine (f : SeedFields) (now : Nat) (row : MonitorRow) :
    f.Defines (f.redefine now row) :=
  ⟨rfl, rfl, rfl, rfl, rfl, rfl⟩

def Current (catalog : BuiltinCatalog) (table : MonitorsTable) : Prop :=
  ∀ id, match table.rows.lookup id with
    | none => entry catalog id = none
    | some row => row.source = "builtin" → ∃ f, entry catalog id = some f ∧ f.Defines row

theorem current_seed (catalog : BuiltinCatalog) (now : Nat) (table : MonitorsTable) :
    Current catalog (table.seed_new_builtin_monitors catalog now) := by
  intro id
  rw [lookup_seed]
  cases hRow : table.rows.lookup id with
  | none =>
    cases hEntry : entry catalog id with
    | none => simp [seededRow, hEntry]
    | some f =>
      simp only [seededRow, hEntry, Option.map_some]
      exact fun _ => ⟨f, rfl, defines_row f now⟩
  | some row =>
    by_cases hBuiltin : row.source = "builtin"
    · cases hEntry : entry catalog id with
      | none => simp [seededRow, hEntry, hBuiltin]
      | some f =>
        simp only [seededRow, hEntry, hBuiltin, if_true, Option.map_some]
        intro _
        refine ⟨f, rfl, ?_⟩
        split
        · assumption
        · exact defines_redefine f now row
    · simp [seededRow, hBuiltin]

theorem entry_of_mem {f : SeedFields} (h : f ∈ catalog.fields) : entry catalog f.id = some f := by
  cases hEntry : entry catalog f.id with
  | none => exact absurd (List.mem_map_of_mem h) (entry_eq_none.mp hEntry)
  | some g =>
    obtain ⟨hMem, hId⟩ := entry_eq_some hEntry
    rw [List.inj_on_of_nodup_map catalog.distinct hMem h hId]

theorem seed_current {table : MonitorsTable} (h : Current catalog table) (now : Nat) :
    table.seed_new_builtin_monitors catalog now = table := by
  have hInsert : insert_rows catalog table.rows = [] := by
    refine List.filter_eq_nil_iff.mpr ?_
    intro f hf hNone
    have hId := h f.id
    rw [of_decide_eq_true hNone, entry_of_mem hf] at hId
    cases hId
  have hUpdate : update_rows catalog table.rows = [] := by
    refine List.filter_eq_nil_iff.mpr ?_
    intro f hf hOther
    obtain ⟨row, hRow, hChanged⟩ := (Option.any_eq_true _ _).mp hOther
    obtain ⟨hBuiltin, hNot⟩ := of_decide_eq_true hChanged
    have hId := h f.id
    rw [hRow] at hId
    obtain ⟨g, hEntry, hDefines⟩ := hId hBuiltin
    rw [entry_of_mem hf] at hEntry
    cases hEntry
    exact hNot hDefines
  have hStale : stale_builtin_ids catalog table.rows = [] := by
    refine List.eq_nil_iff_forall_not_mem.mpr ?_
    intro id hMem
    obtain ⟨row, hRow, hBuiltin, hGone⟩ := mem_stale.mp hMem
    have hId := h id
    rw [hRow] at hId
    obtain ⟨f, hEntry, -⟩ := hId hBuiltin
    rw [hGone] at hEntry
    cases hEntry
  apply MonitorsTable.ext
  unfold seed_new_builtin_monitors
  dsimp only
  rw [hInsert, hUpdate, hStale]
  unfold deleteBuiltin
  refine List.filter_eq_self.mpr ?_
  intro entry _
  simp

end MonitorsTable

/-- The table after the seeding: the built-in rows are those of the catalog, with their switches,
and the user's rows are untouched. -/
structure Seeded (catalog : BuiltinCatalog) (before after : MonitorsTable) : Prop where
  builtin : ∀ id, (∃ row, after.rows.lookup id = some row ∧ row.source = "builtin") ↔
    id ∈ catalog.fields.map SeedFields.id ∧
      ∀ row, before.rows.lookup id = some row → row.source = "builtin"
  defined : ∀ f ∈ catalog.fields, ∀ row, after.rows.lookup f.id = some row →
    row.source = "builtin" → f.Defines row
  flag : ∀ id row row', before.rows.lookup id = some row → row.source = "builtin" →
    after.rows.lookup id = some row' → row'.enabled = row.enabled
  others : ∀ id row, row.source ≠ "builtin" →
    (after.rows.lookup id = some row ↔ before.rows.lookup id = some row)

theorem builtin_iff (catalog : BuiltinCatalog) (now : Nat) (table : MonitorsTable) (id : String) :
    (∃ row, (table.seed_new_builtin_monitors catalog now).rows.lookup id = some row ∧
        row.source = "builtin") ↔
      id ∈ catalog.fields.map SeedFields.id ∧
        ∀ row, table.rows.lookup id = some row → row.source = "builtin" := by
  rw [MonitorsTable.lookup_seed]
  unfold MonitorsTable.seededRow
  cases hEntry : MonitorsTable.entry catalog id with
  | none =>
    refine iff_of_false ?_ fun h => MonitorsTable.entry_eq_none.mp hEntry h.1
    rintro ⟨row, hRow, hBuiltin⟩
    split at hRow
    · cases hRow
    · split at hRow
      · cases hRow
      · cases hRow
        contradiction
  | some f =>
    obtain ⟨hMem, hId⟩ := MonitorsTable.entry_eq_some hEntry
    have hIn : id ∈ catalog.fields.map SeedFields.id := hId ▸ List.mem_map_of_mem hMem
    cases hRow : table.rows.lookup id with
    | none => exact iff_of_true ⟨f.row now, rfl, catalog.builtin f hMem⟩ ⟨hIn, nofun⟩
    | some row =>
      dsimp only
      by_cases hBuiltin : row.source = "builtin"
      · rw [if_pos hBuiltin]
        refine iff_of_true ⟨_, rfl, ?_⟩ ⟨hIn, fun row' hRow' => ?_⟩
        · dsimp only
          split
          · exact hBuiltin
          · exact hBuiltin
        · cases hRow'
          exact hBuiltin
      · rw [if_neg hBuiltin]
        refine iff_of_false ?_ fun h => hBuiltin (h.2 row rfl)
        rintro ⟨row', hRow', hBuiltin'⟩
        cases hRow'
        exact hBuiltin hBuiltin'

theorem others_iff (catalog : BuiltinCatalog) (now : Nat) (table : MonitorsTable) (id : String)
    {row : MonitorRow} (hOther : row.source ≠ "builtin") :
    (table.seed_new_builtin_monitors catalog now).rows.lookup id = some row ↔
      table.rows.lookup id = some row := by
  rw [MonitorsTable.lookup_seed]
  unfold MonitorsTable.seededRow
  cases hRow : table.rows.lookup id with
  | none =>
    refine iff_of_false ?_ nofun
    intro hSeeded
    obtain ⟨f, hEntry, hf⟩ := Option.map_eq_some_iff.mp hSeeded
    apply hOther
    rw [← hf]
    exact catalog.builtin f (MonitorsTable.entry_eq_some hEntry).1
  | some found =>
    dsimp only
    split
    · rename_i hBuiltin
      refine iff_of_false ?_ ?_
      · intro hSeeded
        obtain ⟨f, -, hf⟩ := Option.map_eq_some_iff.mp hSeeded
        apply hOther
        rw [← hf]
        split
        · exact hBuiltin
        · exact hBuiltin
      · intro hSame
        cases hSame
        exact hOther hBuiltin
    · exact Iff.rfl

theorem seeded_seed (catalog : BuiltinCatalog) (now : Nat) (table : MonitorsTable) :
    Seeded catalog table (table.seed_new_builtin_monitors catalog now) := by
  have hCurrent := MonitorsTable.current_seed catalog now table
  constructor
  · exact builtin_iff catalog now table
  · intro f hf row hRow hBuiltin
    have hId := hCurrent f.id
    rw [hRow] at hId
    obtain ⟨g, hEntry, hDefines⟩ := hId hBuiltin
    rw [MonitorsTable.entry_of_mem hf] at hEntry
    cases hEntry
    exact hDefines
  · intro id row row' hRow hBuiltin hRow'
    rw [MonitorsTable.lookup_seed, hRow] at hRow'
    unfold MonitorsTable.seededRow at hRow'
    dsimp only at hRow'
    rw [if_pos hBuiltin] at hRow'
    obtain ⟨f, -, hf⟩ := Option.map_eq_some_iff.mp hRow'
    rw [← hf]
    split
    · rfl
    · rfl
  · exact fun id row hOther => others_iff catalog now table id hOther

/-- The seeding brings the builtin rows in line with the catalog, keeps their flags, touches no row of
others, and has nothing to do a second time. -/
theorem seed_synchronizes (catalog : BuiltinCatalog) (now : Nat) (table : MonitorsTable) :
    Seeded catalog table (table.seed_new_builtin_monitors catalog now) ∧
      ∀ later,
        (table.seed_new_builtin_monitors catalog now).seed_new_builtin_monitors catalog later =
          table.seed_new_builtin_monitors catalog now :=
  ⟨seeded_seed catalog now table,
    MonitorsTable.seed_current (MonitorsTable.current_seed catalog now table)⟩

/-! ## A catalog that has moved on -/

def telnetFields : SeedFields :=
  ⟨"builtin-telnet", "Telnet", "", true, 50, "builtin", "rule", "\x7b\"ports\":[23]\x7d", "\x7b\x7d"⟩

def packagedCatalog : BuiltinCatalog where
  fields := [telnetFields, { telnetFields with id := "builtin-ssh", name := "SSH" }]
  distinct := by decide
  builtin := by decide

/-- A row that the operator has switched off and that was defined otherwise, one that has left the
catalog, and one of the operator. -/
def agedTable : MonitorsTable where
  rows := [
    ("builtin-telnet", { telnetFields.row 1 with enabled := false, priority := 10 }),
    ("builtin-rsh", telnetFields.row 1),
    ("mine", { telnetFields.row 1 with source := "custom" })]
  primary_key := by decide

theorem seed_synchronizes_aged :
    (agedTable.seed_new_builtin_monitors packagedCatalog 7).rows.map
        (fun entry => (entry.1, entry.2.enabled, entry.2.priority)) =
      [("builtin-telnet", false, 50), ("mine", true, 50), ("builtin-ssh", true, 50)] ∧
    Seeded packagedCatalog agedTable (agedTable.seed_new_builtin_monitors packagedCatalog 7) :=
  ⟨by decide, (seed_synchronizes packagedCatalog 7 agedTable).1⟩

end Sniff4Hound.Store
