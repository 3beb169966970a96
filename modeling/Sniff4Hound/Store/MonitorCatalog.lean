import Sniff4Hound.Detection.Monitors
import Sniff4Hound.Library.StepRun

/-!
# The monitor catalog

The `monitors` table of `store.py` with the operations that edit it, the blacklist mirrored
into it, and the stamp that stands for its contents. A label is one call; a call that raises
ValueError leaves the store as it is. The clock has the resolution of `utc_now`, one second,
and never goes back.
-/

namespace Sniff4Hound.Store

/-- What the edits take from elsewhere: `json_dumps` of the parts of a monitor, the compressed
form of an address (nothing where `ip_address` raises), a label in the codec for international
names (nothing where it raises), and `re.escape`. -/
structure CatalogEnv extends Env where
  json_dumps : Value → String
  json_dumps_match : Match → String
  json_dumps_action : Action → String
  compressed : String → Option String
  encode_idna : String → Option String
  re_escape : String → String

structure MonitorRow where
  name : String
  description : String
  enabled : Bool
  priority : Int
  source : String
  mode : String
  match_json : String
  action_json : String
  created_at : Nat
  updated_at : Nat
deriving DecidableEq

structure BlacklistEntry where
  category : String
  match_type : String
  value : String
  label : String
  enabled : Bool
deriving DecidableEq

/-- `written` is not in the code: the second of the latest insert or update of `monitors`. -/
structure Catalog where
  monitors : Dict String MonitorRow
  blacklist : Dict String BlacklistEntry
  clock : Nat
  written : Nat
deriving DecidableEq

def Catalog.put (s : Catalog) (id : String) (row : MonitorRow) : Catalog :=
  { s with monitors := s.monitors.set id { row with updated_at := s.clock }, written := s.clock }

/-! ## Monitors -/

def save_monitor (env : CatalogEnv) (s : Catalog) (data : List (String × Value)) :
    Except String Catalog := do
  let normalized ← normalize_monitor env.toEnv data true true
  let existing := s.monitors.lookup normalized.id
  let source := existing.map MonitorRow.source
  if source = some "builtin" then throw "Builtin monitors are read-only"
  if source = some "blacklist" then
    throw "Blacklist-derived monitors can only be edited from the Blacklist settings tab"
  pure (s.put normalized.id
    { name := normalized.name
      description := normalized.description
      enabled := normalized.enabled
      priority := normalized.priority
      source := normalized.source.getD "custom"
      mode := normalized.mode
      match_json := env.json_dumps_match normalized.rule
      action_json := env.json_dumps_action normalized.action
      created_at := (existing.map MonitorRow.created_at).getD s.clock
      updated_at := s.clock })

def delete_monitor (s : Catalog) (monitor_id : String) : Except String Catalog := do
  let source := (s.monitors.lookup monitor_id).map MonitorRow.source
  if source = some "builtin" then throw "Builtin monitors are read-only"
  if source = some "blacklist" then
    throw "Blacklist-derived monitors can only be removed from the Blacklist settings tab"
  pure { s with monitors := s.monitors.erase monitor_id }

def set_monitor_enabled (s : Catalog) (monitor_id : String) (enabled : Bool) :
    Except String Catalog :=
  match s.monitors.lookup monitor_id with
  | none => throw ("Unknown monitor id: " ++ monitor_id)
  | some existing =>
    if existing.source = "blacklist" then
      throw "Blacklist-derived monitors can only be toggled from the Blacklist settings tab"
    else pure (s.put monitor_id { existing with enabled := enabled })

/-! ## The blacklist -/

def BLACKLIST_CATEGORIES : List String := ["ip", "domain", "path", "port", "protocol"]

/-- The branch of `_normalize_list_value` for addresses. -/
def CatalogEnv.compressed_ip (env : CatalogEnv) (value : String) : String :=
  (env.compressed value).elim value env.lower

/-- The branch of `_normalize_list_value` for domains. -/
def CatalogEnv.idna (env : CatalogEnv) (value : String) : String :=
  let normalized := env.lower (String.ofList (value.toList.reverse.dropWhile (· = '.')).reverse)
  let labels := (normalized.toList.splitOn '.').mapM fun label =>
    env.encode_idna (String.ofList label)
  labels.elim normalized (join ".")

/-- `_normalize_list_value` of a value that is not a pattern. -/
def normalize_list_value (env : CatalogEnv) (category value : String) : Except String String :=
  if value = "" then throw "value is required"
  else if category = "ip" then pure (env.compressed_ip value)
  else if category = "domain" then pure (env.idna value)
  else if category = "port" then
    let port := (Value.str value).safe_int env.toRuntime 0
    if port < 1 ∨ 65535 < port ∨ toString port ≠ value then
      throw "port must be an integer between 1 and 65535"
    else pure (toString port)
  else if category = "protocol" then pure (normalize_protocol_name env.toRuntime (.str value))
  else pure value

def literal_packet_text_pattern (env : CatalogEnv) (value : String) : String :=
  "(?<![A-Za-z0-9_.-])" ++ env.re_escape (strip value) ++ "(?![A-Za-z0-9_.-])"

/-- The `match` of the mirrored monitor. -/
def blacklistMatch (env : CatalogEnv) (entry : BlacklistEntry) : Value :=
  let value := entry.value
  let listOf (key : String) (item : Value) : Value := .dict [(key, .list [item])]
  if entry.category = "ip" then
    if entry.match_type = "regex" then listOf "ip_regex" (.str value)
    else listOf "ips" (.str (env.lower (strip value)))
  else if entry.category = "port" then
    if entry.match_type = "regex" then listOf "port_regex" (.str value)
    else listOf "ports" (.int ((Value.str value).safe_int env.toRuntime 0))
  else if entry.category = "protocol" then
    if entry.match_type = "regex" then listOf "protocol_regex" (.str value)
    else listOf "protocols" (.str (normalize_protocol_name env.toRuntime (.str value)))
  else
    listOf "payload_regex" (.str
      (if entry.match_type = "regex" then value else literal_packet_text_pattern env value))

/-- `_sync_blacklist_monitor`: on a conflict `priority` and `source` stay. -/
def sync_blacklist_monitor (env : CatalogEnv) (s : Catalog) (entry_id : String)
    (entry : BlacklistEntry) : Catalog :=
  let given := strip entry.label
  let label := if given = "" then "Blacklisted " ++ entry.category ++ ": " ++ entry.value else given
  let existing := s.monitors.lookup entry_id
  s.put entry_id
    { name := label
      description := "Blacklist entry (" ++ entry.category ++ ", " ++ entry.match_type ++ "): " ++
        entry.value
      enabled := entry.enabled
      priority := (existing.map MonitorRow.priority).getD 1
      source := (existing.map MonitorRow.source).getD "blacklist"
      mode := if entry.match_type = "regex" then "regex" else "rule"
      match_json := env.json_dumps (blacklistMatch env entry)
      action_json := env.json_dumps (.dict [("tag", .str ("blacklist-" ++ entry.category)),
        ("label", .str label), ("severity", .str "critical")])
      created_at := (existing.map MonitorRow.created_at).getD s.clock
      updated_at := s.clock }

/-- `create_blacklist_entry`; `entry_id` is the generated id. -/
def create_blacklist_entry (env : CatalogEnv) (s : Catalog)
    (entry_id category match_type value label : String) : Except String Catalog := do
  let category := env.lower (strip category)
  if category ∉ BLACKLIST_CATEGORIES then
    throw "category must be one of ('ip', 'domain', 'path', 'port', 'protocol')"
  let given := env.lower (strip match_type)
  let match_type := if given = "" then "exact" else given
  if match_type ∉ ["exact", "regex"] then throw "match_type must be 'exact' or 'regex'"
  let value := strip value
  if value = "" then throw "value is required"
  let value ←
    if match_type = "regex" then do
      env.validate_regex_pattern value
      pure value
    else normalize_list_value env category value
  let taken := s.blacklist.any fun known =>
    known.2.category = category && known.2.match_type = match_type && known.2.value = value
  if taken || (s.blacklist.lookup entry_id).isSome then
    throw ("Ya existe una entrada de blacklist para " ++ category ++ "/" ++ match_type ++ ": " ++
      value)
  let entry : BlacklistEntry := ⟨category, match_type, value, strip label, true⟩
  pure (sync_blacklist_monitor env { s with blacklist := s.blacklist.set entry_id entry } entry_id
    entry)

theorem create_blacklist_entry_ok {env : CatalogEnv} {s s' : Catalog}
    {entry_id category match_type value label : String}
    (h : create_blacklist_entry env s entry_id category match_type value label = .ok s') :
    ∃ entry : BlacklistEntry, entry.category ∈ BLACKLIST_CATEGORIES ∧ entry.enabled = true ∧
      (entry.match_type = "regex" ∨ entry.match_type = "exact" ∧ strip value ≠ "" ∧
        normalize_list_value env entry.category (strip value) = .ok entry.value) ∧
      s.blacklist.lookup entry_id = none ∧
      s' = sync_blacklist_monitor env { s with blacklist := s.blacklist.set entry_id entry }
        entry_id entry := by
  rw [create_blacklist_entry] at h
  dsimp only at h
  generalize env.lower (strip category) = category at h
  generalize (if env.lower (strip match_type) = "" then "exact"
    else env.lower (strip match_type)) = match_type at h
  simp only [bind, Except.bind, throw, throwThe, MonadExceptOf.throw, pure, Except.pure] at h
  split at h
  · cases h
  · next hCategory =>
    split at h
    · cases h
    · next hType =>
      split at h
      · cases h
      · next hValue =>
        have hNew : ∀ {taken : Bool}, ¬(taken || (s.blacklist.lookup entry_id).isSome) = true →
            s.blacklist.lookup entry_id = none := by
          intro taken hFree
          rw [Bool.or_eq_true, not_or] at hFree
          exact Option.not_isSome_iff_eq_none.mp hFree.2
        split at h
        · next hRegex =>
          split at h
          · cases h
          · split at h
            · cases h
            · next hFree =>
              cases h
              exact ⟨⟨category, match_type, strip value, strip label, true⟩,
                not_not.mp hCategory, rfl, Or.inl hRegex, hNew hFree, rfl⟩
        · next hRegex =>
          split at h
          · cases h
          · next spelled hSpelled =>
            split at h
            · cases h
            · next hFree =>
              cases h
              have hExact : match_type = "exact" := by
                simpa [hRegex] using hType
              exact ⟨⟨category, match_type, spelled, strip label, true⟩,
                not_not.mp hCategory, rfl, Or.inr ⟨hExact, hValue, hSpelled⟩,
                hNew hFree, rfl⟩

def set_blacklist_entry_enabled (env : CatalogEnv) (s : Catalog) (entry_id : String)
    (enabled : Bool) : Except String Catalog :=
  match s.blacklist.lookup entry_id with
  | none => throw ("Unknown blacklist entry id: " ++ entry_id)
  | some existing =>
    let entry := { existing with enabled := enabled }
    pure (sync_blacklist_monitor env { s with blacklist := s.blacklist.set entry_id entry }
      entry_id entry)

def delete_blacklist_entry (s : Catalog) (entry_id : String) : Except String Catalog :=
  match s.blacklist.lookup entry_id with
  | none => throw ("Unknown blacklist entry id: " ++ entry_id)
  | some _ =>
    let s := { s with blacklist := s.blacklist.erase entry_id }
    pure (if (s.monitors.lookup entry_id).map MonitorRow.source = some "blacklist" then
      { s with monitors := s.monitors.erase entry_id } else s)

/-! ## Runs -/

inductive Edit
  | tick (seconds : Nat)
  | save (data : List (String × Value))
  | delete (monitor_id : String)
  | setEnabled (monitor_id : String) (enabled : Bool)
  | createBlacklist (entry_id category match_type value label : String)
  | setBlacklistEnabled (entry_id : String) (enabled : Bool)
  | deleteBlacklist (entry_id : String)

def Catalog.call (env : CatalogEnv) (s : Catalog) : Edit → Except String Catalog
  | .tick seconds => pure { s with clock := s.clock + seconds }
  | .save data => save_monitor env s data
  | .delete monitor_id => delete_monitor s monitor_id
  | .setEnabled monitor_id enabled => set_monitor_enabled s monitor_id enabled
  | .createBlacklist entry_id category match_type value label =>
    create_blacklist_entry env s entry_id category match_type value label
  | .setBlacklistEnabled entry_id enabled => set_blacklist_entry_enabled env s entry_id enabled
  | .deleteBlacklist entry_id => delete_blacklist_entry s entry_id

def Catalog.step (env : CatalogEnv) (s : Catalog) (edit : Edit) : Option Catalog :=
  some (match s.call env edit with
    | .ok s' => s'
    | .error _ => s)

/-- `monitor_catalog_stamp`; the latest `updated_at` of an empty table is the empty text. -/
def Catalog.monitor_catalog_stamp (s : Catalog) : Nat × Option Nat × Nat :=
  (s.monitors.length, (s.monitors.map fun entry => entry.2.updated_at).max?,
    s.monitors.countP fun entry => entry.2.enabled)

def MonitorRow.content (row : MonitorRow) : Bool × Int × String × String × String :=
  (row.enabled, row.priority, row.mode, row.match_json, row.action_json)

def Catalog.content (s : Catalog) (id : String) : Option (Bool × Int × String × String × String) :=
  (s.monitors.lookup id).map MonitorRow.content

end Sniff4Hound.Store
