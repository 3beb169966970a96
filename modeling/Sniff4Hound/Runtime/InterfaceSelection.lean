import Sniff4Hound.Text.Value

/-!
# Choosing the interfaces to capture on

`set_sniffer_interfaces` of `runtime_controller.py` selects interfaces, restarts a running sniffer
on them, watches it for a while, and stores the selection. A step that may fail is given with the
text of its failure, and what the capture threads do meanwhile is given by what the watch sees of
them.
-/

namespace Sniff4Hound.Interfaces

/-! ## Selections -/

@[ext]
structure Selection where
  names : List String
  distinct : names.Nodup
  settled : ∀ name ∈ names, strip name = name ∧ name ≠ ""
deriving DecidableEq

namespace Selection

def empty : Selection := ⟨[], List.nodup_nil, fun _ h => nomatch h⟩

def insert (s : Selection) (item : String) : Selection :=
  if h : strip item = "" ∨ strip item ∈ s.names then s
  else
    { names := s.names ++ [strip item]
      distinct := by
        refine List.nodup_append.mpr ⟨s.distinct, List.nodup_cons.mpr ⟨List.not_mem_nil, .nil⟩, ?_⟩
        rintro name hName other hOther rfl
        rw [List.mem_singleton] at hOther
        exact h (.inr (hOther ▸ hName))
      settled := by
        intro name hName
        rcases List.mem_append.mp hName with hOld | hNew
        · exact s.settled name hOld
        · rw [List.mem_singleton] at hNew
          rw [hNew]
          exact ⟨strip_strip item, fun hEmpty => h (.inl hEmpty)⟩ }

end Selection

def normalize_interface_selection (rt : Runtime) (raw : Value) : Selection :=
  let raw_items : List Value := match raw with
    | .null => []
    | .str text => [.str text]
    | .list items => items
    | other => [other]
  (raw_items.map (Value.text rt)).foldl Selection.insert .empty

/-- `json.dumps` of a list of texts. -/
def dumpNames (names : List String) : String :=
  String.ofList ('[' :: ([',', ' '].intercalate (names.map Json.writeString) ++ [']']))

/-- The floats of `json`: how they are read, and their numbers and texts. -/
structure Floats (φ : Type) where
  codec : Json.Codec φ
  number : φ → Option Rat
  text : φ → String

section Read

variable {φ : Type} (floats : Floats φ)

def get_runtime_config (config : Dict String String) (key : String) : String :=
  (config.lookup key).getD ""

def read_stored_sniffer_interfaces (rt : Runtime) (config : Dict String String) : Selection :=
  let legacy := normalize_interface_selection rt
    (.str (strip (get_runtime_config config "sniffer_interface")))
  let stored := strip (get_runtime_config config "sniffer_interfaces")
  if stored = "" then legacy
  else
    let parsed := match Json.loads floats.codec stored with
      | some value => .ofJson floats.number floats.text value
      | none => .list ((stored.toList.splitOn ',').map fun item => .str (String.ofList item))
    let normalized := normalize_interface_selection rt parsed
    if normalized.names ≠ [] ∨ stored = "[]" then normalized else legacy

end Read

/-! ## The sniffer -/

/-- What the selection of interfaces reads and writes of a `Sniffer`. -/
structure Sniffer where
  selected : Selection := .empty
  running : Bool := false
  interfaces : List String := []

structure Sight where
  running : Bool
  active_threads : Nat
  errors : List (String × String) := []
  startup_errors : List (String × String) := []
  ready_interfaces : List String := []

/-- A restart: the failures of `stop` and `start`, and what is seen before and after
the deadline. -/
structure Attempt where
  stop : Option String := none
  start : Option String := none
  available : List String
  polls : List Sight := []
  last : Sight

def Sight.capture_state (sight : Sight) : String :=
  if sight.running ∧ 0 < sight.active_threads then "running"
  else if sight.errors ≠ [] then "blocked" else "idle"

/-- `_sniffer_failure` -/
def Sight.failure (sight : Sight) : String :=
  if sight.startup_errors ≠ [] then
    join "; " ((sight.startup_errors.mergeSort fun a b => decide (a.1 ≤ b.1)).map fun entry =>
      entry.1 ++ ": " ++ entry.2)
  else if !sight.running then "sniffer is not running"
  else if sight.active_threads < 1 then "sniffer has no live capture worker"
  else if sight.capture_state ≠ "running" then "sniffer capture is " ++ sight.capture_state
  else ""

namespace Sniffer

/-- One round of the loop of `set_interfaces`. -/
def select (available : List String) (normalized : Selection) (item : String) :
    Except String Selection :=
  if strip item = "" ∨ strip item ∈ normalized.names then .ok normalized
  else if strip item ∉ available then .error ("Unknown interface: " ++ strip item)
  else .ok (normalized.insert item)

def set_interfaces (s : Sniffer) (available items : List String) : Except String Sniffer :=
  match items.foldlM (select available) .empty with
  | .error reason => .error reason
  | .ok normalized => .ok { s with selected := normalized }

/-- `restart`: the sniffer counts as stopped before `stop` can fail, and as running before `start`
can. -/
def restart (s : Sniffer) (a : Attempt) : Except String Unit × Sniffer :=
  let s := { s with running := false }
  match a.stop with
  | some reason => (.error reason, s)
  | none =>
    let s := { s with
      running := true
      interfaces := if s.selected.names = [] then a.available else s.selected.names }
    match a.start with
    | some reason => (.error reason, s)
    | none => (.ok (), s)

def look (s : Sniffer) (sight : Sight) : Except String Unit × Sniffer :=
  let s := { s with running := sight.running }
  if sight.failure ≠ "" then (.error ("sniffer interface restart failed: " ++ sight.failure), s)
  else (.ok (), s)

def watch (s : Sniffer) (last : Sight) : List Sight → Except String Unit × Sniffer
  | [] =>
    match s.look last with
    | (.error reason, s) => (.error reason, s)
    | (.ok (), s) =>
      if last.ready_interfaces = [] ∨ ¬(s.interfaces ⊆ last.ready_interfaces ∧
          last.ready_interfaces ⊆ s.interfaces) then
        (.error "sniffer interface startup did not finish before the deadline", s)
      else (.ok (), s)
  | sight :: polls =>
    match s.look sight with
    | (.error reason, s) => (.error reason, s)
    | (.ok (), s) => s.watch last polls

/-- `_restart_sniffer_verified` -/
def restart_verified (s : Sniffer) (a : Attempt) : Except String Unit × Sniffer :=
  match s.restart a with
  | (.error reason, s) => (.error reason, s)
  | (.ok (), s) => s.watch a.last a.polls

end Sniffer

/-! ## The controller -/

/-- `_interface_update`; the last three entries are those of a rollback. -/
structure InterfaceUpdate where
  status : String
  requested_interfaces : List String
  error : String
  previous_interfaces : Option (List String) := none
  restored_interfaces : Option (List String) := none
  rollback_error : Option String := none

/-- What `snapshot` shows of the sniffer. -/
structure RuntimeSnapshot where
  selected_interfaces : List String
  running : Bool
  interface_update : Option InterfaceUpdate

structure Controller where
  sniffer : Sniffer := {}
  config : Dict String String := []
  interface_update : Option InterfaceUpdate := none
  sent : List RuntimeSnapshot := []

structure Pattern where
  available : List String
  restart : Attempt
  restored : List String
  again : Attempt
  persist : Option String := none
  persist_legacy : Option String := none

/-- `set_runtime_config`, one transaction. -/
def set_runtime_config (config : Dict String String) (key value : String) (fails : Option String) :
    Except String (Dict String String) :=
  match fails with
  | some reason => .error reason
  | none => .ok (config.set key value)

namespace Controller

def snapshot (c : Controller) : RuntimeSnapshot :=
  ⟨c.sniffer.selected.names, c.sniffer.running, c.interface_update⟩

/-- `_broadcast_snapshot` of `snapshot` -/
def broadcast (c : Controller) : Controller := { c with sent := c.sent ++ [c.snapshot] }

def roll_back (c : Controller) (p : Pattern) (selected previous : Selection) (error : String) :
    Controller :=
  let update : InterfaceUpdate :=
    { status := "rolled_back"
      requested_interfaces := selected.names
      error := error
      previous_interfaces := some previous.names
      restored_interfaces := some []
      rollback_error := some "" }
  let failed (update : InterfaceUpdate) (reason : String) : InterfaceUpdate :=
    { update with status := "rollback_failed", rollback_error := some reason }
  match c.sniffer.set_interfaces p.restored previous.names with
  | .error reason => { c with interface_update := some (failed update reason) }.broadcast
  | .ok sniffer =>
    let update := { update with restored_interfaces := some previous.names }
    match sniffer.restart_verified p.again with
    | (.error reason, sniffer) =>
      { c with
        sniffer := sniffer
        interface_update := some (failed update reason) }.broadcast
    | (.ok (), sniffer) =>
      { c with sniffer := sniffer, interface_update := some update }.broadcast

/-- The end of `set_sniffer_interfaces`: the selection is stored under both keys. -/
def persist (c : Controller) (p : Pattern) (selected : Selection) (was_running changed : Bool) :
    Except String RuntimeSnapshot × Controller :=
  match set_runtime_config c.config "sniffer_interfaces" (dumpNames selected.names) p.persist with
  | .error reason => (.error reason, c)
  | .ok config =>
    let c := { c with config := config }
    let single := match selected.names with
      | [name] => name
      | _ => ""
    match set_runtime_config c.config "sniffer_interface" single p.persist_legacy with
    | .error reason => (.error reason, c)
    | .ok config =>
      let c := { c with
        config := config
        interface_update :=
          if changed = true ∨ c.interface_update.isNone = true then
            some { status := if was_running then "applied" else "saved"
                   requested_interfaces := selected.names
                   error := "" }
          else c.interface_update }
      (.ok c.snapshot, c.broadcast)

def set_sniffer_interfaces (rt : Runtime) (c : Controller) (interfaces : Value) (p : Pattern) :
    Except String RuntimeSnapshot × Controller :=
  let selected := normalize_interface_selection rt interfaces
  let previous := c.sniffer.selected
  let was_running := c.sniffer.running
  match c.sniffer.set_interfaces p.available selected.names with
  | .error reason => (.error reason, c)
  | .ok sniffer =>
    let c := { c with sniffer := sniffer }
    let changed := decide (selected ≠ previous)
    if was_running && changed then
      match c.sniffer.restart_verified p.restart with
      | (.error error, sniffer) =>
        (.error error, { c with sniffer := sniffer }.roll_back p selected previous error)
      | (.ok (), sniffer) =>
        { c with sniffer := sniffer }.persist p selected was_running changed
    else c.persist p selected was_running changed

end Controller

end Sniff4Hound.Interfaces
