import Sniff4Hound.Detection.AhoCorasick
import Sniff4Hound.Detection.Monitors
import Sniff4Hound.Library.Narrowing
import Sniff4Hound.Library.StepRun

/-!
# The monitor index

The module-level cache of `monitors.py`: the tables that `ensure_monitor_index` replaces at
once, the automaton that background builders install later, and the candidates that
`evaluate_packet` takes from both. A run is any order of refreshes and finished builders.
-/

namespace Sniff4Hound

/-! ## Tables of one list -/

/-- The key of one monitor in `_monitor_index_signature`. Its `match` and `action` stand for
their serializations with sorted keys, which are equal for equal values only. -/
structure SignatureEntry where
  id : String
  updated_at : String
  enabled : Bool
  mode : String
  name : String
  priority : Int
  rule : Match
  action : Action
deriving DecidableEq

def Monitor.signature (m : Monitor) : SignatureEntry where
  id := m.id
  updated_at := m.updated_at
  enabled := m.enabled
  mode := m.mode
  name := m.name
  priority := m.priority
  rule := m.rule
  action := m.action

abbrev Signature := List SignatureEntry

def monitor_index_signature (monitors : List Monitor) : Signature :=
  monitors.map Monitor.signature

def port_indexable (rule : Match) : Bool :=
  rule.criteria.port_regex.isEmpty && rule.all.isEmpty && rule.any.isEmpty &&
    rule.none.isEmpty &&
    !(rule.criteria.ports.isEmpty && rule.criteria.src_ports.isEmpty &&
      rule.criteria.dst_ports.isEmpty)

def monitor_port_numbers (rule : Match) : List Int :=
  (nonzero (rule.criteria.ports ++ rule.criteria.src_ports ++ rule.criteria.dst_ports)).dedup

structure Tables where
  monitors_by_id : Dict String Monitor := []
  always_check : List Monitor := []
  monitor_positions : Dict String Nat := []
  port_to_ids : Dict Int (List String) := []
  port_indexed_ids : List String := []

structure Indexed extends Tables where
  content_to_ids : Dict String (List String) := []

/-- The loop body of `ensure_monitor_index`. -/
def Indexed.add (rt : Runtime) (t : Indexed) (position : Nat) (m : Monitor) : Indexed :=
  let t' : Indexed := { t with
    monitor_positions := t.monitor_positions.set m.id position
    monitors_by_id := t.monitors_by_id.set m.id m }
  let contains := m.rule.criteria.payload_contains
  if contains = [] then
    if port_indexable m.rule then
      { t' with
        port_indexed_ids := t.port_indexed_ids ++ [m.id]
        port_to_ids := (monitor_port_numbers m.rule).foldl
          (fun d port => Dict.append d port m.id) t.port_to_ids }
    else { t' with always_check := t.always_check ++ [m] }
  else
    { t' with
      content_to_ids := (contains.map rt.lower).foldl
        (fun d content => Dict.append d content m.id) t.content_to_ids }

def indexMonitors (rt : Runtime) (monitors : List Monitor) : Indexed :=
  monitors.zipIdx.foldl (fun t entry => t.add rt entry.2 entry.1) {}

def automatonOf (content_to_ids : Dict String (List String)) : AhoCorasick Char :=
  AhoCorasick.ofPatterns (content_to_ids.keys.map String.toList)

/-! ## The cache -/

/-- A monitor list object; `is` compares the references. -/
structure Catalog where
  ref : Nat
  monitors : List Monitor
  distinct : (monitors.map Monitor.id).Nodup

/-- A started `_build_automaton` thread with what it closes over. -/
structure Builder where
  signature : Signature
  content_to_ids : Dict String (List String)

structure IndexState extends Tables where
  indexed_monitors_ref : Option Catalog := none
  index_signature : Option Signature := none
  building_signature : Option Signature := none
  content_automaton : Option (AhoCorasick Char) := none
  content_to_ids : Dict String (List String) := []
  builders : List Builder := []

def ensure_monitor_index (rt : Runtime) (s : IndexState) (monitors : Catalog) : IndexState :=
  let signature := monitor_index_signature monitors.monitors
  if s.index_signature = some signature then { s with indexed_monitors_ref := some monitors }
  else
    let t := indexMonitors rt monitors.monitors
    let already_building := s.building_signature = some signature
    { s with
      toTables := t.toTables
      indexed_monitors_ref := some monitors
      index_signature := some signature
      building_signature := some signature
      builders := if already_building then s.builders
        else s.builders ++ [⟨signature, t.content_to_ids⟩] }

/-- The builder at place `i` finishes. -/
def build_automaton (s : IndexState) (i : Nat) : Option IndexState :=
  match s.builders[i]? with
  | none => none
  | some builder =>
    let installed := s.index_signature = some builder.signature
    some { s with
      content_automaton :=
        if installed then some (automatonOf builder.content_to_ids) else s.content_automaton
      content_to_ids := if installed then builder.content_to_ids else s.content_to_ids
      building_signature :=
        if s.building_signature = some builder.signature then none else s.building_signature
      builders := s.builders.eraseIdx i }

/-- A refresh, or a build that ends. -/
inductive IndexEvent where
  | refresh (monitors : Catalog)
  | finish (i : Nat)

def indexStep (rt : Runtime) (s : IndexState) : IndexEvent → Option IndexState
  | .refresh monitors => some (ensure_monitor_index rt s monitors)
  | .finish i => build_automaton s i

/-! ## Candidates -/

def contentIds (s : IndexState) (automaton : AhoCorasick Char) (packet_text : String) :
    List String :=
  (automaton.search packet_text.toList).flatMap fun content =>
    s.content_to_ids.getList (String.ofList content)

def portIds (t : Tables) (src_port dst_port : Int) : List String :=
  if src_port ≠ 0 ∨ dst_port ≠ 0 then
    t.port_to_ids.getList src_port ++ t.port_to_ids.getList dst_port
  else t.port_indexed_ids

def Tables.position (t : Tables) (m : Monitor) : Nat :=
  (t.monitor_positions.lookup m.id).getD t.monitor_positions.length

def candidatesOf (t : Tables) (hit_ids : List String) : List Monitor :=
  t.always_check ++ hit_ids.dedup.filterMap fun id => t.monitors_by_id.lookup id

def indexed_candidates (s : IndexState) (monitors : Catalog) (packet_text : String)
    (src_port dst_port : Int) : Option (List Monitor) :=
  if s.indexed_monitors_ref.map Catalog.ref ≠ some monitors.ref then none
  else s.content_automaton.map fun automaton =>
    let hit_ids := contentIds s automaton packet_text ++ portIds s.toTables src_port dst_port
    Narrowing.ordered s.toTables.position (candidatesOf s.toTables hit_ids)

def evaluate_packet (env : Env) (s : IndexState) (packet : Packet) (monitors : Catalog) :
    List Hit :=
  let candidates := indexed_candidates s monitors (build_packet_text env packet)
    (packet.number env.toRuntime "src_port") (packet.number env.toRuntime "dst_port")
  scan env packet (candidates.getD monitors.monitors)

/-- `evaluate_packet` without an index. -/
def plainScan (env : Env) (packet : Packet) (monitors : Catalog) : List Hit :=
  evaluate_packet env {} packet monitors

end Sniff4Hound
