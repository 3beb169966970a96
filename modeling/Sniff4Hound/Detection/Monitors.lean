import Sniff4Hound.Detection.Rulesets

/-!
# Monitors

`monitors.py`: the record of a monitor, its normalization, and the scan that
`evaluate_packet` makes over a list of candidates.
-/

namespace Sniff4Hound

/-- A row of `store.list_monitors()`; `rule` is its `match`. -/
structure Monitor where
  id : String
  name : String
  description : String
  enabled : Bool
  priority : Int
  mode : String
  rule : Match
  action : Action
  source : Option String := none
  updated_at : String := ""
deriving DecidableEq

/-! ## Normalization -/

mutual

def iter_match_tree : Match → List Match
  | .node c all any noneOf =>
    .node c all any noneOf ::
      (iter_match_trees all ++ iter_match_trees any ++ iter_match_trees noneOf)

def iter_match_trees : List Match → List Match
  | [] => []
  | m :: ms => iter_match_tree m ++ iter_match_trees ms

end

mutual

def iter_positive_match_nodes : Match → List Match
  | .node c all any noneOf =>
    .node c all any noneOf :: (iter_positive_nodes all ++ iter_positive_nodes any)

def iter_positive_nodes : List Match → List Match
  | [] => []
  | m :: ms => iter_positive_match_nodes m ++ iter_positive_nodes ms

end

def hasListCriteria (c : Criteria) : Bool :=
  !(c.protocols.isEmpty && c.ip_versions.isEmpty && c.eth_types.isEmpty && c.ports.isEmpty &&
    c.src_ports.isEmpty && c.dst_ports.isEmpty && c.port_regex.isEmpty && c.ips.isEmpty &&
    c.ip_regex.isEmpty && c.protocol_regex.isEmpty && c.payload_contains.isEmpty &&
    c.payload_prefix_hex.isEmpty && c.payload_regex.isEmpty && c.tcp_flags.isEmpty &&
    c.tcp_flags_any.isEmpty && c.tcp_flags_all.isEmpty && c.icmp_types.isEmpty &&
    c.icmp_codes.isEmpty && c.arp_opcodes.isEmpty)

def validate_match_not_empty (m : Match) : Except String Unit :=
  let nodes := (iter_positive_match_nodes m).map Match.criteria
  let hasLists := nodes.any hasListCriteria
  let hasLengths := nodes.any fun c =>
    c.min_length ≠ 0 || c.max_length ≠ 0 || c.min_payload_text_length ≠ 0
  let hasCount := nodes.any fun c => c.count_threshold ≠ 0 && c.window_seconds ≠ 0
  if hasLists || hasLengths || hasCount then .ok ()
  else .error "Monitor match must include at least one condition"

def validate_regex_patterns (env : Env) (m : Match) : Except String Unit := do
  let patterns := ((iter_match_tree m).map Match.criteria).flatMap fun c =>
    nonblank (c.payload_regex ++ c.payload_regex_exclude ++ c.ip_regex ++ c.port_regex ++
      c.protocol_regex ++ c.exclude_ip_regex ++ c.exclude_port_regex ++
      c.exclude_protocol_regex)
  if patterns.length > env.MONITOR_MAX_REGEX_PATTERNS then
    .error ("Too many regex patterns (max " ++ toString env.MONITOR_MAX_REGEX_PATTERNS ++ ")")
  else patterns.forM env.validate_regex_pattern

def MODES : List String := ["rule", "regex", "stateful"]

def defaultMode (c : Criteria) : String :=
  if !c.payload_regex.isEmpty && c.protocols.isEmpty && c.ip_versions.isEmpty &&
      c.eth_types.isEmpty && c.ports.isEmpty && c.src_ports.isEmpty && c.dst_ports.isEmpty &&
      c.payload_contains.isEmpty && c.payload_prefix_hex.isEmpty then "regex"
  else "rule"

def normalize_monitor (env : Env) (data : List (String × Value)) (allow_source : Bool)
    (validate_regex : Bool) : Except String Monitor := do
  let rt := env.toRuntime
  let named := ((Value.get data "id").orElse (Value.get data "slug")).orElse
    (Value.get data "name")
  let given := strip (named.text rt)
  let rule_id := if given = "" then "custom-monitor" else given
  let shown := strip (((Value.get data "name").orElse (.str rule_id)).toText rt)
  let enabled ← boolField rt data "enabled" true
  let priority := (Value.get data "priority").safe_int rt 100
  let rule ← normalize_match rt MATCH_LEVELS (Value.get data "match").entriesOf
  let stated := rt.lower (strip ((Value.get data "mode").text rt))
  validate_match_not_empty rule
  let checked := if validate_regex then validate_regex_patterns env rule else .ok ()
  checked
  let origin := strip (((Value.get data "source").orElse (.str "custom")).toText rt)
  pure
    { id := rule_id
      name := if shown = "" then rule_id else shown
      description := strip ((Value.get data "description").text rt)
      enabled := enabled
      priority := priority
      mode := if stated ∈ MODES then stated else defaultMode rule.criteria
      rule := rule
      action := normalize_action rt (Value.get data "action").entriesOf
      source := if allow_source then some (if origin = "" then "custom" else origin) else none }

/-- The monitors that `normalize_monitor` produces. -/
def Normalized (env : Env) (m : Monitor) : Prop :=
  ∃ data allow_source validate_regex,
    normalize_monitor env data allow_source validate_regex = .ok m

/-! ## The scan -/

/-- An entry of the result of `evaluate_packet`. -/
structure Hit where
  monitor_id : String
  monitor_name : String
  tag : String
  label : String
  severity : String
deriving DecidableEq

def Monitor.hit (m : Monitor) : Hit where
  monitor_id := m.id
  monitor_name := m.name
  tag := if m.action.tag = "" then m.id else m.action.tag
  label := if m.action.label = "" then m.name else m.action.label
  severity := if m.action.severity = "" then "info" else m.action.severity

/-- The loop body of `evaluate_packet` reports the monitor. -/
def reported (env : Env) (packet : Packet) (m : Monitor) : Bool :=
  !(is_http_response_packet env.toRuntime packet && startswith m.id "builtin-signal-") &&
    env.lower (strip m.mode) ≠ "stateful" &&
    rule_matches_packet env m.enabled m.rule packet (build_packet_text env packet)

def scan (env : Env) (packet : Packet) (candidates : List Monitor) : List Hit :=
  (candidates.filter (reported env packet)).map Monitor.hit

theorem reported_accepts {env : Env} {packet : Packet} {m : Monitor}
    (h : reported env packet m = true) :
    match_accepts env packet (build_packet_text env packet) m.rule = true := by
  simp only [reported, rule_matches_packet, Bool.and_eq_true] at h
  exact h.2.2

/-! ## Literals of a normalized monitor -/

theorem bind_eq_ok {ε β γ : Type} {x : Except ε β} {f : β → Except ε γ} {c : γ} :
    x >>= f = .ok c ↔ ∃ b, x = .ok b ∧ f b = .ok c := by
  cases x with
  | error e => exact ⟨nofun, nofun⟩
  | ok b =>
    constructor
    · intro h
      exact ⟨b, rfl, h⟩
    · rintro ⟨b', hb, h⟩
      injection hb with hb
      rw [hb]
      exact h

theorem pure_eq_ok {ε β : Type} {b c : β} : (pure b : Except ε β) = .ok c ↔ b = c :=
  ⟨fun h => by injection h, fun h => congrArg _ h⟩

variable {rt : Runtime} {data : List (String × Value)}

theorem textField_nonblank {key : String} {items : List String}
    (h : textField rt data key = .ok items) : ∀ s ∈ items, strip s ≠ "" := by
  simp only [textField, bind_eq_ok, pure_eq_ok] at h
  obtain ⟨values, -, rfl⟩ := h
  intro s hs
  exact of_decide_eq_true (List.mem_filter.mp hs).2

theorem normalizeCriteria_contains {c : Criteria} (h : normalizeCriteria rt data = .ok c) :
    textField rt data "payload_contains" = .ok c.payload_contains := by
  simp only [normalizeCriteria, bind_eq_ok, pure_eq_ok] at h
  obtain ⟨_, -, _, -, _, -, _, -, _, -, _, -, _, -, _, -, _, -, _, -, contains, hContains, h⟩ := h
  obtain ⟨_, -, _, -, _, -, _, -, _, -, _, -, _, -, _, -, _, -, rfl⟩ := h
  exact hContains

theorem normalize_match_criteria {levels : Nat} {m : Match}
    (h : normalize_match rt levels data = .ok m) : normalizeCriteria rt data = .ok m.criteria := by
  cases levels with
  | zero =>
    simp only [normalize_match, bind_eq_ok, pure_eq_ok] at h
    obtain ⟨c, hc, rfl⟩ := h
    exact hc
  | succ levels =>
    simp only [normalize_match, bind_eq_ok, pure_eq_ok] at h
    obtain ⟨c, hc, _, -, _, -, _, -, rfl⟩ := h
    exact hc

theorem Normalized.literal_nonblank {env : Env} {m : Monitor} (h : Normalized env m) :
    ∀ s ∈ m.rule.criteria.payload_contains, strip s ≠ "" := by
  obtain ⟨data, allow_source, validate_regex, h⟩ := h
  simp only [normalize_monitor, bind_eq_ok, pure_eq_ok] at h
  obtain ⟨_, -, rule, hRule, _, -, _, -, rfl⟩ := h
  exact textField_nonblank (normalizeCriteria_contains (normalize_match_criteria hRule))

end Sniff4Hound
