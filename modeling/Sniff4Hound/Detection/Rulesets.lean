import Sniff4Hound.Text.Value
import Mathlib.Data.List.Dedup

/-!
# Rules

`rulesets.py`: the criteria of a rule, their normalization and `rule_matches_packet`. The
regular expression engine, the Unicode tables and the settings are parameters.
-/

namespace Sniff4Hound

structure Env extends Runtime where
  search : String → String → Bool
  validate_regex_pattern : String → Except String Unit
  PAYLOAD_TEXT_MAX_CHARS : Nat
  MONITOR_MAX_REGEX_PATTERNS : Nat

def Env.ascii : Env where
  toRuntime := Runtime.ascii
  search _ _ := false
  validate_regex_pattern _ := .ok ()
  PAYLOAD_TEXT_MAX_CHARS := 4096
  MONITOR_MAX_REGEX_PATTERNS := 8

structure Criteria where
  protocols : List String := []
  exclude_protocols : List String := []
  ip_versions : List Int := []
  exclude_ip_versions : List Int := []
  eth_types : List Int := []
  exclude_eth_types : List Int := []
  ports : List Int := []
  exclude_ports : List Int := []
  src_ports : List Int := []
  exclude_src_ports : List Int := []
  dst_ports : List Int := []
  exclude_dst_ports : List Int := []
  port_regex : List String := []
  exclude_port_regex : List String := []
  ips : List String := []
  exclude_ips : List String := []
  ip_regex : List String := []
  exclude_ip_regex : List String := []
  protocol_regex : List String := []
  exclude_protocol_regex : List String := []
  payload_contains : List String := []
  exclude_payload_contains : List String := []
  payload_prefix_hex : List String := []
  exclude_payload_prefix_hex : List String := []
  payload_regex : List String := []
  payload_regex_exclude : List String := []
  request_only : Bool := false
  tcp_flags : List String := []
  tcp_flags_any : List String := []
  tcp_flags_all : List String := []
  icmp_types : List Int := []
  icmp_codes : List Int := []
  arp_opcodes : List Int := []
  min_length : Int := 0
  max_length : Int := 0
  min_payload_text_length : Int := 0
  count_threshold : Int := 0
  window_seconds : Int := 0
  group_by : String := "src_ip"
deriving DecidableEq

/-- A match: its criteria and the nested `all`, `any` and `none` conditions. -/
inductive Match where
  | node (criteria : Criteria) (all any none : List Match)

namespace Match

def criteria : Match → Criteria
  | node criteria _ _ _ => criteria

def all : Match → List Match
  | node _ all _ _ => all

def any : Match → List Match
  | node _ _ any _ => any

def none : Match → List Match
  | node _ _ _ none => none

mutual

def decEq : (m m' : Match) → Decidable (m = m')
  | node c all any none, node c' all' any' none' =>
    match instDecidableEqCriteria c c', decEqList all all', decEqList any any', decEqList none none' with
    | isTrue hc, isTrue hAll, isTrue hAny, isTrue hNone =>
      isTrue (by rw [hc, hAll, hAny, hNone])
    | isFalse hc, _, _, _ => isFalse fun h => by injection h; exact hc ‹_›
    | _, isFalse hAll, _, _ => isFalse fun h => by injection h; exact hAll ‹_›
    | _, _, isFalse hAny, _ => isFalse fun h => by injection h; exact hAny ‹_›
    | _, _, _, isFalse hNone => isFalse fun h => by injection h; exact hNone ‹_›

def decEqList : (ms ms' : List Match) → Decidable (ms = ms')
  | [], [] => isTrue rfl
  | [], _ :: _ => isFalse nofun
  | _ :: _, [] => isFalse nofun
  | m :: ms, m' :: ms' =>
    match decEq m m', decEqList ms ms' with
    | isTrue hHead, isTrue hTail => isTrue (by rw [hHead, hTail])
    | isFalse hHead, _ => isFalse fun h => by injection h; exact hHead ‹_›
    | _, isFalse hTail => isFalse fun h => by injection h; exact hTail ‹_›

end

instance : DecidableEq Match := decEq

end Match

/-! ## TCP flags -/

def TCP_FLAG_ALIASES : List (String × String) :=
  [("F", "FIN"), ("FIN", "FIN"), ("S", "SYN"), ("SYN", "SYN"), ("R", "RST"), ("RST", "RST"),
    ("P", "PSH"), ("PSH", "PSH"), ("A", "ACK"), ("ACK", "ACK"), ("U", "URG"), ("URG", "URG"),
    ("E", "ECE"), ("ECE", "ECE"), ("C", "CWR"), ("CWR", "CWR")]

/-- The flag names in the order of `sorted`. -/
def TCP_FLAGS : List String := ["ACK", "CWR", "ECE", "FIN", "PSH", "RST", "SYN", "URG"]

/-- A set of flags, listed in the order of `sorted`. -/
def flagSet (names : List String) : List String := TCP_FLAGS.filter (· ∈ names)

def flagsOfPart (part : String) : List String :=
  match TCP_FLAG_ALIASES.lookup part with
  | some name => [name]
  | none =>
    -- a run of single letters, "SA": any letter that names no flag voids the part
    let names := part.toList.map fun letter =>
      TCP_FLAG_ALIASES.lookup (String.ofList [letter])
    if names.all Option.isSome then names.filterMap id else []

/-- `parse_tcp_flags` of a string. -/
def parse_tcp_flags (rt : Runtime) (value : String) : List String :=
  let text := rt.upper (strip value)
  if text = "" ∨ text = "NONE" then []
  else
    let letters := text.toList.map fun c => if c ∈ [',', '+', '|', '/', ' '] then ',' else c
    let parts := (letters.splitOn ',').map String.ofList
    flagSet ((parts.filter (· ≠ "")).flatMap flagsOfPart)

/-- `parse_tcp_flags` of a list of strings. -/
def parse_tcp_flags_list (rt : Runtime) (values : List String) : List String :=
  flagSet (values.flatMap (parse_tcp_flags rt))

/-- `parse_tcp_flags` of a value that is no container. -/
def parse_tcp_flags_value (rt : Runtime) (value : Value) : List String :=
  match value with
  | .null => []
  | v => parse_tcp_flags rt (v.toText rt)

def tcp_flag_spec (rt : Runtime) (value : Value) : String :=
  let flags := parse_tcp_flags_value rt value
  if flags = [] then "NONE" else join "," flags

/-! ## Normalization -/

def isBlank (v : Value) : Bool :=
  match v with
  | .null => true
  | .str s => strip s = ""
  | _ => false

/-- `_list(key)`. -/
def listField (rt : Runtime) (data : List (String × Value)) (key : String) :
    Except String (List Value) :=
  let values := match Value.get data key with
    | .list items => items
    | .null => []
    | .str "" => []
    | raw => [raw]
  let kept := values.filter fun item => !isBlank item
  let cleaned := if key = "protocols" ∨ key = "exclude_protocols" then
      kept.map fun item => Value.str (normalize_protocol_name rt item)
    else kept
  match cleaned.filterMap Value.unhashable? with
  | name :: _ => .error ("unhashable type: '" ++ name ++ "'")
  | [] => .ok (unique_ordered Value.eqv cleaned)

/-- `[str(item) for item in _list(key) if str(item).strip()]`. -/
def textField (rt : Runtime) (data : List (String × Value)) (key : String) :
    Except String (List String) := do
  let items ← listField rt data key
  pure ((items.map (Value.toText rt)).filter fun s => strip s ≠ "")

/-- `_int_list(key)`. -/
def intField (rt : Runtime) (data : List (String × Value)) (key : String) : List Int :=
  let raw := match Value.get data key with
    | .list items => items
    | raw => [raw]
  unique_ordered (fun i j => i == j) (raw.filterMap (Value.toInt? rt))

/-- `coerce_bool(data[key], key) if key in data else default`. -/
def boolField (rt : Runtime) (data : List (String × Value)) (key : String) (default : Bool) :
    Except String Bool :=
  if Value.has data key then coerce_bool rt (Value.get data key) key else .ok default

/-- `.replace("0x", "")`. -/
def removeHexMarks : List Char → List Char
  | '0' :: 'x' :: rest => removeHexMarks rest
  | c :: rest => c :: removeHexMarks rest
  | [] => []

def GROUP_BY_CHOICES : List String :=
  ["src_ip", "dst_ip", "src_ip+dst_port", "dst_ip+dst_port", "src_ip+dst_ip"]

def group_by_spec (rt : Runtime) (value : Value) : String :=
  let text := rt.lower (strip (value.text rt))
  if text ∈ GROUP_BY_CHOICES then text else "src_ip"

/-- The dictionaries that `_condition_list(key)` goes through. -/
def conditionItems (data : List (String × Value)) (key : String) :
    List (List (String × Value)) :=
  let direct := Value.get data key
  let raw := if !direct.truthy then
      match Value.get data "conditions" with
      | .dict conditions => Value.get conditions key
      | _ => direct
    else direct
  match raw with
  | .dict entries => [entries]
  | .list items => items.filterMap fun item =>
    match item with
    | .dict entries => some entries
    | _ => none
  | _ => []

/-- The flat part of `normalize_match`, key by key in the order of the source. -/
def normalizeCriteria (rt : Runtime) (data : List (String × Value)) :
    Except String Criteria := do
  let texts := fun key => textField rt data key
  let stripped := fun key => do
    let items ← textField rt data key
    pure (items.map strip)
  let lowered := fun key => do
    let items ← textField rt data key
    pure (items.map fun s => rt.lower (strip s))
  let hexes := fun key => do
    let items ← textField rt data key
    pure (items.map fun s => String.ofList (removeHexMarks (rt.lower (strip s)).toList))
  let protocols ← listField rt data "protocols"
  let exclude_protocols ← listField rt data "exclude_protocols"
  let port_regex ← stripped "port_regex"
  let exclude_port_regex ← stripped "exclude_port_regex"
  let ips ← lowered "ips"
  let exclude_ips ← lowered "exclude_ips"
  let ip_regex ← stripped "ip_regex"
  let exclude_ip_regex ← stripped "exclude_ip_regex"
  let protocol_regex ← stripped "protocol_regex"
  let exclude_protocol_regex ← stripped "exclude_protocol_regex"
  let payload_contains ← texts "payload_contains"
  let exclude_payload_contains ← texts "exclude_payload_contains"
  let payload_prefix_hex ← hexes "payload_prefix_hex"
  let exclude_payload_prefix_hex ← hexes "exclude_payload_prefix_hex"
  let payload_regex ← stripped "payload_regex"
  let payload_regex_exclude ← stripped "payload_regex_exclude"
  let request_only ← boolField rt data "request_only" false
  let tcp_flags ← listField rt data "tcp_flags"
  let tcp_flags_any ← listField rt data "tcp_flags_any"
  let tcp_flags_all ← listField rt data "tcp_flags_all"
  let number := fun key => (Value.get data key).safe_int rt 0
  pure
    { protocols := protocols.map (Value.toText rt)
      exclude_protocols := exclude_protocols.map (Value.toText rt)
      ip_versions := intField rt data "ip_versions"
      exclude_ip_versions := intField rt data "exclude_ip_versions"
      eth_types := intField rt data "eth_types"
      exclude_eth_types := intField rt data "exclude_eth_types"
      ports := intField rt data "ports"
      exclude_ports := intField rt data "exclude_ports"
      src_ports := intField rt data "src_ports"
      exclude_src_ports := intField rt data "exclude_src_ports"
      dst_ports := intField rt data "dst_ports"
      exclude_dst_ports := intField rt data "exclude_dst_ports"
      port_regex := port_regex
      exclude_port_regex := exclude_port_regex
      ips := ips
      exclude_ips := exclude_ips
      ip_regex := ip_regex
      exclude_ip_regex := exclude_ip_regex
      protocol_regex := protocol_regex
      exclude_protocol_regex := exclude_protocol_regex
      payload_contains := payload_contains
      exclude_payload_contains := exclude_payload_contains
      payload_prefix_hex := payload_prefix_hex
      exclude_payload_prefix_hex := exclude_payload_prefix_hex
      payload_regex := payload_regex
      payload_regex_exclude := payload_regex_exclude
      request_only := request_only
      tcp_flags := tcp_flags.map (tcp_flag_spec rt)
      tcp_flags_any := flagSet (tcp_flags_any.flatMap (parse_tcp_flags_value rt))
      tcp_flags_all := flagSet (tcp_flags_all.flatMap (parse_tcp_flags_value rt))
      icmp_types := intField rt data "icmp_types"
      icmp_codes := intField rt data "icmp_codes"
      arp_opcodes := intField rt data "arp_opcodes"
      min_length := number "min_length"
      max_length := number "max_length"
      min_payload_text_length := number "min_payload_text_length"
      count_threshold := max 0 (number "count_threshold")
      window_seconds := max 0 (number "window_seconds")
      group_by := group_by_spec rt (Value.get data "group_by") }

/-- `normalize_match`; the number counts the levels of nesting still allowed, `4 - _depth`. -/
def normalize_match (rt : Runtime) : Nat → List (String × Value) → Except String Match
  | 0, data => do
    let criteria ← normalizeCriteria rt data
    pure (.node criteria [] [] [])
  | levels + 1, data => do
    let criteria ← normalizeCriteria rt data
    let all ← (conditionItems data "all").mapM (normalize_match rt levels)
    let any ← (conditionItems data "any").mapM (normalize_match rt levels)
    let noneOf ← (conditionItems data "none").mapM (normalize_match rt levels)
    pure (.node criteria all any noneOf)

/-- The nesting that `normalize_match` keeps from the top. -/
def MATCH_LEVELS : Nat := 4

structure Action where
  tag : String
  label : String
  severity : String
deriving DecidableEq

def normalize_action (rt : Runtime) (data : List (String × Value)) : Action :=
  let severity := rt.lower (strip (((Value.get data "severity").orElse (.str "info")).toText rt))
  { tag := strip ((Value.get data "tag").text rt)
    label := strip ((Value.get data "label").text rt)
    severity := if severity = "" then "info" else severity }

/-! ## Text of a packet -/

def limit_regex_subject (env : Env) (text : String) : String :=
  slice text (max 1 env.PAYLOAD_TEXT_MAX_CHARS)

/-- `regex_search(_compiled_regex(pattern), value)`. -/
def regex_search (env : Env) (pattern value : String) : Bool :=
  env.search (strip pattern) (limit_regex_subject env value)

def isUnset (v : Value) : Bool :=
  match v with
  | .null => true
  | .str "" => true
  | _ => false

def PACKET_TEXT_FIELDS : List String :=
  ["summary", "payload_text", "domain", "http_host", "http_path", "http_method"]

def build_packet_text (env : Env) (packet : Packet) : String :=
  let values := (PACKET_TEXT_FIELDS.map packet).filter fun v => !isUnset v
  limit_regex_subject env
    (env.lower (join " " (values.map (Value.toText env.toRuntime))))

def HTTP_SERVER_PORTS : List Int := [80, 8000, 8008, 8080, 8081, 8888]

def is_http_response_packet (rt : Runtime) (packet : Packet) : Bool :=
  let text := lstrip ((packet "payload_text").text rt)
  if rt.upper (slice text 5) = "HTTP/" then true
  else
    match ((packet "src_port").orElse (.int 0)).toInt? rt,
        ((packet "dst_port").orElse (.int 0)).toInt? rt with
    | some src_port, some dst_port =>
      src_port ∈ HTTP_SERVER_PORTS && !(dst_port ∈ HTTP_SERVER_PORTS)
    | _, _ => false

/-! ## Matching -/

/-- `[safe_int(item, 0) for item in items if safe_int(item, 0)]`. -/
def nonzero (items : List Int) : List Int := items.filter (· ≠ 0)

/-- `[str(item) for item in items if str(item).strip()]`. -/
def nonblank (items : List String) : List String := items.filter fun s => strip s ≠ ""

/-- `not wanted or value in wanted`. -/
def wants {β : Type} [DecidableEq β] (wanted : List β) (value : β) : Bool :=
  wanted.isEmpty || value ∈ wanted

/-- The header fields of a packet as `rule_matches_packet` reads them. -/
structure Header where
  proto : String
  transport : String
  payload_hex : String
  length : Int
  ip_version : Int
  eth_type : Int
  src_port : Int
  dst_port : Int
  src_ip : String
  dst_ip : String
  tcp_flags : String
  icmp_type : Int
  icmp_code : Int
  arp_opcode : Int
  payload_text_length : Nat

def Packet.number (rt : Runtime) (packet : Packet) (key : String) : Int :=
  (packet key).safe_int rt 0

def Packet.name (rt : Runtime) (packet : Packet) (key : String) : String :=
  rt.lower (strip ((packet key).text rt))

def header (rt : Runtime) (packet : Packet) : Header where
  proto := normalize_protocol_name rt (packet "proto")
  transport := packet.name rt "transport"
  payload_hex := rt.lower ((packet "payload_hex").text rt)
  length := packet.number rt "length"
  ip_version := packet.number rt "ip_version"
  eth_type := packet.number rt "eth_type"
  src_port := packet.number rt "src_port"
  dst_port := packet.number rt "dst_port"
  src_ip := packet.name rt "src_ip"
  dst_ip := packet.name rt "dst_ip"
  tcp_flags := strip ((packet "tcp_flags").text rt)
  icmp_type := (packet "icmp_type").safe_int rt (-1)
  icmp_code := (packet "icmp_code").safe_int rt (-1)
  arp_opcode := packet.number rt "arp_opcode"
  payload_text_length := ((packet "payload_text").text rt).length

def protocolNames (rt : Runtime) (items : List String) : List String :=
  (nonblank items).map fun item => normalize_protocol_name rt (.str item)

def anyFound (env : Env) (patterns values : List String) : Bool :=
  ((patterns.map strip).filter (· ≠ "")).any fun pattern =>
    values.any fun value => regex_search env pattern value

/-- `_regex_matches_any`: only values that are not empty are searched. -/
def regex_matches_any (env : Env) (patterns values : List String) : Bool :=
  anyFound env patterns (values.filter (· ≠ ""))

def wantsFound (env : Env) (patterns values : List String) : Bool :=
  ((patterns.map strip).filter (· ≠ "")).isEmpty || anyFound env patterns values

def protocolsOk (rt : Runtime) (c : Criteria) (h : Header) : Bool :=
  let excluded := protocolNames rt c.exclude_protocols
  let wanted := protocolNames rt c.protocols
  !(h.proto ∈ excluded || (h.transport ≠ "" && h.transport ∈ excluded)) &&
    (wanted.isEmpty || h.proto ∈ wanted || (h.transport ≠ "" && h.transport ∈ wanted))

def versionsOk (c : Criteria) (h : Header) : Bool :=
  wants (nonzero c.ip_versions) h.ip_version &&
    !(h.ip_version ∈ nonzero c.exclude_ip_versions) &&
    wants (nonzero c.eth_types) h.eth_type && !(h.eth_type ∈ nonzero c.exclude_eth_types)

def portListsOk (c : Criteria) (h : Header) : Bool :=
  ((nonzero c.ports).isEmpty || h.src_port ∈ nonzero c.ports || h.dst_port ∈ nonzero c.ports) &&
    wants (nonzero c.src_ports) h.src_port && wants (nonzero c.dst_ports) h.dst_port

def portExclusionsOk (c : Criteria) (h : Header) : Bool :=
  !(h.src_port ∈ nonzero c.exclude_ports || h.dst_port ∈ nonzero c.exclude_ports) &&
    !(h.src_port ∈ nonzero c.exclude_src_ports) && !(h.dst_port ∈ nonzero c.exclude_dst_ports)

def portPatternsOk (env : Env) (c : Criteria) (h : Header) : Bool :=
  let values := [toString h.src_port, toString h.dst_port]
  wantsFound env c.port_regex values && !regex_matches_any env c.exclude_port_regex values

def addressesOk (env : Env) (c : Criteria) (h : Header) : Bool :=
  let cleaned := fun items => (nonblank items).map fun item => env.lower (strip item)
  ((cleaned c.ips).isEmpty || h.src_ip ∈ cleaned c.ips || h.dst_ip ∈ cleaned c.ips) &&
    !(h.src_ip ∈ cleaned c.exclude_ips || h.dst_ip ∈ cleaned c.exclude_ips) &&
    wantsFound env c.ip_regex [h.src_ip, h.dst_ip] &&
    !regex_matches_any env c.exclude_ip_regex [h.src_ip, h.dst_ip]

def protocolPatternsOk (env : Env) (c : Criteria) (h : Header) : Bool :=
  wantsFound env c.protocol_regex
      (h.proto :: if h.transport = "" then [] else [h.transport]) &&
    !regex_matches_any env c.exclude_protocol_regex [h.proto, h.transport]

def flagsOk (rt : Runtime) (c : Criteria) (h : Header) : Bool :=
  let specs := nonblank c.tcp_flags
  let flags_any := parse_tcp_flags_list rt c.tcp_flags_any
  let flags_all := parse_tcp_flags_list rt c.tcp_flags_all
  let packet_flags := parse_tcp_flags rt h.tcp_flags
  (specs.isEmpty && flags_any.isEmpty && flags_all.isEmpty) ||
    (h.proto = "tcp" && h.tcp_flags ≠ "" &&
      (specs.isEmpty || specs.any fun spec => packet_flags = parse_tcp_flags rt spec) &&
      (flags_any.isEmpty || flags_any.any (· ∈ packet_flags)) &&
      flags_all.all (· ∈ packet_flags))

def controlOk (c : Criteria) (h : Header) : Bool :=
  let counted := fun (items : List Int) => items.filter (0 ≤ ·)
  let isIcmp := h.proto ∈ ["icmp", "icmpv6"]
  ((counted c.icmp_types).isEmpty || (isIcmp && h.icmp_type ∈ counted c.icmp_types)) &&
    ((counted c.icmp_codes).isEmpty || (isIcmp && h.icmp_code ∈ counted c.icmp_codes)) &&
    wants (nonzero c.arp_opcodes) h.arp_opcode

def hasCriteria (rt : Runtime) (c : Criteria) (all any : List Match) : Bool :=
  !((protocolNames rt c.protocols).isEmpty && (nonzero c.ip_versions).isEmpty &&
      (nonzero c.eth_types).isEmpty && (nonzero c.ports).isEmpty &&
      (nonzero c.src_ports).isEmpty && (nonzero c.dst_ports).isEmpty &&
      (nonblank c.port_regex).isEmpty && (nonblank c.ips).isEmpty &&
      (nonblank c.ip_regex).isEmpty && (nonblank c.protocol_regex).isEmpty &&
      (nonblank c.payload_contains).isEmpty && (nonblank c.payload_prefix_hex).isEmpty &&
      (nonblank c.payload_regex).isEmpty && (nonblank c.tcp_flags).isEmpty &&
      (parse_tcp_flags_list rt c.tcp_flags_any).isEmpty &&
      (parse_tcp_flags_list rt c.tcp_flags_all).isEmpty &&
      (c.icmp_types.filter (0 ≤ ·)).isEmpty && (c.icmp_codes.filter (0 ≤ ·)).isEmpty &&
      (nonzero c.arp_opcodes).isEmpty && all.isEmpty && any.isEmpty) ||
    c.min_length ≠ 0 || c.max_length ≠ 0 || c.min_payload_text_length ≠ 0 ||
    (c.count_threshold ≠ 0 && c.window_seconds ≠ 0)

def needles (rt : Runtime) (items : List String) : List String := (nonblank items).map rt.lower

def hexPrefixes (rt : Runtime) (items : List String) : List String :=
  (nonblank items).map fun item => String.ofList (removeHexMarks (rt.lower item).toList)

def literalsOk (env : Env) (c : Criteria) (packet_text : String) : Bool :=
  ((needles env.toRuntime c.payload_contains).isEmpty ||
      (needles env.toRuntime c.payload_contains).any (contains packet_text)) &&
    !(needles env.toRuntime c.exclude_payload_contains).any (contains packet_text)

def payloadOk (env : Env) (c : Criteria) (h : Header) (packet_text : String) : Bool :=
  ((hexPrefixes env.toRuntime c.payload_prefix_hex).isEmpty ||
      (hexPrefixes env.toRuntime c.payload_prefix_hex).any (startswith h.payload_hex)) &&
    !(hexPrefixes env.toRuntime c.exclude_payload_prefix_hex).any (startswith h.payload_hex) &&
    wantsFound env c.payload_regex [packet_text] &&
    !anyFound env c.payload_regex_exclude [packet_text]

def lengthsOk (c : Criteria) (h : Header) : Bool :=
  !(c.min_length ≠ 0 && h.length < c.min_length) &&
    !(c.max_length ≠ 0 && h.length > c.max_length) &&
    !(c.min_payload_text_length ≠ 0 && h.payload_text_length < c.min_payload_text_length)

/-- The part of `rule_matches_packet` before the nested conditions. -/
def criteriaOk (env : Env) (c : Criteria) (all any : List Match) (packet : Packet)
    (packet_text : String) : Bool :=
  let h := header env.toRuntime packet
  !(c.request_only && is_http_response_packet env.toRuntime packet) &&
    protocolsOk env.toRuntime c h && versionsOk c h && portListsOk c h &&
    portExclusionsOk c h && portPatternsOk env c h && addressesOk env c h &&
    protocolPatternsOk env c h && flagsOk env.toRuntime c h && controlOk c h &&
    hasCriteria env.toRuntime c all any && literalsOk env c packet_text &&
    payloadOk env c h packet_text && lengthsOk c h

mutual

/-- `rule_matches_packet` for an enabled rule. -/
def match_accepts (env : Env) (packet : Packet) (packet_text : String) : Match → Bool
  | .node c all any noneOf =>
    criteriaOk env c all any packet packet_text &&
      all_accept env packet packet_text all &&
      (any.isEmpty || any_accepts env packet packet_text any) &&
      !any_accepts env packet packet_text noneOf

def all_accept (env : Env) (packet : Packet) (packet_text : String) : List Match → Bool
  | [] => true
  | m :: ms => match_accepts env packet packet_text m && all_accept env packet packet_text ms

def any_accepts (env : Env) (packet : Packet) (packet_text : String) : List Match → Bool
  | [] => false
  | m :: ms => match_accepts env packet packet_text m || any_accepts env packet packet_text ms

end

def rule_matches_packet (env : Env) (enabled : Bool) (m : Match) (packet : Packet)
    (packet_text : String) : Bool :=
  enabled && match_accepts env packet packet_text m

/-! ## What a match needs -/

variable {env : Env} {packet : Packet} {packet_text : String} {m : Match}

theorem match_accepts_criteria (h : match_accepts env packet packet_text m = true) :
    criteriaOk env m.criteria m.all m.any packet packet_text = true := by
  cases m with
  | node c all any noneOf =>
    simp only [match_accepts, Bool.and_eq_true] at h
    exact h.1.1.1

theorem match_accepts_needle (h : match_accepts env packet packet_text m = true)
    (hLiterals : needles env.toRuntime m.criteria.payload_contains ≠ []) :
    ∃ needle ∈ needles env.toRuntime m.criteria.payload_contains,
      contains packet_text needle = true := by
  have hCriteria := match_accepts_criteria h
  simp only [criteriaOk, literalsOk, Bool.and_eq_true, Bool.or_eq_true, List.isEmpty_iff,
    List.any_eq_true] at hCriteria
  exact hCriteria.1.1.2.1.resolve_left hLiterals

theorem match_accepts_ports (h : match_accepts env packet packet_text m = true) :
    portListsOk m.criteria (header env.toRuntime packet) = true := by
  have hCriteria := match_accepts_criteria h
  simp only [criteriaOk, Bool.and_eq_true] at hCriteria
  exact hCriteria.1.1.1.1.1.1.1.1.1.1.2

end Sniff4Hound
