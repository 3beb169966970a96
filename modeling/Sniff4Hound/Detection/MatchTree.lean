import Sniff4Hound.Detection.BlacklistContract
import Sniff4Hound.Detection.FlagContract
import Sniff4Hound.Library.Members
import Sniff4Hound.Store.ListMigration

/-!
# Matches as they are written

A match comes in as a dictionary whose lists hold strings and integers, with conditions nested to any
depth. `rule_matches_packet` converts what it reads of it entry by entry (`MatchTree.read`), and
`normalize_match` stores a converted form, of which the matcher reads the same but for hex prefixes
with blanks or marks left in them.
-/

namespace Sniff4Hound

/-! ## Trees -/

def Value.isEntry : Value → Bool
  | .str _ => true
  | .int _ => true
  | _ => false

def Value.isListing : Value → Bool
  | .list items => items.all Value.isEntry
  | _ => false

def Value.isInteger : Value → Bool
  | .int _ => true
  | _ => false

def Value.isSwitch : Value → Bool
  | .bool _ => true
  | .int _ => true
  | _ => false

def NAME_KEYS : List String := ["protocols", "exclude_protocols"]

def NUMBER_LIST_KEYS : List String :=
  ["ip_versions", "exclude_ip_versions", "eth_types", "exclude_eth_types", "ports",
    "exclude_ports", "src_ports", "exclude_src_ports", "dst_ports", "exclude_dst_ports",
    "icmp_types", "icmp_codes", "arp_opcodes"]

def HEX_KEYS : List String := ["payload_prefix_hex", "exclude_payload_prefix_hex"]

inductive TextKind
  | pattern
  | address
  | literal
  | hex
  | flags
deriving DecidableEq

def TEXT_KEYS : List (TextKind × String) :=
  [(.pattern, "port_regex"), (.pattern, "exclude_port_regex"), (.address, "ips"),
    (.address, "exclude_ips"), (.pattern, "ip_regex"), (.pattern, "exclude_ip_regex"),
    (.pattern, "protocol_regex"), (.pattern, "exclude_protocol_regex"),
    (.literal, "payload_contains"), (.literal, "exclude_payload_contains"),
    (.hex, "payload_prefix_hex"), (.hex, "exclude_payload_prefix_hex"),
    (.pattern, "payload_regex"), (.pattern, "payload_regex_exclude"), (.flags, "tcp_flags")]

def FLAG_KEYS : List String := ["tcp_flags_any", "tcp_flags_all"]

def LIST_KEYS : List String :=
  NAME_KEYS ++ NUMBER_LIST_KEYS ++ TEXT_KEYS.map Prod.snd ++ FLAG_KEYS

def INTEGER_KEYS : List String :=
  ["min_length", "max_length", "min_payload_text_length", "count_threshold", "window_seconds"]

def CONDITION_KEYS : List String := ["all", "any", "none"]

structure MatchFields where
  entries : List (String × Value)
  lists : ∀ key ∈ LIST_KEYS, Value.has entries key = true →
    (Value.get entries key).isListing = true
  integers : ∀ key ∈ INTEGER_KEYS, Value.has entries key = true →
    (Value.get entries key).isInteger = true
  request_only : Value.has entries "request_only" = true →
    (Value.get entries "request_only").isSwitch = true
  flat : ∀ key ∈ "conditions" :: CONDITION_KEYS, Value.has entries key = false

inductive MatchTree where
  | node (fields : MatchFields) (all any none : List MatchTree)

def conditionEntries (entries : List (String × Value)) (all any noneOf : List Value) :
    List (String × Value) :=
  entries ++ [("all", .list all), ("any", .list any), ("none", .list noneOf)]

namespace MatchTree

mutual

def data : MatchTree → List (String × Value)
  | .node fields all any noneOf =>
    conditionEntries fields.entries (dataList all) (dataList any) (dataList noneOf)

def dataList : List MatchTree → List Value
  | [] => []
  | t :: ts => .dict t.data :: dataList ts

end

end MatchTree

/-! ## What the matcher reads -/

/-- `match.get(key, [])` for a list. -/
def listItems (data : List (String × Value)) (key : String) : List Value :=
  match Value.get data key with
  | .list items => items
  | _ => []

/-- `[normalize_protocol_name(item) for item in match.get(key, []) if str(item).strip()]`. -/
def readNames (rt : Runtime) (data : List (String × Value)) (key : String) : List String :=
  ((listItems data key).filter fun item => strip (item.toText rt) ≠ "").map
    (normalize_protocol_name rt)

/-- `[safe_int(item, default) for item in match.get(key, [])]`. -/
def readNumbers (rt : Runtime) (data : List (String × Value)) (key : String) (default : Int) :
    List Int :=
  (listItems data key).map fun item => item.safe_int rt default

/-- `[str(item) for item in match.get(key, [])]`. -/
def readTexts (rt : Runtime) (data : List (String × Value)) (key : String) : List String :=
  (listItems data key).map (Value.toText rt)

/-- The criteria of a match, its entries converted as `rule_matches_packet` does it. -/
def readCriteria (rt : Runtime) (data : List (String × Value)) : Criteria where
  protocols := readNames rt data "protocols"
  exclude_protocols := readNames rt data "exclude_protocols"
  ip_versions := readNumbers rt data "ip_versions" 0
  exclude_ip_versions := readNumbers rt data "exclude_ip_versions" 0
  eth_types := readNumbers rt data "eth_types" 0
  exclude_eth_types := readNumbers rt data "exclude_eth_types" 0
  ports := readNumbers rt data "ports" 0
  exclude_ports := readNumbers rt data "exclude_ports" 0
  src_ports := readNumbers rt data "src_ports" 0
  exclude_src_ports := readNumbers rt data "exclude_src_ports" 0
  dst_ports := readNumbers rt data "dst_ports" 0
  exclude_dst_ports := readNumbers rt data "exclude_dst_ports" 0
  port_regex := readTexts rt data "port_regex"
  exclude_port_regex := readTexts rt data "exclude_port_regex"
  ips := readTexts rt data "ips"
  exclude_ips := readTexts rt data "exclude_ips"
  ip_regex := readTexts rt data "ip_regex"
  exclude_ip_regex := readTexts rt data "exclude_ip_regex"
  protocol_regex := readTexts rt data "protocol_regex"
  exclude_protocol_regex := readTexts rt data "exclude_protocol_regex"
  payload_contains := readTexts rt data "payload_contains"
  exclude_payload_contains := readTexts rt data "exclude_payload_contains"
  payload_prefix_hex := readTexts rt data "payload_prefix_hex"
  exclude_payload_prefix_hex := readTexts rt data "exclude_payload_prefix_hex"
  payload_regex := readTexts rt data "payload_regex"
  payload_regex_exclude := readTexts rt data "payload_regex_exclude"
  request_only := (Value.get data "request_only").truthy
  tcp_flags := readTexts rt data "tcp_flags"
  tcp_flags_any := readTexts rt data "tcp_flags_any"
  tcp_flags_all := readTexts rt data "tcp_flags_all"
  icmp_types := readNumbers rt data "icmp_types" (-1)
  icmp_codes := readNumbers rt data "icmp_codes" (-1)
  arp_opcodes := readNumbers rt data "arp_opcodes" 0
  min_length := (Value.get data "min_length").safe_int rt 0
  max_length := (Value.get data "max_length").safe_int rt 0
  min_payload_text_length := (Value.get data "min_payload_text_length").safe_int rt 0
  count_threshold := (Value.get data "count_threshold").safe_int rt 0
  window_seconds := (Value.get data "window_seconds").safe_int rt 0

namespace MatchTree

mutual

/-- The match that `rule_matches_packet` goes by. -/
def read (rt : Runtime) : MatchTree → Match
  | .node fields all any noneOf =>
    .node (readCriteria rt fields.entries) (readList rt all) (readList rt any)
      (readList rt noneOf)

def readList (rt : Runtime) : List MatchTree → List Match
  | [] => []
  | t :: ts => t.read rt :: readList rt ts

end

end MatchTree

/-- `normalize_match` counts from zero. -/
def Criteria.counted (c : Criteria) : Criteria :=
  { c with count_threshold := max 0 c.count_threshold, window_seconds := max 0 c.window_seconds }

def Match.bounded : Nat → Match → Match
  | 0, .node c _ _ _ => .node c.counted [] [] []
  | levels + 1, .node c all any noneOf => .node c.counted (all.map (bounded levels))
      (any.map (bounded levels)) (noneOf.map (bounded levels))

/-- The fields of the first levels have the property; nothing is said of deeper ones. -/
def MatchTree.AtLevels (P : MatchFields → Prop) : Nat → MatchTree → Prop
  | 0, .node fields _ _ _ => P fields
  | levels + 1, .node fields all any noneOf => P fields ∧ (∀ t ∈ all, AtLevels P levels t) ∧
      (∀ t ∈ any, AtLevels P levels t) ∧ ∀ t ∈ noneOf, AtLevels P levels t

/-! ## What the normalizer stores -/

def storedText (rt : Runtime) (kind : TextKind) (item : Value) : String :=
  match kind with
  | .pattern => strip (item.toText rt)
  | .address => rt.lower (strip (item.toText rt))
  | .literal => item.toText rt
  | .hex => String.ofList (removeHexMarks (rt.lower (strip (item.toText rt))).toList)
  | .flags => tcp_flag_spec rt item

/-- A hex prefix of which the matcher and the normalizer make the same: no blanks around it, and
something without a mark is left when the marks are taken out. -/
structure HexEntry (rt : Runtime) (item : Value) : Prop where
  trimmed : strip (item.toText rt) = item.toText rt
  some : strip (storedText rt .hex item) ≠ ""
  unmarked : contains (storedText rt .hex item) "0x" = false

def MatchFields.CleanHex (rt : Runtime) (fields : MatchFields) : Prop :=
  ∀ key ∈ HEX_KEYS, ∀ item ∈ listItems fields.entries key,
    isBlank item = false → HexEntry rt item

/-- No two entries of a list are stored as one text, and no blanks are left around a hex prefix. -/
structure MatchFields.Apart (rt : Runtime) (fields : MatchFields) : Prop where
  texts : ∀ list ∈ TEXT_KEYS, ∀ item ∈ listItems fields.entries list.2,
    ∀ item' ∈ listItems fields.entries list.2, isBlank item = false → isBlank item' = false →
      storedText rt list.1 item = storedText rt list.1 item' → item = item'
  hexes : ∀ key ∈ HEX_KEYS, ∀ item ∈ listItems fields.entries key, isBlank item = false →
    strip (storedText rt .hex item) = storedText rt .hex item

/-- The entries of a stored match, in the order of `normalize_match`. -/
def Criteria.entries (c : Criteria) : List (String × Value) :=
  let texts := fun items : List String => Value.list (items.map .str)
  let numbers := fun items : List Int => Value.list (items.map .int)
  [("protocols", texts c.protocols), ("exclude_protocols", texts c.exclude_protocols),
    ("ip_versions", numbers c.ip_versions), ("exclude_ip_versions", numbers c.exclude_ip_versions),
    ("eth_types", numbers c.eth_types), ("exclude_eth_types", numbers c.exclude_eth_types),
    ("ports", numbers c.ports), ("exclude_ports", numbers c.exclude_ports),
    ("src_ports", numbers c.src_ports), ("exclude_src_ports", numbers c.exclude_src_ports),
    ("dst_ports", numbers c.dst_ports), ("exclude_dst_ports", numbers c.exclude_dst_ports),
    ("port_regex", texts c.port_regex), ("exclude_port_regex", texts c.exclude_port_regex),
    ("ips", texts c.ips), ("exclude_ips", texts c.exclude_ips),
    ("ip_regex", texts c.ip_regex), ("exclude_ip_regex", texts c.exclude_ip_regex),
    ("protocol_regex", texts c.protocol_regex),
    ("exclude_protocol_regex", texts c.exclude_protocol_regex),
    ("payload_contains", texts c.payload_contains),
    ("exclude_payload_contains", texts c.exclude_payload_contains),
    ("payload_prefix_hex", texts c.payload_prefix_hex),
    ("exclude_payload_prefix_hex", texts c.exclude_payload_prefix_hex),
    ("payload_regex", texts c.payload_regex),
    ("payload_regex_exclude", texts c.payload_regex_exclude),
    ("request_only", .bool c.request_only), ("tcp_flags", texts c.tcp_flags),
    ("tcp_flags_any", texts c.tcp_flags_any), ("tcp_flags_all", texts c.tcp_flags_all),
    ("icmp_types", numbers c.icmp_types), ("icmp_codes", numbers c.icmp_codes),
    ("arp_opcodes", numbers c.arp_opcodes), ("min_length", .int c.min_length),
    ("max_length", .int c.max_length),
    ("min_payload_text_length", .int c.min_payload_text_length),
    ("count_threshold", .int c.count_threshold), ("window_seconds", .int c.window_seconds),
    ("group_by", .str c.group_by)]

namespace Match

mutual

def data : Match → List (String × Value)
  | .node c all any noneOf =>
    conditionEntries c.entries (dataList all) (dataList any) (dataList noneOf)

def dataList : List Match → List Value
  | [] => []
  | m :: ms => .dict m.data :: dataList ms

end

end Match

end Sniff4Hound
