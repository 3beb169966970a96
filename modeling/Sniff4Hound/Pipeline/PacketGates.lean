import Sniff4Hound.Store.CatalogContract

/-!
# What keeps a packet out of detection

The checks of `sniffer.py` and `store.py` that decide, before any rule is looked at, whether
a packet is detected at all: the traffic of the own dashboard, the whitelist, the muted
address scopes and the exclusion filter. They read the caches of the sniffer; the address
parser of the standard library is a parameter.
-/

namespace Sniff4Hound

open Store

structure Address where
  version : Nat
  value : Nat
deriving DecidableEq

structure Network where
  version : Nat
  network_address : Nat
  netmask : Nat
deriving DecidableEq

/-- `address in network` -/
def Network.contains (network : Network) (address : Address) : Bool :=
  address.version = network.version && address.value &&& network.netmask = network.network_address

/-- What the checks take from `ipaddress`, and the engine with patterns that tell upper from
lower case. -/
structure GateEnv extends CatalogEnv where
  searchCase : String → String → Bool
  ip_address : String → Option Address
  is_loopback : Address → Bool
  is_multicast : Address → Bool
  is_private : Address → Bool
  is_link_local : Address → Bool
  is_reserved : Address → Bool
  is_global : Address → Bool

def GateEnv.ascii : GateEnv where
  toCatalogEnv := CatalogEnv.ascii
  searchCase _ _ := false
  ip_address _ := none
  is_loopback _ := false
  is_multicast _ := false
  is_private _ := false
  is_link_local _ := false
  is_reserved _ := false
  is_global _ := false

structure WhitelistEntry where
  category : String
  match_type : String
  value : String
  enabled : Bool
deriving DecidableEq

structure ExclusionFilters where
  protocols : List String
  ports : List Int
  ip_types : List String
  cidrs : List String
deriving DecidableEq

structure Gates where
  dashboard_port : Int
  whitelist_cache : List WhitelistEntry
  detection_exclude_scopes : List String
  exclusion_filters : ExclusionFilters
  exclusion_networks : List Network

variable (env : GateEnv)

/-! ## The dashboard -/

def is_own_dashboard_traffic (gates : Gates) (packet : Packet) : Bool :=
  let transport := env.lower ((packet "transport").text env.toRuntime)
  (transport = "tcp" || transport = "udp") &&
    (gates.dashboard_port = packet.number env.toRuntime "src_port" ||
      gates.dashboard_port = packet.number env.toRuntime "dst_port")

/-! ## The whitelist -/

/-- `regex_search(compiled_regex(pattern, 0), value)` -/
def regex_search_case (pattern value : String) : Bool :=
  env.searchCase (strip pattern) (limit_regex_subject env.toEnv value)

def whitelist_entry_matches_packet (entry : WhitelistEntry) (packet : Packet) : Bool :=
  let rt := env.toRuntime
  let category := env.lower (strip entry.category)
  let value := strip entry.value
  let is_regex := env.lower (strip (if entry.match_type = "" then "exact" else entry.match_type))
    = "regex"
  if !entry.enabled || category = "" || value = "" then false
  else if category = "ip" then
    let src_ip := packet.name rt "src_ip"
    let dst_ip := packet.name rt "dst_ip"
    if is_regex then regex_search_case env value src_ip || regex_search_case env value dst_ip
    else src_ip = env.lower value || dst_ip = env.lower value
  else if category = "port" then
    let src_port := toString (packet.number rt "src_port")
    let dst_port := toString (packet.number rt "dst_port")
    if is_regex then regex_search_case env value src_port || regex_search_case env value dst_port
    else src_port = value || dst_port = value
  else if category = "protocol" then
    let proto := normalize_protocol_name rt (packet "proto")
    let transport := packet.name rt "transport"
    if is_regex then
      regex_search env.toEnv value proto || transport ≠ "" && regex_search env.toEnv value transport
    else
      let wanted := normalize_protocol_name rt (.str value)
      proto = wanted || transport = wanted
  else if category ≠ "domain" && category ≠ "path" then false
  else
    let packet_text := build_packet_text env.toEnv packet
    if is_regex then regex_search env.toEnv value packet_text
    else
      regex_search_case env (literal_packet_text_pattern env.toCatalogEnv (env.lower value))
        packet_text

def whitelisted (gates : Gates) (packet : Packet) : Bool :=
  gates.whitelist_cache.any fun entry => whitelist_entry_matches_packet env entry packet

/-! ## Muted scopes -/

def LINK_LAYER_PROTOCOLS : List String :=
  ["arp", "rarp", "stp", "llc", "llc-snap", "lldp", "cdp", "eapol", "loop", "wol"]

/-- `ipaddress.ip_address(str(value or "").strip())`, nothing for an empty text. -/
def parsedAddress (value : Value) : Option Address :=
  let text := strip (value.text env.toRuntime)
  if text = "" then none else env.ip_address text

def detection_ip_scope (value : Value) : String :=
  match parsedAddress env value with
  | none => "unknown"
  | some address =>
    if env.is_loopback address then "loopback"
    else if env.is_global address then "public" else "private"

/-- `_detection_muted` -/
def scope_muted (gates : Gates) (packet : Packet) : Bool :=
  let scopes := gates.detection_exclude_scopes
  let proto := normalize_protocol_name env.toRuntime (packet "proto")
  let src := detection_ip_scope env (packet "src_ip")
  let dst := detection_ip_scope env (packet "dst_ip")
  if scopes.isEmpty || proto ∈ LINK_LAYER_PROTOCOLS || startswith proto "llc-" then false
  else if src = "unknown" || dst = "unknown" then false
  else src ∈ scopes && dst ∈ scopes

/-! ## The exclusion filter -/

def exclusion_ip_type (value : Value) : String :=
  match parsedAddress env value with
  | none => "unknown"
  | some address =>
    if env.is_loopback address then "loopback"
    else if env.is_multicast address then "multicast"
    else if env.is_private address || env.is_link_local address || env.is_reserved address then
      "private"
    else if env.is_global address then "public" else "unknown"

def ip_in_any_network (value : Value) (networks : List Network) : Bool :=
  match parsedAddress env value with
  | none => false
  | some address => networks.any fun network => network.contains address

def addressExcluded (filters : ExclusionFilters) (networks : List Network) (value : Value) :
    Bool :=
  value.truthy &&
    (!filters.ip_types.isEmpty && exclusion_ip_type env value ∈ filters.ip_types ||
      !networks.isEmpty && ip_in_any_network env value networks)

def packet_matches_exclusion_filter (packet : Packet) (filters : ExclusionFilters)
    (networks : List Network) : Bool :=
  let rt := env.toRuntime
  (!filters.protocols.isEmpty &&
      (normalize_protocol_name rt (packet "proto") ∈ filters.protocols ||
        (packet "transport").truthy &&
          normalize_protocol_name rt (packet "transport") ∈ filters.protocols)) ||
    (!filters.ports.isEmpty &&
      ((packet "src_port").safe_int rt (-1) ∈ filters.ports ||
        (packet "dst_port").safe_int rt (-1) ∈ filters.ports)) ||
    ((!filters.ip_types.isEmpty || !networks.isEmpty) &&
      (addressExcluded env filters networks (packet "src_ip") ||
        addressExcluded env filters networks (packet "dst_ip")))

/-- `_exclusion_filtered`: without a single criterion nothing is filtered. -/
def exclusion_filtered (gates : Gates) (packet : Packet) : Bool :=
  let filters := gates.exclusion_filters
  if filters.protocols.isEmpty && filters.ports.isEmpty && filters.ip_types.isEmpty &&
      filters.cidrs.isEmpty then false
  else packet_matches_exclusion_filter env packet filters gates.exclusion_networks

def detection_muted (gates : Gates) (packet : Packet) : Bool :=
  scope_muted env gates packet || exclusion_filtered env gates packet

def Admitted (gates : Gates) (packet : Packet) : Prop :=
  is_own_dashboard_traffic env gates packet = false ∧ whitelisted env gates packet = false

instance (gates : Gates) (packet : Packet) : Decidable (Admitted env gates packet) :=
  inferInstanceAs (Decidable (_ ∧ _))

end Sniff4Hound
