import Sniff4Hound.Detection.Monitors
import Sniff4Hound.Library.SlidingWindow
import Mathlib.Algebra.Order.Group.Int
import Mathlib.Data.List.Sort

/-!
# Stateful detectors

`anomaly.py`: the seven built-in detectors, the generic threshold detector and the engine
that runs them. A detector reads one packet at one time and gives the detail of its hit, if
any. The monotonic clock is read in nanoseconds, once for a packet.
-/

namespace Sniff4Hound

/-- `time.monotonic()` in nanoseconds; the rounding of its float is left out. -/
abbrev Ticks := Int

def seconds (n : Int) : Ticks := n * 1000000000

/-- The settings of the detectors; each is read as `max(1, ...)`. -/
structure Thresholds where
  ICMP_FLOOD_WINDOW_SECONDS : Nat := 5
  ICMP_FLOOD_THRESHOLD : Nat := 30
  ARP_SPOOF_COOLDOWN_SECONDS : Nat := 30
  PORT_SCAN_WINDOW_SECONDS : Nat := 10
  PORT_SCAN_DISTINCT_PORTS_THRESHOLD : Nat := 15
  SYN_FLOOD_WINDOW_SECONDS : Nat := 5
  SYN_FLOOD_THRESHOLD : Nat := 50
  BRUTE_FORCE_WINDOW_SECONDS : Nat := 30
  BRUTE_FORCE_THRESHOLD : Nat := 8
  DNS_QUERY_FLOOD_WINDOW_SECONDS : Nat := 10
  DNS_QUERY_FLOOD_THRESHOLD : Nat := 60
  DHCP_ROGUE_SERVER_COOLDOWN_SECONDS : Nat := 60
  at_least_one : ∀ setting ∈ [ICMP_FLOOD_WINDOW_SECONDS, ICMP_FLOOD_THRESHOLD,
    ARP_SPOOF_COOLDOWN_SECONDS, PORT_SCAN_WINDOW_SECONDS, PORT_SCAN_DISTINCT_PORTS_THRESHOLD,
    SYN_FLOOD_WINDOW_SECONDS, SYN_FLOOD_THRESHOLD, BRUTE_FORCE_WINDOW_SECONDS,
    BRUTE_FORCE_THRESHOLD, DNS_QUERY_FLOOD_WINDOW_SECONDS, DNS_QUERY_FLOOD_THRESHOLD,
    DHCP_ROGUE_SERVER_COOLDOWN_SECONDS], 1 ≤ setting := by decide

theorem defaults_at_least_one :
    ∀ setting ∈ [5, 30, 30, 10, 15, 5, 50, 30, 8, 10, 60, 60], 1 ≤ setting := by decide

/-! ## What the detectors read -/

/-- `packet.get(key) == name`. -/
def Packet.is (packet : Packet) (key name : String) : Bool := (packet key).eqv (.str name)

/-- `str(packet.get(key) or "").strip()`. -/
def Packet.stripped (rt : Runtime) (packet : Packet) (key : String) : String :=
  strip ((packet key).text rt)

def Packet.bareSyn (rt : Runtime) (packet : Packet) : Bool :=
  let flags := (packet "tcp_flags").text rt
  contains flags "SYN" && !contains flags "ACK"

/-- `last is not None and now - last < window`. -/
def cooling (last : Option Ticks) (now window : Ticks) : Bool :=
  match last with
  | none => false
  | some last => now - last < window

abbrev Events := Dict String (List Ticks)

def Events.record (events : Events) (window : Nat) (threshold : Nat) (now : Ticks)
    (key : String) : Events × Bool :=
  let (kept, fired) := SlidingWindow.record (seconds window) threshold (events.getList key) now
  (Dict.set events key kept, fired)

/-! ## The built-in detectors -/

structure ArpSpoofDetector where
  bindings : Dict String String := []
  last_alert : Dict String Ticks := []

def ArpSpoofDetector.evaluate (rt : Runtime) (cfg : Thresholds) (now : Ticks) (packet : Packet)
    (d : ArpSpoofDetector) : ArpSpoofDetector × Option String :=
  if !packet.is "proto" "arp" || !(packet "arp_opcode").eqv (.int 2) then (d, none)
  else
    let ip := packet.stripped rt "src_ip"
    let mac := rt.lower (packet.stripped rt "eth_src")
    if ip ∈ ["", "0.0.0.0"] ∨ mac ∈ ["", "ff:ff:ff:ff:ff:ff", "00:00:00:00:00:00"] then (d, none)
    else
      let bound := { d with bindings := Dict.set d.bindings ip mac }
      match d.bindings.lookup ip with
      | none => (bound, none)
      | some known =>
        if known = mac then (d, none)
        else if cooling (d.last_alert.lookup ip) now (seconds cfg.ARP_SPOOF_COOLDOWN_SECONDS) then
          (bound, none)
        else
          ({ bound with last_alert := Dict.set d.last_alert ip now },
            some (ip ++ " now claimed by " ++ mac ++ ", previously " ++ known))

/-- One of the detectors that count events of a source; `what` stands in the detail. -/
def floodDetail (key what : String) (threshold window : Nat) : String :=
  key ++ " sent " ++ toString threshold ++ "+ " ++ what ++ " within " ++ toString window ++ "s"

/-- `_SlidingWindowFloodDetector`, for packets that are admitted. -/
def floodEvaluate (rt : Runtime) (admitted : Bool) (what : String) (window threshold : Nat)
    (now : Ticks) (packet : Packet) (events : Events) : Events × Option String :=
  let key := packet.stripped rt "src_ip"
  if !admitted || key = "" then (events, none)
  else
    let (events, fired) := events.record window threshold now key
    (events, if fired then some (floodDetail key what threshold window) else none)

/-- `IcmpFloodDetector`. -/
def icmpFloodEvaluate (rt : Runtime) (cfg : Thresholds) (now : Ticks) (packet : Packet) :
    Events → Events × Option String :=
  floodEvaluate rt (packet.is "proto" "icmp" || packet.is "proto" "icmpv6") "ICMP packets"
    cfg.ICMP_FLOOD_WINDOW_SECONDS cfg.ICMP_FLOOD_THRESHOLD now packet

/-- `SynFloodDetector`. -/
def synFloodEvaluate (rt : Runtime) (cfg : Thresholds) (now : Ticks) (packet : Packet) :
    Events → Events × Option String :=
  floodEvaluate rt (packet.is "proto" "tcp" && packet.bareSyn rt) "bare TCP SYN packets"
    cfg.SYN_FLOOD_WINDOW_SECONDS cfg.SYN_FLOOD_THRESHOLD now packet

/-- What `DnsQueryFloodDetector` counts. -/
def countsAsQuery (packet : Packet) : Bool :=
  (packet.is "proto" "tcp" || packet.is "proto" "udp") && (packet "dst_port").eqv (.int 53)

/-- `DnsQueryFloodDetector`. -/
def dnsQueryFloodEvaluate (rt : Runtime) (cfg : Thresholds) (now : Ticks) (packet : Packet) :
    Events → Events × Option String :=
  floodEvaluate rt (countsAsQuery packet) "DNS queries" cfg.DNS_QUERY_FLOOD_WINDOW_SECONDS
    cfg.DNS_QUERY_FLOOD_THRESHOLD now packet

structure PortScanDetector where
  events : Dict String (List (Ticks × Value)) := []
  last_alert : Dict String Ticks := []

def PortScanDetector.evaluate (rt : Runtime) (cfg : Thresholds) (now : Ticks) (packet : Packet)
    (d : PortScanDetector) : PortScanDetector × Option String :=
  let src_ip := packet.stripped rt "src_ip"
  let dst_port := packet "dst_port"
  let admitted := (packet.is "proto" "tcp" && packet.bareSyn rt) || packet.is "proto" "udp"
  if !admitted || src_ip = "" || !dst_port.truthy then (d, none)
  else
    let window := seconds cfg.PORT_SCAN_WINDOW_SECONDS
    let kept := (d.events.getList src_ip ++ [(now, dst_port)]).dropWhile fun event =>
      decide (event.1 < now - window)
    let d := { d with events := Dict.set d.events src_ip kept }
    let distinct_ports := unique_ordered Value.eqv (kept.map Prod.snd)
    if distinct_ports.length < cfg.PORT_SCAN_DISTINCT_PORTS_THRESHOLD then (d, none)
    else if cooling (d.last_alert.lookup src_ip) now window then (d, none)
    else
      ({ d with last_alert := Dict.set d.last_alert src_ip now },
        some (src_ip ++ " touched " ++ toString distinct_ports.length ++ " distinct ports within " ++
          toString cfg.PORT_SCAN_WINDOW_SECONDS ++ "s"))

def LOGIN_PORTS : List Int := [21, 22, 23, 25, 110, 143, 993, 995, 1433, 3306, 3389, 5432, 5900]

structure CooledEvents where
  events : Events := []
  last_alert : Dict String Ticks := []

def CooledEvents.count (d : CooledEvents) (window : Ticks) (threshold : Nat) (now : Ticks)
    (key : String) : CooledEvents × Option Nat :=
  let kept := SlidingWindow.push window (d.events.getList key) now
  let d := { d with events := Dict.set d.events key kept }
  if kept.length < threshold || cooling (d.last_alert.lookup key) now window then (d, none)
  else ({ d with last_alert := Dict.set d.last_alert key now }, some kept.length)

/-- What `BruteForceLoginDetector` counts. -/
def countsAsLogin (rt : Runtime) (packet : Packet) : Bool :=
  packet.is "proto" "tcp" && packet.bareSyn rt &&
    LOGIN_PORTS.any fun port => (packet "dst_port").eqv (.int port)

/-- `BruteForceLoginDetector`. -/
def bruteForceEvaluate (rt : Runtime) (cfg : Thresholds) (now : Ticks) (packet : Packet)
    (d : CooledEvents) : CooledEvents × Option String :=
  let src_ip := packet.stripped rt "src_ip"
  let dst_ip := packet.stripped rt "dst_ip"
  if !countsAsLogin rt packet || src_ip = "" || dst_ip = "" then (d, none)
  else
    let service := dst_ip ++ ":" ++ (packet "dst_port").toText rt
    let (d, alert) := d.count (seconds cfg.BRUTE_FORCE_WINDOW_SECONDS) cfg.BRUTE_FORCE_THRESHOLD
      now (src_ip ++ "->" ++ service)
    (d, alert.map fun attempts => src_ip ++ " attempted " ++ toString attempts ++
      "+ connections to " ++ service ++ " within " ++ toString cfg.BRUTE_FORCE_WINDOW_SECONDS ++ "s")

structure DhcpRogueServerDetector where
  servers : List String := []
  last_alert : Option Ticks := none

/-- What `DhcpRogueServerDetector` takes for a lease handed out. -/
def handsOutLease (packet : Packet) : Bool :=
  packet.is "proto" "dhcp" &&
    ((packet "dhcp_msg_type").eqv (.int 2) || (packet "dhcp_msg_type").eqv (.int 5))

def DhcpRogueServerDetector.evaluate (rt : Runtime) (cfg : Thresholds) (now : Ticks)
    (packet : Packet) (d : DhcpRogueServerDetector) : DhcpRogueServerDetector × Option String :=
  let src_ip := packet.stripped rt "src_ip"
  if !handsOutLease packet || src_ip = "" then (d, none)
  else
    let d := { d with servers := if src_ip ∈ d.servers then d.servers else src_ip :: d.servers }
    if d.servers.length ≤ 1 ||
        cooling d.last_alert now (seconds cfg.DHCP_ROGUE_SERVER_COOLDOWN_SECONDS) then (d, none)
    else
      ({ d with last_alert := some now },
        some (toString d.servers.length ++ " distinct DHCP servers observed: " ++
          join ", " (d.servers.insertionSort (· ≤ ·))))

/-! ## The generic detector -/

def group_key (rt : Runtime) (packet : Packet) (spec : String) : String :=
  let src_ip := packet.stripped rt "src_ip"
  let dst_ip := packet.stripped rt "dst_ip"
  let dst_port := packet "dst_port"
  if spec = "dst_ip" then dst_ip
  else if spec = "src_ip+dst_port" then
    if src_ip ≠ "" ∧ dst_port.truthy then src_ip ++ ":" ++ dst_port.toText rt else ""
  else if spec = "dst_ip+dst_port" then
    if dst_ip ≠ "" ∧ dst_port.truthy then dst_ip ++ ":" ++ dst_port.toText rt else ""
  else if spec = "src_ip+dst_ip" then
    if src_ip ≠ "" ∧ dst_ip ≠ "" then src_ip ++ "->" ++ dst_ip else ""
  else src_ip

/-- `GenericThresholdDetector`. -/
def genericEvaluate (env : Env) (now : Ticks) (packet : Packet) (packet_text : String)
    (monitor : Monitor) (d : CooledEvents) : CooledEvents × Option String :=
  let rt := env.toRuntime
  let criteria := monitor.rule.criteria
  let window := criteria.window_seconds
  if criteria.count_threshold ≤ 0 || window ≤ 0 ||
      !rule_matches_packet env monitor.enabled monitor.rule packet packet_text then (d, none)
  else
    let key := group_key rt packet (if criteria.group_by = "" then "src_ip" else criteria.group_by)
    if key = "" then (d, none)
    else
      let (d, alert) := d.count (seconds window) criteria.count_threshold.toNat now key
      (d, alert.map fun found =>
        key ++ ": " ++ toString found ++ "+ matches within " ++ toString window ++ "s")

/-! ## The engine -/

/-- `monitors_by_id`, with its `id`. -/
structure MonitorMap where
  identity : Nat
  monitors : Dict String Monitor

structure AnomalyHit where
  monitor_id : String
  monitor_name : String
  tag : String
  label : String
  severity : String
  detail : String
deriving DecidableEq

structure AnomalyEngine where
  arp_spoof : ArpSpoofDetector := {}
  icmp_flood : Events := []
  port_scan : PortScanDetector := {}
  syn_flood : Events := []
  brute_force : CooledEvents := {}
  dns_query_flood : Events := []
  dhcp_rogue : DhcpRogueServerDetector := {}
  generic_detectors : Dict String CooledEvents := []
  generic_candidate_ids : List String := []
  generic_candidates_source : Option Nat := none

def FIXED_IDS : List String :=
  ["builtin-arp-spoof", "builtin-icmp-flood", "builtin-port-scan", "builtin-syn-flood",
    "builtin-brute-force-login", "builtin-dns-query-flood", "builtin-dhcp-rogue-server"]

def Monitor.stateful (rt : Runtime) (monitor : Monitor) : Bool :=
  rt.lower (strip monitor.mode) = "stateful"

def anomalyHit (id : String) (monitor : Monitor) (detail : String) : AnomalyHit where
  monitor_id := id
  monitor_name := monitor.name
  tag := if monitor.action.tag = "" then id else monitor.action.tag
  label := if monitor.action.label = "" then monitor.name else monitor.action.label
  severity := if monitor.action.severity = "" then "info" else monitor.action.severity
  detail := detail

def runFixed {σ : Type} (rt : Runtime) (map : MonitorMap) (id : String)
    (detector : σ → σ × Option String) (state : σ) : σ × List AnomalyHit :=
  match map.monitors.lookup id with
  | none => (state, [])
  | some monitor =>
    if !monitor.enabled || !monitor.stateful rt then (state, [])
    else
      let (state, detail) := detector state
      (state, (detail.map (anomalyHit id monitor)).toList)

def genericCandidates (rt : Runtime) (map : MonitorMap) : List String :=
  (map.monitors.filter fun entry => entry.1 ∉ FIXED_IDS && entry.2.stateful rt &&
    decide (0 < entry.2.rule.criteria.count_threshold)).map Prod.fst

def runGeneric (env : Env) (map : MonitorMap) (now : Ticks) (packet : Packet)
    (packet_text : String) (detectors : Dict String CooledEvents) (id : String) :
    Dict String CooledEvents × List AnomalyHit :=
  match map.monitors.lookup id with
  | none => (detectors, [])
  | some monitor =>
    if !monitor.enabled then (detectors, [])
    else
      let (state, detail) := genericEvaluate env now packet packet_text monitor
        ((detectors.lookup id).getD {})
      (Dict.set detectors id state, (detail.map (anomalyHit id monitor)).toList)

def runGenerics (env : Env) (map : MonitorMap) (now : Ticks) (packet : Packet)
    (packet_text : String) :
    List String → Dict String CooledEvents → Dict String CooledEvents × List AnomalyHit
  | [], detectors => (detectors, [])
  | id :: rest, detectors =>
    let (detectors, hits) := runGeneric env map now packet packet_text detectors id
    let (detectors, more) := runGenerics env map now packet packet_text rest detectors
    (detectors, hits ++ more)

/-- The part of `evaluate` for the built-in detectors. -/
def AnomalyEngine.evaluateFixed (rt : Runtime) (cfg : Thresholds) (engine : AnomalyEngine)
    (now : Ticks) (packet : Packet) (map : MonitorMap) : AnomalyEngine × List AnomalyHit :=
  let arp := runFixed rt map "builtin-arp-spoof"
    (ArpSpoofDetector.evaluate rt cfg now packet) engine.arp_spoof
  let icmp := runFixed rt map "builtin-icmp-flood"
    (icmpFloodEvaluate rt cfg now packet) engine.icmp_flood
  let scan := runFixed rt map "builtin-port-scan"
    (PortScanDetector.evaluate rt cfg now packet) engine.port_scan
  let syn := runFixed rt map "builtin-syn-flood"
    (synFloodEvaluate rt cfg now packet) engine.syn_flood
  let login := runFixed rt map "builtin-brute-force-login"
    (bruteForceEvaluate rt cfg now packet) engine.brute_force
  let dns := runFixed rt map "builtin-dns-query-flood"
    (dnsQueryFloodEvaluate rt cfg now packet) engine.dns_query_flood
  let dhcp := runFixed rt map "builtin-dhcp-rogue-server"
    (DhcpRogueServerDetector.evaluate rt cfg now packet) engine.dhcp_rogue
  ({ engine with
      arp_spoof := arp.1
      icmp_flood := icmp.1
      port_scan := scan.1
      syn_flood := syn.1
      brute_force := login.1
      dns_query_flood := dns.1
      dhcp_rogue := dhcp.1 },
    arp.2 ++ icmp.2 ++ scan.2 ++ syn.2 ++ login.2 ++ dns.2 ++ dhcp.2)

def AnomalyEngine.refreshCandidates (rt : Runtime) (engine : AnomalyEngine) (map : MonitorMap) :
    AnomalyEngine :=
  if engine.generic_candidates_source = some map.identity then engine
  else
    { engine with
      generic_candidate_ids := genericCandidates rt map
      generic_candidates_source := some map.identity }

def AnomalyEngine.evaluate (env : Env) (cfg : Thresholds) (engine : AnomalyEngine)
    (now : Ticks) (packet : Packet) (map : MonitorMap) : AnomalyEngine × List AnomalyHit :=
  let (engine, hits) := engine.evaluateFixed env.toRuntime cfg now packet map
  let engine := engine.refreshCandidates env.toRuntime map
  let (detectors, more) := runGenerics env map now packet (build_packet_text env packet)
    engine.generic_candidate_ids engine.generic_detectors
  ({ engine with generic_detectors := detectors }, hits ++ more)

end Sniff4Hound
